import TclHost.Text.Modified

/-!
Reading undoes every spelling that the interpreter may use. The forms that UTF-8 does not have are
never found inside or across the characters around them.
-/

namespace TclHost.Text

inductive Utf8Form (code : Nat) : List UInt8 → Prop
  | one (first : UInt8) (bound : code < 0x80) (lead : first.toNat = code) : Utf8Form code [first]
  | two (first second : UInt8) (lower : 0x80 ≤ code) (upper : code < 0x800)
      (lead : first.toNat = 0xC0 + code / 64) (last : second.toNat = 0x80 + code % 64) :
      Utf8Form code [first, second]
  | three (first second third : UInt8) (lower : 0x800 ≤ code) (upper : code < 0x10000)
      (valid : code < 0xD800 ∨ 0xDFFF < code) (lead : first.toNat = 0xE0 + code / 4096)
      (middle : second.toNat = 0x80 + code / 64 % 64) (last : third.toNat = 0x80 + code % 64) :
      Utf8Form code [first, second, third]
  | four (first second third fourth : UInt8) (lower : 0x10000 ≤ code) (upper : code < 0x110000)
      (lead : first.toNat = 0xF0 + code / 262144) (middle : second.toNat = 0x80 + code / 4096 % 64)
      (later : third.toNat = 0x80 + code / 64 % 64) (last : fourth.toNat = 0x80 + code % 64) :
      Utf8Form code [first, second, third, fourth]

theorem char_range (char : Char) :
    char.toNat < 0xD800 ∨ 0xDFFF < char.toNat ∧ char.toNat < 0x110000 :=
  char.valid

theorem utf8EncodeChar_form (char : Char) :
    Utf8Form char.toNat (String.utf8EncodeChar char) := by
  have valid := char_range char
  have byte : ∀ value, value < 0x100 → (UInt8.ofNat value).toNat = value :=
    fun value bound => UInt8.toNat_ofNat_of_lt' bound
  unfold String.utf8EncodeChar
  simp only [show char.val.toNat = char.toNat from rfl]
  split
  · exact .one _ (by omega) (byte _ (by omega))
  · split
    · refine .two _ _ (by omega) (by omega) ?_ ?_
      all_goals
        rw [byte _ (by omega)]
        omega
    · split
      · refine .three _ _ _ (by omega) (by omega) (by omega) ?_ ?_ ?_
        all_goals
          rw [byte _ (by omega)]
          omega
      · refine .four _ _ _ _ (by omega) (by omega) ?_ ?_ ?_ ?_
        all_goals
          rw [byte _ (by omega)]
          omega

theorem Lead.ofByte?_two {byte : UInt8} (lower : 0xC2 ≤ byte.toNat) (upper : byte.toNat ≤ 0xDF) :
    ofByte? byte = some ⟨0x80, 0xBF, 0, byte.toNat % 32⟩ := by
  have first : (0xC2 ≤ byte && byte ≤ 0xDF) = true := by
    simp [UInt8.le_iff_toNat_le, lower, upper]
  rw [ofByte?, if_pos first]

theorem Lead.ofByte?_three {byte : UInt8} (lower : 0xE0 ≤ byte.toNat) (upper : byte.toNat ≤ 0xEF) :
    ofByte? byte = some ⟨if byte.toNat = 0xE0 then 0xA0 else 0x80,
      if byte.toNat = 0xED then 0x9F else 0xBF, 1, byte.toNat % 16⟩ := by
  unfold ofByte?
  simp only [UInt8.le_iff_toNat_le, ← UInt8.toNat_inj, Bool.and_eq_true, decide_eq_true_eq]
  simp
  grind

theorem Lead.ofByte?_four {byte : UInt8} (lower : 0xF0 ≤ byte.toNat) (upper : byte.toNat ≤ 0xF4) :
    ofByte? byte = some ⟨if byte.toNat = 0xF0 then 0x90 else 0x80,
      if byte.toNat = 0xF4 then 0x8F else 0xBF, 2, byte.toNat % 8⟩ := by
  unfold ofByte?
  simp only [UInt8.le_iff_toNat_le, ← UInt8.toNat_inj, Bool.and_eq_true, decide_eq_true_eq]
  simp
  grind

theorem isContinuation_iff (byte : UInt8) :
    isContinuation byte = true ↔ 0x80 ≤ byte.toNat ∧ byte.toNat ≤ 0xBF := by
  simp [isContinuation, UInt8.le_iff_toNat_le]

theorem not_short {byte : UInt8} (long : 0x80 ≤ byte.toNat) : ¬ byte < 0x80 := by
  rw [UInt8.lt_iff_toNat_lt]
  exact Nat.not_lt.mpr long

/-- The byte after the lead `E0` or `ED` is held to a smaller range, which leaves out overlong
forms and surrogates. -/
theorem second_of_three {code : Nat} {first second : UInt8} (lower : 0x800 ≤ code)
    (valid : code < 0xD800 ∨ 0xDFFF < code) (lead : first.toNat = 0xE0 + code / 4096)
    (middle : second.toNat = 0x80 + code / 64 % 64) :
    (if first.toNat = 0xE0 then 0xA0 else 0x80 : UInt8) ≤ second ∧
      second ≤ (if first.toNat = 0xED then 0x9F else 0xBF : UInt8) := by
  simp only [UInt8.le_iff_toNat_le, middle]
  constructor
  · split
    · simp
      omega
    · simp
  · split
    · simp
      omega
    · simp
      omega

/-- After `F0` it leaves out overlong forms, after `F4` code points beyond U+10FFFF. -/
theorem second_of_four {code : Nat} {first second : UInt8} (lower : 0x10000 ≤ code)
    (upper : code < 0x110000) (lead : first.toNat = 0xF0 + code / 262144)
    (middle : second.toNat = 0x80 + code / 4096 % 64) :
    (if first.toNat = 0xF0 then 0x90 else 0x80 : UInt8) ≤ second ∧
      second ≤ (if first.toNat = 0xF4 then 0x8F else 0xBF : UInt8) := by
  simp only [UInt8.le_iff_toNat_le, middle]
  constructor
  · split
    · simp
      omega
    · simp
  · split
    · simp
      omega
    · simp
      omega

/-- Whatever follows a character, it is read as that character. -/
theorem Utf8Form.readChar_append {code : Nat} {bytes : List UInt8} (form : Utf8Form code bytes) :
    ∃ first rest, bytes = first :: rest ∧
      ∀ more, readChar first (rest ++ more) = (Char.ofNat code, rest.length) := by
  cases form with
  | one first bound lead =>
      refine ⟨first, [], rfl, fun more => ?_⟩
      have short : first < 0x80 := by
        rw [UInt8.lt_iff_toNat_lt, lead]
        exact bound
      simp [readChar, short, lead]
  | two first second lower upper lead last =>
      refine ⟨first, [second], rfl, fun more => ?_⟩
      have leads : Lead.ofByte? first = some ⟨0x80, 0xBF, 0, first.toNat % 32⟩ :=
        Lead.ofByte?_two (by omega) (by omega)
      have within : (0x80 ≤ second && second ≤ 0xBF) = true := by
        simp [UInt8.le_iff_toNat_le, last]
        omega
      have value : first.toNat % 32 * 64 + second.toNat % 64 = code := by omega
      simp [readChar, not_short (by omega : 0x80 ≤ first.toNat), leads, within, readContinuation,
        value]
  | three first second third lower upper valid lead middle last =>
      refine ⟨first, [second, third], rfl, fun more => ?_⟩
      have leads : Lead.ofByte? first = some ⟨if first.toNat = 0xE0 then 0xA0 else 0x80,
          if first.toNat = 0xED then 0x9F else 0xBF, 1, first.toNat % 16⟩ :=
        Lead.ofByte?_three (by omega) (by omega)
      obtain ⟨above, below⟩ := second_of_three lower valid lead middle
      have continues : isContinuation third = true := (isContinuation_iff third).mpr (by omega)
      have value : (first.toNat % 16 * 64 + second.toNat % 64) * 64 + third.toNat % 64 = code := by
        omega
      simp [readChar, not_short (by omega : 0x80 ≤ first.toNat), leads, above, below,
        readContinuation, continues, value]
  | four first second third fourth lower upper lead middle later last =>
      refine ⟨first, [second, third, fourth], rfl, fun more => ?_⟩
      have leads : Lead.ofByte? first = some ⟨if first.toNat = 0xF0 then 0x90 else 0x80,
          if first.toNat = 0xF4 then 0x8F else 0xBF, 2, first.toNat % 8⟩ :=
        Lead.ofByte?_four (by omega) (by omega)
      obtain ⟨above, below⟩ := second_of_four lower upper lead middle
      have continues : isContinuation third = true := (isContinuation_iff third).mpr (by omega)
      have ends : isContinuation fourth = true := (isContinuation_iff fourth).mpr (by omega)
      have value : ((first.toNat % 8 * 64 + second.toNat % 64) * 64 + third.toNat % 64) * 64 +
          fourth.toNat % 64 = code := by
        omega
      simp [readChar, not_short (by omega : 0x80 ≤ first.toNat), leads, above, below,
        readContinuation, continues, ends, value]

theorem decodeLossy_utf8EncodeChar (char : Char) (more : List UInt8) :
    decodeLossy (String.utf8EncodeChar char ++ more) = char :: decodeLossy more := by
  obtain ⟨first, rest, bytes, read⟩ := (utf8EncodeChar_form char).readChar_append
  rw [bytes, List.cons_append, decodeLossy, scan_cons]
  simp [read, decodeLossy]

theorem decodeLossy_flatMap_utf8EncodeChar (chars : List Char) :
    decodeLossy (chars.flatMap String.utf8EncodeChar) = chars := by
  induction chars with
  | nil => rfl
  | cons char rest ih => rw [List.flatMap_cons, decodeLossy_utf8EncodeChar, ih]

/-! Respelling. -/

/-- None of the interpreter's own forms begins in these bytes, whatever follows them. -/
def Inert : List UInt8 → Prop
  | [] => True
  | first :: rest => first ≠ 0xC0 ∧
      (first = 0xED → ∃ second others, rest = second :: others ∧ second < 0xA0) ∧ Inert rest

theorem respell_cons (first : UInt8) (rest : List UInt8) :
    respell (first :: rest) =
      if isNulPair first rest then 0x00 :: respell (rest.drop 1)
      else
        match readPair? (first :: rest) with
        | some char => String.utf8EncodeChar char ++ respell (rest.drop 5)
        | none => first :: respell rest := by
  rw [respell, scan_cons]
  split
  · rfl
  · cases readPair? (first :: rest) <;> rfl

theorem readSurrogate?_eq_none {low high first : UInt8} {rest : List UInt8}
    (below : first = 0xED → ∀ second others, rest = second :: others → second < low) :
    readSurrogate? low high (first :: rest) = none := by
  cases rest with
  | nil => rfl
  | cons second others =>
      cases others with
      | nil => rfl
      | cons third tail =>
          refine if_neg fun fits => ?_
          simp only [Bool.and_eq_true, decide_eq_true_eq] at fits
          obtain ⟨⟨⟨leads, above⟩, _⟩, _⟩ := fits
          exact UInt8.not_le.mpr (below leads second _ rfl) above

theorem Inert.respell_append {bytes : List UInt8} (inert : Inert bytes) (more : List UInt8) :
    respell (bytes ++ more) = bytes ++ respell more := by
  induction bytes with
  | nil => rfl
  | cons first rest ih =>
      obtain ⟨notNul, notPair, inertRest⟩ := inert
      have single : isNulPair first (rest ++ more) = false := by simp [isNulPair, notNul]
      have unpaired : readPair? (first :: (rest ++ more)) = none := by
        have unread : readSurrogate? 0xA0 0xAF (first :: (rest ++ more)) = none := by
          refine readSurrogate?_eq_none fun same second others split => ?_
          obtain ⟨actual, tail, rfl, below⟩ := notPair same
          rw [List.cons_append, List.cons.injEq] at split
          exact split.1 ▸ below
        rw [readPair?, unread]
      rw [List.cons_append, respell_cons, single, unpaired, ih inertRest]
      rfl

/-- Only an ASCII character is written with an ASCII byte. -/
theorem Utf8Form.ascii_of_mem {code : Nat} {bytes : List UInt8} (form : Utf8Form code bytes)
    {byte : UInt8} (member : byte ∈ bytes) (ascii : byte.toNat < 0x80) : code = byte.toNat := by
  cases form with
  | one first bound lead => exact List.mem_singleton.mp member ▸ lead.symm
  | two first second lower upper lead last =>
      simp only [List.mem_cons, List.not_mem_nil, or_false] at member
      rcases member with rfl | rfl <;> omega
  | three first second third lower upper valid lead middle last =>
      simp only [List.mem_cons, List.not_mem_nil, or_false] at member
      rcases member with rfl | rfl | rfl <;> omega
  | four first second third fourth lower upper lead middle later last =>
      simp only [List.mem_cons, List.not_mem_nil, or_false] at member
      rcases member with rfl | rfl | rfl | rfl <;> omega

theorem Utf8Form.zero_not_mem {code : Nat} {bytes : List UInt8} (form : Utf8Form code bytes)
    (nonzero : code ≠ 0) : 0 ∉ bytes := fun member =>
  nonzero (form.ascii_of_mem member (by decide))

theorem ne_of_toNat_ne {byte value : UInt8} (different : byte.toNat ≠ value.toNat) :
    byte ≠ value :=
  fun same => different (congrArg UInt8.toNat same)

theorem inert_of_lt {bytes : List UInt8} (below : ∀ byte ∈ bytes, byte.toNat < 0xC0) :
    Inert bytes := by
  induction bytes with
  | nil => trivial
  | cons first rest ih =>
      have bound := below first (by simp)
      have notNul : first ≠ 0xC0 := ne_of_toNat_ne (Nat.ne_of_lt bound)
      have notPair : first ≠ 0xED := ne_of_toNat_ne (Nat.ne_of_lt (Nat.lt_trans bound (by decide)))
      exact ⟨notNul, fun same => absurd same notPair,
        ih fun byte member => below byte (by simp [member])⟩

/-- Continuation bytes begin nothing, no character begins with `C0`, and those that begin with `ED`
go on below the surrogates. -/
theorem Utf8Form.inert {code : Nat} {bytes : List UInt8} (form : Utf8Form code bytes) :
    Inert bytes := by
  cases form with
  | one first bound lead =>
      refine inert_of_lt fun byte member => ?_
      rw [List.mem_singleton.mp member]
      omega
  | two first second lower upper lead last =>
      have notNul : first ≠ 0xC0 := ne_of_toNat_ne (by simp [lead]; omega)
      have notPair : first ≠ 0xED := ne_of_toNat_ne (by simp [lead]; omega)
      refine ⟨notNul, fun same => absurd same notPair, inert_of_lt ?_⟩
      simp [last]
      omega
  | three first second third lower upper valid lead middle last =>
      have notNul : first ≠ 0xC0 := ne_of_toNat_ne (by simp [lead]; omega)
      refine ⟨notNul, fun same => ⟨second, [third], rfl, ?_⟩, inert_of_lt ?_⟩
      · have value : first.toNat = 0xED := congrArg UInt8.toNat same
        -- A surrogate is no character, so the second byte stays below the range of surrogates.
        have leads : code / 4096 = 13 := by omega
        rw [UInt8.lt_iff_toNat_lt, middle]
        change 0x80 + code / 64 % 64 < 0xA0
        omega
      · simp [middle, last]
        omega
  | four first second third fourth lower upper lead middle later last =>
      have notNul : first ≠ 0xC0 := ne_of_toNat_ne (by simp [lead]; omega)
      have notPair : first ≠ 0xED := ne_of_toNat_ne (by simp [lead]; omega)
      refine ⟨notNul, fun same => absurd same notPair, inert_of_lt ?_⟩
      simp [middle, later, last]
      omega

theorem respell_of_not_needed {bytes : List UInt8} (plain : needsRespelling bytes = false) :
    respell bytes = bytes := by
  have inert : Inert bytes := by
    induction bytes with
    | nil => trivial
    | cons first rest ih =>
        simp only [needsRespelling, List.any_cons, Bool.or_eq_false_iff, decide_eq_false_iff_not]
          at plain
        obtain ⟨⟨notNul, notPair⟩, others⟩ := plain
        exact ⟨notNul, fun same => absurd same notPair, ih others⟩
  simpa [respell] using inert.respell_append []

theorem decode_eq (bytes : List UInt8) :
    decode bytes = String.ofList (decodeLossy (respell bytes)) := by
  unfold decode
  split
  · rfl
  · rename_i plain
    rw [respell_of_not_needed (Bool.eq_false_iff.mpr plain)]

/-! The interpreter's spellings. -/

def surrogateForm (unit : Nat) : List UInt8 :=
  [UInt8.ofNat (0xE0 + unit / 4096), UInt8.ofNat (0x80 + unit / 64 % 64),
    UInt8.ofNat (0x80 + unit % 64)]

def pairForm (char : Char) : List UInt8 :=
  surrogateForm (0xD800 + (char.toNat - 0x10000) / 1024) ++
    surrogateForm (0xDC00 + (char.toNat - 0x10000) % 1024)

inductive Form where
  | utf8
  | own
  deriving DecidableEq, Repr

def spell (char : Char) : Form → List UInt8
  | .utf8 => String.utf8EncodeChar char
  | .own =>
      if char = '\x00' then [0xC0, 0x80]
      else if 0x10000 ≤ char.toNat then pairForm char
      else String.utf8EncodeChar char

theorem surrogateForm_eq {unit : Nat} (lower : 0xD800 ≤ unit) (upper : unit < 0xE000) :
    surrogateForm unit = [0xED, UInt8.ofNat (0x80 + unit / 64 % 64),
      UInt8.ofNat (0x80 + unit % 64)] := by
  have leads : unit / 4096 = 13 := by omega
  rw [surrogateForm, leads]
  rfl

theorem readSurrogate?_surrogateForm {unit : Nat} {low high : UInt8} (lower : 0xD800 ≤ unit)
    (upper : unit < 0xE000) (above : low.toNat ≤ 0x80 + unit / 64 % 64)
    (below : 0x80 + unit / 64 % 64 ≤ high.toNat) (more : List UInt8) :
    readSurrogate? low high (surrogateForm unit ++ more) = some unit := by
  have byte : ∀ value, value < 0x100 → (UInt8.ofNat value).toNat = value :=
    fun value bound => UInt8.toNat_ofNat_of_lt' bound
  have second := byte (0x80 + unit / 64 % 64) (by omega)
  have third := byte (0x80 + unit % 64) (by omega)
  have continues : isContinuation (UInt8.ofNat (0x80 + unit % 64)) = true :=
    (isContinuation_iff _).mpr (by omega)
  have from_low : low ≤ UInt8.ofNat (0x80 + unit / 64 % 64) := by
    rw [UInt8.le_iff_toNat_le, second]
    exact above
  have to_high : UInt8.ofNat (0x80 + unit / 64 % 64) ≤ high := by
    rw [UInt8.le_iff_toNat_le, second]
    exact below
  have value : 0xD000 + (0x80 + unit / 64 % 64) % 64 * 64 + (0x80 + unit % 64) % 64 = unit := by
    omega
  rw [surrogateForm_eq lower upper]
  simp only [List.cons_append, List.nil_append, readSurrogate?]
  rw [if_pos (by simp only [decide_true, from_low, to_high, continues, Bool.and_self]), second,
    third, value]

theorem readPair?_pairForm {char : Char} (supplementary : 0x10000 ≤ char.toNat)
    (more : List UInt8) : readPair? (pairForm char ++ more) = some char := by
  have range := char_range char
  generalize offsetEq : char.toNat - 0x10000 = offset
  have high : readSurrogate? 0xA0 0xAF (surrogateForm (0xD800 + offset / 1024) ++
      (surrogateForm (0xDC00 + offset % 1024) ++ more)) = some (0xD800 + offset / 1024) := by
    refine readSurrogate?_surrogateForm (by omega) (by omega) ?_ ?_ _
    · change 0xA0 ≤ _
      omega
    · change _ ≤ 0xAF
      omega
  have low : readSurrogate? 0xB0 0xBF (surrogateForm (0xDC00 + offset % 1024) ++ more) =
      some (0xDC00 + offset % 1024) := by
    refine readSurrogate?_surrogateForm (by omega) (by omega) ?_ ?_ _
    · change 0xB0 ≤ _
      omega
    · change _ ≤ 0xBF
      omega
  have behind : (surrogateForm (0xD800 + offset / 1024) ++
      (surrogateForm (0xDC00 + offset % 1024) ++ more)).drop 3 =
        surrogateForm (0xDC00 + offset % 1024) ++ more := rfl
  have value : 0x10000 + (0xD800 + offset / 1024 - 0xD800) * 1024 +
      (0xDC00 + offset % 1024 - 0xDC00) = char.toNat := by
    omega
  rw [pairForm, offsetEq, List.append_assoc, readPair?, behind, high, low]
  simp only [value, Char.ofNat_toNat]

theorem pairForm_eq_cons {char : Char} (supplementary : 0x10000 ≤ char.toNat) :
    ∃ rest, pairForm char = 0xED :: rest ∧ ∀ more, (rest ++ more).drop 5 = more := by
  have range := char_range char
  rw [pairForm, surrogateForm_eq (by omega) (by omega)]
  exact ⟨_, rfl, fun more => rfl⟩

/-- Each spelling of a character is respelled as UTF-8 writes it, whatever follows. -/
theorem respell_spell (char : Char) (form : Form) (more : List UInt8) :
    respell (spell char form ++ more) = String.utf8EncodeChar char ++ respell more := by
  have standard : respell (String.utf8EncodeChar char ++ more) =
      String.utf8EncodeChar char ++ respell more :=
    (utf8EncodeChar_form char).inert.respell_append more
  cases form with
  | utf8 => exact standard
  | own =>
      rw [spell]
      split
      · rename_i nul
        subst nul
        exact respell_cons 0xC0 (0x80 :: more)
      · split
        · rename_i supplementary
          have pair := readPair?_pairForm supplementary more
          obtain ⟨rest, bytes, behind⟩ := pairForm_eq_cons supplementary
          rw [bytes, List.cons_append] at pair ⊢
          rw [respell_cons, pair, behind more]
          rfl
        · exact standard

theorem decode_flatMap_spell (pieces : List (Char × Form)) :
    decode (pieces.flatMap fun piece => spell piece.1 piece.2) =
      String.ofList (pieces.map Prod.fst) := by
  have respelled : respell (pieces.flatMap fun piece => spell piece.1 piece.2) =
      (pieces.map Prod.fst).flatMap String.utf8EncodeChar := by
    induction pieces with
    | nil => rfl
    | cons piece rest ih =>
        rw [List.flatMap_cons, respell_spell, ih]
        rfl
  rw [decode_eq, respelled, decodeLossy_flatMap_utf8EncodeChar]

def encodedForm (char : Char) : Form :=
  if char = '\x00' then .own else .utf8

theorem encode_eq_spell (text : String) :
    encode text = (text.toList.map fun char => (char, encodedForm char)).flatMap
      fun piece => spell piece.1 piece.2 := by
  have each : ∀ char, encodeChar char = spell char (encodedForm char) := by
    intro char
    by_cases nul : char = '\x00' <;> simp [encodeChar, encodedForm, spell, nul]
  rw [encode, List.flatMap_map, funext each]

theorem decode_encode (text : String) : decode (encode text) = text := by
  rw [encode_eq_spell, decode_flatMap_spell, List.map_map]
  simp [Function.comp_def]

theorem zero_not_mem_encode (text : String) : 0 ∉ encode text := by
  intro member
  rw [encode, List.mem_flatMap] at member
  obtain ⟨char, _, inChar⟩ := member
  rw [encodeChar] at inChar
  split at inChar
  · simp at inChar
  · rename_i different
    have nonzero : char.toNat ≠ 0 := fun same => different (Char.toNat_inj.mp same)
    exact (utf8EncodeChar_form char).zero_not_mem nonzero inChar

/-- The encoder replaces the zero bytes of UTF-8 and nothing else. -/
theorem encode_eq_replaceZeros (text : String) :
    encode text = (text.toList.flatMap String.utf8EncodeChar).flatMap fun byte =>
      if byte = 0 then [0xC0, 0x80] else [byte] := by
  have each : ∀ char, encodeChar char = (String.utf8EncodeChar char).flatMap fun byte =>
      if byte = 0 then [0xC0, 0x80] else [byte] := by
    intro char
    rw [encodeChar]
    split
    · rename_i nul
      subst nul
      rfl
    · rename_i different
      have nonzero : char.toNat ≠ 0 := fun same => different (Char.toNat_inj.mp same)
      have absent := (utf8EncodeChar_form char).zero_not_mem nonzero
      generalize String.utf8EncodeChar char = bytes at absent ⊢
      induction bytes with
      | nil => rfl
      | cons first rest ih =>
          rw [List.mem_cons, not_or] at absent
          rw [List.flatMap_cons, ← ih absent.2, if_neg (Ne.symm absent.1)]
          rfl
  rw [encode, List.flatMap_assoc, funext each]

theorem encode_injective : Function.Injective encode :=
  Function.LeftInverse.injective decode_encode

/-- Whichever form is chosen for each character, and for the encoder's own choice in particular. -/
theorem decode_undoes_spelling :
    (∀ pieces : List (Char × Form), decode (pieces.flatMap fun piece => spell piece.1 piece.2) =
        String.ofList (pieces.map Prod.fst)) ∧
      (∀ text, decode (encode text) = text) ∧
      Function.Injective encode ∧ ∀ text, 0 ∉ encode text :=
  ⟨decode_flatMap_spell, decode_encode, encode_injective, zero_not_mem_encode⟩

end TclHost.Text
