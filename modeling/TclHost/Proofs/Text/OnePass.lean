import TclHost.Proofs.Text.Malformed

/-!
Respelling the bytes and reading the result without failing comes to one pass over them: an own
form of the interpreter, a character or a malformed run at a time.
-/

namespace TclHost.Text

inductive OwnForm : List UInt8 → Char → Prop
  | nul : OwnForm [0xC0, 0x80] '\x00'
  | pair (high highLast low lowLast : UInt8) (char : Char)
      (leads : 0xA0 ≤ high ∧ high ≤ 0xAF) (leadsOn : 0x80 ≤ highLast ∧ highLast ≤ 0xBF)
      (trails : 0xB0 ≤ low ∧ low ≤ 0xBF) (trailsOn : 0x80 ≤ lowLast ∧ lowLast ≤ 0xBF)
      (value : char.toNat = 0x10000 +
        ((high.toNat - 0xA0) * 64 + (highLast.toNat - 0x80)) * 1024 +
        ((low.toNat - 0xB0) * 64 + (lowLast.toNat - 0x80))) :
      OwnForm [0xED, high, highLast, 0xED, low, lowLast] char

def Unowned (bytes : List UInt8) : Prop :=
  ∀ form char, OwnForm form char → ¬ form <+: bytes

/-- What a reader that goes from left to right once makes of the bytes. At each position it prefers
an own form to a character, and gives up a malformed run only where there is neither. -/
inductive OnePass : List UInt8 → List Char → Prop
  | done : OnePass [] []
  | own {form rest : List UInt8} {char : Char} {chars : List Char} (owned : OwnForm form char)
      (later : OnePass rest chars) : OnePass (form ++ rest) (char :: chars)
  | character {rest : List UInt8} {char : Char} {chars : List Char}
      (unowned : Unowned (String.utf8EncodeChar char ++ rest)) (later : OnePass rest chars) :
      OnePass (String.utf8EncodeChar char ++ rest) (char :: chars)
  | malformed {run rest : List UInt8} {chars : List Char} (unowned : Unowned (run ++ rest))
      (unread : MalformedRun run rest) (later : OnePass rest chars) :
      OnePass (run ++ rest) (replacement :: chars)

/-! The own forms are what the code looks for. -/

theorem readSurrogate?_eq_some_iff {low high : UInt8} {bytes : List UInt8} {unit : Nat} :
    readSurrogate? low high bytes = some unit ↔
      ∃ second third rest, bytes = 0xED :: second :: third :: rest ∧ low ≤ second ∧
        second ≤ high ∧ isContinuation third = true ∧
        unit = 0xD000 + second.toNat % 64 * 64 + third.toNat % 64 := by
  constructor
  · intro read
    match bytes with
    | [] => simp [readSurrogate?] at read
    | [_] => simp [readSurrogate?] at read
    | [_, _] => simp [readSurrogate?] at read
    | first :: second :: third :: rest =>
        simp only [readSurrogate?] at read
        split at read
        · rename_i fits
          simp only [Bool.and_eq_true, decide_eq_true_eq] at fits
          obtain ⟨⟨⟨rfl, above⟩, below⟩, continues⟩ := fits
          exact ⟨second, third, rest, rfl, above, below, continues, (Option.some.inj read).symm⟩
        · contradiction
  · rintro ⟨second, third, rest, rfl, above, below, continues, rfl⟩
    simp [readSurrogate?, above, below, continues]

theorem readSurrogate?_high {bytes : List UInt8} {unit : Nat}
    (read : readSurrogate? 0xA0 0xAF bytes = some unit) : 0xD800 ≤ unit ∧ unit < 0xDC00 := by
  obtain ⟨second, third, rest, rfl, above, below, _, rfl⟩ := readSurrogate?_eq_some_iff.mp read
  simp only [UInt8.le_iff_toNat_le, UInt8.reduceToNat] at above below
  omega

theorem readSurrogate?_low {bytes : List UInt8} {unit : Nat}
    (read : readSurrogate? 0xB0 0xBF bytes = some unit) : 0xDC00 ≤ unit ∧ unit < 0xE000 := by
  obtain ⟨second, third, rest, rfl, above, below, _, rfl⟩ := readSurrogate?_eq_some_iff.mp read
  simp only [UInt8.le_iff_toNat_le, UInt8.reduceToNat] at above below
  omega

theorem combined_valid {high low : Nat} (leads : 0xD800 ≤ high ∧ high < 0xDC00)
    (trails : 0xDC00 ≤ low ∧ low < 0xE000) :
    (0x10000 + (high - 0xD800) * 1024 + (low - 0xDC00)).isValidChar := by
  unfold Nat.isValidChar
  omega

theorem isNulPair_iff {first : UInt8} {rest : List UInt8} :
    isNulPair first rest = true ↔ ∃ more, first :: rest = [0xC0, 0x80] ++ more := by
  cases rest <;> simp [isNulPair]

/-- A pair is found exactly where an own form of six bytes stands. -/
theorem readPair?_eq_some_iff {bytes : List UInt8} {char : Char} :
    readPair? bytes = some char ↔
      ∃ form rest, bytes = form ++ rest ∧ form.length = 6 ∧ OwnForm form char := by
  constructor
  · intro read
    unfold readPair? at read
    split at read
    · rename_i high low foundHigh foundLow
      have valid := combined_valid (readSurrogate?_high foundHigh) (readSurrogate?_low foundLow)
      obtain ⟨second, third, rest, rfl, above, below, continues, rfl⟩ :=
        readSurrogate?_eq_some_iff.mp foundHigh
      obtain ⟨fifth, sixth, rest, later, from_low, to_high, ends, rfl⟩ :=
        readSurrogate?_eq_some_iff.mp foundLow
      simp only [List.drop_succ_cons, List.drop_zero] at later
      subst later
      simp only [isContinuation, Bool.and_eq_true, decide_eq_true_eq] at continues ends
      refine ⟨[0xED, second, third, 0xED, fifth, sixth], rest, rfl, rfl,
        .pair _ _ _ _ _ ⟨above, below⟩ continues ⟨from_low, to_high⟩ ends ?_⟩
      simp only [UInt8.le_iff_toNat_le, UInt8.reduceToNat] at above below continues
      simp only [UInt8.le_iff_toNat_le, UInt8.reduceToNat] at from_low to_high ends
      rw [← Option.some.inj read, toNat_ofNat valid]
      omega
    · contradiction
  · rintro ⟨form, rest, rfl, size, owned⟩
    cases owned with
    | nul => simp at size
    | pair high highLast low lowLast char leads leadsOn trails trailsOn value =>
        have first : readSurrogate? 0xA0 0xAF ([0xED, high, highLast, 0xED, low, lowLast] ++ rest) =
            some (0xD000 + high.toNat % 64 * 64 + highLast.toNat % 64) :=
          readSurrogate?_eq_some_iff.mpr
            ⟨high, highLast, _, rfl, leads.1, leads.2, by simp [isContinuation, leadsOn], rfl⟩
        have second : readSurrogate? 0xB0 0xBF
            (([0xED, high, highLast, 0xED, low, lowLast] ++ rest).drop 3) =
            some (0xD000 + low.toNat % 64 * 64 + lowLast.toNat % 64) :=
          readSurrogate?_eq_some_iff.mpr
            ⟨low, lowLast, rest, rfl, trails.1, trails.2, by simp [isContinuation, trailsOn], rfl⟩
        rw [readPair?, first, second]
        simp only [UInt8.le_iff_toNat_le, UInt8.reduceToNat] at leads leadsOn trails trailsOn
        have combined : 0x10000 +
            (0xD000 + high.toNat % 64 * 64 + highLast.toNat % 64 - 0xD800) * 1024 +
            (0xD000 + low.toNat % 64 * 64 + lowLast.toNat % 64 - 0xDC00) = char.toNat := by
          omega
        simp only [combined, Char.ofNat_toNat]

theorem OwnForm.readPair?_append {form : List UInt8} {char : Char} (owned : OwnForm form char)
    (more : List UInt8) (long : form.length = 6) : readPair? (form ++ more) = some char :=
  readPair?_eq_some_iff.mpr ⟨form, more, rfl, long, owned⟩

/-- An own form is respelled as the character it stands for, whatever follows it. -/
theorem OwnForm.respell_append {form : List UInt8} {char : Char} (owned : OwnForm form char)
    (more : List UInt8) : respell (form ++ more) = String.utf8EncodeChar char ++ respell more := by
  have read := owned.readPair?_append more
  cases owned with
  | nul => exact respell_cons 0xC0 (0x80 :: more)
  | pair =>
      have pair := read rfl
      simp only [List.cons_append, List.nil_append] at pair ⊢
      rw [respell_cons, pair]
      rfl

theorem OwnForm.decodeOnePass_append {form : List UInt8} {char : Char} (owned : OwnForm form char)
    (more : List UInt8) : decodeOnePass (form ++ more) = char :: decodeOnePass more := by
  have read := owned.readPair?_append more
  cases owned with
  | nul => exact scan_cons _ 0xC0 (0x80 :: more)
  | pair =>
      have pair := read rfl
      simp only [List.cons_append, List.nil_append] at pair ⊢
      rw [decodeOnePass, scan_cons, pair]
      rfl

section Unowned

variable {first : UInt8} {rest : List UInt8} (unowned : Unowned (first :: rest))
include unowned

theorem Unowned.isNulPair_eq_false : isNulPair first rest = false := by
  rw [Bool.eq_false_iff]
  intro nul
  obtain ⟨more, split⟩ := isNulPair_iff.mp nul
  exact unowned _ _ .nul (split ▸ List.prefix_append _ more)

theorem Unowned.readPair?_eq_none : readPair? (first :: rest) = none := by
  rw [Option.eq_none_iff_forall_ne_some]
  intro char pair
  obtain ⟨form, more, split, _, owned⟩ := readPair?_eq_some_iff.mp pair
  exact unowned form char owned (split ▸ List.prefix_append form more)

theorem Unowned.respell_cons : respell (first :: rest) = first :: respell rest := by
  rw [Text.respell_cons, unowned.isNulPair_eq_false, unowned.readPair?_eq_none]
  rfl

theorem Unowned.decodeOnePass_cons : decodeOnePass (first :: rest) =
    (readChar first rest).1 :: decodeOnePass (rest.drop (readChar first rest).2) := by
  rw [decodeOnePass, scan_cons, unowned.isNulPair_eq_false, unowned.readPair?_eq_none]
  rfl

end Unowned

theorem onePass_decodeOnePass (bytes : List UInt8) : OnePass bytes (decodeOnePass bytes) := by
  -- By induction on what is left, which every step makes shorter.
  generalize size : bytes.length = count
  induction count using Nat.strongRecOn generalizing bytes with
  | ind count ih =>
      cases bytes with
      | nil => exact .done
      | cons first rest =>
          by_cases own : ∃ form char, OwnForm form char ∧ form <+: first :: rest
          · obtain ⟨form, char, owned, more, split⟩ := own
            have shorter : more.length < count := by
              have nonempty : 0 < form.length := by cases owned <;> simp
              rw [← size, ← split, List.length_append]
              omega
            rw [← split, owned.decodeOnePass_append]
            exact .own owned (ih more.length shorter more rfl)
          · have unowned : Unowned (first :: rest) :=
              fun form char owned here => own ⟨form, char, owned, here⟩
            rw [unowned.decodeOnePass_cons]
            obtain ⟨others, more, rfl, ⟨char, written, read⟩ | ⟨unread, read⟩⟩ :=
              readChar_cases first rest
            all_goals
              have shorter : more.length < count := by
                rw [← size, List.length_cons, List.length_append]
                omega
              have later := ih more.length shorter more rfl
              rw [read, List.drop_left]
            · rw [← List.cons_append, ← written] at unowned ⊢
              exact .character unowned later
            · exact .malformed unowned unread later

/-! Respelling moves no boundary. -/

/-- What respelling puts first is no continuation byte unless it stood there before. -/
theorem head_of_respell {bytes more : List UInt8} {next : UInt8}
    (respelled : respell bytes = next :: more) (continues : isContinuation next = true) :
    ∃ tail, bytes = next :: tail := by
  cases bytes with
  | nil => simp [respell] at respelled
  | cons first rest =>
      rw [respell_cons] at respelled
      split at respelled
      · obtain ⟨rfl, _⟩ := List.cons.inj respelled
        contradiction
      · split at respelled
        · rename_i char _
          cases written : String.utf8EncodeChar char with
          | nil => exact absurd written String.utf8EncodeChar_ne_nil
          | cons head others =>
              rw [written, List.cons_append, List.cons.injEq] at respelled
              rw [← respelled.1, not_continuation_of_first written] at continues
              contradiction
        · exact ⟨rest, congrArg (· :: rest) (List.cons.inj respelled).1⟩

/-- Every byte of a run but the first is a continuation byte. -/
theorem MalformedRun.continues {first : UInt8} {others rest : List UInt8}
    (unread : MalformedRun (first :: others) rest) :
    ∀ byte ∈ others, isContinuation byte = true := by
  intro byte member
  rcases unread.begins with ⟨char, more, _, written⟩ | single
  · exact continues_of_begun written byte (by simp [member])
  · have none := List.length_eq_zero_iff.mp (Nat.succ.inj single)
    simp [none] at member

theorem MalformedRun.readChar {first : UInt8} {others rest : List UInt8}
    (unread : MalformedRun (first :: others) rest) :
    readChar first (others ++ rest) = (replacement, others.length) := by
  obtain ⟨found, more, split, ⟨char, written, _⟩ | ⟨also, read⟩⟩ :=
    readChar_cases first (others ++ rest)
  · refine absurd ?_ (unread.unread char)
    rw [written, List.cons_append, split]
    exact List.prefix_append (first :: found) more
  · obtain ⟨same, _⟩ := unread.unique also (by rw [List.cons_append, List.cons_append, split])
    rw [read, (List.cons.inj same).2]

/-- A run ends in the same place when what follows it is respelled. -/
theorem MalformedRun.respell {run rest : List UInt8} (unread : MalformedRun run rest) :
    MalformedRun run (respell rest) := by
  refine .of_stop unread.nonempty unread.begins (fun char finished => ?_) ?_
  · exact unread.unread char (finished.trans (List.prefix_append run rest))
  · rintro next more split char ⟨tail, begun⟩
    obtain ⟨first, others, rfl⟩ := List.exists_cons_of_ne_nil unread.nonempty
    have continues := continues_of_begun begun.symm next (by simp)
    obtain ⟨after, rfl⟩ := head_of_respell split continues
    have reaches : first :: others ++ [next] <+: first :: others ++ next :: after := by simp
    cases tail with
    | nil =>
        rw [List.append_nil] at begun
        exact unread.unread char (begun ▸ reaches)
    | cons later tail =>
        have longer := unread.longest _ ⟨char, later :: tail, by simp, begun.symm⟩ reaches
        exact absurd longer (by simp)

theorem OnePass.decodeLossy_respell {bytes : List UInt8} {chars : List Char}
    (pass : OnePass bytes chars) : decodeLossy (respell bytes) = chars := by
  induction pass with
  | done => rfl
  | own owned _ ih => rw [owned.respell_append, decodeLossy_utf8EncodeChar, ih]
  | character _ _ ih =>
      rw [(utf8EncodeChar_form _).inert.respell_append, decodeLossy_utf8EncodeChar, ih]
  | @malformed run rest chars unowned unread _ ih =>
      obtain ⟨first, others, rfl⟩ := List.exists_cons_of_ne_nil unread.nonempty
      have inert : Inert others := inert_of_continues unread.continues
      rw [List.cons_append] at unowned ⊢
      rw [unowned.respell_cons, inert.respell_append, decodeLossy, scan_cons,
        unread.respell.readChar, List.drop_left]
      exact congrArg (replacement :: ·) ih

theorem decodeLossy_respell (bytes : List UInt8) :
    decodeLossy (respell bytes) = decodeOnePass bytes :=
  (onePass_decodeOnePass bytes).decodeLossy_respell

theorem onePass_iff {bytes : List UInt8} {chars : List Char} :
    OnePass bytes chars ↔ decode bytes = String.ofList chars := by
  rw [decode_eq, String.ofList_inj]
  constructor
  · exact OnePass.decodeLossy_respell
  · rintro rfl
    exact decodeLossy_respell bytes ▸ onePass_decodeOnePass bytes

/-- What a step uses up is there to be used. -/
theorem readChar_within (first : UInt8) (rest : List UInt8) :
    (readChar first rest).2 ≤ rest.length := by
  obtain ⟨others, more, rfl, ⟨_, _, read⟩ | ⟨_, read⟩⟩ := readChar_cases first rest <;>
    simp [read]

theorem readPair?_within {first : UInt8} {rest : List UInt8} {char : Char}
    (pair : readPair? (first :: rest) = some char) : 5 ≤ rest.length := by
  obtain ⟨form, more, split, size, _⟩ := readPair?_eq_some_iff.mp pair
  have total := congrArg List.length split
  rw [List.length_cons, List.length_append, size] at total
  omega

theorem isNulPair_within {first : UInt8} {rest : List UInt8} (nul : isNulPair first rest = true) :
    1 ≤ rest.length := by
  obtain ⟨more, split⟩ := isNulPair_iff.mp nul
  have total := congrArg List.length split
  simp at total
  omega

/-- Whatever the bytes are. The two passes come to the one, with the first left out where nothing
needs respelling; no step goes beyond the end of the bytes, and two surrogates combine to a
character without wrapping around. -/
theorem decode_in_one_pass :
    (∀ bytes chars, OnePass bytes chars ↔ decode bytes = String.ofList chars) ∧
      (∀ bytes, decodeLossy (respell bytes) = decodeOnePass bytes) ∧
      (∀ bytes, decode bytes = String.ofList (decodeLossy (respell bytes))) ∧
      (∀ first rest, (readChar first rest).2 ≤ rest.length ∧
        (isNulPair first rest = true → 1 ≤ rest.length) ∧
        ∀ char, readPair? (first :: rest) = some char → 5 ≤ rest.length) ∧
      ∀ bytes high low, readSurrogate? 0xA0 0xAF bytes = some high →
        readSurrogate? 0xB0 0xBF (bytes.drop 3) = some low →
        0xD800 ≤ high ∧ 0xDC00 ≤ low ∧
          (0x10000 + (high - 0xD800) * 1024 + (low - 0xDC00)).isValidChar := by
  refine ⟨fun _ _ => onePass_iff, decodeLossy_respell, decode_eq, fun first rest => ?_, ?_⟩
  · exact ⟨readChar_within first rest, isNulPair_within, fun _ => readPair?_within⟩
  · intro bytes high low foundHigh foundLow
    have leads := readSurrogate?_high foundHigh
    have trails := readSurrogate?_low foundLow
    exact ⟨leads.1, trails.1, combined_valid leads trails⟩

/-- A character cut short before `C0 80`, a pair, and what is left of a second pair before a stray
lead byte. -/
theorem one_pass_over_malformed :
    OnePass [0x61, 0xE2, 0x82, 0xC0, 0x80, 0xED, 0xA0, 0xBD, 0xED, 0xB8, 0x80, 0xED, 0xA0, 0xC0]
        ['a', replacement, '\x00', '😀', replacement, replacement, replacement] ∧
      readPair? [0xED, 0xA0, 0xBD, 0xED, 0xB8, 0x80] = some '😀' ∧
      (0x10000 + (0xD83D - 0xD800) * 1024 + (0xDE00 - 0xDC00)).isValidChar := by
  obtain ⟨reference, _, _, _, combined⟩ := decode_in_one_pass
  refine ⟨(reference _ _).mpr (by decide +kernel), by decide, ?_⟩
  exact (combined [0xED, 0xA0, 0xBD, 0xED, 0xB8, 0x80] 0xD83D 0xDE00 (by decide) (by decide)).2.2

end TclHost.Text
