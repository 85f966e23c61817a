import TclHost.Proofs.Text.Spelling

/-!
Bytes that spell no character. They are read in runs: each is as long as it may be while some
character still begins with it, and a byte that begins no character is a run of its own.
-/

namespace TclHost.Text

def Begins (run : List UInt8) : Prop :=
  ∃ char more, more ≠ [] ∧ String.utf8EncodeChar char = run ++ more

/-- No character can be read here, and `run` is what is given up before the next attempt. -/
structure MalformedRun (run rest : List UInt8) : Prop where
  nonempty : run ≠ []
  unread : ∀ char, ¬ String.utf8EncodeChar char <+: run ++ rest
  begins : Begins run ∨ run.length = 1
  longest : ∀ longer, Begins longer → longer <+: run ++ rest → longer.length ≤ run.length

theorem MalformedRun.length_le {run rest other otherRest : List UInt8}
    (malformed : MalformedRun run rest) (also : MalformedRun other otherRest)
    (same : run ++ rest = other ++ otherRest) : run.length ≤ other.length := by
  rcases malformed.begins with begins | single
  · exact also.longest run begins (same ▸ List.prefix_append run rest)
  · rw [single]
    exact List.length_pos_iff.mpr also.nonempty

theorem MalformedRun.unique {run rest other otherRest : List UInt8}
    (malformed : MalformedRun run rest) (also : MalformedRun other otherRest)
    (same : run ++ rest = other ++ otherRest) : run = other ∧ rest = otherRest :=
  List.append_inj same <|
    Nat.le_antisymm (malformed.length_le also same) (also.length_le malformed same.symm)

/-! The bytes of a longer character. -/

structure Led (lead : Lead) (first second : UInt8) (others : List UInt8) : Prop where
  leads : Lead.ofByte? first = some lead
  above : lead.low ≤ second
  below : second ≤ lead.high
  count : others.length = lead.more
  continues : ∀ byte ∈ others, isContinuation byte = true

theorem Lead.ofByte?_cases {byte : UInt8} {lead : Lead} (leads : ofByte? byte = some lead) :
    (0xC2 ≤ byte.toNat ∧ byte.toNat ≤ 0xDF) ∨ (0xE0 ≤ byte.toNat ∧ byte.toNat ≤ 0xEF) ∨
      (0xF0 ≤ byte.toNat ∧ byte.toNat ≤ 0xF4) := by
  unfold ofByte? at leads
  simp only [UInt8.le_iff_toNat_le, ← UInt8.toNat_inj, Bool.and_eq_true, decide_eq_true_eq]
    at leads
  simp at leads
  grind

theorem Led.two {first second : UInt8} (lower : 0xC2 ≤ first.toNat) (upper : first.toNat ≤ 0xDF)
    (continues : isContinuation second = true) :
    Led ⟨0x80, 0xBF, 0, first.toNat % 32⟩ first second [] := by
  simp only [isContinuation, Bool.and_eq_true, decide_eq_true_eq] at continues
  exact ⟨Lead.ofByte?_two lower upper, continues.1, continues.2, rfl, by simp⟩

/-- A form of at least two bytes is led by its first. -/
theorem Utf8Form.led {code : Nat} {bytes : List UInt8} (form : Utf8Form code bytes) :
    (∃ first, bytes = [first] ∧ first < 0x80) ∨
      ∃ lead first second others, bytes = first :: second :: others ∧
        Led lead first second others := by
  cases form with
  | one first bound lead =>
      refine .inl ⟨first, rfl, ?_⟩
      rw [UInt8.lt_iff_toNat_lt, lead]
      exact bound
  | two first second lower upper lead last =>
      have continues : isContinuation second = true := (isContinuation_iff second).mpr (by omega)
      exact .inr ⟨_, first, second, [], rfl, .two (by omega) (by omega) continues⟩
  | three first second third lower upper valid lead middle last =>
      obtain ⟨above, below⟩ := second_of_three lower valid lead middle
      have continues : isContinuation third = true := (isContinuation_iff third).mpr (by omega)
      exact .inr ⟨_, first, second, [third], rfl, Lead.ofByte?_three (by omega) (by omega), above,
        below, rfl, by simp [continues]⟩
  | four first second third fourth lower upper lead middle later last =>
      obtain ⟨above, below⟩ := second_of_four lower upper lead middle
      have continues : isContinuation third = true := (isContinuation_iff third).mpr (by omega)
      have ends : isContinuation fourth = true := (isContinuation_iff fourth).mpr (by omega)
      exact .inr ⟨_, first, second, [third, fourth], rfl, Lead.ofByte?_four (by omega) (by omega),
        above, below, rfl, by simp [continues, ends]⟩

theorem Utf8Form.unique {code : Nat} {bytes others : List UInt8} (form : Utf8Form code bytes)
    (also : Utf8Form code others) : bytes = others := by
  cases form <;> cases also <;> first
    | omega
    | simp only [List.cons.injEq, ← UInt8.toNat_inj, and_true]
      omega

theorem Utf8Form.valid {code : Nat} {bytes : List UInt8} (form : Utf8Form code bytes) :
    code.isValidChar := by
  cases form <;> unfold Nat.isValidChar <;> omega

theorem toNat_ofNat {code : Nat} (valid : code.isValidChar) : (Char.ofNat code).toNat = code := by
  rw [Char.ofNat, dif_pos valid]
  rfl

theorem Utf8Form.exists_char {code : Nat} {bytes : List UInt8} (form : Utf8Form code bytes) :
    ∃ char, String.utf8EncodeChar char = bytes := by
  refine ⟨Char.ofNat code, ?_⟩
  have written := utf8EncodeChar_form (Char.ofNat code)
  rw [toNat_ofNat form.valid] at written
  exact written.unique form

/-- The ranges of the leads leave out no character. -/
theorem Led.exists_char {lead : Lead} {first second : UInt8} {others : List UInt8}
    (led : Led lead first second others) :
    ∃ char, String.utf8EncodeChar char = first :: second :: others := by
  obtain ⟨leads, above, below, count, continues⟩ := led
  rcases Lead.ofByte?_cases leads with ⟨lower, upper⟩ | ⟨lower, upper⟩ | ⟨lower, upper⟩
  · rw [Lead.ofByte?_two lower upper, Option.some.injEq] at leads
    subst leads
    obtain rfl := List.length_eq_zero_iff.mp count
    simp only [UInt8.le_iff_toNat_le] at above below
    simp at above below
    have form : Utf8Form (first.toNat % 32 * 64 + second.toNat % 64) [first, second] :=
      .two first second (by omega) (by omega) (by omega) (by omega)
    exact form.exists_char
  · rw [Lead.ofByte?_three lower upper, Option.some.injEq] at leads
    subst leads
    obtain ⟨third, rfl⟩ := List.length_eq_one_iff.mp count
    have last := (isContinuation_iff third).mp (continues third (by simp))
    have range : 0x80 ≤ second.toNat ∧ second.toNat ≤ 0xBF ∧
        (first.toNat = 0xE0 → 0xA0 ≤ second.toNat) ∧
        (first.toNat = 0xED → second.toNat ≤ 0x9F) := by
      simp only [UInt8.le_iff_toNat_le, apply_ite UInt8.toNat, UInt8.reduceToNat] at above below
      grind
    have form : Utf8Form ((first.toNat % 16 * 64 + second.toNat % 64) * 64 + third.toNat % 64)
        [first, second, third] :=
      .three first second third (by omega) (by omega) (by omega) (by omega) (by omega) (by omega)
    exact form.exists_char
  · rw [Lead.ofByte?_four lower upper, Option.some.injEq] at leads
    subst leads
    obtain ⟨third, fourth, rfl⟩ : ∃ third fourth, others = [third, fourth] := by
      match others, count with
      | [third, fourth], _ => exact ⟨third, fourth, rfl⟩
    have later := (isContinuation_iff third).mp (continues third (by simp))
    have last := (isContinuation_iff fourth).mp (continues fourth (by simp))
    have range : 0x80 ≤ second.toNat ∧ second.toNat ≤ 0xBF ∧
        (first.toNat = 0xF0 → 0x90 ≤ second.toNat) ∧
        (first.toNat = 0xF4 → second.toNat ≤ 0x8F) := by
      simp only [UInt8.le_iff_toNat_le, apply_ite UInt8.toNat, UInt8.reduceToNat] at above below
      grind
    have form : Utf8Form (((first.toNat % 8 * 64 + second.toNat % 64) * 64 +
        third.toNat % 64) * 64 + fourth.toNat % 64) [first, second, third, fourth] :=
      .four first second third fourth (by omega) (by omega) (by omega) (by omega) (by omega)
        (by omega)
    exact form.exists_char

/-- A lead byte settles how the bytes after it go on, in every character it begins. -/
theorem led_of_written {first second : UInt8} {others : List UInt8} {char : Char}
    (written : String.utf8EncodeChar char = first :: second :: others) :
    ∃ lead, Led lead first second others := by
  rcases (utf8EncodeChar_form char).led with ⟨single, bytes, _⟩ | ⟨lead, _, _, _, bytes, led⟩
  · simp [bytes] at written
  · rw [written, List.cons.injEq, List.cons.injEq] at bytes
    obtain ⟨rfl, rfl, rfl⟩ := bytes
    exact ⟨lead, led⟩

theorem Led.lead_eq {lead other : Lead} {first second third : UInt8} {others more : List UInt8}
    (led : Led lead first second others) (also : Led other first third more) : lead = other :=
  Option.some.inj (led.leads.symm.trans also.leads)

theorem Led.long {lead : Lead} {first second : UInt8} {others : List UInt8}
    (led : Led lead first second others) : ¬ first < 0x80 := by
  have cases := Lead.ofByte?_cases led.leads
  exact not_short (by omega)

/-- Every byte of a character but the first is a continuation byte. -/
theorem Led.second_continues {lead : Lead} {first second : UInt8} {others : List UInt8}
    (led : Led lead first second others) : isContinuation second = true := by
  obtain ⟨char, written⟩ := led.exists_char
  have form := utf8EncodeChar_form char
  rw [written] at form
  rw [isContinuation_iff]
  cases form <;> omega

theorem continues_of_begun {first : UInt8} {others : List UInt8} {char : Char}
    (written : String.utf8EncodeChar char = first :: others) :
    ∀ byte ∈ others, isContinuation byte = true := by
  cases others with
  | nil => simp
  | cons second others =>
      obtain ⟨lead, led⟩ := led_of_written written
      intro byte member
      rcases List.mem_cons.mp member with rfl | later
      · exact led.second_continues
      · exact led.continues byte later

theorem not_continuation_of_first {first : UInt8} {others : List UInt8} {char : Char}
    (written : String.utf8EncodeChar char = first :: others) : isContinuation first = false := by
  have form := utf8EncodeChar_form char
  rw [written] at form
  rw [Bool.eq_false_iff, ne_eq, isContinuation_iff]
  cases form <;> omega

theorem inert_of_continues {bytes : List UInt8}
    (continues : ∀ byte ∈ bytes, isContinuation byte = true) : Inert bytes := by
  refine inert_of_lt fun byte member => ?_
  have range := (isContinuation_iff byte).mp (continues byte member)
  omega

/-! What is given up. -/

variable {run rest : List UInt8}

/-- A run ends where no character goes on with the next byte. -/
theorem MalformedRun.of_stop (nonempty : run ≠ []) (begins : Begins run ∨ run.length = 1)
    (unfinished : ∀ char, ¬ String.utf8EncodeChar char <+: run)
    (stop : ∀ next more, rest = next :: more →
      ∀ char, ¬ run ++ [next] <+: String.utf8EncodeChar char) : MalformedRun run rest := by
  -- Whatever starts a character and stands here reaches no further than the run.
  have within : ∀ start char, start <+: String.utf8EncodeChar char → start <+: run ++ rest →
      start <+: run := by
    intro start char part here
    rcases List.prefix_or_prefix_of_prefix here (List.prefix_append run rest) with inside | beyond
    · exact inside
    · obtain ⟨extra, rfl⟩ := beyond
      cases extra with
      | nil => simp
      | cons next extra =>
          obtain ⟨more, split⟩ := (List.prefix_append_right_inj run).mp here
          refine absurd (List.IsPrefix.trans ?_ part) (stop next (extra ++ more) split.symm char)
          exact (List.prefix_append_right_inj run).mpr ⟨extra, rfl⟩
  refine ⟨nonempty, fun char here => ?_, begins, fun longer started here => ?_⟩
  · exact unfinished char (within _ char (List.prefix_refl _) here)
  · obtain ⟨char, more, _, written⟩ := started
    exact (within longer char ⟨more, written.symm⟩ here).length_le

/-- A byte that is no character on its own, and does not go on as its range demands. -/
theorem malformedRun_single {first : UInt8} (long : ¬ first < 0x80)
    (stop : ∀ lead second more, Lead.ofByte? first = some lead → rest = second :: more →
      ¬ (lead.low ≤ second ∧ second ≤ lead.high)) : MalformedRun [first] rest := by
  refine .of_stop (by simp) (.inr rfl) (fun char finished => ?_) ?_
  · rcases (utf8EncodeChar_form char).led with ⟨single, bytes, short⟩ | ⟨_, _, _, _, bytes, _⟩
    · rw [bytes, List.cons_prefix_cons] at finished
      exact long (finished.1 ▸ short)
    · simp [bytes] at finished
  · rintro second more split char ⟨others, written⟩
    obtain ⟨lead, led⟩ := led_of_written written.symm
    exact stop lead second more led.leads split ⟨led.above, led.below⟩

/-- A character that lacks some of its continuation bytes. -/
theorem malformedRun_of_missing {lead : Lead} {first second : UInt8} {others missing : List UInt8}
    (led : Led lead first second (others ++ missing)) (lacks : missing ≠ [])
    (stop : ∀ next more, rest = next :: more → isContinuation next = false) :
    MalformedRun (first :: second :: others) rest := by
  obtain ⟨whole, written⟩ := led.exists_char
  refine .of_stop (by simp) (.inl ⟨whole, missing, lacks, written⟩) ?_ ?_
  · rintro char ⟨more, finished⟩
    rcases (utf8EncodeChar_form char).led with
      ⟨single, bytes, short⟩ | ⟨same, _, _, rest, bytes, also⟩
    · rw [bytes, List.singleton_append, List.cons.injEq] at finished
      exact led.long (finished.1 ▸ short)
    · rw [bytes, List.cons_append, List.cons_append, List.cons.injEq, List.cons.injEq] at finished
      obtain ⟨rfl, rfl, rfl⟩ := finished
      have counts := also.count.trans (congrArg Lead.more (also.lead_eq led))
      rw [← led.count, List.length_append, List.length_append] at counts
      have missed := List.length_pos_iff.mpr lacks
      omega
  · rintro next more split char ⟨tail, begun⟩
    obtain ⟨_, also⟩ := led_of_written begun.symm
    have continues := also.continues next (by simp)
    rw [stop next more split] at continues
    contradiction

/-! What the reader does with either. -/

/-- The reader stops where a continuation byte is missing. -/
theorem readContinuation_cases (count code : Nat) (bytes : List UInt8) :
    ∃ others more, bytes = others ++ more ∧ (∀ byte ∈ others, isContinuation byte = true) ∧
      (others.length = count ∨ others.length < count ∧
        (∀ next after, more = next :: after → isContinuation next = false) ∧
        readContinuation count code bytes = (none, others.length)) := by
  induction count generalizing code bytes with
  | zero => exact ⟨[], bytes, rfl, by simp, .inl rfl⟩
  | succ count ih =>
      cases bytes with
      | nil => exact ⟨[], [], rfl, by simp, .inr ⟨by simp, by simp, rfl⟩⟩
      | cons byte rest =>
          by_cases continues : isContinuation byte = true
          · obtain ⟨others, more, rfl, all, ends⟩ := ih (code * 64 + byte.toNat % 64) rest
            refine ⟨byte :: others, more, rfl, by simpa [continues] using all, ?_⟩
            rcases ends with full | ⟨short, stop, read⟩
            · exact .inl (congrArg (· + 1) full)
            · exact .inr ⟨by simpa using short, stop, by simp [readContinuation, continues, read]⟩
          · refine ⟨[], byte :: rest, rfl, by simp, .inr ⟨by simp, ?_, ?_⟩⟩
            · rintro next after ⟨⟩
              exact Bool.eq_false_iff.mpr continues
            · simp [readContinuation, continues]

theorem readChar_of_char {char : Char} {first : UInt8} {others : List UInt8}
    (written : String.utf8EncodeChar char = first :: others) (more : List UInt8) :
    readChar first (others ++ more) = (char, others.length) := by
  obtain ⟨_, _, bytes, read⟩ := (utf8EncodeChar_form char).readChar_append
  rw [written, List.cons.injEq] at bytes
  obtain ⟨rfl, rfl⟩ := bytes
  rw [read, Char.ofNat_toNat]

/-- A character is read as itself and a malformed run as one replacement, each as a whole. -/
theorem readChar_cases (first : UInt8) (rest : List UInt8) :
    ∃ others more, rest = others ++ more ∧
      ((∃ char, String.utf8EncodeChar char = first :: others ∧
          readChar first rest = (char, others.length)) ∨
        (MalformedRun (first :: others) more ∧
          readChar first rest = (replacement, others.length))) := by
  have alone (long : ¬ first < 0x80) (read : readChar first rest = (replacement, 0))
      (stop : ∀ lead second more, Lead.ofByte? first = some lead → rest = second :: more →
        ¬ (lead.low ≤ second ∧ second ≤ lead.high)) :
      ∃ others more, rest = others ++ more ∧
        ((∃ char, String.utf8EncodeChar char = first :: others ∧
            readChar first rest = (char, others.length)) ∨
          (MalformedRun (first :: others) more ∧
            readChar first rest = (replacement, others.length))) :=
    ⟨[], rest, rfl, .inr ⟨malformedRun_single long stop, read⟩⟩
  by_cases short : first < 0x80
  · obtain ⟨char, written⟩ :=
      (Utf8Form.one first (UInt8.lt_iff_toNat_lt.mp short) rfl).exists_char
    exact ⟨[], rest, rfl, .inl ⟨char, written, readChar_of_char written rest⟩⟩
  cases leads : Lead.ofByte? first with
  | none => exact alone short (by simp [readChar, short, leads]) (by simp [leads])
  | some lead =>
      cases rest with
      | nil => exact alone short (by simp [readChar, short, leads]) (by simp)
      | cons second rest =>
          by_cases within : lead.low ≤ second ∧ second ≤ lead.high
          · obtain ⟨others, more, rfl, all, full | ⟨lacking, stop, read⟩⟩ :=
              readContinuation_cases lead.more (lead.bits * 64 + second.toNat % 64) rest
            · have led : Led lead first second others := ⟨leads, within.1, within.2, full, all⟩
              obtain ⟨char, written⟩ := led.exists_char
              exact ⟨second :: others, more, rfl,
                .inl ⟨char, written, readChar_of_char written more⟩⟩
            · let missing := List.replicate (lead.more - others.length) (0x80 : UInt8)
              have led : Led lead first second (others ++ missing) := by
                refine ⟨leads, within.1, within.2, by simp [missing]; omega, fun byte member => ?_⟩
                rcases List.mem_append.mp member with there | added
                · exact all byte there
                · rw [List.eq_of_mem_replicate added]
                  decide
              have lacks : missing ≠ [] := by simp [missing]; omega
              refine ⟨second :: others, more, rfl,
                .inr ⟨malformedRun_of_missing led lacks stop, ?_⟩⟩
              simp [readChar, short, leads, within, read]
          · refine alone short (by simp [readChar, short, leads, within]) ?_
            rintro same _ _ leadsSame ⟨⟩
            rw [leads, Option.some.injEq] at leadsSame
            exact leadsSame ▸ within

end TclHost.Text
