import Mathlib.Order.Lattice.Nat
import TclHost.Host.Run
import TclHost.Proofs.Objects.Laws
import TclHost.Proofs.Text.Spelling
import TclHost.Scripted.ListFormat

/-!
A library that follows its protocol to the letter, since its store is the heap itself. A script is a
list of words: the send command is handed on to the host, and any other command does nothing.
Appending may be refused, depending on the text.
-/

namespace TclHost

/-! The list format of the scripted library, written for text. -/

namespace Scripted

def quoteChar (char : Char) : String :=
  if char = '\\' then "\\\\" else if char = ' ' then "\\s" else String.singleton char

theorem quoteByte_of_ne {byte : UInt8} (first : byte ≠ backslash) (second : byte ≠ space) :
    quoteByte byte = [byte] := by
  rw [quoteByte, if_neg first, if_neg second]

theorem flatMap_quoteByte_of_ne {bytes : List UInt8}
    (plain : ∀ byte ∈ bytes, byte ≠ backslash ∧ byte ≠ space) :
    bytes.flatMap quoteByte = bytes := by
  induction bytes with
  | nil => rfl
  | cons byte rest ih =>
      obtain ⟨first, second⟩ := plain byte (by simp)
      rw [List.flatMap_cons, quoteByte_of_ne first second,
        ih fun other member => plain other (by simp [member])]
      rfl

theorem flatMap_quoteByte_encodeChar (char : Char) :
    (Text.encodeChar char).flatMap quoteByte = Text.encode (quoteChar char) := by
  by_cases isBackslash : char = '\\'
  · subst isBackslash
    decide
  · by_cases isSpace : char = ' '
    · subst isSpace
      decide
    · have single : Text.encode (quoteChar char) = Text.encodeChar char := by
        simp [quoteChar, isBackslash, isSpace, Text.encode]
      rw [single]
      refine flatMap_quoteByte_of_ne fun byte member => ?_
      have ascii : byte.toNat < 0x80 → char.toNat = byte.toNat ∨ char = '\x00' := by
        intro small
        unfold Text.encodeChar at member
        split at member
        · exact Or.inr ‹_›
        · exact Or.inl ((Text.utf8EncodeChar_form char).ascii_of_mem member small)
      constructor
      · rintro rfl
        rcases ascii (by decide) with same | rfl
        · exact isBackslash (Char.toNat_inj.mp same)
        · revert member
          decide
      · rintro rfl
        rcases ascii (by decide) with same | rfl
        · exact isSpace (Char.toNat_inj.mp same)
        · revert member
          decide

def quoteText (text : String) : String :=
  if text.isEmpty then "\\e"
  else String.ofList (text.toList.flatMap fun char => (quoteChar char).toList)

theorem encodeChar_ne_nil (char : Char) : Text.encodeChar char ≠ [] := by
  unfold Text.encodeChar
  split
  · simp
  · have form := Text.utf8EncodeChar_form char
    intro empty
    rw [empty] at form
    cases form

theorem quoteElement_encode (text : String) :
    quoteElement (Text.encode text) = Text.encode (quoteText text) := by
  by_cases empty : text = ""
  · subst empty
    decide
  · have some : (Text.encode text).isEmpty = false := by
      cases chars : text.toList with
      | nil => exact absurd (String.toList_eq_nil_iff.mp chars) empty
      | cons first rest => simp [Text.encode, chars, encodeChar_ne_nil]
    have other : text.isEmpty = false := by simpa using empty
    rw [quoteElement, some, quoteText, other]
    simp only [Bool.false_eq_true, if_false, Text.encode, List.flatMap_assoc, String.toList_ofList]
    exact congrArg (text.toList.flatMap ·) (funext flatMap_quoteByte_encodeChar)

theorem intercalate_encode (pieces : List String) :
    [space].intercalate (pieces.map Text.encode) = Text.encode (" ".intercalate pieces) := by
  have chars : ∀ lists : List (List Char), [space].intercalate
      (lists.map (List.flatMap Text.encodeChar)) =
        ([' '].intercalate lists).flatMap Text.encodeChar := by
    intro lists
    induction lists with
    | nil => rfl
    | cons first rest ih =>
        cases rest with
        | nil => simp
        | cons second others =>
            rw [List.intercalate_cons_cons, List.map_cons, List.map_cons, List.intercalate_cons_cons]
            rw [List.map_cons] at ih
            rw [ih]
            simp [show Text.encodeChar ' ' = [space] by decide]
  have same := chars (pieces.map String.toList)
  rw [List.map_map] at same
  rw [Text.encode, String.toList_intercalate]
  exact same

theorem joinElements_encode (words : List String) :
    joinElements (words.map Text.encode) =
      Text.encode (" ".intercalate (words.map quoteText)) := by
  rw [← intercalate_encode, joinElements, List.map_map, List.map_map]
  exact congrArg ([space].intercalate <| List.map · words) (funext quoteElement_encode)

end Scripted

def ListFormat.scripted : ListFormat where
  render := Scripted.joinElements
  split := Scripted.splitElements?
  split_render := Scripted.splitElements?_joinElements
  spelled words := ⟨_, Scripted.joinElements_encode words⟩

namespace Heap

variable {heap : Heap} {outside : Multiset Obj} {interp : InterpId}

def next (heap : Heap) : Obj :=
  ⟨heap.live.sup Obj.id + 1⟩

theorem not_live_of_next_le {object : Obj} (later : heap.next.id ≤ object.id) :
    object ∉ heap.live := by
  intro live
  have bound : object.id ≤ heap.live.sup Obj.id := Finset.le_sup live
  simp only [next] at later
  omega

theorem next_not_mem (heap : Heap) : heap.next ∉ heap.live :=
  not_live_of_next_le (Nat.le_refl _)

def number (start : Nat) : List (List UInt8) → List (Obj × List UInt8)
  | [] => []
  | text :: rest => (⟨start⟩, text) :: number (start + 1) rest

theorem number_texts (start : Nat) (texts : List (List UInt8)) :
    (number start texts).map Prod.snd = texts := by
  induction texts generalizing start with
  | nil => rfl
  | cons text rest ih => rw [number, List.map_cons, ih]

theorem le_of_mem_number {start : Nat} {texts : List (List UInt8)} {object : Obj}
    (member : object ∈ (number start texts).map Prod.fst) : start ≤ object.id := by
  induction texts generalizing start with
  | nil => cases member
  | cons text rest ih =>
      rcases List.mem_cons.mp member with rfl | later
      · exact Nat.le_refl _
      · exact Nat.le_of_succ_le (ih later)

theorem fresh_number (heap : Heap) (texts : List (List UInt8)) :
    heap.Fresh ((number heap.next.id texts).map Prod.fst) := by
  constructor
  · generalize heap.next.id = start
    induction texts generalizing start with
    | nil => exact List.nodup_nil
    | cons text rest ih =>
        refine List.nodup_cons.mpr ⟨fun member => ?_, ih (start + 1)⟩
        exact Nat.lt_irrefl start (le_of_mem_number member)
  · exact fun object member => not_live_of_next_le (le_of_mem_number member)

/-! Interpreters. -/

def enter (heap : Heap) (interp : InterpId) : Heap :=
  { heap with
    interps := insert interp heap.interps
    result := Function.update heap.result interp none
    held := Function.update heap.held interp [] }

def leave (heap : Heap) (interp : InterpId) : Heap :=
  ({ heap with interps := heap.interps.erase interp }).release
    ((heap.result interp).toList ++ heap.held interp)

theorem InOrder.enter (order : heap.InOrder outside) (absent : interp ∉ heap.interps) :
    (heap.enter interp).InOrder outside := by
  have references : (heap.enter interp).references = heap.references := by
    have others : ∑ other ∈ heap.interps, (heap.enter interp).heldBy other =
        ∑ other ∈ heap.interps, heap.heldBy other := by
      refine Finset.sum_congr rfl fun other member => ?_
      have different : other ≠ interp := fun same => absent (same ▸ member)
      simp [heldBy, Heap.enter, different]
    have nothing : (heap.enter interp).heldBy interp = 0 := by
      simp [heldBy, Heap.enter]
    rw [Heap.references, Heap.references, ← others]
    refine congrArg _ ((Finset.sum_insert absent).trans ?_)
    rw [nothing, zero_add]
  refine ⟨fun object => ?_, order.owned, order.ranked⟩
  rw [references]
  exact order.counted object

theorem InOrder.leave (order : heap.InOrder outside) (known : interp ∈ heap.interps) :
    (heap.leave interp).InOrder outside := by
  refine InOrder.release ⟨fun object => ?_, order.owned, order.ranked⟩
  have counted := order.counted object
  have divided := Finset.add_sum_erase heap.interps heap.heldBy known
  rw [references, ← divided, heldBy] at counted
  rw [references, ← Multiset.coe_add]
  refine counted.trans (congrArg (Multiset.count object) ?_)
  change _ = heap.total ownedBy + ∑ other ∈ heap.interps.erase interp, heap.heldBy other + _
  abel

end Heap

/-! The calls of the library. -/

namespace Ideal

open Heap

def refuse (interp : InterpId) (heap : Heap) : Heap :=
  (heap.set heap.next { text := some (Text.encode "refused") }).setResult interp heap.next

def append (refused : List UInt8 → Bool) (interp : InterpId) (list : Option Obj) (element : Obj)
    (heap : Heap) : Int × Heap :=
  match list with
  | none => (1, refuse interp heap)
  | some list =>
      if (heap.textOf element).any refused then (1, refuse interp heap)
      else (0, heap.append list element)

def elements (interp : InterpId) (object : Obj) (heap : Heap) : Option Elements × Heap :=
  match heap.cells object with
  | none => (none, refuse interp heap)
  | some cell =>
      match cell.text.bind Scripted.splitElements? with
      | none => (none, refuse interp heap)
      | some texts =>
          let made := number heap.next.id texts
          (some ⟨texts.length, made.map Prod.fst⟩,
            (heap.place made).set object { cell with elements := made.map Prod.fst })

def bytes (object : Option Obj) (heap : Heap) : List UInt8 :=
  match object.bind heap.cells with
  | none => []
  | some { text := some text, .. } => text
  | some { text := none, elements, .. } =>
      Scripted.joinElements (elements.map fun element => (heap.textOf element).getD [])

def call (interp : InterpId) (words : List (List UInt8)) (heap : Heap) : Reaction Heap :=
  let made := number heap.next.id words
  .callback interp (made.map Prod.fst) (heap.place made) fun code later =>
    .finished code (later.release (made.map Prod.fst))

def evaluate (interp : InterpId) (script : List UInt8) (heap : Heap) : Reaction Heap :=
  match Scripted.splitElements? script with
  | some (name :: arguments) =>
      if name = Text.encode sendCommand then call interp (name :: arguments) heap
      else .finished 0 heap
  | _ => .finished 0 heap

def engine (refused : List UInt8 → Bool) : Engine Heap where
  create interp heap := (true, heap.enter interp)
  init _ heap := (0, heap)
  preserve _ heap := heap
  release interp heap := heap.leave interp
  createCommand _ _ heap := heap
  evaluate := evaluate
  makeSafe _ heap := .finished 0 heap
  delete _ heap := .finished 0 heap
  newObj heap := (some heap.next, heap.set heap.next { text := none })
  newString text heap := (heap.next, heap.set heap.next { text := some text })
  increment object heap := heap.retain object
  decrement object heap := heap.release [object]
  append := append refused
  elements := elements
  bytes object heap := (bytes object heap, heap)
  result interp heap := (heap.result interp, heap)
  setResult interp object heap := heap.setResult interp object

def setup (refused : List UInt8 → Bool) : Setup Heap Unit Empty where
  engine := engine refused
  behave _ _ _ := return .value ""
  libraries _ := .complete
  environment _ := none
  files _ := .ok []

theorem refuse_replaces (interp : InterpId) (heap : Heap) :
    heap.Replaces interp (refuse interp heap) :=
  ⟨heap.next, Text.encode "refused", heap.next_not_mem, rfl⟩

theorem bytes_of_textOf {heap : Heap} {object : Obj} {text : List UInt8}
    (same : heap.textOf object = some text) : bytes (some object) heap = text := by
  obtain ⟨cell, found, own⟩ := Option.bind_eq_some_iff.mp same
  obtain ⟨count, text, elements⟩ := cell
  cases own
  simp [bytes, found]

theorem bytes_of_list {heap : Heap} {list : Obj} {cell : Cell} {texts : List (List UInt8)}
    (found : heap.cells list = some cell) (own : cell.text = none)
    (read : cell.elements.map heap.textOf = texts.map some) :
    bytes (some list) heap = Scripted.joinElements texts := by
  obtain ⟨count, text, elements⟩ := cell
  cases own
  have each := congrArg (List.map fun text : Option (List UInt8) => text.getD []) read
  simp only [List.map_map] at each
  simp only [bytes, Option.bind_some, found]
  refine congrArg Scripted.joinElements (each.trans ?_)
  simp [Function.comp_def]

theorem elements_of_text {heap : Heap} {object : Obj} {cell : Cell} {text : List UInt8}
    {texts : List (List UInt8)} (interp : InterpId) (found : heap.cells object = some cell)
    (own : cell.text = some text) (split : Scripted.splitElements? text = some texts) :
    elements interp object heap =
      (some ⟨texts.length, (number heap.next.id texts).map Prod.fst⟩,
        (heap.place (number heap.next.id texts)).set object
          { cell with elements := (number heap.next.id texts).map Prod.fst }) := by
  simp [elements, found, own, split]

variable (refused : List UInt8 → Bool)

theorem keepsObjects : (engine refused).KeepsObjects Eq where
  newObj := by
    rintro heap _ list rfl ⟨⟩
    exact ⟨heap.next_not_mem, rfl⟩
  newString := by
    rintro heap _ text rfl
    exact ⟨heap.next_not_mem, rfl⟩
  increment := by
    rintro heap _ object rfl _
    rfl
  decrement := by
    rintro heap _ object rfl _
    rfl
  append := by
    rintro heap _ list element cell interp rfl _ _ _ appended
    change (append refused interp (some list) element heap).1 = 0 at appended
    change (append refused interp (some list) element heap).2 = heap.append list element
    by_cases welcome : (heap.textOf element).any refused = true
    · simp [append, welcome] at appended
    · simp [append, welcome]
  bytes := by
    rintro heap _ object rfl _
    rfl

theorem quotesLists : (engine fun _ => false).QuotesLists Eq .scripted where
  toKeepsObjects := keepsObjects _
  newList := fun {heap _} _ => ⟨heap.next, rfl⟩
  appends := by
    rintro heap _ list element cell interp rfl _ _ _ _
    change (append (fun _ => false) interp (some list) element heap).1 = 0
    simp [append]
  string := by
    rintro heap _ object text rfl same
    exact bytes_of_textOf same
  list := by
    rintro heap _ list cell texts rfl found own read
    exact bytes_of_list found own read
  splits := by
    rintro heap _ object cell text texts interp rfl found own _ split
    refine ⟨number heap.next.id texts, number_texts _ _, heap.fresh_number texts, ?_, ?_⟩
    · exact congrArg Prod.fst (elements_of_text interp found own split)
    · exact congrArg Prod.snd (elements_of_text interp found own split)

theorem tidy_call {heap : Heap} {outside : Multiset Obj} {interps : Finset InterpId}
    {interp : InterpId} (words : List (List UInt8)) (order : heap.InOrder outside)
    (known : interp ∈ interps) (same : heap.interps = interps) :
    (call interp words heap).Tidy Eq interp outside interps := by
  have fresh := heap.fresh_number words
  refine ⟨(number heap.next.id words).map Prod.fst, ⟨_, rfl, order.place fresh, ?_, ?_⟩, known, ?_⟩
  · rw [(place_others heap _).1, same]
  · exact fun word member => mem_live_place.mpr (Or.inl member)
  · rintro code later others ⟨_, rfl, orderLater, sameLater⟩ _
    exact ⟨_, rfl, orderLater.release, (release_others later _).1.trans sameLater⟩

theorem keepsBooks : (engine refused).KeepsBooks Eq where
  toKeepsObjects := keepsObjects refused
  noList := by
    rintro heap _ rfl ⟨⟩
  refused := by
    rintro heap _ list element interp rfl _ _ _ failed
    change (append refused interp list element heap).2 = heap ∨
      ∃ later, heap.Replaces interp later ∧ (append refused interp list element heap).2 = later
    change list = none ∨ (append refused interp list element heap).1 ≠ 0 at failed
    refine Or.inr ⟨_, refuse_replaces interp heap, ?_⟩
    cases list with
    | none => rfl
    | some list =>
        by_cases unwelcome : (heap.textOf element).any refused = true
        · simp [append, unwelcome]
        · simp [append, unwelcome] at failed
  malformed := by
    rintro heap _ object interp rfl _ _ failed
    change (elements interp object heap).1 = none at failed
    change (elements interp object heap).2 = heap ∨
      ∃ later, heap.Replaces interp later ∧ (elements interp object heap).2 = later
    refine Or.inr ⟨_, refuse_replaces interp heap, ?_⟩
    unfold elements at failed ⊢
    split
    · rfl
    · split
      · rfl
      · simp_all
  elements := by
    rintro heap _ object cell elements interp rfl found _ answered
    change (Ideal.elements interp object heap).1 = some elements at answered
    cases own : cell.text.bind Scripted.splitElements? with
    | none => simp [Ideal.elements, found, own] at answered
    | some texts =>
        obtain ⟨text, same, split⟩ := Option.bind_eq_some_iff.mp own
        have split := elements_of_text interp found same split
        rw [split] at answered
        cases answered
        exact ⟨_, heap.fresh_number texts, fun item member => member, congrArg Prod.snd split⟩
  setResult := by
    rintro heap _ object interp rfl _ _
    rfl
  result := by
    rintro heap _ outside interp rfl order known
    refine ⟨heap, rfl, order, rfl, fun object member => ?_⟩
    exact order.live_of_reference (mem_references_of_result known member)
  create := by
    rintro heap outside interps interp ⟨_, rfl, order, rfl⟩ absent
    exact ⟨_, rfl, order.enter absent, rfl⟩
  init := fun tidy _ => tidy
  preserve := fun tidy _ => tidy
  createCommand := fun _ tidy _ => tidy
  release := by
    rintro heap outside interps interp ⟨_, rfl, order, rfl⟩ known
    exact ⟨_, rfl, order.leave known, (release_others _ _).1⟩
  evaluate := by
    rintro heap outside interps interp script ⟨_, rfl, order, rfl⟩ known
    change (evaluate interp script heap).Tidy Eq interp outside heap.interps
    unfold evaluate
    split
    · split
      · exact tidy_call _ order known rfl
      · exact ⟨_, rfl, order, rfl⟩
    · exact ⟨_, rfl, order, rfl⟩
  makeSafe := fun tidy _ => tidy
  delete := fun tidy _ => tidy

end Ideal

end TclHost
