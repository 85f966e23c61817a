/-!
The list format of the scripted library. Elements are joined by single spaces; within an element a
backslash is doubled and a space is written as a backslash and `s`. The empty element is a
backslash and `e`, the empty list is empty text. What is joined can be split again.
-/

namespace TclHost.Scripted

def space : UInt8 := 0x20
def backslash : UInt8 := 0x5C
def letterS : UInt8 := 0x73
def letterE : UInt8 := 0x65

def quoteByte (byte : UInt8) : List UInt8 :=
  if byte = backslash then [backslash, backslash]
  else if byte = space then [backslash, letterS]
  else [byte]

def quoteElement (element : List UInt8) : List UInt8 :=
  if element.isEmpty then [backslash, letterE] else element.flatMap quoteByte

def joinElements (elements : List (List UInt8)) : List UInt8 :=
  [space].intercalate (elements.map quoteElement)

def unquoteBytes : List UInt8 → Option (List UInt8)
  | [] => some []
  | byte :: rest =>
      if byte = backslash then
        match rest with
        | [] => none
        | escaped :: others =>
            if escaped = backslash then (unquoteBytes others).map (backslash :: ·)
            else if escaped = letterS then (unquoteBytes others).map (space :: ·)
            else none
      else (unquoteBytes rest).map (byte :: ·)

def unquoteElement? (piece : List UInt8) : Option (List UInt8) :=
  if piece.isEmpty then none
  else if piece = [backslash, letterE] then some []
  else unquoteBytes piece

def splitElements? (list : List UInt8) : Option (List (List UInt8)) :=
  if list.isEmpty then some [] else (list.splitOn space).mapM unquoteElement?

theorem unquoteBytes_flatMap_quoteByte (bytes : List UInt8) :
    unquoteBytes (bytes.flatMap quoteByte) = some bytes := by
  induction bytes with
  | nil => rfl
  | cons byte rest ih =>
      by_cases isBackslash : byte = backslash
      · subst isBackslash
        simp [quoteByte, unquoteBytes, ih]
      · by_cases isSpace : byte = space
        · subst isSpace
          simp [quoteByte, unquoteBytes, ih, show ¬ space = backslash by decide,
            show ¬ letterS = backslash by decide]
        · simp only [List.flatMap_cons, quoteByte, isBackslash, isSpace, if_false,
            List.singleton_append]
          rw [unquoteBytes.eq_def]
          simp [isBackslash, ih]

theorem flatMap_quoteByte_ne_empty (bytes : List UInt8) :
    bytes.flatMap quoteByte ≠ [backslash, letterE] := by
  intro same
  have unquoted := unquoteBytes_flatMap_quoteByte bytes
  rw [same] at unquoted
  simp [unquoteBytes, show ¬ letterE = backslash by decide, show ¬ letterE = letterS by decide]
    at unquoted

theorem unquoteElement?_quoteElement (element : List UInt8) :
    unquoteElement? (quoteElement element) = some element := by
  cases element with
  | nil => decide
  | cons byte rest =>
      have unquoted := unquoteBytes_flatMap_quoteByte (byte :: rest)
      have other := flatMap_quoteByte_ne_empty (byte :: rest)
      have nonempty : (byte :: rest).flatMap quoteByte ≠ [] := by
        intro empty
        rw [empty] at unquoted
        simp [unquoteBytes] at unquoted
      simp only [quoteElement, List.isEmpty_cons, Bool.false_eq_true, if_false, unquoteElement?,
        List.isEmpty_iff, nonempty, other, unquoted]

theorem space_not_mem_quoteElement (element : List UInt8) : space ∉ quoteElement element := by
  cases element with
  | nil => decide
  | cons byte rest =>
      simp only [quoteElement, List.isEmpty_cons, Bool.false_eq_true, if_false, List.mem_flatMap,
        not_exists, not_and]
      intro byte _
      by_cases isBackslash : byte = backslash
      · subst isBackslash; decide
      · by_cases isSpace : byte = space
        · subst isSpace; decide
        · simpa [quoteByte, isBackslash, isSpace] using Ne.symm isSpace

theorem mapM_unquoteElement?_quoteElement (elements : List (List UInt8)) :
    (elements.map quoteElement).mapM unquoteElement? = some elements := by
  induction elements with
  | nil => rfl
  | cons element rest ih => simp [unquoteElement?_quoteElement, ih]

/-- Splitting undoes joining, whatever bytes the elements hold. -/
theorem splitElements?_joinElements (elements : List (List UInt8)) :
    splitElements? (joinElements elements) = some elements := by
  by_cases empty : elements = []
  · subst empty; rfl
  · have split : (joinElements elements).splitOn space = elements.map quoteElement :=
      List.splitOn_intercalate space (by simp [space_not_mem_quoteElement]) (by simpa using empty)
    have pieces := mapM_unquoteElement?_quoteElement elements
    rw [← split] at pieces
    have nonempty : (joinElements elements).isEmpty = false := by
      cases joined : joinElements elements with
      | cons _ _ => rfl
      | nil =>
          rw [joined] at pieces
          exact absurd pieces (by simp [unquoteElement?])
    simpa [splitElements?, nonempty] using pieces

end TclHost.Scripted
