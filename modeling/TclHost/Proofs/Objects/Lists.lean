import TclHost.Proofs.Objects.Calls
import TclHost.Proofs.Objects.Ideal
import TclHost.Word

/-!
Lists of words. What is quoted as a list is split into the same words again, whatever characters
they hold, and each word is appended once and in its place.
-/

namespace TclHost

variable {σ N : Type}

theorem Heap.textOf_elements {heap : Heap} {list : Obj} {made : List (Obj × List UInt8)}
    (fresh : heap.Fresh (list :: made.map Prod.fst)) :
    (made.map Prod.fst).map (heap.owning list none made).textOf =
      (made.map Prod.snd).map some := by
  rw [List.map_map, List.map_map]
  refine List.map_congr_left fun entry member => ?_
  simp [textOf, cells_owning_of_mem fresh member]

namespace Call

def appendWord (engine : Engine σ) (interp : InterpId) (list : Option Obj) (word : String) :
    Call σ N Unit := do
  let element ← newText engine word
  withReference engine (some element) (discard (append engine interp list element))

theorem quoteList_eq (engine : Engine σ) (interp : InterpId) (words : List String) :
    (quoteList engine interp words : Call σ N String) =
      newObj engine >>= fun list => withReference engine list
        (words.forM (appendWord engine interp list) >>= fun _ => text engine list) :=
  rfl

/-- The list is under construction: it has one reference on each of its elements, which nobody else
refers to. -/
structure Quoting (shows : σ → Heap → Prop) (heap : Heap) (list : Obj)
    (made : List (Obj × List UInt8)) (scene : Scene σ N) : Prop where
  fresh : heap.Fresh (list :: made.map Prod.fst)
  shown : shows scene.store (heap.owning list none made)

def appending (list : Obj) (entry : Obj × List UInt8) : List (Event N) :=
  [.newString entry.1 entry.2, .increment entry.1, .append (some list) entry.1 0,
    .decrement entry.1]

variable {engine : Engine σ} {shows : σ → Heap → Prop} {format : ListFormat}
  {scene : Scene σ N} {heap : Heap} {list : Obj} {made : List (Obj × List UInt8)}

theorem meets_appendWord (laws : engine.QuotesLists shows format) (interp : InterpId)
    (quoting : Quoting shows heap list made scene) (word : String) :
    (appendWord engine interp (some list) word).Meets (fun _ later => ∃ element,
      Quoting shows heap list (made ++ [(element, Text.encode word)]) later ∧
      later.events.toList =
        scene.events.toList ++ appending list (element, Text.encode word)) scene := by
  have keeps := laws.toKeepsObjects
  refine (meets_newText keeps quoting.shown word).bind ?_
  rintro element between ⟨absent, shown, noted⟩
  refine meets_withReference keeps shown Heap.mem_live_set_self ?_
  intro entered held taken
  rw [Heap.retain_set] at held
  have found := (Heap.cells_set (heap.owning list none made) element list
    { count := 1, text := some (Text.encode word) }).trans
      ((if_neg (Heap.ne_of_not_mem_owning absent)).trans Heap.cells_owning)
  have appended := laws.appends interp held found rfl rfl Heap.mem_live_set_self
  refine (meets_append engine interp (some list) element entered).mono ?_
  rintro _ left ⟨stored, listed⟩
  refine ⟨_, stored ▸ keeps.append interp held found rfl Heap.mem_live_set_self appended,
    Heap.mem_live_append Heap.mem_live_set_self, ?_⟩
  intro later shownLater given
  refine ⟨element, ⟨quoting.fresh.concat absent, ?_⟩, ?_⟩
  · rwa [Heap.append_owning absent] at shownLater
  · rw [given, listed, taken, noted, appended]
    simp [appending]

theorem meets_appendWords (laws : engine.QuotesLists shows format) (interp : InterpId)
    (quoting : Quoting shows heap list made scene) (words : List String) :
    (words.forM (appendWord engine interp (some list))).Meets (fun _ later =>
      ∃ added : List (Obj × List UInt8), added.map Prod.snd = words.map Text.encode ∧
        Quoting shows heap list (made ++ added) later ∧
        later.events.toList = scene.events.toList ++ added.flatMap (appending list)) scene := by
  induction words generalizing scene made with
  | nil => exact meets_pure ⟨[], rfl, by simpa using quoting, by simp⟩
  | cons word rest ih =>
      refine (meets_appendWord laws interp quoting word).bind ?_
      rintro _ between ⟨element, quotingOn, noted⟩
      refine (ih quotingOn).mono ?_
      rintro _ later ⟨added, same, quotingLater, notedLater⟩
      refine ⟨(element, Text.encode word) :: added, by simp [same], by simpa using quotingLater, ?_⟩
      rw [notedLater, noted, List.flatMap_cons, List.append_assoc]

def quotation (list : Obj) (added : List (Obj × List UInt8)) : List (Event N) :=
  [.newObj (some list), .increment list] ++ added.flatMap (appending list) ++
    [.bytes (some list), .decrement list]

theorem meets_quoteList (laws : engine.QuotesLists shows format) (interp : InterpId)
    (shown : shows scene.store heap) (words : List String) :
    (quoteList engine interp words).Meets (fun answer later =>
      Text.encode answer = format.render (words.map Text.encode) ∧ shows later.store heap ∧
      ∃ list added, added.map Prod.snd = words.map Text.encode ∧
        (list :: added.map Prod.fst).Nodup ∧
        later.events.toList = scene.events.toList ++ quotation list added) scene := by
  have keeps := laws.toKeepsObjects
  obtain ⟨list, given⟩ := laws.newList shown
  obtain ⟨absent, opened⟩ := keeps.newObj shown given
  rw [quoteList_eq]
  have asked : (newObj engine).Meets (fun answer later => answer = some list ∧
      shows later.store (heap.set list { text := none }) ∧
      later.events = scene.events.push (.newObj (some list))) scene :=
    ⟨given, opened, congrArg (fun object => scene.events.push (.newObj object)) given⟩
  refine asked.bind ?_
  rintro _ between ⟨rfl, shownBetween, noted⟩
  refine meets_withReference keeps shownBetween Heap.mem_live_set_self ?_
  intro entered held taken
  rw [Heap.retain_set] at held
  have empty : Quoting shows heap list [] entered :=
    ⟨Heap.fresh_singleton absent, held⟩
  refine (meets_appendWords laws interp empty words).bind ?_
  rintro _ filled ⟨added, same, quoting, notedWords⟩
  rw [List.nil_append] at quoting
  have known : ∀ object ∈ some list, object ∈ (heap.owning list none added).live := by
    rintro _ ⟨⟩
    exact Heap.mem_live_set_self
  refine (meets_text keeps quoting.shown known).mono ?_
  rintro answer left ⟨shownLeft, read, notedText⟩
  refine ⟨_, shownLeft, known list rfl, ?_⟩
  intro later shownLater notedLast
  have rendered := laws.list quoting.shown Heap.cells_owning rfl 
      (Heap.textOf_elements quoting.fresh)
  rw [same] at rendered
  obtain ⟨text, spelled⟩ := format.spelled words
  refine ⟨?_, ?_, list, added, same, quoting.fresh.distinct, ?_⟩
  · rw [read, rendered, spelled, Text.decode_encode]
  · rwa [Heap.release_owning quoting.fresh] at shownLater
  · rw [notedLast, notedText]
    simp [notedWords, taken, noted, quotation]

theorem meets_readItems (laws : engine.QuotesLists shows format) (shown : shows scene.store heap)
    {entries : List (Obj × List UInt8)}
    (known : ∀ entry ∈ entries, ∃ cell, heap.cells entry.1 = some cell ∧ 0 < cell.count ∧
      cell.text = some entry.2) :
    ((entries.map Prod.fst).mapM fun item =>
      withReference engine (some item) (text engine (some item))).Meets (fun answers later =>
        answers = entries.map (Text.decode ∘ Prod.snd) ∧ shows later.store heap) scene := by
  have keeps := laws.toKeepsObjects
  induction entries generalizing scene with
  | nil => exact meets_pure ⟨rfl, shown⟩
  | cons entry rest ih =>
      obtain ⟨cell, found, counted, same⟩ := known entry (by simp)
      rw [List.map_cons, List.mapM_cons]
      refine (meets_readItem keeps shown found counted).bind ?_
      rintro answer between ⟨shownBetween, store, held, read⟩
      have text : (heap.retain entry.1).textOf entry.1 = some entry.2 := by
        simp [Heap.textOf, Heap.retain_of_found found, same]
      rw [laws.string held text] at read
      refine (ih shownBetween fun other member => known other (by simp [member])).bind ?_
      rintro _ later ⟨rfl, shownLater⟩
      exact meets_pure ⟨by rw [read]; rfl, shownLater⟩

theorem meets_splitList (laws : engine.QuotesLists shows format) (interp : InterpId)
    (shown : shows scene.store heap) {given : String} {texts : List (List UInt8)}
    (splits : format.split (Text.encode given) = some texts) :
    (splitList engine interp given).Meets (fun answer later =>
      answer = some (texts.map Text.decode) ∧ shows later.store heap) scene := by
  have keeps := laws.toKeepsObjects
  refine (meets_newText keeps shown given).bind ?_
  rintro object between ⟨absent, shownBetween, _⟩
  refine meets_withReference keeps shownBetween Heap.mem_live_set_self fun entered held _ => ?_
  rw [Heap.retain_set] at held
  have found : (heap.set object { count := 1, text := some (Text.encode given) }).cells object =
      some { count := 1, text := some (Text.encode given) } := by simp
  obtain ⟨made, rfl, freshBelow, answered, shownSplit⟩ :=
    laws.splits interp held found rfl rfl splits
  have fresh := Heap.Fresh.of_set absent freshBelow
  have new := (List.nodup_cons.mp fresh.distinct).1
  have split : (elements engine interp object).Meets (fun answer later =>
      answer = some (made.map Prod.fst) ∧
        shows later.store (heap.owning object (some (Text.encode given)) made)) entered := by
    refine ⟨congrArg (Option.map Elements.items) answered, ?_⟩
    rw [Heap.place_set new, Heap.set_set] at shownSplit
    exact shownSplit
  refine split.bind ?_
  rintro _ listed ⟨rfl, shownListed⟩
  have known : ∀ entry ∈ made, ∃ cell, (heap.owning object (some (Text.encode given)) made).cells
      entry.1 = some cell ∧ 0 < cell.count ∧ cell.text = some entry.2 := by
    intro entry member
    exact ⟨_, Heap.cells_owning_of_mem fresh member, Nat.lt_succ_self 0, rfl⟩
  refine (meets_readItems laws shownListed known).bind ?_
  rintro _ left ⟨rfl, shownLeft⟩
  refine meets_pure ⟨_, shownLeft, Heap.mem_live_set_self, fun later shownLater _ => ⟨?_, ?_⟩⟩
  · rw [List.map_map]
  · rwa [Heap.release_owning fresh] at shownLater

/-- Whenever the list is split, and for whichever interpreter: the same words come back. Each was
given to one new object, which was appended once, after those of the words before it. -/
theorem splitList_quoteList {heap : σ → Heap} (laws : engine.QuotesLists (heap · = ·) format)
    (words : List Word) (interp other : InterpId) (scene between : Scene σ N) :
    ((splitList engine other
        ((quoteList engine interp (words.map Word.render)).run scene).1).run between).1 =
      some (words.map Word.render) ∧
    ∃ list added, added.map Prod.snd = words.map (Text.encode ∘ Word.render) ∧
      (list :: added.map Prod.fst).Nodup ∧
      ((quoteList engine interp (words.map Word.render)).run scene).2.events.toList =
        scene.events.toList ++ quotation list added := by
  have shown : heap scene.store = heap scene.store := rfl
  have shownBetween : heap between.store = heap between.store := rfl
  obtain ⟨spelled, _, list, added, same, distinct, noted⟩ :=
    meets_quoteList laws interp shown (words.map Word.render)
  have splits : format.split (Text.encode
      ((quoteList engine interp (words.map Word.render)).run scene).1) = _ :=
    (congrArg format.split spelled).trans (format.split_render _)
  obtain ⟨answered, _⟩ := meets_splitList laws other shownBetween splits
  refine ⟨?_, list, added, ?_, distinct, noted⟩
  · rw [answered, List.map_map]
    simp [Function.comp_def, Text.decode_encode]
  · rw [same, List.map_map]

end Call

theorem Ideal.words_come_back :
    (engine fun _ => false).QuotesLists (id · = ·) .scripted ∧
      ((Call.splitList (engine fun _ => false) 1
        ((Call.quoteList (engine fun _ => false) 0 ["set", "a\x00b", "1"]).run
          ({ store := .empty } : Scene Heap Empty)).1).run
            ({ store := .empty } : Scene Heap Empty)).1 = some ["set", "a\x00b", "1"] :=
  ⟨quotesLists, (Call.splitList_quoteList quotesLists
    [.text "set", .text "a\x00b", .truth true] 0 1 { store := .empty } { store := .empty }).1⟩

end TclHost
