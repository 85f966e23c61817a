import TclHost.Proofs.Levels.Chain
import TclHost.Proofs.Script.Declared

/-!
The command that sets an array again. Keys and values are taken from the reply in pairs, sorted, and
written as a list that is one word of the command.
-/

namespace TclHost

open Process

variable {σ H N α : Type}

namespace Host

theorem flattenPairs_pairUp {items : List String} (even : Even items.length) :
    flattenPairs (pairUp items) = items := by
  obtain ⟨half, same⟩ := even
  induction items using pairUp.induct generalizing half with
  | case1 key value rest ih =>
      simp only [List.length_cons] at same
      exact congrArg (key :: value :: ·) (ih (half - 1) (by omega))
  | case2 items short =>
      cases items with
      | nil => rfl
      | cons item rest =>
          cases rest with
          | nil =>
              simp only [List.length_singleton] at same
              omega
          | cons value rest => exact absurd rfl (short item value rest)

theorem pairUp_flattenPairs (pairs : List (String × String)) :
    pairUp (flattenPairs pairs) = pairs := by
  induction pairs with
  | nil => rfl
  | cons pair rest ih => exact congrArg (pair :: ·) ih

theorem ordered_sortPairs (pairs : List (String × String)) :
    (sortPairs pairs).Pairwise fun left right =>
      left.1 < right.1 ∨ left.1 = right.1 ∧ left.2 ≤ right.2 := by
  have sorted : (sortPairs pairs).Pairwise (pairLe · ·) :=
    List.pairwise_mergeSort pairLe_trans pairLe_total pairs
  refine sorted.imp fun {left right} le => ?_
  rw [pairLe_iff, Prod.Lex.toLex_le_toLex] at le
  exact le

/-- What an array holds that is set by these pairs. Of two values for a key it is the later one. -/
def stored (pairs : List (String × String)) : Std.TreeMap String String :=
  .ofList pairs

theorem toList_stored_perm {pairs : List (String × String)}
    (distinct : (pairs.map Prod.fst).Nodup) : (stored pairs).toList.Perm pairs := by
  have apart : pairs.Pairwise fun left right => ¬ compare left.1 right.1 = .eq := by
    refine (List.pairwise_map.mp distinct).imp fun different same => ?_
    exact different (compare_eq_iff_eq.mp same)
  have once : (stored pairs).toList.Nodup :=
    Std.TreeMap.distinct_keys_toList.imp fun different same => different (by simp [same])
  refine (List.perm_ext_iff_of_nodup once distinct.of_map).mpr fun ⟨key, value⟩ => ?_
  have found {other : String} (member : (key, other) ∈ pairs) : (stored pairs)[key]? = some other :=
    Std.TreeMap.getElem?_ofList_of_mem (by simp) apart member
  rw [Std.TreeMap.mem_toList_iff_getElem?_eq_some]
  refine ⟨fun holds => ?_, found⟩
  -- The key has one value among the pairs, if any, so that is the one that was stored.
  by_cases known : key ∈ pairs.map Prod.fst
  · obtain ⟨⟨_, other⟩, member, rfl⟩ := List.mem_map.mp known
    rwa [Option.some.inj (holds.symm.trans (found member))]
  · have missing : (stored pairs)[key]? = none :=
      Std.TreeMap.getElem?_ofList_of_contains_eq_false (by simpa using known)
    rw [missing] at holds
    cases holds

/-! Words are quoted and lists are read wherever the session may be used. -/

variable {setup : Setup σ H N} {fuel : Nat} {world between : World σ H N} {session : SessionId}
  {heap : σ → Heap} {format : ListFormat}

theorem exists_attains_quoteList (fuel : Nat)
    (laws : setup.engine.QuotesLists (heap · = ·) format)
    (usable : world.usable session = true) (words : List String) :
    ∃ list scene, Attains setup fuel (ExceptT.lift (quoteList session words)) world list
      { world with scene } ∧ format.Reads list words := by
  obtain ⟨list, scene, quoted⟩ := Run.exec_quoteList_of_usable usable setup
    (Run.dispatch setup fuel) words
  have attained : Attains setup fuel (ExceptT.lift (quoteList session words)) world list
      { world with scene } :=
    attains_lift.mpr (exec_ask_ok.mpr ⟨list, _, quoted, rfl⟩)
  exact ⟨list, scene, attained, Run.answered_of_exec laws quoted⟩

theorem attains_splitLenient (laws : setup.engine.QuotesLists (heap · = ·) format)
    (usable : world.usable session = true) {list : String} {texts : List (List UInt8)}
    (splits : format.split (Text.encode list) = some texts) :
    ∃ scene, Attains setup fuel (ExceptT.lift (splitLenient session list)) world
      (texts.map Text.decode) { world with scene } := by
  have shown : heap world.scene.store = heap world.scene.store := rfl
  let scene := ((Call.splitList setup.engine session list).run world.scene).2
  have split : (Run.perform setup (Run.dispatch setup fuel) (.splitList session list)).exec world =
      .ok (some (texts.map Text.decode)) { world with scene } := by
    rw [← (Call.meets_splitList laws session shown splits).1]
    exact Run.exec_splitList_eq usable list
  exact ⟨scene, attains_lift.mpr (exec_ask_ok.mpr ⟨_, _, split, rfl⟩)⟩

section

variable {caller : Option SessionId} {rest : List Frame} (sound : world.Sound)
  (standing : World.Standing caller rest world)
include sound standing

/-- A script that returns leaves the session to the program that evaluated it. -/
theorem usable_of_evaluated (usable : world.usable session = true) {script reply : String}
    (attained : Attains setup fuel (eval session script) world reply between) :
    between.usable session = true := by
  obtain ⟨present, mayUse⟩ := World.usable_iff.mp usable
  obtain ⟨kept, frames⟩ := standing.frames
  have held : (⟨caller, kept⟩ : Frame).holds session = true := by
    rw [← World.mayUse_eq frames, mayUse]
  rw [Attains, Host.exec_eval present mayUse] at attained
  split at attained
  · rename_i answer last ended
    obtain ⟨-, rfl⟩ := EStateM.Result.ok.inj attained
    obtain ⟨unmoved, reached⟩ := (Run.obeys_evaluate (Run.answers_dispatch setup fuel) setup.engine
      session script sound standing.secured frames held).exec_ok ended
    -- The script may have been at work elsewhere, but the program's handles are still its own.
    have framesLast := unmoved.frames.trans frames
    have soundLast := reached.preserved (fun _ _ step => step.sound) sound
    refine World.usable_iff.mpr ⟨soundLast.alive framesLast held, ?_⟩
    rw [World.mayUse_eq framesLast, held]
  · cases attained

theorem usable_of_invoked {words : List String} {reply : String}
    (attained : Attains setup fuel (invoke session words) world reply between) :
    between.usable session = true := by
  obtain ⟨script, later, quoted, evaluated⟩ := attains_bind.mp attained
  have quoting : (Host.run setup fuel (quoteList session words)).exec world = .ok script later :=
    attains_lift.mp quoted
  obtain ⟨onward, reached⟩ := (Run.obeys_program (Run.answers_dispatch setup fuel) setup
    (quoteList session words) sound standing).exec_ok quoting
  obtain ⟨list, _, performed, same⟩ := exec_ask_ok.mp quoting
  cases same
  obtain ⟨present, mayUse, _, same⟩ := Run.exec_quoteList_ok.mp performed
  have usable : later.usable session = true := same ▸ World.usable_iff.mpr ⟨present, mayUse⟩
  have soundLater := reached.preserved (fun _ _ step => step.sound) sound
  exact usable_of_evaluated soundLater onward.standing usable evaluated

end

end Host

namespace Var

open Host

structure Told (setup : Setup σ H N) (fuel : Nat) (format : ListFormat) (var : Var)
    (world : World σ H N) (items : List String) (between : World σ H N) : Prop where
  array : var.kind = .array
  sound : world.Sound
  standing : ∃ caller rest, World.Standing caller rest world
  replied : ∃ reply texts,
    Attains setup fuel (invoke var.session ["array", "get", var.name]) world reply between ∧
      format.split (Text.encode reply) = some texts ∧ texts.map Text.decode = items

/-- The pairs of the reply, in order, are the elements, and they are what the command sets the
array to. -/
structure Rewritten (setup : Setup σ H N) (fuel : Nat) (format : ListFormat) (var : Var)
    (world : World σ H N) (items : List String) (between : World σ H N)
    (pairs sorted : List (String × String)) (text contents : String) : Prop where
  paired : flattenPairs pairs = items
  permuted : sorted.Perm pairs
  ordered : sorted.Pairwise fun left right =>
    left.1 < right.1 ∨ left.1 = right.1 ∧ left.2 ≤ right.2
  elements : ∃ scene, Attains setup fuel var.elements world sorted { between with scene }
  script : ∃ scene, Attains setup fuel var.script world text { between with scene }
  command : format.Reads text ["array", "set", var.name, contents]
  contents : format.Reads contents (flattenPairs sorted)
  /-- A reply with the same pairs, such as that word itself, has the same elements. -/
  again : ∀ (other : Var) (later after : World σ H N) (others : List (String × String)),
    Told setup fuel format other later (flattenPairs others) after → others.Perm sorted →
      ∃ scene, Attains setup fuel other.elements later sorted { after with scene }
  /-- So has an array that is set by that word, if no key is there twice. -/
  restored : (pairs.map Prod.fst).Nodup →
    ∀ (other : Var) (later after : World σ H N) (others : List (String × String)),
      Told setup fuel format other later (flattenPairs others) after →
        others.Perm (stored sorted).toList →
          ∃ scene, Attains setup fuel other.elements later sorted { after with scene }

variable {setup : Setup σ H N} {fuel : Nat} {format : ListFormat} {heap : σ → Heap} {var : Var}
  {world between : World σ H N} {items : List String}

theorem Told.usable (told : Told setup fuel format var world items between) :
    between.usable var.session = true := by
  obtain ⟨caller, rest, standing⟩ := told.standing
  obtain ⟨reply, texts, replied, _⟩ := told.replied
  exact usable_of_invoked told.sound standing replied

section

variable (laws : setup.engine.QuotesLists (heap · = ·) format)
include laws

theorem Told.attains_elements (told : Told setup fuel format var world items between) :
    ∃ scene, Attains setup fuel var.elements world (sortPairs (pairUp items))
      { between with scene } := by
  obtain ⟨session, name, kind⟩ := var
  obtain rfl : kind = .array := told.array
  obtain ⟨reply, texts, replied, splits, rfl⟩ := told.replied
  obtain ⟨scene, split⟩ := attains_splitLenient laws told.usable splits
  refine ⟨scene, attains_bind.mpr ⟨reply, between, replied, ?_⟩⟩
  exact attains_bind.mpr ⟨_, _, split, attains_pure.mpr ⟨rfl, rfl⟩⟩

theorem Told.attains_script (told : Told setup fuel format var world items between) :
    ∃ text contents scene, Attains setup fuel var.script world text { between with scene } ∧
      format.Reads text ["array", "set", var.name, contents] ∧
        format.Reads contents (flattenPairs (sortPairs (pairUp items))) := by
  obtain ⟨session, name, kind⟩ := var
  obtain rfl : kind = .array := told.array
  obtain ⟨read, elements⟩ := told.attains_elements laws
  have usable : ∀ scene, ({ between with scene } : World σ H N).usable session = true :=
    fun _ => told.usable
  obtain ⟨contents, first, quoted, listed⟩ := exists_attains_quoteList fuel laws (usable read)
    (flattenPairs (sortPairs (pairUp items)))
  obtain ⟨text, second, written, commanded⟩ := exists_attains_quoteList fuel laws (usable first)
    ["array", "set", name, contents]
  refine ⟨text, contents, second, attains_bind.mpr ⟨_, _, elements, ?_⟩, commanded, listed⟩
  exact attains_bind.mpr ⟨contents, _, quoted, written⟩

theorem Told.elements_of_perm {pairs others : List (String × String)}
    (told : Told setup fuel format var world (flattenPairs others) between)
    (permuted : others.Perm pairs) :
    ∃ scene, Attains setup fuel var.elements world (sortPairs pairs) { between with scene } := by
  have attained := told.attains_elements laws
  rwa [pairUp_flattenPairs, sortPairs_eq_of_perm permuted] at attained

/-- Whatever the keys and values are, nothing is lost between the reply and the command. -/
theorem array_rewritten (told : Told setup fuel format var world items between)
    (even : Even items.length) :
    ∃ pairs sorted text contents,
      Rewritten setup fuel format var world items between pairs sorted text contents := by
  obtain ⟨text, contents, scene, written, command, listed⟩ := told.attains_script laws
  have permuted : (sortPairs (pairUp items)).Perm (pairUp items) := List.mergeSort_perm ..
  refine ⟨pairUp items, sortPairs (pairUp items), text, contents,
    flattenPairs_pairUp even, permuted, ordered_sortPairs _, told.attains_elements laws,
    ⟨scene, written⟩, command, listed, ?_, ?_⟩
  · intro other later after others retold same
    exact retold.elements_of_perm laws (same.trans permuted)
  · intro distinct other later after others retold same
    have once := toList_stored_perm ((permuted.map Prod.fst).nodup_iff.mpr distinct)
    exact retold.elements_of_perm laws (same.trans (once.trans permuted))

end

end Var

/-! An array with an empty key and with a list in a list. -/

namespace Ideal

def nested (script : String) : String :=
  if script = "array get a" then "b\\sc 1\\s2\\\\s3 \\e \\e" else ""

def nesting : Setup Heap Unit Empty :=
  { Ideal.setup fun _ => false with
    engine := answering fun script => Text.encode (nested (Text.decode script)) }

def filled : World Heap Unit Empty :=
  Process.finalState ((Host.run nesting 0 (Host.openSession {})).exec
    (World.start Heap.empty { outcome := some (.ok "") }))

theorem filled_stands : filled.Sound ∧ World.Standing none [] filled := by
  have ran : Process.result? ((Host.run nesting 0
      (Host.openSession {} : Host Unit Empty (Except Error SessionId))).exec
      (World.start Heap.empty { outcome := some (.ok "") })) = some (.ok 0) := by decide +kernel
  exact Host.stands_finally (Process.result?_eq_some_iff.mp ran)

/-- The empty key comes first, and the value that is a list stays one word. -/
theorem nested_rewritten : Even ["b c", "1 2\\s3", "", ""].length ∧
    ∃ between, Var.Told nesting 0 .scripted ⟨0, "a", .array⟩ filled ["b c", "1 2\\s3", "", ""]
        between ∧
      ∃ pairs text contents, Var.Rewritten nesting 0 .scripted ⟨0, "a", .array⟩ filled
        ["b c", "1 2\\s3", "", ""] between pairs [("", ""), ("b c", "1 2\\s3")] text contents := by
  obtain ⟨sound, standing⟩ := filled_stands
  have ran : Process.result? ((Host.run nesting 0 (Host.invoke 0 ["array", "get", "a"] :
      Attempt Unit Empty String).run).exec filled) =
        some (.ok "b\\sc 1\\s2\\\\s3 \\e \\e") := by decide +kernel
  obtain ⟨between, replied⟩ := Process.result?_eq_some_iff.mp ran
  have read : ListFormat.scripted.Reads "b\\sc 1\\s2\\\\s3 \\e \\e"
      ["b c", "1 2\\s3", "", ""] := by decide +kernel
  have told : Var.Told nesting 0 .scripted ⟨0, "a", .array⟩ filled ["b c", "1 2\\s3", "", ""]
      between :=
    ⟨rfl, sound, ⟨none, [], standing⟩, _, _, replied, read, by decide +kernel⟩
  have even : Even ["b c", "1 2\\s3", "", ""].length := ⟨2, rfl⟩
  obtain ⟨pairs, sorted, text, contents, rewritten⟩ :=
    Var.array_rewritten (readsLists _).toQuotesLists told even
  have first : pairs = [("b c", "1 2\\s3"), ("", "")] := by
    rw [← Host.pairUp_flattenPairs pairs, rewritten.paired]
    rfl
  have same : sorted = [("", ""), ("b c", "1 2\\s3")] := by
    have permuted : sorted.Perm [("", ""), ("b c", "1 2\\s3")] :=
      (first ▸ rewritten.permuted).trans (.swap ..)
    refine permuted.eq_of_pairwise ?_ rewritten.ordered (by decide +kernel)
    intro left right _ _ before after
    rw [← Prod.Lex.toLex_le_toLex] at before after
    exact toLex.injective (le_antisymm before after)
  exact ⟨even, between, told, pairs, text, contents, same ▸ rewritten⟩

end Ideal

end TclHost
