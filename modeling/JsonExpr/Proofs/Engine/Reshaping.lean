import JsonExpr.Proofs.Builtin.Embedding
import JsonExpr.Proofs.Engine.Merging
import JsonExpr.Proofs.Value.Reshaping

-- Objects reshaped in an engine: written as pairs and read from them, and split by their keys.
namespace JsonExpr

namespace Builtin

theorem find?_pairs : operations.find? "$pairs" = some pairs := by
  simp [operations, Fields.find?]

theorem find?_fromPairs : operations.find? "$fromPairs" = some fromPairs := by
  simp [operations, Fields.find?]

theorem find?_pick : operations.find? "$pick" = some (keySelection "$pick" true) := by
  simp [operations, Fields.find?, pickKeys]

theorem find?_omit : operations.find? "$omit" = some (keySelection "$omit" false) := by
  simp [operations, Fields.find?, omitKeys]

-- An entry as a pair of its key and its value.
def asPair (entry : String × Value) : Value := .array [.string entry.1, entry.2]

theorem asPair_injective : Function.Injective asPair := by
  rintro ⟨key, value⟩ ⟨other, new⟩ h
  simpa [asPair] using h

theorem objectOfPairs_map (entries : Object) :
    objectOfPairs (.array (entries.map asPair)) = .done (.object (Fields.ofPairs entries)) := by
  have hentries : (entries.map asPair).mapM entryOf? = some entries := by
    have hall : entries.mapM some = some entries := by
      simpa using List.mapM_pure (m := Option) (l := entries) (f := id)
    rw [List.mapM_map]
    exact hall
  rw [objectOfPairs, hentries]

-- Only a text is equal to a key.
theorem isListed_iff {names : List Value} {key : String} :
    isListed names key = true ↔ .string key ∈ names := by
  have hequal (name : Value) : name.equal (.string key) = true ↔ name = .string key := by
    cases name <;> simp [Value.equal]
  simp [isListed, Value.containsEqual, hequal]

end Builtin

namespace Engine

open Builtin

variable {engine : Engine} {names : List String} {name : String}

-- An operation on a value comes to this outcome in both modes: on the input, whatever the operand
-- is, and on what the operand evaluates to.
structure ComputesOn (engine : Engine) (name : String) (value : Value)
    (outcome : Except Failure Value) : Prop where
  applied : ∀ operand, engine.Computes (.against value) name operand [] outcome
  evaluated : engine.ComputesFrom .alone name value outcome

theorem Has.computesOn (hhas : engine.Has names) (hname : name ∈ names)
    (run : Value → Script Value)
    (hfind : operations.find? name = some (both (fun _ input => run input)
      fun operand => do run (← .evaluate operand)))
    {value : Value} {outcome : Except Failure Value}
    (hrun : ∀ resolve registered,
      (run value).run resolve registered = Run.ofExcept outcome) :
    engine.ComputesOn name value outcome where
  applied operand := by
    refine hhas.computes hname hfind (by simp) fun resolve world _ => ?_
    simp only [both, Operation.call, Asking.mode, Asking.input]
    rw [hrun, Run.result_ofExcept]
  evaluated := hhas.computesFrom hname hfind (fun _ => rfl) hrun

-- Some fields of an object are selected in both modes: of the input by the names that the operand
-- resolves to, and of an object by names if the operand holds both, which are resolved one after the
-- other.
structure Selects (engine : Engine) (name : String) (fields : Object) (keys : List Value)
    (selected : Object) : Prop where
  applied : engine.ComputesFrom (.against (.object fields)) name (.array keys)
    (.ok (.object selected))
  evaluated : ∀ (operand : Object) (object properties : Value),
    operand.find? "object" = some object → operand.find? "properties" = some properties →
      engine.Computes .alone name (.object operand)
        [(.evaluate object, .object fields), (.evaluate properties, .array keys)]
        (.ok (.object selected))

theorem Has.selects (hhas : engine.Has names) (hname : name ∈ names) {keep : Bool}
    (hfind : operations.find? name = some (keySelection name keep)) (fields : Object)
    (keys : List Value) :
    engine.Selects name fields keys (fields.filter fun entry => isListed keys entry.1 == keep) where
  applied := hhas.computesFrom hname hfind (fun _ => rfl) fun _ _ => rfl
  evaluated operand object properties hobject hproperties := by
    have hkeys : requireKeys name ["object", "properties"] (.object operand) = .done operand :=
      requireKeys_of_contains (by simp [contains_of_find? hobject, contains_of_find? hproperties])
    have hfields : field "object" operand = object ∧ field "properties" operand = properties := by
      simp [field, hobject, hproperties]
    refine hhas.computes hname hfind ?_ fun resolve world hfound => ?_
    · simpa [Request.expression] using
        And.intro (Value.Part.of_find? hobject) (Value.Part.of_find? hproperties)
    · simp only [keySelection, both, Operation.call, Asking.mode, hkeys, hfields, Script.run_bind,
        Script.run_done, Script.run_evaluate, Run.bind_done]
      exact hfound.result_bind fun after hrest => hrest.result_bind fun after _ => rfl

section Pairs

variable (hhas : engine.Has names)

include hhas

theorem Has.computesOn_pairs (hname : "$pairs" ∈ names) (fields : Object) :
    engine.ComputesOn "$pairs" (.object fields) (.ok (.array (fields.map asPair))) :=
  hhas.computesOn hname (fun value => do
    return .array ((← requireObject "$pairs" value).map asPair)) find?_pairs fun _ _ => rfl

theorem Has.computesOn_fromPairs (hname : "$fromPairs" ∈ names) (entries : Object) :
    engine.ComputesOn "$fromPairs" (.array (entries.map asPair))
      (.ok (.object (Fields.ofPairs entries))) := by
  refine hhas.computesOn hname objectOfPairs find?_fromPairs fun resolve registered => ?_
  rw [objectOfPairs_map]
  rfl

end Pairs

-- An object is what its pairs denote, with its keys in their order. Whatever pairs of texts and
-- values are given, the object of them has each key once, where it first appears and with its last
-- value, so that its pairs are the given ones exactly if no key is repeated. And whatever is listed,
-- the listed fields of an object and the others are two parts of it that have no key in common and
-- that are merged into its fields again.
theorem Has.reshaping_keeps_all
    (hhas : engine.Has ["$pairs", "$fromPairs", "$pick", "$omit", "$merge"]) :
    (∀ fields : Object, fields.keys.Nodup →
      engine.ComputesOn "$pairs" (.object fields) (.ok (.array (fields.map asPair))) ∧
        engine.ComputesOn "$fromPairs" (.array (fields.map asPair)) (.ok (.object fields))) ∧
    (∀ entries : Object, ∃ (fields : Object) (pairs : List Value),
      engine.ComputesOn "$fromPairs" (.array (entries.map asPair)) (.ok (.object fields)) ∧
        Fields.Denotes entries fields ∧
        engine.ComputesOn "$pairs" (.object fields) (.ok (.array pairs)) ∧
        (pairs = entries.map asPair ↔ entries.keys.Nodup)) ∧
    ∀ (fields : Object) (keys : List Value), fields.keys.Nodup → ∃ picked others : Object,
      engine.Selects "$pick" fields keys picked ∧ engine.Selects "$omit" fields keys others ∧
        Fields.PartsBy (fun key => .string key ∈ keys) fields picked others ∧
        (∀ key ∈ picked.keys, key ∉ others.keys) ∧
        ∀ parts : List Object, parts.Perm [picked, others] → ∃ merged : Object,
          engine.Merges (parts.map .object) (.ok (.object merged)) ∧ merged.Perm fields := by
  refine ⟨fun fields hnodup => ?_, fun entries => ?_, fun fields keys hnodup => ?_⟩
  · have hobject := hhas.computesOn_fromPairs (by simp) fields
    rw [Fields.ofPairs_eq_self_iff.mpr hnodup] at hobject
    exact ⟨hhas.computesOn_pairs (by simp) fields, hobject⟩
  · refine ⟨_, _, hhas.computesOn_fromPairs (by simp) entries, Fields.denotes_ofPairs entries,
      hhas.computesOn_pairs (by simp) _, ?_⟩
    rw [asPair_injective.list_map.eq_iff, Fields.ofPairs_eq_self_iff]
  · have hlisted : ∀ key, isListed keys key = true ↔ .string key ∈ keys := fun _ => isListed_iff
    have hparts := Fields.partsBy_filter hlisted fields
    have hmerge : engine.Has ["$merge"] := fun name hmem => hhas name (by simp_all)
    exact ⟨_, _, hhas.selects (by simp) find?_pick fields keys,
      hhas.selects (by simp) find?_omit fields keys, hparts, hparts.disjoint,
      fun parts hperm => ⟨_, hmerge.merges_objects parts, hparts.union_perm hnodup hperm⟩⟩

-- The key that is given twice keeps its first place. Names that are repeated, are no keys, or are no
-- texts do not matter when an object is split.
theorem reshape_repeated_key :
    let given : Object := [("b", .null), ("a", .null), ("b", .bool true)]
    let object : Object := [("b", .bool true), ("a", .null)]
    let keys : List Value := [.string "a", .int 1, .string "c", .string "a"]
    complete.Has ["$pairs", "$fromPairs", "$pick", "$omit", "$merge"] ∧ object.keys.Nodup ∧
      ∃ fields merged : Object, fields.keys = ["b", "a"] ∧ fields.find? "b" = some (.bool true) ∧
        merged.Perm object ∧ ∀ world,
          (complete.apply (.object [("$fromPairs", .null)]) (.array (given.map asPair))
              world).result = .ok (.object fields) ∧
            (complete.apply (.object [("$fromPairs", .null)]) (.array (object.map asPair))
              world).result = .ok (.object object) ∧
            (complete.apply (.object [("$pick", .array keys)]) (.object object) world).result =
              .ok (.object [("a", .null)]) ∧
            (complete.apply (.object [("$merge", .object [("b", .bool true)])])
              (.object [("a", .null)]) world).result = .ok (.object merged) := by
  intro given object keys
  have hhas : complete.Has ["$pairs", "$fromPairs", "$pick", "$omit", "$merge"] :=
    complete_has (by decide)
  have hnodup : object.keys.Nodup := by decide
  obtain ⟨hback, hdenotes, hsplit⟩ := hhas.reshaping_keeps_all
  obtain ⟨fields, -, hfields, hdenoted, -⟩ := hdenotes given
  obtain ⟨picked, others, hpick, homit, -, -, hmerge⟩ := hsplit object keys hnodup
  obtain ⟨merged, hmerged, hperm⟩ := hmerge [picked, others] (.refl _)
  have hpicked (world : Surroundings) := (hpick.applied (.array keys)).resolved rfl world
    (.singleton rfl)
  have homitted (world : Surroundings) := (homit.applied (.array keys)).resolved rfl world
    (.singleton rfl)
  let start : Surroundings := ⟨mkStdGen 0, default⟩
  obtain rfl : [("a", .null)] = picked := Value.object.inj (Except.ok.inj (hpicked start))
  obtain rfl : [("b", .bool true)] = others := Value.object.inj (Except.ok.inj (homitted start))
  refine ⟨hhas, hnodup, fields, merged, hdenoted.keys, ?_, hperm, fun world => ⟨?_, ?_, ?_, ?_⟩⟩
  · exact hdenoted.last [("b", .null), ("a", .null)] "b" (.bool true) [] rfl (by decide)
  · exact (hfields.applied .null).resolved rfl world (.nil world)
  · exact ((hback object hnodup).2.applied .null).resolved rfl world (.nil world)
  · exact hpicked world
  · exact (hmerged.applied _ (.object [("b", .bool true)]) rfl
      (.object [("b", .bool true)])).resolved rfl world (.singleton rfl)

end Engine

end JsonExpr
