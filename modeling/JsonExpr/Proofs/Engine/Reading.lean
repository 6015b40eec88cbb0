import JsonExpr.Proofs.Engine.BuiltIn
import JsonExpr.Proofs.Value.Constant
import JsonExpr.Proofs.Value.Reading

-- Reading along a path and asking whether it exists: what both find, in both modes.
namespace JsonExpr

namespace Builtin

theorem find?_get : operations.find? "$get" = some get := by
  simp [operations, Fields.find?]

theorem find?_exists : operations.find? "$exists" = some exists? := by
  simp [operations, Fields.find?]

-- The fields of an operand that holds an object and a path into it, which is a text or any other
-- data that names a path.
def intoSpelled (object spelling : Value) : Object := [("object", object), ("path", spelling)]

def into (object : Value) (path : String) : Object := [("object", object), ("path", .string path)]

theorem into_eq (object : Value) (path : String) :
    into object path = intoSpelled object (.string path) := rfl

theorem requireKeys_intoSpelled (name : String) (object spelling : Value) :
    requireKeys name ["object", "path"] (.object (intoSpelled object spelling)) =
      .done (intoSpelled object spelling) := rfl

theorem field_object_intoSpelled (object spelling : Value) :
    field "object" (intoSpelled object spelling) = object := rfl

theorem field_path_intoSpelled (object spelling : Value) :
    field "path" (intoSpelled object spelling) = spelling := rfl

-- An operation that answers for a path into its input, or into an object that it is given.
structure LooksInto (operation : Operation) (answer : Path → Value → Value) : Prop where
  applied {resolve : Request → Run Value} (registered : String → Bool) {path : String}
    {input : Value} (hpath : resolve (.apply (.string path) input) = .done (.string path)) :
    (operation.call .apply (.string path) input).run resolve registered =
      .done (answer (Path.parse path) input)
  evaluated {resolve : Request → Run Value} (registered : String → Bool) {path : String}
    (object input : Value) (hpath : resolve (.evaluate (.string path)) = .done (.string path)) :
    (operation.call .evaluate (.object (into object path)) input).run resolve registered =
      (resolve (.evaluate object)).bind fun data => .done (answer (Path.parse path) data)

-- Without a default the found value is returned, even if it is null.
theorem orDefault_null (found : Value) (resolve : Value → Script Value) :
    orDefault found .null resolve = .done found := by
  simp [orDefault, Value.isNull]

section Spelled

variable {resolve : Request → Run Value} {registered : String → Bool} {spelling : Value}
  {path : Path} (hpath : pathOf? spelling = some path)

include hpath

theorem run_get_applied {input : Value}
    (hspelling : resolve (.apply spelling input) = .done spelling) :
    (get.call .apply spelling input).run resolve registered = .done (input.read path) := by
  have hoperand : getWithInput spelling input = (do
      let path ← requirePath (← .apply spelling input)
      return input.read path) := by
    cases spelling with
    | object fields => cases hpath
    | _ => rfl
  simp only [get, both, Operation.call, hoperand, Script.run_bind, Script.run_apply, hspelling,
    Run.bind_done, requirePath, hpath]
  rfl

theorem run_get_evaluated (object input : Value)
    (hspelling : resolve (.evaluate spelling) = .done spelling) :
    (get.call .evaluate (.object (intoSpelled object spelling)) input).run resolve registered =
      (resolve (.evaluate object)).bind fun data => .done (data.read path) := by
  have hfallback : field "default" (intoSpelled object spelling) = .null := rfl
  simp only [get, both, Operation.call, getAlone, requireKeys_intoSpelled,
    field_object_intoSpelled, field_path_intoSpelled, hfallback, orDefault_null, Script.run_bind,
    Script.run_done, Script.run_evaluate, hspelling, Run.bind_done, requirePath, hpath]

end Spelled

theorem get_looksInto : LooksInto get Value.read where
  applied _ _ _ hpath := run_get_applied rfl hpath
  evaluated _ _ object input hpath := run_get_evaluated rfl object input hpath

theorem exists_looksInto : LooksInto exists? fun path data => .bool (data.hasPath path) where
  applied registered path input hpath := by
    simp only [exists?, both, Operation.call, Script.run_bind, Script.run_apply, hpath,
      Run.bind_done]
    rfl
  evaluated registered path object input hpath := by
    simp only [exists?, both, Operation.call, into_eq, requireKeys_intoSpelled,
      field_object_intoSpelled, field_path_intoSpelled, Script.run_bind, Script.run_done,
      Script.run_evaluate, hpath, Run.bind_done]
    rfl

end Builtin

namespace Engine

open Builtin

-- A question about a path into the input, and about a path into given data.
def looking (name path : String) : Value := .object [(name, .string path)]

def lookingInto (name path : String) (data : Value) : Value :=
  .object [(name, .object (into data.escape path))]

section Looking

variable {engine : Engine} {names : List String} {name : String} {operation : Operation}
  {answer : Path → Value → Value} (hhas : engine.Has names) (hplain : engine.middleware = [])
  (hname : name ∈ names) (hfind : operations.find? name = some operation)
  (hlooks : LooksInto operation answer) (path : String) (data : Value) (world : Surroundings)

include hhas hplain hname hfind hlooks

theorem Has.apply_looking :
    engine.apply (looking name path) data world =
      ⟨.ok (answer (Path.parse path) data), [.dispatching name .apply], world⟩ := by
  obtain ⟨levels, hrun⟩ :=
    hhas.resolve_eq hplain hname hfind (.apply (looking name path) data) rfl
  simp only [callFor] at hrun
  rw [apply, hrun, hlooks.applied _ rfl]
  rfl

theorem Has.evaluate_lookingInto (hliteral : literalName ∈ names) :
    engine.evaluate (lookingInto name path data) world =
      ⟨.ok (answer (Path.parse path) data),
        [.dispatching name .evaluate, .dispatching literalName .evaluate], world⟩ := by
  obtain ⟨levels, hrun⟩ :=
    hhas.resolve_eq hplain hname hfind (.evaluate (lookingInto name path data)) rfl
  have hdata : engine.resolveWith (engine.dispatch (levels + 1)) (.evaluate data.escape) =
      (Run.note (.dispatching literalName .evaluate)).bind fun _ => .done data :=
    hhas.resolveWith_literal hplain hliteral levels rfl
  simp only [callFor] at hrun
  rw [evaluate, hrun, hlooks.evaluated _ _ _ rfl, hdata]
  rfl

end Looking

-- Reading follows the segments as far as they exist: where the path exists it returns what is stored
-- there, and null everywhere else. So a null that is found at a path that exists is stored there.
theorem reads_what_exists {path : String} (hpath : Path.wildcard ∉ Path.parse path)
    (data : Value) :
    ∃ (found : Value) (present : Bool),
      data.read (Path.parse path) = found ∧
      data.readBy ((Path.parse path).map .string) = .ok found ∧
      data.hasPath (Path.parse path) = present ∧
      (∀ engine : Engine, engine.Has ["$exists", "$get", literalName] → engine.middleware = [] →
        ∀ world,
          engine.apply (looking "$get" path) data world =
              ⟨.ok found, [.dispatching "$get" .apply], world⟩ ∧
            engine.apply (looking "$exists" path) data world =
              ⟨.ok (.bool present), [.dispatching "$exists" .apply], world⟩ ∧
            engine.evaluate (lookingInto "$get" path data) world =
              ⟨.ok found, [.dispatching "$get" .evaluate, .dispatching literalName .evaluate],
                world⟩ ∧
            engine.evaluate (lookingInto "$exists" path data) world =
              ⟨.ok (.bool present),
                [.dispatching "$exists" .evaluate, .dispatching literalName .evaluate], world⟩) ∧
      (present = false → found = .null) ∧
      (∀ stored, data.HoldsAt (Path.parse path) stored ↔ present = true ∧ stored = found) ∧
      (found ≠ .null → present = true) ∧
      (data.HoldsAt (Path.parse path) .null ↔ present = true ∧ found = .null) := by
  have habsent : data.hasPath (Path.parse path) = false → data.read (Path.parse path) = .null :=
    fun h => Value.read_of_hasPath_eq_false h hpath
  refine ⟨_, _, rfl, Value.readBy_texts _ data, rfl, ?_, habsent,
    fun stored => Value.holdsAt_iff hpath, ?_, ?_⟩
  · intro engine hhas hplain world
    refine ⟨?_, ?_, ?_, ?_⟩
    · exact hhas.apply_looking hplain (by simp) find?_get get_looksInto path data world
    · exact hhas.apply_looking hplain (by simp) find?_exists exists_looksInto path data world
    · exact hhas.evaluate_lookingInto hplain (by simp) find?_get get_looksInto path data world
        (by simp)
    · exact hhas.evaluate_lookingInto hplain (by simp) find?_exists exists_looksInto path data
        world (by simp)
  · intro hfound
    exact (Bool.not_eq_false _).mp fun h => hfound (habsent h)
  · rw [Value.holdsAt_iff hpath, @eq_comm _ Value.null]

-- A null that is stored in an item of a list, and none behind its end.
theorem reads_stored_null :
    let data : Value := .object [("a", .array [.null, .object [("b", .null)]])]
    Path.wildcard ∉ Path.parse "a[1].b" ∧ complete.Has ["$exists", "$get", literalName] ∧
      complete.middleware = [] ∧ data.HoldsAt ["a", "1", "b"] .null ∧
      (∀ world, complete.apply (looking "$exists" "a[1].b") data world =
        ⟨.ok (.bool true), [.dispatching "$exists" .apply], world⟩) ∧
      ∀ world, complete.apply (looking "$get" "a[1].b") data world =
        ⟨.ok .null, [.dispatching "$get" .apply], world⟩ := by
  intro data
  have hparse : Path.parse "a[1].b" = ["a", "1", "b"] := by cbv
  have hplain : Path.wildcard ∉ Path.parse "a[1].b" := by
    rw [hparse]
    decide
  have hhas : complete.Has ["$exists", "$get", literalName] := complete_has (by decide)
  have hposition : integer? "1".toList = some ((1 : Nat) : Int) := by decide
  have hholds : data.HoldsAt ["a", "1", "b"] .null :=
    .child (.field rfl) (.child (.item hposition rfl) (.child (.field rfl) (.here .null)))
  obtain ⟨found, present, -, -, -, hruns, -, -, -, hnull⟩ := reads_what_exists hplain data
  rw [hparse] at hnull
  obtain ⟨rfl, rfl⟩ := hnull.mp hholds
  exact ⟨hplain, hhas, rfl, hholds, fun world => (hruns complete hhas rfl world).2.1,
    fun world => (hruns complete hhas rfl world).1⟩

end Engine

end JsonExpr
