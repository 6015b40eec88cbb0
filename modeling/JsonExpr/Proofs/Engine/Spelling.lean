import JsonExpr.Proofs.Engine.Reading
import JsonExpr.Proofs.Engine.Template
import JsonExpr.Proofs.Value.Spelling

-- Reading at a path that is spelled in one way or another: the value does not depend on how.
namespace JsonExpr

namespace Value

-- A path as data: a text in which each segment is written in some style, or the list of segments.
inductive Spells : Value → Path → Prop where
  | text (segments : List (Path.Style × String)) :
      Spells (string (Path.write segments)) (segments.map Prod.snd)
  | list (path : Path) : Spells (array (path.map string)) path

variable {spelling : Value} {path : Path}

theorem Spells.isData (h : spelling.Spells path) : spelling.IsData := by
  intro part hpart
  cases h with
  | text segments =>
    cases hpart
    rfl
  | list path =>
    cases hpart with
    | refl => rfl
    | item hmem hpart =>
      obtain ⟨segment, -, rfl⟩ := List.mem_map.mp hmem
      cases hpart
      rfl

section Plain

variable (h : spelling.Spells path) (hplain : ∀ segment ∈ path, Path.IsPlain segment)

include h hplain

theorem Spells.segments?_eq : spelling.segments? = .ok (path.map string) := by
  cases h with
  | text segments =>
    rw [segments?, Path.parse_write fun segment hmem => hplain _ (List.mem_map_of_mem hmem)]
  | list path => rfl

theorem Spells.pathOf?_eq : Builtin.pathOf? spelling = some path := by
  cases h with
  | text segments =>
    rw [Builtin.pathOf?, Path.parse_write fun segment hmem => hplain _ (List.mem_map_of_mem hmem)]
  | list path =>
    have hall : path.mapM some = some path := by
      simpa using List.mapM_pure (m := Option) (l := path) (f := id)
    rw [Builtin.pathOf?, List.mapM_map]
    exact hall

end Plain

end Value

namespace Engine

open Builtin

-- Reading the input along a path, and reading given data.
def reading (spelling : Value) : Value := .object [("$get", spelling)]

def readingFrom (spelling data : Value) : Value :=
  .object [("$get", .object (intoSpelled data.escape spelling))]

section Reading

variable {engine : Engine} {names : List String} (hhas : engine.Has names)
  (hplain : engine.middleware = []) (hget : "$get" ∈ names) {spelling : Value} {path : Path}
  (hdata : spelling.IsData) (hpath : pathOf? spelling = some path) (data : Value)
  (world : Surroundings)

include hhas hplain hget hdata hpath

theorem Has.apply_reading :
    engine.apply (reading spelling) data world =
      ⟨.ok (data.read path), [.dispatching "$get" .apply], world⟩ := by
  have hspelling (dispatch : Call → Run Value) :
      engine.resolveWith dispatch (.apply spelling data) = .done spelling :=
    resolveWith_of_isData dispatch hdata
  rw [apply, hhas.resolve_operand hplain hget find?_get _ rfl]
  simp only [callFor]
  rw [run_get_applied hpath (hspelling _)]
  rfl

theorem Has.evaluate_readingFrom (hliteral : literalName ∈ names) :
    engine.evaluate (readingFrom spelling data) world =
      ⟨.ok (data.read path),
        [.dispatching "$get" .evaluate, .dispatching literalName .evaluate], world⟩ := by
  have hspelling (dispatch : Call → Run Value) :
      engine.resolveWith dispatch (.evaluate spelling) = .done spelling :=
    resolveWith_of_isData dispatch hdata
  obtain ⟨levels, hrun⟩ :=
    hhas.resolve_eq hplain hget find?_get (.evaluate (readingFrom spelling data)) rfl
  have hescape : engine.resolveWith (engine.dispatch (levels + 1)) (.evaluate data.escape) =
      (Run.note (.dispatching literalName .evaluate)).bind fun _ => .done data :=
    hhas.resolveWith_literal hplain hliteral levels rfl
  simp only [callFor] at hrun
  rw [evaluate, hrun, run_get_evaluated hpath _ _ (hspelling _), hescape]
  rfl

end Reading

-- A path of plain segments is the same path in all of its spellings, so that reading along any of
-- them, on its own and in an engine, returns the value at that path.
theorem reads_however_spelled {path : Path} (hpath : ∀ segment ∈ path, Path.IsPlain segment) :
    (∀ segments : List (Path.Style × String), segments.map Prod.snd = path →
      Path.parse (Path.write segments) = path) ∧
    ∀ (data spelling : Value), spelling.Spells path →
      (spelling.segments?.bind fun segments => data.readBy segments) = .ok (data.read path) ∧
      ∀ engine : Engine, engine.Has ["$get", literalName] → engine.middleware = [] → ∀ world,
        engine.apply (reading spelling) data world =
            ⟨.ok (data.read path), [.dispatching "$get" .apply], world⟩ ∧
          engine.evaluate (readingFrom spelling data) world =
            ⟨.ok (data.read path),
              [.dispatching "$get" .evaluate, .dispatching literalName .evaluate], world⟩ := by
  refine ⟨?_, fun data spelling hspells => ⟨?_, fun engine hhas hplain world => ⟨?_, ?_⟩⟩⟩
  · rintro segments rfl
    exact Path.parse_write fun segment hmem => hpath _ (List.mem_map_of_mem hmem)
  · rw [hspells.segments?_eq hpath]
    exact Value.readBy_texts path data
  · exact hhas.apply_reading hplain (by simp) hspells.isData (hspells.pathOf?_eq hpath) data world
  · exact hhas.evaluate_readingFrom hplain (by simp) hspells.isData (hspells.pathOf?_eq hpath) data
      world (by simp)

-- Brackets for every segment, for none, and for the one in the middle.
theorem reads_wildcard_in_brackets :
    let path : Path := ["a", "$", "b"]
    let data : Value := .object [("a", .array [.object [("b", .int 1)], .object [("b", .int 2)]])]
    (∀ segment ∈ path, Path.IsPlain segment) ∧ complete.Has ["$get", literalName] ∧
      complete.middleware = [] ∧
      ∀ text ∈ ["[a][$][b]", "a.$.b", "a[$].b"],
        Path.parse text = path ∧ ∀ world, complete.apply (reading (.string text)) data world =
          ⟨.ok (.array [.int 1, .int 2]), [.dispatching "$get" .apply], world⟩ := by
  intro path data
  have hpath : ∀ segment ∈ path, Path.IsPlain segment := by decide
  have hhas : complete.Has ["$get", literalName] := complete_has (by decide)
  refine ⟨hpath, hhas, rfl, ?_⟩
  have hwritten (styles : List Path.Style) (hstyles : styles.length = path.length) :
      Path.parse (Path.write (styles.zip path)) = path ∧ ∀ world,
        complete.apply (reading (.string (Path.write (styles.zip path)))) data world =
          ⟨.ok (.array [.int 1, .int 2]), [.dispatching "$get" .apply], world⟩ := by
    have hsegments : (styles.zip path).map Prod.snd = path := List.map_snd_zip (Nat.le_of_eq hstyles.symm)
    have hspells := Value.Spells.text (styles.zip path)
    rw [hsegments] at hspells
    obtain ⟨hparse, hreads⟩ := reads_however_spelled hpath
    refine ⟨hparse _ hsegments, fun world => ?_⟩
    exact ((hreads data _ hspells).2 complete hhas rfl world).1
  simp only [List.forall_mem_cons, List.not_mem_nil, false_implies, implies_true, and_true]
  refine ⟨?_, ?_, ?_⟩
  · exact hwritten [.bracketed, .bracketed, .bracketed] rfl
  · exact hwritten [.dotted, .dotted, .dotted] rfl
  · exact hwritten [.dotted, .bracketed, .dotted] rfl

end Engine

end JsonExpr
