import JsonExpr.Proofs.Builtin.Expansions
import JsonExpr.Proofs.Engine.Flattening
import JsonExpr.Proofs.Engine.Fusion
import JsonExpr.Proofs.Engine.Grouping
import JsonExpr.Proofs.Engine.Reading
import JsonExpr.Proofs.Engine.Sorting

-- Operations in an engine that others make up: a caller cannot tell which of them were used.
namespace JsonExpr

open Builtin

namespace Builtin

theorem find?_flatMap : operations.find? "$flatMap" = some flatMap := by
  simp [operations, Fields.find?]

theorem find?_pluck : operations.find? "$pluck" = some pluck := by simp [operations, Fields.find?]

end Builtin

namespace Engine

variable {engine : Engine}

def flatMapping (expression : Value) : Value := .object [("$flatMap", expression)]

def keepingBy (conditions : Value) : Value := .object [("$filterBy", conditions)]

def meeting (conditions : Value) : Value := .object [("$matches", conditions)]

def plucking (operand : Value) : Value := .object [("$pluck", operand)]

-- The selectors that read what is at a path: the path itself, and an expression that gets it.
def ReadsPath (path : String) (selector : Value) : Prop :=
  selector = .string path ∨ selector = looking "$get" path

-- Criteria that sort by the same path in the same direction.
def SameKeys (criterion criterion' : Criterion) : Prop :=
  criterion.descending = criterion'.descending ∧
    ∃ path, ReadsPath path criterion.selector ∧ ReadsPath path criterion'.selector

variable {names : List String} (hhas : engine.Has names) (hplain : engine.middleware = [])

section Lists

variable (items : List Value)

include hhas hplain

theorem Has.flatMapping_alike (hname : "$flatMap" ∈ names) (hmap : "$map" ∈ names)
    (hflatten : "$flatten" ∈ names) (f : Value) :
    Run.Alike Eq (engine.apply (flatMapping f) (.array items))
      ((engine.apply (mapping f) (.array items)).bind fun mapped =>
        engine.apply (flattening .null) mapped) := by
  have hopen (mapped : Value) :=
    hhas.resolve_operand hplain hflatten find?_flatten (.apply (flattening .null) mapped) rfl
  simp only [apply, hopen]
  rw [hhas.resolve_operand hplain hname find?_flatMap _ rfl,
    hhas.resolve_operand hplain hmap find?_map _ rfl, Run.bind_assoc]
  refine (Run.note_dispatching_alike _ _).bind_left ?_
  refine (Run.note_dispatching_alike _ _).bind_right ?_
  dsimp only [callFor]
  rw [run_flatMap_applied items
    (engine.resolveWith (engine.dispatch (Value.null.depth + allowance)))]
  refine (Run.Alike.refl _).bind fun mapped _ => ?_
  exact (Run.note_dispatching_alike _ _).bind_right (.refl _)

-- In a pipe there is one more dispatch around both steps.
theorem Has.flatMapping_alike_piped (hname : "$flatMap" ∈ names) (hmap : "$map" ∈ names)
    (hflatten : "$flatten" ∈ names) (hpipe : "$pipe" ∈ names) (f : Value) :
    engine.AlikeUnlessDeep (engine.apply (flatMapping f) (.array items))
      (engine.apply (chained "$pipe" [mapping f, flattening .null]) (.array items)) := by
  let request : Request := .apply (flatMapping f) (.array items)
  let piped : Request := .apply (chained "$pipe" [mapping f, flattening .null]) (.array items)
  let levels := request.expression.depth + allowance + (piped.expression.depth + allowance)
  have hregistered : ∀ expression ∈ [mapping f, flattening .null],
      engine.isExpression expression = true := by
    simp [mapping, flattening, hhas.isExpression hmap, hhas.isExpression hflatten]
  have h := resolve_leveled hplain request (by omega : _ ≤ levels + 1)
  have h' := (resolve_leveled hplain piped (by omega : _ ≤ levels + 1)).more 1
  refine h.alikeUnlessDeep h' ?_
  dsimp only [request, piped]
  rw [hhas.resolveWith_eq hplain hname find?_flatMap levels rfl,
    hhas.resolveWith_chained hplain hpipe find?_pipe (levels + 1)
      (stray?_eq_none_iff.mpr hregistered)]
  refine (Run.note_dispatching_alike _ _).bind_left ?_
  refine (Run.note_dispatching_alike _ _).bind_right ?_
  simp only [id, chain, Script.fold, Script.run_bind, Script.run_apply]
  rw [hhas.resolveWith_eq hplain hmap find?_map levels rfl, Run.bind_assoc]
  refine (Run.note_dispatching_alike _ _).bind_right ?_
  dsimp only [callFor]
  rw [run_flatMap_applied items (engine.resolveWith (engine.dispatch levels))]
  refine (Run.Alike.refl _).bind fun mapped _ => ?_
  rw [hhas.resolveWith_eq hplain hflatten find?_flatten levels rfl, Run.bind_assoc]
  refine (Run.note_dispatching_alike _ _).bind_right ?_
  simp only [Script.run_done]
  rw [Run.bind_pure]
  exact .refl _

theorem Has.keepingBy_alike (hname : "$filterBy" ∈ names) (hfilter : "$filter" ∈ names)
    (hmatches : "$matches" ∈ names) (conditions : Object) :
    Run.Alike Eq (engine.apply (keepingBy (.object conditions)) (.array items))
      (engine.apply (keeping (meeting (.object conditions))) (.array items)) := by
  rw [apply, apply, hhas.resolve_operand hplain hname find?_filterBy _ rfl,
    hhas.resolve_operand hplain hfilter find?_filter _ rfl]
  refine (Run.note_dispatching_alike _ _).bind_left ?_
  refine (Run.note_dispatching_alike _ _).bind_right ?_
  refine filterBy_alike_filter items fun item => ?_
  rw [meeting, depth_node, hhas.resolveWith_eq hplain hmatches find?_matches _ rfl]
  exact (Run.note_dispatching_alike _ _).bind_right (.refl _)

end Lists

section Selectors

variable (hget : "$get" ∈ names) {path : String} {selector selector' : Value}
  (h : ReadsPath path selector) (h' : ReadsPath path selector')

include hhas hplain hget h

-- One level of dispatches is enough to read a key.
theorem Has.selectKey_alike (levels : Nat) (registered : String → Bool) (item : Value) :
    Run.Alike Failure.SameKind
      ((selectKey selector item).run (engine.resolveWith (engine.dispatch (levels + 1))) registered)
      (.done (item.read (Path.parse path))) := by
  rcases h with rfl | rfl
  · exact .refl _
  · rw [selectKey, Script.run_apply, hhas.resolveWith_eq hplain hget find?_get levels rfl]
    · refine (Run.note_dispatching_alike _ _).bind_left ?_
      dsimp only [callFor]
      rw [run_get_applied rfl rfl]
      exact .refl _
    · nofun

include h'

theorem Has.readAlike (levels levels' : Nat) :
    ReadAlike (engine.resolveWith (engine.dispatch (levels + 1)))
      (engine.resolveWith (engine.dispatch (levels' + 1))) selector selector' :=
  fun registered item => (hhas.selectKey_alike hplain hget h levels registered item).of_done
    (hhas.selectKey_alike hplain hget h' levels' registered item)

end Selectors

-- An operation with two operands that it treats alike, with whatever levels are left for each.
section Operands

variable {similar : Failure → Failure → Prop} {name : String} (hname : name ∈ names)
  {operation : Operation} (hfind : operations.find? name = some operation)
  {operand operand' : Value}

include hhas hplain hname hfind

theorem Has.apply_alike {input : Value}
    (h : ∀ levels levels', Run.Alike similar
      ((operation.call .apply operand input).run
        (engine.resolveWith (engine.dispatch (levels + 1))) engine.registers)
      ((operation.call .apply operand' input).run
        (engine.resolveWith (engine.dispatch (levels' + 1))) engine.registers)) :
    Run.Alike similar (engine.apply (.object [(name, operand)]) input)
      (engine.apply (.object [(name, operand')]) input) := by
  obtain ⟨levels, hrun⟩ :=
    hhas.resolve_eq hplain hname hfind (.apply (.object [(name, operand)]) input) rfl
  obtain ⟨levels', hrun'⟩ :=
    hhas.resolve_eq hplain hname hfind (.apply (.object [(name, operand')]) input) rfl
  rw [apply, apply, hrun, hrun']
  refine (Run.note_dispatching_alike _ _).bind_left ?_
  exact (Run.note_dispatching_alike _ _).bind_right (h levels levels')

theorem Has.resolve_similarUnlessDeep {request request' : Request}
    (hrequest : request.expression = .object [(name, operand)])
    (hrequest' : request'.expression = .object [(name, operand')])
    (h : ∀ levels, Run.Alike similar
      ((operation.call (callFor request name operand).mode operand
        (callFor request name operand).input).run
          (engine.resolveWith (engine.dispatch (levels + 1))) engine.registers)
      ((operation.call (callFor request' name operand').mode operand'
        (callFor request' name operand').input).run
          (engine.resolveWith (engine.dispatch (levels + 1))) engine.registers)) :
    engine.SimilarUnlessDeep similar (engine.resolve request) (engine.resolve request') := by
  refine Engine.resolve_similarUnlessDeep hplain 2 fun levels => ?_
  rw [hhas.resolveWith_eq hplain hname hfind (levels + 1) hrequest,
    hhas.resolveWith_eq hplain hname hfind (levels + 1) hrequest']
  refine (Run.note_dispatching_alike _ _).bind_left ?_
  exact (Run.note_dispatching_alike _ _).bind_right (h levels)

end Operands

section Interchange

variable (hget : "$get" ∈ names) {path : String} {selector selector' : Value}
  (h : ReadsPath path selector) (h' : ReadsPath path selector') (items : List Value)

include hhas hplain hget

include h h' in
-- A list that is the input, and one that is resolved first.
theorem Has.selecting_alike {name : String} (hname : name ∈ names) {operation : Operation}
    (hfind : operations.find? name = some operation) (htakes : operation.TakesPair)
    (hreads : ReadsKeys operation) :
    Run.Alike Failure.SameKind (engine.apply (.object [(name, selector)]) (.array items))
        (engine.apply (.object [(name, selector')]) (.array items)) ∧
      ∀ source, engine.SimilarUnlessDeep Failure.SameKind
        (engine.evaluate (.object [(name, .array [source, selector])]))
        (engine.evaluate (.object [(name, .array [source, selector'])])) := by
  have hread := hhas.readAlike hplain hget h h'
  constructor
  · exact hhas.apply_alike hplain hname hfind fun levels levels' =>
      hreads (hread levels levels') _ _
  · exact fun source => hhas.resolve_similarUnlessDeep hplain hname hfind rfl rfl fun levels =>
      evaluated_alike_of_takesPair (hreads (hread levels levels) _) htakes .null

section Sorted

variable (hname : "$sort" ∈ names) {operand operand' : Value} {criteria criteria' : List Criterion}
  (hlists : Lists operand criteria) (hlists' : Lists operand' criteria')

include hname hlists hlists'

theorem Has.sorting_alike (hsame : List.Forall₂ SameKeys criteria criteria') :
    Run.Alike Failure.SameKind (engine.apply (sorting operand) (.array items))
      (engine.apply (sorting operand') (.array items)) := by
  refine hhas.apply_alike hplain hname find?_sort fun levels levels' => ?_
  refine sortItems_alike hlists hlists' (hsame.imp fun _ _ ⟨hdirection, _, h, h'⟩ => ?_) _
  exact ⟨hdirection, hhas.readAlike hplain hget h h' levels levels'⟩

-- Criteria in between with other selectors are read with other levels left, if the depths differ.
theorem Has.sorting_similarUnlessDeep
    (hsame : List.Forall₂ (fun criterion criterion' => criterion = criterion' ∨
      SameKeys criterion criterion') criteria criteria') :
    engine.SimilarUnlessDeep Failure.SameKind (engine.apply (sorting operand) (.array items))
        (engine.apply (sorting operand') (.array items)) ∧
      ∀ source fields fields', SortsField fields source operand →
        SortsField fields' source operand' →
        engine.SimilarUnlessDeep Failure.SameKind (engine.evaluate (sorting (.object fields)))
          (engine.evaluate (sorting (.object fields'))) := by
  have hsort (levels : Nat) : List.Forall₂
      (SortAlike (engine.resolveWith (engine.dispatch (levels + 1)))
        (engine.resolveWith (engine.dispatch (levels + 1)))) criteria criteria' := by
    refine hsame.imp fun criterion criterion' h => ?_
    rcases h with rfl | ⟨hdirection, path, h, h'⟩
    · exact ⟨rfl, fun _ _ => .refl _⟩
    · exact ⟨hdirection, hhas.readAlike hplain hget h h' levels levels⟩
  constructor
  · exact hhas.resolve_similarUnlessDeep hplain hname find?_sort rfl rfl fun levels =>
      sortItems_alike hlists hlists' (hsort levels) (.array items)
  · intro source fields fields' hfields hfields'
    exact hhas.resolve_similarUnlessDeep hplain hname find?_sort rfl rfl fun levels =>
      evaluated_alike_of_takesFields (sortItems_alike hlists hlists' (hsort levels))
        sort_takesFields hfields.array hfields'.array hfields.sortCriteria hfields'.sortCriteria
        .null

end Sorted

end Interchange

-- On any list a flat map is a map and then a flattening, and a filter by fields is a filter by a
-- test of the fields. Wherever a selector is a path, an expression that gets the path can take its
-- place: when values are plucked or grouped, and in the criteria of a sort.
theorem Has.derived_operations_expand (hhas : engine.Has operations.keys)
    (hplain : engine.middleware = []) (items : List Value) :
    (∀ f, Run.Alike Eq (engine.apply (flatMapping f) (.array items))
        ((engine.apply (mapping f) (.array items)).bind fun mapped =>
          engine.apply (flattening .null) mapped) ∧
      engine.AlikeUnlessDeep (engine.apply (flatMapping f) (.array items))
        (engine.apply (chained "$pipe" [mapping f, flattening .null]) (.array items))) ∧
    (∀ conditions : Object, Run.Alike Eq
      (engine.apply (keepingBy (.object conditions)) (.array items))
      (engine.apply (keeping (meeting (.object conditions))) (.array items))) ∧
    (∀ path selector selector', ReadsPath path selector → ReadsPath path selector' →
      (Run.Alike Failure.SameKind (engine.apply (plucking selector) (.array items))
          (engine.apply (plucking selector') (.array items)) ∧
        ∀ source, engine.SimilarUnlessDeep Failure.SameKind
          (engine.evaluate (plucking (.array [source, selector])))
          (engine.evaluate (plucking (.array [source, selector'])))) ∧
      (Run.Alike Failure.SameKind (engine.apply (grouping selector) (.array items))
          (engine.apply (grouping selector') (.array items)) ∧
        ∀ source, engine.SimilarUnlessDeep Failure.SameKind
          (engine.evaluate (grouping (.array [source, selector])))
          (engine.evaluate (grouping (.array [source, selector']))))) ∧
    ∀ operand operand' criteria criteria', Lists operand criteria → Lists operand' criteria' →
      (List.Forall₂ SameKeys criteria criteria' →
        Run.Alike Failure.SameKind (engine.apply (sorting operand) (.array items))
          (engine.apply (sorting operand') (.array items))) ∧
      (List.Forall₂ (fun criterion criterion' => criterion = criterion' ∨
          SameKeys criterion criterion') criteria criteria' →
        engine.SimilarUnlessDeep Failure.SameKind (engine.apply (sorting operand) (.array items))
            (engine.apply (sorting operand') (.array items)) ∧
          ∀ source fields fields', SortsField fields source operand →
            SortsField fields' source operand' →
            engine.SimilarUnlessDeep Failure.SameKind (engine.evaluate (sorting (.object fields)))
              (engine.evaluate (sorting (.object fields')))) := by
  have hget := mem_keys_of_find? find?_get
  have hmap := mem_keys_of_find? find?_map
  have hflatMap := mem_keys_of_find? find?_flatMap
  have hflatten := mem_keys_of_find? find?_flatten
  refine ⟨fun f => ⟨?_, ?_⟩, fun conditions => ?_, fun path selector selector' h h' => ⟨?_, ?_⟩,
    fun operand operand' criteria criteria' hlists hlists' => ⟨?_, ?_⟩⟩
  · exact hhas.flatMapping_alike hplain items hflatMap hmap hflatten f
  · exact hhas.flatMapping_alike_piped hplain items hflatMap hmap hflatten
      (mem_keys_of_find? find?_pipe) f
  · exact hhas.keepingBy_alike hplain items (mem_keys_of_find? find?_filterBy)
      (mem_keys_of_find? find?_filter) (mem_keys_of_find? find?_matches) conditions
  · exact hhas.selecting_alike hplain hget h h' items (mem_keys_of_find? find?_pluck) find?_pluck
      pluck_takesPair pluck_readsKeys
  · exact hhas.selecting_alike hplain hget h h' items (mem_keys_of_find? find?_groupBy)
      find?_groupBy groupBy_takesPair groupBy_readsKeys
  · exact hhas.sorting_alike hplain hget items (mem_keys_of_find? find?_sort) hlists hlists'
  · exact hhas.sorting_similarUnlessDeep hplain hget items (mem_keys_of_find? find?_sort) hlists
      hlists'

-- The null has no key under the path to the item itself, so grouping fails for both selectors, and
-- what the failures say differs.
theorem expand_with_root_path :
    let path := Value.string "."
    let get := looking "$get" "."
    let items : List Value := [.string "b", .null, .array [.string "a"]]
    let sortBy (selector : Value) := Value.object [("by", selector), ("desc", .bool true)]
    complete.Has operations.keys ∧ complete.middleware = [] ∧
      ReadsPath "." path ∧ ReadsPath "." get ∧
      Lists (sortBy path) [⟨path, true⟩] ∧ Lists (sortBy get) [⟨get, true⟩] ∧
      List.Forall₂ SameKeys [⟨path, true⟩] [⟨get, true⟩] ∧
      Run.Alike Failure.SameKind (complete.apply (grouping path) (.array items))
        (complete.apply (grouping get) (.array items)) ∧
      Run.Alike Failure.SameKind (complete.apply (sorting (sortBy path)) (.array items))
        (complete.apply (sorting (sortBy get)) (.array items)) ∧
      Run.Alike Eq (complete.apply (flatMapping get) (.array items))
        ((complete.apply (mapping get) (.array items)).bind fun mapped =>
          complete.apply (flattening .null) mapped) := by
  intro path get items sortBy
  have hhas : complete.Has operations.keys :=
    complete_has fun name hmem => (Fields.find?_isSome_iff name _).mpr hmem
  have hpath : ReadsPath "." path := .inl rfl
  have hget : ReadsPath "." get := .inr rfl
  have hlists (selector : Value) : Lists (sortBy selector) [⟨selector, true⟩] := .selector rfl
  have hsame : List.Forall₂ SameKeys [⟨path, true⟩] [⟨get, true⟩] :=
    .cons ⟨rfl, ".", hpath, hget⟩ .nil
  obtain ⟨hflatMap, -, hselectors, hsort⟩ := hhas.derived_operations_expand rfl items
  exact ⟨hhas, rfl, hpath, hget, hlists path, hlists get, hsame,
    (hselectors "." path get hpath hget).2.1,
    (hsort _ _ _ _ (hlists path) (hlists get)).1 hsame, (hflatMap get).1⟩

end Engine

end JsonExpr
