import JsonExpr.Builtin.Iteration
import JsonExpr.Proofs.Run.Filling
import JsonExpr.Proofs.Run.Yields
import JsonExpr.Proofs.Value.Sorting

-- Grouping items under names: every item goes to the end of the group of its name, and a name that
-- has none opens a new group behind the others.
namespace JsonExpr

namespace Builtin

section Placing

variable {α β : Type}

-- One more item, in its group.
def addTo (groups : Fields (List α)) (name : String) (x : α) : Fields (List α) :=
  Fields.insert name ((groups.find? name).getD [] ++ [x]) groups

theorem addToGroup_eq (groups : Fields (List Value)) (name : String) (item : Value) :
    addToGroup groups name item = addTo groups name item := rfl

theorem addTo_map (f : α → β) (groups : Fields (List α)) (name : String) (x : α) :
    addTo (groups.map fun group => (group.1, group.2.map f)) name (f x) =
      (addTo groups name x).map fun group => (group.1, group.2.map f) := by
  have hfind : (Fields.find? name (groups.map fun group => (group.1, group.2.map f))).getD [] =
      ((groups.find? name).getD []).map f := by
    rw [Fields.find?_map (fun _ => List.map f)]
    cases groups.find? name <;> rfl
  rw [addTo, addTo, hfind, ← Fields.insert_map, List.map_append]
  rfl

theorem addTo_cases (groups : Fields (List α)) (name : String) (x : α) :
    (name ∉ groups.keys ∧ addTo groups name x = groups ++ [(name, [x])]) ∨
      ∃ before group after, groups = before ++ (name, group) :: after ∧
        addTo groups name x = before ++ (name, group ++ [x]) :: after := by
  rcases Fields.insert_cases name ((groups.find? name).getD [] ++ [x]) groups with
    ⟨hname, heq⟩ | ⟨before, group, after, hgroups, hfind, heq⟩
  · left
    rw [addTo, heq, Fields.find?_eq_none_iff.mpr hname]
    exact ⟨hname, rfl⟩
  · right
    refine ⟨before, group, after, hgroups, ?_⟩
    rw [addTo, heq, hfind]
    rfl

-- One entry in the place of another.
theorem forall_mem_replaced {p : α → Prop} {before after : List α} {old new : α}
    (h : ∀ entry ∈ before ++ old :: after, p entry) (hnew : p old → p new) :
    ∀ entry ∈ before ++ new :: after, p entry := by
  obtain ⟨hbefore, hrest⟩ := List.forall_mem_append.mp h
  obtain ⟨hold, hafter⟩ := List.forall_mem_cons.mp hrest
  exact List.forall_mem_append.mpr ⟨hbefore, List.forall_mem_cons.mpr ⟨hnew hold, hafter⟩⟩

-- All items of a list added in turn.
def groupInto (name : α → String) (groups : Fields (List α)) (xs : List α) : Fields (List α) :=
  xs.foldl (fun groups x => addTo groups (name x) x) groups

theorem groupInto_map (f : α → β) (name : β → String) (groups : Fields (List α)) (xs : List α) :
    groupInto name (groups.map fun group => (group.1, group.2.map f)) (xs.map f) =
      (groupInto (name ∘ f) groups xs).map fun group => (group.1, group.2.map f) := by
  induction xs generalizing groups with
  | nil => rfl
  | cons x rest ih =>
    simp only [List.map_cons, groupInto, List.foldl_cons] at ih ⊢
    rw [addTo_map, ih]
    rfl

-- The items of a list in groups, each with its position in the list: none is lost or repeated, all
-- items of a group have its name, and they are in the order of the list. The groups have different
-- names, none is empty, and they are in the order of their first items.
structure Partitions (name : α → String) (xs : List α) (placed : Fields (List (α × Nat))) :
    Prop where
  whole : placed.values.flatten.Perm xs.zipIdx
  named : ∀ group ∈ placed, ∀ x ∈ group.2, name x.1 = group.1
  ordered : ∀ group ∈ placed, group.2.Pairwise fun x y => x.2 < y.2
  distinct : placed.keys.Nodup
  inhabited : ∀ group ∈ placed, group.2 ≠ []
  firsts : placed.Pairwise fun group later =>
    ∀ x ∈ group.2.head?, ∀ y ∈ later.2.head?, x.2 < y.2

section Adding

open Sorting

variable {name : α → String} {xs : List α} {placed : Fields (List (α × Nat))}

theorem Partitions.position_lt (h : Partitions name xs placed) {group : String × List (α × Nat)}
    (hgroup : group ∈ placed) {x : α × Nat} (hx : x ∈ group.2) : x.2 < xs.length := by
  refine List.snd_lt_of_mem_zipIdx (h.whole.subset ?_)
  exact List.mem_flatten.mpr ⟨group.2, List.mem_map_of_mem hgroup, hx⟩

theorem Partitions.openGroup (h : Partitions name xs placed) {x : α}
    (hname : name x ∉ placed.keys) :
    Partitions name (xs ++ [x]) (placed ++ [(name x, [(x, xs.length)])]) where
  whole := by
    rw [zipIdx_concat]
    simpa [Fields.values] using h.whole.append_right [(x, xs.length)]
  named := by
    refine List.forall_mem_append.mpr ⟨h.named, ?_⟩
    simp
  ordered := by
    refine List.forall_mem_append.mpr ⟨h.ordered, ?_⟩
    simp
  distinct := by
    rw [Fields.keys, List.map_append, List.map_singleton]
    refine List.nodup_append.mpr ⟨h.distinct, List.pairwise_singleton _ _, ?_⟩
    rintro key hkey new hnew rfl
    have hkeyname : key = name x := List.mem_singleton.mp hnew
    exact hname (hkeyname ▸ hkey)
  inhabited := by
    refine List.forall_mem_append.mpr ⟨h.inhabited, ?_⟩
    simp
  firsts := by
    refine List.pairwise_append.mpr ⟨h.firsts, List.pairwise_singleton _ _, ?_⟩
    intro group hgroup later hlater y hy z hz
    obtain rfl := List.mem_singleton.mp hlater
    obtain rfl := Option.mem_some.mp hz
    exact h.position_lt hgroup (List.mem_of_mem_head? hy)

theorem Partitions.extendGroup {before after : Fields (List (α × Nat))} {group : List (α × Nat)}
    {x : α} (h : Partitions name xs (before ++ (name x, group) :: after)) :
    Partitions name (xs ++ [x]) (before ++ (name x, group ++ [(x, xs.length)]) :: after) where
  whole := by
    have hwhole := h.whole.append_right [(x, xs.length)]
    rw [zipIdx_concat]
    refine List.Perm.trans ?_ hwhole
    simp only [Fields.values, List.map_append, List.map_cons, List.flatten_append,
      List.flatten_cons, List.append_assoc]
    exact (List.perm_append_comm.append_left group).append_left _
  named := by
    refine forall_mem_replaced h.named fun hgroup => List.forall_mem_append.mpr ⟨hgroup, ?_⟩
    simp
  ordered := by
    refine forall_mem_replaced h.ordered fun hgroup =>
      List.pairwise_append.mpr ⟨hgroup, List.pairwise_singleton _ _, fun y hy z hz => ?_⟩
    obtain rfl := List.mem_singleton.mp hz
    have hmem : (name x, group) ∈ before ++ (name x, group) :: after := by simp
    exact h.position_lt hmem hy
  distinct := by
    simpa [Fields.keys] using h.distinct
  inhabited := by
    refine forall_mem_replaced h.inhabited fun _ => ?_
    simp
  firsts := by
    -- the first item of the group is the one that it had before
    have hhead : (group ++ [(x, xs.length)]).head? = group.head? :=
      List.head?_append_of_ne_nil _ (h.inhabited (name x, group) (by simp))
    have hfirsts := h.firsts
    simp only [List.pairwise_append, List.pairwise_cons, List.mem_cons, forall_eq_or_imp,
      hhead] at hfirsts ⊢
    exact hfirsts

-- One more item with its position, wherever its group is.
theorem Partitions.add (h : Partitions name xs placed) (x : α) :
    Partitions name (xs ++ [x]) (addTo placed (name x) (x, xs.length)) := by
  rcases addTo_cases placed (name x) (x, xs.length) with
    ⟨hname, heq⟩ | ⟨before, group, after, rfl, heq⟩
  · rw [heq]
    exact h.openGroup hname
  · rw [heq]
    exact h.extendGroup

theorem Partitions.groupInto (h : Partitions name xs placed) (rest : List α) :
    Partitions name (xs ++ rest)
      (Builtin.groupInto (name ∘ Prod.fst) placed (rest.zipIdx xs.length)) := by
  induction rest generalizing xs placed with
  | nil => rwa [List.append_nil]
  | cons x rest ih =>
    have hrest := ih (h.add x)
    rw [List.length_append, List.length_singleton] at hrest
    rw [List.append_cons, List.zipIdx_cons]
    exact hrest

-- The groups of a list are those of its items with their positions, which are then left out.
theorem exists_partitions_groupInto (name : α → String) (xs : List α) :
    ∃ placed, Partitions name xs placed ∧
      Builtin.groupInto name [] xs = placed.map fun group => (group.1, group.2.map Prod.fst) := by
  have hempty : Partitions name [] [] := ⟨.nil, nofun, nofun, .nil, nofun, .nil⟩
  refine ⟨_, hempty.groupInto xs, ?_⟩
  rw [← groupInto_map]
  simp

-- Two items are in the same group exactly if they have the same name.
theorem Partitions.together_iff (h : Partitions name xs placed) {x y : α × Nat}
    (hx : x ∈ xs.zipIdx) (hy : y ∈ xs.zipIdx) :
    (∃ group ∈ placed, x ∈ group.2 ∧ y ∈ group.2) ↔ name x.1 = name y.1 := by
  have hgroup : ∀ z ∈ xs.zipIdx, ∃ group ∈ placed, z ∈ group.2 := by
    intro z hz
    obtain ⟨members, hmembers, hmem⟩ := List.mem_flatten.mp (h.whole.symm.subset hz)
    obtain ⟨group, hgroup, rfl⟩ := List.mem_map.mp hmembers
    exact ⟨group, hgroup, hmem⟩
  constructor
  · rintro ⟨group, hmem, hxgroup, hygroup⟩
    rw [h.named group hmem x hxgroup, h.named group hmem y hygroup]
  · intro hname
    obtain ⟨group, hmem, hxgroup⟩ := hgroup x hx
    obtain ⟨other, hother, hygroup⟩ := hgroup y hy
    have hkeys : group.1 = other.1 := by
      rw [← h.named group hmem x hxgroup, hname, h.named other hother y hygroup]
    have hfind := (Fields.find?_eq_some_iff h.distinct).mpr hmem
    have hsame := (Fields.find?_eq_some_iff h.distinct).mpr hother
    rw [← hkeys, hfind, Option.some_inj] at hsame
    exact ⟨group, hmem, hxgroup, hsame ▸ hygroup⟩

end Adding

end Placing

section Runs

variable {resolve : Request → Run Value} {registered : String → Bool} {selector : Value}

-- What reading a key comes to: a path is read as it is, and an expression is applied to the item.
def keyRun (resolve : Request → Run Value) (selector item : Value) : Run Value :=
  match selector with
  | .string path => .done (item.read (Path.parse path))
  | _ => resolve (.apply selector item)

theorem run_selectKey (item : Value) :
    (selectKey selector item).run resolve registered = keyRun resolve selector item := by
  unfold selectKey keyRun
  split <;> simp

-- Items with the keys that they turn out to have when these are read one after the other.
def Keyed (resolve : Request → Run Value) (selector : Value) (entries : List (Value × Value))
    (world : Surroundings) : Prop :=
  (Run.inTurn (keyRun resolve selector) (entries.map Prod.fst) world).result =
    .ok (entries.map Prod.snd)

theorem keyed_cons_iff {item key : Value} {rest : List (Value × Value)} {world : Surroundings} :
    Keyed resolve selector ((item, key) :: rest) world ↔
      (keyRun resolve selector item world).result = .ok key ∧
        Keyed resolve selector rest (keyRun resolve selector item world).after := by
  rcases hreport : keyRun resolve selector item world with ⟨failure | found, events, after⟩
  · simp [Keyed, Run.inTurn, Run.bind_of_error hreport]
  · rw [Keyed, Keyed, List.map_cons, Run.inTurn, Run.bind_of_ok hreport, Run.bind_done_comp]
    cases hresult : (Run.inTurn (keyRun resolve selector) (rest.map Prod.fst) after).result <;>
      simp [Except.map]

-- The items of all groups without their keys.
def itemsOf (groups : Fields (List (Value × Value))) : Fields (List Value) :=
  groups.map fun group => (group.1, group.2.map Prod.fst)

-- The first item with no key ends the loop, and otherwise every item is put into its group.
theorem result_groupItems {groups : Fields (List (Value × Value))}
    {entries : List (Value × Value)} {world : Surroundings}
    (hkeyed : Keyed resolve selector entries world) :
    ((groupItems selector (itemsOf groups) (entries.map Prod.fst)).run resolve registered
        world).result =
      match entries.find? fun entry => entry.2.isNull with
      | some entry => .error (.domain (.cannotGroup entry.1 selector))
      | none => .ok (itemsOf (groupInto (groupName ∘ Prod.snd) groups entries)) := by
  induction entries generalizing groups world with
  | nil => rfl
  | cons entry rest ih =>
    obtain ⟨item, key⟩ := entry
    obtain ⟨hkey, hrest⟩ := keyed_cons_iff.mp hkeyed
    rw [List.map_cons, groupItems, Script.run_bind, run_selectKey, List.find?_cons]
    rcases hreport : keyRun resolve selector item world with ⟨result, events, after⟩
    rw [hreport] at hkey hrest
    subst hkey
    rw [Run.bind_of_ok hreport]
    cases hnull : key.isNull with
    | true => simp [Script.outsideDomain, Run.fail]
    | false =>
      have hgroups : addToGroup (itemsOf groups) (groupName key) item =
          itemsOf (addTo groups (groupName key) (item, key)) := by
        rw [addToGroup_eq]
        exact addTo_map Prod.fst groups _ (item, key)
      simp only [Bool.false_eq_true, ite_false, hgroups]
      exact ih hrest

-- What grouping comes to, by the items and their keys.
def grouped (selector : Value) (entries : List (Value × Value)) : Except Failure Value :=
  match entries.find? fun entry => entry.2.isNull with
  | some entry => .error (.domain (.cannotGroup entry.1 selector))
  | none =>
    .ok (.object ((itemsOf (groupInto (groupName ∘ Prod.snd) [] entries)).map fun group =>
      (group.1, .array group.2)))

theorem result_groupFrom {entries : List (Value × Value)} {world : Surroundings}
    (hkeyed : Keyed resolve selector entries world) :
    ((groupFrom (.array (entries.map Prod.fst)) selector).run resolve registered world).result =
      grouped selector entries := by
  have hgroups := @result_groupItems resolve registered selector [] entries world hkeyed
  change ((groupItems selector [] _).run resolve registered world).result = _ at hgroups
  simp only [groupFrom, requireList, Script.run_bind, Script.run_done, Script.run_pure,
    Run.bind_done]
  rw [Run.bind_done_comp, hgroups, grouped]
  split <;> rfl

theorem result_groupBy_applied {entries : List (Value × Value)} {world : Surroundings}
    (hkeyed : Keyed resolve selector entries world) :
    ((groupBy.call .apply selector (.array (entries.map Prod.fst))).run resolve registered
      world).result = grouped selector entries :=
  result_groupFrom hkeyed

theorem result_groupBy_evaluated {entries : List (Value × Value)} {source input : Value}
    {before world : Surroundings} {events : List Event}
    (hitems : resolve (.evaluate source) before =
      ⟨.ok (.array (entries.map Prod.fst)), events, world⟩)
    (hkeyed : Keyed resolve selector entries world) :
    ((groupBy.call .evaluate (.array [source, selector]) input).run resolve registered
      before).result = grouped selector entries := by
  simp only [groupBy, both, Operation.call, requirePair, Script.run_bind, Script.run_done,
    Script.run_evaluate, Run.bind_done]
  rw [Run.bind_of_ok hitems]
  exact result_groupFrom hkeyed

end Runs

end Builtin

end JsonExpr
