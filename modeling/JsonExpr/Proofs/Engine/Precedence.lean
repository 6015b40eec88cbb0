import JsonExpr.Proofs.Engine.BuiltIn
import JsonExpr.Proofs.Value.Constant
import JsonExpr.Proofs.Value.Merging

-- Packs put together: a name stands for the entry of the last pack that has it, the names stand in
-- the order in which the packs first have them, and only the literal escape stands for itself
-- whatever the packs say.
namespace JsonExpr

-- Whatever an entry is, an operation made of it has the name that it is made for.
theorem Entry.name_of_register {name : String} {entry : Entry} {operation : Operation}
    (h : entry.register name = .operation operation) : operation.name = name := by
  unfold Entry.register at h
  split at h
  · cases h
    rfl
  · cases h
    rfl
  · cases h
    rfl
  · split at h
    · cases h
      rfl
    · cases h
  · cases h

namespace Definitions

-- The entry of a name in the last of the packs that have the name.
inductive Prevails (name : String) (entry : Entry) : List Pack → Prop where
  | last {pack : Pack} {stronger : List Pack} (h : pack.find? name = some entry)
      (hlast : ∀ later ∈ stronger, name ∉ later.keys) : Prevails name entry (pack :: stronger)
  | weaker {pack : Pack} {stronger : List Pack} (h : Prevails name entry stronger) :
      Prevails name entry (pack :: stronger)

variable {name : String} {entry : Entry}

-- Packs never repeat a name, so that in the entries of all packs, read from the end, the first one
-- of a name is the one that prevails.
theorem find?_reverse_flatten_iff {packs : List Pack} (hpacks : ∀ pack ∈ packs, pack.keys.Nodup) :
    Fields.find? name packs.flatten.reverse = some entry ↔ Prevails name entry packs := by
  induction packs with
  | nil => exact ⟨fun h => (nomatch h), fun h => (nomatch h)⟩
  | cons pack stronger ih =>
    obtain ⟨hpack, hstronger⟩ := List.forall_mem_cons.mp hpacks
    rw [List.flatten_cons, List.reverse_append, Fields.find?_append, Fields.find?_reverse hpack]
    constructor
    · intro h
      cases hlater : Fields.find? name stronger.flatten.reverse with
      | none =>
        rw [hlater, Option.none_or] at h
        exact .last h (Fields.find?_reverse_flatten_eq_none_iff.mp hlater)
      | some found =>
        rw [hlater, Option.some_or] at h
        exact .weaker ((ih hstronger).mp (hlater.trans h))
    · rintro (⟨h, hlast⟩ | ⟨h⟩)
      · rw [Fields.find?_reverse_flatten_eq_none_iff.mpr hlast, Option.none_or, h]
      · rw [(ih hstronger).mpr h, Option.some_or]

-- To define entries is to merge the definitions that they are registered as.
theorem foldl_define (entries : Pack) (definitions : Definitions) :
    entries.foldl define definitions =
      definitions.merge (entries.map fun entry => (entry.1, entry.2.register entry.1)) := by
  rw [Fields.merge, List.foldl_map]
  rfl

-- What a name stands for after some entries: the last of them, or what it stood for before.
theorem find?_foldl_define (entries : Pack) (definitions : Definitions) (name : String) :
    Fields.find? name (entries.foldl define definitions) =
      ((Fields.find? name entries.reverse).map (Entry.register name)).or
        (Fields.find? name definitions) := by
  rw [foldl_define, Fields.find?_merge, ← List.map_reverse, Fields.find?_map Entry.register]

theorem keys_foldl_define (entries : Pack) (definitions : Definitions) :
    Fields.keys (entries.foldl define definitions) =
      definitions.keys ++ (entries.keys.removeAll definitions.keys).eraseDups := by
  rw [foldl_define, Fields.keys_merge]
  simp only [Fields.keys, List.map_map]
  rfl

-- The names that packs have and that are not excluded, in the order of first appearance.
def appearing (packs : List Pack) (exclude : List String) : List String :=
  (packs.flatMap Fields.keys).eraseDups.filter (· ∉ exclude)

theorem mem_appearing {packs : List Pack} {exclude : List String} :
    name ∈ appearing packs exclude ↔ name ∉ exclude ∧ ∃ pack ∈ packs, name ∈ pack.keys := by
  simp [appearing, and_comm]

section Build

variable {base : Pack} {packs : List Pack} {custom : Option Pack} {includeBase : Bool}
  {exclude : List String}

theorem build_eq : build base packs custom includeBase exclude =
    Fields.insert literalName (.operation literalOperation)
      (((layers base packs custom includeBase).flatten.foldl define []).filter
        fun entry => entry.1 ∉ exclude) := by
  rw [build, ← List.foldl_flatten, Fields.foldl_erase]

theorem find?_build (hname : name ≠ literalName) :
    Fields.find? name (build base packs custom includeBase exclude) =
      if name ∉ exclude then
        (Fields.find? name (layers base packs custom includeBase).flatten.reverse).map
          (Entry.register name)
      else none := by
  rw [build_eq, Fields.find?_insert, if_neg hname.symm, Fields.find?_filter (· ∉ exclude),
    find?_foldl_define]
  simp

theorem find?_build_iff
    (hpacks : ∀ pack ∈ layers base packs custom includeBase, pack.keys.Nodup)
    (hname : name ≠ literalName) {definition : Definition} :
    Fields.find? name (build base packs custom includeBase exclude) = some definition ↔
      name ∉ exclude ∧ ∃ entry, Prevails name entry (layers base packs custom includeBase) ∧
        definition = entry.register name := by
  rw [find?_build hname]
  by_cases hexcluded : name ∈ exclude
  · simp [hexcluded]
  · simp only [hexcluded, not_false_eq_true, if_true, true_and, Option.map_eq_some_iff,
      find?_reverse_flatten_iff hpacks]
    exact exists_congr fun entry => and_congr_right fun _ => eq_comm

theorem keys_build : (build base packs custom includeBase exclude).keys =
    let names := appearing (layers base packs custom includeBase) exclude
    if literalName ∈ names then names else names ++ [literalName] := by
  have hkeys : Fields.keys (layers base packs custom includeBase).flatten =
      (layers base packs custom includeBase).flatMap Fields.keys := by
    rw [Fields.keys, List.map_flatten, List.flatMap_def]
    rfl
  have hall : ((layers base packs custom includeBase).flatMap Fields.keys).removeAll [] =
      (layers base packs custom includeBase).flatMap Fields.keys :=
    List.filter_eq_self.mpr (by simp)
  rw [build_eq, Fields.keys_insert, Fields.keys_filter (· ∉ exclude), keys_foldl_define, hkeys,
    Fields.keys_nil, hall, List.nil_append]
  rfl

theorem mem_keys_build (hname : name ≠ literalName) :
    name ∈ (build base packs custom includeBase exclude).keys ↔
      name ∈ appearing (layers base packs custom includeBase) exclude := by
  rw [keys_build]
  dsimp only
  split <;> simp [hname]

theorem name_of_find?_build {operation : Operation}
    (h : Fields.find? name (build base packs custom includeBase exclude) =
      some (.operation operation)) : operation.name = name := by
  refine forall_mem_build (motive := fun name definition =>
    ∀ operation, definition = .operation operation → operation.name = name) ?_ ?_ _
    (Fields.mem_of_find? h) operation rfl
  · intro _ _ entry _ operation h
    exact Entry.name_of_register h
  · rintro operation ⟨⟩
    rfl

-- Under every other name stands the prevailing entry as a whole, unless the name is excluded. The
-- literal escape is always there and returns what it wraps; every operation has its own name; and
-- the names stand in the order of first appearance, with that of the escape last if it has no place.
theorem build_prevails_in_order (exclude : List String)
    (hpacks : ∀ pack ∈ layers base packs custom includeBase, pack.keys.Nodup) :
    let inForce := layers base packs custom includeBase
    let definitions := build base packs custom includeBase exclude
    let engine : Engine := { definitions }
    (∀ name, name ≠ literalName →
      (engine.registers name = true ↔
        name ∉ exclude ∧ ∃ pack ∈ inForce, name ∈ pack.keys) ∧
      ∀ definition, definitions.find? name = some definition ↔
        name ∉ exclude ∧ ∃ entry, Prevails name entry inForce ∧ definition = entry.register name) ∧
    (definitions.find? literalName = some (.operation literalOperation) ∧
      ∀ value input world,
        (engine.apply value.escape input world).result = .ok value ∧
          (engine.evaluate value.escape world).result = .ok value) ∧
    (∀ name operation, definitions.find? name = some (.operation operation) →
      operation.name = name) ∧
    engine.names =
      let names := appearing inForce exclude
      if literalName ∈ names then names else names ++ [literalName] := by
  intro inForce definitions engine
  have hhas : engine.Has [literalName] := Engine.has_literal_of_build rfl
  have hescape : ∀ request value world, request.expression = value.escape →
      (engine.resolve request world).result = .ok value := by
    intro request value world hexpression
    obtain ⟨levels, hlevels⟩ := engine.exists_levels request
    rw [hlevels, hhas.resolveWith_literal rfl (List.mem_singleton_self _) (levels + 1) hexpression]
    rfl
  refine ⟨fun name hname => ⟨?_, fun definition => find?_build_iff hpacks hname⟩,
    ⟨find?_build_literal, fun value input world => ?_⟩,
    fun name operation => name_of_find?_build, keys_build⟩
  · rw [Engine.registers, Fields.contains, Fields.find?_isSome_iff, mem_keys_build hname,
      mem_appearing]
  · exact ⟨hescape _ value world rfl, hescape _ value world rfl⟩

end Build

-- The function takes over the name in the place where the data stood first, and the excluded escape
-- comes back at the end.
theorem function_replaces_data :
    let base : Pack := [("$get", .data (.int 1)), (literalName, .data .null), ("$and", .data .null)]
    let custom : Pack := [("$sum", .data .null), ("$get", .function fun _ input => .done input)]
    let definitions := build base [[("$or", .data .null)]] (some custom) true [literalName, "$or"]
    let engine : Engine := { definitions }
    (∀ pack ∈ layers base [[("$or", .data .null)]] (some custom) true, pack.keys.Nodup) ∧
      definitions.find? "$get" =
        some (.operation { applied := some fun _ input => .done input, name := "$get" }) ∧
      engine.names = ["$get", "$and", "$sum", literalName] := by
  intro base custom definitions engine
  have hpacks : ∀ pack ∈ layers base [[("$or", .data .null)]] (some custom) true,
      pack.keys.Nodup := by simp [layers, base, custom, literalName]
  obtain ⟨hnames, -, -, horder⟩ := build_prevails_in_order [literalName, "$or"] hpacks
  have hget : Prevails "$get" (.function fun _ input => .done input)
      (layers base [[("$or", .data .null)]] (some custom) true) :=
    .weaker (.weaker (.last rfl (by simp)))
  exact ⟨hpacks, ((hnames "$get" (by decide)).2 _).mpr ⟨by decide, _, hget, rfl⟩, horder⟩

end Definitions

end JsonExpr
