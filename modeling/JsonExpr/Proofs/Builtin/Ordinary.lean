import JsonExpr.Builtin.Packs
import JsonExpr.Proofs.Builtin.Computing
import JsonExpr.Proofs.Builtin.Resolving

-- Most built-in operations are ordinary: they ask about parts of their operand only, and have
-- nothing resolved that lies inside an expression of the operand. The two tests by fields also have
-- the conditions resolved that are expressions, wherever they stand. Sorting reports a misfit on
-- the way as a problem of its own, and a few operations take their results from chance or the clock.
namespace JsonExpr

open Script

-- A condition of a test by fields, for an operand in one of its two forms.
inductive Value.Condition : Value → Value → Prop where
  | applied {conditions : Fields Value} {entry : String × Value} (hmem : entry ∈ conditions) :
      Condition (object conditions) entry.2
  | evaluated {fields conditions : Fields Value} {entry : String × Value}
      (hconditions : fields.find? "conditions" = some (object conditions))
      (hmem : entry ∈ conditions) : Condition (object fields) entry.2

-- What a test by fields looks at, for an operand in the self-contained form; null if it is missing.
inductive Value.Subject : Value → Value → Prop where
  | field {fields : Fields Value} {key : String} (hkey : isOperationName key = false)
      (hconditions : key ≠ "conditions") : Subject (object fields) (Builtin.field key fields)

theorem Value.Condition.part {operand condition : Value} (h : Condition operand condition) :
    Part operand condition := by
  cases h with
  | applied hmem => exact .field hmem (.refl _)
  | evaluated hconditions hmem =>
    exact .field (Fields.mem_of_find? hconditions) (.field hmem (.refl _))

theorem Value.Subject.offers {operand subject : Value} (h : Subject operand subject) :
    operand.Offers subject := by
  cases h with
  | field hkey => exact offers_field hkey

def Limits.testing (registered : String → Bool) (operand : Value) : Limits where
  registered
  resolves value :=
    operand.Subject value ∨ operand.Condition value ∧ value.namesOne registered = true
  recognizes := Value.Part operand
  fails := Failure.IsOwn
  guards := False
  draws := False
  recovers := False

theorem Limits.testing_allowsOwn (registered : String → Bool) (operand : Value) :
    (Limits.testing registered operand).AllowsOwn := fun _ h => h

namespace Builtin

theorem conditionsHold_within {registered : String → Bool} {operand : Value} (item : Value)
    {conditions : Fields Value} (hconditions : ∀ entry ∈ conditions, operand.Condition entry.2) :
    (conditionsHold item conditions).Within (.testing registered operand) fun _ => True := by
  refine within_every fun entry hmem => ?_
  have hcondition := hconditions entry hmem
  rw [within_bind, within_isExpression]
  refine ⟨hcondition.part, ?_⟩
  split
  · next hregistered =>
    refine within_apply_bind (.inr ⟨hcondition, hregistered⟩) fun answer => ?_
    split <;> trivial
  · trivial

theorem matchesAll_within : matchesAll.Within .testing := by
  refine within_both (fun registered operand input => ?_) fun registered operand => ?_
  · rw [within_bind, within_requireFields (Limits.testing_allowsOwn registered operand)]
    rintro conditions rfl
    rw [within_bind]
    exact (conditionsHold_within input fun entry hmem => .applied hmem).mono fun _ _ => trivial
  · rw [within_bind, within_requireKeys (Limits.testing_allowsOwn registered operand)]
    rintro fields rfl -
    rw [within_bind, within_requireFields (Limits.testing_allowsOwn registered _)]
    intro conditions hfield
    refine within_evaluate_bind (.inl (.field (by decide) (by decide))) fun data => ?_
    rw [within_bind]
    refine (conditionsHold_within data fun entry hmem => ?_).mono fun _ _ => trivial
    exact .evaluated (find?_of_field hfield (by simp)) hmem

theorem filterBy_within : filterBy.Within .testing := by
  have hitems : ∀ registered operand items conditions,
      (∀ fields, conditions = .object fields →
        ∀ entry ∈ fields, Value.Condition operand entry.2) →
      (filterItemsBy items conditions).Within (.testing registered operand) fun _ => True := by
    intro registered operand items conditions hconditions
    rw [filterItemsBy, within_bind,
      within_requireList (Limits.testing_allowsOwn registered operand)]
    intro items _
    rw [within_bind, within_requireFields (Limits.testing_allowsOwn registered operand)]
    intro fields heq
    rw [within_bind]
    refine (within_keep fun item _ => ?_).mono fun _ _ => trivial
    exact conditionsHold_within item (hconditions fields heq)
  refine within_both (fun registered operand input => ?_) fun registered operand => ?_
  · refine hitems registered operand input operand ?_
    rintro fields rfl entry hmem
    exact .applied hmem
  · rw [within_bind, within_requireKeys (Limits.testing_allowsOwn registered operand)]
    rintro fields rfl -
    refine within_evaluate_bind (.inl (.field (by decide) (by decide))) fun items => ?_
    refine hitems registered _ items _ fun conditions hfield entry hmem => ?_
    exact .evaluated (find?_of_field hfield (by simp)) hmem

-- The operations that take their results from chance or from the clock.
def drawingNames : List String := ["$random", "$uuid", "$nowUTC", "$nowLocal", "$timestamp"]

-- What sets a built-in operation apart.
inductive Kind : String × Operation → Prop where
  | ordinary {entry : String × Operation} (h : entry.2.Ordinary) : Kind entry
  | matchesAll : Kind ("$matches", matchesAll)
  | filterBy : Kind ("$filterBy", filterBy)
  | sort : Kind ("$sort", sort)
  | drawing {entry : String × Operation} (hname : entry.1 ∈ drawingNames)
      (h : entry.2.Within .drawing) : Kind entry

-- The members of each family are the family applied to values of their own.
theorem kind_of_mem {entry : String × Operation} (hmem : entry ∈ operations) : Kind entry := by
  suffices h : entry.2.Ordinary ∨ entry = ("$matches", matchesAll) ∨
      entry = ("$filterBy", filterBy) ∨ entry = ("$sort", sort) ∨
      entry.1 ∈ drawingNames ∧ entry.2.Within .drawing by
    rcases h with h | rfl | rfl | rfl | ⟨hname, h⟩
    · exact .ordinary h
    · exact .matchesAll
    · exact .filterBy
    · exact .sort
    · exact .drawing hname h
  revert entry
  simp [operations, arithmetic_ordinary, texts_ordinary, slices_ordinary,
    presence_ordinary, choices_ordinary, compositions_ordinary, iterations_ordinary,
    aggregation_ordinary, accessor_ordinary, reshaping_ordinary, view_ordinary,
    textChange_ordinary, comparison_ordinary, membership_ordinary, keySelection_ordinary,
    between_ordinary, prop_ordinary, exists?_ordinary, flatten_ordinary, coalesce_ordinary,
    fromPairs_ordinary, merge_ordinary, identity_ordinary, literalOperation_ordinary,
    get_ordinary, select_ordinary, pluck_ordinary, groupBy_ordinary, draws_drawing, drawingNames,
    count, sum, min, max, mean, median, mode, first, last, reverse, unique, keys, values, pairs,
    lowercase, uppercase, trim, eq, ne, gt, gte, lt, lte, isIn, notIn, pickKeys, omitKeys]

-- All operations but the tests by fields have only exposed parts of the operand resolved.
theorem offering_or_test {entry : String × Operation} (hmem : entry ∈ operations) :
    entry.2.Within (.offering True True) ∨ entry = ("$matches", matchesAll) ∨
      entry = ("$filterBy", filterBy) := by
  have hwiden : ∀ {guards draws : Prop} {operation : Operation},
      operation.Within (.offering guards draws) → operation.Within (.offering True True) :=
    fun h registered mode operand input => (h registered mode operand input).widen
      (Limits.offering_wider (fun _ => trivial) (fun _ => trivial) registered operand)
  cases kind_of_mem hmem with
  | ordinary h => exact .inl (hwiden h)
  | matchesAll => exact .inr (.inl rfl)
  | filterBy => exact .inr (.inr rfl)
  | sort => exact .inl (hwiden sort_guarding)
  | drawing _ h => exact .inl (hwiden h)

theorem supports_of_mem {entry : String × Operation} (hmem : entry ∈ operations) (mode : Mode) :
    entry.2.supports mode = true := by
  have hall : ∀ entry ∈ operations, entry.2.supports .apply = true ∧
      entry.2.supports .evaluate = true := by decide
  cases mode
  · exact (hall entry hmem).1
  · exact (hall entry hmem).2

-- The operations of some names, given on their own or with other data, have a property.
def Each {α : Type} (name : α → String) (forms : List α) (property : α → Operation → Prop) : Prop :=
  ∀ form ∈ forms, ∃ operation, operations.find? (name form) = some operation ∧
    property form operation

@[simp] theorem each_nil {α : Type} (name : α → String) (property : α → Operation → Prop) :
    Each name [] property := by simp [Each]

@[simp] theorem each_cons {α : Type} (name : α → String) (form : α) (rest : List α)
    (property : α → Operation → Prop) :
    Each name (form :: rest) property ↔
      (∃ operation, operations.find? (name form) = some operation ∧ property form operation) ∧
        Each name rest property := List.forall_mem_cons

end Builtin

-- What all built-in operations keep to: they have only parts of the operand resolved.
def Limits.inside (registered : String → Bool) (operand : Value) : Limits where
  registered
  resolves value := value = .null ∨ Value.Part operand value
  recognizes := Value.Part operand
  fails := Failure.IsOwn
  guards := True
  draws := True
  recovers := False

theorem Value.Offers.null_or_part {operand value : Value} (h : operand.Offers value) :
    value = null ∨ Part operand value := h.imp_right Exposed.part

theorem Builtin.inside_of_mem {entry : String × Operation} (hmem : entry ∈ operations) :
    entry.2.Within .inside := by
  have htesting : ∀ {operation : Operation}, operation.Within .testing →
      operation.Within .inside := fun h registered mode operand input =>
    (h registered mode operand input).widen
      ⟨rfl, fun _ hresolves =>
        hresolves.elim (fun h => h.offers.null_or_part) fun h => .inr h.1.part,
        fun _ => id, fun _ => id, fun _ => trivial, fun _ => trivial, id⟩
  rcases offering_or_test hmem with h | rfl | rfl
  · exact fun registered mode operand input => (h registered mode operand input).widen
      ⟨rfl, fun _ => Value.Offers.null_or_part, fun _ => id, fun _ => id, fun _ => trivial,
        fun _ => trivial, id⟩
  · exact htesting matchesAll_within
  · exact htesting filterBy_within

end JsonExpr
