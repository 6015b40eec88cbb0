import JsonExpr.Builtin.Packs
import JsonExpr.Proofs.Run.Alike
import JsonExpr.Proofs.Value.Constant

-- Operations whose self-contained form is their other form with the input put into the operand.
namespace JsonExpr

namespace Failure

-- Failures of the same class, whatever they say.
def SameKind : Failure → Failure → Prop
  | unknownOperation _, unknownOperation _ => True
  | operand _, operand _ => True
  | unsupportedMode .., unsupportedMode .. => True
  | domain _, domain _ => True
  | invalidExpression _, invalidExpression _ => True
  | other _, other _ => True
  | fault cause, fault cause' => cause = cause'
  | tooDeep, tooDeep => True
  | _, _ => False

instance : Std.Refl SameKind where
  refl failure := by cases failure <;> simp [SameKind]

end Failure

-- Constant templates are resolved to what they stand for, in both modes.
structure SettlesConstants (resolve : Request → Run Value) : Prop where
  apply {template : Value} (h : template.IsConstant) (input : Value) :
    Run.Alike Failure.SameKind (resolve (.apply template input)) (.done template.constant)
  evaluate {template : Value} (h : template.IsConstant) :
    Run.Alike Failure.SameKind (resolve (.evaluate template)) (.done template.constant)

-- Whether an operation does with an operand and the input what it does with another operand alone.
def Operation.Embeds (operation : Operation) (input applied evaluated : Value) : Prop :=
  ∀ resolve registered, SettlesConstants resolve →
    Run.Alike Failure.SameKind ((operation.call .apply applied input).run resolve registered)
      ((operation.call .evaluate evaluated .null).run resolve registered)

-- An operation that uses its parameter as it is. The self-contained form takes the input and the
-- parameter as a pair.
def Operation.TakesPair (operation : Operation) : Prop :=
  ∃ name shape, ∃ body : Value → Value → Script Value,
    (∀ operand input, operation.call .apply operand input = body input operand) ∧
    ∀ operand other, operation.call .evaluate operand other = (do
      let (input, parameter) ← Builtin.requirePair name shape operand
      body (← .evaluate input) parameter)

-- The same with the input and the parameter as fields.
def Operation.TakesFields (operation : Operation) (inputKey parameterKey : String) : Prop :=
  ∃ name, ∃ body : Value → Value → Script Value,
    (∀ operand input, operation.call .apply operand input = body input operand) ∧
    ∀ operand other, operation.call .evaluate operand other = (do
      let fields ← Builtin.requireKeys name [inputKey, parameterKey] operand
      body (← .evaluate (Builtin.field inputKey fields)) (Builtin.field parameterKey fields))

-- An operation that resolves its parameter before all else, or right after the input if that is in
-- the operand too.
def Operation.ResolvesFields (operation : Operation) (inputKey parameterKey : String) : Prop :=
  ∃ name keys, ∃ body : Value → Value → Script Value,
    (∀ key ∈ keys, key = inputKey ∨ key = parameterKey) ∧
    (∀ operand input,
      operation.call .apply operand input = Script.apply operand input >>= body input) ∧
    ∀ fields other, operation.call .evaluate (.object fields) other = (do
      let fields ← Builtin.requireKeys name keys (.object fields)
      let input ← .evaluate (Builtin.field inputKey fields)
      body input (← .evaluate (Builtin.field parameterKey fields)))

def Operation.TakesNone (operation : Operation) : Prop :=
  ∃ body : Value → Script Value,
    (∀ operand input, operation.call .apply operand input = body input) ∧
    ∀ operand other, operation.call .evaluate operand other = Script.evaluate operand >>= body

namespace Builtin

theorem iteration_takesPair (name : String)
    (run : (Value → Script Value) → List Value → Script Value) : (iteration name run).TakesPair :=
  ⟨_, _, _, fun _ _ => rfl, fun _ _ => rfl⟩

theorem pluck_takesPair : pluck.TakesPair := ⟨_, _, _, fun _ _ => rfl, fun _ _ => rfl⟩

theorem groupBy_takesPair : groupBy.TakesPair := ⟨_, _, _, fun _ _ => rfl, fun _ _ => rfl⟩

theorem filterBy_takesFields : filterBy.TakesFields "array" "conditions" :=
  ⟨_, _, fun _ _ => rfl, fun _ _ => rfl⟩

theorem sort_takesFields : sort.TakesFields "array" "sortCriteria" :=
  ⟨_, _, fun _ _ => rfl, fun _ _ => rfl⟩

theorem select_takesFields : select.TakesFields "object" "selection" :=
  ⟨_, fun input selection => selectFrom selection input, fun _ _ => rfl, fun _ _ => rfl⟩

theorem comparison_resolvesFields (name : String) (compare : Value → Value → Option Bool) :
    (comparison name compare).ResolvesFields "left" "right" := by
  refine ⟨name, ["left", "right"], checked name compare, by simp, fun _ _ => rfl, fun _ _ => ?_⟩
  simp only [comparison, both, Operation.call, comparisonOperands, bind_assoc, pure_bind]

theorem membership_resolvesFields (name : String) (negate : Bool) :
    (membership name negate).ResolvesFields "value" "array" :=
  ⟨_, ["array", "value"], _, by simp, fun _ _ => rfl, fun _ _ => rfl⟩

theorem exists_resolvesFields : exists?.ResolvesFields "object" "path" :=
  ⟨_, ["object", "path"], _, by simp, fun _ _ => rfl, fun _ _ => rfl⟩

theorem prop_resolvesFields : prop.ResolvesFields "object" "property" :=
  ⟨_, ["object", "property"], _, by simp, fun _ _ => rfl, fun _ _ => rfl⟩

theorem keySelection_resolvesFields (name : String) (keep : Bool) :
    (keySelection name keep).ResolvesFields "object" "properties" :=
  ⟨_, ["object", "properties"], _, by simp, fun _ _ => rfl, fun _ _ => rfl⟩

theorem reshaping_takesNone (name : String) (change : List Value → List Value) :
    (reshaping name change).TakesNone := ⟨_, fun _ _ => rfl, fun _ _ => rfl⟩

theorem view_takesNone (name : String) (look : Object → List Value) : (view name look).TakesNone :=
  ⟨_, fun _ _ => rfl, fun _ _ => rfl⟩

theorem textChange_takesNone (name : String) (change : String → String) :
    (textChange name change).TakesNone := ⟨_, fun _ _ => rfl, fun _ _ => rfl⟩

theorem fromPairs_takesNone : fromPairs.TakesNone := ⟨_, fun _ _ => rfl, fun _ _ => rfl⟩

theorem identity_takesNone : identity.TakesNone := ⟨.done, fun _ _ => rfl, fun _ _ => rfl⟩

theorem isEmpty_takesNone : isEmpty.TakesNone :=
  ⟨fun input => .done (.bool input.isNull), fun _ _ => rfl, fun _ _ => rfl⟩

theorem isPresent_takesNone : isPresent.TakesNone :=
  ⟨fun input => .done (.bool !input.isNull), fun _ _ => rfl, fun _ _ => rfl⟩

theorem requireKeys_of_contains {name : String} {keys : List String} {fields : Object}
    (h : ∀ key ∈ keys, fields.contains key = true) :
    requireKeys name keys (.object fields) = .done fields := by
  have hnone : (keys.filter fun key => !Fields.contains key fields) = [] := by
    simpa [List.filter_eq_nil_iff] using h
  simp only [requireKeys, hnone]

theorem contains_of_find? {key : String} {fields : Object} {value : Value}
    (h : fields.find? key = some value) : fields.contains key = true := by
  simp [Fields.contains, h]

theorem field_of_find? {key : String} {fields : Object} {value : Value}
    (h : fields.find? key = some value) : field key fields = value := by
  simp [field, h]

theorem find?_map_constant (key : String) (fields : Object) :
    Fields.find? key (fields.map fun entry => (entry.1, entry.2.constant)) =
      (fields.find? key).map Value.constant :=
  Fields.find?_map (fun _ => Value.constant) key fields

-- The input is what a constant template stands for; the template takes its place in the operand.
section Families

variable {operation : Operation} {source parameter : Value} {fields : Object}
  (hsource : source.IsConstant)

include hsource

theorem embeds_pair (htakes : operation.TakesPair) (parameter : Value) :
    operation.Embeds source.constant parameter (.array [source, parameter]) := by
  obtain ⟨name, shape, body, happly, hevaluate⟩ := htakes
  intro resolve registered hconstants
  simp only [happly, hevaluate, requirePair, Script.run_bind, Script.run_done, Script.run_evaluate,
    Run.bind_done]
  exact (hconstants.evaluate hsource).bind_right (.refl _)

theorem embeds_fields {inputKey parameterKey : String}
    (htakes : operation.TakesFields inputKey parameterKey)
    (hinput : fields.find? inputKey = some source)
    (hfind : fields.find? parameterKey = some parameter) :
    operation.Embeds source.constant parameter (.object fields) := by
  obtain ⟨name, body, happly, hevaluate⟩ := htakes
  intro resolve registered hconstants
  have hkeys : requireKeys name [inputKey, parameterKey] (.object fields) = .done fields :=
    requireKeys_of_contains (by simp [contains_of_find? hinput, contains_of_find? hfind])
  simp only [happly, hevaluate, hkeys, field_of_find? hinput, field_of_find? hfind,
    Script.run_bind, Script.run_done, Script.run_evaluate, Run.bind_done]
  exact (hconstants.evaluate hsource).bind_right (.refl _)

theorem embeds_resolved {inputKey parameterKey : String}
    (hresolves : operation.ResolvesFields inputKey parameterKey)
    (hinput : fields.find? inputKey = some source)
    (hfind : fields.find? parameterKey = some parameter) (hparameter : parameter.IsConstant) :
    operation.Embeds source.constant parameter (.object fields) := by
  obtain ⟨name, keys, body, hkeys, happly, hevaluate⟩ := hresolves
  intro resolve registered hconstants
  have hkeys : requireKeys name keys (.object fields) = .done fields := by
    refine requireKeys_of_contains fun key hkey => ?_
    rcases hkeys key hkey with rfl | rfl
    · exact contains_of_find? hinput
    · exact contains_of_find? hfind
  simp only [happly, hevaluate, hkeys, field_of_find? hinput, field_of_find? hfind,
    Script.run_bind, Script.run_done, Script.run_apply, Script.run_evaluate, Run.bind_done]
  refine (hconstants.apply hparameter source.constant).bind_left ?_
  refine (hconstants.evaluate hsource).bind_right ?_
  exact (hconstants.evaluate hparameter).bind_right (.refl _)

theorem embeds_source (htakes : operation.TakesNone) (operand : Value) :
    operation.Embeds source.constant operand source := by
  obtain ⟨body, happly, hevaluate⟩ := htakes
  intro resolve registered hconstants
  simp only [happly, hevaluate, Script.run_bind, Script.run_evaluate]
  exact (hconstants.evaluate hsource).bind_right (.refl _)

end Families

-- Operations with a way of their own to take the input or a parameter.
section Others

variable {source parameter : Value} {fields : Object} (hsource : source.IsConstant)

include hsource

-- The conditions are looked at before the data is resolved.
theorem matchesAll_embeds (hdata : fields.find? "data" = some source)
    (hconditions : fields.find? "conditions" = some parameter) :
    matchesAll.Embeds source.constant parameter (.object fields) := by
  intro resolve registered hconstants
  have hkeys : requireKeys "$matches" ["data", "conditions"] (.object fields) = .done fields :=
    requireKeys_of_contains (by simp [contains_of_find? hdata, contains_of_find? hconditions])
  simp only [matchesAll, both, Operation.call, hkeys, field_of_find? hdata,
    field_of_find? hconditions, Script.run_bind, Script.run_done, Script.run_evaluate,
    Run.bind_done]
  exact (Run.Alike.refl _).bind fun _ _ => (hconstants.evaluate hsource).bind_right (.refl _)

theorem flatten_embeds {options : Object} (harray : fields.find? "array" = some source)
    (hdepth : fields.find? "depth" = options.find? "depth") :
    flatten.Embeds source.constant (.object options) (.object fields) := by
  intro resolve registered hconstants
  have hkeys : requireKeys "$flatten" ["array"] (.object fields) = .done fields :=
    requireKeys_of_contains (by simp [contains_of_find? harray])
  simp only [flatten, both, Operation.call, flattenDepth, hdepth, hkeys, field_of_find? harray,
    Script.run_bind, Script.run_done, Script.run_evaluate, Run.bind_done]
  exact (hconstants.evaluate hsource).bind_right (.refl _)

theorem composition_embeds (name : String) (order : List Value → List Value) (expressions : Value) :
    (composition name order).Embeds source.constant expressions (.array [expressions, source]) := by
  intro resolve registered hconstants
  simp only [composition, both, Operation.call, requirePair, Script.run_bind, Script.run_done,
    Script.run_evaluate, Run.bind_done]
  exact (Run.Alike.refl _).bind fun _ _ => (hconstants.evaluate hsource).bind_right (.refl _)

theorem parameterized_embeds (hparameter : parameter.IsConstant) (name shape : String)
    (run : List Value → Value → Script Value) :
    (parameterized name shape run).Embeds source.constant parameter
      (.array [source, parameter]) := by
  intro resolve registered hconstants
  simp only [parameterized, both, Operation.call, requirePair, Script.run_bind, Script.run_done,
    Script.run_apply, Script.run_evaluate, Run.bind_done]
  refine (hconstants.evaluate hsource).bind_right ((Run.Alike.refl _).bind fun items _ => ?_)
  refine (hconstants.apply hparameter source.constant).bind_left ?_
  exact (hconstants.evaluate hparameter).bind_right (.refl _)

theorem comparison_embeds (hparameter : parameter.IsConstant) (name : String)
    (compare : Value → Value → Option Bool) :
    (comparison name compare).Embeds source.constant parameter (.array [source, parameter]) := by
  intro resolve registered hconstants
  simp only [comparison, both, Operation.call, comparisonOperands, Script.run_bind, Script.run_done,
    Script.run_apply, Script.run_evaluate, Run.bind_done]
  refine (hconstants.apply hparameter source.constant).bind_left ?_
  refine (hconstants.evaluate hsource).bind_right ?_
  exact (hconstants.evaluate hparameter).bind_right (.refl _)

theorem patternTest_embeds (hparameter : parameter.IsConstant) (name : String)
    (compile : String → Script (List Char → Bool)) :
    (patternTest name compile).Embeds source.constant parameter (.array [parameter, source]) := by
  intro resolve registered hconstants
  simp only [patternTest, both, Operation.call, requirePair, Script.run_bind, Script.run_done,
    Script.run_apply, Script.run_evaluate, Run.bind_done]
  refine (hconstants.apply hparameter source.constant).bind_left ?_
  refine (hconstants.evaluate hparameter).bind_right ?_
  exact (hconstants.evaluate hsource).bind_right (.refl _)

-- A parameter that is no list and the input are the pair that the self-contained form takes.
theorem binary_embeds (hparameter : parameter.IsConstant)
    (hsingle : parameter.constant.isArray = false) (name : String)
    (compute : Number → Number → Script Number) :
    (binary name compute).Embeds source.constant parameter (.array [source, parameter]) := by
  intro resolve registered hconstants
  have hpair : (Value.array [source, parameter]).IsConstant := by simp [hsource, hparameter]
  simp only [binary, both, Operation.call, Script.run_bind, Script.run_apply, Script.run_evaluate]
  refine (hconstants.apply hparameter source.constant).bind_left ?_
  refine (hconstants.evaluate hpair).bind_right ?_
  rw [Value.constant_array]
  split
  · next hlist => simp [hlist, Value.isArray] at hsingle
  · exact .refl _

theorem unary_embeds (hparameter : parameter.IsConstant)
    (hother : ∀ n, parameter.constant ≠ .number n) (name : String)
    (compute : Number → Script Number) :
    (unary name compute).Embeds source.constant parameter source := by
  intro resolve registered hconstants
  simp only [unary, both, Operation.call, Script.run_bind, Script.run_apply, Script.run_evaluate]
  refine (hconstants.apply hparameter source.constant).bind_left ?_
  refine (hconstants.evaluate hsource).bind_right ?_
  split
  · next n hnumber => exact (hother n hnumber).elim
  · simp only [Script.run_bind]
    exact .refl _

theorem aggregation_embeds (hparameter : parameter.IsConstant)
    (hsingle : parameter.constant.isArray = false) (name : String)
    (summary : List Value → Summary) :
    (aggregation name summary).Embeds source.constant parameter source := by
  intro resolve registered hconstants
  simp only [aggregation, both, Operation.call, Script.run_bind, Script.run_apply,
    Script.run_evaluate]
  refine (hconstants.apply hparameter source.constant).bind_left ?_
  refine (hconstants.evaluate hsource).bind_right ?_
  simp only [hsingle, Bool.false_eq_true, if_false]
  exact .refl _

-- Only the texts of the failures for an input that is no list differ.
theorem accessor_embeds (hparameter : parameter.IsConstant)
    (hsingle : parameter.constant.isArray = false) (name : String)
    (access : List Value → Value) :
    (accessor name access).Embeds source.constant parameter source := by
  intro resolve registered hconstants
  simp only [accessor, both, Operation.call, Script.run_bind, Script.run_apply,
    Script.run_evaluate]
  refine (hconstants.apply hparameter source.constant).bind_left ?_
  refine (hconstants.evaluate hsource).bind_right ?_
  split
  · next hlist => simp [hlist, Value.isArray] at hsingle
  · next hlist _ =>
    rw [hlist]
    exact .refl _
  · next hother =>
    rw [requireList.eq_2 name source.constant hother]
    exact fun _ => ⟨.error trivial, rfl, rfl⟩

-- The self-contained form takes the parameters in the same list as the text.
theorem withParameters_embeds {rest : List Value} (hparameter : parameter.IsConstant)
    (hrest : ∀ item ∈ rest, item.IsConstant)
    (hlist : parameter.constant.wildcardItems = rest.map Value.constant) (name : String)
    (run : String → List Value → Script Value) :
    (withParameters name run).Embeds source.constant parameter (.array (source :: rest)) := by
  intro resolve registered hconstants
  have hwhole : (Value.array (source :: rest)).IsConstant := by simpa [hsource] using hrest
  have hparameters : parametersOf parameter.constant = rest.map Value.constant := by
    rw [← hlist]
    cases parameter.constant <;> rfl
  simp only [withParameters, both, Operation.call, Script.run_bind, Script.run_apply,
    Script.run_evaluate]
  refine (hconstants.apply hparameter source.constant).bind_left ?_
  refine (hconstants.evaluate hwhole).bind_right ?_
  rw [Value.constant_array, List.map_cons, hparameters]
  simp only [Script.run_bind]
  exact .refl _

theorem merge_embeds {rest : List Value} (hparameter : parameter.IsConstant)
    (hrest : ∀ item ∈ rest, item.IsConstant)
    (hlist : parameter.constant.wildcardItems = rest.map Value.constant) :
    merge.Embeds source.constant parameter (.array (source :: rest)) := by
  intro resolve registered hconstants
  have hwhole : (Value.array (source :: rest)).IsConstant := by simpa [hsource] using hrest
  simp only [merge, both, Operation.call, Script.run_bind, Script.run_apply, Script.run_evaluate]
  refine (hconstants.apply hparameter source.constant).bind_left ?_
  refine (hconstants.evaluate hwhole).bind_right ?_
  rw [Value.constant_array, List.map_cons, hlist]
  exact .refl _

-- A path on its own is in the operand under its own key.
theorem get_embeds (hparameter : parameter.IsConstant)
    (hplain : ∀ options, parameter = .object options → parameter.hasExpressionShape = true)
    (hobject : fields.find? "object" = some source) (hpath : fields.find? "path" = some parameter)
    (hdefault : fields.find? "default" = none) :
    get.Embeds source.constant parameter (.object fields) := by
  intro resolve registered hconstants
  have hkeys : requireKeys "$get" ["object", "path"] (.object fields) = .done fields :=
    requireKeys_of_contains (by simp [contains_of_find? hobject, contains_of_find? hpath])
  have happly : getWithInput parameter source.constant = (do
      let path ← requirePath (← .apply parameter source.constant)
      return source.constant.read path) := by
    unfold getWithInput
    split
    · next options hexpression =>
      simp [Value.hasExpressionShape, hexpression] at hplain
    · rfl
  simp only [get, both, Operation.call, happly, getAlone, hkeys, field_of_find? hobject,
    field_of_find? hpath, Script.run_bind, Script.run_done, Script.run_apply, Script.run_evaluate,
    Run.bind_done]
  refine (hconstants.apply hparameter source.constant).bind_left ?_
  refine (hconstants.evaluate hsource).bind_right ?_
  refine (hconstants.evaluate hparameter).bind_right ?_
  refine (Run.Alike.refl _).bind fun path _ => ?_
  simp only [orDefault, field, hdefault, Option.getD_none, Value.isNull, Bool.not_true,
    Bool.and_false]
  exact .refl _

theorem get_embeds_options {options : Object} {path : Value}
    (hshape : (Value.object options).hasExpressionShape = false) (hconstant : path.IsConstant)
    (hpaths : options.find? "path" = some path ∧ fields.find? "path" = some path)
    (hobject : fields.find? "object" = some source)
    (hdefaults : fields.find? "default" = options.find? "default")
    (hfallback : (field "default" options).IsConstant) :
    get.Embeds source.constant (.object options) (.object fields) := by
  intro resolve registered hconstants
  have hkeys : requireKeys "$get" ["object", "path"] (.object fields) = .done fields :=
    requireKeys_of_contains (by simp [contains_of_find? hobject, contains_of_find? hpaths.2])
  have hnone : (Value.object options).expression? = none := by
    simpa [Value.hasExpressionShape] using hshape
  have hdefault : field "default" fields = field "default" options := by
    simp only [field, hdefaults]
  simp only [get, both, Operation.call, getWithInput, hnone, hpaths.1, getAlone, hkeys,
    field_of_find? hobject, field_of_find? hpaths.2, hdefault, Script.run_bind, Script.run_done,
    Script.run_apply, Script.run_evaluate, Run.bind_done]
  refine (hconstants.apply hconstant source.constant).bind_left ?_
  refine (hconstants.evaluate hsource).bind_right ?_
  refine (hconstants.evaluate hconstant).bind_right ?_
  refine (Run.Alike.refl _).bind fun read _ => ?_
  unfold orDefault
  split
  · rw [Script.run_apply, Script.run_evaluate]
    exact (hconstants.apply hfallback source.constant).of_done (hconstants.evaluate hfallback)
  · exact .refl _

end Others

-- Only the texts of the failures for bounds that cannot be compared differ.
theorem between_embeds {source parameter low high : Value} {fields limits : Object}
    (hparameter : parameter.IsConstant)
    (hlimits : parameter.constant = .object limits)
    (hbounds : limits.find? "min" = some low.constant ∧ limits.find? "max" = some high.constant)
    (hfields : ∀ entry ∈ fields, entry.2.IsConstant)
    (hvalue : fields.find? "value" = some source)
    (hends : fields.find? "min" = some low ∧ fields.find? "max" = some high) :
    between.Embeds source.constant parameter (.object fields) := by
  intro resolve registered hconstants
  have hkeys : requireKeys "$between" ["value", "min", "max"] (.object fields) = .done fields :=
    requireKeys_of_contains
      (by simp [contains_of_find? hvalue, contains_of_find? hends.1, contains_of_find? hends.2])
  have hshape : (Value.object fields).hasExpressionShape = false :=
    Value.hasExpressionShape_of_find? (by decide) hvalue
  simp only [between, both, Operation.call, hkeys, Script.run_bind, Script.run_done,
    Script.run_apply, Script.run_evaluate, Run.bind_done]
  refine (hconstants.apply hparameter source.constant).bind_left ?_
  refine (hconstants.evaluate (Value.isConstant_object hshape hfields)).bind_right ?_
  rw [Value.constant_object hshape, hlimits]
  simp only [field, find?_map_constant, hvalue, hends, hbounds, withinBounds, Option.map_some,
    Option.getD_some]
  split
  · exact .refl _
  · exact fun _ => ⟨.error trivial, rfl, rfl⟩

end Builtin

end JsonExpr
