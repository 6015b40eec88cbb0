import JsonExpr.Proofs.Builtin.Embedding
import JsonExpr.Proofs.Builtin.Ordinary

-- The built-in operations by the forms in which their operands take the input.
namespace JsonExpr

namespace Builtin

-- Operations that take the input and an unresolved parameter as a pair.
def pairForms : List String :=
  ["$map", "$filter", "$find", "$all", "$any", "$flatMap", "$pluck", "$groupBy"]

-- Operations that take the input and an unresolved parameter as fields of these keys.
def fieldForms : List (String × String × String) :=
  [ ("$filterBy", "array", "conditions"), ("$sort", "array", "sortCriteria"),
    ("$matches", "data", "conditions"), ("$select", "object", "selection") ]

-- Operations that take the input and a parameter to be resolved as a pair.
def resolvedPairForms : List String :=
  [ "$take", "$skip", "$join", "$concat", "$eq", "$ne", "$gt", "$gte", "$lt", "$lte" ]

-- Operations that take the input and a parameter to be resolved as fields of these keys.
def resolvedFieldForms : List (String × String × String) :=
  [ ("$eq", "left", "right"), ("$ne", "left", "right"), ("$gt", "left", "right"),
    ("$gte", "left", "right"), ("$lt", "left", "right"), ("$lte", "left", "right"),
    ("$in", "value", "array"), ("$nin", "value", "array"), ("$exists", "object", "path"),
    ("$prop", "object", "property"), ("$pick", "object", "properties"),
    ("$omit", "object", "properties") ]

def patternForms : List String := ["$matchesRegex", "$matchesLike", "$matchesGlob"]

-- Operations that take the input in front of their parameters.
def listForms : List String := ["$split", "$substring", "$replace", "$merge"]

def compositionForms : List String := ["$pipe", "$compose"]

-- Operations that pair the input with an operand that is no list.
def arithmeticForms : List String :=
  ["$add", "$subtract", "$multiply", "$divide", "$modulo", "$pow"]

-- Operations that look at the input if the operand is no number.
def numberForms : List String := ["$abs", "$ceil", "$floor", "$sqrt"]

-- Operations that look at the input if the operand is no list.
def summaryForms : List String :=
  ["$count", "$sum", "$min", "$max", "$mean", "$median", "$mode", "$first", "$last"]

-- Operations that take nothing but the input.
def inputForms : List String :=
  [ "$reverse", "$unique", "$keys", "$values", "$pairs", "$fromPairs", "$lowercase", "$uppercase",
    "$trim", "$identity", "$isEmpty", "$isPresent" ]

-- The operand of an operation that is applied to an input, and the one that has a template for this
-- input in it. Parameters that are resolved are constant, such as data behind the literal escape.
inductive Embedding (source : Value) : String → Value → Value → Prop where
  | pair {name : String} (hname : name ∈ pairForms) (parameter : Value) :
      Embedding source name parameter (.array [source, parameter])
  | fields {form : String × String × String} (hform : form ∈ fieldForms) {fields : Fields Value}
      {parameter : Value} (hinput : fields.find? form.2.1 = some source)
      (hfind : fields.find? form.2.2 = some parameter) :
      Embedding source form.1 parameter (.object fields)
  | flatten {fields options : Fields Value} (harray : fields.find? "array" = some source)
      (hdepth : fields.find? "depth" = options.find? "depth") :
      Embedding source "$flatten" (.object options) (.object fields)
  | composition {name : String} (hname : name ∈ compositionForms) (expressions : Value) :
      Embedding source name expressions (.array [expressions, source])
  | resolvedPair {name : String} (hname : name ∈ resolvedPairForms) {parameter : Value}
      (hparameter : parameter.IsConstant) :
      Embedding source name parameter (.array [source, parameter])
  | resolvedFields {form : String × String × String} (hform : form ∈ resolvedFieldForms)
      {fields : Fields Value} {parameter : Value} (hinput : fields.find? form.2.1 = some source)
      (hfind : fields.find? form.2.2 = some parameter) (hparameter : parameter.IsConstant) :
      Embedding source form.1 parameter (.object fields)
  | between {fields limits : Fields Value} {parameter low high : Value}
      (hparameter : parameter.IsConstant) (hlimits : parameter.constant = .object limits)
      (hbounds : limits.find? "min" = some low.constant ∧ limits.find? "max" = some high.constant)
      (hfields : ∀ entry ∈ fields, entry.2.IsConstant)
      (hvalue : fields.find? "value" = some source)
      (hends : fields.find? "min" = some low ∧ fields.find? "max" = some high) :
      Embedding source "$between" parameter (.object fields)
  | get {fields : Fields Value} {path : Value} (hpath : path.IsConstant)
      (hplain : ∀ options, path = .object options → path.hasExpressionShape = true)
      (hfields : fields.find? "object" = some source ∧ fields.find? "path" = some path)
      (hdefault : fields.find? "default" = none) : Embedding source "$get" path (.object fields)
  | getDefault {fields options : Fields Value} {path : Value}
      (hshape : (Value.object options).hasExpressionShape = false) (hpath : path.IsConstant)
      (hoptions : options.find? "path" = some path)
      (hfields : fields.find? "object" = some source ∧ fields.find? "path" = some path)
      (hdefaults : fields.find? "default" = options.find? "default")
      (hfallback : ∀ fallback, options.find? "default" = some fallback → fallback.IsConstant) :
      Embedding source "$get" (.object options) (.object fields)
  | pattern {name : String} (hname : name ∈ patternForms) {pattern : Value}
      (hpattern : pattern.IsConstant) : Embedding source name pattern (.array [pattern, source])
  | list {name : String} (hname : name ∈ listForms) {parameter : Value} {rest : List Value}
      (hparameter : parameter.IsConstant) (hrest : ∀ item ∈ rest, item.IsConstant)
      (hlist : parameter.constant.wildcardItems = rest.map Value.constant) :
      Embedding source name parameter (.array (source :: rest))
  | arithmetic {name : String} (hname : name ∈ arithmeticForms) {operand : Value}
      (hoperand : operand.IsConstant) (hsingle : operand.constant.isArray = false) :
      Embedding source name operand (.array [source, operand])
  | number {name : String} (hname : name ∈ numberForms) {operand : Value}
      (hoperand : operand.IsConstant) (hother : ∀ n, operand.constant ≠ .number n) :
      Embedding source name operand source
  | summary {name : String} (hname : name ∈ summaryForms) {operand : Value}
      (hoperand : operand.IsConstant) (hsingle : operand.constant.isArray = false) :
      Embedding source name operand source
  | input {name : String} (hname : name ∈ inputForms) (operand : Value) :
      Embedding source name operand source

theorem pairForms_takePair : Each id pairForms fun _ operation => operation.TakesPair := by
  simp [pairForms, operations, Fields.find?, map, filter, find, all, any, flatMap,
    iteration_takesPair, pluck_takesPair, groupBy_takesPair]

theorem fieldForms_takeFields : Each Prod.fst fieldForms fun form operation =>
    operation.TakesFields form.2.1 form.2.2 ∨
      form.2 = ("data", "conditions") ∧ operation = matchesAll := by
  simp [fieldForms, operations, Fields.find?, filterBy_takesFields, sort_takesFields,
    select_takesFields]

theorem resolvedFieldForms_resolveFields : Each Prod.fst resolvedFieldForms fun form operation =>
    operation.ResolvesFields form.2.1 form.2.2 := by
  simp [resolvedFieldForms, operations, Fields.find?, eq, ne, gt, gte, lt, lte, isIn, notIn,
    pickKeys, omitKeys, comparison_resolvesFields, membership_resolvesFields,
    exists_resolvesFields, prop_resolvesFields, keySelection_resolvesFields]

theorem inputForms_takeNone : Each id inputForms fun _ operation => operation.TakesNone := by
  simp [inputForms, operations, Fields.find?, reverse, unique, keys, values, pairs,
    Builtin.lowercase, Builtin.uppercase, trim, reshaping_takesNone, view_takesNone,
    textChange_takesNone, fromPairs_takesNone, identity_takesNone, isEmpty_takesNone,
    isPresent_takesNone]

section Sources

variable {source : Value} (hsource : source.IsConstant)

include hsource

theorem resolvedPairForms_embed {parameter : Value} (hparameter : parameter.IsConstant) :
    Each id resolvedPairForms fun _ operation =>
      operation.Embeds source.constant parameter (.array [source, parameter]) := by
  simp [resolvedPairForms, operations, Fields.find?, take, skip, join, concat, eq, ne, gt, gte, lt,
    lte, parameterized_embeds hsource hparameter, comparison_embeds hsource hparameter]

theorem compositionForms_embed (expressions : Value) :
    Each id compositionForms fun _ operation =>
      operation.Embeds source.constant expressions (.array [expressions, source]) := by
  simp [compositionForms, operations, Fields.find?, pipe, compose, composition_embeds hsource]

theorem patternForms_embed {pattern : Value} (hpattern : pattern.IsConstant) :
    Each id patternForms fun _ operation =>
      operation.Embeds source.constant pattern (.array [pattern, source]) := by
  simp [patternForms, operations, Fields.find?, matchesRegex, matchesLike, matchesGlob,
    patternTest_embeds hsource hpattern]

theorem listForms_embed {parameter : Value} {rest : List Value} (hparameter : parameter.IsConstant)
    (hrest : ∀ item ∈ rest, item.IsConstant)
    (hlist : parameter.constant.wildcardItems = rest.map Value.constant) :
    Each id listForms fun _ operation =>
      operation.Embeds source.constant parameter (.array (source :: rest)) := by
  simp [listForms, operations, Fields.find?, split, substring, replace,
    withParameters_embeds hsource hparameter hrest hlist,
    merge_embeds hsource hparameter hrest hlist]

theorem arithmeticForms_embed {operand : Value} (hoperand : operand.IsConstant)
    (hsingle : operand.constant.isArray = false) :
    Each id arithmeticForms fun _ operation =>
      operation.Embeds source.constant operand (.array [source, operand]) := by
  simp [arithmeticForms, operations, Fields.find?, add, subtract, multiply, divide, modulo, pow,
    binary_embeds hsource hoperand hsingle]

theorem numberForms_embed {operand : Value} (hoperand : operand.IsConstant)
    (hother : ∀ n, operand.constant ≠ .number n) :
    Each id numberForms fun _ operation => operation.Embeds source.constant operand source := by
  simp [numberForms, operations, Fields.find?, abs, ceil, floor, sqrt,
    unary_embeds hsource hoperand hother]

theorem summaryForms_embed {operand : Value} (hoperand : operand.IsConstant)
    (hsingle : operand.constant.isArray = false) :
    Each id summaryForms fun _ operation => operation.Embeds source.constant operand source := by
  simp [summaryForms, operations, Fields.find?, count, sum, Builtin.min, Builtin.max, mean, median,
    mode, first, last, aggregation_embeds hsource hoperand hsingle,
    accessor_embeds hsource hoperand hsingle]

-- Every operation with such a pair of operands embeds its input.
theorem Embedding.embeds {name : String} {applied evaluated : Value}
    (h : Embedding source name applied evaluated) :
    ∃ operation, operations.find? name = some operation ∧
      operation.Embeds source.constant applied evaluated := by
  cases h with
  | pair hname =>
    obtain ⟨operation, hoperation, htakes⟩ := pairForms_takePair name hname
    exact ⟨operation, hoperation, embeds_pair hsource htakes _⟩
  | fields hform hinput hfind =>
    obtain ⟨operation, hoperation, htakes | ⟨hkeys, rfl⟩⟩ := fieldForms_takeFields _ hform
    · exact ⟨operation, hoperation, embeds_fields hsource htakes hinput hfind⟩
    · rw [hkeys] at hinput hfind
      exact ⟨matchesAll, hoperation, matchesAll_embeds hsource hinput hfind⟩
  | flatten harray hdepth =>
    exact ⟨Builtin.flatten, by simp [operations, Fields.find?],
      flatten_embeds hsource harray hdepth⟩
  | composition hname => exact compositionForms_embed hsource _ name hname
  | resolvedPair hname hparameter => exact resolvedPairForms_embed hsource hparameter name hname
  | resolvedFields hform hinput hfind hparameter =>
    obtain ⟨operation, hoperation, hresolves⟩ := resolvedFieldForms_resolveFields _ hform
    exact ⟨operation, hoperation, embeds_resolved hsource hresolves hinput hfind hparameter⟩
  | between hparameter hlimits hbounds hfields hvalue hends =>
    exact ⟨Builtin.between, by simp [operations, Fields.find?],
      between_embeds hparameter hlimits hbounds hfields hvalue hends⟩
  | get hpath hplain hfields hdefault =>
    exact ⟨Builtin.get, by simp [operations, Fields.find?],
      get_embeds hsource hpath hplain hfields.1 hfields.2 hdefault⟩
  | @getDefault _ options _ hshape hpath hoptions hfields hdefaults hfallback =>
    refine ⟨Builtin.get, by simp [operations, Fields.find?], ?_⟩
    refine get_embeds_options hsource hshape hpath ⟨hoptions, hfields.2⟩ hfields.1 hdefaults ?_
    unfold field
    cases hfind : options.find? "default" with
    | none => simp
    | some fallback => exact hfallback fallback hfind
  | pattern hname hpattern => exact patternForms_embed hsource hpattern name hname
  | list hname hparameter hrest hlist =>
    exact listForms_embed hsource hparameter hrest hlist name hname
  | arithmetic hname hoperand hsingle =>
    exact arithmeticForms_embed hsource hoperand hsingle name hname
  | number hname hoperand hother => exact numberForms_embed hsource hoperand hother name hname
  | summary hname hoperand hsingle => exact summaryForms_embed hsource hoperand hsingle name hname
  | input hname =>
    obtain ⟨operation, hoperation, htakes⟩ := inputForms_takeNone name hname
    exact ⟨operation, hoperation, embeds_source hsource htakes _⟩

end Sources

end Builtin

end JsonExpr
