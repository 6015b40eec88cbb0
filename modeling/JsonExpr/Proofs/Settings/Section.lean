import JsonExpr.Settings.Section

-- Which sections are accepted, and what the settings are then: a description of sections that does
-- not say how they are checked.
namespace JsonExpr

-- A reference is the name of a shipped pack in any case, or has a colon in it.
def NamesPack (reference : String) : Prop :=
  lowercase reference ∈ Builtin.packs.keys ∨ ':' ∈ reference.toList

theorem isPackReference_iff {reference : String} :
    isPackReference reference = true ↔ NamesPack reference := by
  simp [isPackReference, NamesPack, Fields.contains, Fields.find?_isSome_iff]

section MapError

variable {ε δ α : Type} {outcome : Except ε α} {f : ε → δ}

theorem mapError_eq_ok_iff {a : α} : outcome.mapError f = .ok a ↔ outcome = .ok a := by
  cases outcome with
  | error cause => exact ⟨nofun, nofun⟩
  | ok result => exact ⟨fun h => congrArg _ (Except.ok.inj h), fun h => congrArg _ (Except.ok.inj h)⟩

theorem mapError_eq_error_iff {problem : δ} :
    outcome.mapError f = .error problem ↔ ∃ cause, outcome = .error cause ∧ f cause = problem := by
  constructor
  · intro h
    cases outcome with
    | error cause => exact ⟨cause, rfl, Except.error.inj h⟩
    | ok result => cases h
  · rintro ⟨cause, rfl, rfl⟩
    rfl

end MapError

namespace Settings

-- What may be given for a field that lists texts, and the texts: a list of them, or nothing at all.
inductive Lists : Option Value → List String → Prop where
  | absent : Lists none []
  | given (texts : List String) : Lists (some (.array (texts.map .string))) texts

-- What may be given for a field that is on or off, and which of both it is.
inductive Switches (readBoolean : BooleanReader) (fallback : Bool) :
    Option Value → Bool → Prop where
  | absent : Switches readBoolean fallback none fallback
  | given {value : Value} {on : Bool} (h : readBoolean value = .ok on) :
      Switches readBoolean fallback (some value) on

-- The fields of a section and the settings that they describe.
structure Describes (readBoolean : BooleanReader) (fields : Fields Value) (settings : Settings) :
    Prop where
  packs : Lists (fields.find? "packs") settings.packs
  references : ∀ reference ∈ settings.packs, NamesPack reference
  includeBase : Switches readBoolean true (fields.find? "include_base") settings.includeBase
  exclude : Lists (fields.find? "exclude") settings.exclude
  known : ∀ field ∈ fields.keys, field ∈ knownFields

section Fields

variable {field : String} {given : Option Value} {listed : List String}

theorem textsFrom_map (index : Nat) (texts : List String) :
    textsFrom field index (texts.map .string) = .ok texts := by
  induction texts generalizing index with
  | nil => rfl
  | cons text rest ih => simp only [List.map_cons, textsFrom, ih]

theorem eq_map_of_textsFrom {index : Nat} {items : List Value}
    (h : textsFrom field index items = .ok listed) : items = listed.map .string := by
  induction items generalizing index listed with
  | nil =>
    cases h
    rfl
  | cons item rest ih =>
    simp only [textsFrom] at h
    split at h
    · next text texts hlater =>
      cases h
      rw [ih hlater, List.map_cons]
    · cases h
    · cases h

theorem texts_eq_ok_iff : texts field given = .ok listed ↔ Lists given listed := by
  constructor
  · intro h
    unfold texts at h
    split at h
    · cases h
      exact .absent
    · rw [eq_map_of_textsFrom h]
      exact .given listed
    · cases h
  · rintro (_ | _)
    · rfl
    · exact textsFrom_map 0 listed

theorem references_eq_ok_iff :
    references given = .ok listed ↔
      Lists given listed ∧ ∀ reference ∈ listed, NamesPack reference := by
  have hall (texts : List String) :
      (texts.find? fun reference => !isPackReference reference) = none ↔
        ∀ reference ∈ texts, NamesPack reference := by
    simp [isPackReference_iff]
  constructor
  · intro h
    cases htexts : texts "packs" given with
    | error problems =>
      rw [references, htexts] at h
      cases h
    | ok found =>
      simp only [references, htexts, bind, Except.bind] at h
      split at h
      · cases h
      · next hnone =>
        cases h
        exact ⟨texts_eq_ok_iff.mp htexts, (hall listed).mp hnone⟩
  · rintro ⟨hlists, hreferences⟩
    have htexts : texts "packs" given = .ok listed := texts_eq_ok_iff.mpr hlists
    simp only [references, htexts, bind, Except.bind, (hall listed).mpr hreferences]
    rfl

theorem flag_eq_ok_iff {readBoolean : BooleanReader} {fallback on : Bool} :
    flag readBoolean field fallback given = .ok on ↔ Switches readBoolean fallback given on := by
  constructor
  · intro h
    cases given with
    | none =>
      cases h
      exact .absent
    | some value => exact .given (mapError_eq_ok_iff.mp h)
  · rintro (_ | h)
    · rfl
    · exact mapError_eq_ok_iff.mpr h

end Fields

variable {fields : Fields Value} {readBoolean : BooleanReader}

theorem unknownFields_eq_nil_iff :
    unknownFields fields = [] ↔ ∀ field ∈ fields.keys, field ∈ knownFields := by
  simp [unknownFields, List.filter_eq_nil_iff]

theorem ofSection_eq_ok_iff {settings : Settings} :
    ofSection (.object fields) readBoolean = .ok settings ↔
      Describes readBoolean fields settings := by
  constructor
  · intro h
    rw [ofSection] at h
    split at h
    · next packs includeBase exclude hpacks hincludeBase hexclude hunknown =>
      cases h
      obtain ⟨hlists, hreferences⟩ := references_eq_ok_iff.mp hpacks
      exact ⟨hlists, hreferences, flag_eq_ok_iff.mp hincludeBase, texts_eq_ok_iff.mp hexclude,
        unknownFields_eq_nil_iff.mp hunknown⟩
    · cases h
  · rintro ⟨hpacks, hreferences, hincludeBase, hexclude, hknown⟩
    simp only [ofSection, references_eq_ok_iff.mpr ⟨hpacks, hreferences⟩,
      flag_eq_ok_iff.mpr hincludeBase, texts_eq_ok_iff.mpr hexclude,
      unknownFields_eq_nil_iff.mpr hknown]

end Settings

end JsonExpr
