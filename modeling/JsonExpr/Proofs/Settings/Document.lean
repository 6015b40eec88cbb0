import JsonExpr.Proofs.Settings.Section
import JsonExpr.Settings.Document

-- What the table of a settings document comes to: settings, or a failure that is foreseen, unless
-- the tools in it are no table.
namespace JsonExpr

-- A failure that is reported, and no fault.
def SettingsFailure.IsForeseen : SettingsFailure → Prop
  | fault _ => False
  | reference (.fault _) => False
  | _ => True

namespace Settings

-- The fields of the section in the table of a document, if it is one or is absent.
inductive HasSection (table : Fields Value) : Fields Value → Prop where
  | noTools (htools : table.find? "tool" = none) : HasSection table []
  | noSection {tools : Fields Value} (htools : table.find? "tool" = some (.object tools))
      (hsection : tools.find? "dataexpr" = none) : HasSection table []
  | given {tools fields : Fields Value} (htools : table.find? "tool" = some (.object tools))
      (hsection : tools.find? "dataexpr" = some (.object fields)) : HasSection table fields

-- There are tools, but not in a table.
def HasStrayTools (table : Fields Value) : Prop :=
  ∃ value, table.find? "tool" = some value ∧ ∀ tools, value ≠ .object tools

variable {readBoolean : BooleanReader} {path : String} {table fields : Fields Value}
  {failure : SettingsFailure}

theorem HasSection.sectionOf_eq (h : HasSection table fields) :
    sectionOf table = .ok (.object fields) := by
  cases h with
  | noTools htools => simp [sectionOf, htools]
  | noSection htools hsection => simp [sectionOf, htools, hsection]
  | given htools hsection => simp [sectionOf, htools, hsection]

theorem HasStrayTools.sectionOf_eq (h : HasStrayTools table) :
    sectionOf table = .error (.fault .notATable) := by
  obtain ⟨value, htools, hvalue⟩ := h
  cases value with
  | object tools => exact absurd rfl (hvalue tools)
  | _ => simp [sectionOf, htools]

-- Otherwise the section stands where it should but is no table.
theorem sectionOf_cases (table : Fields Value) :
    (∃ fields, HasSection table fields) ∨ HasStrayTools table ∨
      sectionOf table = .error .sectionNotTable := by
  cases htools : table.find? "tool" with
  | none => exact .inl ⟨_, .noTools htools⟩
  | some value =>
    cases value with
    | object tools =>
      cases hsection : Fields.find? "dataexpr" tools with
      | none => exact .inl ⟨_, .noSection htools hsection⟩
      | some value =>
        cases value with
        | object fields => exact .inl ⟨_, .given htools hsection⟩
        | _ => exact .inr (.inr (by simp [sectionOf, htools, hsection]))
    | _ => exact .inr (.inl ⟨_, htools, by simp⟩)

theorem HasSection.ofTable_eq (h : HasSection table fields) :
    ofTable path table readBoolean = (ofSection (.object fields) readBoolean).mapError fun errors =>
      .invalidSection path errors := by
  rw [ofTable, h.sectionOf_eq]
  rfl

theorem ofTable_of_error (h : sectionOf table = .error failure) :
    ofTable path table readBoolean = .error failure := by
  rw [ofTable, h]
  rfl

theorem ofTable_eq_ok_iff {settings : Settings} :
    ofTable path table readBoolean = .ok settings ↔
      ∃ fields, HasSection table fields ∧ Describes readBoolean fields settings := by
  constructor
  · intro h
    rcases sectionOf_cases table with ⟨fields, hfields⟩ | hstray | hnot
    · rw [hfields.ofTable_eq, mapError_eq_ok_iff, ofSection_eq_ok_iff] at h
      exact ⟨fields, hfields, h⟩
    · simp [ofTable_of_error hstray.sectionOf_eq] at h
    · simp [ofTable_of_error hnot] at h
  · rintro ⟨fields, hfields, hdescribes⟩
    rwa [hfields.ofTable_eq, mapError_eq_ok_iff, ofSection_eq_ok_iff]

-- Nothing but such tools makes a document fail in a way that is not foreseen.
theorem isForeseen_iff_of_ofTable (h : ofTable path table readBoolean = .error failure) :
    failure.IsForeseen ↔ ¬HasStrayTools table := by
  by_cases hstray : HasStrayTools table
  · rw [ofTable_of_error hstray.sectionOf_eq] at h
    cases h
    exact iff_of_false id (not_not_intro hstray)
  · refine iff_of_true ?_ hstray
    rcases sectionOf_cases table with ⟨fields, hfields⟩ | hstray' | hnot
    · rw [hfields.ofTable_eq] at h
      obtain ⟨errors, -, rfl⟩ := mapError_eq_error_iff.mp h
      exact trivial
    · exact absurd hstray' hstray
    · rw [ofTable_of_error hnot] at h
      cases h
      exact trivial

end Settings

end JsonExpr
