-- Named entries in the order in which their names first appeared. A later entry of a name replaces
-- the value and keeps the place.
namespace JsonExpr

abbrev Fields (α : Type) := List (String × α)

namespace Fields

variable {α β : Type}

def keys (fields : Fields α) : List String := fields.map Prod.fst

def values (fields : Fields α) : List α := fields.map Prod.snd

def find? (key : String) : Fields α → Option α
  | [] => none
  | (name, value) :: rest => if name = key then some value else find? key rest

def contains (key : String) (fields : Fields α) : Bool := (fields.find? key).isSome

def insert (key : String) (value : α) : Fields α → Fields α
  | [] => [(key, value)]
  | (name, old) :: rest =>
    if name = key then (name, value) :: rest else (name, old) :: insert key value rest

def erase (key : String) (fields : Fields α) : Fields α :=
  fields.filter fun entry => entry.1 ≠ key

-- Every entry of the second collection put into the first, from left to right.
def merge (fields entries : Fields α) : Fields α :=
  entries.foldl (fun acc entry => insert entry.1 entry.2 acc) fields

-- The collection that a list of pairs denotes when names may repeat.
def ofPairs (entries : List (String × α)) : Fields α := merge [] entries

@[simp] theorem find?_nil (key : String) : find? key ([] : Fields α) = none := rfl

@[simp] theorem keys_nil : keys ([] : Fields α) = [] := rfl

@[simp] theorem keys_cons (entry : String × α) (rest : Fields α) :
    keys (entry :: rest) = entry.1 :: keys rest := rfl

-- An inserted name is found with its value; every other name is found as before.
theorem find?_insert (key other : String) (value : α) (fields : Fields α) :
    (insert key value fields).find? other =
      if key = other then some value else fields.find? other := by
  induction fields with
  | nil => simp [insert, find?]
  | cons entry rest ih =>
    obtain ⟨name, old⟩ := entry
    by_cases hn : name = key
    · subst hn
      by_cases ho : name = other <;> simp [insert, find?, ho]
    · by_cases ho : name = other
      · subst ho
        simp [insert, find?, hn, Ne.symm hn]
      · simp [insert, find?, hn, ho, ih]

-- A name is found exactly if it is one of the keys.
theorem find?_isSome_iff (key : String) (fields : Fields α) :
    (fields.find? key).isSome ↔ key ∈ fields.keys := by
  induction fields with
  | nil => simp [find?]
  | cons entry rest ih =>
    obtain ⟨name, value⟩ := entry
    by_cases h : name = key
    · simp [find?, h]
    · simp [find?, h, ih, Ne.symm h]

theorem find?_map (f : String → α → β) (key : String) (fields : Fields α) :
    find? key (fields.map fun entry => (entry.1, f entry.1 entry.2)) =
      (find? key fields).map (f key) := by
  induction fields with
  | nil => rfl
  | cons entry rest ih =>
    obtain ⟨name, value⟩ := entry
    by_cases h : name = key
    · subst h
      simp [find?]
    · simp [find?, h, ih]

theorem mem_of_find? {key : String} {value : α} {fields : Fields α}
    (h : fields.find? key = some value) : (key, value) ∈ fields := by
  induction fields with
  | nil => simp at h
  | cons entry rest ih =>
    obtain ⟨name, first⟩ := entry
    by_cases hn : name = key
    · subst hn
      have hv : first = value := by simpa [find?] using h
      simp [hv]
    · exact List.mem_cons_of_mem _ (ih (by simpa [find?, hn] using h))

-- If no key is repeated, an entry is found exactly if it is there.
theorem find?_eq_some_iff {key : String} {value : α} {fields : Fields α} (h : fields.keys.Nodup) :
    fields.find? key = some value ↔ (key, value) ∈ fields := by
  refine ⟨mem_of_find?, fun hmem => ?_⟩
  induction fields with
  | nil => cases hmem
  | cons entry rest ih =>
    obtain ⟨hname, hrest⟩ := List.nodup_cons.mp h
    rcases List.mem_cons.mp hmem with rfl | hmem
    · simp [find?]
    · have hkey : entry.1 ≠ key := fun heq => hname (heq ▸ List.mem_map_of_mem hmem)
      simp [find?, hkey, ih hrest hmem]

theorem find?_eq_none_iff {key : String} {fields : Fields α} :
    fields.find? key = none ↔ key ∉ fields.keys := by
  rw [← find?_isSome_iff, Bool.not_eq_true, Option.isSome_eq_false_iff, Option.isNone_iff_eq_none]

theorem find?_append (key : String) (fields more : Fields α) :
    find? key (fields ++ more) = (fields.find? key).or (more.find? key) := by
  induction fields with
  | nil => rfl
  | cons entry rest ih =>
    obtain ⟨name, value⟩ := entry
    by_cases hn : name = key
    · simp [find?, hn]
    · simpa [find?, hn] using ih

-- If no key is repeated, the order of the entries does not matter for what is found.
theorem find?_reverse {key : String} {fields : Fields α} (h : fields.keys.Nodup) :
    find? key fields.reverse = fields.find? key := by
  induction fields with
  | nil => rfl
  | cons entry rest ih =>
    obtain ⟨name, value⟩ := entry
    obtain ⟨hname, hrest⟩ := List.nodup_cons.mp h
    rw [List.reverse_cons, find?_append, ih hrest]
    by_cases hn : name = key
    · subst hn
      simp [find?, find?_eq_none_iff.mpr hname]
    · simp [find?, hn]

-- Entries left out by their keys.
theorem find?_filter (p : String → Bool) (key : String) (fields : Fields α) :
    find? key (fields.filter fun entry => p entry.1) = if p key then fields.find? key else none := by
  induction fields with
  | nil => simp
  | cons entry rest ih =>
    obtain ⟨name, value⟩ := entry
    by_cases hn : name = key
    · subst hn
      by_cases hp : p name <;> simp [find?, hp, ih]
    · by_cases hp : p name <;> simp [find?, hn, hp, ih]

theorem keys_filter (p : String → Bool) (fields : Fields α) :
    keys (fields.filter fun entry => p entry.1) = fields.keys.filter p := by
  induction fields with
  | nil => rfl
  | cons entry rest ih => by_cases hp : p entry.1 <;> simp [hp, ih]

theorem foldl_erase (names : List String) (fields : Fields α) :
    names.foldl (fun fields name => erase name fields) fields =
      fields.filter fun entry => entry.1 ∉ names := by
  induction names generalizing fields with
  | nil => exact (List.filter_eq_self.mpr (by simp)).symm
  | cons name rest ih =>
    rw [List.foldl_cons, ih, erase, List.filter_filter]
    congr
    funext entry
    by_cases hn : entry.1 = name <;> simp [hn]

theorem mem_insert {key : String} {value : α} {entry : String × α} {fields : Fields α}
    (h : entry ∈ insert key value fields) : entry = (key, value) ∨ entry ∈ fields := by
  induction fields with
  | nil => exact .inl (List.mem_singleton.mp h)
  | cons first rest ih =>
    obtain ⟨name, old⟩ := first
    by_cases hn : name = key
    · subst hn
      rcases List.mem_cons.mp (by simpa [insert] using h) with rfl | h
      · exact .inl rfl
      · exact .inr (List.mem_cons_of_mem _ h)
    · rcases List.mem_cons.mp (by simpa [insert, hn] using h) with rfl | h
      · exact .inr List.mem_cons_self
      · exact (ih h).imp_right (List.mem_cons_of_mem _)

theorem mem_merge {entry : String × α} {fields entries : Fields α}
    (h : entry ∈ merge fields entries) : entry ∈ fields ∨ entry ∈ entries := by
  induction entries generalizing fields with
  | nil => exact .inl h
  | cons first rest ih =>
    rcases ih h with h | h
    · rcases mem_insert h with rfl | h
      · exact .inr List.mem_cons_self
      · exact .inl h
    · exact .inr (List.mem_cons_of_mem _ h)

-- Inserting keeps the places of the old names and puts a new one last.
theorem keys_insert (key : String) (value : α) (fields : Fields α) :
    (insert key value fields).keys =
      if key ∈ fields.keys then fields.keys else fields.keys ++ [key] := by
  induction fields with
  | nil => simp [insert]
  | cons entry rest ih =>
    obtain ⟨name, old⟩ := entry
    by_cases hn : name = key
    · simp [insert, hn]
    · by_cases hk : key ∈ keys rest <;> simp [insert, hn, Ne.symm hn, ih, hk]

-- A new name comes last, and the value of an old one is replaced where it stands.
theorem insert_cases (key : String) (value : α) (fields : Fields α) :
    (key ∉ fields.keys ∧ insert key value fields = fields ++ [(key, value)]) ∨
      ∃ before old after, fields = before ++ (key, old) :: after ∧
        fields.find? key = some old ∧ insert key value fields = before ++ (key, value) :: after := by
  induction fields with
  | nil => exact .inl ⟨by simp, rfl⟩
  | cons entry rest ih =>
    obtain ⟨name, first⟩ := entry
    by_cases hn : name = key
    · subst hn
      exact .inr ⟨[], first, rest, rfl, by simp [find?], by simp [insert]⟩
    · rcases ih with ⟨hkey, heq⟩ | ⟨before, old, after, rfl, hfind, heq⟩
      · exact .inl ⟨by simp [Ne.symm hn, hkey], by simp [insert, hn, heq]⟩
      · exact .inr ⟨(name, first) :: before, old, after, rfl, by simp [find?, hn, hfind],
          by simp [insert, hn, heq]⟩

theorem insert_map (f : α → β) (key : String) (value : α) (fields : Fields α) :
    insert key (f value) (fields.map fun entry => (entry.1, f entry.2)) =
      (insert key value fields).map fun entry => (entry.1, f entry.2) := by
  induction fields with
  | nil => rfl
  | cons entry rest ih =>
    obtain ⟨name, old⟩ := entry
    by_cases hn : name = key <;> simp [insert, hn, ih]

end Fields

end JsonExpr
