import JsonExpr.Value.Path

-- Reading along a path without wildcards: it follows the segments one by one, and finds null where
-- they do not lead any further.
namespace JsonExpr

namespace Value

-- What lies one segment below a value: the field of this name, or the item at this position.
inductive HasChild : Value → String → Value → Prop where
  | field {fields : Fields Value} {key : String} {child : Value}
    (h : fields.find? key = some child) : HasChild (object fields) key child
  | item {items : List Value} {segment : String} {position : Nat} {child : Value}
    (hposition : integer? segment.toList = some (position : Int))
    (h : items[position]? = some child) : HasChild (array items) segment child

-- What is stored at the end of a path.
inductive HoldsAt : Value → Path → Value → Prop where
  | here (value : Value) : HoldsAt value [] value
  | child {value child stored : Value} {segment : String} {rest : Path}
    (hchild : HasChild value segment child) (h : HoldsAt child rest stored) :
    HoldsAt value (segment :: rest) stored

variable {value child stored : Value} {segment : String} {path rest : Path}

theorem indexIn?_eq_some_iff {length position : Nat} {text : String} :
    indexIn? length text = some position ↔
      integer? text.toList = some (position : Int) ∧ position < length := by
  unfold indexIn?
  split
  · next n hinteger =>
    rw [hinteger]
    constructor
    · intro h
      obtain ⟨hlt, rfl⟩ := Option.ite_none_right_eq_some.mp h |>.imp_right Option.some.inj
      exact ⟨rfl, hlt⟩
    · rintro ⟨heq, hlt⟩
      cases heq
      exact if_pos hlt
  · next hother => exact iff_of_false nofun fun h => hother position h.1

theorem child?_eq_some_iff : value.child? segment = some child ↔ HasChild value segment child := by
  constructor
  · intro h
    cases value with
    | object fields => exact .field h
    | array items =>
      obtain ⟨position, hindex, hitem⟩ := Option.bind_eq_some_iff.mp h
      exact .item (indexIn?_eq_some_iff.mp hindex).1 hitem
    | _ => cases h
  · intro h
    cases h with
    | field h => exact h
    | item hposition h =>
      obtain ⟨hlt, -⟩ := List.getElem?_eq_some_iff.mp h
      exact Option.bind_eq_some_iff.mpr ⟨_, indexIn?_eq_some_iff.mpr ⟨hposition, hlt⟩, h⟩

theorem hasPath_iff : value.hasPath path = true ↔ ∃ stored, value.HoldsAt path stored := by
  induction path generalizing value with
  | nil => exact iff_of_true rfl ⟨value, .here value⟩
  | cons segment rest ih =>
    rw [hasPath]
    split
    · next child hchild =>
      rw [ih]
      constructor
      · rintro ⟨stored, h⟩
        exact ⟨stored, .child (child?_eq_some_iff.mp hchild) h⟩
      · rintro ⟨stored, h⟩
        cases h with
        | child hbelow h =>
          obtain rfl := Option.some.inj (hchild.symm.trans (child?_eq_some_iff.mpr hbelow))
          exact ⟨stored, h⟩
    · next hnone =>
      refine iff_of_false nofun ?_
      rintro ⟨stored, h⟩
      cases h with
      | child hbelow => cases hnone.symm.trans (child?_eq_some_iff.mpr hbelow)

@[simp] theorem read_nil (value : Value) : value.read [] = value := by
  rw [read]

@[simp] theorem read_null (path : Path) : null.read path = null := by
  cases path <;> rw [read]

-- A segment without wildcard takes one step, and no step leads out of null.
theorem read_cons_of_ne (h : segment ≠ Path.wildcard) (value : Value) (rest : Path) :
    value.read (segment :: rest) = ((value.child? segment).getD null).read rest := by
  cases value with
  | null =>
    rw [read_null]
    exact (read_null rest).symm
  | _ => rw [read, if_neg h]; simp

theorem HoldsAt.read_eq (h : value.HoldsAt path stored) (hplain : Path.wildcard ∉ path) :
    value.read path = stored := by
  induction h with
  | here value => exact read_nil value
  | child hchild _ ih =>
    obtain ⟨hsegment, hrest⟩ := List.ne_and_not_mem_of_not_mem_cons hplain
    rw [read_cons_of_ne hsegment.symm, child?_eq_some_iff.mpr hchild, Option.getD_some,
      ih hrest]

theorem read_of_hasPath_eq_false (h : value.hasPath path = false)
    (hplain : Path.wildcard ∉ path) : value.read path = null := by
  induction path generalizing value with
  | nil => cases h
  | cons segment rest ih =>
    obtain ⟨hsegment, hrest⟩ := List.ne_and_not_mem_of_not_mem_cons hplain
    rw [read_cons_of_ne hsegment.symm]
    rw [hasPath] at h
    split at h
    · next child hchild => rw [hchild, Option.getD_some, ih h hrest]
    · next hnone => rw [hnone, Option.getD_none, read_null]

-- Existence and reading tell together what is stored at a path.
theorem holdsAt_iff (hplain : Path.wildcard ∉ path) :
    value.HoldsAt path stored ↔ value.hasPath path = true ∧ stored = value.read path := by
  constructor
  · intro h
    exact ⟨hasPath_iff.mpr ⟨stored, h⟩, (h.read_eq hplain).symm⟩
  · rintro ⟨hpath, rfl⟩
    obtain ⟨stored, h⟩ := hasPath_iff.mp hpath
    rwa [h.read_eq hplain]

-- Texts as segments of any kind are read as before.
theorem stepBy_string (segment : String) (value : Value) :
    stepBy (string segment) value = .ok ((value.child? segment).getD null) := by
  cases value <;> rfl

theorem readBy_texts (path : Path) (value : Value) :
    value.readBy (path.map string) = .ok (value.read path) := by
  induction path generalizing value with
  | nil => rfl
  | cons segment rest ih =>
    have hitems : (value.wildcardItems.mapM fun item => readBy (rest.map string) item) =
        .ok (value.wildcardItems.map fun item => item.read rest) := by
      simp only [ih]
      exact List.mapM_pure
    by_cases hnull : value = null
    · subst hnull
      rw [read_null]
      rfl
    · rw [List.map_cons, readBy, read, hitems, stepBy_string]
      · by_cases hsegment : segment = Path.wildcard
        · cases rest with
          | nil => simp [isWildcard, hsegment]
          | cons => simp [isWildcard, hsegment, List.flatMap_map, bind, Except.bind, pure, Except.pure]
        · simp [isWildcard, hsegment, bind, Except.bind, ih]
      · exact hnull
      · exact hnull

end Value

end JsonExpr
