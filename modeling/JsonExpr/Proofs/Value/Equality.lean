import JsonExpr.Proofs.Value.Part
import JsonExpr.Value.Equality

-- Structural equality of data as a relation: it is an equivalence on data without the value that is
-- no number, and it looks at nothing but what stands where.
namespace JsonExpr

namespace Number

theorem place_eq_nowhere_iff {n : Number} :
    n.place = .nowhere ↔ ∃ x, n = .float x ∧ Parts.ofFloat x = .notANumber := by
  cases n with
  | int n => exact iff_of_false nofun nofun
  | float x =>
    simp only [place, float.injEq, exists_eq_left']
    cases Parts.ofFloat x with
    | notANumber => simp [Place.ofParts]
    | infinite negative => cases negative <;> simp [Place.ofParts]
    | finite => simp [Place.ofParts]

-- Equal numbers stand at the same place, and somewhere.
theorem eq_iff {a b : Number} : a.eq b = true ↔ a.place = b.place ∧ a.place ≠ .nowhere := by
  rw [eq_eq_place_eq]
  cases a.place <;> cases b.place <;> simp [Place.eq]

end Number

namespace Value

-- The six kinds of data.
inductive Kind where
  | null
  | bool
  | number
  | string
  | array
  | object
deriving Repr, DecidableEq

def kind : Value → Kind
  | null => .null
  | bool _ => .bool
  | number _ => .number
  | string _ => .string
  | array _ => .array
  | object _ => .object

-- The value that is no number does not occur in the data.
def NanFree (value : Value) : Prop := ∀ x, value.Part (float x) → Parts.ofFloat x ≠ .notANumber

-- Parts of two values that stand at the same place: at the same positions of lists and under the
-- same keys of objects.
inductive AtSamePlace : Value → Value → Value → Value → Prop where
  | here (a b : Value) : AtSamePlace a b a b
  | item {xs ys : List Value} {position : Nat} {x y a b : Value} (hx : xs[position]? = some x)
      (hy : ys[position]? = some y) (h : AtSamePlace x y a b) :
      AtSamePlace (array xs) (array ys) a b
  | field {xs ys : Fields Value} {key : String} {x y a b : Value} (hx : (key, x) ∈ xs)
      (hy : (key, y) ∈ ys) (h : AtSamePlace x y a b) : AtSamePlace (object xs) (object ys) a b

variable {a b c : Value} {xs ys zs : List Value}

theorem equal_number_iff {m n : Number} :
    (number m).equal (number n) = true ↔ m.place = n.place ∧ m.place ≠ .nowhere := by
  rw [equal, Number.eq_iff]

-- If no key is repeated, the values of a key are the ones that are found.
theorem equal_object_iff_find? {fields others : Fields Value} (hfields : fields.keys.Nodup)
    (hothers : others.keys.Nodup) : (object fields).equal (object others) = true ↔
      (∀ key, key ∈ fields.keys ↔ key ∈ others.keys) ∧
      ∀ key x y, fields.find? key = some x → others.find? key = some y → x.equal y = true := by
  simp only [equal_object_iff, Fields.find?_eq_some_iff hfields, Fields.find?_eq_some_iff hothers]

theorem equal_object_perm {fields fields' others others' : Fields Value}
    (hfields : fields.Perm fields') (hothers : others.Perm others') :
    (object fields).equal (object others) = (object fields').equal (object others') := by
  have hkeys (key : String) : key ∈ fields.keys ↔ key ∈ fields'.keys :=
    (hfields.map Prod.fst).mem_iff
  have hkeys' (key : String) : key ∈ others.keys ↔ key ∈ others'.keys :=
    (hothers.map Prod.fst).mem_iff
  rw [Bool.eq_iff_iff, equal_object_iff, equal_object_iff]
  simp only [hkeys, hkeys', hfields.mem_iff, hothers.mem_iff]

theorem kind_eq_of_equal (h : a.equal b = true) : a.kind = b.kind := by
  revert h
  cases a <;> cases b <;> simp [equal, kind]

theorem exists_number_of_equal {m : Number} (h : (number m).equal b = true) :
    ∃ n, b = number n := by
  cases b with
  | number n => exact ⟨n, rfl⟩
  | _ => simp [equal] at h

theorem exists_array_of_equal (h : (array xs).equal b = true) : ∃ ys, b = array ys := by
  cases b with
  | array ys => exact ⟨ys, rfl⟩
  | _ => simp [equal] at h

theorem exists_object_of_equal {fields : Fields Value} (h : (object fields).equal b = true) :
    ∃ others, b = object others := by
  cases b with
  | object others => exact ⟨others, rfl⟩
  | _ => simp [equal] at h

theorem equal_symm (h : a.equal b = true) : b.equal a = true := by
  induction a using induct generalizing b with
  | null | bool | string => cases b <;> simp_all [equal]
  | number m =>
    obtain ⟨n, rfl⟩ := exists_number_of_equal h
    obtain ⟨hplace, hm⟩ := equal_number_iff.mp h
    exact equal_number_iff.mpr ⟨hplace.symm, hplace ▸ hm⟩
  | array xs ih =>
    obtain ⟨ys, rfl⟩ := exists_array_of_equal h
    obtain ⟨hlength, hitems⟩ := equal_array_iff.mp h
    refine equal_array_iff.mpr ⟨hlength.symm, fun position y x hy hx => ?_⟩
    exact ih x (List.mem_of_getElem? hx) (hitems position x y hx hy)
  | object fields ih =>
    obtain ⟨others, rfl⟩ := exists_object_of_equal h
    obtain ⟨hkeys, hvalues⟩ := equal_object_iff.mp h
    refine equal_object_iff.mpr ⟨fun key => (hkeys key).symm, fun key y x hy hx => ?_⟩
    exact ih (key, x) hx (hvalues key x y hx hy)

theorem equal_comm (a b : Value) : a.equal b = b.equal a :=
  Bool.eq_iff_iff.mpr ⟨equal_symm, equal_symm⟩

theorem equal_trans (hab : a.equal b = true) (hbc : b.equal c = true) : a.equal c = true := by
  induction a using induct generalizing b c with
  | null | bool | string => cases b <;> cases c <;> simp_all [equal]
  | number l =>
    obtain ⟨m, rfl⟩ := exists_number_of_equal hab
    obtain ⟨n, rfl⟩ := exists_number_of_equal hbc
    obtain ⟨hlm, hl⟩ := equal_number_iff.mp hab
    exact equal_number_iff.mpr ⟨hlm.trans (equal_number_iff.mp hbc).1, hl⟩
  | array xs ih =>
    obtain ⟨ys, rfl⟩ := exists_array_of_equal hab
    obtain ⟨zs, rfl⟩ := exists_array_of_equal hbc
    obtain ⟨hxy, hab⟩ := equal_array_iff.mp hab
    obtain ⟨hyz, hbc⟩ := equal_array_iff.mp hbc
    refine equal_array_iff.mpr ⟨hxy.trans hyz, fun position x z hx hz => ?_⟩
    -- the lists are as long as each other, so that the middle one has an item there as well
    obtain ⟨hlt, -⟩ := List.getElem?_eq_some_iff.mp hx
    have hy := List.getElem?_eq_getElem (hxy ▸ hlt)
    exact ih x (List.mem_of_getElem? hx) (hab position x _ hx hy) (hbc position _ z hy hz)
  | object fields ih =>
    obtain ⟨others, rfl⟩ := exists_object_of_equal hab
    obtain ⟨more, rfl⟩ := exists_object_of_equal hbc
    obtain ⟨hkeys, hab⟩ := equal_object_iff.mp hab
    obtain ⟨hkeys', hbc⟩ := equal_object_iff.mp hbc
    refine equal_object_iff.mpr ⟨fun key => (hkeys key).trans (hkeys' key), ?_⟩
    intro key x z hx hz
    obtain ⟨⟨_, y⟩, hy, rfl⟩ := List.mem_map.mp ((hkeys key).mp (List.mem_map_of_mem hx))
    exact ih (_, x) hx (hab _ x y hx hy) (hbc _ y z hy hz)

theorem AtSamePlace.equal {x y : Value} (hplace : AtSamePlace a b x y) (h : a.equal b = true) :
    x.equal y = true := by
  induction hplace with
  | here => exact h
  | item hx hy _ ih => exact ih ((equal_array_iff.mp h).2 _ _ _ hx hy)
  | field hx hy _ ih => exact ih ((equal_object_iff.mp h).2 _ _ _ hx hy)

theorem Part.atSamePlace {part : Value} (h : a.Part part) : AtSamePlace a a part part := by
  induction h with
  | refl value => exact .here value value
  | item hmem _ ih =>
    obtain ⟨position, hposition⟩ := List.getElem?_of_mem hmem
    exact .item hposition hposition ih
  | field hmem _ ih => exact .field hmem hmem ih

-- Data equals itself if each of its numbers does, and then only.
theorem equal_self_iff (hformed : a.WellFormed) : a.equal a = true ↔ a.NanFree := by
  constructor
  · intro h x hpart hnan
    have hself := (equal_number_iff.mp (hpart.atSamePlace.equal h)).2
    exact hself (Number.place_eq_nowhere_iff.mpr ⟨x, rfl, hnan⟩)
  · intro hnan
    induction a using induct with
    | null | bool | string => simp [equal]
    | number n =>
      refine equal_number_iff.mpr ⟨rfl, fun hnowhere => ?_⟩
      obtain ⟨x, rfl, hx⟩ := Number.place_eq_nowhere_iff.mp hnowhere
      exact hnan x (.refl _) hx
    | array xs ih =>
      refine equal_array_iff.mpr ⟨rfl, fun position x y hx hy => ?_⟩
      obtain rfl := Option.some.inj (hx.symm.trans hy)
      have hmem := List.mem_of_getElem? hx
      exact ih x hmem ((wellFormedItems_iff xs).mp hformed x hmem) fun n hpart =>
        hnan n (.item hmem hpart)
    | object fields ih =>
      obtain ⟨hnodup, hvalues⟩ := hformed
      refine equal_object_iff.mpr ⟨fun _ => Iff.rfl, fun key x y hx hy => ?_⟩
      obtain rfl : x = y := by
        have hfind := (Fields.find?_eq_some_iff hnodup).mpr hx
        exact Option.some.inj (hfind.symm.trans ((Fields.find?_eq_some_iff hnodup).mpr hy))
      exact ih (key, x) hx ((wellFormedFields_iff fields).mp hvalues (key, x) hx) fun n hpart =>
        hnan n (.field hx hpart)

-- What makes a comparison of data a structural equality.
structure Structural (same : Value → Value → Bool) : Prop where
  symm : ∀ a b, same a b = same b a
  trans : ∀ a b c, same a b = true → same b c = true → same a c = true
  refl : ∀ a, a.WellFormed → (same a a = true ↔ a.NanFree)
  -- data of different kinds is never the same, be it the whole or what stands at the same place
  kinds : ∀ a b x y, AtSamePlace a b x y → x.kind ≠ y.kind → same a b = false
  bools : ∀ p q, same (bool p) (bool q) = true ↔ p = q
  numbers : ∀ m n, same (number m) (number n) = true ↔ m.place = n.place ∧ m.place ≠ .nowhere
  strings : ∀ s t, same (string s) (string t) = true ↔ s = t
  arrays : ∀ xs ys, same (array xs) (array ys) = true ↔ xs.length = ys.length ∧
    ∀ (position : Nat) (x y : Value), xs[position]? = some x → ys[position]? = some y →
      same x y = true
  objects : ∀ xs ys : Fields Value, xs.keys.Nodup → ys.keys.Nodup →
    (same (object xs) (object ys) = true ↔ (∀ key, key ∈ xs.keys ↔ key ∈ ys.keys) ∧
      ∀ key x y, xs.find? key = some x → ys.find? key = some y → same x y = true)
  keyOrder : ∀ xs xs' ys ys' : Fields Value, xs.Perm xs' → ys.Perm ys' →
    same (object xs) (object ys) = same (object xs') (object ys')

theorem equal_structural : Structural equal where
  symm := equal_comm
  trans _ _ _ := equal_trans
  refl _ := equal_self_iff
  kinds _ _ _ _ hplace h :=
    Bool.eq_false_iff.mpr fun hequal => h (kind_eq_of_equal (hplace.equal hequal))
  bools _ _ := beq_iff_eq
  numbers _ _ := equal_number_iff
  strings _ _ := beq_iff_eq
  arrays _ _ := equal_array_iff
  objects _ _ := equal_object_iff_find?
  keyOrder _ _ _ _ := equal_object_perm

end Value

end JsonExpr
