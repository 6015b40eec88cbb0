import JsonExpr.Value.Basic

-- Structural equality of data. Numbers are equal when their exact values are, a boolean is never a
-- number, and the order of an object's keys does not matter.
namespace JsonExpr

namespace Value

mutual

def equal : Value → Value → Bool
  | null, null => true
  | bool a, bool b => a == b
  | number a, number b => a.eq b
  | string a, string b => a == b
  | array xs, array ys => equalItems xs ys
  | object xs, object ys =>
    (xs.all fun x => ys.any fun y => y.1 == x.1) &&
      (ys.all fun y => xs.any fun x => x.1 == y.1) && equalFields xs ys
  | _, _ => false

def equalItems : List Value → List Value → Bool
  | [], [] => true
  | x :: xs, y :: ys => x.equal y && equalItems xs ys
  | _, _ => false

-- Fields of one name have equal values.
def equalFields : List (String × Value) → List (String × Value) → Bool
  | [], _ => true
  | (name, x) :: xs, ys => (ys.all fun y => y.1 != name || x.equal y.2) && equalFields xs ys

end

variable {xs ys : List Value}

theorem equalItems_iff : equalItems xs ys = true ↔ xs.length = ys.length ∧
    ∀ (position : Nat) (x y : Value), xs[position]? = some x → ys[position]? = some y →
      x.equal y = true := by
  induction xs generalizing ys with
  | nil => cases ys <;> simp [equalItems]
  | cons x xs ih =>
    cases ys with
    | nil => simp [equalItems]
    | cons y ys =>
      simp only [equalItems, Bool.and_eq_true, ih, List.length_cons, Nat.add_right_cancel_iff]
      constructor
      · rintro ⟨hhead, hlength, hrest⟩
        refine ⟨hlength, fun position u v hu hv => ?_⟩
        cases position with
        | zero =>
          cases hu
          cases hv
          exact hhead
        | succ position => exact hrest position u v hu hv
      · rintro ⟨hlength, h⟩
        exact ⟨h 0 x y rfl rfl, hlength, fun position u v => h (position + 1) u v⟩

theorem equalFields_iff {fields others : Fields Value} : equalFields fields others = true ↔
    ∀ key x y, (key, x) ∈ fields → (key, y) ∈ others → x.equal y = true := by
  induction fields with
  | nil => simp [equalFields]
  | cons entry rest ih =>
    obtain ⟨name, first⟩ := entry
    simp only [equalFields, Bool.and_eq_true, ih, List.all_eq_true, Bool.or_eq_true, bne_iff_ne,
      List.mem_cons, Prod.mk.injEq]
    constructor
    · rintro ⟨hfirst, hrest⟩ key x y (⟨rfl, rfl⟩ | hx) hy
      · exact (hfirst (key, y) hy).resolve_left (by simp)
      · exact hrest key x y hx hy
    · intro h
      refine ⟨fun entry hentry => ?_, fun key x y hx => h key x y (.inr hx)⟩
      by_cases hname : entry.1 = name
      · exact .inr (h name first entry.2 (.inl ⟨rfl, rfl⟩) (hname ▸ hentry))
      · exact .inl hname

theorem equal_array_iff : (array xs).equal (array ys) = true ↔ xs.length = ys.length ∧
    ∀ (position : Nat) (x y : Value), xs[position]? = some x → ys[position]? = some y →
      x.equal y = true := by
  rw [equal, equalItems_iff]

-- Whether a key is repeated does not matter here: all values of a key have to be equal then.
theorem equal_object_iff {fields others : Fields Value} :
    (object fields).equal (object others) = true ↔
      (∀ key, key ∈ fields.keys ↔ key ∈ others.keys) ∧
      ∀ key x y, (key, x) ∈ fields → (key, y) ∈ others → x.equal y = true := by
  have hkeys (fields others : Fields Value) :
      (fields.all fun x => others.any fun y => y.1 == x.1) = true ↔
        ∀ key ∈ fields.keys, key ∈ others.keys := by
    simp only [List.all_eq_true, List.any_eq_true, beq_iff_eq, Fields.keys, List.mem_map]
    constructor
    · rintro h _ ⟨entry, hentry, rfl⟩
      exact h entry hentry
    · exact fun h entry hentry => h entry.1 ⟨entry, hentry, rfl⟩
  rw [equal, Bool.and_eq_true, Bool.and_eq_true, hkeys, hkeys, equalFields_iff]
  refine and_congr_left fun _ => ?_
  exact ⟨fun h key => ⟨h.1 key, h.2 key⟩, fun h => ⟨fun key => (h key).mp, fun key => (h key).mpr⟩⟩

-- Whether some item is structurally equal to the value.
def containsEqual (items : List Value) (value : Value) : Bool :=
  items.any fun item => item.equal value

mutual

-- The data with every boolean read as the number 0 or 1.
def countBooleans : Value → Value
  | bool b => int b.toNat
  | array items => array (countItems items)
  | object fields => object (countFields fields)
  | value => value

def countItems : List Value → List Value
  | [] => []
  | item :: rest => item.countBooleans :: countItems rest

def countFields : List (String × Value) → List (String × Value)
  | [] => []
  | (name, value) :: rest => (name, value.countBooleans) :: countFields rest

end

-- Equality of sort keys and bounds, in which a boolean is a number.
def equalCounting (a b : Value) : Bool := a.countBooleans.equal b.countBooleans

end Value

end JsonExpr
