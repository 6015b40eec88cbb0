import JsonExpr.Number.Basic
import JsonExpr.Value.Fields

-- JSON data. The fields of an object keep their order; well-formed data never repeats a key.
namespace JsonExpr

inductive Value where
  | null
  | bool (value : Bool)
  | number (value : Number)
  | string (value : String)
  | array (items : List Value)
  | object (fields : List (String × Value))

namespace Value

instance : Inhabited Value := ⟨null⟩

abbrev int (n : Int) : Value := number (.int n)

abbrev float (x : Float) : Value := number (.float x)

-- Induction over data reaches the items of an array and the values of an object.
@[elab_as_elim]
theorem induct {motive : Value → Prop} (null : motive null) (bool : ∀ b, motive (bool b))
    (number : ∀ n, motive (number n)) (string : ∀ s, motive (string s))
    (array : ∀ items, (∀ item ∈ items, motive item) → motive (array items))
    (object : ∀ fields, (∀ field ∈ fields, motive field.2) → motive (object fields))
    (value : Value) : motive value :=
  Value.rec (motive_1 := motive) (motive_2 := fun items => ∀ item ∈ items, motive item)
    (motive_3 := fun fields => ∀ field ∈ fields, motive field.2)
    (motive_4 := fun field => motive field.2)
    null bool number string array object
    (by simp)
    (fun _ _ hhead htail => List.forall_mem_cons.mpr ⟨hhead, htail⟩)
    (by simp)
    (fun _ _ hhead htail => List.forall_mem_cons.mpr ⟨hhead, htail⟩)
    (fun _ _ h => h)
    value

def isNull : Value → Bool
  | null => true
  | _ => false

theorem isNull_iff {value : Value} : value.isNull = true ↔ value = null := by
  cases value <;> simp [isNull]

theorem not_isNull_iff {value : Value} : (!value.isNull) = true ↔ value ≠ null := by
  rw [Bool.not_eq_true', ← Bool.not_eq_true, isNull_iff]

def isArray : Value → Bool
  | array _ => true
  | _ => false

-- Null, false, zero, and everything empty count as false.
def isTruthy : Value → Bool
  | null => false
  | bool b => b
  | number n => n.isTruthy
  | string s => !s.isEmpty
  | array items => !items.isEmpty
  | object fields => !fields.isEmpty

mutual

-- How many containers lie on the deepest way down to a scalar or an empty container.
def depth : Value → Nat
  | array items => depthOfItems items + 1
  | object fields => depthOfFields fields + 1
  | _ => 0

def depthOfItems : List Value → Nat
  | [] => 0
  | item :: rest => max item.depth (depthOfItems rest)

def depthOfFields : List (String × Value) → Nat
  | [] => 0
  | (_, value) :: rest => max value.depth (depthOfFields rest)

end

mutual

-- No object of the data repeats a key.
def WellFormed : Value → Prop
  | array items => WellFormedItems items
  | object fields => (fields.map Prod.fst).Nodup ∧ WellFormedFields fields
  | _ => True

def WellFormedItems : List Value → Prop
  | [] => True
  | item :: rest => item.WellFormed ∧ WellFormedItems rest

def WellFormedFields : List (String × Value) → Prop
  | [] => True
  | (_, value) :: rest => value.WellFormed ∧ WellFormedFields rest

end

theorem wellFormedItems_iff (items : List Value) :
    WellFormedItems items ↔ ∀ item ∈ items, item.WellFormed := by
  induction items with
  | nil => simp [WellFormedItems]
  | cons item rest ih => simp [WellFormedItems, ih]

theorem wellFormedFields_iff (fields : List (String × Value)) :
    WellFormedFields fields ↔ ∀ field ∈ fields, field.2.WellFormed := by
  induction fields with
  | nil => simp [WellFormedFields]
  | cons field rest ih => simp [WellFormedFields, ih]

theorem depth_le_depthOfItems {item : Value} {items : List Value} (h : item ∈ items) :
    item.depth ≤ depthOfItems items := by
  induction items with
  | nil => simp at h
  | cons head rest ih =>
    rcases List.mem_cons.mp h with rfl | h
    · exact Nat.le_max_left _ _
    · exact Nat.le_trans (ih h) (Nat.le_max_right _ _)

theorem depthOfItems_append (items more : List Value) :
    depthOfItems (items ++ more) = max (depthOfItems items) (depthOfItems more) := by
  induction items with
  | nil => simp [depthOfItems]
  | cons item rest ih => simp [depthOfItems, ih, Nat.max_assoc]

theorem depthOfItems_reverse (items : List Value) :
    depthOfItems items.reverse = depthOfItems items := by
  induction items with
  | nil => rfl
  | cons item rest ih => simp [depthOfItems_append, depthOfItems, ih, Nat.max_comm]

theorem depth_le_depthOfFields {field : String × Value} {fields : List (String × Value)}
    (h : field ∈ fields) : field.2.depth ≤ depthOfFields fields := by
  induction fields with
  | nil => simp at h
  | cons head rest ih =>
    rcases List.mem_cons.mp h with rfl | h
    · exact Nat.le_max_left _ _
    · exact Nat.le_trans (ih h) (Nat.le_max_right _ _)

end Value

end JsonExpr
