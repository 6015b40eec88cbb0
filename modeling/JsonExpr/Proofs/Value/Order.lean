import JsonExpr.Proofs.Value.Equality
import JsonExpr.Value.Order
import Mathlib.Data.String.Basic

-- Which data is ordered: numbers, texts, and lists as far as they differ.
namespace JsonExpr

namespace Value

-- The position at which two lists have different items for the first time, and the items.
structure FirstDifference (xs ys : List Value) (position : Nat) (x y : Value) : Prop where
  left : xs[position]? = some x
  right : ys[position]? = some y
  different : x.equalCounting y = false
  before : ∀ (earlier : Nat) (u v : Value), earlier < position → xs[earlier]? = some u →
    ys[earlier]? = some v → u.equalCounting v = true

-- Data that is ordered: booleans and numbers, texts, and lists whose first different items are
-- ordered, so that lists are ordered if one of them only continues the other.
inductive Ordered : Value → Value → Prop where
  | numbers {a b : Value} {m n : Number} (ha : a.asNumber? = some m) (hb : b.asNumber? = some n) :
      Ordered a b
  | strings (s t : String) : Ordered (string s) (string t)
  | arrays {xs ys : List Value}
      (h : ∀ position x y, FirstDifference xs ys position x y → Ordered x y) :
      Ordered (array xs) (array ys)

-- Two numbers, booleans not among them, or two texts.
def Ranked (a b : Value) : Prop := a.kind = b.kind ∧ (a.kind = .number ∨ a.kind = .string)

-- What can be compared if booleans are refused: lists that are ordered beside what is ranked.
def Comparable (a b : Value) : Prop :=
  a.Ranked b ∨ a.kind = .array ∧ b.kind = .array ∧ a.Ordered b

variable {how : Comparison} {a b x y : Value} {xs ys : List Value} {position : Nat}

theorem equalCounting_comm (a b : Value) : a.equalCounting b = b.equalCounting a :=
  equal_comm a.countBooleans b.countBooleans

theorem FirstDifference.symm (h : FirstDifference xs ys position x y) :
    FirstDifference ys xs position y x where
  left := h.right
  right := h.left
  different := equalCounting_comm x y ▸ h.different
  before earlier v u hlt hv hu := equalCounting_comm u v ▸ h.before earlier u v hlt hu hv

theorem Ordered.symm (h : Ordered a b) : Ordered b a := by
  induction h with
  | numbers ha hb => exact .numbers hb ha
  | strings s t => exact .strings t s
  | arrays _ ih => exact .arrays fun position y x hdifference => ih position x y hdifference.symm

-- Behind equal items the first difference is the one of the rest.
theorem firstDifference_cons_iff {u v : Value} (h : u.equalCounting v = true) :
    FirstDifference (u :: xs) (v :: ys) position x y ↔
      ∃ earlier, position = earlier + 1 ∧ FirstDifference xs ys earlier x y := by
  constructor
  · rintro ⟨hx, hy, hdifferent, hbefore⟩
    cases position with
    | zero =>
      cases hx
      cases hy
      rw [h] at hdifferent
      cases hdifferent
    | succ position =>
      exact ⟨position, rfl, hx, hy, hdifferent, fun earlier u v hlt =>
        hbefore (earlier + 1) u v (Nat.succ_lt_succ hlt)⟩
  · rintro ⟨position, rfl, hx, hy, hdifferent, hbefore⟩
    refine ⟨hx, hy, hdifferent, fun earlier s t hlt hs ht => ?_⟩
    cases earlier with
    | zero =>
      cases hs
      cases ht
      exact h
    | succ earlier => exact hbefore earlier s t (Nat.lt_of_succ_lt_succ hlt) hs ht

theorem isSome_compareItems?_iff : (compareItems? how xs ys).isSome = true ↔
    ∀ position x y, FirstDifference xs ys position x y → (x.compare? how y).isSome = true := by
  induction xs generalizing ys with
  | nil => exact iff_of_true (by simp [compareItems?]) fun _ _ _ h => by simpa using h.left
  | cons u xs ih =>
    cases ys with
    | nil => exact iff_of_true (by simp [compareItems?]) fun _ _ _ h => by simpa using h.right
    | cons v ys =>
      rw [compareItems?]
      split
      · next hsame =>
        rw [ih]
        constructor
        · intro h position x y hdifference
          obtain ⟨earlier, -, hdifference⟩ := (firstDifference_cons_iff hsame).mp hdifference
          exact h earlier x y hdifference
        · exact fun h position x y hdifference => h (position + 1) x y
            ((firstDifference_cons_iff hsame).mpr ⟨position, rfl, hdifference⟩)
      · next hdifferent =>
        have hfirst : FirstDifference (u :: xs) (v :: ys) 0 u v :=
          ⟨rfl, rfl, Bool.eq_false_iff.mpr hdifferent, nofun⟩
        constructor
        · intro h position x y hdifference
          cases position with
          | zero =>
            cases hdifference.left
            cases hdifference.right
            exact h
          | succ position =>
            exact absurd (hdifference.before 0 u v (Nat.succ_pos _) rfl rfl) hdifferent
        · exact fun h => h 0 u v hfirst

theorem isSome_compare?_iff_of_ne_arrays (h : ∀ xs ys, a = array xs → b ≠ array ys) :
    (a.compare? how b).isSome = true ↔ a.Ordered b := by
  rw [compare?.eq_def]
  split
  · next s t => exact iff_of_true rfl (.strings s t)
  · next xs ys => exact absurd rfl (h xs ys rfl)
  · next hstrings _ =>
    constructor
    · intro hsome
      split at hsome
      · next ha hb => exact .numbers ha hb
      · cases hsome
    · intro hordered
      cases hordered with
      | numbers ha hb => rw [ha, hb, Option.isSome_some]
      | strings s t => exact (hstrings s t rfl rfl).elim
      | arrays => exact absurd rfl (h _ _ rfl)

-- A comparison has an answer exactly for ordered data, whatever is asked.
theorem isSome_compare?_iff : (a.compare? how b).isSome = true ↔ a.Ordered b := by
  induction a using induct generalizing b with
  | array xs ih =>
    cases b with
    | array ys =>
      rw [compare?, isSome_compareItems?_iff]
      constructor
      · exact fun h => .arrays fun position x y hdifference =>
          (ih x (List.mem_of_getElem? hdifference.left)).mp (h position x y hdifference)
      · intro hordered position x y hdifference
        cases hordered with
        | numbers ha => cases ha
        | arrays h =>
          exact (ih x (List.mem_of_getElem? hdifference.left)).mpr (h position x y hdifference)
    | _ =>
      refine isSome_compare?_iff_of_ne_arrays fun _ _ _ harray => ?_
      cases harray
  | _ =>
    refine isSome_compare?_iff_of_ne_arrays fun _ _ harray => ?_
    cases harray

theorem Comparable.ne_bool (h : a.Comparable b) : a.kind ≠ .bool ∧ b.kind ≠ .bool := by
  rcases h with ⟨hkind, hnumber | hstring⟩ | ⟨ha, hb, -⟩
  · simp [← hkind, hnumber]
  · simp [← hkind, hstring]
  · simp [ha, hb]

theorem comparable_iff_ordered (ha : a.kind ≠ .bool) (hb : b.kind ≠ .bool) :
    a.Comparable b ↔ a.Ordered b := by
  constructor
  · rintro (⟨hkind, hnumber | hstring⟩ | ⟨-, -, h⟩)
    · cases a <;> cases hnumber
      cases b <;> cases hkind
      exact .numbers rfl rfl
    · cases a <;> cases hstring
      cases b <;> cases hkind
      exact .strings _ _
    · exact h
  · intro h
    cases h with
    | numbers hm hn =>
      have hnumber {c : Value} {n : Number} (hc : c.kind ≠ .bool) (hn : c.asNumber? = some n) :
          c.kind = .number := by
        cases c with
        | number => rfl
        | bool => exact (hc rfl).elim
        | _ => cases hn
      exact .inl ⟨(hnumber ha hm).trans (hnumber hb hn).symm, .inl (hnumber ha hm)⟩
    | strings s t => exact .inl ⟨rfl, .inr rfl⟩
    | arrays h => exact .inr ⟨rfl, rfl, .arrays h⟩

-- Two whole numbers, or two texts.
inductive Total : Value → Value → Prop where
  | ints (m n : Int) : Total (int m) (int n)
  | strings (s t : String) : Total (string s) (string t)

theorem count_trichotomy {α : Type} [LinearOrder α] (a b : α) :
    [decide (a < b), decide (a = b), decide (b < a)].count true = 1 := by
  rcases lt_trichotomy a b with h | rfl | h
  · simp [h, h.ne, h.not_gt]
  · simp
  · simp [h, h.ne', h.not_gt]

-- Exactly one of them is less or they are equal, and what is not greater is at most the other.
theorem Total.trichotomy (h : Total a b) : ∃ less greater, a.less? b = some less ∧
    b.less? a = some greater ∧ a.atMost? b = some !greater ∧ b.atMost? a = some !less ∧
    [less, a.equal b, greater].count true = 1 := by
  cases h with
  | ints m n =>
    exact ⟨_, _, less?_int m n, less?_int n m, atMost?_int m n, atMost?_int n m,
      count_trichotomy m n⟩
  | strings s t =>
    have hequal : (string s).equal (string t) = decide (s = t) := by
      rw [equal, beq_eq_decide]
    exact ⟨_, _, less?_string s t, less?_string t s, atMost?_string s t, atMost?_string t s,
      hequal ▸ count_trichotomy s t⟩

end Value

end JsonExpr
