import JsonExpr.EditDistance
import Mathlib.Order.Bounds.Basic

-- Edit scripts between texts, and the recursion for the length of the shortest one.
namespace JsonExpr

-- One character is inserted, deleted or substituted somewhere in a text.
inductive Edit : List Char → List Char → Prop where
  | insert (before after : List Char) (c : Char) : Edit (before ++ after) (before ++ c :: after)
  | delete (before after : List Char) (c : Char) : Edit (before ++ c :: after) (before ++ after)
  | substitute (before after : List Char) {c d : Char} (h : c ≠ d) :
    Edit (before ++ c :: after) (before ++ d :: after)

-- So many edits, one after the other, turn a text into another.
inductive Edits : Nat → List Char → List Char → Prop where
  | none (text : List Char) : Edits 0 text text
  | first {n : Nat} {text next last : List Char} (edit : Edit text next)
    (rest : Edits n next last) : Edits (n + 1) text last

variable {a b c : List Char} {m n : Nat}

namespace Edit

theorem symm (h : Edit a b) : Edit b a := by
  cases h with
  | insert before after x => exact .delete before after x
  | delete before after x => exact .insert before after x
  | substitute before after h => exact .substitute before after h.symm

theorem cons (x : Char) (h : Edit a b) : Edit (x :: a) (x :: b) := by
  cases h with
  | insert before after y => exact .insert (x :: before) after y
  | delete before after y => exact .delete (x :: before) after y
  | substitute before after h => exact .substitute (x :: before) after h

theorem reverse (h : Edit a b) : Edit a.reverse b.reverse := by
  cases h with
  | insert before after x => simpa using Edit.insert after.reverse before.reverse x
  | delete before after x => simpa using Edit.delete after.reverse before.reverse x
  | substitute before after h => simpa using Edit.substitute after.reverse before.reverse h

end Edit

namespace Edits

theorem single (h : Edit a b) : Edits 1 a b := .first h (.none b)

theorem trans (h : Edits m a b) (h' : Edits n b c) : Edits (m + n) a c := by
  induction h with
  | none => rwa [Nat.zero_add]
  | first edit _ ih =>
    rw [Nat.add_right_comm]
    exact .first edit (ih h')

theorem symm (h : Edits n a b) : Edits n b a := by
  induction h with
  | none text => exact .none text
  | first edit _ ih => exact ih.trans (single edit.symm)

theorem cons (x : Char) (h : Edits n a b) : Edits n (x :: a) (x :: b) := by
  induction h with
  | none text => exact .none (x :: text)
  | first edit _ ih => exact .first (edit.cons x) ih

theorem reverse (h : Edits n a b) : Edits n a.reverse b.reverse := by
  induction h with
  | none text => exact .none text.reverse
  | first edit _ ih => exact .first edit.reverse ih

theorem deleteAll (text : List Char) : Edits text.length text [] := by
  induction text with
  | nil => exact .none []
  | cons x rest ih => exact .first (.delete [] rest x) ih

theorem eq_of_zero (h : Edits 0 a b) : a = b := by
  cases h
  rfl

end Edits

namespace EditDistance

-- The length of a shortest script, by what it does with the first characters: the one is deleted,
-- the other is inserted, or the one becomes the other.
def distance : List Char → List Char → Nat
  | [], b => b.length
  | a, [] => a.length
  | x :: a, y :: b =>
    min (min (distance a (y :: b) + 1) (distance (x :: a) b + 1))
      (distance a b + if x = y then 0 else 1)
termination_by a b => a.length + b.length

@[simp] theorem distance_nil_left (b : List Char) : distance [] b = b.length := by
  rw [distance]

@[simp] theorem distance_nil_right (a : List Char) : distance a [] = a.length := by
  cases a <;> simp [distance]

theorem distance_cons_cons (x y : Char) (a b : List Char) :
    distance (x :: a) (y :: b) =
      min (min (distance a (y :: b) + 1) (distance (x :: a) b + 1))
        (distance a b + if x = y then 0 else 1) := by
  rw [distance]

theorem edits_distance (a b : List Char) : Edits (distance a b) a b := by
  fun_induction distance a b with
  | case1 b => exact (Edits.deleteAll b).symm
  | case2 a => exact Edits.deleteAll a
  | case3 x a y b ihdelete ihinsert ihkeep =>
    have hdelete : Edits (distance a (y :: b) + 1) (x :: a) (y :: b) :=
      .first (.delete [] a x) ihdelete
    have hinsert : Edits (distance (x :: a) b + 1) (x :: a) (y :: b) :=
      ihinsert.trans (.single (.insert [] b y))
    have hkeep : Edits (distance a b + if x = y then 0 else 1) (x :: a) (y :: b) := by
      split
      · next heq => exact heq ▸ ihkeep.cons x
      · next hne => exact (ihkeep.cons x).trans (.single (.substitute [] b hne))
    have hchanged := min_rec' (Edits · (x :: a) (y :: b)) hdelete hinsert
    exact min_rec' (Edits · (x :: a) (y :: b)) hchanged hkeep

-- An edit at the front changes the distance from any text by one at most; further back it does the
-- same, since the recursion goes through the same three cases before and after it.
theorem distance_cons_le (x : Char) (a b : List Char) : distance (x :: a) b ≤ distance a b + 1 := by
  cases b with
  | nil => simp
  | cons y b =>
    rw [distance_cons_cons]
    omega

theorem distance_le_cons_right (a : List Char) (y : Char) (b : List Char) :
    distance a (y :: b) ≤ distance a b + 1 := by
  cases a with
  | nil => simp
  | cons x a =>
    rw [distance_cons_cons]
    omega

theorem distance_le_cons (x : Char) (a b : List Char) : distance a b ≤ distance (x :: a) b + 1 := by
  induction b with
  | nil =>
    simp only [distance_nil_right, List.length_cons]
    omega
  | cons y b ih =>
    have hright := distance_le_cons_right a y b
    rw [distance_cons_cons]
    omega

theorem distance_substitute_le (x x' : Char) (a b : List Char) :
    distance (x :: a) b ≤ distance (x' :: a) b + 1 := by
  induction b with
  | nil => simp
  | cons y b ih =>
    rw [distance_cons_cons, distance_cons_cons]
    have hcost : (if x = y then 0 else 1) ≤ 1 := by split <;> omega
    omega

theorem distance_cons_mono (x : Char) {a a' : List Char}
    (h : ∀ b, distance a b ≤ distance a' b + 1) (b : List Char) :
    distance (x :: a) b ≤ distance (x :: a') b + 1 := by
  induction b with
  | nil =>
    have hnil := h []
    simp only [distance_nil_right, List.length_cons] at hnil ⊢
    omega
  | cons y b ih =>
    have hdelete := h (y :: b)
    have hkeep := h b
    rw [distance_cons_cons, distance_cons_cons]
    omega

theorem distance_le_of_edit {a a' : List Char} (h : Edit a a') (b : List Char) :
    distance a b ≤ distance a' b + 1 := by
  have hbehind (before : List Char) {a a' : List Char}
      (h : ∀ b, distance a b ≤ distance a' b + 1) :
      ∀ b, distance (before ++ a) b ≤ distance (before ++ a') b + 1 := by
    induction before with
    | nil => exact h
    | cons x before ih => exact distance_cons_mono x ih
  cases h with
  | insert before after x => exact hbehind before (distance_le_cons x after) b
  | delete before after x => exact hbehind before (distance_cons_le x after) b
  | substitute before after => exact hbehind before (distance_substitute_le _ _ _) b

theorem distance_self (a : List Char) : distance a a = 0 := by
  induction a with
  | nil => simp
  | cons x a ih =>
    rw [distance_cons_cons, ih, if_pos rfl]
    omega

theorem distance_le_of_edits (h : Edits n a b) : distance a b ≤ n := by
  induction h with
  | none text => rw [distance_self]
  | first edit _ ih => exact (distance_le_of_edit edit _).trans (Nat.succ_le_succ ih)

theorem distance_isLeast (a b : List Char) : IsLeast {n | Edits n a b} (distance a b) :=
  ⟨edits_distance a b, fun _ => distance_le_of_edits⟩

theorem distance_comm (a b : List Char) : distance a b = distance b a :=
  Nat.le_antisymm (distance_le_of_edits (edits_distance b a).symm)
    (distance_le_of_edits (edits_distance a b).symm)

-- From the back, texts are as far apart as from the front.
theorem distance_reverse (a b : List Char) : distance a.reverse b.reverse = distance a b := by
  have hle (a b : List Char) : distance a.reverse b.reverse ≤ distance a b :=
    distance_le_of_edits (edits_distance a b).reverse
  refine Nat.le_antisymm (hle a b) ?_
  simpa using hle a.reverse b.reverse

theorem distance_eq_zero_iff : distance a b = 0 ↔ a = b := by
  constructor
  · intro h
    have hedits := edits_distance a b
    rw [h] at hedits
    exact hedits.eq_of_zero
  · rintro rfl
    exact distance_self a

theorem distance_triangle (a b c : List Char) : distance a c ≤ distance a b + distance b c :=
  distance_le_of_edits ((edits_distance a b).trans (edits_distance b c))

end EditDistance

end JsonExpr
