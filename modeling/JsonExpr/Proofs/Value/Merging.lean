import JsonExpr.Value.Fields

-- Collections of fields put into one another: a key has the last value that it is given, and the
-- keys stand in the order in which they first appear.
namespace JsonExpr

section Duplicates

variable {α : Type} [BEq α] [LawfulBEq α]

theorem eraseDups_filter (p : α → Bool) (xs : List α) :
    (xs.filter p).eraseDups = xs.eraseDups.filter p := by
  match xs with
  | [] => rfl
  | x :: rest =>
    have ih := eraseDups_filter p (rest.filter (!· == x))
    rw [List.filter_filter] at ih
    rw [List.eraseDups_cons]
    by_cases hp : p x
    · rw [List.filter_cons_of_pos hp, List.filter_cons_of_pos hp, List.eraseDups_cons,
        List.filter_filter, ← ih]
      simp only [Bool.and_comm]
    · have hother : rest.filter (fun y => p y && !y == x) = rest.filter p :=
        List.filter_congr fun y _ => by
          by_cases hy : y = x
          · simp [hy, hp]
          · simp [hy]
      rw [List.filter_cons_of_neg hp, List.filter_cons_of_neg hp, ← ih, hother]
termination_by xs.length
decreasing_by exact Nat.lt_succ_of_le (List.length_filter_le ..)

theorem eraseDups_eraseDups (xs : List α) : xs.eraseDups.eraseDups = xs.eraseDups := by
  match xs with
  | [] => rfl
  | x :: rest =>
    have ih := eraseDups_eraseDups (rest.filter (!· == x))
    rw [List.eraseDups_cons, List.eraseDups_cons, ← eraseDups_filter, List.filter_filter]
    simp only [Bool.and_self, ih]
termination_by xs.length
decreasing_by exact Nat.lt_succ_of_le (List.length_filter_le ..)

end Duplicates

namespace Fields

variable {α : Type} {fields entries more : Fields α} {key : String}

-- What a key has after a merge: the last value that it is given, or the one it had before.
theorem find?_merge (key : String) (fields entries : Fields α) :
    find? key (merge fields entries) = (find? key entries.reverse).or (find? key fields) := by
  induction entries generalizing fields with
  | nil => rfl
  | cons entry rest ih =>
    obtain ⟨name, value⟩ := entry
    rw [merge, List.foldl_cons, ← merge, ih, List.reverse_cons, find?_append, find?_insert]
    by_cases hname : name = key
    · cases find? key rest.reverse <;> simp [find?, hname]
    · simp [find?, hname]

-- New keys come last, in the order in which they first appear.
theorem keys_merge (fields entries : Fields α) :
    (merge fields entries).keys =
      fields.keys ++ (entries.keys.removeAll fields.keys).eraseDups := by
  induction entries generalizing fields with
  | nil => simp [merge]
  | cons entry rest ih =>
    rw [merge, List.foldl_cons, ← merge, ih, keys_insert, keys_cons]
    by_cases hname : entry.1 ∈ fields.keys
    · simp [hname, List.removeAll]
    · have hrest : (keys rest).removeAll (fields.keys ++ [entry.1]) =
          ((keys rest).removeAll fields.keys).filter (!· == entry.1) := by
        rw [List.removeAll, List.removeAll, List.filter_filter]
        refine List.filter_congr fun name _ => ?_
        by_cases hn : name = entry.1 <;> simp [hn]
      have hfirst : (entry.1 :: keys rest).removeAll fields.keys =
          entry.1 :: (keys rest).removeAll fields.keys := by
        simp [List.removeAll, hname]
      rw [if_neg hname, hrest, hfirst, List.eraseDups_cons, List.append_assoc,
        List.singleton_append]

theorem nodup_keys_insert (h : fields.keys.Nodup) (key : String) (value : α) :
    (insert key value fields).keys.Nodup := by
  rw [keys_insert]
  split
  · exact h
  · next hkey => exact List.nodup_append.mpr ⟨h, by simp, by grind⟩

theorem nodup_keys_merge (h : fields.keys.Nodup) : (merge fields entries).keys.Nodup := by
  induction entries generalizing fields with
  | nil => exact h
  | cons entry rest ih => exact ih (nodup_keys_insert h entry.1 entry.2)

theorem nodup_keys_ofPairs (entries : Fields α) : (ofPairs entries).keys.Nodup :=
  nodup_keys_merge (by simp)

theorem find?_ofPairs (key : String) (entries : Fields α) :
    find? key (ofPairs entries) = find? key entries.reverse := by
  rw [ofPairs, find?_merge, find?_nil, Option.or_none]

theorem keys_ofPairs (entries : Fields α) : (ofPairs entries).keys = entries.keys.eraseDups := by
  have hall : entries.keys.removeAll [] = entries.keys := List.filter_eq_self.mpr (by simp)
  rw [ofPairs, keys_merge, keys_nil, hall, List.nil_append]

-- Collections without repeated keys are the same if they have the same keys in the same order and
-- the same value for each.
theorem eq_of_keys_of_find? (hnodup : fields.keys.Nodup) (hkeys : fields.keys = more.keys)
    (hfind : ∀ key, find? key fields = find? key more) : fields = more := by
  induction fields generalizing more with
  | nil => exact (List.map_eq_nil_iff.mp hkeys.symm).symm
  | cons entry rest ih =>
    cases more with
    | nil => cases hkeys
    | cons other more =>
      obtain ⟨name, value⟩ := entry
      obtain ⟨other, new⟩ := other
      obtain ⟨rfl, hrest⟩ : name = other ∧ keys rest = keys more := List.cons_eq_cons.mp hkeys
      obtain ⟨hname, hnodup⟩ := List.nodup_cons.mp hnodup
      have hvalue := hfind name
      rw [find?, find?, if_pos rfl, if_pos rfl, Option.some.injEq] at hvalue
      rw [hvalue, ih hnodup hrest fun key => ?_]
      by_cases hkey : name = key
      · subst hkey
        rw [find?_eq_none_iff.mpr hname, find?_eq_none_iff.mpr (hrest ▸ hname)]
      · have hlater := hfind key
        rwa [find?, find?, if_neg hkey, if_neg hkey] at hlater

-- It does not matter whether entries are merged as they are or put together before.
theorem merge_ofPairs (h : fields.keys.Nodup) :
    merge fields (ofPairs entries) = merge fields entries := by
  refine eq_of_keys_of_find? (nodup_keys_merge h) ?_ fun key => ?_
  · rw [keys_merge, keys_merge, keys_ofPairs, List.removeAll, List.removeAll, eraseDups_filter,
      eraseDups_filter, eraseDups_eraseDups]
  · rw [find?_merge, find?_merge, find?_reverse (nodup_keys_ofPairs entries), find?_ofPairs]

-- All collections put together, from left to right.
def union (collections : List (Fields α)) : Fields α := ofPairs collections.flatten

theorem foldl_merge (collections : List (Fields α)) :
    collections.foldl merge [] = union collections := List.foldl_flatten.symm

-- The union of some collections and of others, put together again.
theorem union_append (first second : List (Fields α)) :
    union (first ++ second) = union [union first, union second] := by
  have hfirst : ofPairs (union first) = union first := merge_ofPairs (by simp)
  have hsecond : merge (union first) (union second) = merge (union first) second.flatten :=
    merge_ofPairs (nodup_keys_ofPairs first.flatten)
  rw [← foldl_merge [_, _], List.foldl_cons, List.foldl_cons, List.foldl_nil, ← ofPairs, hfirst,
    hsecond, union, List.flatten_append, ofPairs, merge, List.foldl_append]
  rfl

-- A collection in which the keys of others stand in the order of their first appearance, each with
-- the value of the last of those that have it.
structure UnionOf (collections : List (Fields α)) (union : Fields α) : Prop where
  keys : union.keys = (collections.flatMap keys).eraseDups
  last : ∀ before fields after, collections = before ++ fields :: after → fields.keys.Nodup →
    ∀ key ∈ fields.keys, (∀ later ∈ after, key ∉ later.keys) →
      union.find? key = fields.find? key

theorem find?_reverse_flatten_eq_none_iff {collections : List (Fields α)} :
    find? key collections.flatten.reverse = none ↔
      ∀ fields ∈ collections, key ∉ fields.keys := by
  simp [find?_eq_none_iff, Fields.keys]

theorem unionOf_union (collections : List (Fields α)) : UnionOf collections (union collections) where
  keys := by rw [union, keys_ofPairs, keys, List.map_flatten, List.flatMap_def]; rfl
  last := by
    rintro before fields after rfl hnodup key hkey hafter
    have hnone : find? key after.flatten.reverse = none :=
      find?_reverse_flatten_eq_none_iff.mpr hafter
    obtain ⟨value, hvalue⟩ := Option.isSome_iff_exists.mp ((find?_isSome_iff key fields).mpr hkey)
    rw [union, find?_ofPairs, List.flatten_append, List.flatten_cons, List.reverse_append,
      List.reverse_append, find?_append, find?_append, hnone, Option.none_or,
      find?_reverse hnodup, hvalue, Option.some_or]

end Fields

end JsonExpr
