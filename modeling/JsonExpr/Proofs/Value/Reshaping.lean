import JsonExpr.Proofs.Value.Merging

-- Collections of fields taken apart and put together again: into their entries, and into two parts
-- by their keys.
namespace JsonExpr

namespace Fields

variable {α : Type} {fields entries : Fields α}

-- Entries with keys of their own are put behind what is there.
theorem merge_eq_append (h : (fields ++ entries).keys.Nodup) :
    merge fields entries = fields ++ entries := by
  induction entries generalizing fields with
  | nil => exact (List.append_nil fields).symm
  | cons entry rest ih =>
    obtain ⟨name, value⟩ := entry
    have hkeys : (fields.keys ++ name :: keys rest).Nodup := by
      simpa only [Fields.keys, List.map_append, List.map_cons] using h
    have hname : name ∉ fields.keys := fun hmem =>
      (List.nodup_append.mp hkeys).2.2 name hmem name List.mem_cons_self rfl
    have hinsert : insert name value fields = fields ++ [(name, value)] := by
      rcases insert_cases name value fields with ⟨-, heq⟩ | ⟨before, old, after, rfl, -, -⟩
      · exact heq
      · exact absurd (by simp [Fields.keys]) hname
    rw [List.append_cons] at h ⊢
    rw [merge, List.foldl_cons, ← merge, hinsert, ih h]

-- Entries are a collection as they are exactly if no key is repeated.
theorem ofPairs_eq_self_iff : ofPairs entries = entries ↔ entries.keys.Nodup :=
  ⟨fun h => h ▸ nodup_keys_ofPairs entries, fun h => merge_eq_append h⟩

-- The collection that entries stand for: each key has the place where it first appears and the value
-- that it is given last.
structure Denotes (entries fields : Fields α) : Prop where
  nodup : fields.keys.Nodup
  keys : fields.keys = entries.keys.eraseDups
  last : ∀ (before : Fields α) (key : String) (value : α) (after : Fields α),
    entries = before ++ (key, value) :: after → key ∉ after.keys → fields.find? key = some value

theorem denotes_ofPairs (entries : Fields α) : Denotes entries (ofPairs entries) where
  nodup := nodup_keys_ofPairs entries
  keys := keys_ofPairs entries
  last := by
    rintro before key value after rfl hafter
    have hnone : find? key after.reverse = none := by
      rw [find?_eq_none_iff, Fields.keys, List.map_reverse, List.mem_reverse]
      exact hafter
    rw [find?_ofPairs, List.reverse_append, List.reverse_cons, find?_append, find?_append, hnone]
    simp [find?]

-- Two parts of a collection, both in its order: the entries whose keys pass a test, and the others.
structure PartsBy (passes : String → Prop) (fields chosen others : Fields α) : Prop where
  chosen_sublist : chosen.Sublist fields
  others_sublist : others.Sublist fields
  together : (chosen ++ others).Perm fields
  chosen_passes : ∀ key ∈ chosen.keys, passes key
  others_fail : ∀ key ∈ others.keys, ¬passes key

theorem partsBy_filter {passes : String → Prop} {test : String → Bool}
    (htest : ∀ key, test key = true ↔ passes key) (fields : Fields α) :
    PartsBy passes fields (fields.filter fun entry => test entry.1 == true)
      (fields.filter fun entry => test entry.1 == false) where
  chosen_sublist := List.filter_sublist
  others_sublist := List.filter_sublist
  together := by
    simpa only [beq_true, beq_false] using
      List.filter_append_perm (fun entry : String × α => test entry.1) fields
  chosen_passes key hkey := by
    rw [keys_filter fun key => test key == true, List.mem_filter] at hkey
    exact (htest key).mp (beq_iff_eq.mp hkey.2)
  others_fail key hkey := by
    rw [keys_filter fun key => test key == false, List.mem_filter] at hkey
    rw [← htest, beq_iff_eq.mp hkey.2]
    exact Bool.false_ne_true

namespace PartsBy

variable {passes : String → Prop} {chosen others : Fields α}

theorem disjoint (h : PartsBy passes fields chosen others) :
    ∀ key ∈ chosen.keys, key ∉ others.keys :=
  fun key hchosen hothers => h.others_fail key hothers (h.chosen_passes key hchosen)

-- Put together again in any order, the parts are the collection up to the order of its entries.
theorem union_perm (h : PartsBy passes fields chosen others) (hnodup : fields.keys.Nodup)
    {parts : List (Fields α)} (hparts : parts.Perm [chosen, others]) :
    (union parts).Perm fields := by
  have hperm : parts.flatten.Perm fields := by
    refine hparts.flatten.trans ?_
    simpa using h.together
  have hkeys : (keys parts.flatten).Nodup := (hperm.map Prod.fst).nodup_iff.mpr hnodup
  rwa [union, ofPairs_eq_self_iff.mpr hkeys]

end PartsBy

end Fields

end JsonExpr
