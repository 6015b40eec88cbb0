import JsonExpr.Proofs.Value.Reading

-- Paths with wildcards: what they find in a list is what they find in its items, one after the other,
-- and every further wildcard goes one level down.
namespace JsonExpr

namespace Path

-- The path with a wildcard behind each of some pieces, and a last piece behind them.
def spaced (pieces : List Path) (last : Path) : Path :=
  pieces.foldr (fun piece rest => piece ++ wildcard :: rest) last

-- Every path is one like this, with pieces between its wildcards.
theorem exists_spaced (path : Path) :
    ∃ pieces last, path = spaced pieces last ∧ ∀ piece ∈ last :: pieces, wildcard ∉ piece := by
  induction path with
  | nil => exact ⟨[], [], rfl, by simp⟩
  | cons segment rest ih =>
    obtain ⟨pieces, last, rfl, hplain⟩ := ih
    obtain ⟨hlast, hpieces⟩ := List.forall_mem_cons.mp hplain
    by_cases hsegment : segment = wildcard
    · subst hsegment
      exact ⟨[] :: pieces, last, rfl, by simpa using hplain⟩
    · have hcons {piece : Path} (h : wildcard ∉ piece) : wildcard ∉ segment :: piece := by
        simp [h, Ne.symm hsegment]
      -- the segment goes in front of the first piece
      cases pieces with
      | nil => exact ⟨[], segment :: last, rfl, by simpa using hcons hlast⟩
      | cons piece pieces =>
        obtain ⟨hpiece, hrest⟩ := List.forall_mem_cons.mp hpieces
        refine ⟨(segment :: piece) :: pieces, last, rfl, ?_⟩
        exact List.forall_mem_cons.mpr ⟨hlast, List.forall_mem_cons.mpr ⟨hcons hpiece, hrest⟩⟩

end Path

namespace Value

variable {value : Value} {path rest : Path}

-- Reading along a path is reading along its two parts, if the wildcards are in the second one.
theorem read_append (hplain : Path.wildcard ∉ path) (value : Value) (rest : Path) :
    value.read (path ++ rest) = (value.read path).read rest := by
  induction path generalizing value with
  | nil => rw [List.nil_append, read_nil]
  | cons segment path ih =>
    obtain ⟨hsegment, hpath⟩ := List.ne_and_not_mem_of_not_mem_cons hplain
    rw [List.cons_append, read_cons_of_ne hsegment.symm, read_cons_of_ne hsegment.symm, ih hpath]

-- What an item adds to what a wildcard in front of the rest of a path finds.
def contribution (rest : Path) (item : Value) : List Value :=
  if rest.isEmpty then [item] else (item.read rest).wildcardItems

theorem read_wildcard (hnull : value ≠ null) (rest : Path) :
    value.read (Path.wildcard :: rest) = array (value.wildcardItems.flatMap (contribution rest)) := by
  rw [read, if_pos rfl]
  · cases rest with
    | nil => exact congrArg array (List.flatMap_singleton' _).symm
    | cons => rfl
  · exact hnull

theorem read_wildcard_array (items : List Value) (rest : Path) :
    read (Path.wildcard :: rest) (array items) = array (items.flatMap (contribution rest)) :=
  read_wildcard (by simp) rest

theorem array_wildcardItems (value : Value) :
    array value.wildcardItems = if value.isArray then value else array [value] := by
  cases value <;> rfl

@[simp] theorem wildcardItems_null : null.wildcardItems = [null] := rfl

@[simp] theorem contribution_null (rest : Path) : contribution rest null = [null] := by
  simp [contribution]

-- One level down: behind the next piece, what an item adds is what the items there add.
theorem contribution_append (hplain : Path.wildcard ∉ path) (rest : Path) (item : Value) :
    contribution (path ++ Path.wildcard :: rest) item =
      (item.read path).wildcardItems.flatMap (contribution rest) := by
  rw [contribution, if_neg (by simp), read_append hplain]
  by_cases hnull : item.read path = null
  · simp [hnull]
  · rw [read_wildcard hnull]
    rfl

-- The items one level further down, all of them in order.
def spread (items : List Value) (piece : Path) : List Value :=
  items.flatMap fun item => (item.read piece).wildcardItems

theorem flatMap_contribution_spaced {pieces : List Path} (last : Path) (items : List Value)
    (hplain : ∀ piece ∈ pieces, Path.wildcard ∉ piece) :
    items.flatMap (contribution (Path.spaced pieces last)) =
      (pieces.foldl spread items).flatMap (contribution last) := by
  induction pieces generalizing items with
  | nil => rfl
  | cons piece pieces ih =>
    obtain ⟨hpiece, hrest⟩ := List.forall_mem_cons.mp hplain
    rw [List.foldl_cons, ← ih _ hrest, spread, List.flatMap_assoc]
    exact congrArg items.flatMap (funext (contribution_append hpiece _))

theorem read_spaced {start : Path} {pieces : List Path}
    (hplain : ∀ piece ∈ start :: pieces, Path.wildcard ∉ piece) (last : Path) (value : Value) :
    value.read (Path.spaced (start :: pieces) last) =
      if (value.read start).isNull then null
      else array ((pieces.foldl spread (value.read start).wildcardItems).flatMap
        (contribution last)) := by
  obtain ⟨hstart, hpieces⟩ := List.forall_mem_cons.mp hplain
  change value.read (start ++ Path.wildcard :: Path.spaced pieces last) = _
  rw [read_append hstart]
  by_cases hnull : value.read start = null
  · rw [hnull, read_null]
    rfl
  · rw [read_wildcard hnull, flatMap_contribution_spaced last _ hpieces, if_neg]
    rwa [isNull_iff]

-- Up to the first wildcard a path may be cut anywhere. Behind it, reading distributes over the items
-- of a list, and an item adds what the rest of the path finds in it, item by item if that is a list.
-- So with any number of wildcards the path goes down level by level, and on each level what there
-- is below one item comes before what there is below the next. It does not matter whether the
-- segments are texts or data.
theorem read_distributes :
    (∀ path rest data, Path.wildcard ∉ path →
      read (path ++ rest) data = read rest (read path data)) ∧
    (∀ items more rest, ∃ found others,
      read (Path.wildcard :: rest) (array items) = array found ∧
      read (Path.wildcard :: rest) (array more) = array others ∧
      read (Path.wildcard :: rest) (array (items ++ more)) = array (found ++ others)) ∧
    (∀ rest, read (Path.wildcard :: rest) (array []) = array []) ∧
    (∀ rest item, rest ≠ [] → read (Path.wildcard :: rest) (array [item]) =
      if (read rest item).isArray then read rest item else array [read rest item]) ∧
    (∀ item, read [Path.wildcard] (array [item]) = array [item]) ∧
    (∀ path, ∃ pieces last, path = Path.spaced pieces last ∧
      ∀ piece ∈ last :: pieces, Path.wildcard ∉ piece) ∧
    (∀ start pieces last data, (∀ piece ∈ start :: pieces, Path.wildcard ∉ piece) →
      read (Path.spaced (start :: pieces) last) data =
        if (read start data).isNull then null
        else array ((pieces.foldl spread (read start data).wildcardItems).flatMap
          (contribution last))) ∧
    ∀ path data, readBy (path.map string) data = .ok (read path data) := by
  refine ⟨fun path rest data hplain => read_append hplain data rest, fun items more rest => ?_,
    fun rest => ?_, fun rest item hrest => ?_, fun item => ?_, Path.exists_spaced,
    fun start pieces last data hplain => read_spaced hplain last data, readBy_texts⟩
  · refine ⟨items.flatMap (contribution rest), more.flatMap (contribution rest),
      read_wildcard_array items rest, read_wildcard_array more rest, ?_⟩
    rw [read_wildcard_array, List.flatMap_append]
  · exact read_wildcard_array [] rest
  · rw [read_wildcard_array, ← array_wildcardItems, List.flatMap_singleton, contribution, if_neg]
    simpa using hrest
  · exact read_wildcard_array [item] []

-- Two wildcards, a list without items, and a list at the end.
theorem read_groups_tags_ids :
    let group (tags : List Value) : Value := .object [("tags", .array tags)]
    let tag (id : Value) : Value := .object [("id", id)]
    let data := Value.object [("groups", .array
      [group [tag (.int 1), tag .null], group [], group [tag (.array [.int 2, .int 3])]])]
    (∀ piece ∈ [["groups"], ["tags"]], Path.wildcard ∉ piece) ∧
      data.read ["groups", "$", "tags", "$", "id"] = .array [.int 1, .null, .int 2, .int 3] := by
  intro group tag data
  have hplain : ∀ piece ∈ [["groups"], ["tags"]], Path.wildcard ∉ piece := by decide
  obtain ⟨-, -, -, -, -, -, hread, -⟩ := read_distributes
  exact ⟨hplain, hread ["groups"] [["tags"]] ["id"] data hplain⟩

end Value

end JsonExpr
