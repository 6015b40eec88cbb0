import JsonExpr.Regex.Replacement

-- How a replacement is read: as characters that stand for themselves and references to a match. A
-- reference is as long as it can be, and every replacement is read in this way.
namespace JsonExpr

-- A decimal digit of any script with its value.
structure DecimalDigit where
  char : Char
  value : Nat
  sound : decimalDigit? char = some value

theorem DecimalDigit.char_ne (digit : DecimalDigit) :
    digit.char ≠ '$' ∧ digit.char ≠ '&' ∧ digit.char ≠ '\x60' ∧ digit.char ≠ '\'' := by
  obtain ⟨c, value, h⟩ := digit
  refine ⟨?_, ?_, ?_, ?_⟩ <;> rintro rfl <;>
    simp [decimalDigit?, digitValueIn, Digit.ranges] at h

namespace Regex

-- A character after which a dollar sign is the beginning of a reference.
def endsSign (c : Char) : Bool :=
  ['$', '&', '\x60', '\''].contains c || (decimalDigit? c).isSome

theorem endsSign_eq_false_iff {c : Char} :
    endsSign c = false ↔
      c ≠ '$' ∧ c ≠ '&' ∧ c ≠ '\x60' ∧ c ≠ '\'' ∧ decimalDigit? c = none := by
  simp [endsSign, and_assoc]

inductive ReplacementPart where
  | plain (c : Char)
  | sign
  | matched
  | before
  | after
  | group (digit : DecimalDigit)
  | longGroup (tens ones : DecimalDigit)

namespace ReplacementPart

def written : ReplacementPart → List Char
  | plain c => [c]
  | sign => ['$', '$']
  | matched => ['$', '&']
  | before => ['$', '\x60']
  | after => ['$', '\'']
  | group digit => ['$', digit.char]
  | longGroup tens ones => ['$', tens.char, ones.char]

-- Whether a part ends where a text follows: what is written would otherwise be a longer part.
def EndsBefore (rest : List Char) : ReplacementPart → Prop
  | plain c => c = '$' → ∀ next ∈ rest.head?, endsSign next = false
  | group _ => ∀ next ∈ rest.head?, decimalDigit? next = none
  | _ => True

-- What a part stands for. For a group that the pattern lacks that is what is written, but a
-- reference of two digits falls back on its first digit before.
def meaning (m : Match) : ReplacementPart → List Char
  | plain c => [c]
  | sign => ['$']
  | matched => m.matched
  | before => m.before
  | after => m.after
  | group digit => (m.group? digit.value).getD (written (.group digit))
  | longGroup tens ones =>
    match m.group? (10 * tens.value + ones.value), m.group? tens.value with
    | some text, _ => text
    | none, some text => text ++ [ones.char]
    | none, none => written (.longGroup tens ones)

end ReplacementPart

open ReplacementPart

-- A replacement read from left to right.
inductive Reads : List Char → List ReplacementPart → Prop where
  | nil : Reads [] []
  | cons {part : ReplacementPart} {rest : List Char} {parts : List ReplacementPart}
    (hends : part.EndsBefore rest) (h : Reads rest parts) :
    Reads (part.written ++ rest) (part :: parts)

variable {m : Match} {replacement rest : List Char}

theorem expandDigits_eq_meaning (tens ones : DecimalDigit) :
    expandDigits m tens.char ones.char tens.value ones.value =
      (longGroup tens ones).meaning m := by
  rw [expandDigits, meaning, expandDigit]
  cases m.group? (10 * tens.value + ones.value) with
  | some text => rfl
  | none => cases m.group? tens.value <;> rfl

theorem expand_plain {c : Char} (hends : (plain c).EndsBefore rest) :
    expand m (c :: rest) = c :: expand m rest := by
  by_cases hc : c = '$'
  · subst hc
    match rest, hends rfl with
    | [], _ => simp [expand]
    | next :: rest, hnext =>
      obtain ⟨h₁, h₂, h₃, h₄, hdigit⟩ := endsSign_eq_false_iff.mp (hnext next rfl)
      cases rest with
      | nil => rw [expand.eq_7 m next h₁ h₂ h₃ h₄, hdigit]
      | cons d rest => rw [expand.eq_6 m next d rest h₁ h₂ h₃ h₄, hdigit]
  · rw [expand.eq_8] <;> simp [hc]

theorem expand_group {digit : DecimalDigit} (hends : (group digit).EndsBefore rest) :
    expand m ('$' :: digit.char :: rest) = (group digit).meaning m ++ expand m rest := by
  obtain ⟨h₁, h₂, h₃, h₄⟩ := digit.char_ne
  match rest, hends with
  | [], _ => rw [expand.eq_7 m _ h₁ h₂ h₃ h₄, digit.sound, expand.eq_1, List.append_nil]; rfl
  | next :: rest, hnext =>
    rw [expand.eq_6 m _ next rest h₁ h₂ h₃ h₄, digit.sound, hnext next rfl]
    rfl

theorem expand_longGroup (tens ones : DecimalDigit) :
    expand m ('$' :: tens.char :: ones.char :: rest) =
      (longGroup tens ones).meaning m ++ expand m rest := by
  obtain ⟨h₁, h₂, h₃, h₄⟩ := tens.char_ne
  rw [expand.eq_6 m _ _ rest h₁ h₂ h₃ h₄, tens.sound, ones.sound, ← expandDigits_eq_meaning]

-- What stands in front is expanded by itself if it is a part of what is read.
theorem expand_written {part : ReplacementPart} (hends : part.EndsBefore rest) :
    expand m (part.written ++ rest) = part.meaning m ++ expand m rest := by
  cases part with
  | plain c => exact expand_plain hends
  | sign => exact expand.eq_2 m rest
  | matched => exact expand.eq_3 m rest
  | before => exact expand.eq_4 m rest
  | after => exact expand.eq_5 m rest
  | group digit => exact expand_group hends
  | longGroup tens ones => exact expand_longGroup tens ones

theorem Reads.expand_eq {parts : List ReplacementPart} (h : Reads replacement parts) :
    expand m replacement = parts.flatMap (meaning m) := by
  induction h with
  | nil => rw [expand, List.flatMap_nil]
  | cons hends _ ih => rw [expand_written hends, ih, List.flatMap_cons]

-- Every replacement can be read, part by part as it is expanded.
theorem exists_reads (replacement : List Char) : ∃ parts, Reads replacement parts := by
  have hcons {rest : List Char} (part : ReplacementPart) (hends : part.EndsBefore rest)
      (h : ∃ parts, Reads rest parts) : ∃ parts, Reads (part.written ++ rest) parts := by
    obtain ⟨parts, h⟩ := h
    exact ⟨part :: parts, .cons hends h⟩
  induction replacement using expand.induct with
  | case1 => exact ⟨[], .nil⟩
  | case2 rest ih => exact hcons .sign trivial ih
  | case3 rest ih => exact hcons .matched trivial ih
  | case4 rest ih => exact hcons .before trivial ih
  | case5 rest ih => exact hcons .after trivial ih
  | case6 c d rest _ _ _ _ tens ones hd hc ih =>
    exact hcons (.longGroup ⟨c, tens, hc⟩ ⟨d, ones, hd⟩) trivial ih
  | case7 c d rest _ _ _ _ digit hd hc ih =>
    exact hcons (.group ⟨c, digit, hc⟩) (by simpa [EndsBefore] using hd) ih
  | case8 c d rest h₁ h₂ h₃ h₄ hc ih =>
    have hsign : endsSign c = false := endsSign_eq_false_iff.mpr ⟨h₁, h₂, h₃, h₄, hc⟩
    exact hcons (.plain '$') (by simpa [EndsBefore] using hsign) ih
  | case9 c _ _ _ _ digit hc =>
    exact hcons (.group ⟨c, digit, hc⟩) (by simp [EndsBefore]) ⟨[], .nil⟩
  | case10 c h₁ h₂ h₃ h₄ hc ih =>
    have hsign : endsSign c = false := endsSign_eq_false_iff.mpr ⟨h₁, h₂, h₃, h₄, hc⟩
    exact hcons (.plain '$') (by simpa [EndsBefore] using hsign) ih
  | case11 c rest _ _ _ _ hlong hshort ih =>
    refine hcons (.plain c) (fun hc next hnext => ?_) ih
    cases rest with
    | nil => simp at hnext
    | cons d rest =>
      cases rest with
      | nil => exact absurd rfl (hshort d hc)
      | cons e rest => exact absurd rfl (hlong d e rest hc)

-- A replacement with every dollar sign doubled.
def doubled (replacement : List Char) : List Char :=
  replacement.flatMap fun c => if c = '$' then ['$', '$'] else [c]

theorem reads_doubled (replacement : List Char) :
    Reads (doubled replacement) (replacement.map fun c => if c = '$' then sign else plain c) := by
  induction replacement with
  | nil => exact .nil
  | cons c rest ih =>
    rw [doubled, List.flatMap_cons, List.map_cons]
    by_cases hc : c = '$'
    · rw [if_pos hc, if_pos hc]
      have hends : sign.EndsBefore (doubled rest) := trivial
      exact .cons hends ih
    · rw [if_neg hc, if_neg hc]
      have hends : (plain c).EndsBefore (doubled rest) := fun h => absurd h hc
      exact .cons hends ih

theorem reads_of_not_mem (h : '$' ∉ replacement) : Reads replacement (replacement.map plain) := by
  induction replacement with
  | nil => exact .nil
  | cons c rest ih =>
    obtain ⟨hc, hrest⟩ := not_or.mp (mt List.mem_cons.mpr h)
    have hends : (plain c).EndsBefore rest := fun h => absurd h.symm hc
    exact .cons hends (ih hrest)

-- A text is read back from its doubled form at every match: no sign of a pair is taken together
-- with what follows the pair.
theorem expand_doubled (m : Match) (replacement : List Char) :
    expand m (doubled replacement) = replacement := by
  have hmeaning (c : Char) : meaning m (if c = '$' then sign else plain c) = [c] := by
    split
    · next hc => rw [hc, meaning]
    · rfl
  rw [(reads_doubled replacement).expand_eq, List.flatMap_map]
  simp only [hmeaning, List.flatMap_singleton']

theorem expand_of_not_mem (m : Match) (h : '$' ∉ replacement) :
    expand m replacement = replacement := by
  rw [(reads_of_not_mem h).expand_eq, List.flatMap_map]
  exact List.flatMap_singleton' replacement

theorem expand_matched (m : Match) : expand m ['$', '&'] = m.matched := by simp [expand]

-- Whether the pattern of a match has no group of a number.
def Match.Lacks (m : Match) (n : Nat) : Prop := n = 0 ∨ m.groups.length < n

theorem Match.group?_eq_none_iff {n : Nat} : m.group? n = none ↔ m.Lacks n := by
  cases n with
  | zero => simp [group?, Lacks]
  | succ n =>
    rw [group?, List.getElem?_eq_none_iff, Lacks, or_iff_right (Nat.succ_ne_zero n),
      Nat.lt_succ_iff]

-- What the references to groups expand to if the pattern lacks the group that is written, wherever
-- they stand.
theorem expand_group_of_lacks {digit : DecimalDigit} (hends : (group digit).EndsBefore rest)
    (h : m.Lacks digit.value) :
    expand m ((group digit).written ++ rest) = (group digit).written ++ expand m rest := by
  rw [expand_written hends, meaning, Match.group?_eq_none_iff.mpr h, Option.getD_none]

section LongGroups

variable {tens ones : DecimalDigit} {text : List Char}
  (h : m.Lacks (10 * tens.value + ones.value))

include h

theorem expand_longGroup_of_lacks (htens : m.Lacks tens.value) :
    expand m ((longGroup tens ones).written ++ rest) =
      (longGroup tens ones).written ++ expand m rest := by
  have hends : (longGroup tens ones).EndsBefore rest := trivial
  rw [expand_written hends, meaning, Match.group?_eq_none_iff.mpr h,
    Match.group?_eq_none_iff.mpr htens]

theorem expand_longGroup_of_group? (htens : m.group? tens.value = some text) :
    expand m ((longGroup tens ones).written ++ rest) = text ++ ones.char :: expand m rest := by
  have hends : (longGroup tens ones).EndsBefore rest := trivial
  rw [expand_written hends, meaning, Match.group?_eq_none_iff.mpr h, htens, List.append_assoc,
    List.singleton_append]

end LongGroups

-- How replacements are filled in for a match.
structure Match.Expands (m : Match) : Prop where
  read : ∀ replacement, ∃ parts, Reads replacement parts ∧
    expand m replacement = parts.flatMap (meaning m)
  doubled : ∀ replacement, expand m (doubled replacement) = replacement
  literal : ∀ replacement, '$' ∉ replacement → expand m replacement = replacement
  around : expand m ['$', '\x60', '$', '&', '$', '\''] = m.before ++ m.matched ++ m.after
  lacking : ∀ digit rest, (group digit).EndsBefore rest → m.Lacks digit.value →
    expand m ((group digit).written ++ rest) = (group digit).written ++ expand m rest
  lackingBoth : ∀ tens ones rest, m.Lacks (10 * tens.value + ones.value) → m.Lacks tens.value →
    expand m ((longGroup tens ones).written ++ rest) =
      (longGroup tens ones).written ++ expand m rest
  lackingLong : ∀ tens ones rest text, m.Lacks (10 * tens.value + ones.value) →
    m.group? tens.value = some text →
      expand m ((longGroup tens ones).written ++ rest) = text ++ ones.char :: expand m rest

theorem Match.expands (m : Match) : m.Expands where
  read replacement := by
    obtain ⟨parts, h⟩ := exists_reads replacement
    exact ⟨parts, h, h.expand_eq⟩
  doubled := expand_doubled m
  literal _ := expand_of_not_mem m
  around := by simp [expand]
  lacking _ _ := expand_group_of_lacks
  lackingBoth _ _ _ := expand_longGroup_of_lacks
  lackingLong _ _ _ _ := expand_longGroup_of_group?

end Regex

end JsonExpr
