import JsonExpr.Proofs.Pattern.Translation

-- Backtracking over the translation of wildcards finds every way to divide a text among them.
namespace JsonExpr

namespace Wildcard

variable {wildcards : List Wildcard} {text : List Char}

theorem generates_nil_iff : Generates [] text ↔ text = [] := by
  constructor
  · rintro ⟨⟩
    rfl
  · rintro rfl
    exact .done

theorem generates_run (taken : List Char) : Generates [.run] taken := by
  simpa using Generates.run taken .done

-- What a wildcard admits that stands for one character.
def Admits : Wildcard → Char → Prop
  | .run, _ => False
  | .one, _ => True
  | .literal d, c => c = d
  | .charClass negated first more, c => InClass (first :: more) c ↔ negated = false

theorem generates_singleton_iff {wildcard : Wildcard} (hne : wildcard ≠ .run) :
    Generates [wildcard] text ↔ ∃ c, text = [c] ∧ wildcard.Admits c := by
  constructor
  · intro h
    cases h with
    | run => exact absurd rfl hne
    | one c h => exact ⟨c, by rw [generates_nil_iff.mp h], trivial⟩
    | literal c h => exact ⟨c, by rw [generates_nil_iff.mp h], rfl⟩
    | charClass hclass h => exact ⟨_, by rw [generates_nil_iff.mp h], hclass⟩
  · rintro ⟨c, rfl, hadmits⟩
    cases wildcard with
    | run => exact absurd rfl hne
    | one => exact .one c .done
    | literal d =>
      obtain rfl : c = d := hadmits
      exact .literal c .done
    | charClass => exact .charClass hadmits .done

-- The first wildcard and the others take the text in turn.
theorem generates_cons_iff {wildcard : Wildcard} :
    Generates (wildcard :: wildcards) text ↔
      ∃ taken rest, text = taken ++ rest ∧ Generates [wildcard] taken ∧
        Generates wildcards rest := by
  constructor
  · intro h
    cases h with
    | run taken h => exact ⟨taken, _, rfl, generates_run taken, h⟩
    | one c h => exact ⟨[c], _, rfl, .one c .done, h⟩
    | literal c h => exact ⟨[c], _, rfl, .literal c .done, h⟩
    | charClass hclass h => exact ⟨[_], _, rfl, .charClass hclass .done, h⟩
  · rintro ⟨taken, rest, rfl, hfirst, h⟩
    by_cases hrun : wildcard = .run
    · subst hrun
      exact .run taken h
    · obtain ⟨c, rfl, hadmits⟩ := (generates_singleton_iff hrun).mp hfirst
      cases wildcard with
      | run => exact absurd rfl hrun
      | one => exact .one c h
      | literal d =>
        obtain rfl : c = d := hadmits
        exact .literal c h
      | charClass => exact .charClass hadmits h

end Wildcard

namespace Regex

open Wildcard

-- The thread past some characters.
def Thread.past (t : Thread) (taken : List Char) : Thread :=
  { t with
    before := taken.reverse ++ t.before
    after := t.after.drop taken.length
    position := t.position + taken.length }

namespace Thread

variable {t : Thread} {taken more : List Char}

theorem past_append : t.past (taken ++ more) = (t.past taken).past more := by
  simp [past, Nat.add_assoc]

theorem past_cons (c : Char) : t.past (c :: taken) = (t.past [c]).past taken := by
  rw [← past_append, List.singleton_append]

theorem after_past {rest : List Char} (h : t.after = taken ++ rest) :
    (t.past taken).after = rest := by
  simp [past, h]

theorem bind_advance?_isSome_iff {test : Char → Bool} {next : Thread → Option Thread} :
    ((t.advance? test).bind next).isSome ↔
      ∃ c rest, t.after = c :: rest ∧ test c = true ∧ (next (t.past [c])).isSome := by
  rw [advance?]
  cases hafter : t.after with
  | nil => simp
  | cons c rest =>
    cases htest : test c <;> simp [htest, past, hafter]

end Thread

theorem contains_range_iff {flags : Flags} {first last c : Char} :
    (CharItem.range first.toNat last.toNat).contains flags c = true ↔ first ≤ c ∧ c ≤ last := by
  rw [CharItem.contains, inRange, Bool.and_eq_true, decide_eq_true_iff, decide_eq_true_iff]
  rfl

theorem contains_code_iff {flags : Flags} {d c : Char} :
    (CharItem.code d.toNat).contains flags c = true ↔ d ≤ c ∧ c ≤ d := by
  rw [CharItem.contains, decide_eq_true_iff, eq_comm]
  exact Nat.le_antisymm_iff

theorem mem_members_iff {flags : Flags} {body : List Char} {c : Char} :
    (∃ item ∈ members body, item.contains flags c = true) ↔ InClass body c := by
  fun_induction members body with
  | case1 first last rest ih =>
    rw [List.exists_mem_cons_iff, contains_range_iff, ih]
    simp [InClass, ranges]
  | case2 d rest hsingle ih =>
    rw [List.exists_mem_cons_iff, contains_code_iff, ih, InClass, InClass, ranges.eq_2 _ _ hsingle,
      List.exists_mem_cons_iff]
  | case3 => simp [InClass, ranges]

theorem bne_negated_iff {passes negated : Bool} :
    (passes != negated) = true ↔ (passes = true ↔ negated = false) := by
  cases passes <;> cases negated <;> decide

section Nodes

variable {flags : Flags} (hcase : flags.ignoreCase = false) (hdot : flags.dotAll = true)
  {text : List Char} {t : Thread} {next : Thread → Option Thread}

include hcase in
theorem run_setNode_isSome_iff (negated : Bool) (items : List CharItem) :
    ((Reader.setNode negated items).run text flags t next).isSome ↔
      ∃ c rest, t.after = c :: rest ∧
        ((∃ item ∈ items, item.contains flags c = true) ↔ negated = false) ∧
        (next (t.past [c])).isSome := by
  have hmem : ∀ c, (∃ item ∈ items, item.contains flags c = true) ↔
      ∃ item ∈ items.eraseDups, item.contains flags c = true := by
    simp
  simp only [hmem, Reader.setNode]
  split
  · next n hsingle =>
    rw [Node.run, hsingle]
    refine Thread.bind_advance?_isSome_iff.trans ?_
    simp only [bne_negated_iff, matchesCode, hcase, List.mem_singleton, exists_eq_left,
      CharItem.contains, Bool.false_eq_true, if_false]
  · rw [Node.run]
    refine Thread.bind_advance?_isSome_iff.trans ?_
    simp only [bne_negated_iff, charsetContains, hcase, List.any_eq_true, Bool.false_eq_true,
      if_false]

include hdot in
theorem run_anyChar_isSome_iff :
    (Node.anyChar.run text flags t next).isSome ↔
      ∃ c rest, t.after = c :: rest ∧ (next (t.past [c])).isSome := by
  rw [Node.run]
  refine Thread.bind_advance?_isSome_iff.trans ?_
  simp only [hdot, Bool.true_or, true_and]

include hdot in
theorem greedy_anyChar_isSome_iff {last : Option Nat} (hlast : last ≠ some t.position) (n : Nat) :
    (Matcher.greedy (Node.anyChar.run text flags) next n last t).isSome ↔
      ∃ taken rest, t.after = taken ++ rest ∧ taken.length ≤ n ∧ (next (t.past taken)).isSome := by
  induction n generalizing last t with
  | zero =>
    rw [Matcher.greedy]
    constructor
    · intro h
      exact ⟨[], t.after, rfl, Nat.le_refl 0, h⟩
    · rintro ⟨taken, rest, -, hlength, h⟩
      obtain rfl := List.eq_nil_of_length_eq_zero (Nat.le_zero.mp hlength)
      exact h
  | succ n ih =>
    have hlater (c : Char) : some t.position ≠ some (t.past [c]).position := by
      simp [Thread.past]
    rw [Matcher.greedy, if_neg hlast, Option.orElse_eq_orElse, Option.orElse_eq_or,
      Option.isSome_or, Bool.or_eq_true, run_anyChar_isSome_iff hdot]
    simp only [ih (hlater _)]
    constructor
    · rintro (⟨c, _, hafter, taken, rest, hsplit, hlength, h⟩ | h)
      · rw [Thread.after_past hafter] at hsplit
        refine ⟨c :: taken, rest, by rw [hafter, hsplit, List.cons_append],
          Nat.succ_le_succ hlength, ?_⟩
        rwa [Thread.past_cons]
      · exact ⟨[], t.after, rfl, Nat.zero_le _, h⟩
    · rintro ⟨_ | ⟨c, taken⟩, rest, hsplit, hlength, h⟩
      · exact .inr h
      · refine .inl ⟨c, taken ++ rest, hsplit, taken, rest, Thread.after_past hsplit,
          Nat.le_of_succ_le_succ hlength, ?_⟩
        rwa [← Thread.past_cons]

include hcase hdot in
theorem run_nodeOf_isSome_iff_of_ne {wildcard : Wildcard} (hne : wildcard ≠ .run) :
    ((nodeOf wildcard).run text flags t next).isSome ↔
      ∃ c rest, t.after = c :: rest ∧ wildcard.Admits c ∧ (next (t.past [c])).isSome := by
  cases wildcard with
  | run => exact absurd rfl hne
  | one =>
    rw [nodeOf, run_anyChar_isSome_iff hdot]
    simp only [Admits, true_and]
  | literal d =>
    rw [nodeOf, Node.run]
    refine Thread.bind_advance?_isSome_iff.trans ?_
    simp [matchesCode, hcase, Admits, Char.toNat_inj]
  | charClass negated first more =>
    rw [nodeOf, run_setNode_isSome_iff hcase]
    simp only [mem_members_iff, Admits]

include hdot in
theorem run_nodeOf_run_isSome_iff :
    ((nodeOf .run).run text flags t next).isSome ↔
      ∃ taken rest, t.after = taken ++ rest ∧ (next (t.past taken)).isSome := by
  rw [nodeOf, Node.run]
  have hstart : (none : Option Nat) ≠ some t.position := (Option.some_ne_none _).symm
  refine (greedy_anyChar_isSome_iff hdot hstart (Matcher.roundsLeft 0 none t)).trans ?_
  constructor
  · rintro ⟨taken, rest, hsplit, -, h⟩
    exact ⟨taken, rest, hsplit, h⟩
  · rintro ⟨taken, rest, hsplit, h⟩
    refine ⟨taken, rest, hsplit, ?_, h⟩
    simp only [Matcher.roundsLeft, hsplit, List.length_append]
    omega

include hcase hdot

-- A node matches what its wildcard generates.
theorem run_nodeOf_isSome_iff (wildcard : Wildcard) :
    ((nodeOf wildcard).run text flags t next).isSome ↔
      ∃ taken rest, t.after = taken ++ rest ∧ Generates [wildcard] taken ∧
        (next (t.past taken)).isSome := by
  by_cases hrun : wildcard = .run
  · subst hrun
    rw [run_nodeOf_run_isSome_iff hdot]
    simp only [generates_run, true_and]
  · rw [run_nodeOf_isSome_iff_of_ne hcase hdot hrun]
    simp only [generates_singleton_iff hrun]
    constructor
    · rintro ⟨c, rest, hafter, hadmits, h⟩
      exact ⟨[c], rest, hafter, ⟨c, rfl, hadmits⟩, h⟩
    · rintro ⟨_, rest, hafter, ⟨c, rfl, hadmits⟩, h⟩
      exact ⟨c, rest, hafter, hadmits, h⟩

theorem runAll_isSome_iff (wildcards : List Wildcard) (others : List Node) :
    (runAll text (wildcards.map nodeOf ++ others) flags t next).isSome ↔
      ∃ taken rest, t.after = taken ++ rest ∧ Generates wildcards taken ∧
        (runAll text others flags (t.past taken) next).isSome := by
  induction wildcards generalizing t with
  | nil =>
    simp only [generates_nil_iff]
    constructor
    · intro h
      exact ⟨[], t.after, rfl, rfl, h⟩
    · rintro ⟨_, rest, -, rfl, h⟩
      exact h
  | cons wildcard wildcards ih =>
    rw [List.map_cons, List.cons_append, runAll, run_nodeOf_isSome_iff hcase hdot]
    simp only [ih]
    constructor
    · rintro ⟨first, _, hafter, hfirst, taken, rest, hsplit, hgenerates, h⟩
      rw [Thread.after_past hafter] at hsplit
      refine ⟨first ++ taken, rest, by rw [hafter, hsplit, List.append_assoc],
        generates_cons_iff.mpr ⟨first, taken, rfl, hfirst, hgenerates⟩, ?_⟩
      rwa [Thread.past_append]
    · rintro ⟨_, rest, hafter, hgenerates, h⟩
      obtain ⟨first, taken, rfl, hfirst, hgenerates⟩ := generates_cons_iff.mp hgenerates
      rw [List.append_assoc] at hafter
      rw [Thread.past_append] at h
      exact ⟨first, taken ++ rest, hafter, hfirst, taken, rest, Thread.after_past hafter,
        hgenerates, h⟩

end Nodes

-- A regular expression for whole texts matches a text if the wildcards generate it, and also if
-- they generate it without a line end at its end: the last anchor holds before that, too.
section WholeTexts

variable {flags : Flags} (hcase : flags.ignoreCase = false) (hdot : flags.dotAll = true)
  (hmultiline : flags.multiline = false)

variable {wildcards : List Wildcard} {text : List Char} {place : Thread}

theorem findAt?_isSome (regex : Regex) (skipped : Nat) (strict : Bool) :
    (regex.findAt? text skipped strict place).isSome =
      (regex.matchAt? text place strict).isSome := by
  rw [findAt?]
  cases regex.matchAt? text place strict <;> rfl

include hmultiline

theorem holds_lineStart_iff : Anchor.lineStart.holds flags place = true ↔ place.before = [] := by
  simp [Anchor.holds, hmultiline]

theorem holds_lineEnd_iff :
    Anchor.lineEnd.holds flags place = true ↔ place.after = [] ∨ place.after = ['\n'] := by
  simp [Anchor.holds, hmultiline]

-- The first anchor holds at the start of a text only, so nothing is found further on.
theorem searchFrom?_wholeText_eq_none {skipped position : Nat} {strict : Bool}
    {before : List Char} (hbefore : before ≠ []) (after : List Char) :
    (wholeText flags wildcards).searchFrom? text skipped strict before position after = none := by
  have hfind (skipped : Nat) (strict : Bool) (place : Thread) (hplace : place.before ≠ []) :
      (wholeText flags wildcards).findAt? text skipped strict place = none := by
    have hstart : ¬Anchor.lineStart.holds flags place = true :=
      mt (holds_lineStart_iff hmultiline).mp hplace
    simp [findAt?, matchAt?, wholeText, Node.run, runAll, hstart]
  induction after generalizing skipped position strict before with
  | nil => exact hfind _ _ _ hbefore
  | cons c rest ih =>
    rw [searchFrom?, hfind _ _ _ hbefore, ih (List.cons_ne_nil c before)]
    rfl

theorem matchesIn_wholeText :
    (wholeText flags wildcards).matchesIn text =
      ((wholeText flags wildcards).matchAt? text { before := [], after := text, position := 0 }
        false).isSome := by
  rw [matchesIn, search?, List.take_zero, List.reverse_nil, List.drop_zero, ← findAt?_isSome _ 0]
  cases text with
  | nil => rfl
  | cons c rest =>
    rw [searchFrom?, searchFrom?_wholeText_eq_none hmultiline (List.cons_ne_nil c []),
      Option.orElse_eq_orElse, Option.orElse_eq_or, Option.or_none]

include hcase hdot

theorem matchesIn_wholeText_iff :
    (wholeText flags wildcards).matchesIn text = true ↔
      Generates wildcards text ∨ ∃ line, text = line ++ ['\n'] ∧ Generates wildcards line := by
  have hsplit : (wholeText flags wildcards).matchesIn text = true ↔
      ∃ taken rest, text = taken ++ rest ∧ Generates wildcards taken ∧
        (rest = [] ∨ rest = ['\n']) := by
    rw [matchesIn_wholeText hmultiline, matchAt?, wholeText, Node.run, List.cons_append, runAll,
      Node.run, if_pos ((holds_lineStart_iff hmultiline).mpr rfl), runAll_isSome_iff hcase hdot]
    refine exists_congr fun taken => exists_congr fun rest => and_congr_right fun hafter =>
      and_congr_right fun _ => ?_
    rw [← Thread.after_past hafter, ← holds_lineEnd_iff hmultiline, runAll, Node.run]
    split
    · next hend => simp [hend, runAll]
    · next hend => simp [hend]
  rw [hsplit]
  constructor
  · rintro ⟨taken, _, rfl, hgenerates, rfl | rfl⟩
    · rw [List.append_nil]
      exact .inl hgenerates
    · exact .inr ⟨taken, rfl, hgenerates⟩
  · rintro (hgenerates | ⟨line, rfl, hgenerates⟩)
    · exact ⟨text, [], (List.append_nil text).symm, hgenerates, .inl rfl⟩
    · exact ⟨line, _, rfl, hgenerates, .inr rfl⟩

end WholeTexts

end Regex

end JsonExpr
