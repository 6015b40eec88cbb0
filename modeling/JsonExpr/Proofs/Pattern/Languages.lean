import JsonExpr.Wildcard

-- The languages of wildcards, and how patterns of the query language and of the shell are read.
namespace JsonExpr

namespace Wildcard

-- The ranges of a class, read from left to right. A single character is a range of its own, and a
-- hyphen stands for itself where it does not lie between two characters.
def ranges : List Char → List (Char × Char)
  | first :: '-' :: last :: rest => (first, last) :: ranges rest
  | c :: rest => (c, c) :: ranges rest
  | [] => []

def InClass (body : List Char) (c : Char) : Prop :=
  ∃ range ∈ ranges body, range.1 ≤ c ∧ c ≤ range.2

-- No range of a class is upside down.
def InOrder (body : List Char) : Prop := ∀ range ∈ ranges body, range.1 ≤ range.2

instance : DecidablePred InOrder := fun body =>
  inferInstanceAs (Decidable (∀ range ∈ ranges body, range.1 ≤ range.2))

def IsSound : Wildcard → Prop
  | charClass _ first more => InOrder (first :: more)
  | _ => True

instance : DecidablePred IsSound
  | run | one | literal _ => isTrue trivial
  | charClass _ first more => inferInstanceAs (Decidable (InOrder (first :: more)))

-- The texts that a list of wildcards generates.
inductive Generates : List Wildcard → List Char → Prop where
  | done : Generates [] []
  | run (taken : List Char) {rest : List Wildcard} {text : List Char} (h : Generates rest text) :
    Generates (.run :: rest) (taken ++ text)
  | one (c : Char) {rest : List Wildcard} {text : List Char} (h : Generates rest text) :
    Generates (.one :: rest) (c :: text)
  | literal (c : Char) {rest : List Wildcard} {text : List Char} (h : Generates rest text) :
    Generates (.literal c :: rest) (c :: text)
  | charClass {negated : Bool} {first : Char} {more : List Char} {c : Char}
    (hclass : InClass (first :: more) c ↔ negated = false) {rest : List Wildcard}
    {text : List Char} (h : Generates rest text) :
    Generates (.charClass negated first more :: rest) (c :: text)

variable {pattern text : List Char} {wildcards : List Wildcard}

-- The texts that are like a pattern of the query language.
inductive Like : List Char → List Char → Prop where
  | done : Like [] []
  | percent (taken : List Char) {pattern text : List Char} (h : Like pattern text) :
    Like ('%' :: pattern) (taken ++ text)
  | underscore (c : Char) {pattern text : List Char} (h : Like pattern text) :
    Like ('_' :: pattern) (c :: text)
  | itself {c : Char} (hplain : c ≠ '%' ∧ c ≠ '_') {pattern text : List Char}
    (h : Like pattern text) : Like (c :: pattern) (c :: text)

theorem ofLike_cons_of_plain {c : Char} (hplain : c ≠ '%' ∧ c ≠ '_') (pattern : List Char) :
    ofLike (c :: pattern) = .literal c :: ofLike pattern := by
  simp [ofLike, hplain.1, hplain.2]

theorem like_iff_generates : Like pattern text ↔ Generates (ofLike pattern) text := by
  constructor
  · intro h
    induction h with
    | done => exact .done
    | percent taken _ ih => exact .run taken ih
    | underscore c _ ih => exact .one c ih
    | itself hplain _ ih =>
      rw [ofLike_cons_of_plain hplain]
      exact .literal _ ih
  · induction pattern generalizing text with
    | nil =>
      rintro ⟨⟩
      exact .done
    | cons c pattern ih =>
      intro h
      by_cases hpercent : c = '%'
      · subst hpercent
        rw [show ofLike ('%' :: pattern) = .run :: ofLike pattern from rfl] at h
        cases h with
        | run taken h => exact .percent taken (ih h)
      by_cases hunderscore : c = '_'
      · subst hunderscore
        rw [show ofLike ('_' :: pattern) = .one :: ofLike pattern from rfl] at h
        cases h with
        | one c h => exact .underscore c (ih h)
      have hplain := And.intro hpercent hunderscore
      rw [ofLike_cons_of_plain hplain] at h
      cases h with
      | literal _ h => exact .itself hplain (ih h)

theorem isSound_ofLike (pattern : List Char) : ∀ wildcard ∈ ofLike pattern, wildcard.IsSound := by
  intro wildcard hmem
  obtain ⟨c, -, rfl⟩ := List.mem_map.mp hmem
  split
  · trivial
  · split <;> trivial

-- A class after its opening bracket, and what follows it: a mark if it is negated, at least one
-- character, and the first closing bracket after that.
inductive IsClass : List Char → Bool → Char → List Char → List Char → Prop where
  | negated {mark : Char} (hmark : mark = '!' ∨ mark = '^') (first : Char) {more : List Char}
    (hmore : ']' ∉ more) (rest : List Char) :
    IsClass (mark :: first :: more ++ ']' :: rest) true first more rest
  | plain {first : Char} (hfirst : first ≠ '!' ∧ first ≠ '^') {more : List Char}
    (hmore : ']' ∉ more) (rest : List Char) :
    IsClass (first :: more ++ ']' :: rest) false first more rest

-- The wildcards that a pattern of the shell stands for, read from left to right.
inductive Reads : List Char → List Wildcard → Prop where
  | done : Reads [] []
  | asterisk {rest : List Char} {wildcards : List Wildcard} (h : Reads rest wildcards) :
    Reads ('*' :: rest) (.run :: wildcards)
  | question {rest : List Char} {wildcards : List Wildcard} (h : Reads rest wildcards) :
    Reads ('?' :: rest) (.one :: wildcards)
  | bracket {text more rest : List Char} {negated : Bool} {first : Char}
    {wildcards : List Wildcard} (hclass : IsClass text negated first more rest)
    (h : Reads rest wildcards) : Reads ('[' :: text) (.charClass negated first more :: wildcards)
  -- a bracket that is never closed
  | unclosed {text : List Char} {wildcards : List Wildcard}
    (hopen : ∀ negated first more rest, ¬IsClass text negated first more rest)
    (h : Reads text wildcards) : Reads ('[' :: text) (.literal '[' :: wildcards)
  | itself {c : Char} (hplain : c ≠ '*' ∧ c ≠ '?' ∧ c ≠ '[') {rest : List Char}
    {wildcards : List Wildcard} (h : Reads rest wildcards) :
    Reads (c :: rest) (.literal c :: wildcards)

theorem splitBracket?_append {body : List Char} (hbody : ']' ∉ body) (rest : List Char) :
    splitBracket? (body ++ ']' :: rest) = some (body, rest) := by
  induction body with
  | nil => rfl
  | cons c body ih =>
    rw [List.mem_cons, not_or] at hbody
    rw [List.cons_append, splitBracket?, if_neg (Ne.symm hbody.1), ih hbody.2]
    rfl

theorem eq_append_of_splitBracket? {body rest : List Char}
    (h : splitBracket? text = some (body, rest)) : text = body ++ ']' :: rest ∧ ']' ∉ body := by
  induction text generalizing body with
  | nil => cases h
  | cons c text ih =>
    rw [splitBracket?] at h
    split at h
    · next heq =>
      cases h
      exact ⟨by rw [heq, List.nil_append], List.not_mem_nil⟩
    · next hne =>
      obtain ⟨⟨inner, after⟩, hsplit, hpair⟩ := Option.map_eq_some_iff.mp h
      obtain ⟨rfl, rfl⟩ := Prod.mk.inj hpair
      obtain ⟨rfl, hinner⟩ := ih hsplit
      exact ⟨rfl, List.not_mem_cons_of_ne_of_not_mem (Ne.symm hne) hinner⟩

theorem splitNegation_of_mark {mark : Char} (hmark : mark = '!' ∨ mark = '^') (text : List Char) :
    splitNegation (mark :: text) = (true, text) := by
  rcases hmark with rfl | rfl <;> rfl

theorem splitNegation_of_plain {c : Char} (hplain : c ≠ '!' ∧ c ≠ '^') (text : List Char) :
    splitNegation (c :: text) = (false, c :: text) := by
  simp [splitNegation, hplain.1, hplain.2]

theorem splitClass?_eq_some_iff {wildcard : Wildcard} {rest : List Char} :
    splitClass? text = some (wildcard, rest) ↔
      ∃ negated first more,
        wildcard = .charClass negated first more ∧ IsClass text negated first more rest := by
  constructor
  · intro h
    rw [splitClass?] at h
    split at h
    · next negated first tail heq =>
      obtain ⟨⟨more, after⟩, hsplit, hpair⟩ := Option.map_eq_some_iff.mp h
      obtain ⟨rfl, rfl⟩ := Prod.mk.inj hpair
      obtain ⟨rfl, hmore⟩ := eq_append_of_splitBracket? hsplit
      refine ⟨negated, first, more, rfl, ?_⟩
      cases text with
      | nil => simp [splitNegation] at heq
      | cons c text =>
        by_cases hmark : c = '!' ∨ c = '^'
        · rw [splitNegation_of_mark hmark] at heq
          obtain ⟨rfl, rfl⟩ := Prod.mk.inj heq
          exact .negated hmark first hmore _
        · rw [splitNegation_of_plain (not_or.mp hmark)] at heq
          obtain ⟨rfl, hchars⟩ := Prod.mk.inj heq
          obtain ⟨rfl, rfl⟩ := List.cons.inj hchars
          exact .plain (not_or.mp hmark) hmore _
    · cases h
  · rintro ⟨negated, first, more, rfl, hclass⟩
    cases hclass with
    | negated hmark first hmore =>
      rw [splitClass?, List.cons_append, splitNegation_of_mark hmark]
      simp [splitBracket?_append hmore]
    | plain hfirst hmore =>
      rw [splitClass?, List.cons_append, splitNegation_of_plain hfirst]
      simp [splitBracket?_append hmore]

theorem ofGlob_bracket {negated : Bool} {first : Char} {more rest : List Char}
    (hclass : IsClass text negated first more rest) :
    ofGlob ('[' :: text) = .charClass negated first more :: ofGlob rest := by
  have hsplit := splitClass?_eq_some_iff.mpr ⟨negated, first, more, rfl, hclass⟩
  rw [ofGlob]
  split
  · next wildcard after heq =>
    rw [hsplit] at heq
    cases heq
    rfl
  · next heq =>
    rw [hsplit] at heq
    cases heq

theorem ofGlob_unclosed
    (hopen : ∀ negated first more rest, ¬IsClass text negated first more rest) :
    ofGlob ('[' :: text) = .literal '[' :: ofGlob text := by
  rw [ofGlob]
  split
  · next wildcard after heq =>
    obtain ⟨negated, first, more, -, hclass⟩ := splitClass?_eq_some_iff.mp heq
    exact absurd hclass (hopen negated first more after)
  · rfl

theorem ofGlob_itself {c : Char} (hplain : c ≠ '*' ∧ c ≠ '?' ∧ c ≠ '[') (rest : List Char) :
    ofGlob (c :: rest) = .literal c :: ofGlob rest := by
  rw [ofGlob]
  · exact hplain.1
  · exact hplain.2.1
  · exact hplain.2.2

theorem reads_ofGlob (pattern : List Char) : Reads pattern (ofGlob pattern) := by
  fun_induction ofGlob pattern with
  | case1 => exact .done
  | case2 rest ih => exact .asterisk ih
  | case3 rest ih => exact .question ih
  | case4 rest wildcard after hsplit _ ih =>
    obtain ⟨negated, first, more, rfl, hclass⟩ := splitClass?_eq_some_iff.mp hsplit
    exact .bracket hclass ih
  | case5 rest hsplit ih =>
    refine .unclosed (fun negated first more after hclass => ?_) ih
    rw [splitClass?_eq_some_iff.mpr ⟨negated, first, more, rfl, hclass⟩] at hsplit
    cases hsplit
  | case6 c rest hasterisk hquestion hbracket ih =>
    exact .itself ⟨hasterisk, hquestion, hbracket⟩ ih

-- Every pattern has one reading.
theorem reads_iff : Reads pattern wildcards ↔ wildcards = ofGlob pattern := by
  constructor
  · intro h
    induction h with
    | done => rw [ofGlob]
    | asterisk _ ih | question _ ih => rw [ofGlob, ih]
    | bracket hclass _ ih => rw [ofGlob_bracket hclass, ih]
    | unclosed hopen _ ih => rw [ofGlob_unclosed hopen, ih]
    | itself hplain _ ih => rw [ofGlob_itself hplain, ih]
  · rintro rfl
    exact reads_ofGlob pattern

end Wildcard

end JsonExpr
