import JsonExpr.Proofs.Pattern.Languages
import JsonExpr.Regex.Matching
import Mathlib.Data.List.Forall2

-- Sets of characters in a regular expression: a class of a pattern, written with its escapes, is
-- read back as the set of its ranges.
namespace JsonExpr

namespace Regex

-- A token inside a set that is no closing bracket and stands for a character.
def Token.StandsFor (token : Token) (c : Char) : Prop :=
  token = .plain c ∧ c ≠ ']' ∨ token = .escaped c ∧ c ∈ ['\\', '[', ']', '^']

theorem Token.StandsFor.ne_closing {token : Token} {c : Char} (h : token.StandsFor c) :
    token ≠ .plain ']' := by
  rcases h with ⟨rfl, hne⟩ | ⟨rfl, -⟩
  · simpa using hne
  · nofun

theorem Token.StandsFor.eq_hyphen_iff {token : Token} {c : Char} (h : token.StandsFor c) :
    token = .plain '-' ↔ c = '-' := by
  rcases h with ⟨rfl, -⟩ | ⟨rfl, hmem⟩
  · simp
  · constructor
    · nofun
    · rintro rfl
      exact absurd hmem (by decide)

namespace Reader

section Steps

variable {α β : Type} {reader : Reader α} {next : α → Reader β} {tokens left : List Token}

theorem run_bind_ok {a : α} (h : reader.run tokens = .ok (a, left)) :
    (reader >>= next).run tokens = (next a).run left := by
  rw [StateT.run_bind, h]
  rfl

theorem run_bind_error {defect : Defect} (h : reader.run tokens = .error defect) :
    (reader >>= next).run tokens = .error defect := by
  rw [StateT.run_bind, h]
  rfl

end Steps

variable {token : Token} {c : Char} {rest : List Token} {limit : Nat} {items : List CharItem}

theorem run_next?_of_standsFor (h : token.StandsFor c) :
    next?.run (token :: rest) = .ok (some token, rest) := by
  rcases h with ⟨rfl, -⟩ | ⟨rfl, -⟩ <;> rfl

theorem run_get {tokens : List Token} :
    (get : Reader (List Token)).run tokens = .ok (tokens, tokens) := rfl

theorem run_accept_self : (accept c).run (.plain c :: rest) = .ok (true, rest) := by
  rw [accept, run_bind_ok run_get]
  simp only [if_true]
  rfl

theorem run_accept_of_ne (h : token ≠ .plain c) :
    (accept c).run (token :: rest) = .ok (false, token :: rest) := by
  rw [accept, run_bind_ok run_get]
  cases token with
  | plain d =>
    have hne : c ≠ d := by
      rintro rfl
      exact h rfl
    simp only [if_neg hne]
    rfl
  | _ => rfl

theorem setMember_of_standsFor (h : token.StandsFor c) :
    setMember token = pure (.code c.toNat) := by
  rcases h with ⟨rfl, -⟩ | ⟨rfl, hmem⟩
  · rfl
  · simp only [List.mem_cons, List.not_mem_nil, or_false] at hmem
    rcases hmem with rfl | rfl | rfl | rfl <;> rfl

-- What the reader of a set does at its end, with a character, and with a range. A hyphen between
-- two tokens makes a range, unless the second one closes the set.
theorem run_setMembers_closing (hitems : items ≠ []) :
    (setMembers (limit + 1) items).run (.plain ']' :: rest) = .ok (items.reverse, rest) := by
  rw [setMembers, run_bind_ok (show next?.run _ = .ok (some (.plain ']'), rest) from rfl)]
  simp [hitems]
  rfl

theorem run_setMembers_standsFor (h : token.StandsFor c) :
    (setMembers (limit + 1) items).run (token :: rest) =
      (membersFrom (setMembers limit) items (.code c.toNat)).run rest := by
  have hopen : ¬(decide (token = .plain ']') && !items.isEmpty) = true := by simp [h.ne_closing]
  rw [setMembers, run_bind_ok (run_next?_of_standsFor h)]
  dsimp only
  rw [if_neg hopen, setMember_of_standsFor h, pure_bind]

theorem run_setMembers_single (h : token.StandsFor c) {other : Token}
    (hother : other ≠ .plain '-') :
    (setMembers (limit + 1) items).run (token :: other :: rest) =
      (setMembers limit (.code c.toNat :: items)).run (other :: rest) := by
  rw [run_setMembers_standsFor h, membersFrom, run_bind_ok (run_accept_of_ne hother)]
  rfl

theorem run_setMembers_hyphen (h : token.StandsFor c) :
    (setMembers (limit + 1) items).run (token :: .plain '-' :: .plain ']' :: rest) =
      .ok (items.reverse ++ [.code c.toNat, .code '-'.toNat], rest) := by
  rw [run_setMembers_standsFor h, membersFrom, run_bind_ok run_accept_self]
  simp only [if_true]
  rw [run_bind_ok (show next?.run _ = .ok (some (.plain ']'), rest) from rfl)]
  simp
  rfl

theorem run_setMembers_range (h : token.StandsFor c) {other : Token} {d : Char}
    (hother : other.StandsFor d) :
    (setMembers (limit + 1) items).run (token :: .plain '-' :: other :: rest) =
      if c ≤ d then (setMembers limit (.range c.toNat d.toNat :: items)).run rest
      else .error .malformed := by
  rw [run_setMembers_standsFor h, membersFrom, run_bind_ok run_accept_self]
  simp only [if_true]
  rw [run_bind_ok (run_next?_of_standsFor hother)]
  simp only [hother.ne_closing, if_false, setMember_of_standsFor hother, pure_bind]
  by_cases hle : c ≤ d
  · rw [if_pos hle, if_pos (show c.toNat ≤ d.toNat from hle)]
  · rw [if_neg hle, if_neg (show ¬c.toNat ≤ d.toNat from hle)]
    rfl

end Reader

end Regex

namespace Wildcard

-- The members of the set that a class is read as.
def members : List Char → List Regex.CharItem
  | first :: '-' :: last :: rest => .range first.toNat last.toNat :: members rest
  | c :: rest => .code c.toNat :: members rest
  | [] => []

theorem inOrder_range (first last : Char) (rest : List Char) :
    InOrder (first :: '-' :: last :: rest) ↔ first ≤ last ∧ InOrder rest := by
  simp [InOrder, ranges]

theorem inOrder_single {c : Char} {rest : List Char}
    (hrest : ∀ last more, rest ≠ '-' :: last :: more) : InOrder (c :: rest) ↔ InOrder rest := by
  rw [InOrder, ranges.eq_2 _ _ (fun last more h => hrest last more h)]
  simp [InOrder]

end Wildcard

namespace Regex

namespace Reader

open Wildcard

theorem run_setMembers {body : List Char} {tokens rest : List Token} {limit : Nat}
    {items : List CharItem} (hstands : List.Forall₂ Token.StandsFor tokens body)
    (hlimit : tokens.length < limit) (hsome : body ≠ [] ∨ items ≠ []) :
    (setMembers limit items).run (tokens ++ .plain ']' :: rest) =
      if InOrder body then .ok (items.reverse ++ members body, rest) else .error .malformed := by
  obtain ⟨limit, rfl⟩ := Nat.exists_eq_add_one_of_ne_zero (by omega : limit ≠ 0)
  fun_induction members body generalizing tokens limit items with
  | case1 first last more ih =>
    obtain ⟨token, _, hfirst, hlater, rfl⟩ := List.forall₂_cons_right_iff.mp hstands
    obtain ⟨_, _, hhyphen, hlatest, rfl⟩ := List.forall₂_cons_right_iff.mp hlater
    obtain ⟨other, tokens, hlast, hmore, rfl⟩ := List.forall₂_cons_right_iff.mp hlatest
    obtain rfl := hhyphen.eq_hyphen_iff.mpr rfl
    simp only [List.length_cons] at hlimit
    obtain ⟨limit, rfl⟩ := Nat.exists_eq_add_one_of_ne_zero (by omega : limit ≠ 0)
    simp only [List.cons_append, run_setMembers_range hfirst hlast, inOrder_range]
    rw [ih hmore (.inr (List.cons_ne_nil _ _)) limit (by omega)]
    by_cases hle : first ≤ last <;> simp [hle]
  | case2 c more hsingle ih =>
    obtain ⟨token, tokens, hc, hmore, rfl⟩ := List.forall₂_cons_right_iff.mp hstands
    simp only [List.length_cons] at hlimit
    obtain ⟨limit, rfl⟩ := Nat.exists_eq_add_one_of_ne_zero (by omega : limit ≠ 0)
    have hrest := ih hmore (.inr (List.cons_ne_nil (.code c.toNat) items)) limit (by omega)
    rw [List.reverse_cons, List.append_assoc, List.singleton_append] at hrest
    simp only [inOrder_single fun last more h => hsingle last more h]
    rw [← hrest, List.cons_append]
    cases hmore with
    | nil => exact run_setMembers_single hc nofun
    | @cons other d tokens more hother hmore =>
      by_cases hhyphen : d = '-'
      · subst hhyphen
        obtain rfl : more = [] := by
          cases more with
          | nil => rfl
          | cons last more => exact absurd rfl (hsingle last more)
        obtain rfl := List.forall₂_nil_right_iff.mp hmore
        obtain rfl := hother.eq_hyphen_iff.mpr rfl
        rw [hrest, List.cons_append, List.nil_append, run_setMembers_hyphen hc,
          if_pos (by simp [InOrder, ranges])]
        rfl
      · exact run_setMembers_single hc fun heq => hhyphen (hother.eq_hyphen_iff.mp heq)
  | case3 =>
    obtain rfl := List.forall₂_nil_right_iff.mp hstands
    rw [List.nil_append, run_setMembers_closing (by simpa using hsome)]
    simp [InOrder, ranges]

end Reader

theorem tokens_escaped (c : Char) (rest : List Char) :
    tokens ('\\' :: c :: rest) = .escaped c :: tokens rest := by rw [tokens]

theorem tokens_plain {c : Char} (hplain : c ≠ '\\') (rest : List Char) :
    tokens (c :: rest) = .plain c :: tokens rest := by
  rw [tokens]
  · simp [hplain]
  · simp [hplain]

theorem tokens_escapeInClass (c : Char) (rest : List Char) :
    ∃ token : Token, tokens (Wildcard.escapeInClass c ++ rest) = token :: tokens rest ∧
      token.StandsFor c ∧ (c ≠ '^' → token ≠ .plain '^') := by
  unfold Wildcard.escapeInClass
  split
  · next hescaped =>
    refine ⟨.escaped c, tokens_escaped c rest, .inr ⟨rfl, ?_⟩, nofun⟩
    rcases hescaped with rfl | rfl | rfl <;> decide
  · next hplain =>
    obtain ⟨hbackslash, -, hclosing⟩ := by simpa only [not_or] using hplain
    exact ⟨.plain c, tokens_plain hbackslash rest, .inl ⟨rfl, hclosing⟩, by simp⟩

theorem tokens_classMore (more rest : List Char) :
    ∃ read : List Token,
      tokens (more.flatMap Wildcard.escapeInClass ++ rest) = read ++ tokens rest ∧
        List.Forall₂ Token.StandsFor read more := by
  induction more with
  | nil => exact ⟨[], rfl, .nil⟩
  | cons c more ih =>
    obtain ⟨read, hread, hmore⟩ := ih
    obtain ⟨token, htoken, hc, -⟩ :=
      tokens_escapeInClass c (more.flatMap Wildcard.escapeInClass ++ rest)
    refine ⟨token :: read, ?_, .cons hc hmore⟩
    rw [List.flatMap_cons, List.append_assoc, htoken, hread, List.cons_append]

-- No class begins with a circumflex that would negate it.
theorem tokens_classText (first : Char) (more rest : List Char) :
    ∃ (token : Token) (read : List Token),
      tokens (Wildcard.classText first more ++ rest) = token :: read ++ tokens rest ∧
        List.Forall₂ Token.StandsFor (token :: read) (first :: more) ∧ token ≠ .plain '^' := by
  obtain ⟨read, hread, hmore⟩ := tokens_classMore more rest
  unfold Wildcard.classText
  split
  · next heq =>
    subst heq
    refine ⟨.escaped '^', read, ?_, .cons (.inr ⟨rfl, by decide⟩) hmore, nofun⟩
    rw [List.append_assoc, List.cons_append, List.singleton_append, tokens_escaped, hread,
      List.cons_append]
  · next hne =>
    obtain ⟨token, htoken, hfirst, hcircumflex⟩ :=
      tokens_escapeInClass first (more.flatMap Wildcard.escapeInClass ++ rest)
    refine ⟨token, read, ?_, .cons hfirst hmore, hcircumflex hne⟩
    rw [List.append_assoc, htoken, hread, List.cons_append]

namespace Reader

theorem run_tokensLeft (tokens : List Token) :
    tokensLeft.run tokens = .ok (tokens.length, tokens) := rfl

theorem run_charset {negated : Bool} {read rest left : List Token} {items : List CharItem}
    (hnegated : (accept '^').run read = .ok (negated, rest))
    (hitems : (setMembers rest.length []).run rest = .ok (items, left)) :
    charset.run read = .ok (setNode negated items, left) := by
  rw [charset, run_bind_ok hnegated, run_bind_ok (run_tokensLeft rest), run_bind_ok hitems]
  rfl

theorem run_charset_classText (negated : Bool) (first : Char) (more rest : List Char) :
    charset.run (tokens ((if negated then ['^'] else []) ++ Wildcard.classText first more ++
        ']' :: rest)) =
      if Wildcard.InOrder (first :: more) then
        .ok (setNode negated (Wildcard.members (first :: more)), tokens rest)
      else .error .malformed := by
  obtain ⟨token, read, hread, hstands, hcircumflex⟩ := tokens_classText first more (']' :: rest)
  rw [tokens_plain (by decide)] at hread
  have hnegated : (accept '^').run (tokens ((if negated then ['^'] else []) ++
      Wildcard.classText first more ++ ']' :: rest)) =
        .ok (negated, token :: read ++ .plain ']' :: tokens rest) := by
    rw [List.append_assoc]
    cases negated
    · rw [if_neg (by decide), List.nil_append, hread]
      exact run_accept_of_ne hcircumflex
    · rw [if_pos rfl, List.singleton_append, tokens_plain (by decide), hread]
      exact run_accept_self
  have hitems : (setMembers (token :: read ++ .plain ']' :: tokens rest).length []).run
      (token :: read ++ .plain ']' :: tokens rest) = _ :=
    run_setMembers hstands (by simp only [List.length_append, List.length_cons]; omega)
      (.inl (List.cons_ne_nil _ _))
  split at hitems
  · next horder =>
    rw [if_pos horder, run_charset hnegated hitems, List.reverse_nil, List.nil_append]
  · next horder =>
    rw [if_neg horder, charset, run_bind_ok hnegated, run_bind_ok (run_tokensLeft _),
      run_bind_error hitems]

end Reader

end Regex

end JsonExpr
