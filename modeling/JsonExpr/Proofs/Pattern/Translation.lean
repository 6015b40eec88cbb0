import JsonExpr.Proofs.Pattern.Sets

-- The translation of wildcards is read as one sequence of nodes between two anchors, a node for
-- each wildcard; no other character of the pattern has a meaning of its own. If a class is upside
-- down, the translation is malformed.
namespace JsonExpr

namespace Regex

open Wildcard

namespace Reader

variable {c : Char}

theorem isAlphanum_of_reserved (h : reserved.contains c = true) : c.isAlphanum = false := by
  have hall : reserved.all (fun c => !c.isAlphanum) = true := by decide
  simpa using List.all_eq_true.mp hall c (List.contains_iff_mem.mp h)

-- A backslash takes the meaning from every character that is no letter and no digit.
theorem run_escapedCode (h : c.isAlphanum = false) (rest : List Token) :
    (escapedCode c).run rest = .ok (c.toNat, rest) := by
  have halpha : c.isAlpha = false := by simp_all [Char.isAlphanum]
  unfold escapedCode
  split
  case h_10 =>
    rw [halpha]
    rfl
  all_goals exact absurd halpha (by decide)

theorem charClass?_eq_none (h : c.isAlphanum = false) : charClass? c = none := by
  unfold charClass?
  split
  case h_7 => rfl
  all_goals exact absurd h (by decide)

theorem run_escape (h : c.isAlphanum = false) (rest : List Token) :
    (escape c).run rest = .ok (.atom (.code c.toNat false), rest) := by
  have hdigit : c.isDigit = false := by simp_all [Char.isAlphanum]
  unfold escape
  split
  case h_6 =>
    rw [charClass?_eq_none h, hdigit]
    exact run_bind_ok (run_escapedCode h rest)
  all_goals exact absurd h (by decide)

-- Characters that are not reserved have none.
theorem run_lexeme_plain (h : reserved.contains c = false) (rest : List Token) :
    (lexeme (.plain c)).run rest = .ok (some (.atom (.code c.toNat false)), rest) := by
  unfold lexeme
  split
  · contradiction
  · contradiction
  · next heq =>
    cases heq
    split
    case h_12 => rfl
    all_goals exact absurd h (by decide)

theorem run_manner {token : Token} (hlazy : token ≠ .plain '?') (hpossessive : token ≠ .plain '+')
    (rest : List Token) : manner.run (token :: rest) = .ok (.greedy, token :: rest) := by
  rw [manner, run_bind_ok (run_accept_of_ne hlazy)]
  exact run_bind_ok (run_accept_of_ne hpossessive)

end Reader

-- The token of a literal, and the lexeme that it is read as.
theorem tokens_escapeLiteral (c : Char) (rest : List Char) :
    ∃ token : Token, tokens (escapeLiteral c ++ rest) = token :: tokens rest ∧
      (∀ left, (Reader.lexeme token).run left = .ok (some (.atom (.code c.toNat false)), left)) ∧
      token ≠ .plain '?' ∧ token ≠ .plain '+' := by
  unfold escapeLiteral
  split
  · next hreserved =>
    refine ⟨.escaped c, tokens_escaped c rest, fun left => ?_, nofun, nofun⟩
    exact Reader.run_bind_ok (Reader.run_escape (Reader.isAlphanum_of_reserved hreserved) left)
  · next hplain =>
    have hreserved : reserved.contains c = false := Bool.eq_false_iff.mpr hplain
    have hne : ∀ d ∈ reserved, c ≠ d := by
      rintro d hmem rfl
      exact hplain (List.contains_iff_mem.mpr hmem)
    refine ⟨.plain c, tokens_plain (hne '\\' (by decide)) rest,
      Reader.run_lexeme_plain hreserved, ?_, ?_⟩
    · simpa using hne '?' (by decide)
    · simpa using hne '+' (by decide)

-- The rest of a translation, from some wildcard on.
def translated (wildcards : List Wildcard) : List Char := wildcards.flatMap toPattern ++ ['$']

-- The node of a wildcard.
def nodeOf : Wildcard → Node
  | .run => .repetition 0 none .greedy .anyChar
  | .one => .anyChar
  | .literal c => .code c.toNat false
  | .charClass negated first more => Reader.setNode negated (members (first :: more))

-- The lexemes up to the first class that is upside down, or to the end.
def lexemesOf : List Wildcard → List Lexeme
  | [] => [.atom (.anchor .lineEnd)]
  | .run :: rest => .atom .anyChar :: .quantifier 0 none .greedy :: lexemesOf rest
  | wildcard :: rest =>
    if wildcard.IsSound then .atom (nodeOf wildcard) :: lexemesOf rest else [.defect .malformed]

theorem lexemesOf_charClass (negated : Bool) (first : Char) (more : List Char)
    (rest : List Wildcard) :
    lexemesOf (.charClass negated first more :: rest) =
      if (charClass negated first more).IsSound then
        .atom (nodeOf (.charClass negated first more)) :: lexemesOf rest
      else [.defect .malformed] := by
  rw [lexemesOf]
  nofun

theorem translated_cons (wildcard : Wildcard) (rest : List Wildcard) :
    translated (wildcard :: rest) = toPattern wildcard ++ translated rest := by
  rw [translated, List.flatMap_cons, List.append_assoc, translated]

-- A translation never goes on with a mark that would change the repetition before it.
theorem tokens_translated (wildcards : List Wildcard) :
    ∃ token rest, tokens (translated wildcards) = token :: rest ∧
      token ≠ .plain '?' ∧ token ≠ .plain '+' := by
  cases wildcards with
  | nil => exact ⟨.plain '$', [], by simp [translated, tokens], by decide, by decide⟩
  | cons wildcard rest =>
    rw [translated_cons]
    cases wildcard with
    | run | one => exact ⟨.plain '.', _, tokens_plain (by decide) _, by decide, by decide⟩
    | literal c =>
      obtain ⟨token, htoken, -, hne⟩ := tokens_escapeLiteral c (translated rest)
      exact ⟨token, _, htoken, hne⟩
    | charClass negated first more =>
      exact ⟨.plain '[', _, tokens_plain (by decide) _, by decide, by decide⟩

section Lexemes

variable {token : Token} {rest left : List Token} {limit : Nat} (hlimit : 0 < limit)

include hlimit

theorem lexemesFrom_of_atom (node : Node)
    (h : (Reader.lexeme token).run rest = .ok (some (.atom node), left)) :
    lexemesFrom limit false [] (token :: rest) =
      .atom node :: lexemesFrom (limit - 1) false [] left := by
  obtain ⟨limit, rfl⟩ := Nat.exists_eq_add_one.mpr hlimit
  simp [lexemesFrom, h]

theorem lexemesFrom_of_quantifier {least : Nat} {most : Option Nat} {manner : Manner}
    (h : (Reader.lexeme token).run rest = .ok (some (.quantifier least most manner), left)) :
    lexemesFrom limit false [] (token :: rest) =
      .quantifier least most manner :: lexemesFrom (limit - 1) false [] left := by
  obtain ⟨limit, rfl⟩ := Nat.exists_eq_add_one.mpr hlimit
  simp [lexemesFrom, h]

theorem lexemesFrom_of_defect {defect : Defect}
    (h : (Reader.lexeme token).run rest = .error defect) :
    lexemesFrom limit false [] (token :: rest) = [.defect defect] := by
  obtain ⟨limit, rfl⟩ := Nat.exists_eq_add_one.mpr hlimit
  simp [lexemesFrom, h]

end Lexemes

theorem run_lexeme_asterisk (wildcards : List Wildcard) :
    (Reader.lexeme (.plain '*')).run (tokens (translated wildcards)) =
      .ok (some (.quantifier 0 none .greedy), tokens (translated wildcards)) := by
  obtain ⟨token, rest, htokens, hlazy, hpossessive⟩ := tokens_translated wildcards
  rw [htokens]
  exact Reader.run_bind_ok (Reader.run_bind_ok (Reader.run_manner hlazy hpossessive rest))

theorem run_lexeme_bracket (negated : Bool) (first : Char) (more rest : List Char) :
    (Reader.lexeme (.plain '[')).run (tokens ((if negated then ['^'] else []) ++
        classText first more ++ ']' :: rest)) =
      if (charClass negated first more).IsSound then
        .ok (some (.atom (nodeOf (.charClass negated first more))), tokens rest)
      else .error .malformed := by
  have hset := Reader.run_charset_classText negated first more rest
  by_cases hsound : (charClass negated first more).IsSound
  · rw [if_pos (show InOrder (first :: more) from hsound)] at hset
    rw [if_pos hsound]
    exact Reader.run_bind_ok hset
  · rw [if_neg (show ¬InOrder (first :: more) from hsound)] at hset
    rw [if_neg hsound]
    exact Reader.run_bind_error hset

theorem length_tokens_class (negated : Bool) (first : Char) (more rest : List Char) :
    (tokens rest).length ≤
      (tokens ((if negated then ['^'] else []) ++ classText first more ++ ']' :: rest)).length := by
  obtain ⟨token, read, hread, -⟩ := tokens_classText first more (']' :: rest)
  rw [tokens_plain (by decide)] at hread
  rw [List.append_assoc]
  cases negated
  · rw [if_neg (by decide), List.nil_append, hread]
    simp only [List.length_append, List.length_cons]
    omega
  · rw [if_pos rfl, List.singleton_append, tokens_plain (by decide), hread]
    simp only [List.length_append, List.length_cons]
    omega

theorem lexemesFrom_translated (wildcards : List Wildcard) {limit : Nat}
    (hlimit : (tokens (translated wildcards)).length ≤ limit) :
    lexemesFrom limit false [] (tokens (translated wildcards)) = lexemesOf wildcards := by
  induction wildcards generalizing limit with
  | nil =>
    have hend : tokens (translated []) = [.plain '$'] := by simp [translated, tokens]
    rw [hend] at hlimit ⊢
    rw [lexemesFrom_of_atom hlimit (.anchor .lineEnd) rfl]
    cases limit - 1 <;> rfl
  | cons wildcard rest ih =>
    rw [translated_cons] at hlimit ⊢
    cases wildcard with
    | run =>
      rw [toPattern, List.cons_append, List.singleton_append, tokens_plain (by decide),
        tokens_plain (by decide)] at hlimit ⊢
      simp only [List.length_cons] at hlimit
      rw [lexemesFrom_of_atom (by omega) .anyChar rfl,
        lexemesFrom_of_quantifier (by omega) (run_lexeme_asterisk rest), ih (by omega), lexemesOf]
    | one =>
      rw [toPattern, List.singleton_append, tokens_plain (by decide)] at hlimit ⊢
      simp only [List.length_cons] at hlimit
      rw [lexemesFrom_of_atom (by omega) .anyChar rfl, ih (by omega)]
      rfl
    | literal c =>
      obtain ⟨token, htoken, hread, -⟩ := tokens_escapeLiteral c (translated rest)
      rw [toPattern, htoken] at hlimit ⊢
      simp only [List.length_cons] at hlimit
      rw [lexemesFrom_of_atom (by omega) _ (hread _), ih (by omega)]
      rfl
    | charClass negated first more =>
      have hclass : toPattern (.charClass negated first more) ++ translated rest =
          '[' :: ((if negated then ['^'] else []) ++ classText first more ++
            ']' :: translated rest) := by
        simp [toPattern]
      have hread := run_lexeme_bracket negated first more (translated rest)
      have hlength := length_tokens_class negated first more (translated rest)
      rw [hclass, tokens_plain (by decide)] at hlimit ⊢
      simp only [List.length_cons] at hlimit
      by_cases hsound : (charClass negated first more).IsSound
      · rw [if_pos hsound] at hread
        rw [lexemesFrom_of_atom (by omega) _ hread, ih (by omega), lexemesOf_charClass,
          if_pos hsound]
      · rw [if_neg hsound] at hread
        rw [lexemesFrom_of_defect (by omega) hread, lexemesOf_charClass, if_neg hsound]

theorem lexemesOf_of_not_isSound {wildcard : Wildcard} (hsound : ¬wildcard.IsSound)
    (rest : List Wildcard) : lexemesOf (wildcard :: rest) = [.defect .malformed] := by
  cases wildcard with
  | run | one | literal => exact absurd trivial hsound
  | charClass negated first more => rw [lexemesOf_charClass, if_neg hsound]

-- Of a wildcard nothing is remembered but its node, and whether anything is repeated.
theorem foldlM_step_lexemesOf_cons {wildcard : Wildcard} (hsound : wildcard.IsSound)
    (rest : List Wildcard) (p : Progress) :
    (lexemesOf (wildcard :: rest)).foldlM Progress.step p =
      (lexemesOf rest).foldlM Progress.step { p with
        nodes := nodeOf wildcard :: p.nodes
        repeats := p.repeats || wildcard = .run } := by
  cases wildcard with
  | run =>
    simp only [decide_true, Bool.or_true]
    rfl
  | one | literal =>
    simp only [reduceCtorEq, decide_false, Bool.or_false]
    rfl
  | charClass negated first more =>
    rw [lexemesOf_charClass, if_pos hsound]
    simp only [reduceCtorEq, decide_false, Bool.or_false]
    rfl

theorem foldlM_step_lexemesOf (wildcards : List Wildcard) (p : Progress) :
    (lexemesOf wildcards).foldlM Progress.step p =
      if ∀ wildcard ∈ wildcards, wildcard.IsSound then
        .ok { p with
          nodes := .anchor .lineEnd :: ((wildcards.map nodeOf).reverse ++ p.nodes)
          repeats := p.repeats || wildcards.any (· = .run) }
      else .error .malformed := by
  induction wildcards generalizing p with
  | nil =>
    rw [if_pos (by simp), List.any_nil, Bool.or_false]
    rfl
  | cons wildcard rest ih =>
    simp only [List.forall_mem_cons]
    by_cases hsound : wildcard.IsSound
    · rw [foldlM_step_lexemesOf_cons hsound, ih]
      simp only [hsound, true_and, List.map_cons, List.reverse_cons, List.append_assoc,
        List.singleton_append, List.any_cons, Bool.or_assoc]
    · rw [lexemesOf_of_not_isSound hsound, if_neg fun h => hsound h.1]
      rfl

theorem finish_sequence {flags : Flags} (hascii : flags.ascii = false)
    (htemplate : flags.template = false) (nodes : List Node) (repeats : Bool) :
    ({ flags, nodes, repeats } : Progress).finish = .ok ⟨.sequence nodes.reverse, flags, 0⟩ := by
  simp [Progress.finish, Progress.node, hascii, htemplate, pure, Except.pure]

-- Wildcards as a regular expression that was read.
def wholeText (flags : Flags) (wildcards : List Wildcard) : Regex :=
  ⟨.sequence (.anchor .lineStart :: wildcards.map nodeOf ++ [.anchor .lineEnd]), flags, 0⟩

theorem ofPattern_regexOf {flags : Flags} (hascii : flags.ascii = false)
    (htemplate : flags.template = false) (wildcards : List Wildcard) :
    ofPattern flags (regexOf wildcards) =
      if ∀ wildcard ∈ wildcards, wildcard.IsSound then .ok (wholeText flags wildcards)
      else .error .malformed := by
  have hlexemes : lexemes (regexOf wildcards) =
      .atom (.anchor .lineStart) :: lexemesOf wildcards := by
    have hpattern : regexOf wildcards = '^' :: translated wildcards := rfl
    rw [lexemes, hpattern, tokens_plain (by decide),
      lexemesFrom_of_atom (by simp) (.anchor .lineStart) rfl,
      lexemesFrom_translated _ (by simp)]
  have hfold : (lexemes (regexOf wildcards)).foldlM Progress.step { flags } =
      (lexemesOf wildcards).foldlM Progress.step { flags, nodes := [.anchor .lineStart] } := by
    rw [hlexemes]
    rfl
  rw [ofPattern, hfold, foldlM_step_lexemesOf]
  split
  · exact (finish_sequence hascii htemplate _ _).trans (by simp [wholeText])
  · rfl

end Regex

end JsonExpr
