import JsonExpr.Regex.Matching
import Mathlib.Data.Option.Basic

-- What is matched is a part of the text from the place on: every way to match goes on from a place
-- that is reached by taking characters off what is left of the text.
namespace JsonExpr

namespace Regex

-- One thread reaches the place of another by taking some of the characters that follow.
def Thread.LeadsTo (t u : Thread) : Prop :=
  ∃ taken, t.after = taken ++ u.after ∧ u.position = t.position + taken.length

namespace Thread.LeadsTo

variable {t u v : Thread}

theorem refl (t : Thread) : t.LeadsTo t := ⟨[], rfl, rfl⟩

theorem trans (h : t.LeadsTo u) (h' : u.LeadsTo v) : t.LeadsTo v := by
  obtain ⟨taken, hafter, hposition⟩ := h
  obtain ⟨more, hafter', hposition'⟩ := h'
  refine ⟨taken ++ more, ?_, ?_⟩
  · rw [hafter, hafter', List.append_assoc]
  · rw [hposition', hposition, List.length_append, Nat.add_assoc]

theorem le_position (h : t.LeadsTo u) : t.position ≤ u.position := by
  obtain ⟨taken, -, hposition⟩ := h
  omega

theorem position_le (h : t.LeadsTo u) : u.position ≤ t.position + t.after.length := by
  obtain ⟨taken, hafter, hposition⟩ := h
  rw [hafter, List.length_append]
  omega

theorem advance? {test : Char → Bool} (h : t.advance? test = some u) : t.LeadsTo u := by
  rw [Thread.advance?] at h
  split at h
  · cases h
  · next c rest hafter =>
    split at h
    · cases h
      exact ⟨[c], hafter, rfl⟩
    · cases h

theorem advanceAll? {same : Char → Char → Bool} {wanted : List Char}
    (h : t.advanceAll? same wanted = some u) : t.LeadsTo u := by
  induction wanted generalizing t with
  | nil =>
    cases h
    exact refl _
  | cons c rest ih =>
    obtain ⟨v, hfirst, hrest⟩ := Option.bind_eq_some_iff.mp h
    exact (advance? hfirst).trans (ih hrest)

end Thread.LeadsTo

-- A result of a matcher is one of what follows it, at a place that the matcher has reached.
def Matcher.MovesOn (matcher : Matcher) : Prop :=
  ∀ t next found, matcher t next = some found → ∃ u, t.LeadsTo u ∧ next u = some found

namespace Matcher.MovesOn

variable {body : Matcher}

theorem once (hbody : body.MovesOn) {t u : Thread} (h : body.once t = some u) : t.LeadsTo u := by
  obtain ⟨u, hleads, ⟨⟩⟩ := hbody t some u h
  exact hleads

theorem times (hbody : body.MovesOn) (n : Nat) : (body.times n).MovesOn := by
  induction n with
  | zero => exact fun t next found h => ⟨t, .refl t, h⟩
  | succ n ih =>
    intro t next found h
    obtain ⟨u, hu, hrest⟩ := hbody t _ found h
    obtain ⟨v, hv, hnext⟩ := ih u next found hrest
    exact ⟨v, hu.trans hv, hnext⟩

theorem greedy (hbody : body.MovesOn) {next : Thread → Option Thread} {found : Thread} {n : Nat}
    {last : Option Nat} {t : Thread} (h : body.greedy next n last t = some found) :
    ∃ u, t.LeadsTo u ∧ next u = some found := by
  induction n generalizing last t with
  | zero => exact ⟨t, .refl t, h⟩
  | succ n ih =>
    rw [Matcher.greedy] at h
    split at h
    · exact ⟨t, .refl t, h⟩
    · obtain hround | ⟨-, hnext⟩ := (Option.orElse_eq_some _ _ _).mp h
      · obtain ⟨u, hu, hrest⟩ := hbody t _ found hround
        obtain ⟨v, hv, hnext⟩ := ih hrest
        exact ⟨v, hu.trans hv, hnext⟩
      · exact ⟨t, .refl t, hnext⟩

theorem lazy (hbody : body.MovesOn) {next : Thread → Option Thread} {found : Thread} {n : Nat}
    {last : Option Nat} {t : Thread} (h : body.lazy next n last t = some found) :
    ∃ u, t.LeadsTo u ∧ next u = some found := by
  induction n generalizing last t with
  | zero => exact ⟨t, .refl t, h⟩
  | succ n ih =>
    rw [Matcher.lazy] at h
    obtain hnext | ⟨-, hround⟩ := (Option.orElse_eq_some _ _ _).mp h
    · exact ⟨t, .refl t, hnext⟩
    · split at hround
      · cases hround
      · obtain ⟨u, hu, hrest⟩ := hbody t _ found hround
        obtain ⟨v, hv, hnext⟩ := ih hrest
        exact ⟨v, hu.trans hv, hnext⟩

theorem timesOnce (hbody : body.MovesOn) {n : Nat} {t u : Thread}
    (h : body.timesOnce n t = some u) : t.LeadsTo u := by
  induction n generalizing t with
  | zero =>
    cases h
    exact .refl _
  | succ n ih =>
    obtain ⟨v, hround, hrest⟩ := Option.bind_eq_some_iff.mp h
    exact (hbody.once hround).trans (ih hrest)

theorem roundsOnce (hbody : body.MovesOn) (n : Nat) (last : Option Nat) (t : Thread) :
    t.LeadsTo (body.roundsOnce n last t) := by
  induction n generalizing last t with
  | zero => exact .refl t
  | succ n ih =>
    rw [Matcher.roundsOnce]
    split
    · exact .refl t
    · split
      · next later hround => exact (hbody.once hround).trans (ih _ later)
      · exact .refl t

theorem repetition (hbody : body.MovesOn) (least : Nat) (most : Option Nat) (manner : Manner) :
    (body.repetition least most manner).MovesOn := by
  intro t next found h
  cases manner with
  | greedy =>
    obtain ⟨u, hu, hrest⟩ := hbody.times least t _ found h
    obtain ⟨v, hv, hnext⟩ := hbody.greedy hrest
    exact ⟨v, hu.trans hv, hnext⟩
  | lazy =>
    obtain ⟨u, hu, hrest⟩ := hbody.times least t _ found h
    obtain ⟨v, hv, hnext⟩ := hbody.lazy hrest
    exact ⟨v, hu.trans hv, hnext⟩
  | possessive =>
    obtain ⟨u, hleast, hnext⟩ := Option.bind_eq_some_iff.mp h
    exact ⟨_, (hbody.timesOnce hleast).trans (hbody.roundsOnce _ none u), hnext⟩

-- To look around does not move the thread, wherever the look begins.
theorem look (body : Matcher) (negated : Bool) (start : Option Thread) :
    (body.look negated start).MovesOn := by
  intro t next found h
  have hstay (captured : Thread) : t.LeadsTo (t.withCaptures captured) := ⟨[], rfl, rfl⟩
  rw [Matcher.look.eq_def] at h
  split at h <;> split at h
  · cases h
  · next captured _ _ => exact ⟨_, hstay captured, h⟩
  · exact ⟨t, .refl t, h⟩
  · cases h

end Matcher.MovesOn

variable {text : List Char}

mutual

theorem Node.run_movesOn : ∀ (node : Node) (flags : Flags), (node.run text flags).MovesOn
  | .code code negated, flags, t, next, found, h => by
    obtain ⟨u, hadvance, hnext⟩ := Option.bind_eq_some_iff.mp h
    exact ⟨u, .advance? hadvance, hnext⟩
  | .anyChar, flags, t, next, found, h => by
    obtain ⟨u, hadvance, hnext⟩ := Option.bind_eq_some_iff.mp h
    exact ⟨u, .advance? hadvance, hnext⟩
  | .charset items negated, flags, t, next, found, h => by
    obtain ⟨u, hadvance, hnext⟩ := Option.bind_eq_some_iff.mp h
    exact ⟨u, .advance? hadvance, hnext⟩
  | .anchor anchor, flags, t, next, found, h => by
    rw [Node.run] at h
    split at h
    · exact ⟨t, .refl t, h⟩
    · cases h
  | .sequence nodes, flags, t, next, found, h => by
    rw [Node.run] at h
    exact runAll_movesOn nodes flags t next found h
  | .choice nodes, flags, t, next, found, h => by
    rw [Node.run] at h
    exact runAny_movesOn nodes flags t next found h
  | .group index body, flags, t, next, found, h => by
    rw [Node.run] at h
    obtain ⟨u, ⟨taken, hleads⟩, hnext⟩ := body.run_movesOn flags (t.enter index) _ found h
    exact ⟨u.leave index, ⟨taken, hleads⟩, hnext⟩
  | .scope on off body, flags, t, next, found, h => by
    rw [Node.run] at h
    exact body.run_movesOn (flags.within on off) t next found h
  | .atomic body, flags, t, next, found, h => by
    rw [Node.run] at h
    obtain ⟨u, hbody, hnext⟩ := Option.bind_eq_some_iff.mp h
    exact ⟨u, (body.run_movesOn flags).once hbody, hnext⟩
  | .repetition least most manner body, flags, t, next, found, h => by
    rw [Node.run] at h
    exact (body.run_movesOn flags).repetition least most manner t next found h
  | .lookAhead negated body, flags, t, next, found, h => by
    rw [Node.run] at h
    exact Matcher.MovesOn.look _ negated _ t next found h
  | .lookBehind negated distance body, flags, t, next, found, h => by
    rw [Node.run] at h
    exact Matcher.MovesOn.look _ negated _ t next found h
  | .reference index, flags, t, next, found, h => by
    rw [Node.run] at h
    obtain ⟨⟨first, last⟩, -, hrest⟩ := Option.bind_eq_some_iff.mp h
    obtain ⟨u, hadvance, hnext⟩ := Option.bind_eq_some_iff.mp hrest
    exact ⟨u, .advanceAll? hadvance, hnext⟩
  | .conditional index yes no, flags, t, next, found, h => by
    rw [Node.run] at h
    split at h
    · exact yes.run_movesOn flags t next found h
    · exact no.run_movesOn flags t next found h

theorem runAll_movesOn : ∀ (nodes : List Node) (flags : Flags), (runAll text nodes flags).MovesOn
  | [], flags, t, next, found, h => ⟨t, .refl t, h⟩
  | node :: rest, flags, t, next, found, h => by
    rw [runAll] at h
    obtain ⟨u, hu, hrest⟩ := node.run_movesOn flags t _ found h
    obtain ⟨v, hv, hnext⟩ := runAll_movesOn rest flags u next found hrest
    exact ⟨v, hu.trans hv, hnext⟩

theorem runAny_movesOn : ∀ (nodes : List Node) (flags : Flags), (runAny text nodes flags).MovesOn
  | [], flags, t, next, found, h => by cases h
  | node :: rest, flags, t, next, found, h => by
    rw [runAny] at h
    obtain hfirst | ⟨-, hrest⟩ := (Option.orElse_eq_some _ _ _).mp h
    · exact node.run_movesOn flags t next found hfirst
    · exact runAny_movesOn rest flags t next found hrest

end

end Regex

end JsonExpr
