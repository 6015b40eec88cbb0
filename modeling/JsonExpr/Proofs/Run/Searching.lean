import JsonExpr.Proofs.Run.Filling

-- Searches: values are resolved one after the other until one of them counts as true, or as false.
-- This is what connectives do, and a search among the negations resolves just as many of them.
namespace JsonExpr

variable {α β : Type}

-- A report with its result turned into another one.
def Report.map (f : α → β) (report : Report α) : Report β :=
  { report with result := report.result.map f }

theorem Report.map_map {γ : Type} (report : Report α) (f : α → β) (g : β → γ) :
    (report.map f).map g = report.map fun a => g (f a) := by
  rcases report with ⟨_ | _, _, _⟩ <;> rfl

theorem Run.map_eq_bind_done (run : Run α) (f : α → β) (world : Surroundings) :
    (run world).map f = run.bind (fun a => done (f a)) world := (bind_done_comp run f world).symm

theorem Run.dispatching_bind_alike (name : String) (mode : Mode) (run : Run α)
    (world : Surroundings) :
    ((note (.dispatching name mode)).bind (fun _ => run) world).Alike Eq (run world) :=
  ((note_dispatching_alike name mode).bind_left (.refl run) : Alike Eq _ run) world

namespace Report.Alike

variable {report report' report'' : Report α}

theorem refl (report : Report α) : report.Alike Eq report :=
  ⟨similarResults_eq_iff.mpr rfl, rfl, rfl⟩

theorem symm (h : report.Alike Eq report') : report'.Alike Eq report where
  result := similarResults_eq_iff.mpr (similarResults_eq_iff.mp h.result).symm
  after := h.after.symm
  log := h.log.symm

theorem trans (h : report.Alike Eq report') (h' : report'.Alike Eq report'') :
    report.Alike Eq report'' where
  result := similarResults_eq_iff.mpr
    ((similarResults_eq_iff.mp h.result).trans (similarResults_eq_iff.mp h'.result))
  after := h.after.trans h'.after
  log := h.log.trans h'.log

theorem map (h : report.Alike Eq report') (f : α → β) :
    (report.map f).Alike Eq (report'.map f) where
  result := similarResults_eq_iff.mpr
    (congrArg (Except.map f) (similarResults_eq_iff.mp h.result))
  after := h.after
  log := h.log

-- What is alike a report differs from it in lines for debugging only.
theorem eq_events {result : Except Failure α} {events : List Event} {after : Surroundings}
    (h : report.Alike Eq ⟨result, events, after⟩) :
    ∃ others, report = ⟨result, others, after⟩ ∧
      Event.log false others = Event.log false events := by
  obtain ⟨hresult, hafter, hlog⟩ := h
  obtain rfl := similarResults_eq_iff.mp hresult
  obtain rfl := hafter
  exact ⟨report.events, rfl, hlog⟩

end Report.Alike

namespace Run

-- The first values of a list are resolved in turn, the last of them being the first that counts as
-- what is sought, or fails. If there is no such value all of them are resolved. The search reports
-- whether one has been found.
inductive Search (resolve : Value → Run Value) (sought : Bool) :
    List Value → List Value → Surroundings → Report Bool → Prop where
  | exhausted (world : Surroundings) : Search resolve sought [] [] world ⟨.ok false, [], world⟩
  | found {value result : Value} {rest : List Value} {events : List Event}
      {world after : Surroundings} (h : resolve value world = ⟨.ok result, events, after⟩)
      (hsought : result.isTruthy = sought) :
      Search resolve sought (value :: rest) [value] world ⟨.ok true, events, after⟩
  | failed {value : Value} {rest : List Value} {failure : Failure} {events : List Event}
      {world after : Surroundings} (h : resolve value world = ⟨.error failure, events, after⟩) :
      Search resolve sought (value :: rest) [value] world ⟨.error failure, events, after⟩
  | passed {value result : Value} {rest resolved : List Value} {found : Except Failure Bool}
      {events more : List Event} {world middle after : Surroundings}
      (h : resolve value world = ⟨.ok result, events, middle⟩)
      (hother : result.isTruthy = !sought)
      (hrest : Search resolve sought rest resolved middle ⟨found, more, after⟩) :
      Search resolve sought (value :: rest) (value :: resolved) world
        ⟨found, events ++ more, after⟩

section Search

variable {resolve resolve' : Value → Run Value} {sought : Bool} {values resolved : List Value}
  {world : Surroundings} {report : Report Bool}

theorem exists_search (resolve : Value → Run Value) (sought : Bool) (values : List Value)
    (world : Surroundings) :
    ∃ resolved report, Search resolve sought values resolved world report := by
  induction values generalizing world with
  | nil => exact ⟨[], _, .exhausted world⟩
  | cons value rest ih =>
    rcases hvalue : resolve value world with ⟨failure | result, events, middle⟩
    · exact ⟨_, _, .failed hvalue⟩
    · by_cases hsought : result.isTruthy = sought
      · exact ⟨_, _, .found hvalue hsought⟩
      · obtain ⟨resolved, ⟨found, more, after⟩, hrest⟩ := ih middle
        exact ⟨_, _, .passed hvalue (Bool.eq_not.mpr hsought) hrest⟩

theorem Search.isPrefix (h : Search resolve sought values resolved world report) :
    resolved <+: values := by
  induction h with
  | exhausted => exact List.prefix_rfl
  | found | failed => exact List.prefix_append [_] _
  | passed _ _ _ ih => exact (List.prefix_cons_inj _).mpr ih

-- Values that come to the negations of others are searched for the opposite, and as far as those.
theorem Search.negated {negate : Value → Value}
    (h : Search resolve sought values resolved world report)
    (hnegate : ∀ value ∈ values, ∀ world, (resolve' (negate value) world).Alike Eq
      ((resolve value world).map fun result => .bool !result.isTruthy)) :
    ∃ report', Search resolve' (!sought) (values.map negate) (resolved.map negate) world report' ∧
      report'.Alike Eq report := by
  induction h with
  | exhausted world => exact ⟨_, .exhausted world, .refl _⟩
  | @found value result _ events world _ hvalue hsought =>
    have halike := hnegate value List.mem_cons_self world
    rw [hvalue] at halike
    obtain ⟨others, hothers, hlog⟩ := halike.eq_events
    exact ⟨_, .found hothers (congrArg Bool.not hsought), similarResults_eq_iff.mpr rfl, rfl, hlog⟩
  | @failed value _ failure events world _ hvalue =>
    have halike := hnegate value List.mem_cons_self world
    rw [hvalue] at halike
    obtain ⟨others, hothers, hlog⟩ := halike.eq_events
    exact ⟨_, .failed hothers, similarResults_eq_iff.mpr rfl, rfl, hlog⟩
  | @passed value result _ _ _ events _ world _ _ hvalue hother _ ih =>
    obtain ⟨hfirst, hothers⟩ := List.forall_mem_cons.mp hnegate
    have halike := hfirst world
    rw [hvalue] at halike
    obtain ⟨others, hnegated, hlog⟩ := halike.eq_events
    obtain ⟨⟨found, more, after⟩, hsearch, hrest⟩ := ih hothers
    refine ⟨_, .passed hnegated (congrArg Bool.not hother) hsearch, hrest.result, hrest.after, ?_⟩
    simp only [Event.log_append, hlog, hrest.log]

end Search

end Run

end JsonExpr
