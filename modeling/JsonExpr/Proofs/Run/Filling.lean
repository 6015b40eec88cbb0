import JsonExpr.Proofs.Run.Alike
import JsonExpr.Proofs.Value.Plug

-- What filling a template comes to, in terms of what its holes come to one after the other.
namespace JsonExpr

namespace Run

variable {α β : Type}

-- What comes after a run only matters for the values that the run may return.
theorem bind_congr {run : Run α} {f g : α → Run β} (h : ∀ a, run.Returns a → f a = g a) :
    run.bind f = run.bind g := by
  funext world
  rcases hreport : run world with ⟨failure | a, events, after⟩
  · rw [bind_of_error hreport, bind_of_error hreport]
  · rw [bind_of_ok hreport, bind_of_ok hreport, h a ⟨world, by rw [hreport]⟩]

theorem bind_done_comp (run : Run α) (f : α → β) (world : Surroundings) :
    run.bind (fun a => done (f a)) world =
      ⟨(run world).result.map f, (run world).events, (run world).after⟩ := by
  rcases hreport : run world with ⟨failure | a, events, after⟩
  · exact bind_of_error hreport
  · rw [bind_of_ok hreport]
    simp [done, Except.map]

def inTurn (resolve : Value → Run Value) : List Value → Run (List Value)
  | [] => done []
  | value :: rest => (resolve value).bind fun result =>
    (inTurn resolve rest).bind fun results => done (result :: results)

variable {resolve : Value → Run Value}

theorem inTurn_append (values more : List Value) :
    inTurn resolve (values ++ more) = (inTurn resolve values).bind fun results =>
      (inTurn resolve more).bind fun others => done (results ++ others) := by
  induction values with
  | nil => exact (bind_pure _).symm
  | cons value rest ih => simp only [List.cons_append, inTurn, ih, bind_assoc, bind_done]

theorem inTurn_congr {resolve' : Value → Run Value} {values : List Value}
    (h : ∀ value ∈ values, resolve value = resolve' value) :
    inTurn resolve values = inTurn resolve' values := by
  induction values with
  | nil => rfl
  | cons value rest ih =>
    obtain ⟨hvalue, hrest⟩ := List.forall_mem_cons.mp h
    rw [inTurn, inTurn, hvalue, ih hrest]

theorem Returns.length_eq {values results : List Value}
    (h : (inTurn resolve values).Returns results) : results.length = values.length := by
  induction values generalizing results with
  | nil => rw [h.eq_of_done]
  | cons value rest ih =>
    obtain ⟨result, -, h⟩ := h.of_bind
    obtain ⟨others, hothers, h⟩ := h.of_bind
    rw [h.eq_of_done, List.length_cons, ih hothers, List.length_cons]

end Run

namespace Value

-- Filling a template is resolving its holes in turn and putting the results in their places.
theorem fill_eq (resolve : Value → Run Value) (template : Value) :
    template.fill resolve = (Run.inTurn resolve template.holes).bind fun results =>
      .done (template.plug results) := by
  induction template using induct with
  | null | bool | number | string => rfl
  | array items ih =>
    have hitems : fillItems resolve items = (Run.inTurn resolve (holesOfItems items)).bind
        fun results => .done (plugItems items results) := by
      induction items with
      | nil => rfl
      | cons item rest ihrest =>
        obtain ⟨hitem, hrest⟩ := List.forall_mem_cons.mp ih
        change (item.fill resolve).bind (fun result =>
          (fillItems resolve rest).bind fun results => .done (result :: results)) = _
        rw [hitem, ihrest hrest, holesOfItems, Run.inTurn_append]
        simp only [Run.bind_assoc, Run.bind_done]
        refine Run.bind_congr fun results hresults => ?_
        simp only [plugItems_append item rest hresults.length_eq]
    change (fillItems resolve items).bind (fun results => .done (array results)) = _
    rw [hitems, Run.bind_assoc]
    rfl
  | object fields ih =>
    cases hshape : (object fields).hasExpressionShape with
    | true =>
      simp only [fill, holes, plug, hshape, ite_true, Run.inTurn, Run.bind_assoc, Run.bind_done]
      exact (Run.bind_pure _).symm
    | false =>
      have hfields : fillFields resolve fields = (Run.inTurn resolve (holesOfFields fields)).bind
          fun results => .done (plugFields fields results) := by
        clear hshape
        induction fields with
        | nil => rfl
        | cons entry rest ihrest =>
          obtain ⟨hentry, hrest⟩ := List.forall_mem_cons.mp ih
          obtain ⟨name, value⟩ := entry
          change (value.fill resolve).bind (fun result =>
            (fillFields resolve rest).bind fun results => .done ((name, result) :: results)) = _
          rw [hentry, ihrest hrest, holesOfFields, Run.inTurn_append]
          simp only [Run.bind_assoc, Run.bind_done]
          refine Run.bind_congr fun results hresults => ?_
          simp only [plugFields_append name value rest hresults.length_eq]
      simp only [fill, holes, plug, hshape]
      change (fillFields resolve fields).bind (fun results => .done (object results)) = _
      rw [hfields, Run.bind_assoc]
      rfl

theorem fill_of_isData (resolve : Value → Run Value) {template : Value} (hdata : template.IsData) :
    template.fill resolve = .done template := by
  have hplug := template.plug_holes
  rw [hdata.holes_eq] at hplug
  rw [fill_eq, hdata.holes_eq, Run.inTurn, Run.bind_done, hplug]

end Value

-- What values come to one after the other, each in the surroundings that the one before has left
-- behind, up to the first that fails. It is up to the relation what a single value comes to.
inductive Run.Turns (comes : Value → Surroundings → Report Value → Prop) :
    List Value → Surroundings → Report (List Value) → Prop where
  | nil (world : Surroundings) : Turns comes [] world ⟨.ok [], [], world⟩
  | cons {value result : Value} {rest : List Value} {results : Except Failure (List Value)}
      {events more : List Event} {world middle after : Surroundings}
      (h : comes value world ⟨.ok result, events, middle⟩)
      (hrest : Turns comes rest middle ⟨results, more, after⟩) :
      Turns comes (value :: rest) world ⟨results.map (result :: ·), events ++ more, after⟩
  | failed {value : Value} {rest : List Value} {failure : Failure} {events : List Event}
      {world after : Surroundings} (h : comes value world ⟨.error failure, events, after⟩) :
      Turns comes (value :: rest) world ⟨.error failure, events, after⟩

-- What a template comes to: its skeleton with what the holes come to, or the first failure of a
-- hole, with the events of all holes so far.
def Value.Filling (comes : Value → Surroundings → Report Value → Prop) (template : Value)
    (world : Surroundings) (report : Report Value) : Prop :=
  ∃ results, Run.Turns comes template.holes world ⟨results, report.events, report.after⟩ ∧
    report.result = results.map template.plug

section Turns

variable {resolve : Value → Run Value}

theorem Run.turns_iff {values : List Value} {world : Surroundings}
    {report : Report (List Value)} :
    Turns (fun value world report => resolve value world = report) values world report ↔
      inTurn resolve values world = report := by
  constructor
  · intro h
    induction h with
    | nil => rfl
    | cons h _ ih => rw [inTurn, bind_of_ok h, bind_done_comp, ih]
    | failed h => rw [inTurn, bind_of_error h]
  · rintro rfl
    induction values generalizing world with
    | nil => exact .nil world
    | cons value rest ih =>
      rcases hvalue : resolve value world with ⟨failure | result, events, middle⟩
      · rw [inTurn, bind_of_error hvalue]
        exact .failed hvalue
      · rw [inTurn, bind_of_ok hvalue, bind_done_comp]
        exact .cons hvalue ih

theorem Value.filling_iff {template : Value} {world : Surroundings} {report : Report Value} :
    Filling (fun hole world report => resolve hole world = report) template world report ↔
      template.fill resolve world = report := by
  rw [fill_eq, Run.bind_done_comp]
  simp only [Filling, Run.turns_iff]
  constructor
  · rintro ⟨results, hturns, hresult⟩
    rw [hturns, ← hresult]
  · rintro rfl
    exact ⟨_, rfl, rfl⟩

end Turns

end JsonExpr
