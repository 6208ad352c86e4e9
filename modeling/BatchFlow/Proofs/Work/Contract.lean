import BatchFlow.Proofs.Plan.Runs

/-! Contracts of work: what holds of the exchanges so far and of the state when it begins, and
what holds of them when it ends or is abandoned. -/

namespace BatchFlow.Work

open Plan (Exchange)

variable {σ τ α β : Type}

/-- What may be known of the exchanges so far and of the state. -/
abbrev Fact (σ : Type) : Type := List Exchange → σ → Prop

/-- Begun after exchanges and in a state of which `before` holds, the work leaves exchanges and a
state of which `done` holds with its result, or `abandoned` with its failure. -/
structure Fulfils (work : Work σ α) (before : Fact σ) (done : α → Fact σ)
    (abandoned : RouteFailure → Fact σ) : Prop where
  ends : ∀ {past state trace after value}, before past state →
    (work state).Runs trace (after, .ok value) → done value (past ++ trace) after
  stops : ∀ {past state trace after failure}, before past state →
    (work state).Runs trace (after, .error failure) → abandoned failure (past ++ trace) after

/-- Whatever comes of the work, what held before still holds. -/
abbrev Keeps (work : Work σ α) (fact : Fact σ) : Prop :=
  work.Fulfils fact (fun _ => fact) fun _ => fact

variable {before : Fact σ} {done : α → Fact σ} {abandoned : RouteFailure → Fact σ}

/-- A contract may ask for more than is needed and promise less than is kept. -/
theorem Fulfils.weaken {work : Work σ α} {needed : Fact σ} {kept : α → Fact σ}
    {left : RouteFailure → Fact σ} (contract : work.Fulfils needed kept left)
    (asked : ∀ {past state}, before past state → needed past state)
    (promised : ∀ {value past state}, kept value past state → done value past state)
    (undone : ∀ {failure past state}, left failure past state → abandoned failure past state) :
    work.Fulfils before done abandoned where
  ends held runs := promised (contract.ends (asked held) runs)
  stops held runs := undone (contract.stops (asked held) runs)

/-- A result that is there already costs nothing. -/
theorem fulfils_pure {value : α}
    (held : ∀ {past state}, before past state → done value past state) :
    (pure value : Work σ α).Fulfils before done abandoned where
  ends given runs := by
    obtain ⟨rfl, same⟩ := Plan.runs_done_iff.mp runs
    cases same
    simpa using held given
  -- Nothing is asked, and no failure comes of a value.
  stops _ runs := by
    obtain ⟨_, same⟩ := Plan.runs_done_iff.mp runs
    cases same

/-- Abandoned work leaves everything as it is. -/
theorem fulfils_abandon {failure : RouteFailure}
    (held : ∀ {past state}, before past state → abandoned failure past state) :
    (abandon failure : Work σ α).Fulfils before done abandoned where
  ends _ runs := by
    obtain ⟨_, same⟩ := Plan.runs_done_iff.mp runs
    cases same
  stops given runs := by
    obtain ⟨rfl, same⟩ := Plan.runs_done_iff.mp runs
    cases same
    simpa using held given

/-- Work beyond the allowance fulfils every contract, because it never ends. -/
theorem fulfils_starve : (starve : Work σ α).Fulfils before done abandoned where
  ends _ runs := absurd runs Plan.not_runs_starved
  stops _ runs := absurd runs Plan.not_runs_starved

/-- A change of the state adds no exchange. -/
theorem fulfils_modify {change : σ → σ} {done : Unit → Fact σ}
    (held : ∀ {past state}, before past state → done () past (change state)) :
    (modify change).Fulfils before done abandoned where
  ends given runs := by
    obtain ⟨rfl, same⟩ := Plan.runs_done_iff.mp runs
    cases same
    simpa using held given
  stops _ runs := by
    obtain ⟨_, same⟩ := Plan.runs_done_iff.mp runs
    cases same

/-- A question adds itself with its answer, and leaves the state alone. -/
theorem fulfils_call {question : Call} {done : question.Reply → Fact σ}
    (held : ∀ {past state} (reply : question.Reply), before past state →
      done reply (past ++ [⟨question, reply⟩]) state) :
    (call question : Work σ question.Reply).Fulfils before done abandoned where
  ends given runs := by
    obtain ⟨reply, rest, rfl, more⟩ := Plan.runs_ask_iff.mp runs
    -- After its one question, the work is done with the answer.
    obtain ⟨rfl, same⟩ := Plan.runs_done_iff.mp more
    cases same
    exact held _ given
  stops _ runs := by
    obtain ⟨reply, rest, _, more⟩ := Plan.runs_ask_iff.mp runs
    obtain ⟨_, same⟩ := Plan.runs_done_iff.mp more
    cases same

/-- One piece of work after another: what the first one leaves is what the second one needs. -/
theorem Fulfils.bind {work : Work σ α} {next : α → Work σ β} {middle : α → Fact σ}
    {done : β → Fact σ} (first : work.Fulfils before middle abandoned)
    (second : ∀ value, (next value).Fulfils (middle value) done abandoned) :
    (work >>= next).Fulfils before done abandoned where
  ends given runs := by
    -- The run splits between the two parts, and the second begins where the first one ended.
    obtain ⟨value, between, early, late, rfl, ran, more⟩ := runs_bind_ok_iff.mp runs
    rw [← List.append_assoc]
    exact (second value).ends (first.ends given ran) more
  stops given runs := by
    rcases runs_bind_error_iff.mp runs with raised | ⟨value, between, early, late, rfl, ran, more⟩
    · -- A failure in the first part is the failure of the whole.
      exact first.stops given raised
    · -- Otherwise the second part was begun as it needs to be.
      rw [← List.append_assoc]
      exact (second value).stops (first.ends given ran) more

/-- What every element's work keeps is kept by going through all of them. -/
theorem fulfils_forEach {elements : List α} {work : α → Work σ Unit} {fact : Fact σ}
    (each : ∀ element ∈ elements, (work element).Fulfils fact (fun _ => fact) abandoned) :
    (forEach elements work).Fulfils fact (fun _ => fact) abandoned := by
  -- What is kept holds again before each further element.
  induction elements with
  | nil => exact fulfils_pure id
  | cons element rest ih =>
    have first := each element (by simp)
    have others := ih fun later member => each later (by simp [member])
    exact first.bind fun _ => others

/-- Work on a part of the state promises of the whole what it promises of the part. -/
theorem fulfils_onPart {get : τ → σ} {set : σ → τ → τ}
    (got : ∀ part whole, get (set part whole) = part) {work : Work σ α}
    (contract : work.Fulfils before done abandoned) :
    (work.onPart get set).Fulfils (fun past whole => before past (get whole))
      (fun value past whole => done value past (get whole))
      (fun failure past whole => abandoned failure past (get whole)) where
  ends given runs := by
    -- The part is what the state is seen through, before and after.
    obtain ⟨part, ran, rfl⟩ := runs_onPart_iff.mp runs
    simpa only [got] using contract.ends given ran
  stops given runs := by
    obtain ⟨part, ran, rfl⟩ := runs_onPart_iff.mp runs
    simpa only [got] using contract.stops given ran

/-- A step that may be faulty promises what it leaves with its result and with its fault. -/
theorem fulfils_ofFaulty {step : σ → Plan (σ × Except TransactionFault α)}
    (fine : ∀ {past state trace after value}, before past state →
      (step state).Runs trace (after, .ok value) → done value (past ++ trace) after)
    (faulty : ∀ {past state trace after fault}, before past state →
      (step state).Runs trace (after, .error fault) →
      abandoned (.transaction fault) (past ++ trace) after) :
    (ofFaulty step).Fulfils before done abandoned where
  ends given runs := by
    -- A result of the step is a result of the work, and a fault of the step a failure.
    obtain ⟨outcome, ran, same⟩ := runs_ofFaulty_iff.mp runs
    cases outcome with
    | error fault => cases same
    | ok value =>
      cases same
      exact fine given ran
  stops given runs := by
    obtain ⟨outcome, ran, same⟩ := runs_ofFaulty_iff.mp runs
    cases outcome with
    | error fault =>
      cases same
      exact faulty given ran
    | ok value => cases same

end BatchFlow.Work
