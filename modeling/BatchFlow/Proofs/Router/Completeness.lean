import BatchFlow.Proofs.Router.Atomicity
import BatchFlow.Proofs.Router.Shipment

/-! Whatever a node returned went to all of its destinations or stopped where it was returned, and
nothing else was handed on or recorded. -/

namespace BatchFlow

open Plan (Exchange)

/-- What a part of a walk adds to the accounts of a traversal. -/
structure Adds (before : Traversal) (trace : List Exchange) (after : Traversal)
    (ledger : Ledger) : Prop where
  visits : after.visits = before.visits ++ ledger.visits
  calls : trace.filter isAppliedCall = ledger.calls
  outputs : after.outputs = before.outputs ++ ledger.outputs
  discards : after.discards = before.discards ++ ledger.discards
  unhandled : after.unhandled = before.unhandled ++ ledger.unhandled

namespace Adds

variable {before middle after : Traversal} {trace : List Exchange} {ledger : Ledger}

/-- A part of a walk that asks no collaborator and only works on the transaction adds nothing. -/
theorem nothing (quiet : trace.filter isAppliedCall = []) (transaction : Transaction) :
    Adds before trace { before with transaction } .empty where
  visits := (List.append_nil _).symm
  calls := quiet
  outputs := (List.append_nil _).symm
  discards := (List.append_nil _).symm
  unhandled := (List.append_nil _).symm

/-- One part of a walk adds its account after that of another. -/
theorem append {first rest : List Exchange} {early late : Ledger}
    (one : Adds before first middle early) (other : Adds middle rest after late) :
    Adds before (first ++ rest) after (early ++ late) where
  -- Each of the five lists is a concatenation, so that only the brackets move.
  visits := by rw [other.visits, one.visits, List.append_assoc]; rfl
  calls := by rw [List.filter_append, one.calls, other.calls]; rfl
  outputs := by rw [other.outputs, one.outputs, List.append_assoc]; rfl
  discards := by rw [other.discards, one.discards, List.append_assoc]; rfl
  unhandled := by rw [other.unhandled, one.unhandled, List.append_assoc]; rfl

/-- Going through a list adds the accounts of its elements, in order. Each element leaves a piece
behind, and the pieces can be told by their labels. -/
theorem forEach {α β γ : Type} {elements : List α} {work : α → Work Traversal Unit}
    {wrap : α → γ} {label : β → γ} {good : β → Prop} {account : β → Ledger}
    (each : ∀ element, ∀ {before after trace}, (work element before).Runs trace (after, .ok ()) →
      ∃ piece, label piece = wrap element ∧ good piece ∧ Adds before trace after (account piece))
    (runs : (Work.forEach elements work before).Runs trace (after, .ok ())) :
    ∃ pieces : List β, pieces.map label = elements.map wrap ∧ (∀ piece ∈ pieces, good piece) ∧
      Adds before trace after (.all (pieces.map account)) := by
  induction elements generalizing before trace with
  | nil =>
    -- Where nothing is gone through, nothing is left behind.
    obtain ⟨rfl, same⟩ := Plan.runs_done_iff.mp runs
    cases same
    exact ⟨[], rfl, by simp, nothing rfl after.transaction⟩
  | cons element rest ih =>
    -- The first element leaves its piece, and the others leave theirs after it.
    obtain ⟨_, between, first, last, rfl, ran, more⟩ := Work.runs_bind_ok_iff.mp runs
    obtain ⟨piece, labelled, fine, one⟩ := each element ran
    obtain ⟨pieces, labels, others, all⟩ := ih more
    refine ⟨piece :: pieces, by simp [labelled, labels], ?_, one.append all⟩
    simpa using ⟨fine, others⟩

end Adds

namespace Router

variable {before after : Traversal} {trace : List Exchange} {trail : List String} {node : Node}
  {message : Message}

/-- A visit adds one application. -/
theorem visit_adds {response : Response}
    (runs : (visit trail node message before).Runs trace (after, .ok response)) :
    Application.IsOf ⟨message, trace, response⟩ node ∧
      Adds before trace after (Shipment.applied trail [⟨message, trace, response⟩]) := by
  obtain ⟨transaction, applied, rfl⟩ := visit_runs_iff.mp runs
  -- The node was applied in the transaction that it found.
  refine ⟨⟨before.transaction, transaction, applied⟩, ?_⟩
  constructor
  -- The visit is what the traversal noted, and the questions are those of its own trace.
  case visits => rfl
  case calls => simp [Shipment.applied]
  all_goals exact (List.append_nil _).symm

/-- Visits to a node with one item each add as many applications, whose responses are merged in
order. -/
theorem visitEach_adds {start response : Response} {items : List Item}
    (runs : (visitEach trail node message start items before).Runs trace (after, .ok response)) :
    ∃ applications : List Application,
      applications.map (·.message) = items.map message.single ∧
      (∀ application ∈ applications, application.IsOf node) ∧
      response = (applications.map (·.response)).foldl .merge start ∧
      Adds before trace after (Shipment.applied trail applications) := by
  -- The response so far changes from item to item, so it is general in the induction.
  induction items generalizing before trace start with
  -- Without items there is no application, and the response is the one it began with.
  | nil =>
    obtain ⟨rfl, same⟩ := Plan.runs_done_iff.mp runs
    cases same
    exact ⟨[], rfl, by simp, rfl, Adds.nothing rfl after.transaction⟩
  | cons item rest ih =>
    -- The first item makes one application, and the rest goes on with its response.
    obtain ⟨next, between, first, last, rfl, ran, more⟩ := Work.runs_bind_ok_iff.mp runs
    obtain ⟨own, one⟩ := visit_adds ran
    obtain ⟨applications, messages, owns, merged, others⟩ := ih more
    refine ⟨⟨message.single item, first, next⟩ :: applications, by simp [messages],
      by simpa using ⟨own, owns⟩, by simpa using merged, ?_⟩
    rw [Shipment.applied_cons]
    exact one.append others

/-- Applying a node to a message in the way it accepts adds one application for each part. -/
theorem apply_adds {response : Response}
    (runs : (apply trail node message before).Runs trace (after, .ok response)) :
    ∃ applications : List Application,
      applications.map (·.message) = node.parts message ∧
      (∀ application ∈ applications, application.IsOf node) ∧
      response = .joined (applications.map (·.response)) ∧
      Adds before trace after (Shipment.applied trail applications) := by
  unfold apply at runs
  unfold Node.parts
  split at runs
  · -- The message is passed on whole, which is one application.
    rename_i whole
    obtain ⟨own, one⟩ := visit_adds runs
    exact ⟨[⟨message, trace, response⟩], by simp [whole], by simpa using own, rfl, one⟩
  · -- Every item is passed on by itself.
    rename_i several
    obtain ⟨applications, messages, owns, merged, adds⟩ := visitEach_adds runs
    refine ⟨applications, by simp [several, messages], owns, ?_, adds⟩
    -- There are at least two responses, so they are indeed merged.
    have many : 2 ≤ applications.length := by
      have same : applications.length = message.data.length := by
        simpa using congrArg List.length messages
      simp only [Bool.or_eq_true, decide_eq_true_eq, not_or] at several
      omega
    obtain ⟨one, two, rest, rfl⟩ : ∃ one two rest, applications = one :: two :: rest := by
      match applications, many with
      | one :: two :: rest, _ => exact ⟨one, two, rest, rfl⟩
    exact merged

/-- Whatever ends a walk asks no collaborator. -/
theorem filter_closing (closing : Closing trace) : trace.filter isAppliedCall = [] := by
  -- The questions of the end are commits, rollbacks, reports and the clock.
  refine List.filter_eq_nil_iff.mpr fun exchange member => ?_
  obtain ⟨call, reply⟩ := exchange
  have late := closing _ member
  cases call <;> simp [Call.isClosing, isAppliedCall, Call.applied?] at late ⊢

/-- A walk that is resolved well went well, and its results are its accounts. -/
theorem resolve_adds {start : Duration} {walked : Except RouteFailure Unit} {results : Terminal}
    (runs : (resolve message start (before, walked)).Runs trace (after, .ok results)) :
    walked = .ok () ∧ Adds before trace after .empty ∧ results.outputs = before.outputs ∧
      results.discards = before.discards ∧ results.unhandled = before.unhandled := by
  cases walked with
  | error failure =>
    -- A walk that failed has no results.
    obtain ⟨_, _, _, _, _, _, same⟩ := resolve_error_runs runs
    cases same
  | ok _ =>
    -- The results are taken from the traversal before the commit.
    obtain ⟨transaction, _, asked, now, event, committing, rfl, rfl, same⟩ := resolve_ok_runs runs
    cases same
    obtain ⟨closing, _⟩ := Transaction.commit_commits committing
    refine ⟨rfl, Adds.nothing (filter_closing ?_) transaction, rfl, rfl, rfl⟩
    exact closing.append ((closing_nil.cons rfl).cons rfl)

end Router

end BatchFlow
