import BatchFlow.Proofs.Router.Lineage
import BatchFlow.Proofs.Work.Results

/-! What a walk has done by some moment is done in one that comes to an end, if that may go one step
deeper. So what is true of all walks that end is true at all moments of any walk. -/

namespace BatchFlow

open Plan (Exchange)

namespace Plan

variable {α β ρ : Type}

/-- The plan asks what the whole asks until it is over, or until its allowance does not suffice,
where the whole can come to an end. -/
def Shortens : Plan ρ → Plan ρ → Prop
  | done result, whole => whole = done result
  | ask call next, whole => ∃ further : call.Reply → Plan ρ, whole = ask call further ∧
      ∀ reply, Shortens (next reply) (further reply)
  | starved, whole => ∃ trace result, whole.Runs trace result

variable {plan whole rest : Plan ρ} {trace : List Exchange}

/-- What a plan shortens can come to an end. -/
theorem Shortens.exists_run (shortens : plan.Shortens whole) :
    ∃ trace result, whole.Runs trace result := by
  induction plan generalizing whole with
  | done result =>
    cases shortens
    exact ⟨[], result, .done result⟩
  | ask call next ih =>
    -- Any answer will do.
    obtain ⟨further, rfl, shorter⟩ := shortens
    obtain ⟨trace, result, runs⟩ := ih _ (shorter (uneventful call))
    exact ⟨_, result, .ask call further _ trace result runs⟩
  | starved => exact shortens

/-- As far as a plan is followed, what it shortens can be followed as well, and on to an end. -/
theorem Shortens.completes (shortens : plan.Shortens whole) (reaches : plan.Reaches trace rest) :
    ∃ more result, whole.Runs (trace ++ more) result := by
  -- Followed to its end, the whole goes on from where the shorter plan was left.
  induction reaches generalizing whole with
  | start plan => exact shortens.exists_run
  | ask call next reply trace rest _ ih =>
    obtain ⟨further, rfl, shorter⟩ := shortens
    obtain ⟨more, result, runs⟩ := ih (shorter reply)
    exact ⟨more, result, .ask call further reply _ result runs⟩

/-- A plan that comes to an end is all that it shortens. -/
theorem Ends.shortens (ends : plan.Ends) : plan.Shortens plan := by
  -- Lack of fuel is the only thing that a shorter plan may have instead.
  induction plan with
  | done result => rfl
  | ask call next ih => exact ⟨next, rfl, fun reply => ih reply (ends reply)⟩
  | starved => exact ends.elim

/-- One plan after another shortens what is put together in the same way. -/
theorem Shortens.bind {plan whole : Plan α} {next further : α → Plan β}
    (first : plan.Shortens whole) (second : ∀ value, (next value).Shortens (further value)) :
    (plan.bind next).Shortens (whole.bind further) := by
  -- The first plan is followed as long as it lasts, together with the one that it shortens.
  induction plan generalizing whole with
  | done value =>
    cases first
    exact second value
  | ask call rest ih =>
    obtain ⟨later, rfl, shorter⟩ := first
    exact ⟨fun reply => (later reply).bind further, rfl, fun reply => ih reply (shorter reply)⟩
  | starved =>
    -- The whole goes on to the second part, which can come to an end like the first.
    obtain ⟨trace, value, runs⟩ := first
    obtain ⟨more, result, ended⟩ := (second value).exists_run
    exact ⟨trace ++ more, result, runs_bind_iff.mpr ⟨value, trace, more, rfl, runs, ended⟩⟩

/-- The answers of surroundings in which nothing fails, and nothing is made of anything. -/
def unproductive : (call : Call) → call.Reply
  | .applyStep .. | .enrichItem .. => .ok []
  | call => uneventful call

/-- The answer is one of surroundings in which nothing is made of anything. -/
def Exchange.IsUnproductive (exchange : Exchange) : Prop :=
  exchange.reply = unproductive exchange.call

end Plan

open Plan.Exchange (IsUnproductive)

namespace Work

variable {σ α β : Type}

/-- In whatever state it begins, the work asks what the whole asks until its allowance does not
suffice. -/
def Shortens (work whole : Work σ α) : Prop := ∀ state, (work state).Shortens (whole state)

/-- Work that comes to an end in any case is all that it shortens. -/
theorem Confined.shortens {work : Work σ α} (confined : work.Confined .any fun _ => True) :
    work.Shortens work :=
  fun state => (Plan.Confined.comesToAnEnd (confined state trivial)).shortens

/-- A change that is reported first has nothing to do with how deep a walk may go. -/
theorem reported_shortens (event : Event) (change : σ → σ) :
    (do log event; modify change : Work σ Unit).Shortens (do log event; modify change) :=
  Confined.shortens (Confined.bind (confined_call trivial) fun _ =>
    confined_modify fun _ _ => trivial)

/-- One piece of work after another shortens what is put together in the same way. -/
theorem Shortens.bind {work whole : Work σ α} {next further : α → Work σ β}
    (first : work.Shortens whole) (second : ∀ value, (next value).Shortens (further value)) :
    (work >>= next).Shortens (whole >>= further) := by
  refine fun state => Plan.Shortens.bind (first state) fun ended => ?_
  obtain ⟨after, outcome⟩ := ended
  cases outcome with
  | ok value => exact second value after
  -- What fails in the first part is over in either case.
  | error failure => rfl

/-- Work on element after element does, if the work on each of them does. -/
theorem shortens_forEach {elements : List α} {work whole : α → Work σ Unit}
    (each : ∀ element, (work element).Shortens (whole element)) :
    (forEach elements work).Shortens (forEach elements whole) := by
  induction elements with
  | nil => exact fun _ => rfl
  | cons element rest ih => exact (each element).bind fun _ => ih

end Work

namespace Node

/-- A node whose collaborator makes nothing of anything has nothing to respond. -/
theorem apply_unproductive (node : Node) (message : Message) :
    (node.apply message).Leads IsUnproductive (· = .empty) := by
  refine apply_leads ?_
  -- That nothing was made of an item adds nothing to the response.
  have files : ∀ response item result, response = Response.empty → result = .ok [] →
      (node.classify message response item result : Work Transaction Response).Leads
        IsUnproductive (· = .empty) := by
    rintro _ item _ rfl rfl
    exact Work.leads_pure rfl
  unfold perform
  split
  · -- A step makes nothing of each item.
    exact Work.leads_call_bind fun _ _ =>
      applyEach_leads (fun item _ => Work.leads_call fun _ given => given) files rfl
  · refine Work.leads_call_bind fun reply given => ?_
    -- A sink replies with nothing.
    cases given
    exact Work.leads_pure rfl
  · -- An enricher reads whatever there is to read, and makes nothing of the item.
    refine applyEach_leads (fun item _ => Work.leads_call_bind fun parameters _ => ?_) files rfl
    have reports : (node.reportMissing parameters : Work Transaction Unit).Leads IsUnproductive
        fun _ => True := (node.reportMissing_confined message parameters).leads False.elim
    refine reports.bind fun _ _ => Work.leads_call_bind fun outcome given => ?_
    cases given
    exact Work.leads_log_bind (Work.leads_call fun _ given => given)

end Node

namespace Router

variable {router : Router} {trail : List String} {node : Node} {message : Message}

/-- A visit has nothing to respond where nothing is made of anything. -/
theorem visit_unproductive (trail : List String) (node : Node) (message : Message) :
    (visit trail node message).Leads IsUnproductive (· = .empty) := fun traversal =>
  Plan.Yields.bind (node.apply_unproductive message traversal.transaction) fun _ kept => kept

/-- Nor have visits with one item after the other. -/
theorem visitEach_unproductive (items : List Item) :
    (visitEach trail node message .empty items).Leads IsUnproductive (· = .empty) := by
  -- After each visit the response is as empty as before.
  induction items with
  | nil => exact Work.leads_pure rfl
  | cons item rest ih =>
    refine (visit_unproductive trail node _).bind fun response same => ?_
    cases same
    exact ih

/-- A walk that may go one step deep ends there if nothing is made of what it hands on. -/
theorem dispatch_unproductive (router : Router) (trail : List String) (message : Message)
    (destinations : List String) :
    (router.dispatch 1 trail message destinations).Leads IsUnproductive fun _ => True := by
  refine Work.leads_forEach fun destination _ => ?_
  unfold handTo
  cases router.nodes.get? destination with
  | none => exact Work.leads_abandon
  | some node =>
    have applied : (apply (trail ++ [node.id]) node message).Leads IsUnproductive
        (· = .empty) := by
      unfold apply
      split
      · exact visit_unproductive _ node message
      · exact visitEach_unproductive _
    refine applied.bind fun response same => ?_
    cases same
    -- An empty response has nothing on any of the three channels.
    have nothing : (pure () : Work Traversal Unit).Leads IsUnproductive fun _ => True :=
      Work.leads_pure trivial
    exact nothing.bind fun _ _ => nothing.bind fun _ _ => nothing

/-- A node is applied in the same way however deep a walk may go on. -/
theorem apply_shortens (trail : List String) (node : Node) (message : Message) :
    (apply trail node message).Shortens (apply trail node message) := by
  have applies : Applies .any (fun _ => True) trail node :=
    ⟨⟨Work.Bounds.any_open, fun _ _ => trivial, fun _ => trivial⟩, fun _ _ _ _ _ _ => trivial⟩
  exact (applies.apply message).shortens

/-- What a node returned is followed in the same way as long as the walk may go on from there. -/
theorem follow_shortens {descend deeper : Descent} (response : Response)
    (shortens : ∀ message destinations,
      (descend message destinations).Shortens (deeper message destinations)) :
    (router.follow descend node message response).Shortens
      (router.follow deeper node message response) := by
  -- What stops at the node stops in either walk, and what goes on does so as far as it may.
  have output : (router.followOutput descend node message response.output).Shortens
      (router.followOutput deeper node message response.output) := by
    unfold followOutput
    dsimp only
    -- Either there is no output, or it stops here, or it goes on.
    split
    · exact Work.Confined.shortens Work.confined_pure
    · split
      · exact Work.reported_shortens _ _
      · exact shortens _ _
  have discard : ∀ batch, (router.followDiscard descend node message batch).Shortens
      (router.followDiscard deeper node message batch) := by
    intro batch
    unfold followDiscard
    dsimp only
    split
    · exact Work.reported_shortens _ _
    · exact shortens _ _
  have error : ∀ batch, (router.followError descend node message batch).Shortens
      (router.followError deeper node message batch) := by
    intro batch
    unfold followError
    dsimp only
    split
    · -- Errors without a route stop here if that is tolerated, and fail the walk otherwise.
      unfold unrouted
      split
      · exact Work.reported_shortens _ _
      · exact Work.Confined.shortens (Work.Confined.bind (Work.confined_call trivial) fun _ =>
          Work.confined_abandon trivial)
    · exact shortens _ _
  exact output.bind fun _ => (Work.shortens_forEach discard).bind fun _ =>
    Work.shortens_forEach error

/-- A walk goes on in the same way if it may go one step deeper, and can then come to an end where
it could not go on. -/
theorem dispatch_shortens (router : Router) (depth : Nat) (trail : List String) (message : Message)
    (destinations : List String) :
    (router.dispatch depth trail message destinations).Shortens
      (router.dispatch (depth + 1) trail message destinations) := by
  induction depth generalizing trail message destinations with
  | zero =>
    -- Here the shorter walk is at its end, and the other one has a single step left.
    intro traversal
    have leads := router.dispatch_unproductive trail message destinations traversal
    exact leads.exists_run Plan.unproductive fun _ => rfl
  | succ depth ih =>
    refine Work.shortens_forEach fun destination => ?_
    unfold handTo
    cases router.nodes.get? destination with
    | none => exact fun _ => rfl
    | some node =>
      exact (apply_shortens _ node message).bind fun response =>
        follow_shortens response fun message destinations => ih _ message destinations

/-- A traversal goes on in the same way if it may go one step deeper. -/
theorem traverse_shortens (router : Router) (depth : Nat) (message : Message) :
    (router.traverse depth message).Shortens (router.traverse (depth + 1) message) := by
  have free := Work.Bounds.any_open
  have shared : ∀ {work : Work Transaction Unit}, work.Confined .any (fun _ => True) →
      (Traversal.onTransaction work).Shortens (Traversal.onTransaction work) := fun confined =>
    Work.Confined.shortens (Work.confined_onPart confined fun _ _ _ => trivial)
  have origin : (enlistOrigin message).Shortens (enlistOrigin message) := by
    unfold enlistOrigin
    split
    · exact shared (free.ofFaulty fun transaction => transaction.enlist_confined _)
    · exact Work.Confined.shortens Work.confined_pure
  -- Only the dispatch of what the producer yielded goes down into the topology.
  have departs : (router.depart depth message).Shortens (router.depart (depth + 1) message) := by
    unfold depart
    dsimp only
    split
    · exact Work.reported_shortens _ _
    · exact router.dispatch_shortens depth [] message _
  exact origin.bind fun _ => departs.bind fun _ => shared (free.delist message.origin)

/-- However far a walk has come, there is a walk that has come there as well and then comes to an
end: one that may go one step deeper. -/
theorem walk_completes {router : Router} {depth : Nat} {message : Message} {trace : List Exchange}
    {rest : Plan (Traversal × Except RouteFailure Terminal)}
    (reaches : (router.walk depth message).Reaches trace rest) :
    ∃ more traversal result,
      (router.walk (depth + 1) message).Runs (trace ++ more) (traversal, result) := by
  have shortens : (router.walk depth message).Shortens (router.walk (depth + 1) message) := by
    -- A number, a report and a look at the clock come before the first node.
    refine ⟨_, rfl, fun id => ⟨_, rfl, fun _ => ⟨_, rfl, fun start => ?_⟩⟩⟩
    refine (router.traverse_shortens depth _ _).bind fun ended => ?_
    exact (resolve_aside start ended.1 ended.2).comesToAnEnd.shortens
  obtain ⟨more, ⟨traversal, result⟩, runs⟩ := shortens.completes reaches
  exact ⟨more, traversal, result, runs⟩

end Router

end BatchFlow
