import BatchFlow.Proofs.Node.Calls
import BatchFlow.Proofs.Transaction.Operations
import BatchFlow.Router

/-! However a traversal goes, its transaction is finished at the end, and the calls on the resources
that took part have one of three shapes: all of them committed, all were rolled back because one
could not commit, or all were rolled back because the walk failed. -/

namespace BatchFlow

open Plan (Exchange)
open ResourceCall (inTrace)
open Work (Fact)

/-- While a node works on a message, no resource is called. -/
theorem inTrace_serving {node : String} {message : Message} {trace : List Exchange}
    (serves : ∀ exchange ∈ trace, exchange.call.Serves node message) : inTrace trace = [] := by
  -- None of the questions to a collaborator is a call on a resource.
  refine List.filterMap_eq_nil_iff.mpr fun exchange member => ?_
  obtain ⟨call, reply⟩ := exchange
  rcases (serves _ member).own with applied | ⟨event, same⟩
  · -- A question to a collaborator is not to a resource, and a report is not either.
    cases call <;> first | rfl | simp [Call.applied?] at applied
  · cases same
    rfl

namespace Transaction

variable {transaction : Transaction} {trace : List Exchange} {waiting : List Nat}

/-- What holds while a traversal is under way: the transaction is active, and those that take part
are the resources that have begun, each of them once. -/
structure Underway (trace : List Exchange) (transaction : Transaction) : Prop where
  active : transaction.phase = .active
  begun : inTrace trace = transaction.enlisted.map (.began · (.ok ()))
  distinct : transaction.keys.Nodup

/-- What holds when a traversal stops early: in addition, one resource may have been refused its
begin, and it does not take part. -/
structure Halted (trace : List Exchange) (transaction : Transaction) : Prop where
  active : transaction.phase = .active
  distinct : transaction.keys.Nodup
  begun : ∃ refused : List (Resource × Condition), refused.length ≤ 1 ∧
    (∀ pair ∈ refused, pair.1.key ∉ transaction.keys) ∧
    inTrace trace = transaction.enlisted.map (.began · (.ok ())) ++
      refused.map fun pair => .began pair.1 (.error pair.2)

/-- Only resources with these keys may still have work to do. -/
def Waiting (keys : List Nat) (transaction : Transaction) : Prop :=
  ∀ entry ∈ transaction.resources, entry.delisted = true ∨ entry.resource.key ∈ keys

/-- A transaction under way, in which only resources with these keys may have work to do. -/
def Open (keys : List Nat) : Fact Transaction :=
  fun past transaction => Underway past transaction ∧ Waiting keys transaction

/-- A traversal may stop at any moment. -/
theorem Underway.halted (underway : Underway trace transaction) : Halted trace transaction where
  active := underway.active
  distinct := underway.distinct
  begun := ⟨[], by simp, by simp, by simpa using underway.begun⟩

/-- Exchanges that call no resource change nothing. -/
theorem Underway.append (underway : Underway trace transaction) {more : List Exchange}
    (quiet : inTrace more = []) : Underway (trace ++ more) transaction where
  active := underway.active
  begun := by simp [quiet, underway.begun]
  distinct := underway.distinct

/-- An open transaction stays as open while no resource is called. -/
theorem Open.append (opened : Open waiting trace transaction) {more : List Exchange}
    (quiet : inTrace more = []) : Open waiting (trace ++ more) transaction :=
  ⟨opened.1.append quiet, opened.2⟩

/-- A transaction that was just opened is under way, with nobody in it. -/
theorem underway_opened (id : Nat) {trace : List Exchange} (quiet : inTrace trace = []) :
    Underway trace (.opened id) where
  active := rfl
  begun := quiet
  distinct := by simp [keys, opened]

/-- Marking a resource as done settles it, because its key is there only once. -/
theorem waiting_markDone {resource : Resource} {entries : List Enlisted}
    (distinct : (entries.map (·.resource.key)).Nodup)
    (settled : ∀ entry ∈ entries,
      entry.delisted = true ∨ entry.resource.key ∈ resource.key :: waiting) :
    ∀ entry ∈ markDone resource entries, entry.delisted = true ∨ entry.resource.key ∈ waiting := by
  -- The entries are walked until the first with the key, which is the one that is marked.
  induction entries with
  | nil => simp [markDone]
  | cons first rest ih =>
    obtain ⟨apart, distinct⟩ := List.nodup_cons.mp distinct
    intro entry member
    by_cases same : first.resource.key = resource.key
    · -- The first entry is the one, so no later entry has its key.
      simp only [markDone, same, if_true, List.mem_cons] at member
      -- The marked entry itself is done.
      rcases member with rfl | member
      · exact .inl rfl
      · -- A later entry was settled before, or has another key than the marked one.
        rcases settled entry (by simp [member]) with done | keyed
        · exact .inl done
        · rcases List.mem_cons.mp keyed with equal | keyed
          · exact absurd (List.mem_map.mpr ⟨entry, member, equal.trans same.symm⟩) apart
          · exact .inr keyed
    · -- The first entry is another one, and stays as it was.
      simp only [markDone, same, if_false, List.mem_cons] at member
      rcases member with rfl | member
      · rcases settled entry (by simp) with done | keyed
        · exact .inl done
        · exact .inr ((List.mem_cons.mp keyed).resolve_left same)
      · exact ih distinct (fun later member => settled later (by simp [member])) entry member

/-- A resource that enlists takes part, and has work to do from then on. -/
theorem enlist_fulfils (resource : Resource) :
    (Work.ofFaulty (·.enlist resource)).Fulfils (Open waiting)
      (fun _ => Open (resource.key :: waiting)) (fun _ => Halted) := by
  apply Work.fulfils_ofFaulty
  · -- If all goes well, the resource is among those with work to do.
    rintro past transaction trace after _ ⟨underway, waits⟩ runs
    have more : Waiting (resource.key :: waiting) transaction := fun entry member =>
      (waits entry member).imp_right (List.mem_cons_of_mem _)
    cases enlist_enlists runs with
    -- It took part already, and only its work is taken up again.
    | again => exact ⟨underway.append rfl, more⟩
    | begun active absent =>
      -- It is new, so that the keys stay distinct, and it is the last to begin.
      have apart : ∀ entry ∈ transaction.resources, entry.resource.key ≠ resource.key := by
        simpa [keys] using absent
      refine ⟨⟨active, ?_, ?_⟩, ?_⟩
      · simp [underway.begun, enlisted]
      · simpa [keys, List.nodup_append] using ⟨underway.distinct, apart⟩
      · -- The old entries wait for what they waited for, and the new one for its own work.
        intro entry member
        rcases List.mem_append.mp member with old | new
        · exact more entry old
        · cases List.mem_singleton.mp new
          exact .inr (by simp)
  · -- If it goes wrong, the transaction halts, and the resource that was refused is the one.
    rintro past transaction trace after fault ⟨underway, waits⟩ runs
    cases enlist_enlists runs with
    | refused inactive => exact absurd underway.active inactive
    | failed active absent cause =>
      refine ⟨active, underway.distinct, [(resource, cause)], by simp, ?_, ?_⟩
      · simpa using absent
      · simp [underway.begun]

/-- A resource that is delisted has no work left to do. -/
theorem delist_fulfils (resource : Resource) :
    (Work.ofFaulty fun transaction => .done (transaction.delist resource)).Fulfils
      (Open (resource.key :: waiting)) (fun _ => Open waiting) (fun _ => Halted) := by
  apply Work.fulfils_ofFaulty
  · -- Marking changes neither who takes part nor who began.
    rintro past transaction trace after _ ⟨underway, waits⟩ runs
    obtain ⟨rfl, same⟩ := Plan.runs_done_iff.mp runs
    by_cases member : transaction.includes resource = true
    · simp only [delist, member, if_true] at same
      cases same
      have resources : { transaction with
          resources := markDone resource transaction.resources }.enlisted = transaction.enlisted :=
        map_resource_markDone resource transaction.resources
      refine ⟨⟨underway.active, ?_, ?_⟩, waiting_markDone ?_ waits⟩
      · rw [resources, List.append_nil]
        exact underway.begun
      · rw [keys_eq, resources, ← keys_eq]
        exact underway.distinct
      · exact underway.distinct
    · -- A resource that takes no part cannot be delisted.
      simp [delist, member] at same
  · rintro past transaction trace after fault ⟨underway, waits⟩ runs
    obtain ⟨rfl, same⟩ := Plan.runs_done_iff.mp runs
    by_cases member : transaction.includes resource = true
    · simp [delist, member] at same
    · simp only [delist, member, Bool.false_eq_true, if_false] at same
      cases same
      exact (underway.append rfl).halted

end Transaction

open Transaction (Open Halted)

variable {waiting : List Nat}

/-- A question that is no call on a resource leaves a transaction as open as it is. -/
theorem Work.call_open {question : Call} (quiet : ∀ reply, inTrace [⟨question, reply⟩] = []) :
    (Work.call question).Fulfils (Open waiting) (fun _ => Open waiting) (fun _ => Halted) :=
  Work.fulfils_call fun reply opened => opened.append (quiet reply)

namespace Node

/-- The resource that a node uses for a message, if it uses one, has work to do. -/
theorem enlist_fulfils (node : Node) (message : Message) :
    (node.enlist message).Fulfils (Open waiting)
      (fun used => Open ((used.map (·.key)).toList ++ waiting)) (fun _ => Halted) := by
  -- Asking for the resource is no call on it.
  have offers : (node.offered : Work Transaction (Option Resource)).Fulfils (Open waiting)
      (fun _ => Open waiting) (fun _ => Halted) := by
    unfold offered
    split
    · exact Work.call_open fun _ => rfl
    · exact Work.fulfils_pure fun opened => opened
  refine offers.bind fun resource => ?_
  -- Only a resource that is offered for a message in a transaction is enlisted.
  cases resource with
  | none => exact Work.fulfils_pure fun opened => opened
  | some resource =>
    cases message.transaction with
    | none => exact Work.fulfils_pure fun opened => opened
    | some id =>
      exact (Transaction.enlist_fulfils resource).bind fun _ =>
        Work.fulfils_pure fun opened => opened

/-- The resource that a node has used, if it used one, has no more work to do. -/
theorem delist_fulfils (used : Option Resource) :
    (delist used).Fulfils (Open ((used.map (·.key)).toList ++ waiting)) (fun _ => Open waiting)
      (fun _ => Halted) := by
  cases used with
  | none => exact Work.fulfils_pure fun opened => opened
  | some resource => exact Transaction.delist_fulfils resource

/-- Once a node has been applied, no more resources have work to do than before. -/
theorem apply_fulfils (node : Node) (message : Message) :
    (node.apply message).Fulfils (Open waiting) (fun _ => Open waiting) (fun _ => Halted) := by
  -- Nothing but the enlistment and the delistment touches the transaction.
  have shares : (node.shareMetadata message : Work Transaction Unit).Fulfils (Open waiting)
      (fun _ => Open waiting) (fun _ => Halted) := by
    unfold shareMetadata
    split
    · exact Work.call_open fun _ => rfl
    · exact Work.fulfils_pure fun opened => opened
  -- The work itself happens while the resource of the node is at work.
  have performs : ∀ keys, (node.perform message).Fulfils (Open keys) (fun _ => Open keys)
      (fun _ => Halted) := fun keys =>
    ((perform_asksOnly node message).keeps fun trace serves opened =>
      opened.append (inTrace_serving serves)).weaken (fun opened => opened) (fun opened => opened)
      fun opened => opened.1.halted
  -- The resource is enlisted before the work and delisted after it, whatever else it does.
  refine shares.bind fun _ => (enlist_fulfils node message).bind fun used => ?_
  refine (performs _).bind fun response => (delist_fulfils used).bind fun _ => ?_
  exact (Work.call_open fun _ => rfl).bind fun _ => Work.fulfils_pure fun opened => opened

end Node

namespace Router

/-- What holds of the transaction of a traversal. -/
def OfTransaction (fact : Fact Transaction) : Fact Traversal :=
  fun past traversal => fact past traversal.transaction

/-- Visiting a node is applying it to the transaction of the traversal, and noting it. -/
theorem visit_runs_iff {trail : List String} {node : Node} {message : Message}
    {traversal after : Traversal} {trace : List Exchange} {result : Except RouteFailure Response} :
    (visit trail node message traversal).Runs trace (after, result) ↔
      ∃ transaction, (node.apply message traversal.transaction).Runs trace (transaction, result) ∧
        after = { traversal with
          transaction, visits := traversal.visits ++ [⟨trail, message, result⟩] } := by
  unfold visit
  -- The note about the visit is made in either case.
  rw [Plan.runs_bind_iff]
  constructor
  · rintro ⟨⟨transaction, outcome⟩, first, rest, rfl, applied, ended⟩
    obtain ⟨rfl, same⟩ := Plan.runs_done_iff.mp ended
    cases same
    exact ⟨transaction, by simpa using applied, rfl⟩
  · rintro ⟨transaction, applied, rfl⟩
    exact ⟨(transaction, result), trace, [], by simp, applied, .done _⟩

/-- What a piece of a traversal does to the transaction: it stays open with the same resources at
work, or is halted. -/
abbrev Steady {α : Type} (work : Work Traversal α) : Prop :=
  ∀ waiting, work.Fulfils (OfTransaction (Open waiting)) (fun _ => OfTransaction (Open waiting))
    fun _ => OfTransaction Halted

/-- A report does nothing to the transaction. -/
theorem steady_log (event : Event) : Steady (Work.log event) := fun _ =>
  Work.fulfils_call fun _ opened => Open.append opened rfl

/-- Nor does a change to the rest of the traversal. -/
theorem steady_modify {change : Traversal → Traversal}
    (kept : ∀ traversal, (change traversal).transaction = traversal.transaction) :
    Steady (Work.modify change) := by
  intro waiting
  -- The change is to something else than the transaction.
  refine Work.fulfils_modify fun {past traversal} opened => ?_
  rw [OfTransaction, kept]
  exact opened

/-- A walk may be abandoned at any moment, which halts the transaction. -/
theorem steady_abandon {α : Type} (failure : RouteFailure) :
    Steady (Work.abandon failure : Work Traversal α) := fun _ =>
  Work.fulfils_abandon fun opened => opened.1.halted

/-- One steady piece of work after another is steady. -/
theorem Steady.bind {α β : Type} {work : Work Traversal α} {next : α → Work Traversal β}
    (first : Steady work) (second : ∀ value, Steady (next value)) : Steady (work >>= next) :=
  fun waiting => (first waiting).bind fun value => second value waiting

/-- Visiting a node is steady. -/
theorem steady_visit (trail : List String) (node : Node) (message : Message) :
    Steady (visit trail node message) := by
  -- A visit is an application as far as the transaction is concerned.
  intro waiting
  constructor
  · intro past traversal trace after response opened runs
    obtain ⟨transaction, applied, rfl⟩ := visit_runs_iff.mp runs
    exact (node.apply_fulfils message).ends opened applied
  · intro past traversal trace after failure opened runs
    obtain ⟨transaction, applied, rfl⟩ := visit_runs_iff.mp runs
    exact (node.apply_fulfils message).stops opened applied

/-- Visiting it with one item after the other is steady. -/
theorem steady_visitEach (trail : List String) (node : Node) (message : Message)
    (response : Response) (items : List Item) :
    Steady (visitEach trail node message response items) := by
  -- The node is visited once for each item, with the response so far.
  induction items generalizing response with
  | nil => exact fun _ => Work.fulfils_pure fun opened => opened
  | cons item rest ih => exact (steady_visit _ _ _).bind fun next => ih _

/-- However a node is fed, applying it is steady. -/
theorem steady_apply (trail : List String) (node : Node) (message : Message) :
    Steady (apply trail node message) := by
  -- A node that takes batches is visited once, any other once for each item.
  unfold apply
  split
  · exact steady_visit _ _ _
  · exact steady_visitEach _ _ _ _ _

/-- A batch that stops at an output leaf is kept with the results, and the transaction as it is. -/
theorem steady_outputLeaf (node : String) (items : List Item) : Steady (outputLeaf node items) :=
  (steady_log _).bind fun _ => steady_modify fun _ => rfl

/-- So is a batch that stops at a discard leaf. -/
theorem steady_discardLeaf (node : String) (items : List Item) : Steady (discardLeaf node items) :=
  (steady_log _).bind fun _ => steady_modify fun _ => rfl

/-- Failures that nobody handles are kept, or they abandon the walk. -/
theorem steady_unrouted (node : Node) (batch : ErrorBatch) : Steady (unrouted node batch) := by
  unfold unrouted
  -- A best-effort node keeps the failures, any other abandons the walk.
  split
  · exact (steady_log _).bind fun _ => steady_modify fun _ => rfl
  · exact (steady_log _).bind fun _ => steady_abandon _

/-- Following what a node returned is steady if going further down is. -/
theorem steady_follow (router : Router) {descend : Descent}
    (deeper : ∀ message destinations, Steady (descend message destinations)) (node : Node)
    (message : Message) (response : Response) :
    Steady (router.follow descend node message response) := by
  -- The output goes to the destinations of its channel, or to the results.
  have output : Steady (router.followOutput descend node message response.output) := by
    unfold followOutput
    split
    · exact fun _ => Work.fulfils_pure fun opened => opened
    · dsimp only
      split
      · exact steady_outputLeaf _ _
      · exact deeper _ _
  -- The same holds of what was discarded,
  have discard : ∀ batch, Steady (router.followDiscard descend node message batch) := by
    intro batch
    unfold followDiscard
    dsimp only
    split
    · exact steady_discardLeaf _ _
    · exact deeper _ _
  -- and of what failed.
  have error : ∀ batch, Steady (router.followError descend node message batch) := by
    intro batch
    unfold followError
    dsimp only
    split
    · exact steady_unrouted _ _
    · exact deeper _ _
  -- One channel is followed after the other.
  refine output.bind fun _ => Steady.bind (fun waiting => ?_) fun _ waiting => ?_
  · exact Work.fulfils_forEach fun batch _ => discard batch waiting
  · exact Work.fulfils_forEach fun batch _ => error batch waiting

/-- Handing a message to a destination is steady if going further down is. -/
theorem steady_handTo (router : Router) {descend : List String → Descent}
    (deeper : ∀ trail message destinations, Steady (descend trail message destinations))
    (trail : List String) (message : Message) (destination : String) :
    Steady (router.handTo descend trail message destination) := by
  unfold handTo
  -- A destination that no node has abandons the walk.
  cases router.nodes.get? destination with
  | none => exact steady_abandon _
  | some node =>
    exact (steady_apply _ _ _).bind fun response =>
      steady_follow router (deeper _) node message response

/-- However deep a walk goes and however often it meets a resource, it leaves at work what it found
at work. -/
theorem steady_dispatch (router : Router) (depth : Nat) (trail : List String) (message : Message)
    (destinations : List String) : Steady (router.dispatch depth trail message destinations) := by
  -- Each level of the walk is steady if the next deeper one is, and the last one never ends.
  induction depth generalizing trail message destinations with
  | zero => exact fun _ => Work.fulfils_starve
  | succ depth ih =>
    intro waiting
    exact Work.fulfils_forEach fun destination _ =>
      steady_handTo router (fun trail => ih trail) trail message destination waiting

/-- At the end of a walk that goes well, nothing has work left to do. -/
theorem traverse_fulfils (router : Router) (depth : Nat) (message : Message) :
    (router.traverse depth message).Fulfils (OfTransaction (Open []))
      (fun _ => OfTransaction (Open [])) (fun _ => OfTransaction Halted) := by
  have part : ∀ (transaction : Transaction) (traversal : Traversal),
      { traversal with transaction }.transaction = transaction := fun _ _ => rfl
  -- The origin begins with the traversal,
  have enlists : (enlistOrigin message).Fulfils (OfTransaction (Open []))
      (fun _ => OfTransaction (Open ((message.origin.map (·.key)).toList ++ [])))
      (fun _ => OfTransaction Halted) := by
    unfold enlistOrigin
    cases message.origin with
    | none => exact Work.fulfils_pure fun opened => opened
    | some resource => exact Work.fulfils_onPart part (Transaction.enlist_fulfils resource)
  -- then the walk leaves at work what it finds at work,
  have departs : Steady (router.depart depth message) := by
    unfold depart
    dsimp only
    split
    · exact steady_outputLeaf _ _
    · exact steady_dispatch _ _ _ _ _
  -- and at the end the origin is delisted.
  refine enlists.bind fun _ => (departs _).bind fun _ => ?_
  exact Work.fulfils_onPart part (Node.delist_fulfils message.origin)

/-- How a finished traversal treated the resources: the calls they received during its work, those
they received after it, and what came of the traversal. -/
inductive Settled (transaction : Transaction) :
    List ResourceCall → List ResourceCall → Except RouteFailure Terminal → Prop where
  /-- Every resource began, and every resource committed. -/
  | committed (results : Terminal) (phase : transaction.phase = .committed)
      (told : results.committed = true)
      (delisted : ∀ entry ∈ transaction.resources, entry.delisted = true) :
    Settled transaction (transaction.enlisted.map (.began · (.ok ())))
      (transaction.enlisted.map (.committed · (.ok ()))) (.ok results)
  /-- Every resource began and had its work done, but one could not commit: those after it were not
  asked to, and every resource was rolled back. -/
  | rolledBack (results : Terminal) (phase : transaction.phase = .rolledBack)
      (told : results.committed = false)
      (delisted : ∀ entry ∈ transaction.resources, entry.delisted = true)
      (done : List Resource) (failing : Resource) (cause : Condition) (rest : List Resource)
      (split : transaction.enlisted = done ++ failing :: rest) :
    Settled transaction (transaction.enlisted.map (.began · (.ok ())))
      (done.map (.committed · (.ok ())) ++ [.committed failing (.error cause)] ++
        transaction.enlisted.map
          (.rolledBack · (TransactionFault.commitFailed transaction.id failing.name cause).text))
      (.ok results)
  /-- The walk failed: no resource was asked to commit, and every one that had begun was rolled back
  for the failure. At most one was refused its begin, and it heard no more. -/
  | abandoned (failure : RouteFailure) (phase : transaction.phase = .rolledBack)
      (refused : List (Resource × Condition)) (single : refused.length ≤ 1)
      (apart : ∀ pair ∈ refused, pair.1.key ∉ transaction.keys) :
    Settled transaction
      (transaction.enlisted.map (.began · (.ok ())) ++
        refused.map fun pair => .began pair.1 (.error pair.2))
      (transaction.enlisted.map (.rolledBack · failure.text)) (.error failure)

/-- A walk that failed is rolled back for the failure that it returns, and a report comes last. -/
theorem resolve_error_runs {message : Message} {start : Duration} {traversal after : Traversal}
    {failure : RouteFailure} {result : Except RouteFailure Terminal} {trace : List Exchange}
    (runs : (resolve message start (traversal, .error failure)).Runs trace (after, result)) :
    ∃ transaction undoing event,
      (traversal.transaction.rollback failure.text).Runs undoing transaction ∧
      trace = undoing ++ [⟨.log event, ()⟩] ∧ after = { traversal with transaction } ∧
      result = .error failure := by
  obtain ⟨transaction, undoing, rest, rfl, undone, more⟩ := Plan.runs_bind_iff.mp runs
  simp only [Plan.log, Plan.call, Plan.ask_bind, Plan.done_bind, Plan.pure_eq_done,
    Plan.runs_ask_iff, Plan.runs_done_iff] at more
  obtain ⟨_, _, rfl, rfl, same⟩ := more
  cases same
  exact ⟨transaction, undoing, _, undone, rfl, rfl, rfl⟩

/-- A walk that went well is committed. Its results tell whether that could be done, and after the
time was taken a report comes last. -/
theorem resolve_ok_runs {message : Message} {start : Duration} {traversal after : Traversal}
    {result : Except RouteFailure Terminal} {trace : List Exchange}
    (runs : (resolve message start (traversal, .ok ())).Runs trace (after, result)) :
    ∃ transaction outcome committing now event,
      traversal.transaction.commit.Runs committing (transaction, outcome) ∧
      trace = committing ++ [⟨.clock, now⟩, ⟨.log event, ()⟩] ∧
      after = { traversal with transaction } ∧ result = .ok (traversal.results outcome.isOk) := by
  obtain ⟨⟨transaction, outcome⟩, committing, rest, rfl, commits, more⟩ :=
    Plan.runs_bind_iff.mp runs
  simp only [elapsedSince, Plan.log, Plan.call, Plan.ask_bind, Plan.done_bind, Plan.pure_eq_done,
    Plan.runs_ask_iff, Plan.runs_done_iff] at more
  obtain ⟨now, _, rfl, _, _, rfl, rfl, same⟩ := more
  cases same
  refine ⟨transaction, outcome, committing, now, _, commits, rfl, rfl, ?_⟩
  cases outcome <;> rfl

/-- A walk that is over is resolved in one of these ways. -/
theorem resolve_settles {message : Message} {start : Duration} {traversal after : Traversal}
    {walked : Except RouteFailure Unit} {result : Except RouteFailure Terminal}
    {trace : List Exchange} (past : List Exchange)
    (fine : walked = .ok () → Open [] past traversal.transaction)
    (failed : ∀ failure, walked = .error failure → Halted past traversal.transaction)
    (runs : (resolve message start (traversal, walked)).Runs trace (after, result)) :
    Closing trace ∧ after.transaction.keys.Nodup ∧
      Settled after.transaction (inTrace past) (inTrace trace) result := by
  -- How the walk went decides what is asked of the resources.
  cases walked with
  | error failure =>
    -- It failed, so the transaction, which is still active, is rolled back.
    obtain ⟨active, distinct, refused, single, apart, begun⟩ := failed failure rfl
    obtain ⟨transaction, undoing, event, undone, rfl, rfl, rfl⟩ := resolve_error_runs runs
    obtain ⟨closing, shape⟩ := Transaction.rollback_runs undone
    simp only [active, Phase.isFinished, Bool.false_eq_true, if_false] at shape
    obtain ⟨rfl, calls⟩ := shape
    refine ⟨closing.append (closing_nil.cons rfl), distinct, ?_⟩
    rw [begun, ResourceCall.inTrace_append, calls]
    have settled := @Settled.abandoned { traversal.transaction with phase := .rolledBack }
      failure rfl refused single apart
    simpa using settled
  | ok _ =>
    -- It went well, so no entry has work left, and the transaction may commit.
    obtain ⟨underway, settled⟩ := fine rfl
    have delisted : ∀ entry ∈ traversal.transaction.resources, entry.delisted = true := by
      intro entry member
      simpa using settled entry member
    obtain ⟨transaction, outcome, asked, now, event, committing, rfl, rfl, rfl⟩ :=
      resolve_ok_runs runs
    obtain ⟨closing, commits⟩ := Transaction.commit_commits committing
    generalize called : inTrace asked = calls at commits
    cases commits with
    -- A transaction under way is active, and nobody is left to be waited for.
    | refused inactive => exact absurd underway.active inactive
    | undelisted active pending member undone =>
      exact absurd (delisted pending member) (by simp [undone])
    -- Some resource could not, which is the middle shape.
    | failed active _ done failing cause rest split =>
      refine ⟨closing.append ((closing_nil.cons rfl).cons rfl), underway.distinct, ?_⟩
      rw [underway.begun, ResourceCall.inTrace_append, called]
      have settled := @Settled.rolledBack { traversal.transaction with phase := .rolledBack }
        (traversal.results false) rfl rfl delisted done failing cause rest split
      simpa [Except.isOk, Except.toBool] using settled
    -- All of them could.
    | committed active _ =>
      refine ⟨closing.append ((closing_nil.cons rfl).cons rfl), underway.distinct, ?_⟩
      rw [underway.begun, ResourceCall.inTrace_append, called]
      have settled := @Settled.committed { traversal.transaction with phase := .committed }
        (traversal.results true) rfl rfl delisted
      simpa [Except.isOk, Except.toBool] using settled

/-- Routing is walking, with the account of the walk left out. -/
theorem route_runs_iff {router : Router} {depth : Nat} {message : Message} {trace : List Exchange}
    {result : Except RouteFailure Terminal} :
    (router.route depth message).Runs trace result ↔
      ∃ traversal, (router.walk depth message).Runs trace (traversal, result) := by
  show ((router.walk depth message).bind fun ended => .done ended.2).Runs trace result ↔ _
  rw [Plan.runs_bind_iff]
  -- The account is the first part of what the walk leaves.
  constructor
  · rintro ⟨⟨traversal, outcome⟩, first, rest, rfl, walks, ended⟩
    obtain ⟨rfl, rfl⟩ := Plan.runs_done_iff.mp ended
    exact ⟨traversal, by simpa using walks⟩
  · rintro ⟨traversal, walks⟩
    exact ⟨(traversal, result), trace, [], by simp, walks, .done _⟩

/-- A walk opens its transaction, reports and looks at the clock, and then traverses and is
resolved. -/
theorem walk_runs {router : Router} {depth : Nat} {message : Message} {trace : List Exchange}
    {traversal : Traversal} {result : Except RouteFailure Terminal}
    (runs : (router.walk depth message).Runs trace (traversal, result)) :
    ∃ id start middle walked working closing,
      trace = [⟨.openTransaction, id⟩,
        ⟨.log (.traversalStarted id message.sender message.data.length), ()⟩, ⟨.clock, start⟩] ++
          working ++ closing ∧
      (router.traverse depth { message with transaction := some id } (.opened id)).Runs working
        (middle, walked) ∧
      (resolve { message with transaction := some id } start (middle, walked)).Runs closing
        (traversal, result) := by
  simp only [walk, Plan.log, Plan.call, Plan.ask_bind, Plan.done_bind, Plan.runs_ask_iff] at runs
  -- The traversal begins after the three opening exchanges.
  obtain ⟨id, _, rfl, ⟨⟩, _, rfl, start, _, rfl, more⟩ := runs
  obtain ⟨⟨middle, walked⟩, working, closing, rfl, traverses, resolves⟩ :=
    Plan.runs_bind_iff.mp more
  exact ⟨id, start, middle, walked, working, closing, by simp, traverses, resolves⟩

/-- The trace of a walk splits into the work and what comes after it, and the resources were
treated in one of the three ways. -/
theorem walk_settles {router : Router} {depth : Nat} {message : Message} {trace : List Exchange}
    {traversal : Traversal} {result : Except RouteFailure Terminal}
    (runs : (router.walk depth message).Runs trace (traversal, result)) :
    ∃ working closing, trace = working ++ closing ∧ Closing closing ∧
      traversal.transaction.keys.Nodup ∧
      Settled traversal.transaction (inTrace working) (inTrace closing) result := by
  obtain ⟨id, start, middle, walked, working, closing, rfl, traverses, resolves⟩ := walk_runs runs
  -- The opening exchanges are no calls on resources, so the transaction is open after them.
  let opened : List Exchange := [⟨.openTransaction, id⟩,
    ⟨.log (.traversalStarted id message.sender message.data.length), ()⟩, ⟨.clock, start⟩]
  have begins : Open [] opened (Traversal.opened id).transaction :=
    ⟨Transaction.underway_opened id rfl, by simp [Transaction.Waiting, Traversal.opened,
      Transaction.opened]⟩
  have contract := router.traverse_fulfils depth { message with transaction := some id }
  obtain ⟨closes, distinct, settled⟩ := resolve_settles (opened ++ working)
    (by rintro rfl; exact contract.ends begins traverses)
    (by rintro failure rfl; exact contract.stops begins traverses) resolves
  exact ⟨opened ++ working, closing, rfl, closes, distinct, settled⟩

/-- The first resource that a walk calls is the one that its message brings. -/
theorem walk_begins {router : Router} {depth : Nat} {message : Message} {trace : List Exchange}
    {traversal : Traversal} {result : Except RouteFailure Terminal} {resource : Resource}
    (brings : message.origin = some resource)
    (runs : (router.walk depth message).Runs trace (traversal, result)) :
    ∃ reply rest, inTrace trace = .began resource reply :: rest := by
  obtain ⟨id, start, middle, walked, working, closing, rfl, traverses, resolves⟩ := walk_runs runs
  -- The first thing a traversal does is to enlist the origin.
  have enlists : ∀ {after first outcome},
      (enlistOrigin { message with transaction := some id } (.opened id)).Runs first
        (after, outcome) → ∃ reply rest, inTrace first = .began resource reply :: rest := by
    intro after first outcome ran
    simp only [enlistOrigin, brings] at ran
    obtain ⟨transaction, ran, _⟩ := Work.runs_onPart_iff.mp ran
    obtain ⟨outcome, ran, _⟩ := Work.runs_ofFaulty_iff.mp ran
    -- Nothing takes part yet in a transaction that was just opened.
    cases Transaction.enlist_enlists ran with
    | refused inactive => exact absurd rfl inactive
    | again active member => cases member
    | failed active absent cause => exact ⟨_, [], rfl⟩
    | begun active absent => exact ⟨_, [], rfl⟩
  have starts : ∃ reply rest, inTrace working = .began resource reply :: rest := by
    -- Whatever comes later, the calls begin with those of the enlistment.
    cases walked with
    | ok value =>
      obtain ⟨_, _, first, rest, rfl, ran, _⟩ := Work.runs_bind_ok_iff.mp traverses
      obtain ⟨reply, later, begun⟩ := enlists ran
      exact ⟨reply, later ++ inTrace rest, by rw [ResourceCall.inTrace_append, begun]; rfl⟩
    | error failure =>
      rcases Work.runs_bind_error_iff.mp traverses with ran | ⟨_, _, first, rest, rfl, ran, _⟩
      · exact enlists ran
      · obtain ⟨reply, later, begun⟩ := enlists ran
        exact ⟨reply, later ++ inTrace rest, by rw [ResourceCall.inTrace_append, begun]; rfl⟩
  obtain ⟨reply, rest, begun⟩ := starts
  refine ⟨reply, rest ++ inTrace closing, ?_⟩
  rw [ResourceCall.inTrace_append, ResourceCall.inTrace_append, begun]
  rfl

/-- A traversal is all or nothing. The trace of a walk that ends splits into the work and what
comes after it, in which nothing is asked but of resources, the clock and the log; no resource took
part twice, and the calls on the resources have one of the three shapes. -/
theorem route_all_or_nothing {router : Router} {depth : Nat} {message : Message}
    {trace : List Exchange} {result : Except RouteFailure Terminal}
    (runs : (router.route depth message).Runs trace result) :
    ∃ traversal working closing,
      (router.walk depth message).Runs trace (traversal, result) ∧
      trace = working ++ closing ∧ Closing closing ∧ traversal.transaction.keys.Nodup ∧
      Settled traversal.transaction (inTrace working) (inTrace closing) result := by
  -- To route is to walk with the transaction left out of the result.
  obtain ⟨traversal, walks⟩ := route_runs_iff.mp runs
  obtain ⟨working, closing, split, closes, distinct, settled⟩ := walk_settles walks
  exact ⟨traversal, working, closing, walks, split, closes, distinct, settled⟩

/-- Two nodes that a producer feeds, each of which may take part in transactions. -/
def ledgers : Router where
  topology := ⟨[("inbox", ⟨["journal", "table"], [], []⟩)], [], ["inbox"], ["journal", "table"],
    .builtIn⟩
  nodes := .ofList [{ Node.plain "journal" .step "copy" with transactional := true },
    { Node.plain "table" .step "copy" with transactional := true }]

/-- Surroundings in which both nodes offer resources, and the second one cannot commit. -/
def fullTable : Plan.Surroundings
  | _, .nodeResource node => some (if node = "journal" then ⟨1, node⟩ else ⟨2, node⟩)
  | _, .commitWork resource =>
    if resource.key = 2 then .error (.processing "table is full") else .ok ()
  | _, call => Plan.uneventful call

/-- Whether a walk went well but its transaction could not commit. -/
def couldNotCommit : Except RouteFailure Terminal → Bool
  | .ok results => !results.committed
  | .error _ => false

/-- With a producer that brings a resource as well, the last of three commits fails: there are three
begins, three commits and three rollbacks, and the walk itself went well. -/
theorem route_all_or_nothing_full_table :
    ∃ trace result,
      (ledgers.route 2 ⟨"inbox", [.null], none, "", none, some ⟨0, "inbox"⟩, 0⟩).Runs trace result ∧
      (couldNotCommit result && (inTrace trace).length == 9) = true ∧
      ∃ (traversal : Traversal) (working closing : List Exchange),
        trace = working ++ closing ∧ Closing closing ∧ traversal.transaction.keys.Nodup ∧
        Settled traversal.transaction (inTrace working) (inTrace closing) result := by
  -- The theorem is about any run, and the kernel has played this one.
  obtain ⟨trace, result, runs, checked⟩ := Plan.exists_run fullTable
    (ledgers.route 2 ⟨"inbox", [.null], none, "", none, some ⟨0, "inbox"⟩, 0⟩)
    (fun ended => couldNotCommit ended.2 && (inTrace ended.1).length == 9) (by decide)
  obtain ⟨traversal, working, closing, _, split, closes, distinct, settled⟩ :=
    route_all_or_nothing runs
  exact ⟨trace, result, runs, checked, traversal, working, closing, split, closes, distinct,
    settled⟩

end Router

end BatchFlow
