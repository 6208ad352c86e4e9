import BatchFlow.Proofs.Plan.Runs
import BatchFlow.Transaction

/-! What each operation of a transaction asks of the resources, and what it leaves behind. -/

namespace BatchFlow

open Plan (Exchange)

/-- A call that a resource received. What comes of a rollback counts for nothing. -/
inductive ResourceCall where
  | began (resource : Resource) (reply : Except Condition Unit)
  | committed (resource : Resource) (reply : Except Condition Unit)
  | rolledBack (resource : Resource) (cause : String)

namespace ResourceCall

/-- The call on a resource that an exchange is, if it is one. -/
def ofExchange? : Exchange → Option ResourceCall
  | ⟨.beginWork resource, reply⟩ => some (.began resource reply)
  | ⟨.commitWork resource, reply⟩ => some (.committed resource reply)
  | ⟨.rollbackWork resource cause, _⟩ => some (.rolledBack resource cause)
  | _ => none

/-- The calls on resources in a trace, in order. -/
def inTrace (trace : List Exchange) : List ResourceCall :=
  trace.filterMap ofExchange?

/-- An empty trace has no calls on resources. -/
@[simp] theorem inTrace_nil : inTrace [] = [] := rfl

/-- The calls of two traces come one after the other. -/
@[simp] theorem inTrace_append (first rest : List Exchange) :
    inTrace (first ++ rest) = inTrace first ++ inTrace rest :=
  List.filterMap_append

/-- A begin is a call on its resource. -/
@[simp] theorem inTrace_beginWork (resource : Resource) (reply : Except Condition Unit)
    (rest : List Exchange) :
    inTrace (⟨.beginWork resource, reply⟩ :: rest) = .began resource reply :: inTrace rest := rfl

/-- A commit is a call on its resource. -/
@[simp] theorem inTrace_commitWork (resource : Resource) (reply : Except Condition Unit)
    (rest : List Exchange) :
    inTrace (⟨.commitWork resource, reply⟩ :: rest) =
      .committed resource reply :: inTrace rest := rfl

/-- A rollback is a call on its resource, whose answer is not kept. -/
@[simp] theorem inTrace_rollbackWork (resource : Resource) (cause : String)
    (reply : Except Condition Unit) (rest : List Exchange) :
    inTrace (⟨.rollbackWork resource cause, reply⟩ :: rest) =
      .rolledBack resource cause :: inTrace rest := rfl

/-- A look at the clock is no call on a resource. -/
@[simp] theorem inTrace_clock (now : Duration) (rest : List Exchange) :
    inTrace (⟨.clock, now⟩ :: rest) = inTrace rest := rfl

/-- A line of the log is no call on a resource. -/
@[simp] theorem inTrace_log (event : Event) (reply : Unit) (rest : List Exchange) :
    inTrace (⟨.log event, reply⟩ :: rest) = inTrace rest := rfl

end ResourceCall

open ResourceCall (inTrace)

/-- A question that is asked only once the work of a traversal is over. -/
def Call.isClosing : Call → Bool
  | .commitWork _ | .rollbackWork .. | .log _ | .clock => true
  | _ => false

/-- A trace that belongs to the end of a traversal. -/
def Closing (trace : List Exchange) : Prop :=
  ∀ exchange ∈ trace, exchange.call.isClosing = true

/-- Asking nothing is part of any end. -/
theorem closing_nil : Closing [] := by
  intro exchange member
  cases member

/-- A closing question may come before others of its sort. -/
theorem Closing.cons {exchange : Exchange} {rest : List Exchange}
    (first : exchange.call.isClosing = true) (more : Closing rest) :
    Closing (exchange :: rest) := by
  intro other member
  rcases List.mem_cons.mp member with rfl | member
  · exact first
  · exact more other member

/-- The end of a traversal can be put together of two traces. -/
theorem Closing.append {first rest : List Exchange} (early : Closing first) (late : Closing rest) :
    Closing (first ++ rest) := by
  intro exchange member
  rcases List.mem_append.mp member with member | member
  · exact early exchange member
  · exact late exchange member

namespace Transaction

variable {transaction after : Transaction} {trace : List Exchange}

/-- The keys of the resources that take part, in the order of their enlistment. -/
def keys (transaction : Transaction) : List Nat :=
  transaction.resources.map (·.resource.key)

/-- The phase says nothing about who takes part. -/
@[simp] theorem enlisted_phase (transaction : Transaction) (phase : Phase) :
    { transaction with phase }.enlisted = transaction.enlisted := rfl

/-- The keys are those of the resources that take part. -/
theorem keys_eq (transaction : Transaction) :
    transaction.keys = transaction.enlisted.map (·.key) := by
  simp [keys, enlisted]

/-- A resource takes part once one of its key does. -/
theorem includes_iff {resource : Resource} :
    transaction.includes resource = true ↔ resource.key ∈ transaction.keys := by
  simp only [includes, keys, List.any_eq_true, beq_iff_eq, List.mem_map]

/-- Taking out a resource that was listed last, and only then, leaves what there was before. -/
theorem withdraw_listed {resource : Resource} (absent : resource.key ∉ transaction.keys) :
    withdraw { transaction with resources := transaction.resources ++ [⟨resource, false⟩] }
      resource = transaction := by
  -- None of the earlier entries has the key, so only the last one goes.
  have others : transaction.resources.filter (·.resource.key != resource.key) =
      transaction.resources := by
    refine List.filter_eq_self.mpr fun entry member => bne_iff_ne.mpr fun same => ?_
    exact absent (List.mem_map.mpr ⟨entry, member, same⟩)
  simp [withdraw, others]

/-- What enlisting a resource comes to. -/
inductive Enlists (transaction : Transaction) (resource : Resource) :
    List Exchange → Transaction → Except TransactionFault Unit → Prop where
  /-- Nothing more can take part in a transaction that is not active. -/
  | refused (inactive : transaction.phase ≠ .active) :
    Enlists transaction resource [] transaction
      (.error (.enlistAfterCompletion transaction.id resource.name transaction.phase))
  /-- The resource takes part already. -/
  | again (active : transaction.phase = .active) (member : resource.key ∈ transaction.keys) :
    Enlists transaction resource [] transaction (.ok ())
  /-- The resource cannot begin, and so takes no part. -/
  | failed (active : transaction.phase = .active) (absent : resource.key ∉ transaction.keys)
      (cause : Condition) :
    Enlists transaction resource [⟨.beginWork resource, .error cause⟩] transaction
      (.error (.beginFailed transaction.id resource.name cause))
  /-- The resource begins, and takes part from now on. -/
  | begun (active : transaction.phase = .active) (absent : resource.key ∉ transaction.keys) :
    Enlists transaction resource
      [⟨.beginWork resource, .ok ()⟩, ⟨.log (.resourceEnlisted transaction.id resource.name), ()⟩]
      { transaction with resources := transaction.resources ++ [⟨resource, false⟩] } (.ok ())

/-- Enlisting comes to one of these. -/
theorem enlist_enlists {resource : Resource} {result : Except TransactionFault Unit}
    (runs : (transaction.enlist resource).Runs trace (after, result)) :
    Enlists transaction resource trace after result := by
  -- Its phase and its members settle whether a resource is asked anything.
  by_cases active : transaction.phase = .active
  · by_cases member : transaction.includes resource = true
    · -- One that takes part already is not asked again.
      have done : trace = [] ∧ (after, result) = (transaction, .ok ()) := by
        simpa [enlist, active, member] using runs
      obtain ⟨rfl, same⟩ := done
      cases same
      exact .again active (includes_iff.mp member)
    · have absent : resource.key ∉ transaction.keys := fun key => member (includes_iff.mpr key)
      simp only [enlist, active, member, ne_eq, not_true_eq_false, if_false, Plan.pure_eq_done,
        Plan.done_bind, Plan.call, Plan.ask_bind, Plan.runs_ask_iff, Bool.false_eq_true] at runs
      -- Whether the resource takes part depends on the answer to its one question.
      obtain ⟨reply, rest, rfl, more⟩ := runs
      cases reply with
      | error cause =>
        -- What was listed for it is taken out again.
        obtain ⟨rfl, same⟩ := Plan.runs_done_iff.mp more
        rw [← active, withdraw_listed absent] at same
        cases same
        exact .failed active absent cause
      | ok _ =>
        simp only [Plan.log, Plan.call, Plan.ask_bind, Plan.done_bind, Plan.runs_ask_iff,
          Plan.runs_done_iff, ← active] at more
        obtain ⟨_, _, rfl, rfl, same⟩ := more
        cases same
        exact .begun active absent
  · -- Outside of its active phase, a transaction turns everybody away.
    have done : trace = [] ∧ (after, result) = (transaction,
        .error (.enlistAfterCompletion transaction.id resource.name transaction.phase)) := by
      simpa [enlist, active] using runs
    obtain ⟨rfl, same⟩ := done
    cases same
    exact .refused active

/-- Every resource is asked once to roll back for the cause, in the order of the list. -/
theorem rollbackEach_runs {id : Nat} {cause : String} {resources : List Resource}
    (runs : (rollbackEach id cause resources).Runs trace ()) :
    Closing trace ∧ inTrace trace = resources.map (.rolledBack · cause) := by
  -- Each step asks one resource, whatever the ones before it said.
  induction resources generalizing trace with
  | nil =>
    obtain ⟨rfl, _⟩ := Plan.runs_done_iff.mp runs
    exact ⟨closing_nil, rfl⟩
  | cons resource rest ih =>
    simp only [rollbackEach, Plan.call, Plan.ask_bind, Plan.done_bind, Plan.runs_ask_iff] at runs
    obtain ⟨reply, trace, rfl, more⟩ := runs
    cases reply with
    | ok _ =>
      obtain ⟨closing, calls⟩ := ih more
      exact ⟨closing.cons rfl, by simp [calls]⟩
    | error failure =>
      -- A failure only adds a report.
      simp only [Plan.log, Plan.call, Plan.ask_bind, Plan.done_bind, Plan.runs_ask_iff] at more
      obtain ⟨_, trace, rfl, more⟩ := more
      obtain ⟨closing, calls⟩ := ih more
      exact ⟨(closing.cons rfl).cons rfl, by simp [calls]⟩

/-- Undoing asks every enlisted resource to roll back, and ends the transaction. -/
theorem undo_runs {cause : String} (runs : (transaction.undo cause).Runs trace after) :
    after = { transaction with phase := .rolledBack } ∧ Closing trace ∧
      inTrace trace = transaction.enlisted.map (.rolledBack · cause) := by
  -- The rollbacks come first, and the report that closes the transaction last.
  obtain ⟨_, first, rest, rfl, asked, more⟩ := Plan.runs_bind_iff.mp runs
  simp only [Plan.log, Plan.call, Plan.ask_bind, Plan.done_bind, Plan.pure_eq_done,
    Plan.runs_ask_iff, Plan.runs_done_iff] at more
  obtain ⟨_, _, rfl, rfl, rfl⟩ := more
  obtain ⟨closing, calls⟩ := rollbackEach_runs asked
  exact ⟨rfl, closing.append (closing_nil.cons rfl), by simp [calls]⟩

/-- How far committing one resource after the other comes. -/
inductive CommitsEach (id : Nat) (resources : List Resource) :
    List ResourceCall → Except TransactionFault Unit → Prop where
  | all : CommitsEach id resources (resources.map (.committed · (.ok ()))) (.ok ())
  | upTo (done : List Resource) (failing : Resource) (cause : Condition) (rest : List Resource)
      (split : resources = done ++ failing :: rest) :
    CommitsEach id resources
      (done.map (.committed · (.ok ())) ++ [.committed failing (.error cause)])
      (.error (.commitFailed id failing.name cause))

/-- Resources commit in the order of the list, up to the first that fails. -/
theorem commitEach_runs {id : Nat} {resources : List Resource}
    {result : Except TransactionFault Unit}
    (runs : (commitEach id resources).Runs trace result) :
    Closing trace ∧ CommitsEach id resources (inTrace trace) result := by
  -- The first resource either goes wrong, which ends it, or leaves the rest to be asked.
  induction resources generalizing trace with
  | nil =>
    obtain ⟨rfl, rfl⟩ := Plan.runs_done_iff.mp runs
    exact ⟨closing_nil, .all⟩
  | cons resource rest ih =>
    simp only [commitEach, Plan.call, Plan.ask_bind, Plan.done_bind, Plan.runs_ask_iff] at runs
    obtain ⟨reply, trace, rfl, more⟩ := runs
    cases reply with
    | error cause =>
      -- Nothing after the failing one is asked to commit.
      simp only [Plan.log, Plan.call, Plan.ask_bind, Plan.done_bind, Plan.pure_eq_done,
        Plan.runs_ask_iff, Plan.runs_done_iff] at more
      obtain ⟨_, _, rfl, rfl, rfl⟩ := more
      exact ⟨(closing_nil.cons rfl).cons rfl, .upTo [] resource cause rest rfl⟩
    | ok _ =>
      obtain ⟨closing, commits⟩ := ih more
      refine ⟨closing.cons rfl, ?_⟩
      -- What the others came to decides, so their calls are read off first.
      generalize same : inTrace trace = calls at commits
      simp only [ResourceCall.inTrace_commitWork, same]
      cases commits with
      | all => exact .all
      | upTo done failing cause rest split =>
        exact .upTo (resource :: done) failing cause rest (by simp [split])

/-- What committing a transaction comes to. -/
inductive Commits (transaction : Transaction) :
    List ResourceCall → Transaction → Except TransactionFault Unit → Prop where
  /-- Only an active transaction can commit. -/
  | refused (inactive : transaction.phase ≠ .active) :
    Commits transaction [] transaction
      (.error (.invalidPhase transaction.id "commit" transaction.phase))
  /-- The work of some resource is not done, so all of them roll back. -/
  | undelisted (active : transaction.phase = .active) (pending : Enlisted)
      (member : pending ∈ transaction.resources) (undone : pending.delisted = false) :
    Commits transaction
      (transaction.enlisted.map
        (.rolledBack · (TransactionFault.notDelisted transaction.id pending.resource.name).text))
      { transaction with phase := .rolledBack }
      (.error (.notDelisted transaction.id pending.resource.name))
  /-- Some resource cannot commit, so all of them roll back. -/
  | failed (active : transaction.phase = .active)
      (delisted : ∀ entry ∈ transaction.resources, entry.delisted = true)
      (done : List Resource) (failing : Resource) (cause : Condition) (rest : List Resource)
      (split : transaction.enlisted = done ++ failing :: rest) :
    Commits transaction
      (done.map (.committed · (.ok ())) ++ [.committed failing (.error cause)] ++
        transaction.enlisted.map
          (.rolledBack · (TransactionFault.commitFailed transaction.id failing.name cause).text))
      { transaction with phase := .rolledBack }
      (.error (.commitFailed transaction.id failing.name cause))
  | committed (active : transaction.phase = .active)
      (delisted : ∀ entry ∈ transaction.resources, entry.delisted = true) :
    Commits transaction (transaction.enlisted.map (.committed · (.ok ())))
      { transaction with phase := .committed } (.ok ())

/-- Committing comes to one of these, and asks only what belongs to the end of a traversal. -/
theorem commit_commits {result : Except TransactionFault Unit}
    (runs : transaction.commit.Runs trace (after, result)) :
    Closing trace ∧ Commits transaction (inTrace trace) after result := by
  -- The phase is looked at first, then whether anybody is still at work.
  by_cases active : transaction.phase = .active
  · unfold commit at runs
    simp only [active, ne_eq, not_true_eq_false, if_false] at runs
    split at runs
    · -- Somebody is, so everybody is asked to roll back on that account.
      rename_i pending found
      obtain ⟨undone, first, rest, rfl, asked, more⟩ := Plan.runs_bind_iff.mp runs
      obtain ⟨rfl, same⟩ := Plan.runs_done_iff.mp more
      cases same
      obtain ⟨rfl, closing, calls⟩ := undo_runs asked
      have member := List.mem_of_find?_eq_some found
      have undone : pending.delisted = false := by simpa using List.find?_some found
      refine ⟨closing.append closing_nil, ?_⟩
      rw [ResourceCall.inTrace_append, calls]
      simpa using Commits.undelisted active pending member undone
    · -- Nobody is, so the resources are asked one after the other.
      rename_i found
      have delisted : ∀ entry ∈ transaction.resources, entry.delisted = true := by
        intro entry member
        simpa using List.find?_eq_none.mp found entry member
      obtain ⟨outcome, first, rest, rfl, asked, more⟩ := Plan.runs_bind_iff.mp runs
      obtain ⟨closing, commits⟩ := commitEach_runs asked
      generalize same : inTrace first = calls at commits
      cases commits with
      | all =>
        -- All of them could, which leaves a report.
        simp only [Plan.log, Plan.call, Plan.ask_bind, Plan.done_bind, Plan.pure_eq_done,
          Plan.runs_ask_iff, Plan.runs_done_iff] at more
        obtain ⟨_, _, rfl, rfl, same⟩ := more
        cases same
        refine ⟨closing.append (closing_nil.cons rfl), ?_⟩
        simpa [same] using Commits.committed active delisted
      | upTo done failing cause rest split =>
        -- One of them could not, so everybody rolls back, those who committed included.
        obtain ⟨undone, early, late, rfl, asked, more⟩ := Plan.runs_bind_iff.mp more
        obtain ⟨rfl, same⟩ := Plan.runs_done_iff.mp more
        cases same
        obtain ⟨rfl, undoing, undone⟩ := undo_runs asked
        refine ⟨closing.append (undoing.append closing_nil), ?_⟩
        simpa [same, undone] using Commits.failed active delisted done failing cause rest split
  · -- A transaction that is not active says so, and asks nobody.
    have done : trace = [] ∧ (after, result) =
        (transaction, .error (.invalidPhase transaction.id "commit" transaction.phase)) := by
      simpa [commit, active] using runs
    obtain ⟨rfl, same⟩ := done
    cases same
    exact ⟨closing_nil, .refused active⟩

/-- Rolling back undoes a transaction that is not finished, and does nothing to any other. -/
theorem rollback_runs {cause : String} (runs : (transaction.rollback cause).Runs trace after) :
    Closing trace ∧
      if transaction.phase.isFinished then after = transaction ∧ inTrace trace = []
      else after = { transaction with phase := .rolledBack } ∧
        inTrace trace = transaction.enlisted.map (.rolledBack · cause) := by
  -- Only a transaction that goes on can be rolled back.
  unfold rollback at runs
  split at runs
  · rename_i finished
    obtain ⟨rfl, rfl⟩ := Plan.runs_done_iff.mp runs
    exact ⟨closing_nil, by simp [finished]⟩
  · rename_i unfinished
    obtain ⟨rfl, closing, calls⟩ := undo_runs runs
    exact ⟨closing, by simpa [unfinished] using calls⟩

end Transaction

end BatchFlow
