import BatchFlow.Proofs.Transaction.Operations

/-! The operations that make up the lifetime of a transaction come in any order, and its resources
answer whatever they like. Each resource is called as agreed, and a transaction that is finished
stays as it is. -/

namespace BatchFlow

open Plan (Exchange)
open ResourceCall (inTrace)

namespace ResourceCall

/-- The resource that is called. -/
def resource : ResourceCall → Resource
  | began resource _ | committed resource _ | rolledBack resource _ => resource

/-- A begin that failed. -/
def isRefusal : ResourceCall → Bool
  | began _ (.error _) => true
  | began _ (.ok _) | committed .. | rolledBack .. => false

/-- A commit, whatever came of it. -/
def isCommit : ResourceCall → Bool
  | committed .. => true
  | began .. | rolledBack .. => false

/-- A rollback. -/
def isRollback : ResourceCall → Bool
  | rolledBack .. => true
  | began .. | committed .. => false

/-- The calls that the resource of a key received. -/
def on (key : Nat) (calls : List ResourceCall) : List ResourceCall :=
  calls.filter (·.resource.key == key)

/-- Without calls, there is none on a key. -/
@[simp] theorem on_nil (key : Nat) : on key [] = [] := rfl

/-- The calls on a key are those among the earlier calls, and then those among the later ones. -/
@[simp] theorem on_append (key : Nat) (first rest : List ResourceCall) :
    on key (first ++ rest) = on key first ++ on key rest :=
  List.filter_append first rest

/-- A single call is on the key of its resource. -/
@[simp] theorem on_singleton (key : Nat) (call : ResourceCall) :
    on key [call] = if call.resource.key = key then [call] else [] := by
  by_cases same : call.resource.key = key <;> simp [on, same]

/-- Where every resource is called at most once, each one received at most one call. -/
theorem length_on_le_one {calls : List ResourceCall}
    (distinct : (calls.map (·.resource.key)).Nodup) (key : Nat) : (on key calls).length ≤ 1 := by
  -- Call by call: the first one is on the key, or it leaves the others to be counted.
  induction calls with
  | nil => simp
  | cons call rest ih =>
    obtain ⟨apart, distinct⟩ := List.nodup_cons.mp distinct
    rw [← List.singleton_append, on_append, on_singleton]
    split
    · -- This is the call of the key, so none of the others is.
      rename_i same
      have silent : on key rest = [] := by
        refine List.filter_eq_nil_iff.mpr fun other member equal => apart ?_
        exact List.mem_map.mpr ⟨other, member, (beq_iff_eq.mp equal).trans same.symm⟩
      simp [silent]
    · simpa using ih distinct

/-- A resource that is not called received no call. -/
theorem on_eq_nil {calls : List ResourceCall} {key : Nat}
    (absent : key ∉ calls.map (·.resource.key)) : on key calls = [] := by
  refine List.filter_eq_nil_iff.mpr fun call member same => absent ?_
  rw [← beq_iff_eq.mp same]
  exact List.mem_map_of_mem member

/-- What one resource may be called: it is asked to begin until it does, and from then on at most
once to commit and at most once to roll back. -/
inductive Disciplined : List ResourceCall → Prop where
  -- It may refuse to begin any number of times.
  | idle {refusals : List ResourceCall} (refused : ∀ call ∈ refusals, call.isRefusal = true) :
    Disciplined refusals
  | begun {refusals commits rollbacks : List ResourceCall} (resource : Resource)
      (refused : ∀ call ∈ refusals, call.isRefusal = true)
      (commit : ∀ call ∈ commits, call.isCommit = true) (once : commits.length ≤ 1)
      (rollback : ∀ call ∈ rollbacks, call.isRollback = true) (single : rollbacks.length ≤ 1) :
    Disciplined (refusals ++ .began resource (.ok ()) :: (commits ++ rollbacks))

end ResourceCall

open ResourceCall (on Disciplined)

namespace Transaction

/-- What may be asked of a transaction. -/
inductive Operation where
  | enlist (resource : Resource)
  | delist (resource : Resource)
  | commit
  | rollback (cause : String)

/-- Carries out an operation. A rollback has no failures of its own. -/
def perform (transaction : Transaction) :
    Operation → Plan (Transaction × Except TransactionFault Unit)
  | .enlist resource => transaction.enlist resource
  | .delist resource => .done (transaction.delist resource)
  | .commit => transaction.commit
  | .rollback cause => (transaction.rollback cause).bind fun after => .done (after, .ok ())

/-- An operation that was carried out. -/
structure Turn where
  operation : Operation
  before : Transaction
  trace : List Exchange
  result : Except TransactionFault Unit
  after : Transaction

/-- Operations that are carried out one after the other, each to its end. -/
inductive Lives : Transaction → List Turn → Transaction → Prop where
  | done (transaction : Transaction) : Lives transaction [] transaction
  | turn {before middle after : Transaction} {operation : Operation} {trace : List Exchange}
      {result : Except TransactionFault Unit} {rest : List Turn}
      (runs : (before.perform operation).Runs trace (middle, result))
      (more : Lives middle rest after) :
    Lives before (⟨operation, before, trace, result, middle⟩ :: rest) after

/-- The calls on resources in some turns. -/
def Turn.calls (turns : List Turn) : List ResourceCall := turns.flatMap (inTrace ·.trace)

variable {transaction after : Transaction} {trace : List Exchange}
  {result : Except TransactionFault Unit}

/-- Calls that end the work of resources with these keys: some commit, and then some roll back. -/
structure Finishes (keys : List Nat) (commits rollbacks : List ResourceCall) : Prop where
  commit : ∀ call ∈ commits, call.isCommit = true
  committed : (commits.map (·.resource.key)).Sublist keys
  rollback : ∀ call ∈ rollbacks, call.isRollback = true
  rolledBack : (rollbacks.map (·.resource.key)).Sublist keys

/-- What is known of a transaction between two operations, given all calls on resources so far. -/
inductive Accounted (calls : List ResourceCall) (transaction : Transaction) : Prop where
  /-- While it is active, those that take part are those that have begun, and nobody was asked for
  more than that. -/
  | active (phase : transaction.phase = .active) (distinct : transaction.keys.Nodup)
      (refused : ∀ key ∉ transaction.keys, ∀ call ∈ on key calls, call.isRefusal = true)
      (begun : ∀ key ∈ transaction.keys, ∃ refusals resource,
        on key calls = refusals ++ [.began resource (.ok ())] ∧
          ∀ call ∈ refusals, call.isRefusal = true)
  | finished (phase : transaction.phase.isFinished = true) (distinct : transaction.keys.Nodup)
      (disciplined : ∀ key, Disciplined (on key calls))

/-- At any time, no resource takes part twice. -/
theorem Accounted.distinct {calls : List ResourceCall} (accounted : Accounted calls transaction) :
    transaction.keys.Nodup := by
  cases accounted with
  | active _ distinct _ _ => exact distinct
  | finished _ distinct _ => exact distinct

/-- At any time, every resource was called as agreed. -/
theorem Accounted.disciplined {calls : List ResourceCall}
    (accounted : Accounted calls transaction) (key : Nat) : Disciplined (on key calls) := by
  cases accounted with
  | finished _ _ disciplined => exact disciplined key
  | active _ _ refused begun =>
    by_cases member : key ∈ transaction.keys
    · obtain ⟨refusals, resource, same, refusing⟩ := begun key member
      -- So far it was asked neither to commit nor to roll back.
      rw [same, ← List.append_nil [_], List.singleton_append, ← List.append_nil []]
      exact .begun resource refusing (by simp) (by simp) (by simp) (by simp)
    · exact .idle (refused key member)

/-- A transaction that was opened has called nobody. -/
theorem accounted_opened (id : Nat) : Accounted [] (.opened id) :=
  .active rfl (by simp [keys, opened]) (by simp) (by simp [keys, opened])

/-- Calls that end the work of those that take part leave every resource called as agreed. -/
theorem Accounted.finish {calls commits rollbacks : List ResourceCall}
    (accounted : Accounted calls transaction) (active : transaction.phase = .active)
    (finishes : Finishes transaction.keys commits rollbacks)
    (phase : after.phase.isFinished = true) (same : after.keys = transaction.keys) :
    Accounted (calls ++ (commits ++ rollbacks)) after := by
  refine .finished phase (same ▸ accounted.distinct) fun key => ?_
  -- Two sorts of resources are left: those that take part, and all others.
  cases accounted with
  | finished finished _ _ => simp [active, Phase.isFinished] at finished
  | active _ distinct refused begun =>
    rw [ResourceCall.on_append, ResourceCall.on_append]
    by_cases member : key ∈ transaction.keys
    · -- Whoever had begun hears of each of the two at most once more.
      obtain ⟨refusals, resource, same, refusing⟩ := begun key member
      rw [same, List.append_assoc, List.singleton_append]
      refine .begun resource refusing (fun call heard => ?_) ?_ (fun call heard => ?_) ?_
      · exact finishes.commit call (List.mem_filter.mp heard).1
      · exact ResourceCall.length_on_le_one (distinct.sublist finishes.committed) key
      · exact finishes.rollback call (List.mem_filter.mp heard).1
      · exact ResourceCall.length_on_le_one (distinct.sublist finishes.rolledBack) key
    · -- Anybody else hears nothing more.
      rw [ResourceCall.on_eq_nil fun called => member (finishes.committed.subset called),
        ResourceCall.on_eq_nil fun called => member (finishes.rolledBack.subset called)]
      exact .idle (by simpa using refused key member)

/-- Asking everybody who takes part to roll back ends their work. -/
theorem finishes_undo (transaction : Transaction) (cause : String) :
    Finishes transaction.keys [] (transaction.enlisted.map (.rolledBack · cause)) where
  -- Everybody who takes part is asked once, in the order in which they enlisted.
  commit := by simp
  committed := List.nil_sublist _
  rollback := by
    simp only [List.mem_map, forall_exists_index, and_imp, forall_apply_eq_imp_iff₂]
    exact fun _ _ => rfl
  rolledBack := by
    rw [List.map_map, keys_eq]
    exact List.Sublist.refl _

/-- Whatever committing comes to, it ends the work of those that take part. -/
theorem Commits.finishes {calls : List ResourceCall}
    (commits : Commits transaction calls after result) (active : transaction.phase = .active) :
    after.phase.isFinished = true ∧ after.keys = transaction.keys ∧
      ∃ first second, calls = first ++ second ∧ Finishes transaction.keys first second := by
  cases commits with
  | refused inactive => exact absurd active inactive
  | undelisted _ pending member undone =>
    -- Nobody is asked to commit, and everybody to roll back.
    exact ⟨rfl, rfl, [], _, rfl, finishes_undo transaction _⟩
  | failed _ delisted done failing cause rest split =>
    refine ⟨rfl, rfl, _, _, rfl, ?_⟩
    obtain ⟨_, _, rollback, rolledBack⟩ := finishes_undo transaction
      (TransactionFault.commitFailed transaction.id failing.name cause).text
    refine ⟨fun call asked => ?_, ?_, rollback, rolledBack⟩
    · -- Those before the failing one were asked to commit, and so was that one.
      rcases List.mem_append.mp asked with asked | asked
      · obtain ⟨resource, _, rfl⟩ := List.mem_map.mp asked
        rfl
      · cases List.mem_singleton.mp asked
        rfl
    · -- They are the first of those that take part.
      rw [keys_eq, split]
      simp [ResourceCall.resource, Function.comp_def]
  | committed _ delisted =>
    -- Everybody is asked to commit, and nobody to roll back.
    refine ⟨rfl, rfl, _, [], (List.append_nil _).symm, ?_, ?_, by simp, List.nil_sublist _⟩
    · intro call asked
      obtain ⟨resource, _, rfl⟩ := List.mem_map.mp asked
      rfl
    · rw [List.map_map, keys_eq]
      exact List.Sublist.refl _

/-- Marking a resource as done changes neither the phase nor who takes part. -/
theorem delist_keeps {resource : Resource} (runs : transaction.delist resource = (after, result)) :
    after.phase = transaction.phase ∧ after.enlisted = transaction.enlisted := by
  unfold delist at runs
  -- Either the resource takes part and is marked, or it is reported as unknown.
  split at runs
  · cases runs
    exact ⟨rfl, map_resource_markDone resource transaction.resources⟩
  · cases runs
    exact ⟨rfl, rfl⟩

/-- Only the phase, who takes part and the calls so far count. -/
theorem Accounted.congr {calls : List ResourceCall} (accounted : Accounted calls transaction)
    (phase : after.phase = transaction.phase) (keys : after.keys = transaction.keys) :
    Accounted calls after := by
  cases accounted with
  | active active distinct refused begun =>
    exact .active (phase.trans active) (keys ▸ distinct) (keys ▸ refused) (keys ▸ begun)
  | finished finished distinct disciplined =>
    exact .finished (phase ▸ finished) (keys ▸ distinct) disciplined

/-- A resource that takes no part may refuse to begin, once more. -/
theorem Accounted.refuse {calls : List ResourceCall} {resource : Resource}
    (accounted : Accounted calls transaction) (active : transaction.phase = .active)
    (absent : resource.key ∉ transaction.keys) (cause : Condition) :
    Accounted (calls ++ [.began resource (.error cause)]) transaction := by
  cases accounted with
  | finished finished _ _ => simp [active, Phase.isFinished] at finished
  | active _ distinct refused begun =>
    -- The refusal is one more for the key of the resource, and nothing for the others.
    refine .active active distinct (fun key outside call heard => ?_) fun key member => ?_
    · rw [ResourceCall.on_append, List.mem_append] at heard
      rcases heard with heard | heard
      · exact refused key outside call heard
      · cases List.mem_singleton.mp (List.mem_filter.mp heard).1
        rfl
    · -- Nobody who takes part has the key.
      have other : resource.key ≠ key := fun same => absent (same ▸ member)
      simpa [ResourceCall.resource, other] using begun key member

/-- A resource that has begun takes part, and nobody else hears of it. -/
theorem Accounted.begin {calls : List ResourceCall} {resource : Resource}
    (accounted : Accounted calls transaction) (active : transaction.phase = .active)
    (absent : resource.key ∉ transaction.keys) :
    Accounted (calls ++ [.began resource (.ok ())])
      { transaction with resources := transaction.resources ++ [⟨resource, false⟩] } := by
  -- Nothing but an active transaction is left.
  cases accounted with
  | finished finished _ _ => simp [active, Phase.isFinished] at finished
  | active _ distinct refused begun =>
    have grown : keys { transaction with
        resources := transaction.resources ++ [⟨resource, false⟩] } =
        transaction.keys ++ [resource.key] := by
      simp [keys]
    -- The resource is looked at apart from those that took part before.
    refine .active active ?_ (fun key outside call heard => ?_) fun key member => ?_
    · rw [grown]
      -- The new key is none of the old ones.
      have apart : ∀ key ∈ transaction.keys, key ≠ resource.key :=
        fun key member same => absent (same ▸ member)
      simpa [List.nodup_append] using ⟨distinct, apart⟩
    · rw [grown, List.mem_append, List.mem_singleton, not_or] at outside
      have other : resource.key ≠ key := fun same => outside.2 same.symm
      simp only [ResourceCall.on_append, ResourceCall.on_singleton, ResourceCall.resource, other,
        if_false, List.append_nil] at heard
      exact refused key outside.1 call heard
    · rw [grown, List.mem_append, List.mem_singleton] at member
      rcases member with member | rfl
      · have other : resource.key ≠ key := fun same => absent (same ▸ member)
        simpa [ResourceCall.resource, other] using begun key member
      · -- What the resource heard before were refusals, because it took no part.
        exact ⟨on resource.key calls, resource, by simp [ResourceCall.resource],
          refused resource.key absent⟩

/-- Whatever an operation comes to, every resource is called as agreed. -/
theorem Accounted.perform {calls : List ResourceCall} {operation : Operation}
    (accounted : Accounted calls transaction)
    (runs : (transaction.perform operation).Runs trace (after, result)) :
    Accounted (calls ++ inTrace trace) after := by
  -- What each operation can do is said once by its own lemma; here it is only taken account of.
  cases operation with
  | enlist resource =>
    cases enlist_enlists runs with
    | refused inactive => simpa using accounted
    | again active member => simpa using accounted
    | failed active absent cause => exact accounted.refuse active absent cause
    | begun active absent => exact accounted.begin active absent
  | delist resource =>
    obtain ⟨rfl, same⟩ := Plan.runs_done_iff.mp runs
    obtain ⟨phase, enlisted⟩ := delist_keeps same.symm
    simpa using accounted.congr phase (by rw [keys_eq, enlisted, keys_eq])
  | commit =>
    obtain ⟨_, commits⟩ := commit_commits runs
    by_cases active : transaction.phase = .active
    · obtain ⟨phase, same, first, second, split, finishes⟩ := commits.finishes active
      exact split ▸ accounted.finish active finishes phase same
    · -- Out of its active phase, a transaction refuses to commit.
      generalize inTrace trace = asked at commits
      cases commits with
      | refused => simpa using accounted
      | undelisted phase | failed phase | committed phase => exact absurd phase active
  | rollback cause =>
    obtain ⟨later, first, rest, rfl, undone, ended⟩ := Plan.runs_bind_iff.mp runs
    obtain ⟨rfl, same⟩ := Plan.runs_done_iff.mp ended
    cases same
    obtain ⟨_, shape⟩ := rollback_runs undone
    -- A rollback of a finished transaction is left out, and that of an active one undoes
    -- everything.
    cases accounted with
    | finished finished distinct disciplined =>
      -- There is nothing left to roll back.
      rw [if_pos finished] at shape
      obtain ⟨rfl, asked⟩ := shape
      simpa [asked] using Accounted.finished finished distinct disciplined
    | active active distinct refused begun =>
      rw [if_neg (by simp [active, Phase.isFinished])] at shape
      obtain ⟨rfl, asked⟩ := shape
      have closed : Accounted _ { transaction with phase := .rolledBack } :=
        (Accounted.active active distinct refused begun).finish active
          (finishes_undo transaction cause) rfl rfl
      simpa [asked] using closed

/-- Nothing happens any more to a transaction that is finished, whatever is asked of it. -/
theorem perform_finished {operation : Operation} (finished : transaction.phase.isFinished = true)
    (runs : (transaction.perform operation).Runs trace (after, result)) :
    after.phase = transaction.phase ∧ inTrace trace = [] := by
  -- Every operation looks at the phase before it calls anybody.
  have inactive : transaction.phase ≠ .active := fun active => by
    simp [active, Phase.isFinished] at finished
  cases operation with
  -- To enlist somebody is refused.
  | enlist resource =>
    cases enlist_enlists runs with
    | refused => exact ⟨rfl, rfl⟩
    | again active | failed active | begun active => exact absurd active inactive
  -- To delist somebody marks an entry, asks nobody and leaves the phase.
  | delist resource =>
    obtain ⟨rfl, same⟩ := Plan.runs_done_iff.mp runs
    exact ⟨(delist_keeps same.symm).1, rfl⟩
  -- To commit is refused.
  | commit =>
    obtain ⟨_, commits⟩ := commit_commits runs
    generalize inTrace trace = asked at commits
    cases commits with
    | refused => exact ⟨rfl, rfl⟩
    | undelisted active | failed active | committed active => exact absurd active inactive
  | rollback cause =>
    -- To roll back is nothing once the transaction is finished.
    obtain ⟨later, first, rest, rfl, undone, ended⟩ := Plan.runs_bind_iff.mp runs
    obtain ⟨rfl, same⟩ := Plan.runs_done_iff.mp ended
    cases same
    obtain ⟨_, shape⟩ := rollback_runs undone
    rw [if_pos finished] at shape
    obtain ⟨rfl, asked⟩ := shape
    exact ⟨rfl, by simpa using asked⟩

/-- Committing tells of success exactly if it moves the transaction to its committed phase. -/
theorem commit_ok_iff (runs : transaction.commit.Runs trace (after, result)) :
    result = .ok () ↔ transaction.phase ≠ .committed ∧ after.phase = .committed := by
  obtain ⟨_, commits⟩ := commit_commits runs
  -- Whatever was asked, only the phases before and after count.
  generalize inTrace trace = asked at commits
  cases commits with
  | refused inactive => simp
  | undelisted active | failed active => simp
  | committed active => simp [active]

/-- A resource that is turned away leaves those that take part as they were. -/
theorem enlist_error {resource : Resource} {fault : TransactionFault}
    (runs : (transaction.enlist resource).Runs trace (after, .error fault)) :
    after.resources = transaction.resources ∧
      (fault = .enlistAfterCompletion transaction.id resource.name transaction.phase ∨
        ∃ cause, fault = .beginFailed transaction.id resource.name cause) := by
  -- It is turned away by the phase or by its own begin, before it is listed.
  cases enlist_enlists runs with
  | refused inactive => exact ⟨rfl, .inl rfl⟩
  | failed active absent cause => exact ⟨rfl, .inr ⟨cause, rfl⟩⟩

/-- A life goes on from wherever it has come to. -/
theorem Lives.split {before after : Transaction} {early late : List Turn}
    (lives : Lives before (early ++ late) after) :
    ∃ middle, Lives before early middle ∧ Lives middle late after := by
  induction early generalizing before with
  | nil => exact ⟨before, .done before, lives⟩
  -- The first turn belongs to the early ones, and the rest is parted further.
  | cons turn rest ih =>
    cases lives with
    | turn runs more =>
      obtain ⟨middle, first, second⟩ := ih more
      exact ⟨middle, .turn runs first, second⟩

/-- Each turn of a life carries its operation out on what the turns before it left. -/
theorem Lives.parts {before after : Transaction} {early late : List Turn} {turn : Turn}
    (lives : Lives before (early ++ turn :: late) after) :
    Lives before early turn.before ∧
      (turn.before.perform turn.operation).Runs turn.trace (turn.after, turn.result) ∧
      Lives turn.after late after := by
  -- The life is cut before the turn, and the turn is the first of the rest.
  obtain ⟨middle, first, rest⟩ := lives.split
  cases rest with
  | turn runs more => exact ⟨first, runs, more⟩

/-- However long a life is, every resource is called as agreed. -/
theorem Lives.accounted {calls : List ResourceCall} {before after : Transaction}
    {turns : List Turn} (lives : Lives before turns after) (accounted : Accounted calls before) :
    Accounted (calls ++ Turn.calls turns) after := by
  -- The calls so far grow from turn to turn, so they are generalised.
  induction lives generalizing calls with
  | done transaction => simpa [Turn.calls] using accounted
  | turn runs more ih => simpa [Turn.calls] using ih (accounted.perform runs)

/-- Once a transaction is finished, nothing happens to it for the rest of its life. -/
theorem Lives.finished {before : Transaction} {turns : List Turn} (lives : Lives before turns after)
    (finished : before.phase.isFinished = true) :
    ∀ turn ∈ turns, turn.after.phase = before.phase ∧ inTrace turn.trace = [] := by
  induction lives with
  | done transaction => simp
  | turn runs more ih =>
    -- The phase stays the same over the first turn, and so it is still finished after it.
    obtain ⟨phase, quiet⟩ := perform_finished finished runs
    refine List.forall_mem_cons.mpr ⟨⟨phase, quiet⟩, fun later member => ?_⟩
    obtain ⟨kept, calm⟩ := ih (phase ▸ finished) later member
    exact ⟨kept.trans phase, calm⟩

/-- What holds of the whole life of a transaction. -/
structure Regular (turns : List Turn) : Prop where
  /-- At no time does a resource take part twice. -/
  distinct : ∀ turn ∈ turns, turn.before.keys.Nodup ∧ turn.after.keys.Nodup
  /-- Every resource was called as agreed, and so at any time before. -/
  disciplined : ∀ early late, turns = early ++ late → ∀ key, Disciplined (on key (Turn.calls early))
  /-- What is finished stays finished in the same way, and no resource is called after that. -/
  final : ∀ early turn late, turns = early ++ turn :: late → turn.after.phase.isFinished = true →
    ∀ later ∈ late, later.after.phase = turn.after.phase ∧ inTrace later.trace = []
  /-- A commit tells of success exactly if it is what committed the transaction. -/
  commits : ∀ turn ∈ turns, turn.operation = .commit →
    (turn.result = .ok () ↔ turn.before.phase ≠ .committed ∧ turn.after.phase = .committed)
  /-- A resource that is turned away, for one of two reasons, changes nothing for the others. -/
  refusals : ∀ turn ∈ turns, ∀ resource fault, turn.operation = .enlist resource →
    turn.result = .error fault → turn.after.resources = turn.before.resources ∧
      (fault = .enlistAfterCompletion turn.before.id resource.name turn.before.phase ∨
        ∃ cause, fault = .beginFailed turn.before.id resource.name cause)

/-- Whatever is asked of a transaction, in any order, and whatever its resources answer, its life
is a regular one. -/
theorem life_regular {id : Nat} {turns : List Turn} {after : Transaction}
    (lives : Lives (.opened id) turns after) : Regular turns where
  distinct turn member := by
    -- The turns before this one account for what it begins with, and it for what it leaves.
    obtain ⟨early, late, rfl⟩ := List.append_of_mem member
    obtain ⟨first, runs, _⟩ := lives.parts
    have accounted := first.accounted (accounted_opened id)
    exact ⟨accounted.distinct, (accounted.perform runs).distinct⟩
  -- So the calls to each resource are in order up to any point.
  disciplined early late split key := by
    subst split
    obtain ⟨middle, first, _⟩ := lives.split
    exact (first.accounted (accounted_opened id)).disciplined key
  -- Once finished it stays so, by induction on the rest of the turns.
  final early turn late split finished := by
    subst split
    obtain ⟨_, _, rest⟩ := lives.parts
    exact rest.finished finished
  commits turn member committing := by
    -- A commit that succeeded has committed everybody, whatever came before it.
    obtain ⟨early, late, rfl⟩ := List.append_of_mem member
    obtain ⟨_, runs, _⟩ := lives.parts
    rw [committing] at runs
    exact commit_ok_iff runs
  refusals turn member resource fault enlisting failed := by
    -- A refusal to enlist tells why, whatever came before it.
    obtain ⟨early, late, rfl⟩ := List.append_of_mem member
    obtain ⟨_, runs, _⟩ := lives.parts
    rw [enlisting, failed] at runs
    exact enlist_error runs

/-- Carries out operations in given surroundings: the turns, and what they leave. -/
def live (surroundings : Plan.Surroundings) :
    List Exchange → Transaction → List Operation → Option (List Turn × Transaction)
  | _, transaction, [] => some ([], transaction)
  | past, transaction, operation :: rest =>
    match Plan.carryOut surroundings past (transaction.perform operation) with
    | none => none
    | some (trace, middle, result) =>
      match live surroundings (past ++ trace) middle rest with
      | none => none
      | some (turns, after) =>
        some (⟨operation, transaction, trace, result, middle⟩ :: turns, after)

/-- What is carried out is a life. -/
theorem lives_of_live {surroundings : Plan.Surroundings} {past : List Exchange}
    {transaction after : Transaction} {operations : List Operation} {turns : List Turn}
    (lived : live surroundings past transaction operations = some (turns, after)) :
    Lives transaction turns after := by
  -- Each operation is carried out where the one before it ended, so the past is generalised.
  induction operations generalizing past transaction turns with
  | nil =>
    cases lived
    exact .done _
  | cons operation rest ih =>
    simp only [live] at lived
    split at lived
    · cases lived
    · rename_i trace middle result carried
      split at lived
      · cases lived
      · rename_i later last further
        cases lived
        exact .turn (Plan.runs_of_carryOut carried) (ih further)

/-- Surroundings in which a first begin is refused, and the resource of key 2 cannot commit. -/
def reluctant : Plan.Surroundings
  | past, .beginWork _ => if past.isEmpty then .error (.processing "not yet") else .ok ()
  | _, .commitWork resource =>
    if resource.key = 2 then .error (.processing "table is full") else .ok ()
  | _, call => Plan.uneventful call

/-- The first resource is refused its begin and enlisted again, the commit of the second one fails,
and what is asked afterwards changes nothing: the first was called four times, the second three. -/
theorem life_regular_reluctant :
    ∃ turns after, Lives (.opened 1) turns after ∧
      ((on 1 (Turn.calls turns)).length = 4 ∧ (on 2 (Turn.calls turns)).length = 3 ∧
        after.phase = .rolledBack) ∧ Regular turns := by
  -- The whole life is computed, together with the counts that are claimed of it.
  have lived : ∃ turns after, live reluctant [] (.opened 1)
      [.enlist ⟨1, "journal"⟩, .enlist ⟨1, "journal"⟩, .enlist ⟨2, "table"⟩, .delist ⟨2, "table"⟩,
        .delist ⟨1, "journal"⟩, .commit, .enlist ⟨3, "late"⟩, .rollback "again"] =
        some (turns, after) ∧ (on 1 (Turn.calls turns)).length = 4 ∧
        (on 2 (Turn.calls turns)).length = 3 ∧ after.phase = .rolledBack :=
    ⟨_, _, rfl, by decide, by decide, rfl⟩
  obtain ⟨turns, after, lived, checked⟩ := lived
  have lives := lives_of_live lived
  exact ⟨turns, after, lives, checked, life_regular lives⟩

end Transaction

end BatchFlow
