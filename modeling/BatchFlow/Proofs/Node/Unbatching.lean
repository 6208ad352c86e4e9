import BatchFlow.Proofs.Response.Batches
import BatchFlow.Proofs.Router.Atomicity
import BatchFlow.Proofs.Router.Destinations

/-! A node that is fed one item at a time makes of a message what it would make of the whole of it,
as long as its collaborators look at nothing but the item. -/

namespace BatchFlow

open Plan (Exchange)

namespace Node

/-- The work that a node does on each item by itself. A sink takes its items together. -/
def itemWork? (node : Node) : Option (Item → Work Transaction StepResult) :=
  match node.role with
  | .step => some fun item => Work.call (.applyStep node.id item)
  | .enrich reader timeout => some (node.enrich reader timeout)
  | .sink => none

/-- A response with the result for one more item in it. -/
def file (node : Node) (worker : String) (response : Response) (item : Item) :
    StepResult → Except RouteFailure Response
  | .ok outputs => .ok (response.addOutput outputs)
  | .error (.discarded reason) => .ok (response.addDiscard [item] reason)
  | .error (.failed cause) =>
    if cause.fatal then .error (.fatal node.id cause)
    else .ok (response.addError (.ofItems [item] cause node.id worker))

/-- A response with the results for several more items in it, up to the first that is fatal. -/
def fileEach (node : Node) (worker : String) (resultFor : Item → StepResult) :
    Response → List Item → Except RouteFailure Response
  | response, [] => .ok response
  | response, item :: rest =>
    match node.file worker response item (resultFor item) with
    | .error failure => .error failure
    | .ok response => fileEach node worker resultFor response rest

/-- Filing the result for one item is all there is to filing the results for a single one. -/
theorem fileEach_single (node : Node) (worker : String) (resultFor : Item → StepResult)
    (response : Response) (item : Item) :
    node.fileEach worker resultFor response [item] =
      node.file worker response item (resultFor item) := by
  unfold fileEach
  cases node.file worker response item (resultFor item) <;> rfl

/-- It is the same whether a result is filed here, or by itself and then merged. -/
theorem file_merge (node : Node) (worker : String) (response : Response) (item : Item)
    (result : StepResult) :
    node.file worker response item result =
      (node.file worker .empty item result).map response.merge := by
  -- Whatever the result is, it adds to one of the three parts of a response.
  cases result with
  | ok outputs => simp [file, Except.map, Response.merge_addOutput]
  | error rejection =>
    cases rejection with
    | discarded reason => simp [file, Except.map, Response.merge_addDiscard]
    | failed cause =>
      unfold file
      dsimp only
      split <;> simp [Except.map, Response.merge_addError]

end Node

/-- How the collaborators of a node behave: what becomes of each item, which resource they offer,
and what that resource says when its work is to begin. -/
structure Manner where
  resultFor : Item → StepResult
  offers : Option Resource
  begins : Except Condition Unit

namespace Manner

variable {manner : Manner} {node : Node} {message : Message} {trace : List Exchange}

/-- In all these exchanges the collaborators keep to their manner. Whatever they are asked about an
item, and in however many questions, the result is always the one for that item. -/
structure Kept (manner : Manner) (node : Node) (trace : List Exchange) : Prop where
  results : ∀ work before during after item state left result, node.itemWork? = some work →
    trace = before ++ during ++ after → (work item state).Runs during (left, result) →
    result = .ok (manner.resultFor item)
  offers : ∀ reply, ⟨.nodeResource node.id, reply⟩ ∈ trace → reply = manner.offers
  begins : ∀ resource reply, ⟨.beginWork resource, reply⟩ ∈ trace → reply = manner.begins

/-- What is kept all the time is kept for part of it. -/
theorem Kept.during {before during after : List Exchange}
    (kept : manner.Kept node (before ++ during ++ after)) : manner.Kept node during where
  -- A part of the middle is a part of the whole, with more around it.
  results work early within late item state left result worked split runs :=
    kept.results work (before ++ early) within (late ++ after) item state left result worked
      (by simp only [split, List.append_assoc]) runs
  offers reply member := kept.offers reply (by simp [member])
  begins resource reply member := kept.begins resource reply (by simp [member])

/-- What is kept in a trace is kept in the first part of it. -/
theorem Kept.left {first rest : List Exchange} (kept : manner.Kept node (first ++ rest)) :
    manner.Kept node first := by
  have whole : manner.Kept node ([] ++ first ++ rest) := kept
  exact whole.during

/-- It is kept in the last part of it. -/
theorem Kept.right {first rest : List Exchange} (kept : manner.Kept node (first ++ rest)) :
    manner.Kept node rest := by
  have whole : manner.Kept node (first ++ rest ++ []) := by simpa using kept
  exact whole.during

/-- It is kept after the first exchange. -/
theorem Kept.tail {exchange : Exchange} {rest : List Exchange}
    (kept : manner.Kept node (exchange :: rest)) : manner.Kept node rest := by
  have whole : manner.Kept node ([exchange] ++ rest) := kept
  exact whole.right

end Manner

namespace Node

variable {node : Node} {message : Message} {manner : Manner} {trace : List Exchange}
  {transaction after : Transaction}

/-- Classifying a result is filing it. -/
theorem classify_files {response : Response} {item : Item} {result : StepResult}
    {filed : Except RouteFailure Response}
    (runs : (node.classify message response item result transaction).Runs trace (after, filed)) :
    after = transaction ∧ filed = node.file message.worker response item result := by
  -- Reports apart, every branch does to the response what filing does.
  cases result with
  | ok outputs =>
    -- Outputs are taken into the response without a word.
    obtain ⟨_, rfl, rfl⟩ := Work.runs_pure_iff.mp runs
    exact ⟨rfl, rfl⟩
  | error rejection =>
    cases rejection with
    | discarded reason =>
      -- A discard is reported and filed.
      obtain ⟨_, _, _, more⟩ := Work.runs_call_bind_iff.mp runs
      obtain ⟨_, rfl, rfl⟩ := Work.runs_pure_iff.mp more
      exact ⟨rfl, rfl⟩
    | failed cause =>
      unfold classify at runs
      unfold file
      dsimp only at runs ⊢
      split at runs
      · -- A fatal cause is raised instead of filed.
        rename_i fatal
        obtain ⟨_, same⟩ := Plan.runs_done_iff.mp runs
        cases same
        exact ⟨rfl, by rw [if_pos fatal]⟩
      · -- Any other cause is reported and filed.
        rename_i mild
        obtain ⟨_, _, _, more⟩ := Work.runs_call_bind_iff.mp runs
        obtain ⟨_, rfl, rfl⟩ := Work.runs_pure_iff.mp more
        exact ⟨rfl, by rw [if_neg mild]⟩

/-- Working on the items one after the other files the result for each of them. -/
theorem applyEach_files {work : Item → Work Transaction StepResult}
    (worked : node.itemWork? = some work)
    (alone : ∀ item, (work item).Confined (node.bounds (message.single item)) (· = transaction))
    {response : Response} {items : List Item} {filed : Except RouteFailure Response}
    (runs : (node.applyEach message work response items transaction).Runs trace (after, filed))
    (kept : manner.Kept node trace) :
    after = transaction ∧
      filed = node.fileEach message.worker manner.resultFor response items := by
  -- The induction is on the items, and the response filed so far may be any.
  induction items generalizing response trace with
  | nil =>
    obtain ⟨_, rfl, rfl⟩ := Work.runs_pure_iff.mp runs
    exact ⟨rfl, rfl⟩
  | cons item rest ih =>
    rcases Work.runs_bind_cases runs with
      ⟨failure, ran, rfl⟩ | ⟨result, middle, first, later, rfl, ran, more⟩
    · -- The work on an item comes to a result, and not to a failure.
      have same := kept.results work [] trace [] item _ _ _ worked (by simp) ran
      cases same
    · obtain rfl : middle = transaction := ((alone item transaction rfl).runs ran).2.1
      have same := kept.results work [] first later item _ _ _ worked (by simp) ran
      cases same
      unfold fileEach
      rcases Work.runs_bind_cases more with
        ⟨failure, classified, rfl⟩ | ⟨grown, middle, filing, others, rfl, classified, further⟩
      · obtain ⟨rfl, filed⟩ := classify_files classified
        rw [← filed]
        exact ⟨rfl, rfl⟩
      · obtain ⟨rfl, filed⟩ := classify_files classified
        rw [← filed]
        exact ih further kept.right.right

/-- Apart from what a step forgets before a message, performing is working on each item. -/
theorem perform_files {work : Item → Work Transaction StepResult}
    (worked : node.itemWork? = some work) {filed : Except RouteFailure Response}
    (runs : (node.perform message transaction).Runs trace (after, filed))
    (kept : manner.Kept node trace) :
    after = transaction ∧
      filed = node.fileEach message.worker manner.resultFor .empty message.data := by
  unfold perform at runs
  cases role : node.role with
  | step =>
    -- The step is reset first, which nothing comes of.
    simp only [role] at runs
    obtain rfl : (fun item => Work.call (.applyStep node.id item)) = work := by
      simpa [itemWork?, role] using worked
    obtain ⟨_, rest, rfl, more⟩ := Work.runs_call_bind_iff.mp runs
    exact applyEach_files worked
      (fun item => Work.confined_call ⟨rfl, List.mem_singleton_self item⟩) more kept.tail
  | sink => simp [itemWork?, role] at worked
  | enrich reader timeout =>
    simp only [role] at runs
    obtain rfl : (node.enrich reader timeout) = work := by simpa [itemWork?, role] using worked
    exact applyEach_files worked
      (fun item => node.enrich_confined reader timeout (List.mem_singleton_self item)) runs kept

end Node

namespace Manner

variable {manner : Manner} {node : Node} {message : Message} {trace : List Exchange}
  {transaction after : Transaction}

/-- The resource that the node uses for a message. -/
def used (manner : Manner) (node : Node) (message : Message) : Option Resource :=
  if node.transactional && message.transaction.isSome then manner.offers else none

/-- What comes of enlisting a resource. -/
def enlisted (manner : Manner) (transaction : Transaction) (resource : Resource) :
    Transaction × Except TransactionFault Unit :=
  if transaction.phase ≠ .active then
    (transaction, .error (.enlistAfterCompletion transaction.id resource.name transaction.phase))
  else if resource.key ∈ transaction.keys then (transaction, .ok ())
  else
    match manner.begins with
    | .error cause => (transaction, .error (.beginFailed transaction.id resource.name cause))
    | .ok () =>
      ({ transaction with resources := transaction.resources ++ [⟨resource, false⟩] }, .ok ())

/-- However the exchanges went, enlisting a resource comes to this. -/
theorem enlist_runs {resource : Resource} {result : Except TransactionFault Unit}
    (runs : (transaction.enlist resource).Runs trace (after, result))
    (kept : manner.Kept node trace) : manner.enlisted transaction resource = (after, result) := by
  cases Transaction.enlist_enlists runs with
  -- The exchanges are told apart by what the resource was asked, if it was asked anything.
  | refused inactive => simp [enlisted, inactive]
  | again active member => simp [enlisted, active, member]
  | failed active absent cause =>
    have same := kept.begins resource (.error cause) (by simp)
    simp [enlisted, active, absent, ← same]
  | begun active absent =>
    have same := kept.begins resource (.ok ()) (by simp)
    simp [enlisted, active, absent, ← same]

/-- What comes of enlisting the resource that the node uses for a message, if it uses one. -/
def admitted (manner : Manner) (node : Node) (message : Message) (transaction : Transaction) :
    Transaction × Except RouteFailure (Option Resource) :=
  match manner.used node message with
  | none => (transaction, .ok none)
  | some resource =>
    match manner.enlisted transaction resource with
    | (enlisted, .error fault) => (enlisted, .error (.transaction fault))
    | (enlisted, .ok ()) => (enlisted, .ok (some resource))

/-- The transaction once the node is done with the resource that it used. -/
def released (transaction : Transaction) : Option Resource → Transaction
  | none => transaction
  | some resource => (transaction.delist resource).1

/-- What applying the node to a message comes to. -/
def applied (manner : Manner) (node : Node) (message : Message) (transaction : Transaction) :
    Transaction × Except RouteFailure Response :=
  match manner.admitted node message transaction with
  | (admitted, .error failure) => (admitted, .error failure)
  | (admitted, .ok used) =>
    match node.fileEach message.worker manner.resultFor .empty message.data with
    | .error failure => (admitted, .error failure)
    | .ok response => (released admitted used, .ok response)

/-- Sharing the metadata leaves the transaction as it is, and cannot go wrong. -/
theorem shareMetadata_runs {result : Except RouteFailure Unit}
    (runs : (node.shareMetadata message transaction).Runs trace (after, result)) :
    after = transaction ∧ result = .ok () := by
  -- Only a node that is aware of metadata is told.
  unfold Node.shareMetadata at runs
  split at runs
  · obtain ⟨_, _, _, ended⟩ := Plan.runs_ask_iff.mp runs
    obtain ⟨_, same⟩ := Plan.runs_done_iff.mp ended
    cases same
    exact ⟨rfl, rfl⟩
  · exact (Work.runs_pure_iff.mp runs).2

/-- What the node is offered is what its collaborator always offers, if it asks for anything. -/
theorem offered_runs {result : Except RouteFailure (Option Resource)}
    (runs : (node.offered transaction).Runs trace (after, result))
    (kept : manner.Kept node trace) :
    after = transaction ∧ result = .ok (if node.transactional then manner.offers else none) := by
  unfold Node.offered at runs
  -- Only a transactional node asks for the resource, and hears what it always hears.
  split at runs
  · rename_i transactional
    obtain ⟨reply, _, rfl, ended⟩ := Plan.runs_ask_iff.mp runs
    obtain ⟨rfl, same⟩ := Plan.runs_done_iff.mp ended
    cases same
    rw [if_pos transactional, kept.offers reply (by simp)]
    exact ⟨rfl, rfl⟩
  · rename_i aside
    rw [if_neg aside]
    exact (Work.runs_pure_iff.mp runs).2

/-- The node enlists the resource that it uses, if it uses one. -/
theorem enlist_admits {result : Except RouteFailure (Option Resource)}
    (runs : (node.enlist message transaction).Runs trace (after, result))
    (kept : manner.Kept node trace) :
    manner.admitted node message transaction = (after, result) := by
  rcases Work.runs_bind_cases runs with
    ⟨failure, asked, _⟩ | ⟨offer, middle, first, rest, rfl, asked, more⟩
  · -- Asking for the resource cannot go wrong.
    cases (offered_runs asked kept).2
  obtain ⟨rfl, same⟩ := offered_runs asked kept.left
  -- What is used is what was offered, unless there is no transaction.
  have uses : manner.used node message = if message.transaction.isSome then offer else none := by
    cases same
    unfold used
    cases node.transactional <;> simp
  unfold admitted
  rw [uses]
  cases offer with
  -- Nothing is offered, or there is no transaction to enlist in.
  | none =>
    obtain ⟨_, rfl, rfl⟩ := Work.runs_pure_iff.mp more
    simp
  | some resource =>
    cases within : message.transaction with
    | none =>
      rw [within] at more
      obtain ⟨_, rfl, rfl⟩ := Work.runs_pure_iff.mp more
      rfl
    | some id =>
      rw [within] at more
      simp only [Option.isSome_some, if_true]
      -- The resource is enlisted, with the outcome that enlisting has in this manner.
      rcases Work.runs_bind_cases more with
        ⟨failure, enlists, rfl⟩ | ⟨_, between, early, late, rfl, enlists, ended⟩
      · obtain ⟨outcome, enlists, same⟩ := Work.runs_ofFaulty_iff.mp enlists
        rw [enlist_runs enlists kept.right]
        cases outcome with
        | error fault =>
          cases same
          rfl
        | ok _ => cases same
      · obtain ⟨outcome, enlists, same⟩ := Work.runs_ofFaulty_iff.mp enlists
        obtain ⟨_, rfl, rfl⟩ := Work.runs_pure_iff.mp ended
        rw [enlist_runs enlists kept.right.left]
        cases outcome with
        | error fault => cases same
        | ok _ => rfl

/-- A resource that was enlisted takes part in a transaction that is active. -/
theorem enlisted_ok {resource : Resource}
    (enlists : manner.enlisted transaction resource = (after, .ok ())) :
    after.phase = .active ∧ resource.key ∈ after.keys := by
  unfold enlisted at enlists
  -- Either the resource took part already, or it has begun.
  split at enlists
  · cases enlists
  · rename_i active
    split at enlists
    · rename_i member
      cases enlists
      exact ⟨Decidable.not_not.mp active, member⟩
    · split at enlists
      · cases enlists
      · cases enlists
        exact ⟨Decidable.not_not.mp active, by simp [Transaction.keys]⟩

/-- The node was let in with the resource that it uses, and that was enlisted if there is one. -/
theorem admitted_ok {used : Option Resource}
    (admits : manner.admitted node message transaction = (after, .ok used)) :
    used = manner.used node message ∧ ∀ resource, used = some resource →
      manner.enlisted transaction resource = (after, .ok ()) := by
  -- A node that uses no resource is let in with none.
  unfold admitted at admits
  split at admits
  · rename_i unused
    cases admits
    exact ⟨unused.symm, by simp⟩
  · rename_i resource uses
    split at admits
    · cases admits
    · rename_i enlists
      cases admits
      exact ⟨uses.symm, by rintro _ ⟨⟩; exact enlists⟩

/-- A resource that takes part can be delisted. -/
theorem delist_member {resource : Resource} (member : resource.key ∈ transaction.keys) :
    transaction.delist resource =
      ({ transaction with resources := Transaction.markDone resource transaction.resources },
        .ok ()) :=
  if_pos (Transaction.includes_iff.mpr member)

/-- A resource that takes part is released without a fault. -/
theorem delist_releases {used : Option Resource} {result : Except RouteFailure Unit}
    (member : ∀ resource, used = some resource → resource.key ∈ transaction.keys)
    (runs : (Node.delist used transaction).Runs trace (after, result)) :
    after = released transaction used ∧ result = .ok () := by
  -- Only a resource that takes no part could make a fault.
  cases used with
  | none => exact (Work.runs_pure_iff.mp runs).2
  | some resource =>
    unfold Node.delist at runs
    obtain ⟨outcome, delists, rfl⟩ := Work.runs_ofFaulty_iff.mp runs
    obtain ⟨_, same⟩ := Plan.runs_done_iff.mp delists
    rw [delist_member (member resource rfl)] at same
    cases same
    exact ⟨by rw [released, delist_member (member resource rfl)], rfl⟩

/-- However the exchanges went, applying the node comes to this. -/
theorem apply_runs {work : Item → Work Transaction StepResult}
    (worked : node.itemWork? = some work) {result : Except RouteFailure Response}
    (runs : (node.apply message transaction).Runs trace (after, result))
    (kept : manner.Kept node trace) :
    manner.applied node message transaction = (after, result) := by
  unfold applied
  -- The metadata comes first, and nothing comes of it.
  rcases Work.runs_bind_cases runs with
    ⟨failure, shares, _⟩ | ⟨_, middle, first, rest, rfl, shares, more⟩
  · cases (shareMetadata_runs shares).2
  obtain ⟨rfl, _⟩ := shareMetadata_runs shares
  -- Then the resource is enlisted,
  rcases Work.runs_bind_cases more with
    ⟨failure, enlists, rfl⟩ | ⟨used, admitted, early, late, rfl, enlists, further⟩
  · rw [enlist_admits enlists kept.right]
  have admits := enlist_admits enlists kept.right.left
  rw [admits]
  -- the work is done,
  rcases Work.runs_bind_cases further with
    ⟨failure, performs, rfl⟩ | ⟨response, done, during, ending, rfl, performs, last⟩
  · obtain ⟨rfl, filed⟩ := Node.perform_files worked performs kept.right.right
    rw [← filed]
  obtain ⟨rfl, filed⟩ := Node.perform_files worked performs kept.right.right.left
  rw [← filed]
  -- and at last the resource is delisted, which goes well because it takes part.
  have member : ∀ resource, used = some resource → resource.key ∈ done.keys := fun resource uses =>
    (enlisted_ok ((admitted_ok admits).2 resource uses)).2
  rcases Work.runs_bind_cases last with
    ⟨failure, delists, rfl⟩ | ⟨_, delisted, _, _, rfl, delists, reports⟩
  · cases (delist_releases member delists).2
  obtain ⟨rfl, _⟩ := delist_releases member delists
  obtain ⟨_, _, _, ended⟩ := Work.runs_call_bind_iff.mp reports
  obtain ⟨_, rfl, rfl⟩ := Work.runs_pure_iff.mp ended
  rfl

/-- What applying the node to one item after the other comes to, beginning with some response. -/
def appliedEach (manner : Manner) (node : Node) (message : Message) :
    Response → Transaction → List Item → Transaction × Except RouteFailure Response
  | response, transaction, [] => (transaction, .ok response)
  | response, transaction, item :: rest =>
    match manner.applied node (message.single item) transaction with
    | (after, .error failure) => (after, .error failure)
    | (after, .ok next) => appliedEach manner node message (response.merge next) after rest

/-- A node that is fed one item at a time is applied to each of them. -/
theorem visitEach_runs {work : Item → Work Transaction StepResult}
    (worked : node.itemWork? = some work) {trail : List String} {traversal left : Traversal}
    {response : Response} {items : List Item} {result : Except RouteFailure Response}
    (runs : (Router.visitEach trail node message response items traversal).Runs trace
      (left, result))
    (kept : manner.Kept node trace) :
    manner.appliedEach node message response traversal.transaction items =
      (left.transaction, result) := by
  -- Each visit leaves another traversal, of which only the transaction matters to the next one.
  induction items generalizing response traversal trace with
  | nil =>
    obtain ⟨_, rfl, rfl⟩ := Work.runs_pure_iff.mp runs
    rfl
  | cons item rest ih =>
    unfold appliedEach
    rcases Work.runs_bind_cases runs with
      ⟨failure, visits, rfl⟩ | ⟨next, middle, first, later, rfl, visits, more⟩
    · obtain ⟨_, applies, rfl⟩ := Router.visit_runs_iff.mp visits
      rw [apply_runs worked applies kept]
    · obtain ⟨_, applies, rfl⟩ := Router.visit_runs_iff.mp visits
      rw [apply_runs worked applies kept.left]
      exact ih more kept.right

/-- Marking a resource as done once more changes nothing. -/
theorem markDone_markDone (resource : Resource) (entries : List Enlisted) :
    Transaction.markDone resource (Transaction.markDone resource entries) =
      Transaction.markDone resource entries := by
  -- An entry that was marked is marked, and the others are passed over both times.
  induction entries with
  | nil => rfl
  | cons entry rest ih =>
    by_cases same : entry.resource.key = resource.key <;> simp [Transaction.markDone, same, ih]

/-- A node that comes back to a transaction in which it has done its work finds everything as it
was, and leaves it so. -/
theorem applied_again {used : Option Resource} {admitted : Transaction}
    (admits : manner.admitted node message transaction = (admitted, .ok used)) (item : Item) :
    manner.applied node (message.single item) (released admitted used) =
      (released admitted used, node.file message.worker .empty item (manner.resultFor item)) := by
  obtain ⟨uses, enlists⟩ := admitted_ok admits
  have uses : manner.used node (message.single item) = used := uses.symm
  -- Enlisting again and releasing again come to nothing.
  have again : manner.admitted node (message.single item) (released admitted used) =
      (released admitted used, .ok used) ∧
      released (released admitted used) used = released admitted used := by
    unfold Manner.admitted
    rw [uses]
    cases used with
    | none => exact ⟨rfl, rfl⟩
    | some resource =>
      -- Its resource takes part already, and is marked as done already.
      obtain ⟨active, member⟩ := enlisted_ok (enlists resource rfl)
      have left : released admitted (some resource) = { admitted with
          resources := Transaction.markDone resource admitted.resources } := by
        rw [released, delist_member member]
      -- Marking as done changes no key.
      have keys : (released admitted (some resource)).keys = admitted.keys := by
        rw [left, Transaction.keys_eq, Transaction.keys_eq]
        exact congrArg (List.map (·.key))
          (Transaction.map_resource_markDone resource admitted.resources)
      have present : resource.key ∈ (released admitted (some resource)).keys := keys ▸ member
      have reenlists : manner.enlisted (released admitted (some resource)) resource =
          (released admitted (some resource), .ok ()) := by
        rw [enlisted, if_neg (by simp [left, active]), if_pos present]
      refine ⟨by simp only [reenlists], ?_⟩
      rw [released, delist_member present, left]
      simp [markDone_markDone]
  -- So the application comes to filing a single item.
  unfold applied
  rw [again.1]
  show (match node.fileEach message.worker manner.resultFor .empty [item] with
    | .error failure => (released admitted used, Except.error failure)
    | .ok response => (released (released admitted used) used, .ok response)) = _
  rw [again.2, node.fileEach_single]
  cases node.file message.worker .empty item (manner.resultFor item) <;> rfl

/-- Where the node leaves the transaction as it is, filing the items one by one is filing them at
once. -/
theorem appliedEach_still
    (still : ∀ item, manner.applied node (message.single item) transaction =
      (transaction, node.file message.worker .empty item (manner.resultFor item)))
    (response : Response) (items : List Item) :
    manner.appliedEach node message response transaction items =
      (transaction, node.fileEach message.worker manner.resultFor response items) := by
  -- Responses are merged on one side and grow on the other, so the one so far is generalised.
  induction items generalizing response with
  | nil => rfl
  | cons item rest ih =>
    unfold appliedEach Node.fileEach
    rw [still item, node.file_merge _ response]
    cases node.file message.worker .empty item (manner.resultFor item) with
    | error failure => rfl
    | ok next => exact ih (response.merge next)

/-- One item after the other, or all of them at once: the results are the same, and so is the
transaction if all goes well. -/
theorem appliedEach_eq (manner : Manner) (node : Node) (transaction : Transaction)
    (several : message.data ≠ []) :
    (manner.appliedEach node message .empty transaction message.data).2 =
      (manner.applied node message transaction).2 ∧
    ∀ response, (manner.applied node message transaction).2 = .ok response →
      (manner.appliedEach node message .empty transaction message.data).1 =
        (manner.applied node message transaction).1 := by
  obtain ⟨item, rest, data⟩ := List.exists_cons_of_ne_nil several
  -- For the transaction, the first item is like the whole message.
  have first : manner.applied node (message.single item) transaction =
      match manner.admitted node message transaction with
      | (admitted, .error failure) => (admitted, .error failure)
      | (admitted, .ok used) =>
        match node.file message.worker .empty item (manner.resultFor item) with
        | .error failure => (admitted, .error failure)
        | .ok response => (released admitted used, .ok response) := by
    rw [← node.fileEach_single]
    rfl
  unfold applied
  rw [data]
  unfold appliedEach Node.fileEach
  rw [first]
  cases admits : manner.admitted node message transaction with
  | mk admitted outcome =>
    cases outcome with
    | error failure => exact ⟨rfl, fun _ fine => by cases fine⟩
    | ok used =>
      -- The others find the resource of the node as the first one left it.
      have others := appliedEach_still (applied_again admits)
      have merged := node.file_merge message.worker .empty item (manner.resultFor item)
      cases filed : node.file message.worker .empty item (manner.resultFor item) with
      | error failure => exact ⟨rfl, fun _ fine => by cases fine⟩
      | ok next =>
        rw [filed] at merged
        -- Merging the first response into nothing gives that response.
        have same : Response.empty.merge next = next := (Except.ok.inj merged).symm
        dsimp only
        rw [same, others next rest]
        cases node.fileEach message.worker manner.resultFor next rest with
        | error failure => exact ⟨rfl, fun _ fine => by cases fine⟩
        | ok response => exact ⟨rfl, fun _ _ => rfl⟩

/-- Once a resource is marked as done, only others have work to do. -/
theorem mem_markDone {resource : Resource} {entries : List Enlisted}
    (distinct : (entries.map (·.resource.key)).Nodup) :
    ∀ entry ∈ Transaction.markDone resource entries, entry.delisted = true ∨
      (entry ∈ entries ∧ entry.resource.key ≠ resource.key) := by
  -- Marking stops at the first entry of the key, so there must be no second one.
  induction entries with
  | nil => simp [Transaction.markDone]
  | cons first rest ih =>
    obtain ⟨apart, distinct⟩ := List.nodup_cons.mp distinct
    intro entry member
    by_cases same : first.resource.key = resource.key
    · -- The first entry is marked, and no later one has its key.
      rw [Transaction.markDone, if_pos same] at member
      rcases List.mem_cons.mp member with rfl | later
      · exact .inl rfl
      · refine .inr ⟨List.mem_cons_of_mem _ later, fun equal => apart ?_⟩
        exact List.mem_map.mpr ⟨entry, later, equal.trans same.symm⟩
    · rw [Transaction.markDone, if_neg same] at member
      rcases List.mem_cons.mp member with rfl | later
      · exact .inr ⟨List.mem_cons_self, same⟩
      · exact (ih distinct entry later).imp_right (And.imp_left (List.mem_cons_of_mem _))

/-- Enlisting a resource adds no entry but its own, and that only if it has none. -/
theorem enlisted_resources {resource : Resource}
    (enlists : manner.enlisted transaction resource = (after, .ok ()))
    (distinct : transaction.keys.Nodup) :
    after.keys.Nodup ∧
      ∀ entry ∈ after.resources, entry.resource.key ≠ resource.key →
        entry ∈ transaction.resources := by
  unfold enlisted at enlists
  split at enlists
  · -- Only a resource that takes no part is added, and it comes last.
    cases enlists
  · split at enlists
    · cases enlists
      exact ⟨distinct, fun _ member _ => member⟩
    · rename_i absent
      split at enlists
      · cases enlists
      · cases enlists
        refine ⟨?_, fun entry member other => ?_⟩
        · have apart : ∀ entry ∈ transaction.resources, entry.resource.key ≠ resource.key := by
            simpa [Transaction.keys] using absent
          simpa [Transaction.keys, List.nodup_append] using ⟨distinct, apart⟩
        · rcases List.mem_append.mp member with old | new
          · exact old
          · cases List.mem_singleton.mp new
            exact absurd rfl other

/-- Whoever still has work to do after the node is done had it before, and is not the resource of
the node. -/
theorem applied_delists {response : Response} (distinct : transaction.keys.Nodup)
    (applies : manner.applied node message transaction = (after, .ok response)) :
    ∀ entry ∈ after.resources, entry.delisted = true ∨
      (entry ∈ transaction.resources ∧
        ∀ resource, manner.used node message = some resource →
          entry.resource.key ≠ resource.key) := by
  unfold applied at applies
  cases admits : manner.admitted node message transaction with
  | mk admitted outcome =>
    rw [admits] at applies
    -- A response shows that enlisting and filing both went well.
    cases outcome with
    | error failure => cases applies
    | ok used =>
      obtain ⟨uses, enlists⟩ := admitted_ok admits
      cases filed : node.fileEach message.worker manner.resultFor .empty message.data with
      | error failure =>
        rw [filed] at applies
        cases applies
      | ok response =>
        rw [filed] at applies
        cases applies
        rw [← uses]
        intro entry member
        cases used with
        | none =>
          -- Nothing was enlisted, and so nothing changed.
          unfold Manner.admitted at admits
          rw [← uses] at admits
          cases admits
          exact .inr ⟨member, by simp⟩
        | some resource =>
          -- The only entry that was added is the one that is marked in the end.
          have enlists := enlists resource rfl
          obtain ⟨unique, old⟩ := enlisted_resources enlists distinct
          rw [released, delist_member (enlisted_ok enlists).2] at member
          refine (mem_markDone unique entry member).imp_right fun kept => ?_
          refine ⟨old entry kept.1 kept.2, ?_⟩
          rintro _ ⟨⟩
          exact kept.2

/-- The collaborator of a step keeps to a manner if it always gives the same answers. -/
theorem kept_of_replies {answers : (call : Call) → call.Reply} (role : node.role = .step)
    (results : ∀ item, answers (.applyStep node.id item) = manner.resultFor item)
    (offers : answers (.nodeResource node.id) = manner.offers)
    (begins : ∀ resource, answers (.beginWork resource) = manner.begins)
    (replies : ∀ exchange ∈ trace, exchange.reply = answers exchange.call) :
    manner.Kept node trace where
  results work before during after item state left result worked split runs := by
    -- A step is asked once for each item, and what it answers is the result.
    obtain rfl : (fun item => Work.call (.applyStep node.id item)) = work := by
      simpa [Node.itemWork?, role] using worked
    obtain ⟨reply, rest, rfl, ended⟩ := Plan.runs_ask_iff.mp runs
    obtain ⟨_, same⟩ := Plan.runs_done_iff.mp ended
    cases same
    have answered := replies ⟨.applyStep node.id item, reply⟩ (by simp [split])
    exact congrArg Except.ok (answered.trans (results item))
  offers reply member := (replies _ member).trans offers
  begins resource reply member := (replies _ member).trans (begins resource)

end Manner

namespace Router

/-- Feeding a node one item at a time does not change what it makes of a message. Both ways come to
an end, whatever is answered. If the collaborators keep to one manner, both come to the same
response, with the same batches, or to the same failure; and if they come to a response, both leave
the same transaction, in which the resource that the node used is delisted, and no other has more
work to do than before. -/
theorem apply_unbatched {node : Node} (perItem : node.role ≠ .sink) (trail : List String)
    (message : Message) (traversal : Traversal) :
    (apply trail node message traversal).Ends ∧
    (node.apply message traversal.transaction).Ends ∧
    ∀ (manner : Manner) (single whole : List Exchange) (left : Traversal) (after : Transaction)
      (merged response : Except RouteFailure Response),
      manner.Kept node single → manner.Kept node whole →
      (apply trail node message traversal).Runs single (left, merged) →
      (node.apply message traversal.transaction).Runs whole (after, response) →
      merged = response ∧ ∀ filed, response = .ok filed → left.transaction = after ∧
        (traversal.transaction.keys.Nodup → ∀ entry ∈ after.resources, entry.delisted = true ∨
          (entry ∈ traversal.transaction.resources ∧ ∀ resource,
            manner.used node message = some resource → entry.resource.key ≠ resource.key)) := by
  -- Neither way goes through anything but the items, so no allowance can be too small for it.
  have split : Guided (fun _ => True) True False (apply trail node message) :=
    apply_guided node message (fun _ _ => trivial) trivial
  have together :
      (node.apply message).Confined (.walking (fun _ => True) True False) fun _ => True :=
    node.apply_walking message trivial
  refine ⟨(split traversal fun _ _ _ _ => trivial).comesToAnEnd,
    (together traversal.transaction trivial).comesToAnEnd, ?_⟩
  intro manner single whole left after merged response keptSingle keptWhole runsSingle runsWhole
  -- Any other role than that of a sink works on each item by itself.
  obtain ⟨work, worked⟩ : ∃ work, node.itemWork? = some work := by
    unfold Node.itemWork?
    cases role : node.role with
    | step => exact ⟨_, rfl⟩
    | sink => exact absurd role perItem
    | enrich reader timeout => exact ⟨_, rfl⟩
  have applies := Manner.apply_runs worked runsWhole keptWhole
  have same : merged = response ∧ ∀ filed, response = .ok filed → left.transaction = after := by
    unfold apply at runsSingle
    split at runsSingle
    · -- The message is passed on as it is.
      obtain ⟨transaction, visits, rfl⟩ := visit_runs_iff.mp runsSingle
      have visited := Manner.apply_runs worked visits keptSingle
      rw [applies] at visited
      cases visited
      exact ⟨rfl, fun _ _ => rfl⟩
    · -- There are several items, to each of which the node is applied.
      rename_i several
      have nonempty : message.data ≠ [] := by
        intro none
        simp [none] at several
      have visited := Manner.visitEach_runs worked runsSingle keptSingle
      obtain ⟨results, transactions⟩ := manner.appliedEach_eq node traversal.transaction nonempty
      rw [visited, applies] at results transactions
      exact ⟨results, transactions⟩
  refine ⟨same.1, fun filed fine => ⟨same.2 filed fine, fun distinct => ?_⟩⟩
  subst fine
  exact Manner.applied_delists distinct applies

/-- A step that keeps one sort of item, discards another one, and fails on everything else. -/
def sieve : Node :=
  { Node.plain "sieve" .step "sift" with transactional := true, acceptsBatches := false }

/-- How the step treats its items, and the resource that it uses. -/
def sifting : Manner where
  resultFor
    | .string "gold" => .ok [.string "gold"]
    | .string "sand" => .error (.discarded "worthless")
    | _ => .error (.failed (.dataFormat "not a mineral"))
  offers := some ⟨1, "pan"⟩
  begins := .ok ()

/-- Answers that keep to this manner. -/
def sifted : (call : Call) → call.Reply
  | .applyStep _ item => sifting.resultFor item
  | .nodeResource _ => sifting.offers
  | .beginWork _ => sifting.begins
  | call => Plan.uneventful call

/-- Six items of which two, three and one are alike. -/
def river : Message :=
  ⟨"river", [.string "gold", .string "sand", .string "sand", .null, .null, .null], none, "", some 1,
    none, 0⟩

/-- Whether there is one discard batch and one error batch, and each item had a visit of its own. -/
def isSifted : Traversal × Except RouteFailure Response → Bool
  | (left, .ok response) =>
    response.discards.length == 1 && response.errors.length == 1 && left.visits.length == 6
  | _ => false

/-- Neighbours that are discarded for one reason or fail in one way end up in one batch, although
each of the six items is sifted by itself. -/
theorem apply_unbatched_sieve :
    ∃ (single whole : List Exchange) (left : Traversal) (after : Transaction)
      (response : Response),
      (apply [] sieve river (.opened 1)).Runs single (left, .ok response) ∧
      (sieve.apply river (.opened 1)).Runs whole (after, .ok response) ∧
      sifting.Kept sieve single ∧ sifting.Kept sieve whole ∧
      isSifted (left, .ok response) = true ∧ left.transaction = after := by
  -- The two runs are computed; that they come to the same is not, but follows.
  obtain ⟨single, ⟨left, merged⟩, splits, alone, checked⟩ := Plan.exists_run_of_answers sifted
    (apply [] sieve river (.opened 1)) isSifted (by decide)
  obtain ⟨whole, ⟨after, response⟩, applies, together, _⟩ := Plan.exists_run_of_answers sifted
    (sieve.apply river (.opened 1)) (fun _ => true) (by decide)
  have kept : ∀ trace, (∀ exchange ∈ trace, exchange.reply = sifted exchange.call) →
      sifting.Kept sieve trace := fun trace =>
    Manner.kept_of_replies rfl (fun _ => rfl) rfl (fun _ => rfl)
  obtain ⟨_, _, unbatched⟩ :=
    apply_unbatched (show sieve.role ≠ .sink by decide) [] river (.opened 1)
  obtain ⟨rfl, settled⟩ := unbatched sifting single whole left after merged response
    (kept single alone) (kept whole together) splits applies
  cases merged with
  | error failure => cases checked
  | ok filed =>
    exact ⟨single, whole, left, after, filed, splits, applies, kept single alone,
      kept whole together, checked, (settled filed rfl).1⟩

end Router

end BatchFlow
