import BatchFlow.Plan

/-! Transactions: the boundary around the traversal of one top-level message. Resources enlist
while the message is routed, and all of them commit, or all of them roll back, once it is over. -/

namespace BatchFlow

/-- A resource that takes part, and whether its work in the transaction is done. -/
structure Enlisted where
  resource : Resource
  delisted : Bool
deriving DecidableEq

/-- One unit of work and the resources that take part in it. -/
structure Transaction where
  id : Nat
  phase : Phase
  resources : List Enlisted
deriving DecidableEq

namespace Transaction

/-- A new transaction, which is active. -/
def opened (id : Nat) : Transaction := ⟨id, .active, []⟩

/-- Whether a resource takes part. -/
def includes (transaction : Transaction) (resource : Resource) : Bool :=
  transaction.resources.any (·.resource.key == resource.key)

/-- The resources that take part, in the order of their enlistment. -/
def enlisted (transaction : Transaction) : List Resource :=
  transaction.resources.map (·.resource)

/-- Takes a resource out again. -/
def withdraw (transaction : Transaction) (resource : Resource) : Transaction :=
  { transaction with
    resources := transaction.resources.filter (·.resource.key != resource.key) }

/-- Enlists a resource; its work begins the first time it is seen. -/
def enlist (transaction : Transaction) (resource : Resource) :
    Plan (Transaction × Except TransactionFault Unit) := do
  if transaction.phase ≠ .active then
    let fault := .enlistAfterCompletion transaction.id resource.name transaction.phase
    return (transaction, .error fault)
  -- One that takes part already is in the middle of its work, and is not begun again.
  if transaction.includes resource then
    return (transaction, .ok ())
  -- The resource is listed before it is asked to begin.
  let enlisted := { transaction with resources := transaction.resources ++ [⟨resource, false⟩] }
  match ← Plan.call (.beginWork resource) with
  | .error cause =>
    -- A resource that could not begin has nothing to commit or to roll back.
    return (enlisted.withdraw resource, .error (.beginFailed transaction.id resource.name cause))
  | .ok () =>
    Plan.log (.resourceEnlisted transaction.id resource.name)
    return (enlisted, .ok ())

/-- Marks the first entry of a resource as done. -/
def markDone (resource : Resource) : List Enlisted → List Enlisted
  | [] => []
  | entry :: rest =>
    if entry.resource.key = resource.key then { entry with delisted := true } :: rest
    else entry :: markDone resource rest

/-- Marking a resource as done changes neither which resources take part nor their order. -/
@[simp] theorem map_resource_markDone (resource : Resource) (entries : List Enlisted) :
    (markDone resource entries).map (·.resource) = entries.map (·.resource) := by
  induction entries with
  | nil => rfl
  | cons entry rest ih =>
    simp only [markDone]
    split <;> simp [ih]

/-- Marks a resource as done with its work in the transaction. -/
def delist (transaction : Transaction) (resource : Resource) :
    Transaction × Except TransactionFault Unit :=
  if transaction.includes resource then
    ({ transaction with resources := markDone resource transaction.resources }, .ok ())
  else (transaction, .error (.notEnlisted transaction.id resource.name))

/-- Asks resources to roll back one after the other; one that cannot is only reported. -/
def rollbackEach (id : Nat) (cause : String) : List Resource → Plan Unit
  | [] => return ()
  | resource :: rest => do
    match ← Plan.call (.rollbackWork resource cause) with
    | .error failure => Plan.log (.resourceRollbackFailed id resource.name failure.text)
    | .ok () => pure ()
    rollbackEach id cause rest

/-- Rolls every enlisted resource back, whatever the phase. -/
def undo (transaction : Transaction) (cause : String) : Plan Transaction := do
  rollbackEach transaction.id cause transaction.enlisted
  Plan.log (.transactionRolledBack transaction.id transaction.resources.length cause)
  return { transaction with phase := .rolledBack }

/-- Commits resources one after the other up to the first that fails. -/
def commitEach (id : Nat) : List Resource → Plan (Except TransactionFault Unit)
  | [] => return .ok ()
  | resource :: rest => do
    match ← Plan.call (.commitWork resource) with
    | .error cause =>
      Plan.log (.resourceCommitFailed id resource.name cause.text)
      return .error (.commitFailed id resource.name cause)
    | .ok () => commitEach id rest

/-- Commits every resource in the order of enlistment. The first failure, or a resource whose work
was never done, rolls all of them back instead. -/
def commit (transaction : Transaction) : Plan (Transaction × Except TransactionFault Unit) := do
  if transaction.phase ≠ .active then
    let fault := .invalidPhase transaction.id "commit" transaction.phase
    return (transaction, .error fault)
  let committing := { transaction with phase := .committing }
  -- Nothing is committed while some resource is still at work.
  match committing.resources.find? (!·.delisted) with
  | some pending =>
    let fault := TransactionFault.notDelisted transaction.id pending.resource.name
    return (← committing.undo fault.text, .error fault)
  | none =>
    match ← commitEach transaction.id committing.enlisted with
    -- Those that have committed by then are rolled back with the others.
    | .error fault => return (← committing.undo fault.text, .error fault)
    | .ok () =>
      Plan.log (.transactionCommitted transaction.id transaction.resources.length)
      return ({ transaction with phase := .committed }, .ok ())

/-- Rolls a transaction back for a cause, unless nothing more can happen to it. -/
def rollback (transaction : Transaction) (cause : String) : Plan Transaction :=
  if transaction.phase.isFinished then return transaction
  else { transaction with phase := .committing }.undo cause

/-- The diagnostic text of a transaction. -/
def inspect (transaction : Transaction) : String :=
  Text.inspectRecord "Transaction" [
    ("id", toString transaction.id),
    ("state", transaction.phase.inspect),
    ("resources", Text.inspectList (transaction.enlisted.map (·.name)))]

end Transaction

end BatchFlow
