import BatchFlow.Configuration
import BatchFlow.Stage.World

/-! The catalog: the collaborators that configurations can name, and the options each one takes. -/

namespace BatchFlow.Catalog

open Stage

/-- The steps that can be named. -/
def steps : List String := [
  "change_text_case_upper", "change_text_case_lower", "change_text_case_proper",
  "change_text_case_title", "reverse_text", "discard_matching", "reject_matching", "step_group"]

/-- Everything that can be named. -/
def implementations : List String :=
  steps ++ ["stdout", "memory"] ++ ["field_merge"] ++ ["static_items"]

/-- Whether a name is in the catalog. -/
def contains (name : String) : Bool := name ∈ implementations

/-- The number of items in a batch where no other is configured. -/
def defaultBatchSize : Nat := 10

/-- How many milliseconds a reader may take where no other limit is configured. -/
def defaultReadTimeout : Nat := 1000

/-- A component in the making: its id, and the name of the collaborator it is to have. -/
structure Request where
  component : String
  implementation : String

namespace Request

variable {α : Type}

/-- The request of an entry, which has to name a collaborator. -/
def ofEntry (component : String) (implementation : Option String) :
    Except ComponentFault Request :=
  match implementation with
  | some implementation => .ok ⟨component, implementation⟩
  | none => .error (.missingImplementation component)

/-- The name is not known, or not for this role. -/
def unknown (request : Request) : Except ComponentFault α :=
  .error (.unknownImplementation request.component request.implementation)

/-- The options are not as they have to be. -/
def invalid (request : Request) (reason : String) : Except ComponentFault α :=
  .error (.invalidOptions request.component request.implementation reason)

/-- An option that must be given as a string. -/
def string (request : Request) (options : Fields) (name : String) : Except ComponentFault String :=
  match (options.get? name).bind Item.string? with
  | some text => .ok text
  | none => request.invalid s!"'{name}' must be a string"

/-- An option that is a truth value, false if it is missing. -/
def flag (request : Request) (options : Fields) (name : String) : Except ComponentFault Bool :=
  match options.get? name with
  | none => .ok false
  | some value =>
    match value.bool? with
    | some flag => .ok flag
    | none => request.invalid s!"'{name}' must be a boolean"

/-- An option that is a 64-bit count, with a value in case it is missing. -/
def count (request : Request) (options : Fields) (name : String) (default : Nat) :
    Except ComponentFault Nat :=
  match options.get? name with
  | none => .ok default
  | some value =>
    match value.word? with
    | some count => .ok count
    | none => request.invalid s!"'{name}' must be a positive integer"

/-- A step that is not a group. -/
def singleStep (request : Request) (options : Fields) : Except ComponentFault Step :=
  match request.implementation with
  | "change_text_case_upper" => .ok (.changeCase .upper)
  | "change_text_case_lower" => .ok (.changeCase .lower)
  | "change_text_case_proper" => .ok (.changeCase .proper)
  | "change_text_case_title" => .ok (.changeCase .title)
  | "reverse_text" => .ok .reverse
  | "discard_matching" => return .matching (← request.string options "pattern") .discard
  | "reject_matching" => return .matching (← request.string options "pattern") .reject
  | _ => request.unknown

/-- The steps of a group are not named as they have to be. -/
def noSteps (request : Request) : Except ComponentFault α :=
  request.invalid "'steps' must be a list of step names"

/-- A member of a group, which has no options of its own, and so cannot be a group. -/
def member (request : Request) (name : Item) : Except ComponentFault Step :=
  match name with
  | .string "step_group" => { request with implementation := "step_group" }.noSteps
  | .string name => { request with implementation := name }.singleStep []
  | _ => request.noSteps

/-- A step of any sort. -/
def step (request : Request) (options : Fields) : Except ComponentFault Step :=
  if request.implementation = "step_group" then
    match options.get? "steps" with
    | some (.array names) => do
      return .group (← names.mapM request.member)
    | _ => request.noSteps
  else request.singleStep options

end Request

/-- A node with its collaborator. -/
structure Fitted where
  node : Node
  actor : Actor

/-- A node whose collaborator is a step. -/
def Fitted.ofStep (id : String) (step : Step) : Fitted :=
  ⟨{ Node.plain id .step step.name with problems := step.problems }, .step step⟩

/-- A node whose collaborator prints what it is given. -/
def Fitted.stdout (id : String) (pretty : Bool) : Fitted :=
  ⟨.plain id .sink "stdout", .stdout pretty⟩

/-- A node whose collaborator keeps what it is given. -/
def Fitted.memory (id : String) (reply : Bool) : Fitted :=
  ⟨{ Node.plain id .sink "memory" with metadataAware := true }, .memory reply⟩

/-- A node that enriches items from a reader. -/
def Fitted.enrich (id : String) (enricher : Enricher) (reader : Reader) (timeout : Duration) :
    Fitted :=
  ⟨{ Node.plain id (.enrich reader.name timeout) enricher.name with
      problems := enricher.problems ++ reader.problems }, .enrich enricher reader⟩

/-- A node that merges fields from a table. -/
def fieldMerge (request : Request) (options : Fields) : Except ComponentFault Fitted := do
  let keyField ← request.string options "key_field"
  let targetField ← request.string options "target_field"
  let table ← match options.get? "table" with
    | some (.object table) => pure table
    | _ => request.invalid "'table' must be an object"
  let timeout ← request.count options "read_timeout_ms" defaultReadTimeout
  return .enrich request.component (.fieldMerge ⟨keyField, targetField⟩)
    (.table (.ofObject table)) (.ofMillis timeout)

/-- The node of a request in a role. -/
def nodeFor (request : Request) (role : NodeRole) (options : Fields) :
    Except ComponentFault Fitted :=
  match role, request.implementation with
  | .step, _ => return .ofStep request.component (← request.step options)
  | .sink, "stdout" => return .stdout request.component (← request.flag options "pretty")
  | .sink, "memory" => return .memory request.component false
  | .enrich, "field_merge" => fieldMerge request options
  | _, _ => request.unknown

/-- The node of an entry. -/
def node (entry : NodeEntry) : Except ComponentFault Fitted := do
  let request ← Request.ofEntry entry.id entry.implementation
  let fitted ← nodeFor request entry.role entry.options
  return { fitted with
    node := { fitted.node with
      acceptsBatches := entry.acceptsBatches
      bestEffort := entry.bestEffort } }

/-- The source of an entry with its producer. -/
def producer (key : Nat) (defaultTimeout : Duration) (entry : ProducerEntry) :
    Except ComponentFault (Source × StaticItems) := do
  let request ← Request.ofEntry entry.id entry.implementation
  if request.implementation ≠ StaticItems.name then request.unknown else
  let items ← match entry.options.get? "items" with
    | none => pure []
    | some (.array items) => pure items
    | some _ => request.invalid "'items' must be a list"
  let batchSize ← request.count entry.options "batch_size" defaultBatchSize
  let producer := StaticItems.ofItems items (.ofNat batchSize)
  let pollTimeout := match entry.pollTimeout with
    | some millis => .ofMillis millis
    | none => defaultTimeout
  return (⟨key, entry.id, StaticItems.name, false, pollTimeout, producer.problems⟩, producer)

end BatchFlow.Catalog
