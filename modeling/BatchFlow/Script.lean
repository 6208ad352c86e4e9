import BatchFlow.Condition

/-! Scripted collaborators, which answer as they are told. They stand in for outside systems when a
topology is tried out. -/

namespace BatchFlow

/-- What a scripted step or enricher makes of an item. -/
inductive Outcome where
  /-- The item itself is the only output. -/
  | same
  | output (items : List Item)
  | discard (reason : String)
  | fail (condition : Condition)

/-- The outcome for an item. -/
def Outcome.resultFor (item : Item) : Outcome → StepResult
  | same => .ok [item]
  | output items => .ok items
  | discard reason => .error (.discarded reason)
  | fail condition => .error (.failed condition)

/-- A step with a rule for certain items and a default for all others. -/
structure StepScript where
  rules : List (Item × Outcome)
  default : Outcome
  problems : List String
  /-- What the step writes into the metadata before each item. -/
  writes : Option Fields

/-- The outcome of the first rule for an item, or else the default. -/
def StepScript.resultFor (script : StepScript) (item : Item) : StepResult :=
  let outcome := match script.rules.find? (·.1.agrees item) with
    | some (_, outcome) => outcome
    | none => script.default
  outcome.resultFor item

/-- What comes of connecting and disconnecting, call by call. Past the end all calls succeed. -/
structure LinkScript where
  connect : List (Option Condition)
  disconnect : List (Option Condition)

/-- The result of the call of a given number, counted from zero. -/
def callResult (conditions : List (Option Condition)) (number : Nat) : Except Condition Unit :=
  match conditions[number]? with
  | some (some condition) => .error condition
  | _ => .ok ()

/-- What comes of one delivery. -/
inductive Delivery where
  | silent
  | reply (item : Item)
  | fail (condition : Condition)

/-- The result of a delivery. -/
def Delivery.result : Delivery → Except Condition (Option Item)
  | silent => .ok none
  | reply item => .ok (some item)
  | fail condition => .error condition

/-- A sink with an entry for each delivery, the last one counting for all that follow. -/
structure SinkScript where
  deliveries : List Delivery
  link : LinkScript
  problems : List String

/-- The result of the delivery of a given number, counted from zero. -/
def SinkScript.resultOf (script : SinkScript) (number : Nat) : Except Condition (Option Item) :=
  match script.deliveries[min number (script.deliveries.length - 1)]? with
  | some delivery => delivery.result
  | none => .ok none

/-- A reader that takes its time, and then fails or returns its records. -/
structure ReaderScript where
  delay : Nat
  error : Option Condition
  records : List Item
  /-- Given if connecting and disconnecting are scripted too. -/
  link : Option LinkScript
  problems : List String

/-- The result of a read. -/
def ReaderScript.result (script : ReaderScript) : Except Condition (List Item) :=
  match script.error with
  | some condition => .error condition
  | none => .ok script.records

/-- What one poll of a scripted producer comes to. -/
inductive PollScript where
  | batch (items : List Item)
  | fail (condition : Condition)
  | panic
  | nothing

/-- A producer with an entry for each poll: how long it takes, in milliseconds, and its result. -/
structure ProducerScript where
  polls : List (Nat × PollScript)
  /-- Whether more might come after the last entry. -/
  idle : Bool
  /-- Whether no position is ever reported. -/
  contextless : Bool
  link : LinkScript
  terminal : List (Option Condition)
  problems : List String

end BatchFlow
