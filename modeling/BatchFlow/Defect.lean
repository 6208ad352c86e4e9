/-! Defects of a topology or a configuration, which keep it from being run. -/

namespace BatchFlow

/-- Something that makes a topology or its configuration unusable. -/
inductive Defect where
  /-- A route leads to an id that is neither a node nor a producer. -/
  | unresolvedDestination (origin channel destination : String)
  /-- Routes leave an id that is neither a node nor a producer. -/
  | unknownOrigin (origin : String)
  /-- A route leads to a producer. -/
  | producerDestination (origin destination : String)
  /-- An error rule names a kind that was never registered. -/
  | unknownKind (origin kind : String)
  /-- An id is declared more than once. -/
  | duplicateId (id : String)
  /-- An error kind is declared more than once. -/
  | duplicateKind (kind : String)
  /-- An error kind is placed under a kind that does not exist. -/
  | unknownParent (kind parent : String)
  /-- Error kinds are each other's ancestors; the first is repeated at the end. -/
  | cyclicKinds (cycle : List String)
  /-- Nothing would ever yield a batch. -/
  | noProducers
  /-- A collaborator has a problem with its own options. -/
  | misconfigured (component problem : String)
deriving DecidableEq

namespace Defect

/-- The text of a defect. -/
def text : Defect → String
  | unresolvedDestination origin channel destination =>
    s!"'{origin}' routes {channel} to '{destination}' which does not exist"
  | unknownOrigin origin => s!"Routes declared for unknown component '{origin}'"
  | producerDestination origin destination =>
    s!"'{origin}' routes to producer '{destination}'; producers can only be route origins"
  | unknownKind origin kind =>
    s!"Error route on '{origin}' uses unregistered error kind '{kind}'"
  | duplicateId id => s!"Duplicate component ID: '{id}'"
  | duplicateKind kind => s!"Duplicate error kind: '{kind}'"
  | unknownParent kind parent =>
    s!"Error kind '{kind}' declares parent '{parent}' which does not exist"
  | cyclicKinds cycle => "Cyclic error kind hierarchy: " ++ String.intercalate " -> " cycle
  | noProducers => "No producers configured"
  | misconfigured component problem => s!"Component '{component}' is misconfigured: {problem}"

end Defect

end BatchFlow
