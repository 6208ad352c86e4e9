import BatchFlow.Kinds

/-! Topologies: where the output, the discards and the errors of every node go. -/

namespace BatchFlow

/-- Errors of a kind, or of one that specializes it, go to some destinations. -/
structure ErrorRule where
  kind : Kind
  destinations : List String
deriving DecidableEq

/-- The routes that leave one node or producer. -/
structure Routes where
  output : List String
  discard : List String
  errors : List ErrorRule
deriving DecidableEq

namespace Routes

/-- No routes at all. -/
def none : Routes := ⟨[], [], []⟩

end Routes

/-- A checked routing map. A channel without routes is a leaf: what reaches it stops there. -/
structure Topology where
  /-- The routes of each origin, every origin once. -/
  routes : List (String × Routes)
  defaultErrors : List String
  producers : List String
  nodes : List String
  kinds : Kinds

namespace Topology

/-- The routes that leave an origin, if it has any. -/
def routes? (topology : Topology) (origin : String) : Option Routes :=
  (topology.routes.find? (·.1 == origin)).map (·.2)

/-- Where the output of a node goes. -/
def outputOf (topology : Topology) (origin : String) : List String :=
  match topology.routes? origin with
  | some routes => routes.output
  | none => []

/-- Where the discards of a node go. -/
def discardOf (topology : Topology) (origin : String) : List String :=
  match topology.routes? origin with
  | some routes => routes.discard
  | none => []

/-- The error rules of a node, in declared order. -/
def errorRulesOf (topology : Topology) (origin : String) : List ErrorRule :=
  match topology.routes? origin with
  | some routes => routes.errors
  | none => []

/-- Adds the destinations that are not listed yet. -/
def addNew : List String → List String → List String
  | listed, [] => listed
  | listed, next :: rest => addNew (if next ∈ listed then listed else listed ++ [next]) rest

/-- Where errors of a kind go by a node's own rules: those of the kind or of an ancestor, in
declared order, each destination once. -/
def errorOf (topology : Topology) (origin : String) (kind : Kind) : List String :=
  let ancestry := topology.kinds.ancestors kind
  let matching := (topology.errorRulesOf origin).filter (·.kind ∈ ancestry)
  addNew [] (matching.flatMap (·.destinations))

/-- Where errors of a kind go in the end: by the node's own rules, or else to the default
destinations unless the node is one of them. -/
def errorDestinations (topology : Topology) (origin : String) (kind : Kind) : List String :=
  let routed := topology.errorOf origin kind
  if !routed.isEmpty then routed
  else if origin ∈ topology.defaultErrors then []
  else topology.defaultErrors

/-- Whether an id is a producer's. -/
def isProducer (topology : Topology) (id : String) : Bool := id ∈ topology.producers

/-- Whether an id is a node's. -/
def isNode (topology : Topology) (id : String) : Bool := id ∈ topology.nodes

end Topology

end BatchFlow
