import BatchFlow.Topology

/-! Drafting a topology: ids and routes are collected first, and then checked all at once. -/

namespace BatchFlow

/-- One statement about a topology in the making. -/
inductive Declaration where
  | producer (id : String)
  | node (id : String)
  | output (origin : String) (destinations : List String)
  | discard (origin : String) (destinations : List String)
  | error (origin : String) (rule : ErrorRule)
  /-- The output of each id goes to the next. -/
  | pipeline (ids : List String)
  | defaultErrors (destinations : List String)
deriving DecidableEq

/-- A topology in the making. -/
structure Draft where
  producers : List String
  nodes : List String
  /-- The routes of each origin that was mentioned, in the order of first mention. -/
  routes : List (String × Routes)
  defaultErrors : List String

namespace Draft

/-- Nothing declared yet. -/
def empty : Draft := ⟨[], [], [], []⟩

/-- Changes the routes of an origin, which is mentioned by it. -/
def updateRoutes (change : Routes → Routes) (origin : String) :
    List (String × Routes) → List (String × Routes)
  | [] => [(origin, change .none)]
  | (id, routes) :: rest =>
    if id = origin then (id, change routes) :: rest
    else (id, routes) :: updateRoutes change origin rest

/-- Appends destinations for output. -/
def addOutput (draft : Draft) (origin : String) (destinations : List String) : Draft :=
  { draft with
    routes := updateRoutes (fun routes => { routes with output := routes.output ++ destinations })
      origin draft.routes }

/-- Appends destinations for discards. -/
def addDiscard (draft : Draft) (origin : String) (destinations : List String) : Draft :=
  { draft with
    routes := updateRoutes (fun routes => { routes with discard := routes.discard ++ destinations })
      origin draft.routes }

/-- Appends an error rule. -/
def addError (draft : Draft) (origin : String) (rule : ErrorRule) : Draft :=
  { draft with
    routes := updateRoutes (fun routes => { routes with errors := routes.errors ++ [rule] })
      origin draft.routes }

/-- Routes the output of each id to the one after it. -/
def chain (draft : Draft) : List String → Draft
  | first :: second :: rest => chain (draft.addOutput first [second]) (second :: rest)
  | _ => draft

/-- Takes up one declaration. -/
def declare (draft : Draft) : Declaration → Draft
  | .producer id => { draft with producers := draft.producers ++ [id] }
  | .node id => { draft with nodes := draft.nodes ++ [id] }
  | .output origin destinations => draft.addOutput origin destinations
  | .discard origin destinations => draft.addDiscard origin destinations
  | .error origin rule => draft.addError origin rule
  | .pipeline ids => draft.chain ids
  | .defaultErrors destinations =>
    { draft with defaultErrors := draft.defaultErrors ++ destinations }

/-- The draft that a list of declarations makes. -/
def ofDeclarations (declarations : List Declaration) : Draft :=
  declarations.foldl declare empty

/-- A duplicate for every id that already occurs among the `seen` ones. -/
def duplicates (seen : List String) : List String → List Defect
  | [] => []
  | id :: rest =>
    if id ∈ seen then .duplicateId id :: duplicates seen rest else duplicates (id :: seen) rest

/-- What is wrong with a destination: it has to be a node. -/
def checkDestination (draft : Draft) (origin channel destination : String) : List Defect :=
  if destination ∈ draft.producers then [.producerDestination origin destination]
  else if destination ∈ draft.nodes then []
  else [.unresolvedDestination origin channel destination]

/-- What is wrong with an error rule: its kind, then its destinations. -/
def checkRule (draft : Draft) (kinds : Kinds) (origin : String) (rule : ErrorRule) : List Defect :=
  (if kinds.contains rule.kind then [] else [.unknownKind origin rule.kind.name]) ++
    rule.destinations.flatMap (draft.checkDestination origin "errors")

/-- What is wrong with the routes of one origin. -/
def checkRoutes (draft : Draft) (kinds : Kinds) (origin : String) (routes : Routes) :
    List Defect :=
  (if origin ∈ draft.producers ∨ origin ∈ draft.nodes then [] else [.unknownOrigin origin]) ++
    routes.output.flatMap (draft.checkDestination origin "output") ++
    routes.discard.flatMap (draft.checkDestination origin "discard") ++
    routes.errors.flatMap (draft.checkRule kinds origin)

/-- Everything wrong with a draft. -/
def defects (draft : Draft) (kinds : Kinds) : List Defect :=
  duplicates [] (draft.producers ++ draft.nodes) ++
    draft.routes.flatMap (fun entry => draft.checkRoutes kinds entry.1 entry.2) ++
    draft.defaultErrors.flatMap (draft.checkDestination "<adaptor>" "default errors")

/-- The topology that a draft describes, if nothing is wrong with it. -/
def build (draft : Draft) (kinds : Kinds) : Except (List Defect) Topology :=
  let defects := draft.defects kinds
  if defects.isEmpty then
    .ok ⟨draft.routes, draft.defaultErrors, draft.producers, draft.nodes, kinds⟩
  else .error defects

end Draft

namespace Topology

/-- The topology of a list of declarations, or everything wrong with them. -/
def ofDeclarations (kinds : Kinds) (declarations : List Declaration) :
    Except (List Defect) Topology :=
  (Draft.ofDeclarations declarations).build kinds

end Topology

end BatchFlow
