import BatchFlow.Condition
import BatchFlow.Defect

/-! The hierarchy of error kinds, and how declarations extend the kinds that are built in. -/

namespace BatchFlow

/-- A hierarchy of kinds: each registered kind with its parent, which only the root lacks. -/
structure Kinds where
  parents : List (Kind × Option Kind)

namespace Kinds

/-- The kinds that are always there. -/
def builtIn : Kinds :=
  ⟨[(.root, none), (.processing, some .root), (.dataFormat, some .processing),
    (.connection, some .processing)]⟩

/-- The entry of a registered kind. -/
def lookup? (kinds : Kinds) (kind : Kind) : Option (Option Kind) :=
  (kinds.parents.find? (·.1 == kind)).map (·.2)

/-- Whether a kind is registered. -/
def contains (kinds : Kinds) (kind : Kind) : Bool :=
  (kinds.lookup? kind).isSome

/-- The registered kinds. -/
def all (kinds : Kinds) : List Kind :=
  kinds.parents.map (·.1)

/-- The kind above a kind. One that is not registered stands directly under the root. -/
def parent? (kinds : Kinds) (kind : Kind) : Option Kind :=
  match kinds.lookup? kind with
  | some parent => parent
  | none => if kind.isRoot then none else some .root

/-- Climbs at most `steps` times, and never to a kind already met. -/
def climb (kinds : Kinds) (met : List Kind) (current : Kind) : Nat → List Kind
  | 0 => met
  | steps + 1 =>
    match kinds.parent? current with
    | some parent => if parent ∈ met then met else climb kinds (met ++ [parent]) parent steps
    | none => met

/-- A kind followed by each of its ancestors up to the root. -/
def ancestors (kinds : Kinds) (kind : Kind) : List Kind :=
  climb kinds [kind] kind (kinds.parents.length + 1)

/-- Whether a kind is another one or specializes it. -/
def isA (kinds : Kinds) (kind ancestor : Kind) : Bool :=
  ancestor ∈ kinds.ancestors kind

/-- Follows parents from the end of a path until one repeats or there is none. -/
def cycleFrom (kinds : Kinds) (path : List Kind) (current : Kind) : Nat → Option (List Kind)
  | 0 => none
  | steps + 1 =>
    match kinds.lookup? current with
    | some (some parent) =>
      if parent ∈ path then some (path.dropWhile (· != parent) ++ [parent])
      else cycleFrom kinds (path ++ [parent]) parent steps
    | _ => none

/-- The cycle that the parents of a kind lead into, its first kind repeated at the end. -/
def cycle? (kinds : Kinds) (start : Kind) : Option (List Kind) :=
  -- A path without repetition is no longer than the table, with one unregistered kind at its end.
  cycleFrom kinds [start] start (kinds.parents.length + 2)

/-- A kind to be registered, and its parent. -/
structure Declaration where
  kind : Kind
  parent : Kind
deriving DecidableEq

/-- Registers the kinds that are new, and lists those that are not. -/
def register : Kinds → List Declaration → Kinds × List Declaration × List Defect
  | kinds, [] => (kinds, [], [])
  | kinds, declaration :: rest =>
    if kinds.contains declaration.kind then
      let (kinds, accepted, defects) := register kinds rest
      (kinds, accepted, .duplicateKind declaration.kind.name :: defects)
    else
      let extended := ⟨kinds.parents ++ [(declaration.kind, some declaration.parent)]⟩
      let (kinds, accepted, defects) := register extended rest
      (kinds, declaration :: accepted, defects)

/-- The accepted declarations whose parents are nowhere to be found. -/
def orphans (kinds : Kinds) (accepted : List Declaration) : List Defect :=
  (accepted.filter fun declaration => !kinds.contains declaration.parent).map fun declaration =>
    .unknownParent declaration.kind.name declaration.parent.name

/-- The cycles among accepted declarations, each reported for the first kind that leads into it. -/
def cycles (kinds : Kinds) (reported : List Kind) : List Declaration → List (List Kind)
  | [] => []
  | declaration :: rest =>
    match kinds.cycle? declaration.kind with
    | some cycle =>
      if cycle.any (· ∈ reported) then cycles kinds reported rest
      else cycle :: cycles kinds (reported ++ cycle) rest
    | none => cycles kinds reported rest

/-- Extends the built-in kinds by declarations in any order, or reports everything wrong. -/
def ofDeclarations (declarations : List Declaration) : Except (List Defect) Kinds :=
  let (kinds, accepted, duplicates) := register builtIn declarations
  let cyclic := (kinds.cycles [] accepted).map fun cycle => Defect.cyclicKinds (cycle.map (·.name))
  let defects := duplicates ++ kinds.orphans accepted ++ cyclic
  if defects.isEmpty then .ok kinds else .error defects

end Kinds

end BatchFlow
