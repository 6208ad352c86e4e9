import BatchFlow.Catalog
import BatchFlow.Configuration.Wiring

/-! Assembling an adaptor from a configuration, and the world that its collaborators live in. -/

namespace BatchFlow

open Stage

/-- An adaptor and the world that it runs in. -/
structure Assembly where
  adaptor : Adaptor
  world : World

namespace Configuration

/-- The producers of entries, each with its place as its key. -/
def makeProducers (timeout : Duration) (entries : List ProducerEntry) :
    Except ComponentFault (List (Source × StaticItems)) :=
  entries.zipIdx.mapM fun (entry, key) => Catalog.producer key timeout entry

/-- The adaptor that a configuration describes. All defects of the topology are told together; a
component that cannot be made is told alone, nodes being made first. -/
def assemble (configuration : Configuration) (allowance : Allowance) :
    Except ConfigFault Assembly := do
  let topology ← configuration.topology.mapError .defective
  let fitted ← (configuration.nodes.mapM Catalog.node).mapError .component
  let timeout := Duration.ofMillis configuration.run.pollTimeout
  let produced ← (makeProducers timeout configuration.producers).mapError .component
  let adaptor : Adaptor := {
    router := ⟨topology, .ofList (fitted.map (·.node))⟩
    sources := produced.map (·.1)
    options := configuration.run.options
    allowance }
  let world := { World.empty with
    stations := fitted.map fun fitted => .fresh fitted.node.id fitted.actor none
    outlets := produced.map fun (source, producer) => ⟨source.id, .static producer, none⟩ }
  return ⟨adaptor, world⟩

end Configuration

end BatchFlow
