import BatchFlow.Configuration
import BatchFlow.Topology.Draft

/-! The topology that a configuration declares, and checking it. -/

namespace BatchFlow.Configuration

/-- The declared error kinds. -/
def kindDeclarations (configuration : Configuration) : List Kinds.Declaration :=
  configuration.kinds.map fun entry =>
    match entry.parent with
    | some parent => ⟨⟨entry.kind⟩, ⟨parent⟩⟩
    | none => ⟨⟨entry.kind⟩, .root⟩

/-- The declarations about the routes of one origin. -/
def routeDeclarations (origin : String) (entry : RouteEntry) : List Declaration :=
  [.output origin entry.output, .discard origin entry.discard] ++
    entry.errors.map fun route => .error origin ⟨⟨route.kind⟩, route.destinations⟩

/-- Everything declared about the topology. The pipeline comes before the routes by origin. -/
def declarations (configuration : Configuration) : List Declaration :=
  configuration.producers.map (.producer ·.id) ++
    configuration.nodes.map (.node ·.id) ++
    [.pipeline configuration.pipeline] ++
    configuration.routes.entries.flatMap (fun (origin, entry) => routeDeclarations origin entry) ++
    [.defaultErrors configuration.defaultErrors]

/-- The declared topology. Routes are only looked at once the error kinds are sound. -/
def topology (configuration : Configuration) : Except (List Defect) Topology := do
  let kinds ← Kinds.ofDeclarations configuration.kindDeclarations
  Topology.ofDeclarations kinds configuration.declarations

/-- Everything wrong with a configuration by itself. -/
def defects (configuration : Configuration) : List Defect :=
  (if configuration.producers.isEmpty then [.noProducers] else []) ++
    match configuration.topology with
    | .ok _ => []
    | .error defects => defects

/-- Checks a configuration and reports each defect. -/
def check (configuration : Configuration) : Plan (Except (List Defect) Unit) := do
  let producers := configuration.producers.length
  let nodes := configuration.nodes.length
  Plan.log (.checkStarted producers nodes)
  let defects := configuration.defects
  if defects.isEmpty then
    Plan.log (.checkPassed producers nodes)
    return .ok ()
  else
    Adaptor.reportDefects defects
    Plan.log (.checkFailed defects.length)
    return .error defects

end BatchFlow.Configuration
