import BatchFlow.Adaptor
import BatchFlow.Stage.World

/-! Descriptions: what can be asked of the components of an adaptor at any time, as items. -/

namespace BatchFlow.Stage.World

/-- A node with where it stands. -/
def describeNode (world : World) (node : Node) : Item :=
  let state := world.lifecycleOf (.node node.id)
  .record [("id", .string node.id), ("role", .string node.role.name),
    ("implementation", .string node.implementation),
    ("accepts_batches", .bool node.acceptsBatches), ("best_effort", .bool node.bestEffort),
    ("check_config", .strings node.problems),
    ("read_timeout_ms", .optional (node.readTimeout?.map fun time => .nat time.millisWord)),
    ("state", .string state.name), ("debug", .string (node.inspect state))]

/-- A source with where it stands, and how far its producer has come. -/
def describeSource (world : World) (source : Source) : Item :=
  let state := world.lifecycleOf (.producer source.key)
  let feed := (world.outlet? source.key).map (·.feed)
  .record [("id", .string source.id), ("implementation", .string source.implementation),
    ("poll_timeout_ms", .nat source.pollTimeout.millisWord),
    ("check_config", .strings source.problems),
    ("exhausted", .optional (feed.map fun feed => .bool feed.isExhausted)),
    ("context", .optional (feed.bind (·.context?))),
    ("debug", .string (source.inspect state))]

/-- The components of an adaptor, as the fields of an item. -/
def describe (world : World) (adaptor : Adaptor) : Fields := [
  ("nodes", .array (adaptor.router.nodes.toList.map world.describeNode)),
  ("producers", .array (adaptor.sources.map world.describeSource))]

end BatchFlow.Stage.World
