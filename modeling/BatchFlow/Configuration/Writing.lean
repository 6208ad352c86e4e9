import BatchFlow.Configuration

/-! Configurations as items: every field is given, whether it differs from its default or not. -/

namespace BatchFlow

/-- Settings as an item. -/
def RunSettings.toItem (settings : RunSettings) : Item :=
  .record [("fail_fast", .bool settings.failFast), ("poll_timeout_ms", .nat settings.pollTimeout),
    ("restart_after_fail_limit", .nat settings.restartLimit),
    ("restart_delay_ms", .nat settings.restartDelay)]

/-- An error kind as an item. -/
def KindEntry.toItem (entry : KindEntry) : Item :=
  .record [("kind", .string entry.kind), ("parent", .optional (entry.parent.map .string))]

/-- A producer as an item. -/
def ProducerEntry.toItem (entry : ProducerEntry) : Item :=
  .record [("id", .string entry.id), ("impl_", .optional (entry.implementation.map .string)),
    ("poll_timeout_ms", .optional (entry.pollTimeout.map .nat)), ("options", .object entry.options)]

/-- A node as an item. -/
def NodeEntry.toItem (entry : NodeEntry) : Item :=
  .record [("id", .string entry.id), ("role", .string entry.role.name),
    ("impl_", .optional (entry.implementation.map .string)),
    ("accepts_batches", .bool entry.acceptsBatches), ("best_effort", .bool entry.bestEffort),
    ("options", .object entry.options)]

/-- An error route as an item. -/
def ErrorRoute.toItem (route : ErrorRoute) : Item :=
  .record [("kind", .string route.kind), ("to", .strings route.destinations)]

/-- The routes of one origin as an item. -/
def RouteEntry.toItem (entry : RouteEntry) : Item :=
  .record [("output", .strings entry.output), ("discard", .strings entry.discard),
    ("errors", .array (entry.errors.map (·.toItem)))]

/-- A configuration as the fields of an item. -/
def Configuration.fields (configuration : Configuration) : Fields :=
  .ofList [("run", configuration.run.toItem),
    ("error_kinds", .array (configuration.kinds.map (·.toItem))),
    ("producers", .array (configuration.producers.map (·.toItem))),
    ("nodes", .array (configuration.nodes.map (·.toItem))),
    ("pipeline", .strings configuration.pipeline),
    ("routes", .record (configuration.routes.entries.map fun (id, entry) => (id, entry.toItem))),
    ("default_error_routes", .strings configuration.defaultErrors)]

end BatchFlow
