import BatchFlow.Adaptor
import BatchFlow.Shape

/-! Configurations: what an adaptor is made of, as documents declare it. Everything is read through
a format, so one description serves documents of every kind. -/

namespace BatchFlow

/-- What a node is declared to do. -/
inductive NodeRole where
  | step
  | sink
  | enrich
deriving DecidableEq

namespace NodeRole

/-- The word for a role. -/
def name : NodeRole → String
  | step => "step"
  | sink => "sink"
  | enrich => "enrich"

/-- Every role. -/
def all : List NodeRole := [step, sink, enrich]

/-- The role of a given name. -/
def ofName? (name : String) : Option NodeRole :=
  all.find? (·.name == name)

end NodeRole

/-- How workers are to be run. The times are in milliseconds. -/
structure RunSettings where
  failFast : Bool
  pollTimeout : Nat
  restartLimit : Nat
  restartDelay : Nat
deriving DecidableEq

/-- An error kind to be registered; without a parent it stands under the root. -/
structure KindEntry where
  kind : String
  parent : Option String
deriving DecidableEq

/-- A producer to be made. -/
structure ProducerEntry where
  id : String
  implementation : Option String
  /-- How long a poll may take in milliseconds, if it differs from the common setting. -/
  pollTimeout : Option Nat
  options : Fields

/-- A node to be made. -/
structure NodeEntry where
  id : String
  role : NodeRole
  implementation : Option String
  acceptsBatches : Bool
  bestEffort : Bool
  options : Fields

/-- Where errors of a kind are to go. -/
structure ErrorRoute where
  kind : String
  destinations : List String
deriving DecidableEq

/-- The routes that leave one producer or node. -/
structure RouteEntry where
  output : List String
  discard : List String
  errors : List ErrorRoute
deriving DecidableEq

/-- The routes of the origins that have any. -/
structure RouteTable where
  entries : List (String × RouteEntry)
  /-- The ids rise, so no origin has its routes twice. -/
  ordered : entries.Pairwise (·.1 < ·.1)

/-- Everything that is declared about an adaptor. -/
structure Configuration where
  run : RunSettings
  kinds : List KindEntry
  producers : List ProducerEntry
  nodes : List NodeEntry
  /-- Ids whose output goes from each to the next. -/
  pipeline : List String
  routes : RouteTable
  defaultErrors : List String

namespace RunSettings

/-- What counts where a configuration is silent. -/
def default : RunSettings := ⟨true, 1000, 0, 1000⟩

/-- How the adaptor runs its workers. -/
def options (settings : RunSettings) : RunOptions :=
  ⟨settings.failFast, ⟨settings.restartLimit, .ofMillis settings.restartDelay⟩⟩

end RunSettings

namespace RouteTable

/-- No routes at all. -/
def empty : RouteTable := ⟨[], .nil⟩

/-- Sets the routes of an origin in its place by id; those given last count. -/
def put (table : RouteTable) (origin : String) (entry : RouteEntry) : RouteTable where
  entries := table.entries.filter (·.1 < origin) ++
    (origin, entry) :: table.entries.filter (origin < ·.1)
  ordered := by
    have below : ∀ old ∈ table.entries.filter (·.1 < origin), old.1 < origin :=
      fun old kept => of_decide_eq_true (List.mem_filter.mp kept).2
    have above : ∀ old ∈ table.entries.filter (origin < ·.1), origin < old.1 :=
      fun old kept => of_decide_eq_true (List.mem_filter.mp kept).2
    refine List.pairwise_append.mpr ⟨table.ordered.filter _,
      List.pairwise_cons.mpr ⟨above, table.ordered.filter _⟩, fun old before entry after => ?_⟩
    rcases List.mem_cons.mp after with rfl | behind
    · exact below old before
    · exact String.lt_trans (below old before) (above entry behind)

end RouteTable

namespace Configuration

variable {δ : Type}

/-- A count that fits into 32 bits. -/
def halfWord? (format : Format δ) (value : δ) : Option Nat :=
  (format.word? value).filter (· < twoTo 32)

/-- A list of strings. -/
def strings? (format : Format δ) : δ → Option (List String) :=
  format.listOf? format.text?

/-- Reads how workers are to be run. -/
def readRun? (format : Format δ) : δ → Option RunSettings :=
  let declared := ["fail_fast", "poll_timeout_ms", "restart_after_fail_limit", "restart_delay_ms"]
  format.record? declared fun shape => do
    let unsaid := RunSettings.default
    return {
      failFast := ← shape.defaulted 0 "fail_fast" unsaid.failFast format.flag?
      pollTimeout := ← shape.defaulted 1 "poll_timeout_ms" unsaid.pollTimeout format.word?
      restartLimit :=
        ← shape.defaulted 2 "restart_after_fail_limit" unsaid.restartLimit (halfWord? format)
      restartDelay := ← shape.defaulted 3 "restart_delay_ms" unsaid.restartDelay format.word? }

/-- Reads an error kind. -/
def readKind? (format : Format δ) : δ → Option KindEntry :=
  format.record? ["kind", "parent"] fun shape => do
    return {
      kind := ← shape.required 0 "kind" format.text?
      parent := ← shape.possible format 1 "parent" format.text? }

/-- Reads a producer. -/
def readProducer? (format : Format δ) : δ → Option ProducerEntry :=
  format.record? ["id", "impl_", "poll_timeout_ms", "options"] fun shape => do
    return {
      id := ← shape.required 0 "id" format.text?
      implementation := ← shape.possible format 1 "impl_" format.text?
      pollTimeout := ← shape.possible format 2 "poll_timeout_ms" format.word?
      options := ← shape.defaulted 3 "options" [] format.options? }

/-- Reads a node. -/
def readNode? (format : Format δ) : δ → Option NodeEntry :=
  let declared := ["id", "role", "impl_", "accepts_batches", "best_effort", "options"]
  format.record? declared fun shape => do
    return {
      id := ← shape.required 0 "id" format.text?
      role := ← shape.required 1 "role" fun value => (format.choice? value).bind NodeRole.ofName?
      implementation := ← shape.possible format 2 "impl_" format.text?
      acceptsBatches := ← shape.defaulted 3 "accepts_batches" true format.flag?
      bestEffort := ← shape.defaulted 4 "best_effort" false format.flag?
      options := ← shape.defaulted 5 "options" [] format.options? }

/-- Reads where errors of a kind go. -/
def readErrorRoute? (format : Format δ) : δ → Option ErrorRoute :=
  format.record? ["kind", "to"] fun shape => do
    return {
      kind := ← shape.required 0 "kind" format.text?
      destinations := ← shape.required 1 "to" (strings? format) }

/-- Reads the routes of one origin. -/
def readRoutes? (format : Format δ) : δ → Option RouteEntry :=
  format.record? ["output", "discard", "errors"] fun shape => do
    return {
      output := ← shape.defaulted 0 "output" [] (strings? format)
      discard := ← shape.defaulted 1 "discard" [] (strings? format)
      errors := ← shape.defaulted 2 "errors" [] (format.listOf? (readErrorRoute? format)) }

/-- Reads the routes of all origins. -/
def readAllRoutes? (format : Format δ) (value : δ) : Option RouteTable := do
  let entries ← format.mapOf? (readRoutes? format) value
  return entries.foldl (fun table entry => table.put entry.1 entry.2) .empty

/-- Reads a configuration, all of whose parts may be missing. -/
def read? (format : Format δ) : δ → Option Configuration :=
  let declared := ["run", "error_kinds", "producers", "nodes", "pipeline", "routes",
    "default_error_routes"]
  format.record? declared fun shape => do
    return {
      run := ← shape.defaulted 0 "run" .default (readRun? format)
      kinds := ← shape.defaulted 1 "error_kinds" [] (format.listOf? (readKind? format))
      producers := ← shape.defaulted 2 "producers" [] (format.listOf? (readProducer? format))
      nodes := ← shape.defaulted 3 "nodes" [] (format.listOf? (readNode? format))
      pipeline := ← shape.defaulted 4 "pipeline" [] (strings? format)
      routes := ← shape.defaulted 5 "routes" .empty (readAllRoutes? format)
      defaultErrors := ← shape.defaulted 6 "default_error_routes" [] (strings? format) }

end Configuration

end BatchFlow
