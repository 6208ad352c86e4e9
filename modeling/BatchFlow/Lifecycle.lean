/-! The lifecycle that nodes, producers and the adaptor go through. -/

namespace BatchFlow

/-- Where a component stands between being connected and being disconnected. -/
inductive Lifecycle where
  | stopped
  | started
  | stopping
deriving DecidableEq

/-- A guarded change of a lifecycle. -/
inductive Transition where
  /-- From stopped to started. -/
  | start
  /-- From started back to stopped, when starting failed part way. -/
  | abortStart
  /-- From started to stopping. -/
  | beginStop
  /-- From stopping to stopped. -/
  | finishStop
deriving DecidableEq

namespace Transition

/-- The state that a transition leaves. -/
def source : Transition → Lifecycle
  | start => .stopped
  | abortStart => .started
  | beginStop => .started
  | finishStop => .stopping

/-- The state that a transition leads to. -/
def target : Transition → Lifecycle
  | start => .started
  | abortStart => .stopped
  | beginStop => .stopping
  | finishStop => .stopped

end Transition

namespace Lifecycle

/-- The state after a transition, which applies only in its source state, and whether it did. -/
def advance (state : Lifecycle) (transition : Transition) : Lifecycle × Bool :=
  if state = transition.source then (transition.target, true) else (state, false)

/-- The name of a state in reports. -/
def name : Lifecycle → String
  | stopped => "STOPPED"
  | started => "STARTED"
  | stopping => "STOPPING"

/-- The name of a state in diagnostic text. -/
def inspect : Lifecycle → String
  | stopped => "Stopped"
  | started => "Started"
  | stopping => "Stopping"

end Lifecycle

end BatchFlow
