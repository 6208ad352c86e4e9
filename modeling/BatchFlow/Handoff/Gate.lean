/-! Gates: where tasks wait to be woken, singly or all at once, without missing a call. -/

namespace BatchFlow.Handoff

/-- A call that reached a waiting ticket. -/
structure Wakeup where
  ticket : Nat
  /-- A call to a single ticket is passed on if its holder leaves without taking it. -/
  single : Bool
deriving DecidableEq

/-- A gate with the tickets drawn at it. -/
structure Gate where
  /-- A single call that found nobody waiting, kept for the next ticket. -/
  permit : Bool
  /-- The tickets that wait to be called, oldest first. -/
  waiting : List Nat
  /-- The tickets that were called and whose holders have not gone on yet. -/
  woken : List Wakeup
deriving DecidableEq

namespace Gate

/-- A gate nobody waits at. -/
def quiet : Gate := ⟨false, [], []⟩

/-- Draws a ticket. A permit that was kept calls it at once. -/
def register (gate : Gate) (ticket : Nat) : Gate :=
  -- The permit is used up, so that it calls one ticket only.
  if gate.permit then { gate with permit := false, woken := gate.woken ++ [⟨ticket, false⟩] }
  else { gate with waiting := gate.waiting ++ [ticket] }

/-- Calls the oldest waiting ticket, or leaves a permit. -/
def wakeOne (gate : Gate) : Gate :=
  match gate.waiting with
  -- Whoever comes next will find the permit.
  | [] => { gate with permit := true }
  | ticket :: rest => { gate with waiting := rest, woken := gate.woken ++ [⟨ticket, true⟩] }

/-- Calls every waiting ticket. Nothing is kept for later ones. -/
def wakeAll (gate : Gate) : Gate :=
  { gate with waiting := [], woken := gate.woken ++ gate.waiting.map (⟨·, false⟩) }

/-- Whether a ticket was called. -/
def isWoken (gate : Gate) (ticket : Nat) : Bool :=
  gate.woken.any (·.ticket == ticket)

/-- The holder of a called ticket goes on. -/
def leave (gate : Gate) (ticket : Nat) : Gate :=
  { gate with woken := gate.woken.filter (·.ticket != ticket) }

/-- The holder of a ticket stops waiting. A single call it did not take goes to the next. -/
def withdraw (gate : Gate) (ticket : Nat) : Gate :=
  -- Only a single call is worth passing on: a call to everybody has reached everybody.
  let unused := gate.woken.any fun wakeup => wakeup.ticket == ticket && wakeup.single
  let left := { gate.leave ticket with waiting := gate.waiting.filter (· != ticket) }
  if unused then left.wakeOne else left

end Gate

end BatchFlow.Handoff
