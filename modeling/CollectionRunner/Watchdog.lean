namespace CollectionRunner

/-- What has happened so far. -/
structure Watchdog where
  /-- The deadline passed while the supervisor was waiting. -/
  expired : Bool := false
  /-- A script was told to end. -/
  interrupted : Bool := false
  /-- A message to stop is on its way to the supervisor. -/
  cancelSent : Bool := false
  /-- The supervisor waits no longer. -/
  finished : Bool := false
  deriving DecidableEq, Repr

namespace Watchdog

def armed : Watchdog := {}

/-- The deadline passes. It matters only while the supervisor waits. -/
def timeout (w : Watchdog) : Watchdog :=
  if w.finished then w else { w with expired := true, finished := true }

/-- The supervisor takes the message to stop. -/
def takeCancel (w : Watchdog) : Watchdog :=
  if w.cancelSent && ! w.finished then { w with finished := true } else w

/-- The script asks whether it has to end. -/
def poll (w : Watchdog) : Bool × Watchdog :=
  if w.expired then (true, { w with interrupted := true }) else (false, w)

/-- The message to stop is sent, once. -/
def sendCancel (w : Watchdog) : Watchdog := { w with cancelSent := true }

/-- Sends the message to stop and waits for the supervisor to end. -/
def disarm (w : Watchdog) : Watchdog := w.sendCancel.takeCancel

/-- The watchdog once `waited` milliseconds have gone by since it was armed. -/
def elapsed (deadline waited : Nat) (w : Watchdog) : Watchdog :=
  if deadline ≤ waited then w.timeout else w

end Watchdog

end CollectionRunner
