import AcceptorHost.Courier.Tick

/-!
# The loop

The loop's thread is seen where it parks: before its first look at the stop
flag, and in every wait for a stop, after a tick or while paused.  `start` runs
a new thread to its first parking place, `pass` lets the thread run to its next
one, and `requestStop` lets it run to its end.  Whatever ends the thread, a
stop, an exchange that escapes its tick or a wait that the platform refuses,
the port is closed; a thread that cannot close it dies without reporting its
end, and a wait for that end would never return.
-/

namespace AcceptorHost

namespace World

variable {σ τ : Type}

/-- The poll interval in whole milliseconds. -/
def intervalText (interval : Binary64) : Except Fault String :=
  ((Value.float (interval.scale 1000 1)).whole none).map Value.intText

/-- The thread's place is noted. -/
def moveThread (t : Thread) : Run (World σ τ) Unit :=
  control fun c => { c with thread := t }

/-- The phase is noted. -/
def enterPhase (p : Phase) : Run (World σ τ) Unit :=
  control fun c => { c with phase := p }

/-- The thread's work ends as it does; a halt is the death of the thread. -/
def concludeThread (x : Run (World σ τ) Thread) : Run (World σ τ) Unit := do
  match ← Run.attempt x with
  | .ok place => moveThread place
  | .error h => do
      Run.emit (.threadDied h)
      moveThread .ended

/-- What ends the loop: the port is closed and the end reported. -/
def finish (port : Port σ) : Run (World σ τ) Unit := do
  onPort port.disconnect
  Run.log Level.info "Courier stopped"
  enterPhase .stopped

/-- A step of the loop, whose halt ends the loop. -/
def guarded (port : Port σ) (x : Run (World σ τ) Unit) : Run (World σ τ) Unit :=
  Run.handle x fun h => do
    finish port
    Run.halt h

/-- The wait of one poll interval. -/
def waitInterval : Run (World σ τ) Unit := do
  if ← ask Courier.canWait then do
    let interval ← ask fun c => c.policy.pollInterval
    Run.emit (.waited interval)
  else Run.fail .waitTooLong

/-- The thread ends if a stop was asked for and parks otherwise. -/
def parkOrFinish (port : Port σ) : Run (World σ τ) Thread := do
  if ← ask fun c => c.control.stopFlag then do
    finish port
    Run.give .ended
  else Run.give .parked

/-- The thread waits for one poll interval and then ends or parks. -/
def waitAndPark (port : Port σ) : Run (World σ τ) Thread := do
  guarded port waitInterval
  parkOrFinish port

/-- The loop from one parking place to the next. -/
def advance (port : Port σ) (deliver : Deliver σ τ) : Run (World σ τ) Thread := do
  let now ← ask fun c => c.control
  if now.stopFlag then parkOrFinish port
  else if now.paused then waitAndPark port
  else do
    guarded port (tick port deliver)
    waitAndPark port

/-- The loop up to its first look at the stop flag. -/
def launch (port : Port σ) : Run (World σ τ) Thread := do
  enterPhase .running
  let interval ← ask fun c => c.policy.pollInterval
  let text ← Run.ofExcept (intervalText interval)
  Run.log Level.info ("Courier started on " ++ port.name.display ++ " (poll " ++ text ++ " ms)")
  Run.give .parked

/-- A new thread is started unless one lives. -/
def start (port : Port σ) : Run (World σ τ) Unit := do
  if ← ask fun c => c.control.thread.isAlive then Run.give ()
  else do
    control fun c => { c with stopFlag := false, phase := .notStarted, thread := .running }
    concludeThread (launch port)

/-- A parked thread runs to its next parking place or its end. -/
def pass (port : Port σ) (deliver : Deliver σ τ) : Run (World σ τ) Unit := do
  if (← ask fun c => c.control.thread) = .parked then do
    moveThread .running
    concludeThread (advance port deliver)

/-- The end of the loop is known. -/
def confirmStopped : Run (World σ τ) Bool := do
  Run.log Level.debug "Courier thread stopped"
  Run.give true

/-- The loop is asked to stop; `bounded` says that the caller does not wait for it. -/
def requestStop (port : Port σ) (bounded : Bool) : Run (World σ τ) Bool := do
  control fun c => { c with stopFlag := true }
  Run.log Level.debug "Stopping courier thread..."
  match ← ask fun c => c.control.thread with
  | .absent => do
      enterPhase .stopped
      Run.give true
  | .running => do
      Run.log Level.warning "request_stop() called from the courier thread; not waiting"
      Run.give false
  | place => do
      control fun c =>
        { c with phase := if c.phase = .running then .stopping else c.phase }
      if bounded = false ∧ place = .parked then do
        moveThread .running
        concludeThread (parkOrFinish port)
      if (← ask fun c => c.control.phase) = .stopped then confirmStopped
      else if bounded then Run.give false
      else Run.fail .neverStops

end World

end AcceptorHost
