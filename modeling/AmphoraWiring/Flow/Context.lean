import AmphoraWiring.Error
import AmphoraWiring.Number.Floating

/-!
The context of a running step: the clock, the bounds on waiting, and the progress reported so
far. Time passes only while a step waits. A wait ends early when the step is cancelled or would
cross its deadline.
-/
namespace AmphoraWiring

/-- The moment after which a step may not wait any more, and the time it was given. -/
structure Deadline where
  moment : Duration
  budget : Duration
deriving DecidableEq, Repr

/-- `cancelAt` is the moment at which the step is going to be cancelled from outside. A wait that is
over at that very moment may still end before the cancellation is noticed: `ahead` such waits do,
and the next one does not. -/
structure Context where
  now : Duration := 0
  deadline : Option Deadline := none
  cancelAt : Option Duration := none
  ahead : Nat := 0
  progress : List Floating := []
deriving DecidableEq, Repr

namespace Context

/-- Gives the step `budget` from now on. -/
def withTimeout (c : Context) (budget : Duration) : Context :=
  { c with deadline := some ⟨c.now + budget, budget⟩ }

def cancel (c : Context) : Context := { c with cancelAt := some c.now, ahead := 0 }

/-- The cancellation is noticed at the given moment at the latest. -/
def cancelledBy (c : Context) (moment : Duration) : Bool :=
  c.cancelAt.any fun cancelled => cancelled < moment || (cancelled = moment && c.ahead = 0)

def isCancelled (c : Context) : Bool := c.cancelledBy c.now

def report (c : Context) (x : Floating) : Context := { c with progress := c.progress ++ [x] }

/-- When a wait of `d` would end if nothing cancelled it, and what it would end with. Where the
deadline has passed already, that is at once. -/
def wakeUp (c : Context) (d : Duration) : Duration × Except NetworkError Unit :=
  match c.deadline with
  | some deadline =>
    if deadline.moment < c.now + d then
      (max c.now deadline.moment, .error (.timedOut deadline.budget))
    else (c.now + d, .ok ())
  | none => (c.now + d, .ok ())

/-- The context after a wait that the cancellation has ended. -/
def stop (c : Context) : Context := { c with now := c.cancelAt.getD c.now, ahead := 0 }

/-- The context after a wait until the given moment, which the cancellation has not ended. -/
def pass (c : Context) (moment : Duration) : Context :=
  { c with now := moment, ahead := if c.cancelAt = some moment then c.ahead - 1 else c.ahead }

def sleep (c : Context) (d : Duration) : Except NetworkError Unit × Context :=
  if c.isCancelled then (.error .cancelled, c)
  else
    let (moment, result) := c.wakeUp d
    if c.cancelledBy moment then (.error .cancelled, c.stop)
    else (result, c.pass moment)

end Context

end AmphoraWiring
