import AmphoraWiring.Config.Basic
import AmphoraWiring.Flow.Basic

/-!
Bounded repetition with growing waits. An attempt that fails for a reason that may pass is
repeated after a wait that doubles each time, between a least and a greatest wait; any other
failure ends the repetition at once.
-/
namespace AmphoraWiring

/-- The multiplier is counted in seconds. -/
structure RetryPolicy where
  maxAttempts : Nat
  multiplier : Floating
  minWait : Duration
  maxWait : Duration
deriving DecidableEq, Repr

namespace RetryPolicy

def ofConfig (c : NetworkingConfig) : RetryPolicy where
  maxAttempts := c.maxRetries
  multiplier := c.retryBackoff
  minWait := c.retryInterval
  maxWait := c.retryMax

def standard : RetryPolicy := ofConfig {}

def clamp (p : RetryPolicy) (wait : Duration) : Duration :=
  max p.minWait (min wait (max p.maxWait p.minWait))

/-- How often the wait has doubled after the given attempt, counted from one. -/
def doublings (attempt : Nat) : Nat := min (attempt - 1) 63

/-- The multiplier doubled so many times, as a span. A product beyond the range of doubles is no
wait at all; one beyond the range of spans is the greatest wait. -/
def scaledWait (p : RetryPolicy) (doublings : Nat) : Duration :=
  match p.multiplier with
  | .finite false s e =>
    let (num, den) := Floating.ratio s (e + doublings)
    if Nat.pow 2 1024 * den ≤ num then 0
    else if Nat.pow 2 64 * den ≤ num then p.maxWait
    else roundedQuotient (num * 1000000000) den
  | _ => 0

/-- The wait after the given failed attempt, counted from one. -/
def backoff (p : RetryPolicy) (attempt : Nat) : Duration :=
  p.clamp (p.scaledWait (doublings attempt))

/-- There is always one attempt. -/
def attempts (p : RetryPolicy) : Nat := max p.maxAttempts 1

end RetryPolicy

/-- How a repetition ends that has not met a definite failure. -/
inductive RetryOutcome (α : Type) where
  | completed (value : α)
  | exhausted (last : NetworkError)

namespace Flow

variable {σ α : Type}

/-- Attempts from the one numbered `attempt` on, `left` more being allowed after it. -/
def attemptFrom (p : RetryPolicy) (op : Nat → Flow σ α) (left attempt : Nat) :
    Flow σ (RetryOutcome α) := do
  reportPart attempt p.attempts
  match ← outcome (op attempt) with
  | .ok value => return .completed value
  | .error e =>
    if !e.isTransient then throw e
    match left with
    | 0 => return .exhausted e
    | left + 1 => do
      sleep (p.backoff attempt)
      attemptFrom p op left (attempt + 1)

/-- Repeats until success; the last error stands once the budget is spent. -/
def retry (p : RetryPolicy) (op : Nat → Flow σ α) : Flow σ α := do
  match ← attemptFrom p op (p.attempts - 1) 1 with
  | .completed value => return value
  | .exhausted e => throw e

/-- Like `retry`, but when the budget is spent the resource is given up: the cleanup runs once,
and its failure is of no account. -/
def retryOrAbandon (p : RetryPolicy) (op : Nat → Flow σ α) (cleanup : Flow σ Unit) :
    Flow σ (RetryOutcome α) := do
  match ← attemptFrom p op (p.attempts - 1) 1 with
  | .completed value => return .completed value
  | .exhausted e =>
    let _ ← outcome cleanup
    return .exhausted e

end Flow

end AmphoraWiring
