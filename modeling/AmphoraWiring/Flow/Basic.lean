import AmphoraWiring.Flow.Action
import AmphoraWiring.Flow.Context

/-!
A flow is what a step does: it works on a state, may wait and report progress in its context, and
may fail. What it has done before it fails stays done. An effect is a flow that cannot fail.
-/
namespace AmphoraWiring

structure Run (σ : Type) where
  context : Context
  state : σ

abbrev Effect (σ α : Type) := StateM (Run σ) α

abbrev Flow (σ α : Type) := Action NetworkError (Run σ) α

namespace Flow

variable {σ τ α ε : Type}

/-- How a flow ends, as the outcome of an effect. -/
def settle (flow : Flow σ α) : Effect σ (Except NetworkError α) := flow

/-- How a flow ends, without ending with it. -/
def outcome (flow : Flow σ α) : Flow σ (Except NetworkError α) := fun run =>
  let (result, run) := flow run
  (.ok result, run)

def sleep (d : Duration) : Flow σ Unit := fun run =>
  let (result, context) := run.context.sleep d
  (result, { run with context })

def report (x : Floating) : Flow σ Unit := fun run =>
  (.ok (), { run with context := run.context.report x })

/-- Progress after `done` of `total` parts. -/
def reportPart (done total : Nat) : Flow σ Unit := report (.quotient .single done total)

def modifyState (f : σ → σ) : Effect σ Unit := fun run => ((), { run with state := f run.state })

/-- Runs an action on a part of the state. -/
def onPart (get : σ → τ) (set : σ → τ → σ) (toError : ε → NetworkError) (action : Action ε τ α) :
    Flow σ α := fun run =>
  let (result, part) := action (get run.state)
  (result.mapError toError, { run with state := set run.state part })

end Flow

end AmphoraWiring
