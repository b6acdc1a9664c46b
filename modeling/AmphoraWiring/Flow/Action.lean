/-!
Work on a state that may fail. What has been done before a failure stays done, so every failing
action also has a final state.
-/
namespace AmphoraWiring

abbrev Action (ε σ α : Type) := ExceptT ε (StateM σ) α

namespace Action

variable {ε σ α : Type}

/-- How an action ends, and the state it leaves. -/
def runOn (action : Action ε σ α) (s : σ) : Except ε α × σ := action s

/-- The value, or the given error where there is none. -/
def orFail (e : ε) : Option α → Action ε σ α
  | some a => pure a
  | none => throw e

end Action

end AmphoraWiring
