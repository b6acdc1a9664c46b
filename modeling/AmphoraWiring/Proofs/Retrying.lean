import AmphoraWiring.Flow.Retry
import AmphoraWiring.Proofs.Endings

/-!
How repeated attempts end. Waiting and reporting progress happen in the context alone, so what a
failed attempt keeps of the state is kept by all of them, and a success is that of the attempt
that came last.
-/
namespace AmphoraWiring.Flow

open Action

variable {σ α : Type} {p : RetryPolicy} {op : Nat → Flow σ α} {pre failed : σ → Prop}
  {good : α → σ → Prop}

/-- A wait leaves the state alone, cut short or not. -/
theorem ends_sleep (d : Duration) (run : Run σ) : Action.Ends (sleep d) run
    (fun _ run' => run'.state = run.state) fun _ run' => run'.state = run.state := by
  have hstate : (runOn (sleep d) run).2.state = run.state := rfl
  apply (ends_runOn (sleep d) run).mono
  · intro a run' hrun
    rwa [hrun] at hstate
  · intro e run' hrun
    rwa [hrun] at hstate

/-- What a repetition ends with: the value of a good attempt, or the failure of the last one. -/
def Concluded (good : α → σ → Prop) (failed : σ → Prop) : RetryOutcome α → σ → Prop
  | .completed a, s => good a s
  | .exhausted _, s => failed s

/-- Attempts start where one has failed, and the first of them where the repetition starts. -/
theorem ends_attemptFrom
    (hop : ∀ n run, pre run.state → Action.Ends (op n) run (fun a run' => good a run'.state)
      fun _ run' => failed run'.state)
    (hagain : ∀ s, failed s → pre s) (left attempt : Nat) {run : Run σ} (h : pre run.state) :
    Action.Ends (attemptFrom p op left attempt) run
      (fun r run' => Concluded good failed r run'.state) fun _ run' => failed run'.state := by
  induction left generalizing attempt run with
  | zero =>
    unfold attemptFrom
    refine ends_bind_of_ok rfl (ends_outcome (hop attempt _ ?_) ?_ ?_)
    · exact h
    · exact fun a run' hgood => ends_pure hgood
    · intro e run' hfailed
      cases he : e.isTransient with
      | false =>
        simp only [he, Bool.not_false, if_true]
        exact ends_throw_bind hfailed
      | true =>
        simp only [he, Bool.not_true, Bool.false_eq_true, if_false]
        exact ends_pure hfailed
  | succ left ih =>
    unfold attemptFrom
    refine ends_bind_of_ok rfl (ends_outcome (hop attempt _ ?_) ?_ ?_)
    · exact h
    · exact fun a run' hgood => ends_pure hgood
    · intro e run' hfailed
      cases he : e.isTransient with
      | false =>
        simp only [he, Bool.not_false, if_true]
        exact ends_throw_bind hfailed
      | true =>
        simp only [he, Bool.not_true, Bool.false_eq_true, if_false]
        refine (ends_sleep _ run').bind ?_ ?_
        · intro a run'' hstate
          exact ih (attempt + 1) (hstate ▸ hagain _ hfailed)
        · exact fun e run'' hstate => hstate ▸ hfailed

/-- What every attempt keeps, the repetition keeps, as far as a failed attempt leaves what the next
one needs. -/
theorem ends_retry (pre failed : σ → Prop) (good : α → σ → Prop)
    (hop : ∀ n run, pre run.state → Action.Ends (op n) run (fun a run' => good a run'.state)
      fun _ run' => failed run'.state)
    (hagain : ∀ s, failed s → pre s) {run : Run σ} (h : pre run.state) :
    Action.Ends (retry p op) run
      (fun a run' => good a run'.state) fun _ run' => failed run'.state := by
  refine (ends_attemptFrom hop hagain (p.attempts - 1) 1 h).bind ?_ (fun e run' h => h)
  intro r run' hend
  cases r with
  | completed a => exact ends_pure hend
  | exhausted e => exact ends_throw hend

/-- What the last failure leaves is cleaned up, whether the cleanup fails or not. -/
theorem ends_retryOrAbandon (pre failed abandoned : σ → Prop) (good : α → σ → Prop)
    {cleanup : Flow σ Unit}
    (hop : ∀ n run, pre run.state → Action.Ends (op n) run (fun a run' => good a run'.state)
      fun _ run' => failed run'.state)
    (hagain : ∀ s, failed s → pre s)
    (hcleanup : ∀ run, failed run.state → Action.Ends cleanup run
      (fun _ run' => abandoned run'.state) fun _ run' => abandoned run'.state)
    {run : Run σ} (h : pre run.state) : Action.Ends (retryOrAbandon p op cleanup) run
      (fun r run' => Concluded good abandoned r run'.state) fun _ run' => failed run'.state := by
  refine (ends_attemptFrom hop hagain (p.attempts - 1) 1 h).bind ?_ (fun e run' h => h)
  intro r run' hend
  cases r with
  | completed a => exact ends_pure hend
  | exhausted e => exact ends_attempt (hcleanup run' hend) fun _ _ h => ends_pure h

end AmphoraWiring.Flow
