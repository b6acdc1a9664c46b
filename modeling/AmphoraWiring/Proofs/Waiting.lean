import AmphoraWiring.Proofs.Repetition
import AmphoraWiring.Saga.PortRemoval

/-!
Waits and what ends them. A wait has three moments before it: the cancellation, the deadline, and
the moment until which it was to last; it ends at the first of them. So waiting takes the clock
neither past the deadline nor past the cancellation, however many waits there are, and the two
loops that wait, attempts that are repeated and a status that is polled, stop at the first wait
that fails.
-/
namespace AmphoraWiring

open Action

namespace Context

variable {c c' c'' : Context} {d : Duration}

/-- How a wait of `d` would end, and when, if nothing cancelled it. -/
inductive Due (c : Context) (d : Duration) : Except NetworkError Unit → Duration → Prop
  | timedOut (limit : Deadline) (hlimit : c.deadline = some limit)
      (hcrossed : limit.moment < c.now + d) :
      Due c d (.error (.timedOut limit.budget)) (max c.now limit.moment)
  | whole (hlimit : ∀ limit ∈ c.deadline, c.now + d ≤ limit.moment) :
      Due c d (.ok ()) (c.now + d)

/-- How a wait of `d` ends, and the context it leaves. Where it is due at the very moment of the
cancellation, it may be either of them that ends it (`noticed`, `unnoticed`). -/
inductive WaitEnds (c : Context) (d : Duration) : Except NetworkError Unit → Context → Prop
  | atOnce (moment : Duration) (hcancel : c.cancelAt = some moment)
      (hpast : moment < c.now ∨ moment = c.now ∧ c.ahead = 0) : WaitEnds c d (.error .cancelled) c
  | cancelled (moment : Duration) (hcancel : c.cancelAt = some moment)
      (hlater : c.now < moment ∨ c.now = moment ∧ 0 < c.ahead) {r : Except NetworkError Unit}
      {due : Duration} (hdue : c.Due d r due) (hfirst : moment < due) :
      WaitEnds c d (.error .cancelled) { c with now := moment, ahead := 0 }
  | due {r : Except NetworkError Unit} {due : Duration} (hdue : c.Due d r due)
      (hfirst : ∀ moment ∈ c.cancelAt, due < moment) : WaitEnds c d r { c with now := due }
  | noticed {r : Except NetworkError Unit} {due : Duration} (hdue : c.Due d r due)
      (hcancel : c.cancelAt = some due) (hlater : c.now < due) (hahead : c.ahead = 0) :
      WaitEnds c d (.error .cancelled) { c with now := due, ahead := 0 }
  | unnoticed {r : Except NetworkError Unit} {due : Duration} (hdue : c.Due d r due)
      (hcancel : c.cancelAt = some due) (n : Nat) (hahead : c.ahead = n + 1) :
      WaitEnds c d r { c with now := due, ahead := n }

variable {r : Except NetworkError Unit} {due : Duration}

/-- The first of the two things that a wait waits for, and what it brings. -/
theorem due_iff : c.Due d r due ↔ c.wakeUp d = (due, r) := by
  constructor
  · intro h
    cases h with
    | timedOut limit hlimit hcrossed => simp only [wakeUp, hlimit, if_pos hcrossed]
    | whole hlimit =>
      cases hdeadline : c.deadline with
      | none => simp only [wakeUp, hdeadline]
      | some limit =>
        have hwithin : ¬ limit.moment < c.now + d := Nat.not_lt.mpr (hlimit limit hdeadline)
        simp only [wakeUp, hdeadline, if_neg hwithin]
  · intro h
    unfold wakeUp at h
    split at h
    next limit hlimit =>
      split at h
      next hcrossed =>
        cases h
        exact .timedOut limit hlimit hcrossed
      next hwithin =>
        cases h
        refine .whole fun other hother => ?_
        cases hlimit.symm.trans hother
        exact Nat.not_lt.mp hwithin
    next hlimit =>
      cases h
      refine .whole fun other hother => ?_
      cases hlimit.symm.trans hother

theorem Due.now_le (h : c.Due d r due) : c.now ≤ due := by
  cases h with
  | timedOut limit hlimit hcrossed => exact Nat.le_max_left ..
  | whole hlimit => exact Nat.le_add_right ..

/-- No wait is due after the deadline, unless it began after it. -/
theorem Due.within (h : c.Due d r due) : ∀ limit ∈ c.deadline, due ≤ max c.now limit.moment := by
  intro other hother
  cases h with
  | timedOut limit hlimit hcrossed =>
    cases hlimit.symm.trans hother
    exact Nat.le_refl _
  | whole hlimit => exact Nat.le_trans (hlimit other hother) (Nat.le_max_right ..)

/-- A wait of five moments with a cancellation after five moments ends either way. -/
example : (({ cancelAt := some 5 } : Context).sleep 5).1 = .error .cancelled ∧
    (({ cancelAt := some 5, ahead := 1 } : Context).sleep 5).1 = .ok () :=
  ⟨rfl, rfl⟩

/-- `c'` is `c` after waits: the clock has not gone back, and the waits have taken it neither past
the deadline nor past the cancellation. -/
structure Waited (c c' : Context) : Prop where
  deadline : c'.deadline = c.deadline
  cancelAt : c'.cancelAt = c.cancelAt
  forward : c.now ≤ c'.now
  within : ∀ limit ∈ c.deadline, c'.now ≤ max c.now limit.moment
  uncancelled : ∀ moment ∈ c.cancelAt, c'.now ≤ max c.now moment

namespace Waited

theorem refl (c : Context) : c.Waited c :=
  ⟨rfl, rfl, Nat.le_refl _, fun _ _ => Nat.le_max_left .., fun _ _ => Nat.le_max_left ..⟩

theorem trans (h : c.Waited c') (h' : c'.Waited c'') : c.Waited c'' := by
  refine ⟨h'.deadline.trans h.deadline, h'.cancelAt.trans h.cancelAt,
    Nat.le_trans h.forward h'.forward, fun limit hlimit => ?_, fun moment hmoment => ?_⟩
  · have hfirst := h.within limit hlimit
    have hsecond := h'.within limit (h.deadline ▸ hlimit)
    exact Nat.le_trans hsecond (Nat.max_le.mpr ⟨hfirst, Nat.le_max_right ..⟩)
  · have hfirst := h.uncancelled moment hmoment
    have hsecond := h'.uncancelled moment (h.cancelAt ▸ hmoment)
    exact Nat.le_trans hsecond (Nat.max_le.mpr ⟨hfirst, Nat.le_max_right ..⟩)

theorem report (c : Context) (x : Floating) : c.Waited (c.report x) := { refl c with }

end Waited

/-- However a wait ends, the clock has gone neither back nor past what cuts it short. -/
theorem WaitEnds.waited (h : c.WaitEnds d r c') : c.Waited c' := by
  cases h with
  | atOnce moment hcancel hpast => exact .refl c
  | cancelled moment hcancel hlater hdue hfirst =>
    have hnow : c.now ≤ moment := hlater.elim Nat.le_of_lt fun htie => Nat.le_of_eq htie.1
    refine ⟨rfl, rfl, hnow, fun limit hlimit => ?_, fun other hother => ?_⟩
    · exact Nat.le_trans (Nat.le_of_lt hfirst) (hdue.within limit hlimit)
    · cases hcancel.symm.trans hother
      exact Nat.le_max_right ..
  | due hdue hfirst =>
    refine ⟨rfl, rfl, hdue.now_le, hdue.within, fun other hother => ?_⟩
    exact Nat.le_trans (Nat.le_of_lt (hfirst other hother)) (Nat.le_max_right ..)
  | noticed hdue hcancel hlater hahead =>
    refine ⟨rfl, rfl, hdue.now_le, hdue.within, fun other hother => ?_⟩
    cases hcancel.symm.trans hother
    exact Nat.le_max_right ..
  | unnoticed hdue hcancel n hahead =>
    refine ⟨rfl, rfl, hdue.now_le, hdue.within, fun other hother => ?_⟩
    cases hcancel.symm.trans hother
    exact Nat.le_max_right ..

end Context

namespace Flow

variable {σ τ α β ε : Type}

theorem runOn_outcome (flow : Flow σ α) (run : Run σ) :
    (Flow.outcome flow).runOn run = (.ok (flow.runOn run).1, (flow.runOn run).2) := rfl

/-- Time passes in the flow only while it waits. -/
def Punctual (flow : Flow σ α) : Prop :=
  ∀ run, Action.Ends flow run (fun _ run' => run.context.Waited run'.context)
    fun _ run' => run.context.Waited run'.context

/-- Work that is punctual in each of its parts is punctual. -/
theorem Punctual.bind {flow : Flow σ α} {rest : α → Flow σ β} (h : Punctual flow)
    (hrest : ∀ a, Punctual (rest a)) : Punctual (flow >>= rest) := by
  intro run
  refine (h run).bind ?_ (fun _ _ h => h)
  intro a run' hfirst
  exact (hrest a run').mono (fun _ _ h => hfirst.trans h) fun _ _ h => hfirst.trans h

theorem Punctual.outcome {flow : Flow σ α} (h : Punctual flow) :
    Punctual (Flow.outcome flow) := by
  intro run
  have hend : Action.Ends (do pure (← Flow.outcome flow)) run
      (fun _ run' => run.context.Waited run'.context)
      fun _ run' => run.context.Waited run'.context :=
    ends_outcome (h run) (fun _ _ h => ends_pure h) fun _ _ h => ends_pure h
  exact hend

/-- A loop of rounds, begun with round `n` in `run`, comes to a wait that fails with `cut`, and
`run'` is what that wait leaves. A round asks for a wait when `asks` says so, and the next round
begins when the wait was whole. -/
inductive CutShort (asks : Nat → Run σ → Run σ → Duration → Prop) (cut : NetworkError)
    (run' : Run σ) : Nat → Run σ → Prop
  | now {n : Nat} {run run₁ : Run σ} {d : Duration} {c : Context} (hasks : asks n run run₁ d)
      (hsleep : run₁.context.sleep d = (.error cut, c)) (hend : run' = { run₁ with context := c }) :
      CutShort asks cut run' n run
  | later {n : Nat} {run run₁ : Run σ} {d : Duration} {c : Context} (hasks : asks n run run₁ d)
      (hsleep : run₁.context.sleep d = (.ok (), c))
      (hrest : CutShort asks cut run' (n + 1) { run₁ with context := c }) :
      CutShort asks cut run' n run

/-- The attempt numbered `n`, begun in `run`, has failed for a reason that may pass, and there is
another one after a wait of `d`. -/
structure Repeats (p : RetryPolicy) (op : Nat → Flow σ α) (n : Nat) (run run' : Run σ)
    (d : Duration) : Prop where
  more : n < max 1 p.maxAttempts
  wait : d = p.backoff n
  passing : ∃ e, e.isTransient = true ∧ (op n).runOn
    { run with context := run.context.report (.quotient .single n (max 1 p.maxAttempts)) } =
      (.error e, run')

/-- By induction on the attempts before the wait that is cut short: each fails, and each wait before
that one ends well. -/
theorem CutShort.runOn_attemptFrom {p : RetryPolicy} {op : Nat → Flow σ α} {cut : NetworkError}
    {run run' : Run σ} {n left : Nat} (h : CutShort (Repeats p op) cut run' n run)
    (hleft : n + left = max 1 p.maxAttempts) :
    (attemptFrom p op left n).runOn run = (.error cut, run') := by
  induction h generalizing left with
  | now hasks hsleep hend =>
    -- an attempt that is to be repeated is not the last one
    obtain ⟨hmore, rfl, e, he, hop⟩ := hasks
    rw [← p.attempts_eq] at hop
    obtain ⟨left, rfl⟩ : ∃ m, left = m + 1 := Nat.exists_eq_succ_of_ne_zero (by omega)
    rw [runOn_attemptFrom_passing he hop, runOn_sleep_error hsleep, hend]
  | later hasks hsleep hrest ih =>
    obtain ⟨hmore, rfl, e, he, hop⟩ := hasks
    rw [← p.attempts_eq] at hop
    obtain ⟨left, rfl⟩ : ∃ m, left = m + 1 := Nat.exists_eq_succ_of_ne_zero (by omega)
    rw [runOn_attemptFrom_passing he hop, runOn_sleep_ok hsleep]
    exact ih (by omega)

section

variable {p : RetryPolicy} {op : Nat → Flow σ α} {cut : NetworkError} {run run' : Run σ}

end

end Flow

namespace Step

open Deployment Flow

end Step

end AmphoraWiring
