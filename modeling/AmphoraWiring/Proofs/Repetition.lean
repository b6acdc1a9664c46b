import AmphoraWiring.Proofs.Retrying
import Mathlib.Algebra.GroupWithZero.Nat

/-!
What a repetition does when it is known beforehand how every attempt is going to end. Each attempt
notes its number and the context in which it was made, so the notes show the order of the attempts,
their moments and the progress reported until then. The expected moments and reports are given
here as sums and lists over the numbers of the attempts, without the loop.
-/
namespace AmphoraWiring

open Action

/-- How every attempt is going to end, by its number, and how long it takes. -/
structure Script (α : Type) where
  result : Nat → Except NetworkError α
  takes : Nat → Duration

/-- An attempt that was made. -/
structure AttemptNote where
  number : Nat
  context : Context

def Context.elapse (c : Context) (d : Duration) : Context := { c with now := c.now + d }

/-- A wait that the deadline does not end lasts as long as it should. -/
theorem Context.wakeUp_ok {c : Context} {d moment : Duration}
    (h : c.wakeUp d = (moment, .ok ())) : moment = c.now + d := by
  unfold wakeUp at h
  split at h
  next deadline hdeadline =>
    split at h
    next hlate => cases h
    next hlate => cases h; rfl
  next hdeadline => cases h; rfl

/-- A wait that was not cut short ends when it is over. -/
theorem Context.sleep_ok {c c' : Context} {d : Duration} (h : c.sleep d = (.ok (), c')) :
    c' = c.pass (c.now + d) := by
  unfold sleep at h
  split at h
  next hcancelled => cases h
  next hcancelled =>
    dsimp only at h
    rcases hwake : c.wakeUp d with ⟨moment, result⟩
    rw [hwake] at h
    split at h
    next hearly => cases h
    next hearly =>
      cases h
      rw [wakeUp_ok hwake]

theorem Context.pass_uncancelled {c : Context} (hcancel : c.cancelAt = none) (d : Duration) :
    c.pass (c.now + d) = c.elapse d := by
  simp only [pass, elapse, hcancel, reduceCtorEq, if_false]

theorem Context.sleep_unbounded {c : Context} (hdeadline : c.deadline = none)
    (hcancel : c.cancelAt = none) (d : Duration) : c.sleep d = (.ok (), c.elapse d) := by
  simp only [sleep, isCancelled, cancelledBy, wakeUp, hdeadline, hcancel, Option.any_none,
    Bool.false_eq_true, if_false, pass_uncancelled hcancel]

/-- There is always a first attempt. -/
theorem RetryPolicy.attempts_eq (p : RetryPolicy) : p.attempts = max 1 p.maxAttempts :=
  Nat.max_comm ..

namespace Script

variable {α : Type} (script : Script α) (p : RetryPolicy) (c : Context)

def perform (n : Nat) : Flow (List AttemptNote) α := fun run =>
  (script.result n,
    { context := run.context.elapse (script.takes n), state := run.state ++ [⟨n, run.context⟩] })

/-- The attempt fails in a way that may pass. -/
def Passing (n : Nat) : Prop := ∃ e, script.result n = .error e ∧ e.isTransient = true

/-- The time that an attempt and the wait after it take. -/
def round (n : Nat) : Duration := script.takes n + p.backoff n

/-- The moment at which an attempt is made, if every wait before it lasts as long as the policy
says. -/
def moment (n : Nat) : Duration := c.now + ((List.range' 1 (n - 1)).map (script.round p)).sum

/-- How many of the waits before the attempt were over at the very moment of the cancellation. -/
def ties (n : Nat) : Nat :=
  (List.range' 2 (n - 1)).countP fun i => c.cancelAt = some (script.moment p c i)

/-- What has been reported when so many attempts have been made. -/
def reports (n : Nat) : List Floating :=
  (List.range' 1 n).map fun i => .quotient .single i (max 1 p.maxAttempts)

/-- The context in which an attempt is made. -/
def arrival (n : Nat) : Context :=
  { c with
    now := script.moment p c n
    ahead := c.ahead - script.ties p c n
    progress := c.progress ++ reports p n }

/-- The context in which an attempt ends. -/
def departure (n : Nat) : Context := (script.arrival p c n).elapse (script.takes n)

/-- The first so many attempts. -/
def notes (n : Nat) : List AttemptNote :=
  (List.range' 1 n).map fun i => ⟨i, script.arrival p c i⟩

/-- How a repetition may end with the attempt of the given number, and the context it leaves. -/
inductive Ending (k : Nat) : Except NetworkError (RetryOutcome α) → Context → Prop
  | completed (value : α) (h : script.result k = .ok value) :
      Ending k (.ok (.completed value)) (script.departure p c k)
  | definite (e : NetworkError) (h : script.result k = .error e)
      (hdefinite : e.isTransient = false) : Ending k (.error e) (script.departure p c k)
  | exhausted (e : NetworkError) (h : script.result k = .error e) (hpassing : e.isTransient = true)
      (hlast : k = max 1 p.maxAttempts) : Ending k (.ok (.exhausted e)) (script.departure p c k)
  | interrupted (e : NetworkError) (h : script.result k = .error e)
      (hpassing : e.isTransient = true) (hmore : k < max 1 p.maxAttempts) (cut : NetworkError)
      (c' : Context) (hsleep : (script.departure p c k).sleep (p.backoff k) = (.error cut, c')) :
      Ending k (.error cut) c'

/-- The result of a repetition for which a spent budget is a failure. -/
def settled : Except NetworkError (RetryOutcome α) → Except NetworkError α
  | .ok (.completed value) => .ok value
  | .ok (.exhausted e) => .error e
  | .error e => .error e

variable {script p c} {n : Nat}

theorem not_passing_of_ok {value : α} (h : script.result n = .ok value) : ¬ script.Passing n := by
  rintro ⟨e, hresult, -⟩
  cases h.symm.trans hresult

theorem not_passing_of_definite {e : NetworkError} (h : script.result n = .error e)
    (hdefinite : e.isTransient = false) : ¬ script.Passing n := by
  rintro ⟨e', hresult, he⟩
  cases h.symm.trans hresult
  cases hdefinite.symm.trans he

theorem reports_succ : reports p (n + 1) =
    reports p n ++ [.quotient .single (n + 1) (max 1 p.maxAttempts)] := by
  simp [reports, List.range'_concat, Nat.add_comm]

theorem notes_succ : script.notes p c (n + 1) = script.notes p c n ++
    [⟨n + 1, script.arrival p c (n + 1)⟩] := by
  simp [notes, List.range'_concat, Nat.add_comm]

theorem moment_succ (hn : 1 ≤ n) :
    script.moment p c (n + 1) = script.moment p c n + script.takes n + p.backoff n := by
  obtain ⟨m, rfl⟩ := Nat.exists_eq_add_of_le' hn
  simp [moment, round, List.range'_concat, Nat.add_comm, Nat.add_assoc, Nat.add_left_comm]

/-- The wait before the next attempt may be one more that is over at the moment of the
cancellation. -/
theorem ties_succ (hn : 1 ≤ n) : script.ties p c (n + 1) =
    script.ties p c n + if c.cancelAt = some (script.moment p c (n + 1)) then 1 else 0 := by
  obtain ⟨m, rfl⟩ := Nat.exists_eq_add_of_le' hn
  have hlast : 2 + m = m + 1 + 1 := by omega
  simp [ties, List.range'_concat, List.countP_append, List.countP_singleton, hlast]

/-- The first attempt finds the context as it was, with a report on top. -/
theorem arrival_one : c.report (.quotient .single 1 p.attempts) = script.arrival p c 1 := by
  simp [Context.report, arrival, moment, ties, reports, p.attempts_eq]

/-- A whole wait after an attempt leads to the next one. -/
theorem arrival_succ (hn : 1 ≤ n) :
    ((script.departure p c n).pass ((script.departure p c n).now + p.backoff n)).report
      (.quotient .single (n + 1) p.attempts) = script.arrival p c (n + 1) := by
  have hmoment : (script.departure p c n).now + p.backoff n = script.moment p c (n + 1) :=
    (moment_succ hn).symm
  rw [hmoment]
  by_cases htie : c.cancelAt = some (script.moment p c (n + 1))
  · have hahead : c.ahead - script.ties p c (n + 1) = c.ahead - script.ties p c n - 1 := by
      rw [ties_succ hn, if_pos htie, Nat.sub_add_eq]
    simp only [Context.report, Context.pass, Context.elapse, departure, arrival, htie, hahead,
      if_true, reports_succ, p.attempts_eq, List.append_assoc]
  · have hahead : c.ahead - script.ties p c (n + 1) = c.ahead - script.ties p c n := by
      rw [ties_succ hn, if_neg htie, Nat.add_zero]
    simp only [Context.report, Context.pass, Context.elapse, departure, arrival, htie, hahead,
      if_false, reports_succ, p.attempts_eq, List.append_assoc]

end Script

namespace Flow

variable {σ α β : Type} {p : RetryPolicy} {op : Nat → Flow σ α} {left n : Nat} {run run' : Run σ}

/-- What follows an attempt learns how it has ended. -/
theorem runOn_attempted {rest : Except NetworkError α → Flow σ β} {r : Except NetworkError α}
    (hop : (op n).runOn
      { run with context := run.context.report (.quotient .single n p.attempts) } = (r, run')) :
    Action.runOn (reportPart n p.attempts >>= fun _ => outcome (op n) >>= rest) run =
      (rest r).runOn run' := by
  have hrun : Action.runOn (reportPart n p.attempts >>= fun _ => outcome (op n) >>= rest) run =
    (rest ((op n).runOn _).1).runOn ((op n).runOn _).2 := rfl
  rw [hrun, hop]

/-- A success ends the repetition. -/
theorem runOn_attemptFrom_ok {value : α} (hop : (op n).runOn
    { run with context := run.context.report (.quotient .single n p.attempts) } =
      (.ok value, run')) :
    (attemptFrom p op left n).runOn run = (.ok (.completed value), run') := by
  unfold attemptFrom
  exact runOn_attempted hop

/-- An error that a repetition cannot mend ends it at once. -/
theorem runOn_attemptFrom_definite {e : NetworkError} (he : e.isTransient = false)
    (hop : (op n).runOn
      { run with context := run.context.report (.quotient .single n p.attempts) } =
        (.error e, run')) :
    (attemptFrom p op left n).runOn run = (.error e, run') := by
  unfold attemptFrom
  rw [runOn_attempted hop]
  simp only [he, Bool.not_false, if_true]
  rfl

/-- The error of the last attempt is handed over as the outcome. -/
theorem runOn_attemptFrom_exhausted {e : NetworkError} (he : e.isTransient = true)
    (hop : (op n).runOn
      { run with context := run.context.report (.quotient .single n p.attempts) } =
        (.error e, run')) :
    (attemptFrom p op 0 n).runOn run = (.ok (.exhausted e), run') := by
  unfold attemptFrom
  rw [runOn_attempted hop]
  simp only [he, Bool.not_true, Bool.false_eq_true, if_false]
  rfl

/-- Between two attempts the repetition waits, and the wait may be cut short. -/
theorem runOn_attemptFrom_passing {e : NetworkError} (he : e.isTransient = true)
    (hop : (op n).runOn
      { run with context := run.context.report (.quotient .single n p.attempts) } =
        (.error e, run')) :
    (attemptFrom p op (left + 1) n).runOn run =
      Action.runOn (sleep (p.backoff n) >>= fun _ => attemptFrom p op left (n + 1)) run' := by
  rw [attemptFrom, runOn_attempted hop]
  simp only [he, Bool.not_true, Bool.false_eq_true, if_false]

theorem runOn_sleep_ok {d : Duration} {rest : Flow σ β} {c' : Context}
    (hsleep : run.context.sleep d = (.ok (), c')) :
    Action.runOn (sleep d >>= fun _ => rest) run = rest.runOn { run with context := c' } := by
  have hrun : (sleep d).runOn run =
    ((run.context.sleep d).1, { run with context := (run.context.sleep d).2 }) := rfl
  rw [runOn_bind, hrun, hsleep]

theorem runOn_sleep_error {d : Duration} {rest : Flow σ β} {cut : NetworkError} {c' : Context}
    (hsleep : run.context.sleep d = (.error cut, c')) :
    Action.runOn (sleep d >>= fun _ => rest) run = (.error cut, { run with context := c' }) := by
  have hrun : (sleep d).runOn run =
    ((run.context.sleep d).1, { run with context := (run.context.sleep d).2 }) := rfl
  rw [runOn_bind, hrun, hsleep]

end Flow

namespace Script

open Flow

variable {α : Type} {script : Script α} {p : RetryPolicy} {c : Context}

/-- An attempt takes down its number and the context that it finds. -/
theorem runOn_perform {n : Nat} (hn : 1 ≤ n) {now : Context}
    (hnow : now.report (.quotient .single n p.attempts) = script.arrival p c n)
    (notes : List AttemptNote) {r : Except NetworkError α} (hr : script.result n = r) :
    (script.perform n).runOn
      ⟨now.report (.quotient .single n p.attempts), notes ++ script.notes p c (n - 1)⟩ =
        (r, ⟨script.departure p c n, notes ++ script.notes p c n⟩) := by
  obtain ⟨m, rfl⟩ := Nat.exists_eq_add_of_le' hn
  rw [hnow, notes_succ, ← List.append_assoc, ← hr]
  rfl

/-- An attempt that does not fail in a way that may pass is the last one. -/
theorem runOn_attemptFrom_of_not_passing (left : Nat) {n : Nat} (hn : 1 ≤ n) {now : Context}
    (hnow : now.report (.quotient .single n p.attempts) = script.arrival p c n)
    (hend : ¬ script.Passing n) (notes : List AttemptNote) :
    ∃ r c', script.Ending p c n r c' ∧
      (attemptFrom p script.perform left n).runOn ⟨now, notes ++ script.notes p c (n - 1)⟩ =
        (r, ⟨c', notes ++ script.notes p c n⟩) := by
  cases hresult : script.result n with
  | ok value =>
    refine ⟨_, _, .completed value hresult, ?_⟩
    exact runOn_attemptFrom_ok (runOn_perform hn hnow notes hresult)
  | error e =>
    have he : e.isTransient = false := by
      cases h : e.isTransient with
      | false => rfl
      | true => exact (hend ⟨e, hresult, h⟩).elim
    refine ⟨_, _, .definite e hresult he, ?_⟩
    exact runOn_attemptFrom_definite he (runOn_perform hn hnow notes hresult)

/-- From the attempt numbered `n` on: the attempts before the last one fail in a way that may pass,
and each was made in the context foreseen for it. -/
theorem runOn_attemptFrom {left n : Nat} (hn : 1 ≤ n) (hleft : n + left = max 1 p.maxAttempts)
    {now : Context} (hnow : now.report (.quotient .single n p.attempts) = script.arrival p c n)
    (notes : List AttemptNote) :
    ∃ k r c', n ≤ k ∧ k ≤ max 1 p.maxAttempts ∧ (∀ i, n ≤ i → i < k → script.Passing i) ∧
      script.Ending p c k r c' ∧
      (attemptFrom p script.perform left n).runOn ⟨now, notes ++ script.notes p c (n - 1)⟩ =
        (r, ⟨c', notes ++ script.notes p c k⟩) := by
  induction left generalizing n now with
  | zero =>
    by_cases hpass : script.Passing n
    · obtain ⟨e, hresult, he⟩ := hpass
      refine ⟨n, _, _, Nat.le_refl n, by omega, fun i hi hik => by omega,
        .exhausted e hresult he hleft, ?_⟩
      exact runOn_attemptFrom_exhausted he (runOn_perform hn hnow notes hresult)
    · obtain ⟨r, c', hend, hrun⟩ := runOn_attemptFrom_of_not_passing 0 hn hnow hpass notes
      exact ⟨n, r, c', Nat.le_refl n, by omega, fun i hi hik => by omega, hend, hrun⟩
  | succ left ih =>
    by_cases hpass : script.Passing n
    · obtain ⟨e, hresult, he⟩ := hpass
      have hrun : (attemptFrom p script.perform (left + 1) n).runOn
          ⟨now, notes ++ script.notes p c (n - 1)⟩ = _ :=
        runOn_attemptFrom_passing he (runOn_perform hn hnow notes hresult)
      rcases hsleep : (script.departure p c n).sleep (p.backoff n) with ⟨cut | _, c'⟩
      · refine ⟨n, _, _, Nat.le_refl n, by omega, fun i hi hik => by omega,
          .interrupted e hresult he (by omega) cut c' hsleep, ?_⟩
        exact hrun.trans (runOn_sleep_error hsleep)
      · rw [runOn_sleep_ok hsleep, Context.sleep_ok hsleep] at hrun
        obtain ⟨k, r, c', hk, hmost, hpassing, hend, hrest⟩ :=
          ih (Nat.le_add_left 1 n) (by omega) (arrival_succ hn)
        refine ⟨k, r, c', by omega, hmost, ?_, hend, hrun.trans hrest⟩
        intro i hi hik
        rcases Nat.eq_or_lt_of_le hi with rfl | hi
        · exact ⟨e, hresult, he⟩
        · exact hpassing i hi hik
    · obtain ⟨r, c', hend, hrun⟩ :=
        runOn_attemptFrom_of_not_passing (left + 1) hn hnow hpass notes
      exact ⟨n, r, c', Nat.le_refl n, by omega, fun i hi hik => by omega, hend, hrun⟩

/-- How a repetition that is not ended from outside ends. -/
theorem Ending.unbounded {k : Nat} {r : Except NetworkError (RetryOutcome α)} {c' : Context}
    (h : script.Ending p c k r c') (hdeadline : c.deadline = none) (hcancel : c.cancelAt = none) :
    (k = max 1 p.maxAttempts ∨ ¬ script.Passing k) ∧ settled r = script.result k := by
  cases h with
  | completed value h => exact ⟨.inr (not_passing_of_ok h), h.symm⟩
  | definite e h hdefinite => exact ⟨.inr (not_passing_of_definite h hdefinite), h.symm⟩
  | exhausted e h hpassing hlast => exact ⟨.inl hlast, h.symm⟩
  | interrupted e h hpassing hmore cut c' hsleep =>
    have hfree : (script.departure p c k).deadline = none ∧
      (script.departure p c k).cancelAt = none := ⟨hdeadline, hcancel⟩
    rw [Context.sleep_unbounded hfree.1 hfree.2] at hsleep
    cases hsleep

/-- The counter of the attempts, which is 32 bits wide, after so many increments. -/
def counter : Nat → UInt32
  | 0 => 1
  | n + 1 => counter n + 1

/-- The counter shows the number of every attempt that can be made. -/
theorem toNat_counter {n : Nat} (h : n + 1 < 2 ^ 32) : (counter n).toNat = n + 1 := by
  induction n with
  | zero => rfl
  | succ n ih =>
    rw [counter, UInt32.toNat_add, ih (by omega)]
    exact Nat.mod_eq_of_lt h

/-- There is one attempt at which a repetition that nothing ends from outside can stop. -/
theorem last_unique {k m : Nat} (hk : k ≤ max 1 p.maxAttempts) (hm : m ≤ max 1 p.maxAttempts)
    (hpassing : ∀ i, 1 ≤ i → i < k → script.Passing i) (hfirst : 1 ≤ m)
    (hlast : m = max 1 p.maxAttempts ∨ ¬ script.Passing m)
    (hpassing' : ∀ i, 1 ≤ i → i < m → script.Passing i) (hfirst' : 1 ≤ k)
    (hlast' : k = max 1 p.maxAttempts ∨ ¬ script.Passing k) : k = m := by
  rcases Nat.lt_trichotomy k m with hlt | heq | hlt
  · rcases hlast' with hmost | hstop
    · omega
    · exact absurd (hpassing' k hfirst' hlt) hstop
  · exact heq
  · rcases hlast with hmost | hstop
    · omega
    · exact absurd (hpassing m hfirst hlt) hstop

/-- A repetition makes the attempts of the script in order until the first that succeeds or fails
for good, but no more than the policy allows, of which there is always one; the counter of the
attempts does not overflow. Both ways to repeat make the same attempts at the same moments with the
same reports, in every context and however a race between a wait and the cancellation goes in it;
they differ only when the budget is spent, where the second one runs the cleanup, whatever it does,
and counts as ended well. -/
theorem repetition_follows_script (script : Script α) (p : RetryPolicy) (c : Context)
    (cleanup : Flow (List AttemptNote) Unit) (notes : List AttemptNote) :
    ∃ k r c', 1 ≤ k ∧ k ≤ max 1 p.maxAttempts ∧
      (p.maxAttempts < 2 ^ 32 → ∀ n, n < k → (counter n).toNat = n + 1) ∧
      (∀ i, 1 ≤ i → i < k → script.Passing i) ∧ script.Ending p c k r c' ∧
      (c.deadline = none → c.cancelAt = none →
        (k = max 1 p.maxAttempts ∨ ¬ script.Passing k) ∧ settled r = script.result k) ∧
      (retry p script.perform).runOn ⟨c, notes⟩ =
        (settled r, ⟨c', notes ++ script.notes p c k⟩) ∧
      (retryOrAbandon p script.perform cleanup).runOn ⟨c, notes⟩ =
        (r, match r with
          | .ok (.exhausted _) => (cleanup.runOn ⟨c', notes ++ script.notes p c k⟩).2
          | _ => ⟨c', notes ++ script.notes p c k⟩) := by
  have hleft : 1 + (p.attempts - 1) = max 1 p.maxAttempts := by
    rw [p.attempts_eq]
    omega
  obtain ⟨k, r, c', hk, hmost, hpassing, hend, hrun⟩ :=
    runOn_attemptFrom (Nat.le_refl 1) hleft arrival_one notes
  have hnotes : notes ++ script.notes p c (1 - 1) = notes := List.append_nil notes
  rw [hnotes] at hrun
  refine ⟨k, r, c', hk, hmost, ?_, hpassing, hend, hend.unbounded, ?_, ?_⟩
  · intro hwidth n hn
    exact toNat_counter (by omega)
  · rw [retry, runOn_bind, hrun]
    rcases r with e | value | e <;> rfl
  · rw [retryOrAbandon, runOn_bind, hrun]
    rcases r with e | value | e <;> rfl

/-- Of three attempts the last one succeeds; the second one fails for good; none succeeds, and the
resource is given up. -/
theorem repetition_follows_script_sample :
    let p : RetryPolicy := ⟨3, .finite false 1 0, .ofSeconds 1, .ofSeconds 10⟩
    let busy : Except NetworkError Nat := .error (.driver "busy")
    let recovers : Script Nat := ⟨fun n => if n < 3 then busy else .ok n, fun _ => 5⟩
    let breaks : Script Nat :=
      ⟨fun n => if n < 2 then busy else .error (.portNotFound "port"), fun _ => 5⟩
    let fails : Script Nat := ⟨fun _ => busy, fun _ => 5⟩
    let cleanup : Flow (List AttemptNote) Unit := fun run =>
      (.error (.driver "still busy"), { run with state := run.state ++ [⟨0, run.context⟩] })
    let seen (notes : List AttemptNote) : List (Nat × Duration × Nat) :=
      notes.map fun note => (note.number, note.context.now, note.context.progress.length)
    (∃ c notes, (retry p recovers.perform).runOn ⟨{}, []⟩ = (.ok 3, ⟨c, notes⟩) ∧
      seen notes = [(1, 0, 1), (2, 1000000005, 2), (3, 3000000010, 3)]) ∧
    (∃ c notes, (retry p breaks.perform).runOn ⟨{}, []⟩ =
        (.error (.portNotFound "port"), ⟨c, notes⟩) ∧
      seen notes = [(1, 0, 1), (2, 1000000005, 2)]) ∧
    ∃ c notes, (retryOrAbandon p fails.perform cleanup).runOn ⟨{}, []⟩ =
        (.ok (.exhausted (.driver "busy")), ⟨c, notes⟩) ∧
      seen notes = [(1, 0, 1), (2, 1000000005, 2), (3, 3000000010, 3), (0, 3000000015, 3)] := by
  intro p busy recovers breaks fails cleanup seen
  have hpassing (script : Script Nat) {n : Nat} (h : script.result n = busy) : script.Passing n :=
    ⟨_, h, rfl⟩
  refine ⟨?_, ?_, ?_⟩
  · obtain ⟨k, r, c', hk, hmost, -, hbefore, -, hfree, hretry, -⟩ :=
      repetition_follows_script recovers p {} cleanup []
    obtain ⟨hlast, hresult⟩ := hfree rfl rfl
    obtain rfl : k = 3 := last_unique hmost (Nat.le_refl 3) hbefore (by decide) (.inl rfl)
      (fun i _ hi => hpassing recovers (if_pos hi)) hk hlast
    rw [hretry, hresult]
    exact ⟨_, _, rfl, by decide +kernel⟩
  · obtain ⟨k, r, c', hk, hmost, -, hbefore, -, hfree, hretry, -⟩ :=
      repetition_follows_script breaks p {} cleanup []
    obtain ⟨hlast, hresult⟩ := hfree rfl rfl
    obtain rfl : k = 2 := last_unique hmost (by decide) hbefore (by decide)
      (.inr (not_passing_of_definite rfl rfl))
      (fun i _ hi => hpassing breaks (if_pos hi)) hk hlast
    rw [hretry, hresult]
    exact ⟨_, _, rfl, by decide +kernel⟩
  · obtain ⟨k, r, c', hk, hmost, -, hbefore, hend, hfree, -, hpassive⟩ :=
      repetition_follows_script fails p {} cleanup []
    obtain ⟨hlast, hresult⟩ := hfree rfl rfl
    obtain rfl : k = 3 := last_unique hmost (Nat.le_refl 3) hbefore (by decide) (.inl rfl)
      (fun i _ _ => hpassing fails rfl) hk hlast
    rw [hpassive]
    cases hend with
    | completed value h => cases h
    | definite e h hdefinite =>
      cases h
      cases hdefinite
    | exhausted e h hpassing hlast =>
      cases h
      exact ⟨_, _, rfl, by decide +kernel⟩
    | interrupted e h hpassing hmore cut c' hsleep => exact absurd hmore (Nat.lt_irrefl 3)

end Script

end AmphoraWiring
