import AmphoraWiring.Proofs.Endings

/-!
Work that is taken apart into its calls. A thread makes one call after the other, and what it goes
on with depends on how they end. Alone it makes all of them in a row; beside another thread, a
schedule says which of the two makes the next call. A call is atomic: it finds a deployment and
leaves one.
-/
namespace AmphoraWiring

open Action

/-- A call to the substrate or to the repository, or an entry of the audit trail. -/
inductive Request : Type → Type 1 where
  | substrate {α : Type} (call : Substrate.Call α) : Request α
  | repository {α : Type} (call : Repository.Call α) : Request α
  | record (f : AuditLog → AuditLog) : Request Unit

namespace Request

variable {α : Type}

def perform : Request α → Action NetworkError Deployment α
  | .substrate call => fun d =>
    let (result, s) := call d.substrate
    (result, { d with substrate := s })
  | .repository call => fun d =>
    let (result, r) := call d.repository
    (result.mapError .store, { d with repository := r })
  | .record f => fun d => (.ok (), { d with audit := f d.audit })

theorem perform_substrate (call : Substrate.Call α) (d : Deployment) :
    (substrate call).perform d =
      ((call.runOn d.substrate).1, { d with substrate := (call.runOn d.substrate).2 }) := rfl

theorem perform_repository (call : Repository.Call α) (d : Deployment) :
    (repository call).perform d = ((call.runOn d.repository).1.mapError .store,
      { d with repository := (call.runOn d.repository).2 }) := rfl

end Request

/-- A thread has ended, or it is about to make a call and goes on with what the call gives. -/
inductive Thread (α : Type) : Type 1 where
  | ended (result : Except NetworkError α)
  | call {β : Type} (request : Request β) (next : Except NetworkError β → Thread α)

namespace Thread

variable {α β γ : Type}

/-- What follows is done after a success; a failure ends the thread. -/
def bind (thread : Thread α) (rest : α → Thread β) : Thread β :=
  match thread with
  | .ended (.ok a) => rest a
  | .ended (.error e) => .ended (.error e)
  | .call request next => .call request fun result => (next result).bind rest

instance : Monad Thread where
  pure a := .ended (.ok a)
  bind := bind

theorem bind_assoc (thread : Thread α) (f : α → Thread β) (g : β → Thread γ) :
    (thread.bind f).bind g = thread.bind fun a => (f a).bind g := by
  induction thread with
  | ended result => cases result <;> rfl
  | call request next ih => exact congrArg (call request) (funext ih)

theorem bind_pure (thread : Thread α) : thread.bind (fun a => .ended (.ok a)) = thread := by
  induction thread with
  | ended result => cases result <;> rfl
  | call request next ih => exact congrArg (call request) (funext ih)

instance : LawfulMonad Thread := .mk' Thread bind_pure (fun _ _ => rfl) bind_assoc

def fail (e : NetworkError) : Thread α := .ended (.error e)

/-- The value, or the given error where there is none. -/
def orFail (e : NetworkError) : Option α → Thread α
  | some a => pure a
  | none => fail e

/-- How a thread ends, without ending with it. -/
def outcome : Thread α → Thread (Except NetworkError α)
  | .ended result => .ended (.ok result)
  | .call request next => .call request fun result => (next result).outcome

def ask (request : Request α) : Thread α := .call request .ended

def onSubstrate (call : Substrate.Call α) : Thread α := ask (.substrate call)

def onRepository (call : Repository.Call α) : Thread α := ask (.repository call)

def record (f : AuditLog → AuditLog) : Thread Unit := ask (.record f)

/-- How the thread ends if nothing happens between its calls. -/
def finish : Thread α → Action NetworkError Deployment α
  | .ended result => fun d => (result, d)
  | .call request next => fun d =>
    let (result, d) := request.perform d
    (next result).finish d

/-- Alone, a thread makes its calls and then those of what follows. -/
theorem finish_bind (thread : Thread α) (rest : α → Thread β) (d : Deployment) :
    (thread.bind rest).finish d = match thread.finish d with
      | (.ok a, d') => (rest a).finish d'
      | (.error e, d') => (.error e, d') := by
  induction thread generalizing d with
  | ended result => cases result <;> rfl
  | call request next ih => exact ih _ _

/-- Alone, a thread whose failure is caught ends in a success. -/
theorem finish_outcome (thread : Thread α) (d : Deployment) :
    thread.outcome.finish d = (.ok (thread.finish d).1, (thread.finish d).2) := by
  induction thread generalizing d with
  | ended result => rfl
  | call request next ih => exact ih _ _

/-- The thread makes the calls of the work: alone it comes to the same end. -/
def Plays (thread : Thread α) (work : Work α) : Prop :=
  ∀ run : Run Deployment, work.runOn run =
    ((thread.finish run.state).1, { run with state := (thread.finish run.state).2 })

theorem plays_pure (a : α) : Plays (pure a) (pure a) := fun _ => rfl

theorem plays_fail (e : NetworkError) : Plays (fail e : Thread α) (throw e) := fun _ => rfl

theorem plays_orFail (e : NetworkError) (value : Option α) :
    Plays (orFail e value) (Action.orFail e value) := by
  cases value with
  | none => exact plays_fail e
  | some a => exact plays_pure a

theorem plays_onSubstrate (call : Substrate.Call α) :
    Plays (onSubstrate call) (Deployment.onSubstrate call) := by
  intro run
  have hid : ∀ result : Except NetworkError α, result.mapError id = result := by
    intro result
    cases result <;> rfl
  change ((call run.state.substrate).1.mapError id, _) = ((call run.state.substrate).1, _)
  rw [hid]
  rfl

theorem plays_onRepository (call : Repository.Call α) :
    Plays (onRepository call) (Deployment.onRepository call) := fun _ => rfl

theorem plays_record (f : AuditLog → AuditLog) :
    Plays (record f) (liftM (Deployment.record f) : Work Unit) := fun _ => rfl

section

variable {thread : Thread α} {work : Work α}

/-- Threads that play two parts play them one after the other. -/
theorem Plays.bind {rest : α → Thread β} {rest' : α → Work β} (h : thread.Plays work)
    (hrest : ∀ a, (rest a).Plays (rest' a)) : Plays (thread >>= rest) (work >>= rest') := by
  intro run
  have hfinish := finish_bind thread rest run.state
  change _ = (((thread.bind rest).finish run.state).1,
    { run with state := ((thread.bind rest).finish run.state).2 })
  rw [runOn_bind, h run, hfinish]
  rcases thread.finish run.state with ⟨e | a, d⟩
  · rfl
  · exact hrest a { run with state := d }

theorem Plays.outcome (h : thread.Plays work) : thread.outcome.Plays (Flow.outcome work) := by
  intro run
  have hrun : (Flow.outcome work).runOn run = (.ok (work.runOn run).1, (work.runOn run).2) := rfl
  rw [hrun, h run, finish_outcome]

/-- A thread plays a loop if it plays each round. -/
theorem Plays.foldlM {f : β → γ → Thread β} {f' : β → γ → Work β}
    (h : ∀ b x, (f b x).Plays (f' b x)) (l : List γ) (b : β) :
    Plays (l.foldlM f b) (l.foldlM f' b) := by
  induction l generalizing b with
  | nil => exact plays_pure b
  | cons x l ih => exact (h b x).bind ih

theorem Plays.mapM {f : γ → Thread β} {f' : γ → Work β} (h : ∀ x, (f x).Plays (f' x))
    (l : List γ) : Plays (l.mapM f) (l.mapM f') := by
  induction l with
  | nil => exact plays_pure []
  | cons x l ih =>
    rw [List.mapM_cons, List.mapM_cons]
    exact (h x).bind fun y => ih.bind fun ys => plays_pure (y :: ys)

end

end Thread

/-- Whose turn it is. -/
inductive Turn where
  | left
  | right
deriving DecidableEq, Repr

/-- Two threads take turns as the schedule says, a thread that has ended lets its turns pass. What
is left of them when the schedule is over runs in a row, the left one first. -/
def interleave {α β : Type} : List Turn → Thread α → Thread β → Deployment →
    (Except NetworkError α × Except NetworkError β) × Deployment
  | [], left, right, d =>
    let (result, d) := left.finish d
    let (result', d) := right.finish d
    ((result, result'), d)
  | .left :: turns, .call request next, right, d =>
    let (result, d) := request.perform d
    interleave turns (next result) right d
  | .right :: turns, left, .call request next, d =>
    let (result, d) := request.perform d
    interleave turns left (next result) d
  | .left :: turns, .ended result, right, d => interleave turns (.ended result) right d
  | .right :: turns, left, .ended result, d => interleave turns left (.ended result) d

end AmphoraWiring
