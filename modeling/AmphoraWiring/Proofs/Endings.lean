import AmphoraWiring.Deployment

/-!
How actions end. An action that starts in a given state ends in one way, with a value or a
failure and a state, and `Ends` says what holds then in either case. The rules follow the way in
which actions are put together, so a fact about a whole step comes from one fact for each call.
-/
namespace AmphoraWiring

variable {ε σ τ α β γ : Type}

namespace Action

/-- From `s` the action ends well with what `ok` says, or it fails with what `bad` says. -/
def Ends (action : Action ε σ α) (s : σ) (ok : α → σ → Prop) (bad : ε → σ → Prop) : Prop :=
  match action.runOn s with
  | (.ok a, t) => ok a t
  | (.error e, t) => bad e t

section

variable {x : Action ε σ α} {s : σ} {ok ok' : α → σ → Prop} {bad bad' : ε → σ → Prop}

/-- What is known of an ending may be weakened. -/
theorem Ends.mono (h : x.Ends s ok bad) (hok : ∀ a t, ok a t → ok' a t)
    (hbad : ∀ e t, bad e t → bad' e t) : x.Ends s ok' bad' := by
  unfold Ends at h ⊢
  split at h
  next a t hx => exact hok a t h
  next e t hx => exact hbad e t h

theorem Ends.imp_ok (h : x.Ends s ok bad) (hok : ∀ a t, ok a t → ok' a t) : x.Ends s ok' bad :=
  h.mono hok fun _ _ h => h

/-- What holds in either case holds of the state in the end. -/
theorem Ends.state {p : σ → Prop} (h : x.Ends s (fun _ t => p t) fun _ t => p t) :
    p (x.runOn s).2 := by
  unfold Ends at h
  split at h
  next a t hx => exact hx ▸ h
  next e t hx => exact hx ▸ h

/-- An action that cannot fail gives a value. -/
theorem Ends.value (h : x.Ends s ok fun _ _ => False) : ∃ a t, x.runOn s = (.ok a, t) ∧ ok a t := by
  unfold Ends at h
  split at h
  next a t hx => exact ⟨a, t, hx, h⟩
  next e t hx => exact h.elim

/-- An action that cannot succeed fails. -/
theorem Ends.failure (h : x.Ends s (fun _ _ => False) bad) :
    ∃ e t, x.runOn s = (.error e, t) ∧ bad e t := by
  unfold Ends at h
  split at h
  next a t hx => exact h.elim
  next e t hx => exact ⟨e, t, hx, h⟩

theorem ends_of_ok {a : α} {t : σ} (hx : x.runOn s = (.ok a, t)) (h : ok a t) :
    x.Ends s ok bad := by
  unfold Ends
  rwa [hx]

theorem ends_of_error {e : ε} {t : σ} (hx : x.runOn s = (.error e, t)) (h : bad e t) :
    x.Ends s ok bad := by
  unfold Ends
  rwa [hx]

/-- An action ends as it runs. -/
theorem ends_runOn (x : Action ε σ α) (s : σ) :
    x.Ends s (fun a t => x.runOn s = (.ok a, t)) fun e t => x.runOn s = (.error e, t) := by
  unfold Ends
  rcases x.runOn s with ⟨e | a, t⟩ <;> rfl

/-- Two accounts of how an action ends are both true. -/
theorem Ends.and (h : x.Ends s ok bad) (h' : x.Ends s ok' bad') :
    x.Ends s (fun a t => ok a t ∧ ok' a t) fun e t => bad e t ∧ bad' e t := by
  unfold Ends at h h' ⊢
  rcases hx : x.runOn s with ⟨e | a, t⟩ <;> simp only [hx] at h h'
  · exact ⟨h, h'⟩
  · exact ⟨h, h'⟩

/-- What is said of failures holds of the failure that took place. -/
theorem Ends.of_error {e : ε} {t : σ} (h : x.Ends s ok bad) (hx : x.runOn s = (.error e, t)) :
    bad e t := by
  unfold Ends at h
  rwa [hx] at h

theorem exists_of_isSome (x : Action ε σ α) (s : σ) (h : (x.runOn s).1.toOption.isSome) :
    ∃ a t, x.runOn s = (.ok a, t) := by
  rcases hx : x.runOn s with ⟨e | a, t⟩
  · rw [hx] at h
    cases h
  · exact ⟨a, t, rfl⟩

/-- What is said of successes holds of the value that was given. -/
theorem Ends.of_ok {a : α} {t : σ} (h : x.Ends s ok bad) (hx : x.runOn s = (.ok a, t)) :
    ok a t := by
  unfold Ends at h
  rwa [hx] at h

/-- What follows gets the value and the state of a success; a failure ends the whole. -/
theorem runOn_bind (x : Action ε σ α) (f : α → Action ε σ β) (s : σ) :
    Action.runOn (x >>= f) s = match x.runOn s with
      | (.ok a, t) => (f a).runOn t
      | (.error e, t) => (.error e, t) := by
  rcases hx : x.runOn s with ⟨_ | _, t⟩ <;>
    simp only [runOn] at hx ⊢ <;>
    simp only [bind, ExceptT.bind, ExceptT.mk, StateT.bind, hx] <;> rfl

/-- What follows runs only after a success; a failure ends the whole. -/
theorem Ends.bind {f : α → Action ε σ β} {ok' : β → σ → Prop} {bad' : ε → σ → Prop}
    (h : x.Ends s ok bad) (hok : ∀ a t, ok a t → (f a).Ends t ok' bad')
    (hbad : ∀ e t, bad e t → bad' e t) : Action.Ends (x >>= f) s ok' bad' := by
  unfold Ends at h ⊢
  rw [runOn_bind]
  rcases hx : x.runOn s with ⟨e | a, t⟩ <;> simp only [hx] at h
  · exact hbad e t h
  · exact hok a t h

/-- Where it is known how the first part ends. -/
theorem ends_bind_of_ok {f : α → Action ε σ β} {a : α} {t : σ} {ok : β → σ → Prop}
    (hx : x.runOn s = (.ok a, t)) (h : (f a).Ends t ok bad) : Action.Ends (x >>= f) s ok bad := by
  unfold Ends at h ⊢
  rw [runOn_bind, hx]
  exact h

/-- Where it is known that the first part fails, the rest does not matter. -/
theorem ends_bind_of_error {f : α → Action ε σ β} {e : ε} {t : σ} {ok : β → σ → Prop}
    (hx : x.runOn s = (.error e, t)) (h : bad e t) : Action.Ends (x >>= f) s ok bad := by
  unfold Ends
  rw [runOn_bind, hx]
  exact h

theorem ends_pure {a : α} (h : ok a s) : Action.Ends (pure a) s ok bad := h

/-- Where it does not matter what an action gives back. -/
theorem Ends.drop {p : σ → Prop} (h : x.Ends s (fun _ t => p t) fun _ t => p t) :
    Action.Ends (do let _ ← x) s (fun _ t => p t) fun _ t => p t :=
  h.bind (fun _ _ h => ends_pure h) fun _ _ h => h

theorem ends_throw {e : ε} (h : bad e s) : Action.Ends (throw e) s ok bad := h

theorem ends_throw_bind {f : β → Action ε σ α} {e : ε} (h : bad e s) :
    Action.Ends (throw e >>= f) s ok bad := h

theorem ends_get {rest : σ → Action ε σ α} (h : (rest s).Ends s ok bad) :
    Action.Ends (do rest (← get)) s ok bad := h

theorem ends_modify {f : σ → σ} {rest : Action ε σ α} (h : rest.Ends (f s) ok bad) :
    Action.Ends (do modify f; rest) s ok bad := h

theorem ends_modify_last {f : σ → σ} {ok : PUnit → σ → Prop} (h : ok ⟨⟩ (f s)) :
    Action.Ends (modify f) s ok bad := h

/-- It fails for one reason only. -/
theorem ends_orFail_reason (e : ε) (value : Option α) (s : σ) :
    Action.Ends (orFail e value) s (fun a t => t = s ∧ value = some a)
      fun e' t => t = s ∧ value = none ∧ e' = e := by
  cases value with
  | none => exact ⟨rfl, rfl, rfl⟩
  | some a => exact ⟨rfl, rfl⟩

theorem ends_orFail (e : ε) (value : Option α) (s : σ) :
    Action.Ends (orFail e value) s (fun a t => t = s ∧ value = some a)
      fun _ t => t = s ∧ value = none :=
  (ends_orFail_reason e value s).mono (fun _ _ h => h) fun _ _ h => ⟨h.1, h.2.1⟩

end

/-- A loop keeps an invariant that may depend on what is still to be done. -/
theorem Ends.foldlM {f : β → γ → Action ε σ β} {inv : List γ → β → σ → Prop} {bad : ε → σ → Prop}
    (hstep : ∀ x rest b s, inv (x :: rest) b s → (f b x).Ends s (inv rest) bad)
    (l : List γ) (b : β) (s : σ) (h : inv l b s) :
    Action.Ends (l.foldlM f b) s (inv []) bad := by
  induction l generalizing b s with
  | nil => exact h
  | cons x rest ih =>
    rw [List.foldlM_cons]
    exact (hstep x rest b s h).bind (fun b' t h' => ih b' t h') (fun e t h' => h')

/-- A loop keeps an invariant that may depend on what has been done. -/
theorem Ends.foldlM_done {f : β → γ → Action ε σ β} {l : List γ} (inv : List γ → β → σ → Prop)
    {bad : ε → σ → Prop}
    (hstep : ∀ done x rest, l = done ++ x :: rest → ∀ b s, inv done b s →
      (f b x).Ends s (inv (done ++ [x])) bad)
    {b : β} {s : σ} (h : inv [] b s) : Action.Ends (l.foldlM f b) s (inv l) bad := by
  have hrest : ∀ rest done, l = done ++ rest → ∀ b s, inv done b s →
      Action.Ends (rest.foldlM f b) s (inv l) bad := by
    intro rest
    induction rest with
    | nil =>
      intro done hsplit b s h
      rw [List.append_nil] at hsplit
      exact ends_pure (hsplit ▸ h)
    | cons x rest ih =>
      intro done hsplit b s h
      rw [List.foldlM_cons]
      refine (hstep done x rest hsplit b s h).bind (fun b' t h' => ?_) (fun e t h' => h')
      exact ih (done ++ [x]) (by rw [hsplit, List.append_assoc, List.singleton_append]) b' t h'
  exact hrest l [] rfl b s h

/-- A loop keeps an invariant that every one of its rounds keeps. -/
theorem Ends.foldlM_mem {f : β → γ → Action ε σ β} {inv : β → σ → Prop} {bad : ε → σ → Prop}
    {l : List γ} (hstep : ∀ x ∈ l, ∀ b s, inv b s → (f b x).Ends s inv bad) {b : β} {s : σ}
    (h : inv b s) : Action.Ends (l.foldlM f b) s inv bad := by
  induction l generalizing b s with
  | nil => exact h
  | cons x rest ih =>
    rw [List.foldlM_cons]
    refine (hstep x List.mem_cons_self b s h).bind (fun b' t h' => ?_) (fun e t h' => h')
    exact ih (fun y hy => hstep y (List.mem_cons_of_mem _ hy)) h'

end Action

namespace Flow

open Action

variable {ok : α → Run σ → Prop} {bad : NetworkError → Run σ → Prop} {run : Run σ}

/-- What follows learns how a flow has ended, and runs in either case. -/
theorem ends_outcome {flow : Flow σ α} {rest : Except NetworkError α → Flow σ β}
    {ok' : β → Run σ → Prop} {bad' : NetworkError → Run σ → Prop} (h : Action.Ends flow run ok bad)
    (hok : ∀ a run', ok a run' → Action.Ends (rest (.ok a)) run' ok' bad')
    (hbad : ∀ e run', bad e run' → Action.Ends (rest (.error e)) run' ok' bad') :
    Action.Ends (do rest (← outcome flow)) run ok' bad' := by
  have hrun : Action.runOn (do rest (← outcome flow)) run =
      (rest (flow.runOn run).1).runOn (flow.runOn run).2 := rfl
  unfold Ends at h ⊢
  rw [hrun]
  rcases hx : flow.runOn run with ⟨e | a, run'⟩ <;> simp only [hx] at h
  · exact hbad e run' h
  · exact hok a run' h

/-- Where it does not matter how a flow has ended. -/
theorem ends_attempt {flow : Flow σ α} {rest : Except NetworkError α → Flow σ β}
    {mid : Run σ → Prop} (h : Action.Ends flow run (fun _ => mid) fun _ => mid)
    {ok' : β → Run σ → Prop} {bad' : NetworkError → Run σ → Prop}
    (hrest : ∀ r run', mid run' → Action.Ends (rest r) run' ok' bad') :
    Action.Ends (do rest (← outcome flow)) run ok' bad' :=
  ends_outcome h (fun a => hrest (.ok a)) fun e => hrest (.error e)

/-- An action on a part leaves the context and the rest of the state alone. -/
theorem ends_onPart {get : σ → τ} {set : σ → τ → σ} {toError : ε → NetworkError}
    {action : Action ε τ α}
    (h : action.Ends (get run.state)
      (fun a part => ok a { run with state := set run.state part })
      fun e part => bad (toError e) { run with state := set run.state part }) :
    Action.Ends (onPart get set toError action) run ok bad := by
  have hrun : Action.runOn (onPart get set toError action) run =
      ((action.runOn (get run.state)).1.mapError toError,
        { run with state := set run.state (action.runOn (get run.state)).2 }) := rfl
  unfold Ends at h ⊢
  rw [hrun]
  rcases hx : action.runOn (get run.state) with ⟨e | a, part⟩ <;> simp only [hx] at h
  · exact h
  · exact h

end Flow

namespace Effect

variable {effect : Effect σ α} {run : Run σ}

/-- An effect ends in one way as well, and always with a value. -/
def Ends (effect : Effect σ α) (run : Run σ) (post : α → Run σ → Prop) : Prop :=
  post (effect.run run).1 (effect.run run).2

theorem Ends.mono {post post' : α → Run σ → Prop} (h : Ends effect run post)
    (himp : ∀ a run', post a run' → post' a run') : Ends effect run post' :=
  himp _ _ h

theorem Ends.state {p : Run σ → Prop} (h : Ends effect run fun _ run' => p run') :
    p (effect.run run).2 := h

theorem Ends.bind {f : α → Effect σ β} {mid : α → Run σ → Prop} {post : β → Run σ → Prop}
    (h : Ends effect run mid) (hnext : ∀ a run', mid a run' → Ends (f a) run' post) :
    Ends (effect >>= f) run post :=
  hnext _ _ h

theorem ends_pure {a : α} {post : α → Run σ → Prop} (h : post a run) : Ends (pure a) run post := h

/-- What follows learns how a flow has ended, and runs in either case. -/
theorem ends_settle {flow : Flow σ α} {rest : Except NetworkError α → Effect σ β}
    {ok : α → Run σ → Prop} {bad : NetworkError → Run σ → Prop} {post : β → Run σ → Prop}
    (h : Action.Ends flow run ok bad) (hok : ∀ a run', ok a run' → Ends (rest (.ok a)) run' post)
    (hbad : ∀ e run', bad e run' → Ends (rest (.error e)) run' post) :
    Ends (do rest (← Flow.settle flow)) run post := by
  have hrun : Ends (do rest (← Flow.settle flow)) run post ↔
      Ends (rest (flow.runOn run).1) (flow.runOn run).2 post := Iff.rfl
  unfold Action.Ends at h
  rw [hrun]
  rcases hx : flow.runOn run with ⟨e | a, run'⟩ <;> simp only [hx] at h
  · exact hbad e run' h
  · exact hok a run' h

theorem ends_settle_attempt {flow : Flow σ α} {rest : Except NetworkError α → Effect σ β}
    {mid : Run σ → Prop} (h : Action.Ends flow run (fun _ => mid) fun _ => mid)
    {post : β → Run σ → Prop} (hrest : ∀ r run', mid run' → Ends (rest r) run' post) :
    Ends (do rest (← Flow.settle flow)) run post :=
  ends_settle h (fun a => hrest (.ok a)) fun e => hrest (.error e)

/-- A loop of effects keeps an invariant that may depend on what is still to be done. -/
theorem Ends.forM {f : γ → Effect σ PUnit} (inv : List γ → Run σ → Prop) {l : List γ}
    (hstep : ∀ x ∈ l, ∀ rest run, inv (x :: rest) run → Ends (f x) run fun _ run' => inv rest run')
    {run : Run σ} (h : inv l run) : Ends (l.forM f) run fun _ run' => inv [] run' := by
  induction l generalizing run with
  | nil => exact h
  | cons x rest ih =>
    refine Ends.bind (hstep x List.mem_cons_self rest run h) fun _ run' h' => ?_
    exact ih (fun y hy => hstep y (List.mem_cons_of_mem _ hy)) h'

/-- A loop of effects keeps an invariant that every one of its rounds keeps. -/
theorem Ends.forM_mem {f : γ → Effect σ PUnit} {inv : Run σ → Prop} {l : List γ}
    (hstep : ∀ x ∈ l, ∀ run, inv run → Ends (f x) run fun _ run' => inv run') {run : Run σ}
    (h : inv run) : Ends (l.forM f) run fun _ run' => inv run' :=
  Ends.forM (fun _ => inv) (fun x hx _ => hstep x hx) h

end Effect

namespace Deployment

open Action

variable {run : Run Deployment} {ok : α → Run Deployment → Prop}
  {bad : NetworkError → Run Deployment → Prop}

/-- Work on the substrate leaves everything else as it is. -/
theorem ends_onSubstrate {call : Substrate.Call α} {ok : α → Substrate → Prop}
    {bad : NetworkError → Substrate → Prop} (h : call.Ends run.state.substrate ok bad) :
    Action.Ends (onSubstrate call) run
      (fun a run' => ok a run'.state.substrate ∧ run'.state.repository = run.state.repository ∧
        run'.state.audit = run.state.audit)
      fun e run' => bad e run'.state.substrate ∧ run'.state.repository = run.state.repository ∧
        run'.state.audit = run.state.audit :=
  Flow.ends_onPart (h.mono (fun _ _ h => ⟨h, rfl, rfl⟩) fun _ _ h => ⟨h, rfl, rfl⟩)

/-- Work on the repository leaves everything else as it is. -/
theorem ends_onRepository {call : Repository.Call α} {ok : α → Repository → Prop}
    {bad : StoreError → Repository → Prop} (h : call.Ends run.state.repository ok bad) :
    Action.Ends (onRepository call) run
      (fun a run' => ok a run'.state.repository ∧ run'.state.substrate = run.state.substrate ∧
        run'.state.audit = run.state.audit)
      fun e run' => (∃ e', e = .store e' ∧ bad e' run'.state.repository) ∧
        run'.state.substrate = run.state.substrate ∧ run'.state.audit = run.state.audit :=
  Flow.ends_onPart (h.mono (fun _ _ h => ⟨h, rfl, rfl⟩) fun e _ h => ⟨⟨e, rfl, h⟩, rfl, rfl⟩)

/-- A call of the repository that cannot fail. -/
theorem ends_onRepository_sure {call : Repository.Call α} {ok : α → Repository → Prop}
    (h : call.Ends run.state.repository ok fun _ _ => False) :
    Action.Ends (onRepository call) run
      (fun a run' => ok a run'.state.repository ∧ run'.state.substrate = run.state.substrate ∧
        run'.state.audit = run.state.audit)
      fun _ _ => False :=
  (ends_onRepository h).mono (fun _ _ h => h) fun _ _ h => h.1.elim fun _ h => h.2

/-- A call of the substrate that cannot fail. -/
theorem ends_onSubstrate_sure {call : Substrate.Call α} {ok : α → Substrate → Prop}
    (h : call.Ends run.state.substrate ok fun _ _ => False) :
    Action.Ends (onSubstrate call) run
      (fun a run' => ok a run'.state.substrate ∧ run'.state.repository = run.state.repository ∧
        run'.state.audit = run.state.audit)
      fun _ _ => False :=
  (ends_onSubstrate h).mono (fun _ _ h => h) fun _ _ h => h.1

theorem runOn_onSubstrate_ok {call : Substrate.Call α} {a : α} {t : Substrate}
    (h : call.runOn run.state.substrate = (.ok a, t)) : (onSubstrate call).runOn run =
      (.ok a, { run with state := { run.state with substrate := t } }) := by
  have hrun : (onSubstrate call).runOn run =
    ((call.runOn run.state.substrate).1.mapError id, { run with state :=
      { run.state with substrate := (call.runOn run.state.substrate).2 } }) := rfl
  rw [hrun, h]
  rfl

/-- A reading of the repository leaves everything as it is. -/
theorem runOn_onRepository_read {call : Repository.Call α} {a : α}
    (h : call.runOn run.state.repository = (.ok a, run.state.repository)) :
    (onRepository call).runOn run = (.ok a, run) := by
  have hrun : (onRepository call).runOn run =
    ((call.runOn run.state.repository).1.mapError .store, { run with state :=
      { run.state with repository := (call.runOn run.state.repository).2 } }) := rfl
  rw [hrun, h]
  rfl

theorem ends_record {f : AuditLog → AuditLog} {rest : Work α}
    (h : rest.Ends { run with state := { run.state with audit := f run.state.audit } } ok bad) :
    Action.Ends (do let () ← liftM (record f); rest) run ok bad := h

theorem ends_record_last {f : AuditLog → AuditLog} {ok : Unit → Run Deployment → Prop}
    (h : ok () { run with state := { run.state with audit := f run.state.audit } }) :
    Action.Ends (liftM (record f) : Work Unit) run ok bad := h

theorem effect_ends_record {f : AuditLog → AuditLog} {rest : Effect Deployment α}
    {post : α → Run Deployment → Prop}
    (h : Effect.Ends rest
      { run with state := { run.state with audit := f run.state.audit } } post) :
    Effect.Ends (do record f; rest) run post := h

theorem effect_ends_record_last {f : AuditLog → AuditLog} {post : Unit → Run Deployment → Prop}
    (h : post () { run with state := { run.state with audit := f run.state.audit } }) :
    Effect.Ends (record f) run post := h

end Deployment

-- from here on only the rules are used, so that no run is evaluated to see how an action ends
attribute [irreducible] Action.Ends Effect.Ends

end AmphoraWiring
