import AmphoraWiring.Proofs.Substrate.Calls
import AmphoraWiring.Proofs.Substrate.Commands
import AmphoraWiring.Proofs.Waiting

/-!
How long it takes to see a port go down. The substrate counts down with every reading of the status,
and the step counts its readings, so which of the two comes to its end first decides how many
readings there are, how long they take and what is seen at last. Taking the port back into service
ends the countdown, also one that nobody has waited for.
-/
namespace AmphoraWiring

open Action

namespace Context

/-- After so many waits of `w` and the first so many of `total` reports. -/
def polled (c : Context) (w : Duration) (total waits reports : Nat) : Context :=
  { c with
    now := c.now + waits * w
    progress := c.progress ++ (List.range' 1 reports).map fun k => .quotient .single k total }

variable (c : Context) (w : Duration) (total waits reports : Nat)

theorem polled_zero : c.polled w total 0 0 = c := by
  simp [polled]

theorem report_polled : (c.polled w total waits reports).report
    (.quotient .single (reports + 1) total) = c.polled w total waits (reports + 1) := by
  simp [polled, report, List.range'_concat, Nat.add_comm]

theorem elapse_polled :
    (c.polled w total waits reports).elapse w = c.polled w total (waits + 1) reports := by
  simp [polled, elapse, Nat.succ_mul, Nat.add_assoc]

end Context

namespace Substrate

variable {s : Substrate} {id : String} {p : Port} {n : Nat}

section

variable {ok : Port → Substrate → Prop} {bad : NetworkError → Substrate → Prop}

/-- A reading of a port that is not going down. -/
theorem ends_getPort_resting (hquiet : s.faults = []) (hpending : s.pendingDown.get? id = none)
    (h : (portById id).Ends (s.journaled [⟨.getPort, id⟩]) ok bad) :
    (getPort id).Ends s ok bad := by
  have hread : (s.journaled [⟨.getPort, id⟩]).pendingDown.get? id = none := hpending
  refine ends_quiet hquiet (ends_get ?_)
  simp only [hread]
  exact h

/-- A reading before the last count. -/
theorem ends_getPort_counting (hquiet : s.faults = [])
    (hpending : s.pendingDown.get? id = some (n + 1))
    (h : (portById id).Ends { s.journaled [⟨.getPort, id⟩] with
      pendingDown := s.pendingDown.insert id n } ok bad) : (getPort id).Ends s ok bad := by
  have hread : (s.journaled [⟨.getPort, id⟩]).pendingDown.get? id = some (n + 1) := hpending
  refine ends_quiet hquiet (ends_get ?_)
  simp only [hread]
  exact ends_modify h

/-- A reading when nothing is left to count. -/
theorem ends_getPort_last (hquiet : s.faults = []) (hpending : s.pendingDown.get? id = some 0)
    (h : (updatePort id fun p => { p with status := .down }).Ends
      { s.journaled [⟨.getPort, id⟩] with pendingDown := s.pendingDown.erase id } ok bad) :
    (getPort id).Ends s ok bad := by
  have hread : (s.journaled [⟨.getPort, id⟩]).pendingDown.get? id = some 0 := hpending
  refine ends_quiet hquiet (ends_get ?_)
  simp only [hread]
  exact ends_modify h

end

/-- The port `p` is seen as it is so many times, and from then on it is seen down. -/
inductive DownAfter (s : Substrate) (id : String) (p : Port) : Nat → Prop where
  | already (hp : s.ports.get? id = some p) (hdown : p.status = .down) : DownAfter s id p 0
  | counting (left : Nat) (hp : s.ports.get? id = some p) (hup : p.status ≠ .down)
      (hpending : s.pendingDown.get? id = some left) : DownAfter s id p left

theorem DownAfter.stored (h : s.DownAfter id p n) : s.ports.get? id = some p := by
  cases h with
  | already hp => exact hp
  | counting _ hp => exact hp

theorem DownAfter.ends_getPort (h : s.DownAfter id p (n + 1)) (hquiet : s.faults = []) :
    (getPort id).Ends s
      (fun q t => q = p ∧ p.status ≠ .down ∧ t.DownAfter id p n ∧
        t.journal = s.journal ++ [⟨.getPort, id⟩] ∧ t.faults = [])
      fun _ _ => False := by
  cases h with
  | counting _ hp hup hpending =>
    refine ends_getPort_counting hquiet hpending ((ends_portById_stored (p := p) ?_).imp_ok ?_)
    · exact hp
    · intro q t hend
      obtain ⟨rfl, rfl⟩ := hend
      exact ⟨rfl, hup, .counting n hp hup (IdMap.get?_insert_self _ _ _), rfl, hquiet⟩

theorem DownAfter.ends_getPort_down (h : s.DownAfter id p 0) (hquiet : s.faults = []) :
    (getPort id).Ends s
      (fun q t => q.status = .down ∧ t.ports.get? id = some { p with status := .down } ∧
        t.journal = s.journal ++ [⟨.getPort, id⟩] ∧ t.faults = [])
      fun _ _ => False := by
  have hlast (hp : s.ports.get? id = some p) (hpending : s.pendingDown.get? id = some 0) :
      (getPort id).Ends s
        (fun q t => q.status = .down ∧ t.ports.get? id = some { p with status := .down } ∧
          t.journal = s.journal ++ [⟨.getPort, id⟩] ∧ t.faults = [])
        fun _ _ => False := by
    refine ends_getPort_last hquiet hpending ((ends_updatePort_stored (p := p) ?_ _).imp_ok ?_)
    · exact hp
    · intro q t hend
      obtain ⟨rfl, rfl⟩ := hend
      exact ⟨rfl, IdMap.get?_modify_self hp _, rfl, hquiet⟩
  cases h with
  | counting _ hp hup hpending => exact hlast hp hpending
  | already hp hdown =>
    -- a countdown that was on before is of no account for a port that is down
    have hsame : some p = some { p with status := .down } := by rw [← hdown]
    match hpending : s.pendingDown.get? id with
    | some 0 => exact hlast hp hpending
    | some (left + 1) =>
      refine ends_getPort_counting hquiet hpending ((ends_portById_stored (p := p) ?_).imp_ok ?_)
      · exact hp
      · intro q t hend
        obtain ⟨rfl, rfl⟩ := hend
        exact ⟨hdown, hp.trans hsame, rfl, hquiet⟩
    | none =>
      refine ends_getPort_resting hquiet hpending ((ends_portById_stored (p := p) ?_).imp_ok ?_)
      · exact hp
      · intro q t hend
        obtain ⟨rfl, rfl⟩ := hend
        exact ⟨hdown, hp.trans hsame, rfl, hquiet⟩

/-- The port as it is when it has been taken out of service and nothing was read yet. -/
def takenDown (p : Port) (delay : Nat) : Port :=
  { p with adminStateUp := false, status := if delay = 0 then .down else p.status }

theorem ends_setPortAdminStateUp_false (hquiet : s.faults = []) (hp : s.ports.get? id = some p)
    (hup : p.status ≠ .down) :
    (setPortAdminStateUp id false).Ends s
      (fun _ t => t.DownAfter id (takenDown p s.downDelay) s.downDelay ∧ t.faults = [] ∧
        t.journal = s.journal ++ [⟨.setPortAdminStateUp, id ++ "=" ++ toString false⟩])
      fun _ _ => False := by
  have hport (calls : List JournalEntry) : (s.journaled calls).ports.get? id = some p := hp
  refine ends_quiet hquiet ((ends_updatePort_stored (hport _) _).bind ?_ fun _ _ h => h)
  intro q t hend
  obtain ⟨rfl, rfl⟩ := hend
  have hstored := IdMap.get?_modify_self hp fun p => { p with adminStateUp := false }
  refine ends_get ?_
  change Action.Ends (if 0 < s.downDelay then _ else _) _ _ _
  by_cases hdelay : 0 < s.downDelay
  · have htaken : takenDown p s.downDelay = { p with adminStateUp := false } := by
      rw [takenDown, if_neg (Nat.ne_of_gt hdelay)]
    rw [if_pos hdelay, htaken]
    exact ends_modify
      (ends_pure ⟨.counting _ hstored hup (IdMap.get?_insert_self _ _ _), hquiet, rfl⟩)
  · have hzero : s.downDelay = 0 := Nat.eq_zero_of_not_pos hdelay
    rw [if_neg hdelay, hzero]
    refine (ends_updatePort_stored (p := { p with adminStateUp := false }) ?_ _).imp_ok ?_
    · exact hstored
    intro q t hend
    obtain ⟨rfl, rfl⟩ := hend
    exact ⟨.already (IdMap.get?_modify_self hstored _) rfl, hquiet, rfl⟩

/-- The port is stored as `p`, and it is not going down. -/
structure AtRest (s : Substrate) (id : String) (p : Port) : Prop where
  stored : s.ports.get? id = some p
  resting : s.pendingDown.get? id = none
  quiet : s.faults = []

theorem AtRest.ends_portById (h : s.AtRest id p) (read : String) : (portById read).Ends s
    (fun q t => t.AtRest id p ∧ (read = id → q = p)) fun _ t => t.AtRest id p ∧ read ≠ id := by
  apply (Substrate.ends_portById read s).mono
  · intro q t hend
    obtain ⟨rfl, hq⟩ := hend
    refine ⟨h, ?_⟩
    rintro rfl
    exact Option.some.inj (hq.symm.trans h.stored)
  · intro e t hend
    obtain ⟨rfl, hnone⟩ := hend
    refine ⟨h, ?_⟩
    rintro rfl
    exact absurd (hnone.symm.trans h.stored) (by simp)

/-- Readings, also of other ports that are going down, leave it so. -/
theorem AtRest.ends_getPort (h : s.AtRest id p) (read : String) :
    (getPort read).Ends s (fun q t => t.AtRest id p ∧ (read = id → q = p))
      fun _ t => t.AtRest id p ∧ read ≠ id := by
  have hother {left : Nat} (hpending : s.pendingDown.get? read = some left) : id ≠ read := by
    rintro rfl
    exact absurd (h.resting.symm.trans hpending) (by simp)
  match hpending : s.pendingDown.get? read with
  | some 0 =>
    have hne := hother hpending
    have herased : (s.pendingDown.erase read).get? id = none := by
      rw [IdMap.get?_erase, if_neg hne, h.resting]
    refine ends_getPort_last h.quiet hpending ((ends_updatePort read _ _).mono ?_ ?_)
    · intro q t hend
      obtain ⟨rfl, -⟩ := hend
      refine ⟨⟨?_, herased, h.quiet⟩, fun heq => absurd heq.symm hne⟩
      rw [amend, IdMap.get?_modify, if_neg hne]
      exact h.stored
    · intro e t hend
      obtain ⟨rfl, -⟩ := hend
      exact ⟨⟨h.stored, herased, h.quiet⟩, hne.symm⟩
  | some (left + 1) =>
    have hkept : (s.pendingDown.insert read left).get? id = none := by
      rw [IdMap.get?_insert, if_neg (hother hpending), h.resting]
    refine ends_getPort_counting h.quiet hpending (AtRest.ends_portById ?_ read)
    exact ⟨h.stored, hkept, h.quiet⟩
  | none =>
    refine ends_getPort_resting h.quiet hpending (AtRest.ends_portById ?_ read)
    exact ⟨h.stored, h.resting, h.quiet⟩

/-- However often the status of whichever ports is read. -/
theorem AtRest.after_readings (h : s.AtRest id p) (reads : List String) :
    (s.after (reads.map fun read => .command (.getPort read))).AtRest id p := by
  induction reads generalizing s with
  | nil => exact h
  | cons read reads ih =>
    have hread : (Event.command (.getPort read)).leaves s |>.AtRest id p :=
      ((h.ends_getPort read).mono (fun _ _ h => h.1) fun _ _ h => h.1).drop.state
    exact ih hread

/-- A countdown that was still on ends here. -/
theorem ends_setPortAdminStateUp_true (hquiet : s.faults = []) (hp : s.ports.get? id = some p) :
    (setPortAdminStateUp id true).Ends s
      (fun _ t => t.AtRest id { p with adminStateUp := true, status := .active })
      fun _ _ => False := by
  have hport (calls : List JournalEntry) : (s.journaled calls).ports.get? id = some p := hp
  refine ends_quiet hquiet ((ends_updatePort_stored (hport _) _).bind ?_ fun _ _ h => h)
  intro q t hend
  obtain ⟨rfl, rfl⟩ := hend
  have hstored := IdMap.get?_modify_self hp fun p => { p with adminStateUp := true }
  have hended : (s.pendingDown.erase id).get? id = none := by
    rw [IdMap.get?_erase, if_pos rfl]
  apply ends_modify
  refine (ends_updatePort_stored (p := { p with adminStateUp := true }) ?_ _).imp_ok ?_
  · exact hstored
  intro q t hend
  obtain ⟨rfl, -⟩ := hend
  exact ⟨IdMap.get?_modify_self hstored _, hended, hquiet⟩

end Substrate

namespace Step

open Deployment Flow Substrate

variable {polling : Polling} {portId : String} {port p : Port} {run run₁ run₂ : Run Deployment}
  {waits left delay k : Nat}

/-- What the polling goes on with when the progress before a reading has been reported. After that
reading there are `left` others. -/
def fromReading (polling : Polling) (portId : String) (left : Nat) : Work Unit := do
  let port ← onSubstrate (Substrate.getPort portId)
  if port.status = .down then return
  Flow.sleep polling.interval
  awaitDown polling portId left

theorem runOn_awaitDown_succ : (awaitDown polling portId (left + 1)).runOn run =
    (fromReading polling portId left).runOn
      { run with context :=
        run.context.report (.quotient .single (polling.polls - left) polling.polls) } := rfl

theorem runOn_fromReading {t : Substrate}
    (hget : (getPort portId).runOn run.state.substrate = (.ok p, t)) :
    (fromReading polling portId left).runOn run =
      Action.runOn (if p.status = .down then pure ()
        else Flow.sleep polling.interval >>= fun _ => awaitDown polling portId left : Work Unit)
        { run with state := { run.state with substrate := t } } := by
  have hrun : (fromReading polling portId left).runOn run = Action.runOn
    (onSubstrate (Substrate.getPort portId) >>= fun port =>
      if port.status = .down then pure ()
      else Flow.sleep polling.interval >>= fun _ => awaitDown polling portId left) run := rfl
  rw [hrun, runOn_bind, runOn_onSubstrate_ok hget]

/-- The calls of a step that takes a port out of service and reads its status so many times. -/
def pollingCalls (portId : String) (readings : Nat) : List JournalEntry :=
  ⟨.setPortAdminStateUp, portId ++ "=" ++ toString false⟩ ::
    List.replicate readings ⟨.getPort, portId⟩

theorem pollingCalls_succ (portId : String) (readings : Nat) :
    pollingCalls portId (readings + 1) = pollingCalls portId readings ++ [⟨.getPort, portId⟩] := by
  simp [pollingCalls, List.replicate_succ']

/-- The step began in `run` and has come to `run'`: there were so many readings, each with a wait
after it, and so many reports of progress, and `left` more readings are going to see the port as it
is. -/
structure Polled (polling : Polling) (portId : String) (p : Port) (run run' : Run Deployment)
    (waits reports left : Nat) : Prop where
  context : run'.context = run.context.polled polling.interval polling.polls waits reports
  journal : run'.state.substrate.journal =
    run.state.substrate.journal ++ pollingCalls portId waits
  quiet : run'.state.substrate.faults = []
  down : run'.state.substrate.DownAfter portId p left

theorem Polled.report (h : Polled polling portId p run run₁ k k delay)
    (hleft : k + 1 + left = polling.polls) :
    ∃ run₂, Polled polling portId p run run₂ k (k + 1) delay ∧
      (awaitDown polling portId (left + 1)).runOn run₁ =
        (fromReading polling portId left).runOn run₂ := by
  have hnumber : polling.polls - left = k + 1 := by omega
  have hreport : run₁.context.report (.quotient .single (polling.polls - left) polling.polls) =
      run.context.polled polling.interval polling.polls k (k + 1) := by
    rw [h.context, hnumber, Context.report_polled]
  refine ⟨{ run₁ with context := _ }, ⟨hreport, h.journal, h.quiet, h.down⟩, runOn_awaitDown_succ⟩

/-- One round: a reading that does not see the port down, and the wait after it. -/
theorem Polled.reading (h : Polled polling portId p run run₁ k (k + 1) (delay + 1))
    (hdeadline : run.context.deadline = none) (hcancel : run.context.cancelAt = none) :
    ∃ run₂, Polled polling portId p run run₂ (k + 1) (k + 1) delay ∧
      (fromReading polling portId left).runOn run₁ =
        (awaitDown polling portId left).runOn run₂ := by
  obtain ⟨_, t, hget, rfl, hup, hdown, hjournal, hquiet⟩ :=
    (h.down.ends_getPort h.quiet).value
  have hsleep : run₁.context.sleep polling.interval =
      (.ok (), run.context.polled polling.interval polling.polls (k + 1) (k + 1)) := by
    rw [← Context.elapse_polled, h.context]
    refine Context.sleep_unbounded ?_ ?_ _
    · exact hdeadline
    · exact hcancel
  refine ⟨⟨run.context.polled polling.interval polling.polls (k + 1) (k + 1),
    { run₁.state with substrate := t }⟩, ⟨rfl, ?_, hquiet, hdown⟩, ?_⟩
  · rw [hjournal, h.journal, List.append_assoc, ← pollingCalls_succ]
  · rw [runOn_fromReading hget, if_neg hup]
    exact runOn_sleep_ok hsleep

/-- The reading that sees the port down is the last one. -/
theorem Polled.seen (h : Polled polling portId p run run₁ k (k + 1) 0) :
    ∃ run₂, (fromReading polling portId left).runOn run₁ = (.ok (), run₂) ∧
      run₂.context = run.context.polled polling.interval polling.polls k (k + 1) ∧
      run₂.state.substrate.journal = run.state.substrate.journal ++ pollingCalls portId (k + 1) ∧
      run₂.state.substrate.faults = [] ∧
      run₂.state.substrate.ports.get? portId = some { p with status := .down } := by
  obtain ⟨q, t, hget, hdown, hstored, hjournal, hquiet⟩ := (h.down.ends_getPort_down h.quiet).value
  refine ⟨{ run₁ with state := { run₁.state with substrate := t } }, ?_, h.context, ?_, hquiet,
    hstored⟩
  · rw [runOn_fromReading hget, if_pos hdown]
    rfl
  · rw [hjournal, h.journal, List.append_assoc, ← pollingCalls_succ]

/-- Any number of rounds, as long as neither the countdown nor the readings have come to an end. -/
theorem Polled.rounds (h : Polled polling portId p run run₁ 0 0 delay)
    (hdeadline : run.context.deadline = none) (hcancel : run.context.cancelAt = none)
    (hdelay : k ≤ delay) (hpolls : k ≤ polling.polls) :
    ∃ run₂, Polled polling portId p run run₂ k k (delay - k) ∧
      (awaitDown polling portId polling.polls).runOn run₁ =
        (awaitDown polling portId (polling.polls - k)).runOn run₂ := by
  induction k with
  | zero => exact ⟨run₁, h, rfl⟩
  | succ k ih =>
    obtain ⟨run₂, hpolled, hrun⟩ := ih (by omega) (by omega)
    obtain ⟨run₃, hreported, hrun₃⟩ :=
      hpolled.report (show k + 1 + (polling.polls - (k + 1)) = polling.polls by omega)
    have hcount : delay - k = delay - (k + 1) + 1 := by omega
    rw [hcount] at hreported
    obtain ⟨run₄, hnext, hrun₄⟩ := hreported.reading hdeadline hcancel
    refine ⟨run₄, hnext, ?_⟩
    have hleft : polling.polls - k = polling.polls - (k + 1) + 1 := by omega
    rw [hrun, hleft, hrun₃, hrun₄]

/-- Before each of the readings. -/
theorem Polled.before (h : Polled polling portId p run run₁ 0 0 delay)
    (hdeadline : run.context.deadline = none) (hcancel : run.context.cancelAt = none)
    (hdelay : k ≤ delay) (hpolls : k < polling.polls) :
    ∃ run₂, Polled polling portId p run run₂ k (k + 1) (delay - k) ∧
      (awaitDown polling portId polling.polls).runOn run₁ =
        (fromReading polling portId (polling.polls - (k + 1))).runOn run₂ := by
  obtain ⟨run₂, hpolled, hrun⟩ := h.rounds hdeadline hcancel hdelay (Nat.le_of_lt hpolls)
  obtain ⟨run₃, hreported, hrun₃⟩ :=
    hpolled.report (show k + 1 + (polling.polls - (k + 1)) = polling.polls by omega)
  refine ⟨run₃, hreported, ?_⟩
  have hleft : polling.polls - k = polling.polls - (k + 1) + 1 := by omega
  rw [hrun, hleft, hrun₃]

/-- All the readings. -/
theorem Polled.whole (h : Polled polling portId p run run₁ 0 0 delay)
    (hdeadline : run.context.deadline = none) (hcancel : run.context.cancelAt = none) :
    ∃ run₂, (awaitDown polling portId polling.polls).runOn run₁ = (.ok (), run₂) ∧
      run₂.context = run.context.polled polling.interval polling.polls (min delay polling.polls)
        (min (delay + 1) polling.polls) ∧
      run₂.state.substrate.journal = run.state.substrate.journal ++
        pollingCalls portId (min (delay + 1) polling.polls) ∧
      run₂.state.substrate.faults = [] ∧
      run₂.state.substrate.ports.get? portId =
        some { p with status := if delay < polling.polls then .down else p.status } := by
  by_cases hfirst : delay < polling.polls
  · -- the countdown ends first
    obtain ⟨run₂, hpolled, hrun⟩ := h.before hdeadline hcancel (Nat.le_refl delay) hfirst
    rw [Nat.sub_self] at hpolled
    obtain ⟨run₃, hseen, hcontext, hjournal, hquiet, hstored⟩ := hpolled.seen
    rw [Nat.min_eq_left (Nat.le_of_lt hfirst), Nat.min_eq_left hfirst, if_pos hfirst]
    exact ⟨run₃, hrun.trans hseen, hcontext, hjournal, hquiet, hstored⟩
  · -- the readings end first
    have hspent : polling.polls ≤ delay := Nat.le_of_not_lt hfirst
    obtain ⟨run₂, hpolled, hrun⟩ := h.rounds hdeadline hcancel hspent (Nat.le_refl _)
    rw [Nat.sub_self] at hrun
    rw [Nat.min_eq_right hspent, Nat.min_eq_right (Nat.le_succ_of_le hspent), if_neg hfirst]
    exact ⟨run₂, hrun, hpolled.context, hpolled.journal, hpolled.quiet, hpolled.down.stored⟩

/-- The step from its beginning to the first report. -/
theorem runOn_adminDownPort_taken (polling : Polling) (hquiet : run.state.substrate.faults = [])
    (hport : run.state.substrate.ports.get? portId = some port) (hup : port.status ≠ .down) :
    ∃ run₁, Polled polling portId (takenDown port run.state.substrate.downDelay) run run₁ 0 0
        run.state.substrate.downDelay ∧
      (adminDownPort polling portId).execute.runOn run =
        (awaitDown polling portId polling.polls).runOn run₁ := by
  obtain ⟨q, t, hset, hdown, hfaults, hjournal⟩ :=
    (ends_setPortAdminStateUp_false hquiet hport hup).value
  refine ⟨{ run with state := { run.state with substrate := t } }, ⟨?_, hjournal, hfaults, hdown⟩,
    ?_⟩
  · exact (Context.polled_zero ..).symm
  · change Action.runOn (Flow.outcome _ >>= _) run = _
    rw [runOn_bind, runOn_outcome, runOn_onSubstrate_ok hset]

theorem atRest_revert_adminDownPort (polling : Polling)
    (hquiet : run.state.substrate.faults = [])
    (hport : run.state.substrate.ports.get? portId = some p) :
    (((adminDownPort polling portId).revert ()).run run).2.state.substrate.AtRest portId
      { p with adminStateUp := true, status := .active } :=
  (Effect.ends_settle (ends_onSubstrate (ends_setPortAdminStateUp_true hquiet hport))
    (fun _ _ hend => Effect.ends_pure hend.1) fun _ _ hend => hend.1.elim).state

/-- The countdown of the substrate and the readings of the step run against each other. With a
countdown of `delay` and nothing that disturbs it the step succeeds after `delay + 1` readings, or
after all that it may make. It reports its progress before each of them and waits after each that
did not see the port down, and in the end the port is down exactly when there was no countdown or
the readings outlasted it. Reverting the step makes the port active, and no reading of whichever
port makes it go down again, also where the countdown was still on. -/
theorem adminDownPort_reads_down (polling : Polling) (portId : String) (port : Port)
    (run : Run Deployment) (hquiet : run.state.substrate.faults = [])
    (hdeadline : run.context.deadline = none) (hcancel : run.context.cancelAt = none)
    (hport : run.state.substrate.ports.get? portId = some port) (hup : port.status ≠ .down) :
    let delay := run.state.substrate.downDelay
    let step := adminDownPort polling portId
    ∃ run', step.execute.runOn run = (.ok (), run') ∧
      run'.context = run.context.polled polling.interval polling.polls (min delay polling.polls)
        (min (delay + 1) polling.polls) ∧
      run'.state.substrate.journal = run.state.substrate.journal ++
        pollingCalls portId (min (delay + 1) polling.polls) ∧
      (∀ k < min (delay + 1) polling.polls, ∃ before,
        step.execute.runOn run =
          (fromReading polling portId (polling.polls - (k + 1))).runOn before ∧
        before.context = run.context.polled polling.interval polling.polls k (k + 1) ∧
        before.state.substrate.journal =
          run.state.substrate.journal ++ pollingCalls portId k) ∧
      run'.state.substrate.ports.get? portId = some
        { port with
          adminStateUp := false
          status := if delay = 0 ∨ delay < polling.polls then .down else port.status } ∧
      ∀ reads : List String,
        let active := { port with adminStateUp := true, status := .active }
        let later := ((step.revert ()).run run').2.state.substrate.after
          (reads.map fun read => .command (.getPort read))
        later.ports.get? portId = some active ∧
          ∃ t, (getPort portId).runOn later = (.ok active, t) := by
  intro delay step
  obtain ⟨run₁, hpolled, hbegun⟩ := runOn_adminDownPort_taken polling hquiet hport hup
  obtain ⟨run', hrun, hcontext, hjournal, hfaults, hstored⟩ := hpolled.whole hdeadline hcancel
  refine ⟨run', hbegun.trans hrun, hcontext, hjournal, ?_, ?_, ?_⟩
  · intro k hk
    obtain ⟨before, hbefore, hrest⟩ :=
      hpolled.before hdeadline hcancel (show k ≤ delay by omega) (by omega)
    exact ⟨before, hbegun.trans hrest, hbefore.context, hbefore.journal⟩
  · rw [hstored, takenDown]
    by_cases hzero : delay = 0
    · simp [delay, hzero]
    · simp [delay, hzero]
  · intro reads active later
    have hrest : later.AtRest portId active :=
      (atRest_revert_adminDownPort polling hfaults hstored).after_readings reads
    obtain ⟨q, t, hget, -, hq⟩ := ((hrest.ends_getPort portId).mono (fun _ _ h => h)
      fun _ _ h => h.2 rfl).value
    exact ⟨hrest.stored, t, hq rfl ▸ hget⟩

/-- A port that goes down slowly. -/
def slowToGoDown : Run Deployment where
  context := {}
  state :=
    { substrate :=
        { ports := IdMap.empty.insert "port-1" { id := "port-1", networkId := "mgmt-net" }
          downDelay := 5 } }

/-- Two readings are allowed and the countdown takes five, so it is still on when the step is
reverted. Eight more readings do not bring it to its end. -/
theorem adminDownPort_reads_down_sample :
    let step := adminDownPort ⟨2, 10⟩ "port-1"
    ∃ run', step.execute.runOn slowToGoDown = (.ok (), run') ∧ run'.context.now = 20 ∧
      (run'.state.substrate.ports.get? "port-1").map (·.status) = some .active ∧
      ((((step.revert ()).run run').2.state.substrate.after
        ((List.replicate 8 "port-1").map fun read => .command (.getPort read))).ports.get?
          "port-1").map (·.status) = some .active := by
  intro step
  have hport : slowToGoDown.state.substrate.ports.get? "port-1" =
      some { id := "port-1", networkId := "mgmt-net" } := IdMap.get?_insert_self _ _ _
  obtain ⟨run', hrun, hcontext, -, -, hstored, hreads⟩ :=
    adminDownPort_reads_down ⟨2, 10⟩ "port-1" _ slowToGoDown rfl rfl rfl hport (by decide)
  refine ⟨run', hrun, ?_, ?_, ?_⟩
  · rw [hcontext]
    rfl
  · rw [hstored]
    rfl
  · rw [(hreads _).1]
    rfl

end Step

end AmphoraWiring
