import AmphoraWiring.Proofs.Substrate.Atomicity
import AmphoraWiring.Proofs.Substrate.Failures

/-!
Failures are scripted by counted entries in one list, and the calls take them from there. For each
operation this comes to a line of failures: what is scripted is put at its end, as often as it is to
happen, and each call of the operation takes the first one away and fails with it. A call that finds
its line empty does what it would do if nothing at all were scripted. The work of a call looks
neither at the script nor at the journal, so nothing else depends on them.
-/
namespace AmphoraWiring.Substrate

open Action

variable {s t : Substrate} {op : Operation}

/-- The same networks, ports and instances, with another script of failures and another journal. -/
def annotated (s : Substrate) (faults : List ScriptedFault) (journal : List JournalEntry) :
    Substrate :=
  { s with faults, journal }

/-! Work that calls nothing -/

/-- The work depends neither on the script nor on the journal, and changes neither. -/
def Plain (work : Call α) : Prop :=
  ∀ s faults journal, work.runOn (annotated s faults journal) =
    ((work.runOn s).1, (work.runOn s).2.annotated faults journal)

namespace Plain

variable {work : Call α} {rest : α → Call β}

/-- Plain work takes no failure. -/
theorem faults (h : Plain work) (s : Substrate) : (work.runOn s).2.faults = s.faults :=
  congrArg (fun r => r.2.faults) (h s s.faults s.journal)

/-- Plain work calls nothing. -/
theorem journal (h : Plain work) (s : Substrate) : (work.runOn s).2.journal = s.journal :=
  congrArg (fun r => r.2.journal) (h s s.faults s.journal)

/-- Plain work may go on with plain work. -/
theorem bind (h : Plain work) (hrest : ∀ a, Plain (rest a)) : Plain (work >>= rest) := by
  intro s faults journal
  rw [runOn_bind, runOn_bind, h s faults journal]
  rcases work.runOn s with ⟨e | a, t⟩
  · rfl
  · exact hrest a t faults journal

theorem drop (h : Plain work) : Plain (do let _ ← work) := h.bind fun _ _ _ _ => rfl

/-- Work whose answer nobody reads is work without an answer. -/
theorem exists_drop {work : Call α} (op : Operation) (target : String) (h : Plain work) :
    ∃ work', Plain work' ∧ ∀ s, Action.runOn (do let _ ← (do begin op target; work)) s =
      Action.runOn (do begin op target; work') s := by
  refine ⟨do let _ ← work, h.drop, fun s => ?_⟩
  rw [bind_assoc]

theorem of_pure (a : α) : Plain (pure a) := fun _ _ _ => rfl

theorem of_orFail (e : NetworkError) (value : Option α) : Plain (orFail e value) := by
  cases value with
  | none => exact fun _ _ _ => rfl
  | some a => exact fun _ _ _ => rfl

theorem of_throw (e : NetworkError) : Plain (throw e : Call α) := fun _ _ _ => rfl

/-- What goes on from the state may look at anything else in it. -/
theorem on_get {rest : Substrate → Call α}
    (hsame : ∀ s faults journal, rest (annotated s faults journal) = rest s)
    (h : ∀ s, Plain (rest s)) : Plain (do rest (← get)) := by
  intro s faults journal
  have hrun : ∀ s, Action.runOn (do rest (← get)) s = (rest s).runOn s := fun _ => rfl
  rw [hrun, hrun, hsame]
  exact h s s faults journal

theorem of_modify {f : Substrate → Substrate}
    (h : ∀ s faults journal, f (annotated s faults journal) = (f s).annotated faults journal) :
    Plain (modify f) :=
  fun s faults journal => congrArg (Prod.mk _) (h s faults journal)

theorem portById (id : String) : Plain (portById id) :=
  on_get (fun _ _ _ => rfl) fun _ => of_orFail _ _

theorem portsOfInstance (c : String) : Plain (portsOfInstance c) :=
  on_get (fun _ _ _ => rfl) fun _ => of_orFail _ _

theorem updatePort (id : String) (f : Port → Port) : Plain (updatePort id f) :=
  (portById id).bind fun p => (of_modify fun _ _ _ => rfl).bind fun _ => of_pure (f p)

theorem drawId : Plain drawId :=
  (of_modify fun _ _ _ => rfl).bind fun _ => on_get (fun _ _ _ => rfl) fun _ => of_pure _

theorem allocateIp (subnetId : String) : Plain (allocateIp subnetId) := by
  refine Plain.bind (on_get (fun _ _ _ => rfl) fun _ => of_orFail _ _) fun subnet => ?_
  split
  · exact of_pure none
  · refine on_get (fun _ _ _ => rfl) fun s => (of_modify fun _ _ _ => rfl).bind fun _ => ?_
    split
    · exact of_pure _
    · exact of_throw _

theorem resolveFixedIp (networkId : String) (wish : FixedIp) :
    Plain (resolveFixedIp networkId wish) := by
  refine Plain.bind (on_get (fun _ _ _ => rfl) fun _ => of_orFail _ _) fun subnet => ?_
  change Plain (if _ then _ else _)
  split
  · exact of_throw _
  · split
    · exact of_pure _
    · exact (allocateIp wish.subnetId).bind fun _ => of_pure _

theorem resolveFixedIps (networkId : String) (wishes : List FixedIp) :
    Plain (resolveFixedIps networkId wishes) := by
  induction wishes with
  | nil => exact of_pure []
  | cons wish wishes ih =>
    exact (resolveFixedIp networkId wish).bind fun ip => ih.bind fun ips => of_pure (ip :: ips)

theorem putPort (p : Port) : Plain (putPort p) := of_modify fun _ _ _ => rfl

/-- The port is made without a further call. -/
theorem newPort (request : PortRequest) : Plain (newPort request) := by
  refine on_get (fun _ _ _ => rfl) fun s => (of_orFail _ _).bind fun network => ?_
  refine (resolveFixedIps request.networkId _).bind fun ips => drawId.bind fun id => ?_
  exact (putPort _).bind fun _ => of_pure _

theorem plug (c id : String) : Plain (plug c id) :=
  (portById id).bind fun _ => (portsOfInstance c).bind fun _ =>
    (of_modify fun _ _ _ => rfl).bind fun _ => (updatePort id _).bind fun _ => of_pure ()

theorem addVips (p : Port) (extras : List AdditionalVip) : Plain (addVips p extras) := by
  induction extras generalizing p with
  | nil => exact of_pure _
  | cons extra extras ih =>
    unfold Substrate.addVips
    split
    · exact (ih _).bind fun _ => of_pure _
    · exact (resolveFixedIp p.networkId _).bind fun ip => (ih _).bind fun _ => of_pure _

theorem answerVip (lb : LoadBalancer) (p : Port) : Plain (answerVip lb p) :=
  (addVips p lb.additionalVips).bind fun answer => (putPort answer.1).bind fun _ => of_pure _

theorem ensureSecurityGroup (name : String) : Plain (ensureSecurityGroup name) := by
  refine on_get (fun _ _ _ => rfl) fun s => ?_
  split
  · exact of_pure _
  · exact drawId.bind fun id => (of_modify fun _ _ _ => rfl).bind fun _ => of_pure id

theorem removeBasePort (amphora : Amphora) (s : Substrate) (faults : List ScriptedFault)
    (journal : List JournalEntry) : (s.annotated faults journal).removeBasePort amphora =
      (s.removeBasePort amphora).annotated faults journal := by
  have hsame : (s.annotated faults journal).basePortOf amphora = s.basePortOf amphora := rfl
  unfold Substrate.removeBasePort
  rw [hsame]
  cases s.basePortOf amphora <;> rfl

theorem removeBasePorts (amphorae : List Amphora) (s : Substrate) (faults : List ScriptedFault)
    (journal : List JournalEntry) : amphorae.foldl Substrate.removeBasePort
        (s.annotated faults journal) =
      (amphorae.foldl Substrate.removeBasePort s).annotated faults journal := by
  induction amphorae generalizing s with
  | nil => rfl
  | cons amphora amphorae ih =>
    rw [List.foldl_cons, List.foldl_cons, removeBasePort, ih]

theorem addInstance (c : String) (s : Substrate) (faults : List ScriptedFault)
    (journal : List JournalEntry) : (s.annotated faults journal).addInstance c =
      (s.addInstance c).annotated faults journal := by
  unfold Substrate.addInstance
  rw [show (s.annotated faults journal).plugged = s.plugged from rfl]
  split <;> rfl

/-- Seeding is not called, so it is not journaled and takes no failure. -/
theorem seedInterface (c : String) (interface : Interface) : Plain (seedInterface c interface) := by
  refine (newPort _).bind fun p => ?_
  have hplug : ∀ p : Port, Plain (do
      modify fun s => s.addInstance c
      Substrate.plug c p.id
      return p) := fun p =>
    (of_modify (addInstance c)).bind fun _ => (plug c p.id).bind fun _ => of_pure p
  split
  · exact hplug p
  · exact (of_modify fun _ _ _ => rfl).bind fun _ => (putPort _).bind fun _ => hplug _

theorem plugBase (vip : Vip) (amphora : Amphora) (c id : String) :
    Plain (plugBase vip amphora c id) :=
  (plug c id).bind fun _ => on_get (fun _ _ _ => rfl) fun _ => of_pure _

end Plain

/-- Every call is journaled, then it fails if a failure is due, and then it does work that calls
nothing. -/
theorem Command.exists_work (c : Command) : ∃ work, Plain work ∧
    ∀ s, c.perform.runOn s = Action.runOn (do begin c.entry.operation c.entry.target; work) s := by
  cases c with
  | getPluggedNetworks c =>
    exact Plain.exists_drop _ _ ((Plain.portsOfInstance c).bind fun _ =>
      .on_get (fun _ _ _ => rfl) fun _ => .of_pure _)
  | getSubnet id => exact Plain.exists_drop _ _ (.on_get (fun _ _ _ => rfl) fun _ => .of_orFail _ _)
  | getNetwork id =>
    exact Plain.exists_drop _ _ (.on_get (fun _ _ _ => rfl) fun _ => .of_orFail _ _)
  | getPort id =>
    refine Plain.exists_drop _ _ (.on_get (fun _ _ _ => rfl) fun s => ?_)
    split
    · exact (Plain.of_modify fun _ _ _ => rfl).bind fun _ => .updatePort id _
    · exact (Plain.of_modify fun _ _ _ => rfl).bind fun _ => .portById id
    · exact .portById id
  | createPort request => exact Plain.exists_drop _ _ (.newPort request)
  | deletePort id => exact ⟨_, .of_modify fun _ _ _ => rfl, fun _ => rfl⟩
  | adminDownPort id => exact ⟨_, (Plain.updatePort id _).drop, fun _ => rfl⟩
  | setPortAdminStateUp id up =>
    refine Plain.exists_drop _ _ ((Plain.updatePort id _).bind fun port => ?_)
    split
    · exact (Plain.of_modify fun _ _ _ => rfl).bind fun _ => .updatePort id _
    · refine .on_get (fun _ _ _ => rfl) fun s => ?_
      split
      · exact (Plain.of_modify fun _ _ _ => rfl).bind fun _ => .of_pure port
      · exact .updatePort id _
  | plugPort amphora port =>
    exact ⟨_, (Plain.of_orFail _ _).bind fun c => .plug c port.id, fun _ => rfl⟩
  | plugFixedIp id subnetId =>
    refine Plain.exists_drop _ _ ((Plain.portById id).bind fun port => ?_)
    split
    · exact .of_pure port
    · exact (Plain.resolveFixedIp port.networkId _).bind fun ip => .updatePort id _
  | unplugFixedIp id subnetId =>
    refine Plain.exists_drop _ _ (.on_get (fun _ _ _ => rfl) fun s => ?_)
    split
    · exact .portById id
    · exact .updatePort id _
  | unplugNetwork c networkId =>
    refine ⟨_, (Plain.portsOfInstance c).bind fun ids => .on_get (fun _ _ _ => rfl) fun s => ?_,
      fun _ => rfl⟩
    dsimp only
    split
    · exact .of_throw _
    · exact .of_modify fun _ _ _ => rfl
  | allocateVip lb =>
    refine Plain.exists_drop _ _ (.on_get (fun _ _ _ => rfl) fun s => ?_)
    cases s.vipPort? lb.vip with
    | some p => exact .answerVip lb p
    | none => exact (Plain.newPort (vipPortRequest lb)).bind (.answerVip lb)
  | deallocateVip vip =>
    refine ⟨_, ?_, fun _ => rfl⟩
    split
    · exact .of_modify fun _ _ _ => rfl
    · exact .of_pure ()
  | plugAapPort vip amphora subnet =>
    refine Plain.exists_drop _ _ ((Plain.of_orFail _ _).bind fun c =>
      (Plain.portsOfInstance c).bind fun _ => .on_get (fun _ _ _ => rfl) fun s => ?_)
    cases s.basePortOf amphora with
    | some id => exact .plugBase vip amphora c id
    | none => exact (Plain.newPort _).bind fun p => .plugBase vip amphora c p.id
  | unplugAapPort amphora => exact ⟨_, .of_modify (Plain.removeBasePort amphora), fun _ => rfl⟩
  | unplugVip lb =>
    exact ⟨_, .of_modify (Plain.removeBasePorts lb.amphorae), fun _ => rfl⟩
  | updateVip lb forDelete => exact ⟨pure (), .of_pure (), fun s => by rw [bind_pure]; rfl⟩
  | updateVipSg lb =>
    refine Plain.exists_drop _ _ (.on_get (fun _ _ _ => rfl) fun s => ?_)
    split
    · exact .of_pure none
    refine (Plain.ensureSecurityGroup _).bind fun groupId => ?_
    split
    · exact (Plain.of_modify fun _ _ _ => rfl).bind fun _ => .of_pure _
    · exact .of_pure _
  | updateAapPortSg lb amphora =>
    refine ⟨_, .on_get (fun _ _ _ => rfl) fun s => ?_, fun _ => rfl⟩
    split
    · exact .of_pure ()
    refine (Plain.ensureSecurityGroup _).bind fun groupId => .on_get (fun _ _ _ => rfl) fun t => ?_
    split
    · exact (Plain.updatePort _ _).drop
    · exact .of_pure ()
  | applyQosOnPort policyId id => exact ⟨_, (Plain.updatePort id _).drop, fun _ => rfl⟩
  | getSecurityGroup name =>
    exact Plain.exists_drop _ _ (.on_get (fun _ _ _ => rfl) fun _ => .of_orFail _ _)
  | getNetworkConfigs lb amphora =>
    exact Plain.exists_drop _ _ (.on_get (fun _ _ _ => rfl) fun _ => .of_pure _)

/-! The failure that a call takes -/

/-- How a call ends when these failures are scripted for its operation: with the first of them,
before it has changed anything else, and where there is none, as it would end if no failure were
scripted for any operation. -/
def Command.EndsAsScripted (c : Command) (s : Substrate) : List NetworkError → Prop
  | e :: _ => ∃ faults, c.perform.runOn s =
      (.error e, s.annotated faults (s.journal ++ [c.entry]))
  | [] => c.perform.runOn s =
      ((c.perform.runOn { s with faults := [] }).1,
        (c.perform.runOn { s with faults := [] }).2.annotated s.faults (s.journal ++ [c.entry]))

theorem runOn_begin_of_none {target : String} (h : takeFault op s.faults = none) :
    (begin op target).runOn s =
      (.ok (), s.annotated s.faults (s.journal ++ [⟨op, target⟩])) := by
  simp only [runOn, begin, h]
  rfl

/-- A failure that is due is taken once the call is journaled. -/
theorem runOn_begin_of_some {target : String} {e : NetworkError} {faults : List ScriptedFault}
    (h : takeFault op s.faults = some (e, faults)) : (begin op target).runOn s =
      (.error e, s.annotated faults (s.journal ++ [⟨op, target⟩])) := by
  simp only [runOn, begin, h]
  rfl

/-- A call that is to fail takes the failure from the script, and any other leaves the script. -/
theorem runOn_command (c : Command) (s : Substrate) :
    (∃ e faults, takeFault c.entry.operation s.faults = some (e, faults) ∧
      c.perform.runOn s = (.error e, s.annotated faults (s.journal ++ [c.entry]))) ∨
    (takeFault c.entry.operation s.faults = none ∧ c.perform.runOn s =
      ((c.perform.runOn { s with faults := [] }).1,
        (c.perform.runOn { s with faults := [] }).2.annotated s.faults
          (s.journal ++ [c.entry]))) := by
  obtain ⟨work, hplain, hrun⟩ := c.exists_work
  -- where nothing is due, the work is done from the same substrate whatever else is scripted
  have hundue : ∀ faults, takeFault c.entry.operation faults = none →
      c.perform.runOn { s with faults } = ((work.runOn s).1,
        (work.runOn s).2.annotated faults (s.journal ++ [c.entry])) := by
    intro faults hnone
    rw [hrun, runOn_bind, runOn_begin_of_none hnone]
    exact hplain s faults _
  cases htake : takeFault c.entry.operation s.faults with
  | some taken =>
    refine .inl ⟨taken.1, taken.2, rfl, ?_⟩
    rw [hrun, runOn_bind, runOn_begin_of_some htake]
  | none => exact .inr ⟨rfl, by rw [hundue [] rfl]; exact hundue s.faults htake⟩

/-- A call takes the first failure of its operation and leaves the other operations alone. -/
theorem endsAsScripted (c : Command) (s : Substrate) :
    c.EndsAsScripted s (s.failuresDue c.entry.operation) := by
  have htaken := takeFault_cases c.entry.operation s.faults
  unfold failuresDue
  rcases runOn_command c s with ⟨e, faults, htake, hrun⟩ | ⟨htake, hrun⟩
  · rw [htake] at htaken
    rw [htaken.1]
    exact ⟨faults, hrun⟩
  · rw [htake] at htaken
    rw [show failuresOf _ _ = [] from htaken]
    exact hrun

/-! Histories -/

namespace Event

/-- What the event makes of the line of failures of an operation. -/
def requeue (op : Operation) (line : List NetworkError) : Event → List NetworkError
  | .injectFault other times e => if other = op then line ++ List.replicate times e else line
  | .command c => if c.entry.operation = op then line.tail else line
  | _ => line

/-- What the journal says of the event. -/
def entry? : Event → Option JournalEntry
  | .command c => some c.entry
  | _ => none

end Event

/-- The line of failures of an operation after a history that began with none. -/
def lineAfter (op : Operation) (events : List Event) : List NetworkError :=
  events.foldl (Event.requeue op) []

theorem after_concat (s : Substrate) (events : List Event) (e : Event) :
    s.after (events ++ [e]) = e.leaves (s.after events) := by
  induction events generalizing s with
  | nil => rfl
  | cons first events ih => exact ih _

/-- The script says what the lines say, and the journal lists the calls. -/
structure InLine (start : Substrate) (events : List Event) (t : Substrate) : Prop where
  due : ∀ op, t.failuresDue op = lineAfter op events
  to_come : ∀ f ∈ t.faults, 0 < f.remaining
  journal : t.journal = start.journal ++ events.filterMap Event.entry?

namespace InLine

variable {start u : Substrate} {events : List Event}

/-- Of the events, only calls and what scripts failures have to do with script and journal. -/
theorem plain (h : InLine start events t) {work : Call Unit} (hplain : Plain work) {e : Event}
    (hrequeue : ∀ op line, e.requeue op line = line) (hentry : e.entry? = none)
    (hwork : e.perform = work) : InLine start (events ++ [e]) (e.leaves t) := by
  subst hwork
  have hfaults : (e.leaves t).faults = t.faults := hplain.faults t
  have hjournal : (e.leaves t).journal = t.journal := hplain.journal t
  constructor
  case due =>
    intro op
    rw [failuresDue, hfaults, lineAfter, List.foldl_concat, hrequeue]
    exact h.due op
  case to_come => exact hfaults ▸ h.to_come
  case journal => simp [hjournal, h.journal, hentry]

/-- A failure that is injected stands last in its line. -/
theorem injected (h : InLine start events t) (op : Operation) (times : Nat) (e : NetworkError) :
    InLine start (events ++ [.injectFault op times e])
      ((Event.injectFault op times e).leaves t) := by
  have hinjected : (Event.injectFault op times e).leaves t = t.injectFault op times e := rfl
  rw [hinjected]
  unfold injectFault
  split
  next hzero =>
    subst hzero
    refine ⟨fun other => ?_, h.to_come, by simp [h.journal, Event.entry?]⟩
    rw [h.due, lineAfter, lineAfter, List.foldl_concat]
    simp [Event.requeue]
  next htimes =>
    constructor
    case due =>
      intro other
      have hline : ({ t with faults := t.faults ++ [⟨op, e, times⟩] } : Substrate).failuresDue
          other = t.failuresDue other ++ failuresOf other [⟨op, e, times⟩] :=
        List.flatMap_append
      have hmax : max times 1 = times := by omega
      rw [hline, h.due, lineAfter, lineAfter, List.foldl_concat, Event.requeue]
      split
      next heq => simp [failuresOf, heq, hmax]
      next hne => simp [failuresOf, hne]
    case to_come =>
      intro f hf
      rcases List.mem_append.mp hf with hold | hnew
      · exact h.to_come f hold
      · rw [List.mem_singleton.mp hnew]
        exact Nat.pos_of_ne_zero htimes
    case journal => simp [h.journal, Event.entry?]

/-- A call takes the first of its line, if there is one. -/
theorem called (h : InLine start events t) (c : Command) :
    InLine start (events ++ [.command c]) ((Event.command c).leaves t) := by
  have hrequeue : ∀ op, lineAfter op (events ++ [.command c]) =
      if c.entry.operation = op then (lineAfter op events).tail else lineAfter op events :=
    fun op => List.foldl_concat _ _ _ _
  have hentries : (events ++ [Event.command c]).filterMap Event.entry? =
      events.filterMap Event.entry? ++ [c.entry] := by simp [Event.entry?]
  have htaken := takeFault_cases c.entry.operation t.faults
  have hleaves : (Event.command c).leaves t = (c.perform.runOn t).2 := rfl
  rw [hleaves]
  rcases runOn_command c t with ⟨e, faults, htake, hrun⟩ | ⟨htake, hrun⟩
  · rw [htake] at htaken
    obtain ⟨hline, hothers⟩ := htaken
    rw [hrun]
    constructor
    case due =>
      intro op
      rw [hrequeue, ← h.due]
      by_cases hop : c.entry.operation = op
      · subst hop
        rw [if_pos rfl, failuresDue, failuresDue, hline]
        rfl
      · rw [if_neg hop]
        exact hothers op (Ne.symm hop)
    case to_come => exact takeFault_remaining h.to_come htake
    case journal =>
      rw [hentries, ← List.append_assoc, ← h.journal]
      rfl
  · rw [htake] at htaken
    rw [hrun]
    constructor
    case due =>
      intro op
      rw [hrequeue, ← h.due]
      by_cases hop : c.entry.operation = op
      · subst hop
        rw [if_pos rfl, show t.failuresDue c.entry.operation = [] from htaken]
        exact htaken
      · rw [if_neg hop]
        rfl
    case to_come => exact h.to_come
    case journal =>
      rw [hentries, ← List.append_assoc, ← h.journal]
      rfl

theorem next (h : InLine start events t) (e : Event) :
    InLine start (events ++ [e]) (e.leaves t) := by
  cases e with
  | command c => exact h.called c
  | injectFault op times e => exact h.injected op times e
  | addNetwork network =>
    exact h.plain (.of_modify fun _ _ _ => rfl) (fun _ _ => rfl) rfl rfl
  | addSubnet subnet => exact h.plain (.of_modify fun _ _ _ => rfl) (fun _ _ => rfl) rfl rfl
  | addInstance c =>
    exact h.plain (.of_modify (Plain.addInstance c)) (fun _ _ => rfl) rfl rfl
  | removeInstance c => exact h.plain (.of_modify fun _ _ _ => rfl) (fun _ _ => rfl) rfl rfl
  | seedInterface c interface =>
    exact h.plain (Plain.seedInterface c interface).drop (fun _ _ => rfl) rfl rfl
  | setDownDelay polls => exact h.plain (.of_modify fun _ _ _ => rfl) (fun _ _ => rfl) rfl rfl
  | manageSecurityGroups enabled =>
    exact h.plain (.of_modify fun _ _ _ => rfl) (fun _ _ => rfl) rfl rfl

/-- By induction on the history, which starts without failures. -/
theorem after (hquiet : start.faults = []) (events : List Event) :
    InLine start events (start.after events) := by
  induction events using List.reverseRecOn with
  | nil =>
    refine ⟨fun op => ?_, fun f hf => ?_, (List.append_nil _).symm⟩
    · rw [failuresDue, Substrate.after, hquiet]
      rfl
    · rw [Substrate.after, hquiet] at hf
      cases hf
  | append_singleton events e ih =>
    rw [after_concat]
    exact ih.next e

end InLine

/-- In a history that begins with nothing scripted, every call ends as the line of its operation
says, whatever is scripted for other operations. The script never comes to hold anything but these
lines, with no entry that is not to happen any more; the journal lists all calls in their order,
failed or not; and what is to happen zero times is not scripted. -/
theorem calls_fail_in_turn {start : Substrate} (hquiet : start.faults = [])
    (events : List Event) :
    (∀ before c later, events = before ++ .command c :: later →
      c.EndsAsScripted (start.after before) (lineAfter c.entry.operation before)) ∧
    (∀ op, (start.after events).failuresDue op = lineAfter op events) ∧
    (∀ f ∈ (start.after events).faults, 0 < f.remaining) ∧
    (start.after events).journal = start.journal ++ events.filterMap Event.entry? ∧
    ∀ op e, (Event.injectFault op 0 e).leaves (start.after events) = start.after events := by
  have h := InLine.after hquiet events
  refine ⟨fun before c later _ => ?_, h.due, h.to_come, h.journal, fun _ _ => rfl⟩
  rw [← (InLine.after hquiet before).due]
  exact endsAsScripted c (start.after before)

/-- Failures of two operations are scripted, those of the first before and after its calls. -/
def disturbances : List Event :=
  [.injectFault .getSubnet 2 (.driver "unreachable"),
   .injectFault .getPort 1 (.driver "busy"),
   .command (.getSubnet "mgmt-subnet"),
   .injectFault .getSubnet 0 (.driver "never"),
   .injectFault .getSubnet 1 (.notFound "gone"),
   .command (.getSubnet "mgmt-subnet"),
   .command (.getSubnet "mgmt-subnet"),
   .command (.getSubnet "mgmt-subnet")]

/-- The third call fails with what was scripted last, and the failure of the other operation is
still to come when the fourth one has passed. -/
theorem calls_fail_in_turn_sample :
    let start := Substrate.addSubnet {} (Sample.subnet "mgmt-subnet" "mgmt-net" "192.168.0.0/24")
    start.faults = [] ∧
    (∃ t, (Command.getSubnet "mgmt-subnet").perform.runOn (start.after (disturbances.take 6)) =
      (.error (.notFound "gone"), t)) ∧
    ((Command.getSubnet "mgmt-subnet").perform.runOn
      (start.after (disturbances.take 7))).1.isOk ∧
    (start.after disturbances).failuresDue .getPort = [.driver "busy"] ∧
    (start.after disturbances).journal = List.replicate 4 ⟨.getSubnet, "mgmt-subnet"⟩ := by
  intro start
  have hquiet : start.faults = [] := rfl
  obtain ⟨hcalls, hdue, -, hjournal, -⟩ := calls_fail_in_turn hquiet disturbances
  obtain ⟨faults, hthird⟩ := hcalls (disturbances.take 6) (.getSubnet "mgmt-subnet")
    (disturbances.drop 7) rfl
  exact ⟨hquiet, ⟨_, hthird⟩, by decide, hdue .getPort, hjournal⟩

end AmphoraWiring.Substrate
