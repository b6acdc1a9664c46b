import AmphoraWiring.Proofs.Endings
import AmphoraWiring.Proofs.Substrate.Soundness

/-!
What each call does to the substrate, whatever failures are scripted. A call that fails leaves
the attachments alone; it can only have counted an address as handed out. With an empty script a
call fails for one of the reasons given with it and for no other.
-/
namespace AmphoraWiring.Substrate

open Action

/-- `t` is `s` after calls that left nothing but an entry in the journal and what they took from
the script of failures. -/
def Heard (s t : Substrate) : Prop :=
  ∃ calls faults, t = { s with journal := s.journal ++ calls, faults } ∧
    (s.faults = [] → faults = [])

/-- The call was made between `s` and `t`. -/
def Called (s t : Substrate) (call : JournalEntry) : Prop :=
  ∃ calls, t.journal = s.journal ++ calls ∧ call ∈ calls

variable {s t u : Substrate}

namespace Heard

theorem refl (s : Substrate) : s.Heard s := ⟨[], s.faults, by simp, id⟩

theorem trans (h : s.Heard t) (h' : t.Heard u) : s.Heard u := by
  obtain ⟨calls, faults, rfl, hfaults⟩ := h
  obtain ⟨calls', faults', rfl, hfaults'⟩ := h'
  exact ⟨calls ++ calls', faults', by simp, fun h => hfaults' (hfaults h)⟩

theorem faults_nil (h : s.Heard t) (hnil : s.faults = []) : t.faults = [] := by
  obtain ⟨calls, faults, rfl, hfaults⟩ := h
  exact hfaults hnil

/-- Calls are added to the journal, and none is taken out. -/
theorem journal (h : s.Heard t) : ∃ calls, t.journal = s.journal ++ calls := by
  obtain ⟨calls, faults, rfl, hfaults⟩ := h
  exact ⟨calls, rfl⟩

theorem ports (h : s.Heard t) : t.ports = s.ports := by
  obtain ⟨calls, faults, rfl, hfaults⟩ := h
  rfl

theorem plugged (h : s.Heard t) : t.plugged = s.plugged := by
  obtain ⟨calls, faults, rfl, hfaults⟩ := h
  rfl

theorem subnets (h : s.Heard t) : t.subnets = s.subnets := by
  obtain ⟨calls, faults, rfl, hfaults⟩ := h
  rfl

theorem networks (h : s.Heard t) : t.networks = s.networks := by
  obtain ⟨calls, faults, rfl, hfaults⟩ := h
  rfl

theorem allocations (h : s.Heard t) : t.allocations = s.allocations := by
  obtain ⟨calls, faults, rfl, hfaults⟩ := h
  rfl

theorem drawn (h : s.Heard t) : t.drawn = s.drawn := by
  obtain ⟨calls, faults, rfl, hfaults⟩ := h
  rfl

/-- The script and the journal do not matter to what is sound. -/
theorem sound (h : s.Heard t) (hs : s.Sound) : t.Sound :=
  hs.of_eq h.ports h.plugged h.subnets h.drawn

theorem exclusive (h : s.Heard t) (hx : s.Exclusive) : t.Exclusive := hx.of_eq h.plugged

/-! A change finds the same whether a call was heard before it or after it. -/

theorem addPort (h : s.Heard t) (p : Port) : (s.addPort p).Heard (t.addPort p) := by
  obtain ⟨calls, faults, rfl, hfaults⟩ := h
  exact ⟨calls, faults, rfl, hfaults⟩

theorem attach (h : s.Heard t) (c id : String) : (s.attach c id).Heard (t.attach c id) := by
  obtain ⟨calls, faults, rfl, hfaults⟩ := h
  exact ⟨calls, faults, rfl, hfaults⟩

theorem amend (h : s.Heard t) (id : String) (f : Port → Port) :
    (s.amend id f).Heard (t.amend id f) := by
  obtain ⟨calls, faults, rfl, hfaults⟩ := h
  exact ⟨calls, faults, rfl, hfaults⟩

theorem detach (h : s.Heard t) (c networkId : String) :
    (s.detach c networkId).Heard (t.detach c networkId) := by
  obtain ⟨calls, faults, rfl, hfaults⟩ := h
  exact ⟨calls, faults, rfl, hfaults⟩

theorem removePort (h : s.Heard t) (id : String) : (s.removePort id).Heard (t.removePort id) := by
  obtain ⟨calls, faults, rfl, hfaults⟩ := h
  exact ⟨calls, faults, rfl, hfaults⟩

end Heard

/-- Networks and subnets are as they were, and no failure has been scripted. -/
structure SameNetworks (s t : Substrate) : Prop where
  networks : t.networks = s.networks
  subnets : t.subnets = s.subnets
  faults_nil : s.faults = [] → t.faults = []

namespace SameNetworks

theorem refl (s : Substrate) : s.SameNetworks s := ⟨rfl, rfl, id⟩

theorem trans (h : s.SameNetworks t) (h' : t.SameNetworks u) : s.SameNetworks u :=
  ⟨h'.networks.trans h.networks, h'.subnets.trans h.subnets,
    fun hnil => h'.faults_nil (h.faults_nil hnil)⟩

theorem registered (h : s.SameNetworks t) {subnetId networkId : String} :
    t.Registered subnetId networkId ↔ s.Registered subnetId networkId := by
  unfold Registered
  rw [h.subnets]

/-- Whether addresses are kept depends on the subnet. -/
theorem keepsAddresses (h : s.SameNetworks t) (subnetId : String) :
    t.keepsAddresses subnetId = s.keepsAddresses subnetId := by
  unfold Substrate.keepsAddresses
  rw [h.subnets]

theorem addPort (s : Substrate) (p : Port) : s.SameNetworks (s.addPort p) := ⟨rfl, rfl, id⟩

theorem attach (s : Substrate) (c portId : String) : s.SameNetworks (s.attach c portId) :=
  ⟨rfl, rfl, id⟩

theorem amend (s : Substrate) (id : String) (f : Port → Port) : s.SameNetworks (s.amend id f) :=
  ⟨rfl, rfl, fun h => h⟩

theorem detach (s : Substrate) (c networkId : String) : s.SameNetworks (s.detach c networkId) :=
  ⟨rfl, rfl, id⟩

theorem removePort (s : Substrate) (id : String) : s.SameNetworks (s.removePort id) :=
  ⟨rfl, rfl, fun h => h⟩

end SameNetworks

theorem Heard.sameNetworks (h : s.Heard t) : s.SameNetworks t :=
  ⟨h.networks, h.subnets, h.faults_nil⟩

/-- A failure is due for the next call of the operation. -/
def Due (s : Substrate) (op : Operation) : Prop := takeFault op s.faults ≠ none

theorem Due.ne_nil {op : Operation} (h : s.Due op) : s.faults ≠ [] := by
  intro hnil
  simp [Due, hnil, takeFault] at h

/-- A call is journaled; then it fails if a failure is due, and otherwise does its work. -/
theorem ends_due {op : Operation} {target : String} {rest : Call α} {ok : α → Substrate → Prop}
    {bad : NetworkError → Substrate → Prop}
    (hfault : ∀ e t, s.Heard t → s.Called t ⟨op, target⟩ → s.Due op → bad e t)
    (hrest : ∀ t, s.Heard t → s.Called t ⟨op, target⟩ → ¬ s.Due op → rest.Ends t ok bad) :
    Action.Ends (do begin op target; rest) s ok bad := by
  have hcalled : ∀ faults, s.Called { s with journal := s.journal ++ [⟨op, target⟩], faults }
      ⟨op, target⟩ := fun faults => ⟨[⟨op, target⟩], rfl, List.mem_singleton_self _⟩
  cases htake : takeFault op s.faults with
  | none =>
    have hbegin : (begin op target).runOn s =
        (.ok (), { s with journal := s.journal ++ [⟨op, target⟩] }) := by
      simp only [runOn, begin, htake]
    exact ends_bind_of_ok hbegin
      (hrest _ ⟨_, _, rfl, id⟩ (hcalled s.faults) fun hdue => hdue htake)
  | some due =>
    have hbegin : (begin op target).runOn s =
        (.error due.1, { s with journal := s.journal ++ [⟨op, target⟩], faults := due.2 }) := by
      simp only [runOn, begin, htake]
    have hdue : s.Due op := by simp [Due, htake]
    exact ends_bind_of_error hbegin
      (hfault _ _ ⟨_, _, rfl, fun hnil => absurd hnil hdue.ne_nil⟩ (hcalled due.2) hdue)

/-- Where it does not matter which of the scripted failures it is. -/
theorem ends_call {op : Operation} {target : String} {rest : Call α} {ok : α → Substrate → Prop}
    {bad : NetworkError → Substrate → Prop}
    (hfault : ∀ e t, s.Heard t → s.Called t ⟨op, target⟩ → s.faults ≠ [] → bad e t)
    (hrest : ∀ t, s.Heard t → s.Called t ⟨op, target⟩ → rest.Ends t ok bad) :
    Action.Ends (do begin op target; rest) s ok bad :=
  ends_due (fun e t h hcalled hdue => hfault e t h hcalled hdue.ne_nil)
    fun t h hcalled _ => hrest t h hcalled

/-- After calls that left nothing but entries in the journal. -/
def journaled (s : Substrate) (calls : List JournalEntry) : Substrate :=
  { s with journal := s.journal ++ calls }

@[simp] theorem journaled_nil : s.journaled [] = s := by simp [journaled]

@[simp] theorem journaled_journaled (calls calls' : List JournalEntry) :
    (s.journaled calls).journaled calls' = s.journaled (calls ++ calls') := by
  simp [journaled]

/-- Without scripted failures nothing stands between a call and its work. -/
theorem ends_quiet (hquiet : s.faults = []) {op : Operation} {target : String} {rest : Call α}
    {ok : α → Substrate → Prop} {bad : NetworkError → Substrate → Prop}
    (h : rest.Ends (s.journaled [⟨op, target⟩]) ok bad) :
    Action.Ends (do begin op target; rest) s ok bad := by
  have hbegin : (begin op target).runOn s = (.ok (), s.journaled [⟨op, target⟩]) := by
    have htake : takeFault op s.faults = none := by
      rw [hquiet]
      rfl
    simp only [runOn, begin, htake]
    rfl
  exact ends_bind_of_ok hbegin h

/-! Looking things up -/

theorem ends_portById (id : String) (s : Substrate) :
    (portById id).Ends s (fun p t => t = s ∧ s.ports.get? id = some p)
      fun _ t => t = s ∧ s.ports.get? id = none :=
  ends_get (ends_orFail _ _ s)

theorem ends_subnetById (id : String) (s : Substrate) :
    (subnetById id).Ends s (fun subnet t => t = s ∧ s.subnets.get? id = some subnet)
      fun _ t => t = s ∧ s.subnets.get? id = none :=
  ends_get (ends_orFail _ _ s)

theorem ends_portsOfInstance (c : String) (s : Substrate) :
    (portsOfInstance c).Ends s
      (fun ids t => t = s ∧ ids = s.pluggedPortIds c ∧ s.plugged.contains c)
      fun _ t => t = s ∧ s.plugged.contains c = false := by
  refine ends_get ((ends_orFail _ _ s).mono ?_ ?_)
  · intro ids t hend
    obtain ⟨rfl, h⟩ := hend
    exact ⟨rfl, by simp [pluggedPortIds, h], IdMap.contains_iff.mpr ⟨ids, h⟩⟩
  · intro e t hend
    obtain ⟨rfl, h⟩ := hend
    exact ⟨rfl, IdMap.contains_eq_false_iff.mpr h⟩

theorem ends_updatePort (id : String) (f : Port → Port) (s : Substrate) :
    (updatePort id f).Ends s
      (fun q t => t = s.amend id f ∧ ∃ p, s.ports.get? id = some p ∧ q = f p)
      fun _ t => t = s ∧ s.ports.get? id = none := by
  refine (ends_portById id s).bind ?_ (fun e t h => h)
  intro p t hend
  obtain ⟨rfl, hp⟩ := hend
  exact ends_modify (ends_pure ⟨rfl, p, hp, rfl⟩)

/-- Where the port is known to be stored. -/
theorem ends_portById_stored {id : String} {p : Port} (hp : s.ports.get? id = some p) :
    (portById id).Ends s (fun q t => t = s ∧ q = p) fun _ _ => False := by
  apply (ends_portById id s).mono
  · exact fun q t hend => ⟨hend.1, Option.some.inj (hend.2.symm.trans hp)⟩
  · exact fun e t hend => absurd (hend.2.symm.trans hp) (by simp)

theorem ends_updatePort_stored {id : String} {p : Port} (hp : s.ports.get? id = some p)
    (f : Port → Port) :
    (updatePort id f).Ends s (fun q t => t = s.amend id f ∧ q = f p) fun _ _ => False := by
  apply (ends_updatePort id f s).mono
  · intro q t hend
    obtain ⟨ht, p', hp', hq⟩ := hend
    cases hp.symm.trans hp'
    exact ⟨ht, hq⟩
  · exact fun e t hend => absurd (hend.2.symm.trans hp) (by simp)

/-- Without faults only an unknown subnet cannot be read. -/
theorem ends_getSubnet (id : String) (s : Substrate) :
    (getSubnet id).Ends s (fun subnet t => s.Heard t ∧ s.subnets.get? id = some subnet)
      fun _ t => s.Heard t ∧ (s.faults = [] → s.subnets.get? id = none) := by
  refine ends_call (fun e t h _ hne => ⟨h, fun hnil => absurd hnil hne⟩) fun t h _ => ?_
  rw [← h.subnets]
  apply (ends_subnetById id t).mono
  · intro subnet u hend
    obtain ⟨rfl, hget⟩ := hend
    exact ⟨h, hget⟩
  · intro e u hend
    obtain ⟨rfl, hget⟩ := hend
    exact ⟨h, fun _ => hget⟩

/-- Where the subnet is known to exist, and no failure is scripted. -/
theorem ends_getSubnet_stored {id : String} {subnet : Subnet} (hquiet : s.faults = [])
    (hsubnet : s.subnets.get? id = some subnet) :
    (getSubnet id).Ends s (fun subnet' t => subnet' = subnet ∧ s.Heard t) fun _ _ => False := by
  apply (ends_getSubnet id s).mono
  · exact fun subnet' t hend => ⟨Option.some.inj (hend.2.symm.trans hsubnet), hend.1⟩
  · exact fun e t hend => absurd ((hend.2 hquiet).symm.trans hsubnet) (by simp)

theorem ends_getNetwork (id : String) (s : Substrate) :
    (getNetwork id).Ends s (fun network t => s.Heard t ∧ s.networks.get? id = some network)
      fun _ t => s.Heard t ∧ (s.faults = [] → s.networks.get? id = none) := by
  refine ends_call (fun e t h _ hne => ⟨h, fun hnil => absurd hnil hne⟩) fun t h _ => ?_
  rw [← h.networks]
  refine ends_get ((ends_orFail _ _ t).mono ?_ ?_)
  · intro network u hend
    obtain ⟨rfl, hget⟩ := hend
    exact ⟨h, hget⟩
  · intro e u hend
    obtain ⟨rfl, hget⟩ := hend
    exact ⟨h, fun _ => hget⟩

/-- The interfaces are those of the ports that are plugged in, in their order. -/
theorem ends_getPluggedNetworks (c : String) (s : Substrate) : (getPluggedNetworks c).Ends s
    (fun interfaces t => s.Heard t ∧ interfaces = (s.pluggedPorts c).map Port.toInterface ∧
      s.plugged.contains c)
    fun _ t => s.Heard t ∧ (s.faults = [] → s.plugged.contains c = false) := by
  refine ends_call (fun e t h _ hne => ⟨h, fun hnil => absurd hnil hne⟩) fun t h _ => ?_
  refine (ends_portsOfInstance c t).bind ?_ ?_
  · intro ids u hend
    obtain ⟨rfl, rfl, hhosted⟩ := hend
    refine ends_get (ends_pure ⟨h, ?_, h.plugged ▸ hhosted⟩)
    simp only [interfaces, pluggedPorts, pluggedPortIds, h.ports, h.plugged]
  · intro e u hend
    obtain ⟨rfl, hnone⟩ := hend
    exact ⟨h, fun _ => h.plugged ▸ hnone⟩

/-! Ports -/

/-- A deletion fails only as scripted, also where there is no such port. -/
theorem ends_deletePort_due (id : String) (s : Substrate) : (deletePort id).Ends s
    (fun _ t => s.Called t ⟨.deletePort, id⟩ ∧ (s.removePort id).Heard t)
    fun _ t => s.Called t ⟨.deletePort, id⟩ ∧ s.Heard t ∧ s.Due .deletePort := by
  refine ends_due (fun e t h hcalled hdue => ⟨hcalled, h, hdue⟩) fun t h hcalled _ => ?_
  exact ends_modify_last ⟨hcalled, h.removePort id⟩

theorem ends_deletePort (id : String) (s : Substrate) : (deletePort id).Ends s
    (fun _ t => s.Called t ⟨.deletePort, id⟩ ∧ (s.removePort id).Heard t)
    fun _ t => s.Called t ⟨.deletePort, id⟩ ∧ s.Heard t ∧ s.faults ≠ [] :=
  (ends_deletePort_due id s).mono (fun _ _ h => h) fun _ _ h => ⟨h.1, h.2.1, h.2.2.ne_nil⟩

/-- An instance leaves a network unless a failure is due or it has no port there. -/
theorem ends_unplugNetwork_due (c networkId : String) (s : Substrate) :
    (unplugNetwork c networkId).Ends s
      (fun _ t => (s.detach c networkId).Heard t ∧ s.plugged.contains c)
      fun _ t => s.Heard t ∧
        (¬ s.Due .unplugNetwork → s.plugged.contains c → s.idsOn c networkId = []) := by
  refine ends_due (fun e t h _ hdue => ⟨h, fun hnot => absurd hdue hnot⟩) fun t h _ _ => ?_
  refine (ends_portsOfInstance c t).bind ?_ ?_
  · intro ids u hend
    obtain ⟨rfl, rfl, hhosted⟩ := hend
    apply ends_get
    have hids : u.idsOn c networkId = s.idsOn c networkId := by
      simp only [idsOn, pluggedPortIds, h.plugged, h.ports]
    change Ends (if (u.idsOn c networkId).isEmpty then _ else _) _ _ _
    split
    next hempty => exact ends_throw_bind ⟨h, fun _ _ => hids ▸ List.isEmpty_iff.mp hempty⟩
    next => exact ends_modify_last ⟨h.detach c networkId, h.plugged ▸ hhosted⟩
  · intro e u hend
    obtain ⟨rfl, hnone⟩ := hend
    rw [h.plugged] at hnone
    exact ⟨h, fun _ hcontains => by simp [hnone] at hcontains⟩

theorem ends_unplugNetwork (c networkId : String) (s : Substrate) :
    (unplugNetwork c networkId).Ends s
      (fun _ t => (s.detach c networkId).Heard t ∧ s.plugged.contains c)
      fun _ t => s.Heard t ∧
        (s.faults = [] → s.plugged.contains c → s.idsOn c networkId = []) :=
  (ends_unplugNetwork_due c networkId s).mono (fun _ _ h => h)
    fun _ _ h => ⟨h.1, fun hnil => h.2 fun hdue => hdue.ne_nil hnil⟩

/-- A port is plugged in if it and the instance are there. -/
theorem ends_plug (c id : String) (s : Substrate) :
    (plug c id).Ends s
      (fun _ t => t = s.attach c id ∧ s.plugged.contains c ∧ ∃ p, s.ports.get? id = some p)
      fun _ t => t = s ∧ (s.plugged.contains c → s.ports.get? id = none) := by
  refine (ends_portById id s).bind ?_ ?_
  · intro p t hend
    obtain ⟨rfl, hp⟩ := hend
    refine (ends_portsOfInstance c t).bind ?_ ?_
    · intro ids u hend
      obtain ⟨rfl, rfl, hplugged⟩ := hend
      apply ends_modify
      refine (ends_updatePort id _ _).bind ?_ ?_
      · intro q v hend
        obtain ⟨rfl, -⟩ := hend
        exact ends_pure ⟨rfl, hplugged, p, hp⟩
      · intro e v hend
        obtain ⟨rfl, hnone⟩ := hend
        change u.ports.get? id = none at hnone
        simp [hp] at hnone
    · intro e u hend
      obtain ⟨rfl, hnone⟩ := hend
      exact ⟨rfl, fun hcontains => by simp [hnone] at hcontains⟩
  · intro e t hend
    obtain ⟨rfl, hnone⟩ := hend
    exact ⟨rfl, fun _ => hnone⟩

/-- Plugging a port in needs an instance and the port, and nothing else. -/
theorem ends_plugPort (amphora : Amphora) (port : Port) (s : Substrate) :
    (plugPort amphora port).Ends s
      (fun _ t => ∃ c, amphora.computeId = some c ∧ s.plugged.contains c ∧
        (s.attach c port.id).Heard t)
      fun _ t => s.Heard t ∧ (s.faults = [] → ∀ c, amphora.computeId = some c →
        s.plugged.contains c → s.ports.get? port.id = none) := by
  refine ends_call (fun e t h _ hne => ⟨h, fun hnil => absurd hnil hne⟩) fun t h _ => ?_
  refine (ends_orFail _ amphora.computeId t).bind ?_ ?_
  · intro c u hend
    obtain ⟨rfl, hc⟩ := hend
    apply (ends_plug c port.id u).mono
    · intro a v hend
      obtain ⟨rfl, hplugged, -⟩ := hend
      exact ⟨c, hc, h.plugged ▸ hplugged, h.attach c port.id⟩
    · intro e v hend
      obtain ⟨rfl, hwhy⟩ := hend
      refine ⟨h, fun _ c' hc' hcontains => ?_⟩
      rw [hc] at hc'
      cases hc'
      rw [← h.plugged] at hcontains
      exact h.ports ▸ hwhy hcontains
  · intro e u hend
    obtain ⟨rfl, hnone⟩ := hend
    exact ⟨h, fun _ c hc => by simp [hnone] at hc⟩

end AmphoraWiring.Substrate
