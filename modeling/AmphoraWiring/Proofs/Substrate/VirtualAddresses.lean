import AmphoraWiring.Proofs.Substrate.SameBut
import AmphoraWiring.Substrate.Vip

/-!
What the calls about virtual addresses do to the substrate, whatever failures are scripted. An
allocation stores one port, the one that the address names or a new one. A new port is stored
before the further addresses are looked for, so an allocation that fails for one of these leaves
it behind.
-/
namespace AmphoraWiring

namespace Substrate

open Action

variable {s t u : Substrate}

/-- One address is asked for, on a network that exists, and it can be granted. -/
structure Makeable (s : Substrate) (request : PortRequest) (wish : FixedIp) : Prop where
  network : ∃ network, s.networks.get? request.networkId = some network
  granted : s.Grantable request.networkId wish

theorem ends_resolveFixedIps_single (networkId : String) (wish : FixedIp) (s : Substrate) :
    (resolveFixedIps networkId [wish]).Ends s
      (fun ips t => s.Grantable networkId wish ∧ s.Allocating t [wish.subnetId] ∧
        ∃ ip, ips = [ip] ∧ ip.Answers wish)
      fun _ t => s.Allocating t [wish.subnetId] ∧ ¬ s.Grantable networkId wish := by
  refine (ends_resolveFixedIp_iff networkId wish s).bind ?_ (fun e t h => h)
  intro ip t hend
  obtain ⟨hallocating, hchosen, hgranted⟩ := hend
  exact ends_bind_of_ok rfl (ends_pure ⟨hgranted, hallocating, ip, rfl, hchosen.answers⟩)

/-- A port with one address is made whenever that is possible. -/
theorem ends_newPort_single {request : PortRequest} {wish : FixedIp}
    (hasked : request.fixedIps = [wish]) (s : Substrate) : (newPort request).Ends s
      (fun p t => s.Makeable request wish ∧ ∃ u ip, s.Allocating u [wish.subnetId] ∧
        ip.Answers wish ∧ p = request.port (drawnId (s.drawn + 1)) [ip] ∧ t = u.addPort p)
      fun _ t => s.Allocating t [wish.subnetId] ∧ ¬ s.Makeable request wish := by
  have hips : ∀ network, s.networks.get? request.networkId = some network →
      (resolveFixedIps request.networkId (PortRequest.wishes request network)).Ends s
        (fun ips t => s.Makeable request wish ∧ s.Allocating t [wish.subnetId] ∧
          ∃ ip, ips = [ip] ∧ ip.Answers wish)
        fun _ t => s.Allocating t [wish.subnetId] ∧ ¬ s.Makeable request wish := by
    intro network hnetwork
    rw [wishes_of_ne_nil (by simp [hasked]), hasked]
    apply (ends_resolveFixedIps_single request.networkId wish s).mono
    · exact fun ips t hend => ⟨⟨⟨network, hnetwork⟩, hend.1⟩, hend.2⟩
    · exact fun e t hend => ⟨hend.1, fun h => hend.2 h.granted⟩
  refine (ends_newPort_resolved (fun hnone e => ?_) hips).imp_ok ?_
  · refine ⟨.refl s _, fun h => ?_⟩
    obtain ⟨network, hnetwork⟩ := h.network
    simp [hnone] at hnetwork
  · intro p t hend
    obtain ⟨ips, u, ⟨hmakeable, hallocating, ip, rfl, hanswers⟩, rfl, rfl⟩ := hend
    rw [hallocating.samePorts.drawn]
    exact ⟨hmakeable, u, ip, hallocating, hanswers, rfl, rfl⟩

/-- Further addresses are added to the port at hand; nothing is stored yet. -/
theorem ends_addVips (p : Port) (extras : List AdditionalVip) (s : Substrate) :
    (addVips p extras).Ends s
      (fun r t => s.Allocating t (extras.map (·.subnetId)) ∧ ∃ ips, r.1 = p.addIps ips)
      fun _ t => s.Allocating t (extras.map (·.subnetId)) := by
  induction extras generalizing p s with
  | nil => exact ends_pure ⟨.refl s _, [], by simp [Port.addIps]⟩
  | cons extra extras ih =>
    have hrest : ∀ (ips : List FixedIp) {t : Substrate}, s.Allocating t [extra.subnetId] →
        (addVips (p.addIps ips) extras).Ends t
          (fun r u => s.Allocating u ((extra :: extras).map (·.subnetId)) ∧
            ∃ ips, r.1 = p.addIps ips)
          fun _ u => s.Allocating u ((extra :: extras).map (·.subnetId)) := by
      intro ips t hfirst
      apply (ih (p.addIps ips) t).mono
      · intro r u hend
        obtain ⟨hmore, ips', hport⟩ := hend
        exact ⟨hfirst.cons hmore, ips ++ ips', by simp [hport, Port.addIps]⟩
      · exact fun e u hmore => hfirst.cons hmore
    unfold addVips
    split
    next ip _ =>
      have hsame : p.addIps [] = p := by simp [Port.addIps]
      have hfirst := hrest [] (.refl s _)
      rw [hsame] at hfirst
      refine ends_bind_of_ok rfl (hfirst.bind ?_ (fun e u h => h))
      exact fun r u h => ends_pure h
    next =>
      refine (ends_resolveFixedIp p.networkId _ s).bind ?_ ?_
      · intro ip t hend
        obtain ⟨hfirst, -⟩ := hend
        refine (hrest [ip] hfirst).bind ?_ (fun e u h => h)
        exact fun r u h => ends_pure h
      · intro e t hend
        exact hend.1.cons (.refl t _)

/-- `t` has the port under its id, whatever was there before; beside it, ports, instances and
security groups are those of `s`. -/
structure Stored (s t : Substrate) (p : Port) : Prop where
  ports : t.ports = s.ports.insert p.id p
  plugged : t.plugged = s.plugged
  securityGroups : t.securityGroups = s.securityGroups

theorem Stored.sameBut {p : Port} {ids : List String} (h : s.Stored t p) (hid : p.id ∈ ids) :
    SameBut ids s t := by
  refine .of_ports (fun id hmem => ?_) h.plugged h.securityGroups
  have hne : id ≠ p.id := fun heq => hmem (heq ▸ hid)
  rw [h.ports, IdMap.get?_insert, if_neg hne]

/-- The port on which a virtual address is allocated: the one that it names, or a new one with
the address; in either case with addresses added. -/
inductive VipPort (s : Substrate) (lb : LoadBalancer) : Port → Prop where
  | named (p : Port) (ips : List FixedIp) (h : s.vipPort? lb.vip = some p) :
      VipPort s lb (p.addIps ips)
  | made (ip : FixedIp) (ips : List FixedIp) (h : s.vipPort? lb.vip = none)
      (hsubnet : ip.subnetId = lb.vip.subnetId) :
      VipPort s lb (((vipPortRequest lb).port (drawnId (s.drawn + 1)) [ip]).addIps ips)

/-- An allocation comes to make a port for the virtual address: no failure is due, the address
names no port, and the port can be made with the address alone. -/
structure MakesVipPort (s : Substrate) (lb : LoadBalancer) : Prop where
  undue : ¬ s.Due .allocateVip
  missing : s.vipPort? lb.vip = none
  makeable : s.Makeable (vipPortRequest lb) ⟨lb.vip.subnetId, lb.vip.ipAddress, none⟩

/-- What an allocation that failed has left: no trace, or the port that it had made. -/
inductive VipNotAllocated (s t : Substrate) (lb : LoadBalancer) : Prop where
  | undone (h : ¬ s.MakesVipPort lb) (hports : t.ports = s.ports) (hplugged : t.plugged = s.plugged)
      (hgroups : t.securityGroups = s.securityGroups)
  | stranded (ip : FixedIp) (h : s.MakesVipPort lb) (hsubnet : ip.subnetId = lb.vip.subnetId)
      (hstored : s.Stored t ((vipPortRequest lb).port (drawnId (s.drawn + 1)) [ip]))

/-- What is done with the port of a virtual address, be it the one that the address names or a new
one. -/
def answerVip (lb : LoadBalancer) (p : Port) : Call AllocatedVip := do
  let (p, additionalVips) ← addVips p lb.additionalVips
  putPort p
  let own := p.fixedIps.find? fun ip => ip.subnetId = lb.vip.subnetId
  let vip : Vip :=
    { lb.vip with
      ipAddress := own.bind (·.ipAddress)
      portId := some p.id
      loadBalancerId := some lb.id }
  return { vip, additionalVips }

theorem allocateVip_eq (lb : LoadBalancer) : allocateVip lb = (do
    begin .allocateVip lb.id
    match (← get).vipPort? lb.vip with
    | some p => answerVip lb p
    | none => newPort (vipPortRequest lb) >>= answerVip lb) := rfl

/-- The port is stored with the addresses that it gains. -/
theorem ends_answerVip (lb : LoadBalancer) (p : Port) (s : Substrate) : (answerVip lb p).Ends s
    (fun allocated t => allocated.vip.portId = some p.id ∧
      ∃ ips u, s.Allocating u (lb.additionalVips.map (·.subnetId)) ∧
        t = { u with ports := u.ports.insert p.id (p.addIps ips) })
    fun _ t => s.Allocating t (lb.additionalVips.map (·.subnetId)) := by
  refine (ends_addVips p lb.additionalVips s).bind ?_ (fun _ _ h => h)
  intro r u hend
  obtain ⟨q, vips⟩ := r
  obtain ⟨hallocating, ips, rfl⟩ := hend
  exact ends_modify (ends_pure ⟨rfl, ips, u, hallocating, rfl⟩)

/-- A virtual address is allocated with a port that is found or made, and stored. -/
theorem ends_allocateVip (lb : LoadBalancer) (s : Substrate) : (allocateVip lb).Ends s
    (fun allocated t => ∃ p, s.VipPort lb p ∧ s.Stored t p ∧ s.drawn ≤ t.drawn ∧
      allocated.vip.portId = some p.id)
    fun _ t => s.VipNotAllocated t lb := by
  rw [allocateVip_eq]
  refine ends_due (fun e t h _ hdue => ?_) fun t h _ hundue => ?_
  · obtain ⟨calls, faults, rfl, -⟩ := h
    exact .undone (fun hmakes => hmakes.undue hdue) rfl rfl rfl
  apply ends_get
  have hvip : t.vipPort? lb.vip = s.vipPort? lb.vip := by
    unfold vipPort?
    rw [h.ports]
  rw [hvip]
  cases hport : s.vipPort? lb.vip with
  | some p =>
    apply (ends_answerVip lb p t).mono
    · intro allocated w hend
      obtain ⟨hid, ips, u, hallocating, rfl⟩ := hend
      refine ⟨_, .named p ips hport, ?_, ?_, hid⟩
      · obtain ⟨m, rfl, -⟩ := hallocating
        obtain ⟨calls, faults, rfl, -⟩ := h
        exact ⟨rfl, rfl, rfl⟩
      · exact Nat.le_of_eq (hallocating.samePorts.drawn.trans h.drawn).symm
    · intro e u hallocating
      obtain ⟨m, rfl, -⟩ := hallocating
      obtain ⟨calls, faults, rfl, -⟩ := h
      exact .undone (fun hmakes => by simp [hmakes.missing] at hport) rfl rfl rfl
  | none =>
    have hmakes : t.Makeable (vipPortRequest lb) ⟨lb.vip.subnetId, lb.vip.ipAddress, none⟩ ↔
        s.MakesVipPort lb := by
      obtain ⟨calls, faults, rfl, -⟩ := h
      constructor
      · exact fun h => ⟨hundue, hport, h.network, h.granted⟩
      · exact fun h => ⟨h.makeable.network, h.makeable.granted⟩
    have hasked : (vipPortRequest lb).fixedIps = [⟨lb.vip.subnetId, lb.vip.ipAddress, none⟩] := rfl
    refine (ends_newPort_single hasked t).bind ?_ ?_
    · intro p u hend
      obtain ⟨hmakeable, v, ip, hallocating, hanswers, rfl, rfl⟩ := hend
      obtain ⟨m, rfl, -⟩ := hallocating
      obtain ⟨calls, faults, rfl, -⟩ := h
      apply (ends_answerVip lb _ _).mono
      · intro allocated w hend
        obtain ⟨hid, ips, u, ⟨m', rfl, -⟩, rfl⟩ := hend
        refine ⟨_, .made ip ips hport hanswers.subnetId, ⟨?_, rfl, rfl⟩, Nat.le_succ _, hid⟩
        exact IdMap.insert_insert _ _ _ _
      · intro e w hallocating
        obtain ⟨m', rfl, -⟩ := hallocating
        exact .stranded ip (hmakes.mp hmakeable) hanswers.subnetId ⟨rfl, rfl, rfl⟩
    · intro e u hend
      obtain ⟨hallocating, hwhy⟩ := hend
      obtain ⟨m, rfl, -⟩ := hallocating
      obtain ⟨calls, faults, rfl, -⟩ := h
      exact .undone (fun h => hwhy (hmakes.mpr h)) rfl rfl rfl

/-- The port that the virtual address names is removed. -/
theorem ends_deallocateVip {vip : Vip} {portId : String} (hport : vip.portId = some portId)
    (s : Substrate) : (deallocateVip vip).Ends s (fun _ t => (s.removePort portId).Heard t)
      fun _ t => s.Heard t ∧ s.faults ≠ [] := by
  refine ends_call (fun e t h _ hne => ⟨h, hne⟩) fun t h _ => ?_
  rw [hport]
  exact ends_modify_last (h.removePort portId)

/-! Base ports -/

/-- The base port of an amphora has been plugged in, the one that it has or else a new one. -/
structure BasePlugged (s t : Substrate) (amphora plugged : Amphora) (id : String) : Prop where
  named : plugged.vrrpPortId = some id
  base : s.basePortOf amphora = some id ∨ id = drawnId (s.drawn + 1)
  present : t.ports.contains id
  same : SameBut [id] s t
  networks : s.SameNetworks t

theorem contains_attach {c id : String} {p : Port} (hp : s.ports.get? id = some p) :
    (s.attach c id).ports.contains id := by
  refine IdMap.contains_iff.mpr ⟨{ p with deviceId := some c }, ?_⟩
  exact (IdMap.get?_modify _ _ _ _).trans (by simp [hp])

/-- What is done with a base port, be it one that was found or a new one. -/
def plugBase (vip : Vip) (amphora : Amphora) (c id : String) : Call Amphora := do
  plug c id
  let first := ((← get).ports.get? id).bind fun p => p.fixedIps.head?
  return { amphora with
    vrrpPortId := some id
    vrrpIp := first.bind (·.ipAddress)
    haPortId := vip.portId
    haIp := vip.ipAddress }

theorem plugAapPort_eq (vip : Vip) (amphora : Amphora) (subnet : Subnet) :
    plugAapPort vip amphora subnet = (do
      begin .plugAapPort amphora.id
      let c ← instanceOf amphora
      let _ ← portsOfInstance c
      match (← get).basePortOf amphora with
      | some id => plugBase vip amphora c id
      | none => newPort (basePortRequest vip amphora subnet) >>= fun p =>
          plugBase vip amphora c p.id) := rfl

/-- The port is plugged in, and the amphora given back names it. -/
theorem ends_plugBase (vip : Vip) (amphora : Amphora) (c id : String) (s : Substrate) :
    (plugBase vip amphora c id).Ends s
      (fun plugged t => t = s.attach c id ∧ s.plugged.contains c ∧
        (∃ p, s.ports.get? id = some p) ∧ plugged.vrrpPortId = some id)
      fun _ t => t = s := by
  refine (ends_plug c id s).bind ?_ (fun _ _ hend => hend.1)
  intro _ t hend
  obtain ⟨rfl, hhosted, hport⟩ := hend
  exact ends_get (ends_pure ⟨rfl, hhosted, hport, rfl⟩)

/-- The base port that is found or made is plugged in and answered. -/
theorem ends_plugAapPort (vip : Vip) (amphora : Amphora) (subnet : Subnet) (s : Substrate) :
    (plugAapPort vip amphora subnet).Ends s
      (fun plugged t => ∃ id, s.BasePlugged t amphora plugged id) fun _ _ => True := by
  rw [plugAapPort_eq]
  refine ends_call (fun _ _ _ _ _ => trivial) fun t h _ => ?_
  refine (ends_orFail _ amphora.computeId t).bind ?_ (fun _ _ _ => trivial)
  intro c t' hend
  obtain ⟨rfl, -⟩ := hend
  refine (ends_portsOfInstance c t').bind ?_ (fun _ _ _ => trivial)
  intro ids t'' hend
  obtain ⟨rfl, -, -⟩ := hend
  apply ends_get
  have hplug : ∀ id u, (s.basePortOf amphora = some id ∨ id = drawnId (s.drawn + 1)) →
      SameBut [id] s u → s.SameNetworks u → (plugBase vip amphora c id).Ends u
        (fun plugged t => ∃ id, s.BasePlugged t amphora plugged id) fun _ _ => True := by
    intro id u hbase hsame hnetworks
    apply (ends_plugBase vip amphora c id u).mono
    · intro plugged v hend
      obtain ⟨rfl, hhosted, ⟨p, hp⟩, hnamed⟩ := hend
      refine ⟨id, hnamed, hbase, contains_attach hp, ?_, ?_⟩
      · exact hsame.trans (.of_attach (List.mem_singleton_self id) hhosted)
      · exact hnetworks.trans (.attach u c id)
    · exact fun _ _ _ => trivial
  have hbase : t''.basePortOf amphora = s.basePortOf amphora := by
    obtain ⟨calls, faults, rfl, -⟩ := h
    rfl
  cases hport : t''.basePortOf amphora with
  | some id =>
    exact hplug id t'' (.inl (hbase ▸ hport)) (.of_heard h) h.sameNetworks
  | none =>
    refine (ends_newPort (basePortRequest vip amphora subnet) t'').bind ?_ (fun _ _ _ => trivial)
    intro p u hend
    obtain ⟨v, hserving, hcreated, rfl⟩ := hend
    obtain ⟨subnetIds, hallocating, -⟩ := hserving
    refine hplug p.id _ (.inr ?_) ?_ ?_
    · rw [hcreated.id, h.drawn]
    · exact (SameBut.of_heard h).trans ((SameBut.of_allocating hallocating).trans
        (.of_addPort (List.mem_singleton_self p.id)))
    · exact h.sameNetworks.trans (hallocating.sameNetworks.trans (.addPort v p))

/-- The base port of an amphora is removed, if it has one. -/
theorem ends_unplugAapPort (amphora : Amphora) (s : Substrate) : (unplugAapPort amphora).Ends s
    (fun _ t => (s.removeBasePort amphora).Heard t) fun _ t => s.Heard t ∧ s.faults ≠ [] := by
  refine ends_call (fun e t h _ hne => ⟨h, hne⟩) fun t h _ => ends_modify_last ?_
  obtain ⟨calls, faults, rfl, hfaults⟩ := h
  have hbase : ({ s with journal := s.journal ++ calls, faults } : Substrate).basePortOf amphora =
      s.basePortOf amphora := rfl
  unfold removeBasePort
  rw [hbase]
  cases s.basePortOf amphora with
  | none => exact ⟨calls, faults, rfl, hfaults⟩
  | some id => exact ⟨calls, faults, rfl, hfaults⟩

end Substrate

end AmphoraWiring
