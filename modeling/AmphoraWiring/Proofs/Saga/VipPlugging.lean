import AmphoraWiring.Proofs.Bookkeeping
import AmphoraWiring.Proofs.Seeding
import AmphoraWiring.Proofs.Substrate.BasePorts
import AmphoraWiring.Proofs.Substrate.Coherence
import AmphoraWiring.Proofs.Substrate.VirtualAddresses
import AmphoraWiring.Saga.VirtualAddress

/-!
Plugging a virtual address in again. Whether the base port of the amphora was found or made, what a
success leaves is a state in which the same port is found, plugged into the same instance; and from
such a state the step finds nothing to do. The repository need not know of the port in between.
-/
namespace AmphoraWiring

open Action

namespace Substrate

variable {s t : Substrate} {vip : Vip} {amphora : Amphora} {subnet : Subnet} {c id : String}

/-- The amphora as it is given back with the base port under the id. -/
def withBasePort (s : Substrate) (vip : Vip) (amphora : Amphora) (id : String) : Amphora :=
  { amphora with
    vrrpPortId := some id
    vrrpIp := ((s.ports.get? id).bind fun p => p.fixedIps.head?).bind (·.ipAddress)
    haPortId := vip.portId
    haIp := vip.ipAddress }

/-- The base port of the amphora is found under the id, plugged into the instance. -/
structure BaseWired (s : Substrate) (amphora : Amphora) (c id : String) : Prop where
  computeId : amphora.computeId = some c
  base : s.basePortOf amphora = some id
  port : ∃ p, s.ports.get? id = some p ∧ p.deviceId = some c
  listed : id ∈ s.pluggedPortIds c

theorem BaseWired.heard (h : s.BaseWired amphora c id) (hheard : s.Heard t) :
    t.BaseWired amphora c id := by
  obtain ⟨calls, faults, rfl, -⟩ := hheard
  exact ⟨h.computeId, h.base, h.port, h.listed⟩

theorem Heard.withBasePort (h : s.Heard t) (vip : Vip) (amphora : Amphora) (id : String) :
    t.withBasePort vip amphora id = s.withBasePort vip amphora id := by
  obtain ⟨calls, faults, rfl, -⟩ := h
  rfl

theorem mem_pluggedPortIds_attach (s : Substrate) (c id : String) :
    id ∈ (s.attach c id).pluggedPortIds c := by
  rw [pluggedPortIds_attach]
  split
  · exact List.mem_append_right _ (List.mem_singleton_self id)
  next hlisted => exact Classical.not_not.mp fun hnew => hlisted ⟨rfl, hnew⟩

theorem nodup_attach (h : ∀ c, (s.pluggedPortIds c).Nodup) (c id c' : String) :
    ((s.attach c id).pluggedPortIds c').Nodup := by
  rw [pluggedPortIds_attach]
  split
  next hnew => exact List.nodup_append.mpr ⟨h c, List.nodup_singleton _,
    fun a ha b hb heq => hnew.2 (List.mem_singleton.mp hb ▸ heq ▸ ha)⟩
  next => exact h c'

theorem contains_plugged_of_mem (h : id ∈ s.pluggedPortIds c) : s.plugged.contains c := by
  by_contra hnot
  rw [Bool.not_eq_true, IdMap.contains_eq_false_iff] at hnot
  simp [pluggedPortIds, hnot] at h

/-- Plugging a port in where it is plugged in already changes nothing. -/
theorem attach_eq_self (hlisted : id ∈ s.pluggedPortIds c)
    (hdevice : ∀ p, s.ports.get? id = some p → p.deviceId = some c) : s.attach c id = s := by
  obtain ⟨ids, hids⟩ := IdMap.contains_iff.mp (contains_plugged_of_mem hlisted)
  have hplugged : s.plugged.insert c (s.pluggedPortIds c) = s.plugged := by
    apply IdMap.ext_get?
    intro k
    rw [IdMap.get?_insert]
    split
    next heq => simp [heq, pluggedPortIds, hids]
    next => rfl
  have hports : s.amend id (fun p => { p with deviceId := some c }) = s :=
    amend_eq_self fun p hp => by rw [← hdevice p hp]
  have hattach : s.attach c id =
      { s.amend id (fun p => { p with deviceId := some c }) with
        plugged := s.plugged.insert c (s.pluggedPortIds c) } := by
    simp [attach, amend, hlisted]
  rw [hattach, hports, hplugged]

/-- Whichever port it is, it is the base port afterwards, plugged in where the amphora runs. -/
theorem baseWired_attach {p : Port} (hc : amphora.computeId = some c)
    (hbase : s.basePortOf amphora = some id) (hp : s.ports.get? id = some p) :
    (s.attach c id).BaseWired amphora c id where
  computeId := hc
  base := (basePortOf_attach s c id amphora).trans hbase
  port := ⟨{ p with deviceId := some c }, by simp [attach, IdMap.get?_modify, hp], rfl⟩
  listed := mem_pluggedPortIds_attach s c id

/-- The base port is wired to the instance, and no instance lists a port twice. -/
theorem ends_plugAapPort_wired (vip : Vip) (amphora : Amphora) (subnet : Subnet) (s : Substrate) :
    (plugAapPort vip amphora subnet).Ends s
      (fun a t => (∃ c id, t.BaseWired amphora c id ∧ a = t.withBasePort vip amphora id) ∧
        ((∀ c, (s.pluggedPortIds c).Nodup) → ∀ c, (t.pluggedPortIds c).Nodup))
      fun _ _ => True := by
  rw [plugAapPort_eq]
  refine ends_call (fun _ _ _ _ _ => trivial) fun s₁ hheard _ => ?_
  refine (ends_orFail _ amphora.computeId s₁).bind ?_ (fun _ _ _ => trivial)
  intro c s₂ hend
  obtain ⟨rfl, hc⟩ := hend
  refine (ends_portsOfInstance c s₂).bind ?_ (fun _ _ _ => trivial)
  intro ids s₃ hend
  obtain ⟨rfl, -, -⟩ := hend
  -- a port that was found and one that was made are dealt with alike from here on
  have hplug : ∀ (id : String) (u : Substrate), u.basePortOf amphora = some id →
      u.plugged = s₃.plugged → (plugBase vip amphora c id).Ends u
        (fun a t => (∃ c id, t.BaseWired amphora c id ∧ a = t.withBasePort vip amphora id) ∧
          ((∀ c, (s.pluggedPortIds c).Nodup) → ∀ c, (t.pluggedPortIds c).Nodup))
        fun _ _ => True := by
    intro id u hbase hplugged
    refine (ends_plug c id u).bind ?_ (fun _ _ _ => trivial)
    intro _ t hend
    obtain ⟨rfl, -, p, hp⟩ := hend
    refine ends_get (ends_pure ⟨⟨c, id, baseWired_attach hc hbase hp, rfl⟩, fun hnodup => ?_⟩)
    refine nodup_attach (fun c' => ?_) c id
    have hids : u.pluggedPortIds c' = s.pluggedPortIds c' := by
      unfold pluggedPortIds
      rw [hplugged, hheard.plugged]
    exact hids ▸ hnodup c'
  apply ends_get
  cases hbase : s₃.basePortOf amphora with
  | some id => exact hplug id s₃ hbase rfl
  | none =>
    have hasked : (basePortRequest vip amphora subnet).fixedIps = [{ subnetId := subnet.id }] :=
      rfl
    refine (ends_newPort_single hasked s₃).bind ?_
      (fun _ _ _ => trivial)
    intro p t hend
    obtain ⟨-, u, ip, ⟨m, rfl, -⟩, -, rfl, rfl⟩ := hend
    exact hplug _ _ (basePortOf_addPort hbase rfl) rfl

/-- With the base port in place nothing is left to be done. -/
theorem ends_plugAapPort_again (h : s.BaseWired amphora c id) (hquiet : s.faults = []) (vip : Vip)
    (subnet : Subnet) : (plugAapPort vip amphora subnet).Ends s
      (fun a t => a = s.withBasePort vip amphora id ∧ s.Heard t) fun _ _ => False := by
  obtain ⟨hc, hbase, ⟨p, hp, hdevice⟩, hlisted⟩ := h
  have hhosted : s.plugged.contains c := contains_plugged_of_mem hlisted
  have hattach : s.attach c id = s := attach_eq_self hlisted fun q hq => by
    cases hp.symm.trans hq
    exact hdevice
  refine ends_quiet hquiet ?_
  have hinstance : (instanceOf amphora).runOn (s.journaled [⟨.plugAapPort, amphora.id⟩]) =
      (.ok c, s.journaled [⟨.plugAapPort, amphora.id⟩]) := by
    rw [instanceOf, hc]
    rfl
  refine ends_bind_of_ok hinstance ?_
  refine (ends_portsOfInstance c _).bind ?_ fun _ _ hend => ?_
  · intro ids s₁ hend
    obtain ⟨rfl, -, -⟩ := hend
    apply ends_get
    have hfound : (s.journaled [⟨.plugAapPort, amphora.id⟩]).basePortOf amphora = some id := hbase
    simp only [hfound]
    refine ends_bind_of_ok rfl ((ends_plug c id _).bind ?_ fun _ _ hend => ?_)
    · intro _ t hend
      have ht : t = s.journaled [⟨.plugAapPort, amphora.id⟩] :=
        hend.1.trans (congrArg (fun s => s.journaled [⟨.plugAapPort, amphora.id⟩]) hattach)
      subst ht
      exact ends_get (ends_pure ⟨rfl, _, _, rfl, fun h => h⟩)
    · exact absurd (hp.symm.trans (hend.2 hhosted)) (by simp)
  · exact absurd (hhosted.symm.trans hend.2) (by simp)

end Substrate

namespace Step

open Deployment Substrate

variable {loadBalancerId amphoraId subnetId : String} {run run₁ : Run Deployment} {a : Amphora}
  {c id : String}

/-- The address is plugged in, and `a` is the amphora as the step gives it back. -/
structure VipWired (loadBalancerId amphoraId subnetId : String) (d : Deployment) (a : Amphora)
    (c id : String) : Prop where
  records : ∃ stored lb, d.repository.amphorae.get? amphoraId = some stored ∧
    d.repository.loadBalancers.get? loadBalancerId = some lb ∧
    d.substrate.BaseWired stored c id ∧ a = d.substrate.withBasePort lb.vip stored id
  subnet : ∃ subnet, d.substrate.subnets.get? subnetId = some subnet

/-- What a success leaves, however the base port came about. -/
theorem ends_plugVip_wired (loadBalancerId amphoraId subnetId : String) (run : Run Deployment) :
    Action.Ends (plugVip loadBalancerId amphoraId subnetId).execute run
      (fun a run' => (∃ c id, VipWired loadBalancerId amphoraId subnetId run'.state a c id) ∧
        run.state.repository.Heard run'.state.repository ∧
        run.state.substrate.SameNetworks run'.state.substrate ∧
        ((∀ c, (run.state.substrate.pluggedPortIds c).Nodup) →
          ∀ c, (run'.state.substrate.pluggedPortIds c).Nodup))
      fun _ _ => True := by
  refine (ends_onRepository (Repository.ends_getAmphora amphoraId _)).bind ?_ (fun _ _ _ => trivial)
  intro stored run₁ hend
  obtain ⟨⟨hheard₁, hstored⟩, hsubstrate₁, -⟩ := hend
  refine (ends_onRepository (Repository.ends_getLoadBalancer loadBalancerId _)).bind ?_
    (fun _ _ _ => trivial)
  intro lb run₂ hend
  obtain ⟨⟨hheard₂, balancer, hbalancer, hlb⟩, hsubstrate₂, -⟩ := hend
  refine (ends_onSubstrate (ends_getSubnet subnetId _)).bind ?_ (fun _ _ _ => trivial)
  intro subnet run₃ hend
  obtain ⟨⟨hheard₃, hsubnet⟩, hrepository₃, -⟩ := hend
  rw [hsubstrate₂, hsubstrate₁] at hheard₃ hsubnet
  apply (ends_onSubstrate ((ends_plugAapPort_wired lb.vip stored subnet _).and
    (ends_plugAapPort lb.vip stored subnet _))).mono
  · intro a run₄ hend
    obtain ⟨⟨⟨⟨c, id, hwired, ha⟩, hnodup⟩, ⟨_, hplugged⟩⟩, hrepository₄, -⟩ := hend
    have hheard : run.state.repository.Heard run₄.state.repository := by
      rw [hrepository₄, hrepository₃]
      exact hheard₁.trans hheard₂
    refine ⟨⟨c, id, ⟨stored, balancer, ?_, ?_, hwired, ?_⟩, subnet, ?_⟩, hheard,
      hheard₃.sameNetworks.trans hplugged.networks, fun h => hnodup fun c => ?_⟩
    · exact hheard.amphorae ▸ hstored
    · rw [hheard.loadBalancers, ← hheard₁.loadBalancers]
      exact hbalancer
    · rw [ha, hlb]
    · rw [hplugged.networks.subnets, hheard₃.subnets]
      exact hsubnet
    · unfold pluggedPortIds
      rw [hheard₃.plugged]
      exact h c
  · exact fun _ _ _ => trivial

/-- From there on the step gives back the same amphora and changes nothing. -/
theorem ends_plugVip_again (run : Run Deployment)
    (h : VipWired loadBalancerId amphoraId subnetId run.state a c id)
    (hquiet : run.state.substrate.faults = []) (hharmless : run.state.repository.Harmless) :
    Action.Ends (plugVip loadBalancerId amphoraId subnetId).execute run
      (fun a' run' => a' = a ∧ run.state.substrate.Heard run'.state.substrate ∧
        run.state.repository.Heard run'.state.repository)
      fun _ _ => False := by
  obtain ⟨⟨stored, balancer, hstored, hbalancer, hwired, ha⟩, subnet, hsubnet⟩ := h
  refine (ends_onRepository_sure (Repository.ends_getAmphora_stored hharmless hstored)).bind ?_
    (fun _ _ h => h)
  intro stored' run₁ hend
  obtain ⟨⟨rfl, hheard₁⟩, hsubstrate₁, -⟩ := hend
  refine (ends_onRepository_sure (Repository.ends_getLoadBalancer_stored
    (hheard₁.harmless hharmless) (hheard₁.loadBalancers ▸ hbalancer))).bind ?_ (fun _ _ h => h)
  intro lb run₂ hend
  obtain ⟨⟨hlb, hheard₂⟩, hsubstrate₂, -⟩ := hend
  rw [← hsubstrate₁, ← hsubstrate₂] at hquiet hsubnet hwired ha ⊢
  refine (ends_onSubstrate_sure (ends_getSubnet_stored hquiet hsubnet)).bind ?_ (fun _ _ h => h)
  intro subnet' run₃ hend
  obtain ⟨⟨rfl, hheard₃⟩, hrepository₃, -⟩ := hend
  apply (ends_onSubstrate_sure (ends_plugAapPort_again (hwired.heard hheard₃)
    (hheard₃.faults_nil hquiet) lb.vip subnet')).mono
  · intro a' run₄ hend
    obtain ⟨⟨ha', hheard₄⟩, hrepository₄, -⟩ := hend
    refine ⟨?_, hheard₃.trans hheard₄, ?_⟩
    · rw [ha', ha, hlb, hheard₃.withBasePort]
    · rw [hrepository₄, hrepository₃]
      exact hheard₁.trans hheard₂
  · exact fun _ _ h => h

/-- Where no failure is scripted, a virtual address that has been plugged in can be plugged in
again: the same amphora is given back, no port is made or changed, no address and no id is used up,
and the instance lists the base port once. -/
theorem plugVip_again_changes_nothing (hquiet : run.state.substrate.faults = [])
    (hharmless : run.state.repository.Harmless)
    (hnodup : ∀ c, (run.state.substrate.pluggedPortIds c).Nodup)
    (h : (plugVip loadBalancerId amphoraId subnetId).execute.runOn run = (.ok a, run₁))
    (context : Context) :
    ∃ run₂, (plugVip loadBalancerId amphoraId subnetId).execute.runOn { run₁ with context } =
        (.ok a, run₂) ∧
      run₂.state.substrate.ports = run₁.state.substrate.ports ∧
      run₂.state.substrate.plugged = run₁.state.substrate.plugged ∧
      run₂.state.substrate.allocations = run₁.state.substrate.allocations ∧
      run₂.state.substrate.drawn = run₁.state.substrate.drawn ∧
      run.state.repository.Heard run₁.state.repository ∧
      ∃ c id, a.computeId = some c ∧ a.vrrpPortId = some id ∧
        (∃ p, run₂.state.substrate.ports.get? id = some p ∧ p.deviceId = some c) ∧
        (run₂.state.substrate.pluggedPortIds c).count id = 1 := by
  obtain ⟨⟨c, id, hwired⟩, hheard, hsame, hnodup₁⟩ :=
    (ends_plugVip_wired loadBalancerId amphoraId subnetId run).of_ok h
  have hagain := ends_plugVip_again { run₁ with context } hwired
    (hsame.faults_nil hquiet) (hheard.harmless hharmless)
  obtain ⟨a', run₂, hrun, rfl, hheard₂, -⟩ := hagain.value
  obtain ⟨⟨stored, lb, -, -, hbase, ha⟩, -⟩ := hwired
  refine ⟨run₂, hrun, hheard₂.ports, hheard₂.plugged, hheard₂.allocations, hheard₂.drawn, hheard,
    c, id, ?_, ?_, ?_, ?_⟩
  · rw [ha]
    exact hbase.computeId
  · rw [ha]
    rfl
  · rw [hheard₂.ports]
    exact hbase.port
  · unfold pluggedPortIds
    rw [hheard₂.plugged]
    exact List.count_eq_one_of_mem (hnodup₁ hnodup c) hbase.listed

/-- Two ports have the name of the base port. -/
def namesakes : Substrate :=
  after {}
    [.addSubnet (Sample.subnet "mgmt-subnet" "mgmt-net" "192.168.0.0/24"),
     .addSubnet (Sample.subnet "vip-subnet" "vip-net" "10.0.0.0/24"),
     .seedInterface "vm-1" Sample.managementInterface,
     .command (.createPort { networkId := "vip-net", name := basePortName "amp-1" }),
     .command (.createPort { networkId := "vip-net", name := basePortName "amp-1" })]

theorem namesakes_coherent : namesakes.Coherent := by
  refine Coherent.empty.after ⟨fun known hknown => ?_, fun known hknown => ?_, ?_, trivial, trivial,
    trivial⟩
  · cases hknown
  · cases hknown
  · exact fun h => absurd rfl h

/-- The repository knows an amphora whose base port is gone. -/
def startStale (substrate : Substrate) : Run Deployment where
  context := {}
  state :=
    { substrate
      repository := Repository.store {} (Sample.loadBalancer
        [{ Sample.amphora "amp-1" "vm-1" with vrrpPortId := some "gone" }]) }

@[simp] theorem startStale_substrate (substrate : Substrate) :
    (startStale substrate).state.substrate = substrate := rfl

/-- The base port is made the first time and found the second time; where two ports have its name,
it is the first of them both times. -/
theorem plugVip_again_changes_nothing_sample :
    (∃ a run₁ run₂, (plugVip "lb-1" "amp-1" "vip-subnet").execute.runOn
        (startStale Sample.substrate) = (.ok a, run₁) ∧
      (plugVip "lb-1" "amp-1" "vip-subnet").execute.runOn run₁ = (.ok a, run₂) ∧
      run₂.state.substrate.ports = run₁.state.substrate.ports ∧
      run₁.state.substrate.drawn = Sample.substrate.drawn + 1) ∧
    ∃ a run₁ run₂, (plugVip "lb-1" "amp-1" "vip-subnet").execute.runOn (startStale namesakes) =
        (.ok a, run₁) ∧
      (plugVip "lb-1" "amp-1" "vip-subnet").execute.runOn run₁ = (.ok a, run₂) ∧
      run₂.state.substrate.ports = run₁.state.substrate.ports ∧
      run₁.state.substrate.drawn = namesakes.drawn ∧ a.vrrpPortId = some (drawnId 2) := by
  have hharmless (s : Substrate) : (startStale s).state.repository.Harmless :=
    Repository.harmless_of_script_nil rfl
  constructor
  · obtain ⟨a, run₁, hrun⟩ := exists_of_isSome (plugVip "lb-1" "amp-1" "vip-subnet").execute
      (startStale Sample.substrate) (by decide +kernel)
    have hdrawn : ((plugVip "lb-1" "amp-1" "vip-subnet").execute.runOn
        (startStale Sample.substrate)).2.state.substrate.drawn = Sample.substrate.drawn + 1 := by
      decide +kernel
    have hquiet : (startStale Sample.substrate).state.substrate.faults = [] := by decide +kernel
    have hnodup : ∀ c, ((startStale Sample.substrate).state.substrate.pluggedPortIds c).Nodup := by
      rw [startStale_substrate]
      exact Sample.substrate_fit.1.nodup
    rw [hrun] at hdrawn
    obtain ⟨run₂, hagain, hports, -⟩ :=
      plugVip_again_changes_nothing hquiet (hharmless _) hnodup hrun run₁.context
    exact ⟨a, run₁, run₂, hrun, hagain, hports, hdrawn⟩
  · obtain ⟨a, run₁, hrun⟩ := exists_of_isSome (plugVip "lb-1" "amp-1" "vip-subnet").execute
      (startStale namesakes) (by decide +kernel)
    have hfound : ((plugVip "lb-1" "amp-1" "vip-subnet").execute.runOn
        (startStale namesakes)).2.state.substrate.drawn = namesakes.drawn ∧
        ((plugVip "lb-1" "amp-1" "vip-subnet").execute.runOn
          (startStale namesakes)).1.toOption.bind (·.vrrpPortId) = some (drawnId 2) := by
      decide +kernel
    have hquiet : (startStale namesakes).state.substrate.faults = [] := by decide +kernel
    have hnodup : ∀ c, ((startStale namesakes).state.substrate.pluggedPortIds c).Nodup := by
      rw [startStale_substrate]
      exact namesakes_coherent.nodup
    rw [hrun] at hfound
    obtain ⟨run₂, hagain, hports, -⟩ :=
      plugVip_again_changes_nothing hquiet (hharmless _) hnodup hrun run₁.context
    exact ⟨a, run₁, run₂, hrun, hagain, hports, hfound⟩

end Step

end AmphoraWiring
