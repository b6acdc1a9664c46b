import AmphoraWiring.Proofs.Bookkeeping
import AmphoraWiring.Proofs.Seeding
import AmphoraWiring.Proofs.Substrate.VirtualAddresses
import AmphoraWiring.Saga.VirtualAddress

/-!
What allocating a virtual address leaves behind. An allocation that fails has changed no port, with
one exception: a port that it had made for the address before a further address was refused stays,
and nobody is told of it. An allocation that is reverted takes its port with it, the one that it
made or the one that the address named before.
-/
namespace AmphoraWiring

open Action

namespace Substrate

/-- A failed allocation has left the ports as they were, unless it came to make a port for the
address. Then that port is there, with the one address and plugged into no instance. -/
structure AllocationFailed (s t : Substrate) (lb : LoadBalancer) : Prop where
  unchanged_iff : t.ports = s.ports ↔ ¬ s.MakesVipPort lb
  stranded : s.MakesVipPort lb → ∃ ip, ip.subnetId = lb.vip.subnetId ∧
    t.ports = s.ports.insert (drawnId (s.drawn + 1))
      ((vipPortRequest lb).port (drawnId (s.drawn + 1)) [ip])
  plugged : t.plugged = s.plugged

/-- The port that a failed allocation leaves is one that it made. -/
theorem VipNotAllocated.failed {s t : Substrate} {lb : LoadBalancer} (h : s.VipNotAllocated t lb)
    (hnew : s.ports.get? (drawnId (s.drawn + 1)) = none) : s.AllocationFailed t lb := by
  cases h with
  | undone hmakes hports hplugged hgroups =>
    exact ⟨iff_of_true hports hmakes, fun h => absurd h hmakes, hplugged⟩
  | stranded ip hmakes hsubnet hstored =>
    refine ⟨iff_of_false (fun hsame => ?_) fun h => h hmakes, fun _ => ⟨ip, hsubnet, ?_⟩,
      hstored.plugged⟩
    · have hget := IdMap.get?_insert_self s.ports (drawnId (s.drawn + 1))
        ((vipPortRequest lb).port (drawnId (s.drawn + 1)) [ip])
      have hports : t.ports = s.ports.insert (drawnId (s.drawn + 1)) _ := hstored.ports
      rw [← hports, hsame, hnew] at hget
      cases hget
    · exact hstored.ports

end Substrate

namespace Step

open Substrate

/-- The load balancer is read, and its address is allocated if that succeeds. -/
theorem ends_allocate (loadBalancerId : String) (run : Run Deployment) :
    Action.Ends (allocate loadBalancerId) run
      (fun allocated run' => ∃ lb r,
        (Repository.getLoadBalancer loadBalancerId).runOn run.state.repository = (.ok lb, r) ∧
        run'.state.repository = r ∧
        ∃ p, run.state.substrate.VipPort lb p ∧
          run.state.substrate.Stored run'.state.substrate p ∧
          run.state.substrate.drawn ≤ run'.state.substrate.drawn ∧
          allocated.vip.portId = some p.id)
      fun _ run' =>
        ((∃ e r, (Repository.getLoadBalancer loadBalancerId).runOn run.state.repository =
            (.error e, r)) ∧ run'.state.substrate = run.state.substrate) ∨
        ∃ lb r, (Repository.getLoadBalancer loadBalancerId).runOn run.state.repository =
            (.ok lb, r) ∧ run.state.substrate.VipNotAllocated run'.state.substrate lb := by
  refine (Deployment.ends_onRepository (ends_runOn _ _)).bind ?_ ?_
  · intro lb run₁ hend
    obtain ⟨hread, hsubstrate, -⟩ := hend
    rw [← hsubstrate]
    refine (Deployment.ends_onSubstrate (ends_allocateVip lb _)).bind ?_ ?_
    · intro allocated run₂ hend
      obtain ⟨⟨p, hvip, hstored, hdrawn, hport⟩, hrepository, -⟩ := hend
      rw [hport]
      apply Deployment.ends_record
      exact ends_pure ⟨lb, _, hread, hrepository, p, hvip, hstored, hdrawn, hport⟩
    · intro e run₂ hend
      exact .inr ⟨lb, _, hread, hend.1⟩
  · intro e run₁ hend
    obtain ⟨⟨e', -, hread⟩, hsubstrate, -⟩ := hend
    exact .inl ⟨⟨e', _, hread⟩, hsubstrate⟩

/-- Wherever an allocation fails, in the call or in the step around it, the ports are as they were
exactly if no port was made for the address before. -/
theorem failed_allocation_strands_only_made_port {loadBalancerId : String}
    {step : Step AllocatedVip}
    (hstep : step = allocateVip loadBalancerId ∨ step = allocateVipForFailover loadBalancerId)
    {run : Run Deployment}
    (hnew : run.state.substrate.ports.get? (drawnId (run.state.substrate.drawn + 1)) = none) :
    (∀ lb e t, (Substrate.allocateVip lb).runOn run.state.substrate = (.error e, t) →
      run.state.substrate.AllocationFailed t lb) ∧
    ∀ e run', step.execute.runOn run = (.error e, run') →
      ((∃ e r, (Repository.getLoadBalancer loadBalancerId).runOn run.state.repository =
          (.error e, r)) ∧ run'.state.substrate = run.state.substrate) ∨
      ∃ lb r, (Repository.getLoadBalancer loadBalancerId).runOn run.state.repository =
          (.ok lb, r) ∧ run.state.substrate.AllocationFailed run'.state.substrate lb := by
  constructor
  · intro lb e t hfail
    exact ((ends_allocateVip lb _).of_error hfail).failed hnew
  · intro e run' hfail
    have hexecute : step.execute = allocate loadBalancerId := by
      rcases hstep with rfl | rfl <;> rfl
    rw [hexecute] at hfail
    rcases (ends_allocate loadBalancerId run).of_error hfail with h | ⟨lb, r, hread, h⟩
    · exact .inl h
    · exact .inr ⟨lb, r, hread, h.failed hnew⟩

/-- The sample deployment, when the load balancer asks for a second address on the network of its
members. -/
def secondAddress : Run Deployment where
  context := {}
  state :=
    { substrate := Sample.substrate
      repository := Repository.store {}
        { Sample.loadBalancer [] with additionalVips := [{ subnetId := "subnet-b" }] } }

/-- The second address is refused after the port was made. -/
theorem failed_allocation_strands_only_made_port_sample :
    ∃ e run', (allocateVip "lb-1").execute.runOn secondAddress = (.error e, run') ∧
      ∃ lb r, (Repository.getLoadBalancer "lb-1").runOn secondAddress.state.repository =
        (.ok lb, r) ∧ secondAddress.state.substrate.AllocationFailed run'.state.substrate lb := by
  have hfail : ∃ e run', (allocateVip "lb-1").execute.runOn secondAddress = (.error e, run') := by
    rcases hrun : (allocateVip "lb-1").execute.runOn secondAddress with ⟨e | a, run'⟩
    · exact ⟨e, run', rfl⟩
    · have hnone : ((allocateVip "lb-1").execute.runOn secondAddress).1.toOption.isNone := by
        decide +kernel
      rw [hrun] at hnone
      cases hnone
  obtain ⟨e, run', hfail⟩ := hfail
  have hnew : secondAddress.state.substrate.ports.get?
      (drawnId (secondAddress.state.substrate.drawn + 1)) = none :=
    Sample.substrate_fit.1.next_is_new
  rcases (failed_allocation_strands_only_made_port (.inl rfl) hnew).2 e run' hfail with
    ⟨⟨e', r, hread⟩, -⟩ | h
  · have hsome : ((Repository.getLoadBalancer "lb-1").runOn
        secondAddress.state.repository).1.toOption.isSome := by
      decide +kernel
    rw [hread] at hsome
    cases hsome
  · exact ⟨e, run', hfail, h⟩

/-- The second address is on another network than the first one, so the allocation fails, but the
port for the first one has been made. -/
theorem refused_second_address_strands_port :
    ((allocateVip "lb-1").execute.runOn secondAddress).1.toOption = none ∧
    secondAddress.state.substrate.ports.get? (drawnId 3) = none ∧
    (((allocateVip "lb-1").execute.runOn secondAddress).2.state.substrate.ports.get?
      (drawnId 3)).map (·.name) = some "lb-vip-lb-1" := by
  decide +kernel

/-! Reverting -/

/-- Without faults a port that is released is removed. -/
theorem ends_release (loadBalancerId : String) {vip : Vip} {portId : String}
    (hport : vip.portId = some portId) (run : Run Deployment)
    (hquiet : run.state.substrate.faults = []) :
    Effect.Ends (release loadBalancerId vip) run fun _ run' =>
      (run.state.substrate.removePort portId).Heard run'.state.substrate ∧
        run'.state.repository = run.state.repository := by
  refine Effect.ends_settle (Deployment.ends_onSubstrate (ends_deallocateVip hport _)) ?_ ?_
  · intro a run₁ hend
    obtain ⟨hremoved, hrepository, -⟩ := hend
    rw [hport]
    exact Deployment.effect_ends_record_last ⟨hremoved, hrepository⟩
  · intro e run₁ hend
    obtain ⟨⟨-, hne⟩, -⟩ := hend
    exact absurd hquiet hne

/-- Once an allocation has been reverted, the ports are those from before it, but for the one that
the address named then: it is gone. -/
theorem reverted_allocation_takes_named_port {loadBalancerId : String} {run run₁ : Run Deployment}
    {allocated : AllocatedVip} {lb : LoadBalancer}
    (hown : ∀ {id p}, run.state.substrate.ports.get? id = some p → p.id = id)
    (hnew : run.state.substrate.ports.get? (drawnId (run.state.substrate.drawn + 1)) = none)
    (hstored : run.state.repository.loadBalancers.get? loadBalancerId = some lb)
    (hexecute : (allocateVip loadBalancerId).execute.runOn run = (.ok allocated, run₁))
    (hquiet : run₁.state.substrate.faults = []) (id : String) :
    (((allocateVip loadBalancerId).revert allocated).run run₁).2.state.substrate.ports.get? id =
      if lb.vip.portId = some id then none else run.state.substrate.ports.get? id := by
  obtain ⟨lb', r, hread, -, p, hvip, hport, -, hid⟩ :=
    (ends_allocate loadBalancerId run).of_ok hexecute
  have hlb : lb'.vip = lb.vip := by
    obtain ⟨-, stored, hget, rfl⟩ :=
      (Repository.ends_getLoadBalancer loadBalancerId _).of_ok hread
    rw [hstored] at hget
    cases hget
    rfl
  have hafter : (((allocateVip loadBalancerId).revert allocated).run run₁).2.state.substrate.ports =
      run.state.substrate.ports.erase p.id := by
    have hend := (ends_release loadBalancerId hid run₁ hquiet).state
    rw [← IdMap.erase_insert _ _ p, ← hport.ports]
    exact hend.1.ports
  rw [hafter, IdMap.get?_erase]
  cases hvip with
  | named q ips hnamed =>
    rw [hlb] at hnamed
    obtain ⟨named, hportId, hget⟩ := Option.bind_eq_some_iff.mp hnamed
    have hqid : q.id = named := hown hget
    have hpid : (q.addIps ips).id = q.id := rfl
    simp only [hpid, hqid, hportId, Option.some.injEq, eq_comm]
  | made ip ips hmissing =>
    rw [hlb] at hmissing
    have hmade : run.state.substrate.ports.get? (((vipPortRequest lb').port
        (drawnId (run.state.substrate.drawn + 1)) [ip]).addIps ips).id = none := hnew
    rw [← IdMap.get?_erase, IdMap.erase_of_get?_eq_none hmade]
    split
    next hnamed =>
      change lb.vip.portId.bind _ = none at hmissing
      rwa [hnamed] at hmissing
    next => rfl

/-- The network of the virtual address has two subnets, and the load balancer asks for an address on
either. -/
def bothSubnets : LoadBalancer :=
  { Sample.loadBalancer [] with additionalVips := [{ subnetId := "vip-subnet-2" }] }

/-- No address has been allocated yet. -/
def unsavedAddresses : Run Deployment where
  context := {}
  state :=
    { substrate :=
        Sample.substrate.addSubnet (Sample.subnet "vip-subnet-2" "vip-net" "10.0.9.0/24")
      repository := Repository.store {} bothSubnets }

/-- Addresses have been allocated, and the port that carries them is saved. -/
def savedAddresses : Run Deployment where
  context := {}
  state :=
    { substrate :=
        ((Substrate.allocateVip bothSubnets).runOn unsavedAddresses.state.substrate).2
      repository := Repository.store {}
        { bothSubnets with
          vip :=
            { subnetId := "vip-subnet", networkId := "vip-net", portId := some (drawnId 3) } } }

/-- A port that the allocation made is gone after reverting it, and so is one that was there. -/
theorem reverted_allocation_takes_named_port_sample :
    (∃ allocated run₁,
      (allocateVip "lb-1").execute.runOn unsavedAddresses = (.ok allocated, run₁) ∧
      (run₁.state.substrate.ports.get? (drawnId 3)).isSome ∧
      ∀ id, (((allocateVip "lb-1").revert allocated).run run₁).2.state.substrate.ports.get? id =
        unsavedAddresses.state.substrate.ports.get? id) ∧
    ∃ allocated run₁,
      (allocateVip "lb-1").execute.runOn savedAddresses = (.ok allocated, run₁) ∧
      (savedAddresses.state.substrate.ports.get? (drawnId 3)).isSome ∧
      ∀ id, (((allocateVip "lb-1").revert allocated).run run₁).2.state.substrate.ports.get? id =
        if some (drawnId 3) = some id then none
        else savedAddresses.state.substrate.ports.get? id := by
  have hown {run : Run Deployment}
      (h : ∀ e ∈ run.state.substrate.ports.entries, e.2.id = e.1) {id : String} {p : Port}
      (hget : run.state.substrate.ports.get? id = some p) : p.id = id :=
    h _ (IdMap.mem_entries_iff.mpr hget)
  constructor
  · obtain ⟨allocated, run₁, hexecute⟩ := exists_of_isSome (allocateVip "lb-1").execute
      unsavedAddresses (by decide +kernel)
    have hend : ((allocateVip "lb-1").execute.runOn unsavedAddresses).2.state.substrate.faults =
        [] ∧ (((allocateVip "lb-1").execute.runOn unsavedAddresses).2.state.substrate.ports.get?
          (drawnId 3)).isSome := by
      decide +kernel
    rw [hexecute] at hend
    refine ⟨allocated, run₁, hexecute, hend.2, fun id => ?_⟩
    have hstored : unsavedAddresses.state.repository.loadBalancers.get? "lb-1" =
        some bothSubnets := by
      decide +kernel
    rw [reverted_allocation_takes_named_port (hown (by decide +kernel)) (by decide +kernel) hstored
      hexecute hend.1 id]
    exact if_neg nofun
  · obtain ⟨allocated, run₁, hexecute⟩ := exists_of_isSome (allocateVip "lb-1").execute
      savedAddresses (by decide +kernel)
    have hend : ((allocateVip "lb-1").execute.runOn savedAddresses).2.state.substrate.faults =
        [] := by
      decide +kernel
    rw [hexecute] at hend
    have hstored : savedAddresses.state.repository.loadBalancers.get? "lb-1" =
        some { bothSubnets with
          vip :=
            { subnetId := "vip-subnet", networkId := "vip-net", portId := some (drawnId 3) } } := by
      decide +kernel
    refine ⟨allocated, run₁, hexecute, by decide +kernel, fun id => ?_⟩
    exact reverted_allocation_takes_named_port (hown (by decide +kernel)) (by decide +kernel)
      hstored hexecute hend id

/-- The sample deployment, when an address has been allocated and its port saved. -/
def savedAddress : Run Deployment where
  context := {}
  state :=
    { substrate := ((Substrate.allocateVip (Sample.loadBalancer [])).runOn Sample.substrate).2
      repository := Repository.store {}
        { Sample.loadBalancer [] with
          vip :=
            { subnetId := "vip-subnet", networkId := "vip-net", portId := some (drawnId 3) } } }

/-- Allocating the address again and reverting that deletes the port it had all along. -/
theorem reverted_reallocation_deletes_port :
    ∃ allocated ∈ ((allocateVip "lb-1").execute.runOn savedAddress).1.toOption,
      (savedAddress.state.substrate.ports.get? (drawnId 3)).isSome ∧
      (((allocateVip "lb-1").revert allocated).run
        ((allocateVip "lb-1").execute.runOn savedAddress).2).2.state.substrate.ports.get?
          (drawnId 3) = none := by
  decide +kernel

end Step

end AmphoraWiring
