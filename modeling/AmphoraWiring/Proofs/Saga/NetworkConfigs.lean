import AmphoraWiring.Proofs.History
import AmphoraWiring.Proofs.Listing
import AmphoraWiring.Proofs.Seeding
import AmphoraWiring.Proofs.Substrate.Calls
import AmphoraWiring.Proofs.Substrate.Commands
import AmphoraWiring.Saga.VirtualAddress

/-!
The network configurations of a load balancer can be asked for in one go or amphora by amphora. One
way takes the amphorae from the reading of the load balancer, the other from readings of their own.
The records of both are the same after any history of the repository, moves from one load balancer
to another included, so all ways agree.
-/
namespace AmphoraWiring

open Action

namespace IdMap

variable {α : Type}

/-- A map made from pairs in the order of their ids lists them as they are. -/
theorem entries_ofList {l : List (String × α)} (hl : l.Pairwise fun a b => a.1 < b.1) :
    (ofList l).entries = l := by
  have hnodup : (l.map (·.1)).Nodup := keys_nodup ⟨l, hl⟩
  exact eq_of_mem_iff (ofList l).ascending hl fun e => (entries_ofList_perm hnodup).mem_iff

end IdMap

namespace Substrate

/-- The entry of the amphora in a map of configurations. -/
def configEntry (s : Substrate) (lb : LoadBalancer) (amphora : Amphora) :
    String × AmphoraNetworkConfig :=
  (amphora.id, s.networkConfig lb amphora)

/-- The configurations that are asked for when no failure is scripted. -/
theorem runOn_getNetworkConfigs {s : Substrate} (hquiet : s.faults = []) (lb : LoadBalancer)
    (amphora : Option Amphora) : (getNetworkConfigs lb amphora).runOn s =
      (.ok (.ofList ((amphora.elim lb.allocatedAmphorae fun a => [a]).map (s.configEntry lb))),
        s.journaled [⟨.getNetworkConfigs, lb.id⟩]) := by
  have hbegin : (begin .getNetworkConfigs lb.id).runOn s =
      (.ok (), s.journaled [⟨.getNetworkConfigs, lb.id⟩]) := by
    have htake : takeFault .getNetworkConfigs s.faults = none := by
      rw [hquiet]
      rfl
    simp only [runOn, begin, htake]
    rfl
  unfold getNetworkConfigs
  rw [runOn_bind, hbegin]
  cases amphora <;> rfl

end Substrate

namespace Repository

variable {changes : List Change} {id : String}

/-- A stored load balancer is read with its amphorae in the order of their ids, and a reading of one
of these by its own id answers the same record. -/
theorem getLoadBalancer_after (h : (after {} changes).loadBalancers.contains id) :
    ∃ lb, (getLoadBalancer id).runOn (after {} changes) = (.ok lb, after {} changes) ∧
      lb.amphorae.Pairwise (fun a b => a.id < b.id) ∧
      ∀ a ∈ lb.amphorae,
        (getAmphora a.id).runOn (after {} changes) = (.ok a, after {} changes) := by
  have hanswers := answers_after changes
  obtain ⟨stored, hstored⟩ := IdMap.contains_iff.mp h
  rw [loadBalancers_after] at hstored
  obtain ⟨put, hput, -⟩ := Option.map_eq_some_iff.mp hstored
  obtain ⟨amphorae, hread, hascending, hkept⟩ := hanswers.loadBalancer hput
  exact ⟨_, hread, hascending, fun a ha => hanswers.amphora ((hkept a).mp ha).1⟩

end Repository

namespace Step

open Deployment Substrate

variable {run : Run Deployment} {changes : List Repository.Change} {id : String}

/-- After any calls on the repository, the configurations of a stored load balancer are looked up
alike in all ways where no failure is scripted. Both ways to ask for all of them answer the same
map, whose keys are the ids of the allocated amphorae; and for each of these, both ways to ask for
one answer the map with just its entry. -/
theorem network_configs_agree (hrepository : run.state.repository = Repository.after {} changes)
    (hquiet : run.state.substrate.faults = [])
    (hstored : run.state.repository.loadBalancers.contains id) :
    ∃ lb configs run', (Repository.getLoadBalancer id).runOn run.state.repository =
        (.ok lb, run.state.repository) ∧
      (allNetworkConfigs id).execute.runOn run = (.ok configs, run') ∧
      (networkConfigs id none).execute.runOn run = (.ok configs, run') ∧
      configs.keys = lb.allocatedAmphorae.map (·.id) ∧
      ∀ a ∈ lb.allocatedAmphorae, ∃ config, configs.get? a.id = some config ∧
        (amphoraNetworkConfig id a.id).execute.runOn run =
          (.ok (IdMap.empty.insert a.id config), run') ∧
        (networkConfigs id (some a.id)).execute.runOn run =
          (.ok (IdMap.empty.insert a.id config), run') := by
  rw [hrepository] at hstored
  obtain ⟨lb, hread, hascending, hamphora⟩ := Repository.getLoadBalancer_after hstored
  rw [← hrepository] at hread hamphora
  have hlb : (loadBalancer id).runOn run = (.ok lb, run) := runOn_onRepository_read hread
  have hentries := IdMap.entries_ofList (l := lb.allocatedAmphorae.map
    (run.state.substrate.configEntry lb))
    (List.pairwise_map.mpr (hascending.sublist List.filter_sublist))
  -- all four look up in one call, which leaves the same substrate
  obtain ⟨run', hconfigs⟩ : ∃ run', ∀ amphora : Option Amphora,
      (onSubstrate (getNetworkConfigs lb amphora)).runOn run =
        (.ok (.ofList ((amphora.elim lb.allocatedAmphorae fun a => [a]).map
          (run.state.substrate.configEntry lb))), run') :=
    ⟨_, fun amphora => runOn_onSubstrate_ok (runOn_getNetworkConfigs hquiet lb amphora)⟩
  refine ⟨lb, .ofList (lb.allocatedAmphorae.map (run.state.substrate.configEntry lb)), run', hread,
    ?_, ?_, ?_, fun a ha => ?_⟩
  · rw [allNetworkConfigs, runOn_bind, hlb]
    exact hconfigs none
  · rw [networkConfigs, runOn_bind, hlb]
    exact hconfigs none
  · rw [IdMap.keys, hentries, List.map_map]
    rfl
  · have hone : (amphora a.id).runOn run = (.ok a, run) :=
      runOn_onRepository_read (hamphora a (List.mem_of_mem_filter ha))
    refine ⟨run.state.substrate.networkConfig lb a, ?_, ?_, ?_⟩
    · rw [← IdMap.mem_entries_iff, hentries]
      exact List.mem_map_of_mem ha
    · rw [amphoraNetworkConfig, runOn_bind, hone]
      dsimp only
      rw [runOn_bind, hlb]
      exact hconfigs (some a)
    · have hsome : (some <$> amphora a.id : Work (Option Amphora)).runOn run =
          (.ok (some a), run) := by
        rw [map_eq_pure_bind, runOn_bind, hone]
        rfl
      rw [networkConfigs, runOn_bind, hlb]
      dsimp only
      rw [runOn_bind, hsome]
      exact hconfigs (some a)

/-- Two amphorae are stored; the second is moved to another load balancer, and the first gets its
base port. -/
def moves : List Repository.Change :=
  [.putLoadBalancer Sample.pair,
   .putLoadBalancer { Sample.loadBalancer [Sample.amphora "amp-2" "vm-2"] with id := "lb-2" },
   .updateAmphoraPorts "amp-1" (some "base-port") none]

/-- The base port exists, and the repository is as the moves have left it. -/
def moved : Run Deployment where
  context := {}
  state :=
    { substrate := after {}
        [.addSubnet (Sample.subnet "vip-subnet" "vip-net" "10.0.0.0/24"),
         .seedInterface "vm-1" { Sample.memberInterface "vip-net" "vip-subnet" with
           portId := some "base-port" }]
      repository := Repository.after {} moves }

/-- The configurations agree where an amphora was moved to another load balancer. -/
theorem network_configs_agree_moved : moved.state.substrate.faults = [] ∧
    moved.state.repository.loadBalancers.contains "lb-1" ∧
    ∃ configs config run', (allNetworkConfigs "lb-1").execute.runOn moved = (.ok configs, run') ∧
      configs.keys = ["amp-1"] ∧ config.vrrpPort.map (·.id) = some "base-port" ∧
      (amphoraNetworkConfig "lb-1" "amp-1").execute.runOn moved =
        (.ok (IdMap.empty.insert "amp-1" config), run') := by
  have hquiet : moved.state.substrate.faults = [] := by rfl
  have hstored : moved.state.repository.loadBalancers.contains "lb-1" := by decide +kernel
  let first : Amphora := { Sample.amphora "amp-1" "vm-1" with vrrpPortId := some "base-port" }
  have hallocated : ((Repository.getLoadBalancer "lb-1").runOn moved.state.repository).1.map
      (·.allocatedAmphorae) = .ok [first] := by
    decide +kernel
  have hport : (((allNetworkConfigs "lb-1").execute.runOn moved).1.toOption.bind
      (·.get? "amp-1")).bind (·.vrrpPort.map (·.id)) = some "base-port" := by
    decide +kernel
  obtain ⟨lb, configs, run', hread, hall, -, hkeys, hone⟩ :=
    network_configs_agree (show moved.state.repository = Repository.after {} moves from rfl)
      hquiet hstored
  rw [hread] at hallocated
  have hamphorae : lb.allocatedAmphorae = [first] := Except.ok.inj hallocated
  rw [hamphorae] at hkeys hone
  obtain ⟨config, hget, hsingle, -⟩ := hone first (List.mem_singleton_self first)
  rw [hall] at hport
  refine ⟨hquiet, hstored, configs, config, run', hall, hkeys, ?_, hsingle⟩
  have hentry : (configs.get? "amp-1").bind (·.vrrpPort.map (·.id)) = some "base-port" := hport
  rwa [show configs.get? "amp-1" = some config from hget] at hentry

end Step

end AmphoraWiring
