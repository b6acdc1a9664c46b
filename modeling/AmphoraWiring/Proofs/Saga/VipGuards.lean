import AmphoraWiring.Proofs.Saga.Policies
import AmphoraWiring.Proofs.Substrate.GuardedPorts
import AmphoraWiring.Saga.SecurityGroup

/-!
The steps that guard the ports of a load balancer with its security group. Whichever of them comes
first makes the group, and all runs of both together leave what one run of each leaves, in whatever
order and however often they come. Runs for other load balancers have groups of their own.
-/
namespace AmphoraWiring

open Action Deployment Substrate

/-- Different load balancers have groups of different names. -/
theorem vipSecurityGroupName_injective {id id' : String}
    (h : vipSecurityGroupName id = vipSecurityGroupName id') : id = id' := by
  unfold vipSecurityGroupName at h
  rwa [← String.toList_inj, String.toList_append, String.toList_append,
    List.append_cancel_left_eq, String.toList_inj] at h

/-- A run of one of the two steps that guard the ports of a load balancer. -/
inductive Guard where
  | vip (loadBalancerId : String)
  | amphorae (loadBalancerId : String)
deriving DecidableEq

namespace Guard

def loadBalancerId : Guard → String
  | .vip id => id
  | .amphorae id => id

/-- The name of the group that the ports are guarded with. -/
def groupName (g : Guard) : String := vipSecurityGroupName g.loadBalancerId

/-- The run; that for the amphorae gives nothing back. -/
def perform : Guard → Work (Option String)
  | .vip id => (Step.guardVip id).execute
  | .amphorae id => do
    (Step.guardAmphorae id).execute
    return none

def leaves (g : Guard) (run : Run Deployment) : Run Deployment := (g.perform.runOn run).2

/-- After one run after the other, whether they succeed or fail. -/
def after (run : Run Deployment) (guards : List Guard) : Run Deployment :=
  guards.foldl (fun run g => g.leaves run) run

/-- The ports that are to be guarded. A load balancer that is not stored has none. -/
def targets (d : Deployment) : Guard → List String
  | .vip id => (d.repository.loadBalancers.get? id).toList.flatMap fun lb => lb.vip.portId.toList
  | .amphorae id => (d.repository.loadBalancers.get? id).toList.flatMap fun _ =>
    (d.repository.amphoraeOf id).flatMap fun a => (d.substrate.basePortOf a).toList

/-- What the run gives back when it is for a load balancer that has the group. -/
def answer (groupId : String) : Guard → Option String
  | .vip _ => some groupId
  | .amphorae _ => none

/-- Groups are managed, nothing is going to fail, and records are kept under their ids. -/
structure Settled (d : Deployment) : Prop where
  quiet : d.substrate.faults = []
  enabled : d.substrate.securityGroupsEnabled = true
  own_id : ∀ {id p}, d.substrate.ports.get? id = some p → p.id = id
  harmless : d.repository.Harmless
  keyed : d.repository.Keyed

/-- `d'` comes after `d`, and in between the ports under the ids were guarded with the group. -/
structure Passed (d d' : Deployment) (name : String) (ids : List String) : Prop where
  substrate : Guarded d.substrate d'.substrate name ids
  repository : d.repository.Heard d'.repository

variable {d d' d'' : Deployment} {run : Run Deployment} {name : String} {ids ids' : List String}

namespace Passed

theorem refl (d : Deployment) (name : String) : Passed d d name [] := ⟨.refl _ _, .refl _⟩

theorem trans (h : Passed d d' name ids) (h' : Passed d' d'' name ids') :
    Passed d d'' name (ids ++ ids') :=
  ⟨h.substrate.trans h'.substrate, h.repository.trans h'.repository⟩

/-- A group that was passed to ports leaves the deployment settled. -/
theorem settled (h : Passed d d' name ids) (hd : Settled d) : Settled d' where
  quiet := h.substrate.faults.trans hd.quiet
  enabled := h.substrate.enabled.trans hd.enabled
  own_id := h.substrate.own_id hd.own_id
  harmless := h.repository.harmless hd.harmless
  keyed := h.repository.keyed hd.keyed

/-- What is to be guarded stays the same. -/
theorem targets (h : Passed d d' name ids) (g : Guard) : g.targets d' = g.targets d := by
  cases g with
  | vip id => simp only [Guard.targets, h.repository.loadBalancers]
  | amphorae id =>
    simp only [Guard.targets, h.repository.loadBalancers, Repository.amphoraeOf,
      h.repository.amphorae, h.substrate.basePortOf]

end Passed

theorem targets_missing {g : Guard}
    (hmissing : d.repository.loadBalancers.get? g.loadBalancerId = none) : g.targets d = [] := by
  cases g with
  | vip id =>
    rw [loadBalancerId] at hmissing
    simp [targets, hmissing]
  | amphorae id =>
    rw [loadBalancerId] at hmissing
    simp [targets, hmissing]

theorem ends_forM_updateAapPortSg (hd : Settled run.state) (lb : LoadBalancer)
    (amphorae : List Amphora) :
    Action.Ends (amphorae.forM fun a => onSubstrate (updateAapPortSg lb a)) run
      (fun _ run' => Passed run.state run'.state (vipSecurityGroupName lb.id)
        (amphorae.flatMap fun a => (run.state.substrate.basePortOf a).toList))
      fun _ _ => False := by
  induction amphorae generalizing run with
  | nil => exact ends_pure (.refl _ _)
  | cons a amphorae ih =>
    refine (ends_onSubstrate
      (ends_updateAapPortSg_guarding hd.quiet hd.enabled hd.own_id lb a)).bind ?_ fun _ _ h => h.1
    intro _ run₁ hend
    obtain ⟨hguarded, hrepository, -⟩ := hend
    have hfirst : Passed run.state run₁.state (vipSecurityGroupName lb.id)
        (run.state.substrate.basePortOf a).toList :=
      ⟨hguarded ▸ (Guarded.journaled _ _ _).trans (.guardWith _ _ _), hrepository ▸ .refl _⟩
    refine (ih (hfirst.settled hd)).imp_ok fun _ run₂ hrest => ?_
    have hall := hfirst.trans hrest
    simp only [hfirst.substrate.basePortOf] at hall
    exact hall

theorem ends_loadBalancer_passed (hd : Settled run.state) (id name : String) :
    (loadBalancer id).Ends run
      (fun lb run' => Passed run.state run'.state name [] ∧ lb.id = id ∧
        lb.amphorae = run.state.repository.amphoraeOf id ∧
        ∃ stored, run.state.repository.loadBalancers.get? id = some stored ∧
          lb.vip = stored.vip)
      fun _ run' => Passed run.state run'.state name [] ∧
        run.state.repository.loadBalancers.get? id = none := by
  refine (ends_onRepository (Repository.ends_getLoadBalancer id _)).mono ?_ ?_
  · intro lb run' hend
    obtain ⟨⟨hheard, stored, hstored, rfl⟩, hsubstrate, -⟩ := hend
    have hid : stored.id = id := hd.keyed.loadBalancers hstored
    exact ⟨⟨hsubstrate ▸ .refl _ _, hheard⟩, hid, rfl, stored, hstored, rfl⟩
  · intro e run' hend
    obtain ⟨⟨e', -, hheard, hnone⟩, hsubstrate, -⟩ := hend
    exact ⟨⟨hsubstrate ▸ .refl _ _, hheard⟩, hnone hd.harmless⟩

/-- A run guards its ports and makes the group, unless its load balancer is not stored; then it
does nothing. -/
theorem ends_perform (hd : Settled run.state) (g : Guard) : g.perform.Ends run
    (fun answer run' => Passed run.state run'.state g.groupName (g.targets run.state) ∧
      answer = g.answer (run.state.substrate.groupNamed g.groupName).id ∧
      (answer.isSome → run'.state.substrate.securityGroups.contains g.groupName))
    fun _ run' => Passed run.state run'.state g.groupName (g.targets run.state) ∧
      run.state.repository.loadBalancers.get? g.loadBalancerId = none := by
  cases g with
  | vip id =>
    refine (ends_loadBalancer_passed hd id (vipSecurityGroupName id)).bind ?_ ?_
    · intro lb run₁ hend
      obtain ⟨hread, rfl, -, stored, hstored, hvip⟩ := hend
      have hd₁ := hread.settled hd
      refine (ends_onSubstrate (ends_updateVipSg_guarding hd₁.quiet hd₁.enabled lb)).mono ?_
        fun _ _ h => h.1.elim
      intro answer run₂ hend
      obtain ⟨⟨rfl, hguarded⟩, hrepository, -⟩ := hend
      have hlast : Passed run₁.state run₂.state (vipSecurityGroupName lb.id)
          lb.vip.portId.toList :=
        ⟨hguarded ▸ (Guarded.journaled _ _ _).trans (.guardWith _ _ _), hrepository ▸ .refl _⟩
      refine ⟨?_, ?_, fun _ => ?_⟩
      · simp only [targets, hstored, Option.toList_some, List.flatMap_singleton, ← hvip]
        exact hread.trans hlast
      · exact congrArg (fun group => some group.id) hread.substrate.group
      · rw [hguarded, groupName, securityGroups_guardWith]
        exact IdMap.contains_iff.mpr ⟨_, IdMap.get?_insert_self _ _ _⟩
    · intro e run₁ hend
      obtain ⟨hread, hnone⟩ := hend
      exact ⟨targets_missing (g := .vip id) hnone ▸ hread, hnone⟩
  | amphorae id =>
    have hguard : (Step.guardAmphorae id).execute.Ends run
        (fun _ run' => Passed run.state run'.state (vipSecurityGroupName id)
          (targets run.state (.amphorae id)))
        fun _ run' => Passed run.state run'.state (vipSecurityGroupName id)
            (targets run.state (.amphorae id)) ∧
          run.state.repository.loadBalancers.get? id = none := by
      refine (ends_loadBalancer_passed hd id (vipSecurityGroupName id)).bind ?_ ?_
      · intro lb run₁ hend
        obtain ⟨hread, rfl, hamphorae, stored, hstored, -⟩ := hend
        refine (ends_forM_updateAapPortSg (hread.settled hd) lb lb.amphorae).mono ?_
          fun _ _ h => h.elim
        intro _ run₂ hlast
        rw [hamphorae] at hlast
        simp only [targets, hstored, Option.toList_some, List.flatMap_singleton,
          ← hread.substrate.basePortOf]
        exact hread.trans hlast
      · intro e run₁ hend
        obtain ⟨hread, hnone⟩ := hend
        exact ⟨targets_missing (g := .amphorae id) hnone ▸ hread, hnone⟩
    exact hguard.bind (fun _ _ h => ends_pure ⟨h, rfl, nofun⟩) fun _ _ h => h

/-! Runs one after the other -/

theorem after_append (guards guards' : List Guard) :
    after run (guards ++ guards') = after (after run guards) guards' := List.foldl_append

theorem passed_leaves (hd : Settled run.state) (g : Guard) :
    Passed run.state (g.leaves run).state g.groupName (g.targets run.state) := by
  have h := ((ends_perform hd g).mono (fun _ _ h => h.1) fun _ _ h => h.1).state
  exact h

/-- Runs for one load balancer pass as one. -/
theorem passed_after (hd : Settled run.state) {id : String} {guards : List Guard}
    (hown : ∀ g ∈ guards, g.loadBalancerId = id) :
    Passed run.state (after run guards).state (vipSecurityGroupName id)
      (guards.flatMap fun g => g.targets run.state) := by
  induction guards generalizing run with
  | nil => exact .refl _ _
  | cons g guards ih =>
    have hfirst := passed_leaves hd g
    rw [groupName, hown g List.mem_cons_self] at hfirst
    have hrest := ih (hfirst.settled hd) fun g' hg' => hown g' (List.mem_cons_of_mem _ hg')
    simp only [hfirst.targets] at hrest
    exact hfirst.trans hrest

/-- A run for a load balancer that is stored succeeds. -/
theorem perform_stored (hd : Settled run.state) {g : Guard}
    (hstored : (run.state.repository.loadBalancers.get? g.loadBalancerId).isSome) :
    (g.perform.runOn run).1 =
      .ok (g.answer (run.state.substrate.groupNamed g.groupName).id) := by
  have hends := ends_perform hd g
  rcases hrun : g.perform.runOn run with ⟨e | answer, run'⟩
  · have hnone := (hends.of_error hrun).2
    simp [hnone] at hstored
  · rw [(hends.of_ok hrun).2.1]

theorem eq_vip_or_eq_amphorae {g : Guard} {id : String} (hown : g.loadBalancerId = id) :
    g = .vip id ∨ g = .amphorae id := by
  subst hown
  cases g with
  | vip id => exact .inl rfl
  | amphorae id => exact .inr rfl

/-- The runs are for the load balancer, and both steps are among them. -/
structure Both (id : String) (guards : List Guard) : Prop where
  own : ∀ g ∈ guards, g.loadBalancerId = id
  vip : .vip id ∈ guards
  amphorae : .amphorae id ∈ guards

namespace Both

variable {id : String} {guards guards' : List Guard}

theorem mem_iff (h : Both id guards) {g : Guard} : g ∈ guards ↔ g.loadBalancerId = id := by
  refine ⟨h.own g, fun hown => ?_⟩
  rcases eq_vip_or_eq_amphorae hown with rfl | rfl
  · exact h.vip
  · exact h.amphorae

/-- The run for the virtual address makes the group. -/
theorem made (h : Both id guards) (hd : Settled run.state)
    (hstored : (run.state.repository.loadBalancers.get? id).isSome) :
    (after run guards).state.substrate.securityGroups.contains (vipSecurityGroupName id) := by
  obtain ⟨before, rest, rfl⟩ := List.append_of_mem h.vip
  have hbefore : Passed run.state (after run before).state (vipSecurityGroupName id)
      (before.flatMap fun g => g.targets run.state) :=
    passed_after hd fun g hg => h.own g (List.mem_append_left _ hg)
  have hd₁ := hbefore.settled hd
  have hmade : ((Guard.vip id).leaves
      (after run before)).state.substrate.securityGroups.contains (vipSecurityGroupName id) := by
    have hstored₁ : ((after run before).state.repository.loadBalancers.get? id).isSome := by
      rw [hbefore.repository.loadBalancers, hstored]
    have hends := ends_perform hd₁ (.vip id)
    have hanswer := perform_stored (g := .vip id) hd₁ hstored₁
    exact (hends.of_ok (Prod.ext hanswer rfl)).2.2 rfl
  have hrest := passed_after ((passed_leaves hd₁ (.vip id)).settled hd₁) fun g hg =>
    h.own g (List.mem_append_right _ (List.mem_cons_of_mem _ hg))
  rw [after_append]
  exact hrest.substrate.stays hmade

/-- In whatever order and however often the two steps run, they leave the same. -/
theorem same_ports (h : Both id guards) (h' : Both id guards') (hd : Settled run.state)
    (hstored : (run.state.repository.loadBalancers.get? id).isSome) :
    (after run guards).state.substrate.ports = (after run guards').state.substrate.ports ∧
      (after run guards).state.substrate.securityGroups =
        (after run guards').state.substrate.securityGroups := by
  have hpassed := (passed_after hd h.own).substrate
  have hpassed' := (passed_after hd h'.own).substrate
  constructor
  · rw [hpassed.ports, hpassed'.ports]
    refine guardPorts_congr (fun portId => ?_) _
    simp only [List.mem_flatMap, h.mem_iff, h'.mem_iff]
  · rw [hpassed.securityGroups (h.made hd hstored), hpassed'.securityGroups (h'.made hd hstored)]

end Both

/-- The ports of the load balancer are guarded with the group. -/
structure Standing (d : Deployment) (id : String) (group : SecurityGroup) : Prop where
  settled : Settled d
  apart : d.substrate.GroupsApart
  stored : (d.repository.loadBalancers.get? id).isSome
  made : d.substrate.securityGroups.get? (vipSecurityGroupName id) = some group
  carried : ∀ g : Guard, g.loadBalancerId = id → ∀ portId ∈ g.targets d,
    d.substrate.ports.contains portId → d.substrate.Carries group.id portId

/-- Once both guards have run, the group is made and its ports are covered. -/
theorem Both.standing {id : String} {guards : List Guard} (h : Both id guards)
    (hd : Settled run.state) (hapart : run.state.substrate.GroupsApart)
    (hstored : (run.state.repository.loadBalancers.get? id).isSome) :
    Standing (after run guards).state id
      (run.state.substrate.groupNamed (vipSecurityGroupName id)) := by
  have hpassed := passed_after hd h.own
  constructor
  case settled => exact hpassed.settled hd
  case apart => exact hpassed.substrate.apart hapart
  case stored => rw [hpassed.repository.loadBalancers, hstored]
  case made => rw [get?_groupNamed (h.made hd hstored), hpassed.substrate.group]
  case carried =>
    intro g hg portId hportId hport
    rw [hpassed.targets] at hportId
    rw [hpassed.substrate.contains_port] at hport
    exact hpassed.substrate.carries (List.mem_flatMap.mpr ⟨g, h.mem_iff.mpr hg, hportId⟩) hport

namespace Standing

variable {id : String} {group : SecurityGroup}

theorem groupNamed_eq (h : Standing d id group) :
    d.substrate.groupNamed (vipSecurityGroupName id) = group := groupNamed_of_get? h.made

/-- No run whatever changes the group or which ports have it. -/
theorem leaves (h : Standing run.state id group) (g : Guard) :
    Standing (g.leaves run).state id group ∧ ∀ portId,
      (g.leaves run).state.substrate.Carries group.id portId ↔
        run.state.substrate.Carries group.id portId := by
  have hpassed := passed_leaves h.settled g
  have hgroup : (g.leaves run).state.substrate.securityGroups.get? (vipSecurityGroupName id) =
      some group := by
    by_cases hown : g.loadBalancerId = id
    · have hmade := hpassed.substrate.stays
      rw [groupName, hown] at hpassed hmade
      rw [get?_groupNamed (hmade (IdMap.contains_iff.mpr ⟨group, h.made⟩)),
        hpassed.substrate.group, h.groupNamed_eq]
    · rw [hpassed.substrate.others _ fun heq => hown (vipSecurityGroupName_injective heq).symm,
        h.made]
  have hcarries : ∀ portId, (g.leaves run).state.substrate.Carries group.id portId ↔
      run.state.substrate.Carries group.id portId := by
    by_cases hown : g.loadBalancerId = id
    · rw [groupName, hown] at hpassed
      have hports := hpassed.substrate.ports_eq_self fun portId hmem hport =>
        h.groupNamed_eq ▸ h.carried g hown portId hmem hport
      intro portId
      unfold Carries
      rw [hports]
    · exact hpassed.substrate.carries_iff
        (h.apart.ne h.made fun heq => hown (vipSecurityGroupName_injective heq))
  refine ⟨⟨hpassed.settled h.settled, hpassed.substrate.apart h.apart, ?_, hgroup, ?_⟩, hcarries⟩
  · rw [hpassed.repository.loadBalancers, h.stored]
  · intro g' hown portId hmem hport
    rw [hpassed.targets] at hmem
    rw [hpassed.substrate.contains_port] at hport
    exact (hcarries portId).mpr (h.carried g' hown portId hmem hport)

/-- Further guards change nothing about a group that stands. -/
theorem after (h : Standing run.state id group) (guards : List Guard) :
    Standing (Guard.after run guards).state id group ∧ ∀ portId,
      (Guard.after run guards).state.substrate.Carries group.id portId ↔
        run.state.substrate.Carries group.id portId := by
  induction guards generalizing run with
  | nil => exact ⟨h, fun _ => .rfl⟩
  | cons g guards ih =>
    obtain ⟨hfirst, hcarries⟩ := h.leaves g
    obtain ⟨hrest, hcarries'⟩ := ih hfirst
    exact ⟨hrest, fun portId => (hcarries' portId).trans (hcarries portId)⟩

/-- The group is given back by the runs for the load balancer, and by no other run. -/
theorem perform_own (h : Standing run.state id group) {g : Guard}
    (hown : g.loadBalancerId = id) : (g.perform.runOn run).1 = .ok (g.answer group.id) := by
  have hanswer := perform_stored h.settled (g := g) (hown ▸ h.stored)
  rwa [groupName, hown, h.groupNamed_eq] at hanswer

theorem perform_other (h : Standing run.state id group) {g : Guard}
    (hother : g.loadBalancerId ≠ id) : (g.perform.runOn run).1 ≠ .ok (some group.id) := by
  intro hanswer
  have hends := ends_perform h.settled g
  have hshared := (hends.of_ok (Prod.ext hanswer rfl)).2.1
  cases g with
  | amphorae other => cases hshared
  | vip other =>
    have hne : vipSecurityGroupName other ≠ vipSecurityGroupName id := fun heq =>
      hother (vipSecurityGroupName_injective heq)
    exact h.apart.ne h.made hne (Option.some.inj hshared).symm

/-- A group that stands is found. -/
theorem findVipGroup (h : Standing run.state id group) :
    ((Step.findVipGroup id).execute.runOn run).1 = .ok (some group.id) := by
  have hends : (Step.findVipGroup id).execute.Ends run (fun answer _ => answer = some group.id)
      fun _ _ => False := by
    refine Flow.ends_outcome (ends_onSubstrate (ends_getSecurityGroup_made h.settled.quiet
      (IdMap.contains_iff.mpr ⟨group, h.made⟩))) ?_ fun _ _ hend => hend.1.elim
    intro found run' hend
    obtain ⟨⟨rfl, -⟩, -⟩ := hend
    exact ends_pure (congrArg (fun group => some group.id) h.groupNamed_eq)
  obtain ⟨answer, run', hrun, rfl⟩ := hends.value
  rw [hrun]

end Standing

/-- Every run for a load balancer succeeds and gives back one group, if any, and adds that group to
ports that lack it. Once both steps have run, in whatever order and however often, the ports and
groups are those that one run of each leaves; the virtual port and the base ports have the group.
From then on no run for any load balancer changes the group or who has it, and only those for this
one give it back. -/
theorem guards_idempotent_commute (hd : Settled run.state)
    (hapart : run.state.substrate.GroupsApart) {id : String} {lb : LoadBalancer}
    (hlb : run.state.repository.loadBalancers.get? id = some lb) :
    ∃ group : SecurityGroup,
      (∀ guards : List Guard, (∀ g ∈ guards, g.loadBalancerId = id) →
        ∀ g : Guard, g.loadBalancerId = id →
          (g.perform.runOn (after run guards)).1 = .ok (g.answer group.id) ∧
          (after run guards).state.substrate.Adds group.id
            (g.leaves (after run guards)).state.substrate) ∧
      ∀ guards, Both id guards →
        let guarded := (after run guards).state.substrate
        (∀ once ∈ [[Guard.vip id, .amphorae id], [.amphorae id, .vip id]],
          guarded.ports = (after run once).state.substrate.ports ∧
          guarded.securityGroups = (after run once).state.substrate.securityGroups) ∧
        (∀ portId ∈ lb.vip.portId, guarded.ports.contains portId →
          guarded.Carries group.id portId) ∧
        (∀ a ∈ run.state.repository.amphoraeOf id, ∀ portId ∈ guarded.basePortOf a,
          guarded.Carries group.id portId) ∧
        ∀ later : List Guard, let run' := after run (guards ++ later)
          run'.state.substrate.securityGroups.get? (vipSecurityGroupName id) = some group ∧
          ((Step.findVipGroup id).execute.runOn run').1 = .ok (some group.id) ∧
          (∀ g : Guard, g.loadBalancerId = id →
            (g.perform.runOn run').1 = .ok (g.answer group.id)) ∧
          (∀ g : Guard, g.loadBalancerId ≠ id →
            (g.perform.runOn run').1 ≠ .ok (some group.id)) ∧
          ∀ portId, run'.state.substrate.Carries group.id portId ↔
            guarded.Carries group.id portId := by
  have hstored : (run.state.repository.loadBalancers.get? id).isSome := by rw [hlb]; rfl
  refine ⟨run.state.substrate.groupNamed (vipSecurityGroupName id), ?_, ?_⟩
  · intro guards hown g hg
    have hpassed := passed_after hd hown
    have hd' := hpassed.settled hd
    have hadds := (passed_leaves hd' g).substrate.adds
    have hanswer := perform_stored (g := g) hd'
      (by rw [hpassed.repository.loadBalancers, hg, hstored])
    rw [groupName, hg, hpassed.substrate.group] at hadds hanswer
    exact ⟨hanswer, hadds⟩
  · intro guards hboth guarded
    have hstanding := hboth.standing hd hapart hstored
    have hpassed := passed_after hd hboth.own
    refine ⟨?_, ?_, ?_, ?_⟩
    · intro once honce
      have hboth' : Both id once := by
        simp only [List.mem_cons, List.not_mem_nil, or_false] at honce
        rcases honce with rfl | rfl <;> exact ⟨by simp [loadBalancerId], by simp, by simp⟩
      exact hboth.same_ports hboth' hd hstored
    · intro portId hportId hport
      refine hstanding.carried (.vip id) rfl portId ?_ hport
      rw [hpassed.targets, targets, hlb]
      simpa using hportId
    · intro a ha portId hportId
      refine hstanding.carried (.amphorae id) rfl portId ?_
        (contains_basePortOf hstanding.settled.own_id hportId)
      rw [hpassed.targets, targets, hlb]
      rw [Option.mem_def, hpassed.substrate.basePortOf] at hportId
      simpa using ⟨a, ha, hportId⟩
    · intro later run'
      obtain ⟨hlater, hcarries⟩ := hstanding.after later
      rw [← after_append] at hlater hcarries
      exact ⟨hlater.made, hlater.findVipGroup, fun g => hlater.perform_own,
        fun g => hlater.perform_other, hcarries⟩

end Guard

namespace Sample

/-- The virtual port is the base port of the first amphora at the same time. -/
def sharing : LoadBalancer :=
  { loadBalancer
      [{ amphora "amp-1" "vm-1" with vrrpPortId := some (drawnId 1) },
       { amphora "amp-2" "vm-2" with vrrpPortId := some (drawnId 2) }] with
    vip := { subnetId := "vip-subnet", networkId := "vip-net", portId := some (drawnId 1) } }

/-- Groups are managed, and the port under the id has a group of the users. -/
def shielded (s : Substrate) (id : String) : Substrate :=
  ({ s with securityGroupsEnabled := true } : Substrate).guardWith "web" [id]

theorem own_id_shielded {s : Substrate} (hs : s.Sound) (portId : String) {id : String} {p : Port}
    (hp : (shielded s portId).ports.get? id = some p) : p.id = id :=
  (Guarded.guardWith { s with securityGroupsEnabled := true } "web" [portId]).own_id hs.own_id hp

theorem groupsApart_shielded {s : Substrate} (hs : s.securityGroups.entries = [])
    (portId : String) : (shielded s portId).GroupsApart :=
  GroupsApart.guardWith (s := { s with securityGroupsEnabled := true })
    (groupsApart_of_none hs) "web" [portId]

/-- The load balancer is stored, and its virtual port has a group of the users already. -/
def startSharing : Run Deployment where
  context := {}
  state :=
    { substrate := shielded substrate (drawnId 1)
      repository := Repository.store {} sharing }

theorem settled_startSharing : Guard.Settled startSharing.state where
  quiet := by decide +kernel
  enabled := by decide +kernel
  own_id := own_id_shielded substrate_fit.1 (drawnId 1)
  harmless := Repository.harmless_of_script_nil rfl
  keyed := Repository.keyed_empty.store sharing

end Sample

namespace Guard

/-- The amphorae are guarded twice and the virtual address in between. -/
theorem guards_idempotent_commute_sharing :
    let guards := [Guard.amphorae "lb-1", .vip "lb-1", .amphorae "lb-1"]
    (after Sample.startSharing guards).state.substrate.ports =
        (after Sample.startSharing [.vip "lb-1", .amphorae "lb-1"]).state.substrate.ports ∧
      ∃ groupId, ((Step.findVipGroup "lb-1").execute.runOn
          (after Sample.startSharing guards)).1 = .ok (some groupId) ∧
        (after Sample.startSharing guards).state.substrate.Carries groupId (drawnId 1) ∧
        (after Sample.startSharing guards).state.substrate.Carries groupId (drawnId 2) := by
  intro guards
  have hnone : Sample.substrate.securityGroups.entries = [] := by decide +kernel
  have hapart : Sample.startSharing.state.substrate.GroupsApart :=
    Sample.groupsApart_shielded hnone (drawnId 1)
  have hlb : Sample.startSharing.state.repository.loadBalancers.get? "lb-1" =
      some { Sample.sharing with amphorae := [] } := by
    decide +kernel
  have hboth : Both "lb-1" guards := ⟨by decide, by decide, by decide⟩
  obtain ⟨group, -, hguarded⟩ :=
    guards_idempotent_commute Sample.settled_startSharing hapart hlb
  obtain ⟨honce, -, hbase, hlater⟩ := hguarded guards hboth
  have hfound := (hlater []).2.1
  rw [List.append_nil] at hfound
  have hfirst := hbase { Sample.amphora "amp-1" "vm-1" with vrrpPortId := some (drawnId 1) }
    (by decide +kernel) (drawnId 1) (by rw [Option.mem_def]; decide +kernel)
  have hsecond := hbase { Sample.amphora "amp-2" "vm-2" with vrrpPortId := some (drawnId 2) }
    (by decide +kernel) (drawnId 2) (by rw [Option.mem_def]; decide +kernel)
  exact ⟨(honce [.vip "lb-1", .amphorae "lb-1"] List.mem_cons_self).1, group.id, hfound, hfirst,
    hsecond⟩

end Guard

end AmphoraWiring
