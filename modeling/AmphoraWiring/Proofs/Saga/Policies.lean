import AmphoraWiring.Proofs.Bookkeeping
import AmphoraWiring.Proofs.Seeding
import AmphoraWiring.Proofs.Substrate.Addresses
import AmphoraWiring.Saga.Quality

/-!
Which base ports the policy of a virtual address is brought to, and what becomes of them when that
is reverted. Whether there is anything to revert is told from the request, and not from what was
brought to the ports: where the request names the policy in force next to an update that sets
another one, the ports keep the one of the update.
-/
namespace AmphoraWiring

open Action

def Port.withPolicy (policyId : Option String) (p : Port) : Port :=
  { p with qosPolicyId := policyId }

@[simp] theorem Port.withPolicy_withPolicy (p : Port) (policyId policyId' : Option String) :
    (p.withPolicy policyId).withPolicy policyId' = p.withPolicy policyId' := rfl

namespace Substrate

/-- After a call that was to bring the policy to the port. If the port does not exist, the call is
all that there was. -/
def applyPolicy (policyId : Option String) (s : Substrate) (portId : String) : Substrate :=
  (s.journaled [⟨.applyQosOnPort, portId ++ "=" ++ policyId.getD "none"⟩]).amend portId
    (·.withPolicy policyId)

def applyPolicies (s : Substrate) (policyId : Option String) (portIds : List String) : Substrate :=
  portIds.foldl (applyPolicy policyId) s

variable {s : Substrate} {policyId : Option String}

@[simp] theorem faults_applyPolicies (portIds : List String) :
    (s.applyPolicies policyId portIds).faults = s.faults := by
  induction portIds generalizing s with
  | nil => rfl
  | cons portId portIds ih => exact ih

theorem applyPolicies_append (portIds portIds' : List String) :
    (s.applyPolicies policyId portIds).applyPolicies policyId portIds' =
      s.applyPolicies policyId (portIds ++ portIds') := List.foldl_append.symm

/-- The ports have the policy then, and nothing else has changed about any port. -/
theorem get?_applyPolicies (portIds : List String) (id : String) :
    (s.applyPolicies policyId portIds).ports.get? id =
      if id ∈ portIds then (s.ports.get? id).map (·.withPolicy policyId) else s.ports.get? id := by
  induction portIds generalizing s with
  | nil => rfl
  | cons portId portIds ih =>
    have hcons : s.applyPolicies policyId (portId :: portIds) =
        (s.applyPolicy policyId portId).applyPolicies policyId portIds := rfl
    have hhead : (s.applyPolicy policyId portId).ports.get? id =
        if id = portId then (s.ports.get? id).map (·.withPolicy policyId)
        else s.ports.get? id := IdMap.get?_modify _ _ _ _
    rw [hcons, ih, hhead]
    by_cases hid : id = portId
    · subst hid
      simp [Function.comp_def]
    · simp [hid]

theorem contains_applyPolicies (portIds : List String) (id : String) :
    (s.applyPolicies policyId portIds).ports.contains id = s.ports.contains id := by
  unfold IdMap.contains
  rw [get?_applyPolicies]
  split
  · exact Option.isSome_map
  · rfl

theorem ends_applyQosOnPort (hquiet : s.faults = []) (policyId : Option String)
    (portId : String) : (applyQosOnPort policyId portId).Ends s
      (fun _ t => t = s.applyPolicy policyId portId ∧ s.ports.contains portId)
      fun _ t => t = s.applyPolicy policyId portId ∧ s.ports.contains portId = false := by
  refine ends_quiet hquiet ((ends_updatePort portId _ _).bind ?_ ?_)
  · intro q t hend
    obtain ⟨rfl, p, hget, -⟩ := hend
    exact ends_pure ⟨rfl, IdMap.contains_iff.mpr ⟨p, hget⟩⟩
  · intro e t hend
    obtain ⟨rfl, hnone⟩ := hend
    refine ⟨(amend_eq_self fun p hget => ?_).symm, IdMap.contains_eq_false_iff.mpr hnone⟩
    rw [hnone] at hget
    cases hget

end Substrate

namespace Step

open Deployment Substrate

/-- The repository was asked, and nothing else was done. -/
structure Consulted (d d' : Deployment) : Prop where
  substrate : d'.substrate = d.substrate
  repository : d.repository.Heard d'.repository
  audit : d'.audit = d.audit

/-- The policy was brought to the ports, and nothing but that was done. -/
structure Spread (policyId : Option String) (portIds : List String) (d d' : Deployment) :
    Prop where
  substrate : d'.substrate = d.substrate.applyPolicies policyId portIds
  repository : d.repository.Heard d'.repository
  audit : d'.audit = d.audit

variable {run : Run Deployment} {policyId : Option String} {portIds portIds' : List String}
  {d d' d'' : Deployment} {lb stored : LoadBalancer} {as : List Amphora}

namespace Consulted

theorem refl (d : Deployment) : Consulted d d := ⟨rfl, .refl _, rfl⟩

theorem trans (h : Consulted d d') (h' : Consulted d' d'') : Consulted d d'' :=
  ⟨h'.substrate.trans h.substrate, h.repository.trans h'.repository, h'.audit.trans h.audit⟩

theorem spread (h : Consulted d d') (h' : Spread policyId portIds d' d'') :
    Spread policyId portIds d d'' :=
  ⟨h.substrate ▸ h'.substrate, h.repository.trans h'.repository, h'.audit.trans h.audit⟩

end Consulted

namespace Spread

theorem nothing (policyId : Option String) (d : Deployment) : Spread policyId [] d d :=
  ⟨rfl, .refl _, rfl⟩

theorem trans (h : Spread policyId portIds d d') (h' : Spread policyId portIds' d' d'') :
    Spread policyId (portIds ++ portIds') d d'' where
  substrate := by rw [h'.substrate, h.substrate, applyPolicies_append]
  repository := h.repository.trans h'.repository
  audit := h'.audit.trans h.audit

theorem quiet (h : Spread policyId portIds d d') (hquiet : d.substrate.faults = []) :
    d'.substrate.faults = [] := by
  rw [h.substrate, faults_applyPolicies, hquiet]

theorem contains (h : Spread policyId portIds d d') (id : String) :
    d'.substrate.ports.contains id = d.substrate.ports.contains id := by
  rw [h.substrate, contains_applyPolicies]

end Spread

/-- The base ports of the amphorae that have one. -/
def basePorts (amphorae : List Amphora) : List String :=
  amphorae.flatMap fun a => a.vrrpPortId.toList

theorem ends_setPolicy (hquiet : run.state.substrate.faults = []) (policyId : Option String)
    (amphora : Amphora) : (setPolicy policyId amphora).Ends run
      (fun _ run' => Spread policyId amphora.vrrpPortId.toList run.state run'.state ∧
        ∀ id ∈ amphora.vrrpPortId, run.state.substrate.ports.contains id)
      fun _ run' => Spread policyId amphora.vrrpPortId.toList run.state run'.state ∧
        ∃ id ∈ amphora.vrrpPortId, run.state.substrate.ports.contains id = false := by
  unfold setPolicy
  cases amphora.vrrpPortId with
  | none => exact ends_pure ⟨.nothing _ _, nofun⟩
  | some portId =>
    refine (ends_onSubstrate (ends_applyQosOnPort hquiet policyId portId)).mono ?_ ?_
    · intro _ run' hend
      obtain ⟨⟨hsubstrate, hport⟩, hrepository, haudit⟩ := hend
      refine ⟨⟨hsubstrate, hrepository ▸ .refl _, haudit⟩, fun id hid => ?_⟩
      cases hid
      exact hport
    · intro e run' hend
      obtain ⟨⟨hsubstrate, hport⟩, hrepository, haudit⟩ := hend
      exact ⟨⟨hsubstrate, hrepository ▸ .refl _, haudit⟩, portId, rfl, hport⟩

/-- Spreading goes through the amphorae up to the first base port that does not exist. -/
theorem ends_forM_setPolicy (hquiet : run.state.substrate.faults = [])
    (policyId : Option String) (amphorae : List Amphora) :
    Action.Ends (amphorae.forM (setPolicy policyId)) run
      (fun _ run' => Spread policyId (basePorts amphorae) run.state run'.state ∧
        ∀ id ∈ basePorts amphorae, run.state.substrate.ports.contains id)
      fun _ _ => ∃ id ∈ basePorts amphorae, run.state.substrate.ports.contains id = false := by
  induction amphorae generalizing run with
  | nil => exact ends_pure ⟨.nothing _ _, nofun⟩
  | cons a amphorae ih =>
    refine (ends_setPolicy hquiet policyId a).bind ?_ ?_
    · intro _ run₁ hend
      obtain ⟨hspread, hport⟩ := hend
      apply (ih (hspread.quiet hquiet)).mono
      · intro _ run₂ hend
        obtain ⟨hspread', hports⟩ := hend
        refine ⟨hspread.trans hspread', fun id hid => ?_⟩
        rcases List.mem_append.mp hid with hid | hid
        · exact hport id (Option.mem_toList.mp hid)
        · exact hspread.contains id ▸ hports id hid
      · intro e run₂ hend
        obtain ⟨id, hid, hmissing⟩ := hend
        exact ⟨id, List.mem_append_right _ hid, hspread.contains id ▸ hmissing⟩
    · intro e run₁ hend
      obtain ⟨-, id, hid, hmissing⟩ := hend
      exact ⟨id, List.mem_append_left _ (Option.mem_toList.mpr hid), hmissing⟩

/-- Where failures are passed over, all of the amphorae are gone through. -/
theorem ends_forM_outcome_setPolicy (hquiet : run.state.substrate.faults = [])
    (policyId : Option String) (amphorae : List Amphora) :
    Action.Ends (amphorae.forM fun a => do let _ ← Flow.outcome (setPolicy policyId a)) run
      (fun _ run' => Spread policyId (basePorts amphorae) run.state run'.state)
      fun _ _ => False := by
  induction amphorae generalizing run with
  | nil => exact ends_pure (.nothing _ _)
  | cons a amphorae ih =>
    have hhead : Action.Ends (do let _ ← Flow.outcome (setPolicy policyId a)) run
        (fun _ run' => Spread policyId a.vrrpPortId.toList run.state run'.state)
        fun _ _ => False :=
      Flow.ends_attempt ((ends_setPolicy hquiet policyId a).mono (fun _ _ h => h.1)
        fun _ _ h => h.1) fun _ _ h => ends_pure h
    refine hhead.bind ?_ (fun _ _ h => h)
    intro _ run₁ hspread
    exact (ih (hspread.quiet hquiet)).imp_ok fun _ _ hspread' => hspread.trans hspread'

/-- The amphorae that are gone through: the allocated ones of those given, or else of those in the
repository. -/
def chosen (r : Repository) (lb : LoadBalancer) (amphorae : Option (List Amphora)) :
    List Amphora :=
  (amphorae.getD (r.amphoraeOf lb.id)).filter (·.isAllocated)

theorem chosen_heard {r r' : Repository} (h : r.Heard r') : chosen r' = chosen r := by
  funext lb amphorae
  simp only [chosen, Repository.amphoraeOf, h.amphorae]

/-- A load balancer that is stored can be read time and again. -/
theorem ends_loadBalancer (hconsulted : Consulted d run.state) (hharmless : d.repository.Harmless)
    (hstored : d.repository.loadBalancers.get? lb.id = some stored) :
    (loadBalancer lb.id).Ends run
      (fun read run' => Consulted d run'.state ∧
        read = { stored with amphorae := d.repository.amphoraeOf lb.id })
      fun _ _ => False := by
  have hheard := hconsulted.repository
  refine (ends_onRepository_sure (Repository.ends_getLoadBalancer_stored (hheard.harmless hharmless)
    (hheard.loadBalancers ▸ hstored))).imp_ok ?_
  intro read run' hend
  obtain ⟨⟨rfl, hheard'⟩, hsubstrate, haudit⟩ := hend
  refine ⟨hconsulted.trans ⟨hsubstrate, hheard', haudit⟩, ?_⟩
  simp only [Repository.amphoraeOf, hheard.amphorae]

theorem ends_amphoraeToChange (hconsulted : Consulted d run.state)
    (hharmless : d.repository.Harmless)
    (hstored : d.repository.loadBalancers.get? lb.id = some stored)
    (amphorae : Option (List Amphora)) :
    (amphoraeToChange lb amphorae).Ends run
      (fun as run' => Consulted d run'.state ∧ as = chosen d.repository lb amphorae)
      fun _ _ => False := by
  cases amphorae with
  | some amphorae => exact ends_pure ⟨hconsulted, rfl⟩
  | none =>
    refine (ends_loadBalancer hconsulted hharmless hstored).bind ?_ fun _ _ h => h.elim
    intro read run' hend
    obtain ⟨hconsulted', rfl⟩ := hend
    exact ends_pure ⟨hconsulted', rfl⟩

/-- The policy that is brought to the ports: the one that the update sets, or else the one in
force. -/
def applied (stored : LoadBalancer) (update : Option LoadBalancerUpdate) : Option String :=
  (update.bind (·.requestedQos)).or stored.vip.qosPolicyId

/-- The ports that a policy is brought to. There are none if no policy is in force and the update
leaves it at that. -/
def written (r : Repository) (lb : LoadBalancer) (amphorae : Option (List Amphora))
    (stored : LoadBalancer) (update : Option LoadBalancerUpdate) : List String :=
  if stored.vip.qosPolicyId.isNone && !update.any (·.touchesQos) then []
  else basePorts (chosen r lb amphorae)

theorem written_subset (r : Repository) (lb : LoadBalancer) (amphorae : Option (List Amphora))
    (stored : LoadBalancer) (update : Option LoadBalancerUpdate) :
    written r lb amphorae stored update ⊆ basePorts (chosen r lb amphorae) := by
  unfold written
  split
  · exact List.nil_subset _
  · exact List.Subset.refl _

/-- Without failures the policy is brought to the ports exactly if they all exist. -/
theorem ends_spreadPolicy (hquiet : run.state.substrate.faults = [])
    (hharmless : run.state.repository.Harmless)
    (hstored : run.state.repository.loadBalancers.get? lb.id = some stored)
    (amphorae : Option (List Amphora)) (update : Option LoadBalancerUpdate) :
    (spreadPolicy lb amphorae update).Ends run
      (fun _ run' => Spread (applied stored update)
          (written run.state.repository lb amphorae stored update)
          run.state run'.state ∧
        ∀ id ∈ written run.state.repository lb amphorae stored update,
          run.state.substrate.ports.contains id)
      fun _ _ => ∃ id ∈ written run.state.repository lb amphorae stored update,
        run.state.substrate.ports.contains id = false := by
  unfold spreadPolicy
  refine (ends_loadBalancer (.refl _) hharmless hstored).bind ?_ fun _ _ h => h.elim
  intro read run₁ hend
  obtain ⟨hconsulted, rfl⟩ := hend
  by_cases hidle : stored.vip.qosPolicyId.isNone && !update.any (·.touchesQos)
  · simp only [written, hidle, if_true]
    exact ends_pure ⟨hconsulted.spread (.nothing _ _), nofun⟩
  · simp only [written, hidle]
    refine (ends_amphoraeToChange hconsulted hharmless hstored amphorae).bind ?_ fun _ _ h => h.elim
    intro as run₂ hend
    obtain ⟨hconsulted, rfl⟩ := hend
    have hspread := ends_forM_setPolicy (hconsulted.substrate ▸ hquiet)
      (applied stored update) (chosen run.state.repository lb amphorae)
    rw [hconsulted.substrate] at hspread
    exact hspread.imp_ok fun _ _ h => ⟨hconsulted.spread h.1, h.2⟩

theorem ends_restorePolicy (hquiet : run.state.substrate.faults = [])
    (hharmless : run.state.repository.Harmless)
    (hstored : run.state.repository.loadBalancers.get? lb.id = some stored)
    (amphorae : Option (List Amphora)) :
    (restorePolicy lb amphorae).Ends run
      (fun _ run' => Spread stored.vip.qosPolicyId
        (if lb.vip.qosPolicyId = stored.vip.qosPolicyId then []
          else basePorts (chosen run.state.repository lb amphorae)) run.state run'.state)
      fun _ _ => False := by
  unfold restorePolicy
  refine (ends_loadBalancer (.refl _) hharmless hstored).bind ?_ fun _ _ h => h.elim
  intro read run₁ hend
  obtain ⟨hconsulted, rfl⟩ := hend
  by_cases hsame : lb.vip.qosPolicyId = stored.vip.qosPolicyId
  · simp only [hsame, if_true]
    exact ends_pure (hconsulted.spread (.nothing _ _))
  · simp only [hsame, if_false]
    refine (ends_amphoraeToChange hconsulted hharmless hstored amphorae).bind ?_ fun _ _ h => h.elim
    intro as run₂ hend
    obtain ⟨hconsulted, rfl⟩ := hend
    exact (ends_forM_outcome_setPolicy (hconsulted.substrate ▸ hquiet) _ _).imp_ok
      fun _ _ h => hconsulted.spread h

theorem ends_revert_applyQos (hquiet : run.state.substrate.faults = [])
    (hharmless : run.state.repository.Harmless)
    (hstored : run.state.repository.loadBalancers.get? lb.id = some stored)
    (amphorae : Option (List Amphora)) (update : Option LoadBalancerUpdate) :
    Effect.Ends ((applyQos lb amphorae update).revert ()) run fun _ run' =>
      Spread stored.vip.qosPolicyId (if lb.vip.qosPolicyId = stored.vip.qosPolicyId then []
        else basePorts (chosen run.state.repository lb amphorae)) run.state run'.state :=
  Effect.ends_settle (ends_restorePolicy hquiet hharmless hstored amphorae)
    (fun _ _ h => Effect.ends_pure h) fun _ _ h => h.elim

/-- The policy that the ports are left with after reverting. -/
def leftWith (lb stored : LoadBalancer) (update : Option LoadBalancerUpdate) : Option String :=
  if lb.vip.qosPolicyId = stored.vip.qosPolicyId then applied stored update
  else stored.vip.qosPolicyId

theorem leftWith_eq_iff (lb stored : LoadBalancer) (update : Option LoadBalancerUpdate) :
    leftWith lb stored update = stored.vip.qosPolicyId ↔
      lb.vip.qosPolicyId ≠ stored.vip.qosPolicyId ∨
        applied stored update = stored.vip.qosPolicyId := by
  unfold leftWith
  split
  next hsame => simp [hsame]
  next hother => simp [hother]

/-- Every port after executing and reverting. -/
theorem get?_reverted {portIds : List String} {run₁ run₂ : Run Deployment}
    {update : Option LoadBalancerUpdate}
    (hsubset : portIds ⊆ basePorts as)
    (hspread : Spread (applied stored update) portIds run.state run₁.state)
    (hback : Spread stored.vip.qosPolicyId (if lb.vip.qosPolicyId = stored.vip.qosPolicyId then []
      else basePorts as) run₁.state run₂.state) (id : String) :
    run₂.state.substrate.ports.get? id =
      if id ∈ portIds then
        (run.state.substrate.ports.get? id).map (·.withPolicy (leftWith lb stored update))
      else if id ∈ basePorts as ∧ lb.vip.qosPolicyId ≠ stored.vip.qosPolicyId then
        (run.state.substrate.ports.get? id).map (·.withPolicy stored.vip.qosPolicyId)
      else run.state.substrate.ports.get? id := by
  rw [hback.substrate, hspread.substrate, get?_applyPolicies, get?_applyPolicies]
  by_cases hsame : lb.vip.qosPolicyId = stored.vip.qosPolicyId
  · simp [leftWith, hsame]
  · by_cases hid : id ∈ portIds
    · simp [leftWith, hsame, hid, hsubset hid, Function.comp_def]
    · simp [hsame, hid]

/-- Reverting brings the policy in force back to the ports exactly if the request named another
one, or if none but that was brought to them. -/
theorem applyQos_restores_iff (hquiet : run.state.substrate.faults = [])
    (hharmless : run.state.repository.Harmless)
    (hstored : run.state.repository.loadBalancers.get? lb.id = some stored)
    (amphorae : Option (List Amphora)) (update : Option LoadBalancerUpdate)
    {run₁ run₂ : Run Deployment}
    (hexecute : (applyQos lb amphorae update).execute.runOn run = (.ok (), run₁))
    (hrevert : ((applyQos lb amphorae update).revert ()).run run₁ = ((), run₂)) :
    run₁.state.substrate = run.state.substrate.applyPolicies (applied stored update)
      (written run.state.repository lb amphorae stored update) ∧
    (∀ id ∈ written run.state.repository lb amphorae stored update,
      ∃ p, run.state.substrate.ports.get? id = some p ∧
        run₂.state.substrate.ports.get? id = some (p.withPolicy (leftWith lb stored update))) ∧
    (∀ id ∉ basePorts (chosen run.state.repository lb amphorae),
      run₂.state.substrate.ports.get? id = run.state.substrate.ports.get? id) ∧
    ((∀ id ∈ written run.state.repository lb amphorae stored update,
        ∃ p ∈ run₂.state.substrate.ports.get? id, p.qosPolicyId = stored.vip.qosPolicyId) ↔
      written run.state.repository lb amphorae stored update = [] ∨
        lb.vip.qosPolicyId ≠ stored.vip.qosPolicyId ∨
          applied stored update = stored.vip.qosPolicyId) := by
  have hsubset := written_subset run.state.repository lb amphorae stored update
  obtain ⟨hspread, hports⟩ :=
    (ends_spreadPolicy hquiet hharmless hstored amphorae update).of_ok hexecute
  have hheard := hspread.repository
  have hback : Spread _ _ run₁.state (((applyQos lb amphorae update).revert ()).run run₁).2.state :=
    (ends_revert_applyQos (hspread.quiet hquiet) (hheard.harmless hharmless)
      (hheard.loadBalancers ▸ hstored) amphorae update).state
  rw [hrevert, chosen_heard hheard] at hback
  have hget := get?_reverted hsubset hspread hback
  have hleft : ∀ id ∈ written run.state.repository lb amphorae stored update,
      ∃ p, run.state.substrate.ports.get? id = some p ∧
        run₂.state.substrate.ports.get? id = some (p.withPolicy (leftWith lb stored update)) := by
    intro id hid
    obtain ⟨p, hp⟩ := IdMap.contains_iff.mp (hports id hid)
    refine ⟨p, hp, ?_⟩
    rw [hget, if_pos hid, hp, Option.map_some]
  refine ⟨hspread.substrate, hleft, fun id hid => ?_, ?_⟩
  · rw [hget, if_neg fun hmem => hid (hsubset hmem), if_neg fun hmem => hid hmem.1]
  · rw [← leftWith_eq_iff]
    constructor
    · intro hrestored
      rcases hwritten : written run.state.repository lb amphorae stored update with _ | ⟨id, ids⟩
      · exact .inl rfl
      · have hid : id ∈ written run.state.repository lb amphorae stored update :=
          hwritten ▸ List.mem_cons_self
        obtain ⟨p, -, hp⟩ := hleft id hid
        obtain ⟨q, hq, hpolicy⟩ := hrestored id hid
        rw [hp] at hq
        cases hq
        exact .inr hpolicy
    · intro hwhy id hid
      obtain ⟨p, -, hp⟩ := hleft id hid
      refine ⟨_, hp, ?_⟩
      rcases hwhy with hnone | hback
      · rw [hnone] at hid
        cases hid
      · exact hback

end Step

namespace Sample

open Substrate

/-- The load balancer of the sample deployment with a policy and one amphora that has a base
port. -/
def regulated (policyId : String) : LoadBalancer :=
  { loadBalancer [{ amphora "amp-1" "vm-1" with vrrpPortId := some (drawnId 3) }] with
    vip := { subnetId := "vip-subnet", networkId := "vip-net", qosPolicyId := some policyId } }

/-- The base port is made and the old policy is in force. -/
def startRegulated : Run Deployment where
  context := {}
  state :=
    { substrate :=
        ((createPort { networkId := "vip-net", name := "vrrp-amp-1" }).runOn substrate).2
      repository := Repository.store {} (regulated "old") }

def setNew : LoadBalancerUpdate := { vip := some { qosPolicyId := some (some "new") } }

end Sample

namespace Step

open Substrate

/-- A request that names the new policy is reverted as it is to be. -/
theorem applyQos_restores_iff_regulated : ∃ run₁ run₂,
    (applyQos (Sample.regulated "new") none (some Sample.setNew)).execute.runOn
      Sample.startRegulated = (.ok (), run₁) ∧
    ((applyQos (Sample.regulated "new") none (some Sample.setNew)).revert ()).run run₁ =
      ((), run₂) ∧
    (∃ p ∈ run₁.state.substrate.ports.get? (drawnId 3), p.qosPolicyId = some "new") ∧
    ∃ p ∈ run₂.state.substrate.ports.get? (drawnId 3), p.qosPolicyId = some "old" := by
  obtain ⟨_, run₁, hexecute⟩ := exists_of_isSome
    (applyQos (Sample.regulated "new") none (some Sample.setNew)).execute Sample.startRegulated
    (by decide +kernel)
  have hstored : Sample.startRegulated.state.repository.loadBalancers.get? "lb-1" =
      some { Sample.regulated "old" with amphorae := [] } := by
    decide +kernel
  have hwritten : written Sample.startRegulated.state.repository (Sample.regulated "new") none
      { Sample.regulated "old" with amphorae := [] } (some Sample.setNew) = [drawnId 3] := by
    decide +kernel
  obtain ⟨hsubstrate, -, -, hrestored⟩ := applyQos_restores_iff (by decide +kernel)
    (Repository.harmless_of_script_nil rfl) hstored none (some Sample.setNew) hexecute rfl
  rw [hwritten] at hsubstrate hrestored
  refine ⟨run₁, _, hexecute, rfl, ?_, ?_⟩
  · rw [hsubstrate]
    decide +kernel
  · exact hrestored.mpr (.inr (.inl (by decide))) (drawnId 3) List.mem_cons_self

/-- The request names the policy in force, so the port keeps the one that the update set. -/
theorem request_in_force_keeps_update :
    ((applyQos (Sample.regulated "old") none (some Sample.setNew)).execute.runOn
      Sample.startRegulated).1.toOption = some () ∧
    (Sample.startRegulated.state.repository.loadBalancers.get? "lb-1").map
      (·.vip.qosPolicyId) = some (some "old") ∧
    ((((applyQos (Sample.regulated "old") none (some Sample.setNew)).revert ()).run
      ((applyQos (Sample.regulated "old") none (some Sample.setNew)).execute.runOn
        Sample.startRegulated).2).2.state.substrate.ports.get? (drawnId 3)).map
          (·.qosPolicyId) = some (some "new") := by
  decide +kernel

end Step

end AmphoraWiring
