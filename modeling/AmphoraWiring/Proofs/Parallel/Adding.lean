import AmphoraWiring.Proofs.Parallel.Making

/-!
Adding the interfaces of a delta beside another thread. What a side has come to is told by the links
of its instance and the records of its amphora, and for the subnets that are to follow by the ports
that count as changed and the addresses that are left.
-/
namespace AmphoraWiring

open Action Substrate Deployment

namespace Side

variable {x : Side} {share share' : Share} {d d' : Deployment} {p : Port} {nic : Interface}
  {links : List Link} {old : List MemberPortBinding}

/-- The record of a port of the side. -/
def entry (x : Side) (p : Port) : MemberPortBinding where
  amphoraId := x.amphoraId
  portId := p.id
  networkId := p.networkId

/-- The records of those of the ports that are new. -/
def entries (x : Side) (ports : List Port) : List MemberPortBinding :=
  (ports.filter fun p => p.id ∉ x.former).map x.entry

/-- The instance is linked as given, and the records of the amphora are `old` ones and those of the
new ports in the order in which these were plugged in; no port of a new one's id was there. -/
structure Standing (x : Side) (links : List Link) (old : List MemberPortBinding)
    (d : Deployment) : Prop where
  links : (x.view d).ports.map (Port.link x.former) = links
  records : (x.view d).records = old ++ x.entries (x.view d).ports
  made : ∀ p ∈ (x.view d).ports, p.id ∉ x.former → x.start.ports.get? p.id = none

theorem Standing.of_view_eq (h : x.Standing links old d) (hview : x.view d' = x.view d) :
    x.Standing links old d' where
  links := by rw [hview, h.links]
  records := by rw [hview, h.records]
  made := by rw [hview]; exact h.made

/-! The port that was made -/

theorem Answers.plugged {c : String} (h : x.Answers nic p) :
    x.Answers nic { p with deviceId := some c } where
  fresh := h.fresh
  made := h.made
  strange := h.strange
  networkId := h.networkId
  subnets := h.subnets
  vnicType := h.vnicType
  fillable := ⟨h.fillable.network, h.fillable.subnets⟩

/-- The port has become the last one of the instance and has a record. -/
theorem Standing.grown (h : x.Standing links old d) (hp : x.Answers nic p)
    (hview : x.view d' = ⟨(x.view d).ports ++ [p], (x.view d).records ++ [x.entry p]⟩) :
    x.Standing (links ++ [.ofNic nic]) old d' where
  links := by rw [hview, List.map_append, h.links, List.map_singleton, hp.link]
  records := by
    have hentries : x.entries ((x.view d).ports ++ [p]) =
        x.entries (x.view d).ports ++ [x.entry p] := by
      simp [entries, hp.fresh]
    rw [hview, hentries, h.records, List.append_assoc]
  made := by
    intro p' hp' hnew
    rw [hview] at hp'
    rcases List.mem_append.mp hp' with hp' | hp'
    · exact h.made p' hp' hnew
    · exact List.mem_singleton.mp hp' ▸ hp.made

/-- The port that was made is plugged in, and is not recorded yet. -/
structure Attached (x : Side) (share : Share) (d : Deployment) (p : Port) (_ : Unit)
    (share' : Share) (d' : Deployment) : Prop where
  share : share' = share
  unbound : ¬ d'.repository.Bound p.id
  view : x.view d' =
    ⟨(x.view d).ports ++ [{ p with deviceId := some x.computeId }], (x.view d).records⟩

/-- The port has a record. -/
structure Noted (x : Side) (share : Share) (d : Deployment) (p : Port) (_ : Unit)
    (share' : Share) (d' : Deployment) : Prop where
  share : share' = share
  view : x.view d' = ⟨(x.view d).ports, (x.view d).records ++ [x.entry p]⟩

/-- An interface was added: a port that was made for it is plugged in, recorded and counted as
changed. -/
structure Grown (x : Side) (share : Share) (d : Deployment) (changed : ChangedPorts)
    (nic : Interface) (subnetId : String) (changed' : ChangedPorts) (share' : Share)
    (d' : Deployment) : Prop where
  port : ∃ p q, x.Answers nic p ∧ p.Matches q ∧ changed' = changed.insert nic.networkId q ∧
    x.view d' = ⟨(x.view d).ports ++ [p], (x.view d).records ++ [x.entry p]⟩
  budget : share'.budget = (share.spend subnetId).budget

end Side

namespace Thread

open Side

variable {x : Side} {share : Share} {d : Deployment} {p : Port} {nic : Interface}
  {amphora : Amphora}

/-- The new port is plugged in, whatever the other thread does in between. -/
theorem secured_plugNewPort {networkId : String} (hcompute : amphora.computeId = some x.computeId)
    (hp : x.Made share d p) : (plugNewPort amphora p networkId).Secured x
      (Done (x.Attached share d p)) share d := by
  have hcall : (onSubstrate (Substrate.plugPort amphora p)).Secured x
      (Done (x.Attached share d p)) share d := by
    refine secured_onSubstrate fun d' hrely => (ends_plugPort amphora p _).mono ?_ ?_
    · intro _ t hend
      obtain ⟨c, hc, -, hheard⟩ := hend
      cases hcompute.symm.trans hc
      have hmade := hp.later hrely
      have hports : t.pluggedPorts x.computeId =
          d'.substrate.pluggedPorts x.computeId ++ [{ p with deviceId := some x.computeId }] := by
        rw [hheard.samePorts.pluggedPorts, pluggedPorts_attach_self hmade.port hmade.unlisted]
      refine ⟨share, hrely.holds.attached hmade hheard, fun d'' hrely' => ⟨(), rfl, rfl, ?_, ?_⟩⟩
      · exact hrely'.steady.unbound _ hp.mem hmade.unbound
      · rw [hrely'.view_eq, ← hrely.view_eq]
        simp only [Side.view, hports]
    · intro e t hend
      have hnone := hend.2 hrely.holds.capable.faults _ hcompute hrely.holds.hosted
      rw [(hp.later hrely).port] at hnone
      cases hnone
  refine hcall.outcome.followed fun result share' d' hdone => ?_
  obtain ⟨_, rfl, rfl, hunbound, hview⟩ := hdone
  exact secured_pure fun d'' hrely => ⟨(), rfl, rfl, hrely.steady.unbound _ hp.mem hunbound,
    hrely.view_eq.trans hview⟩

/-- The new port is recorded, whatever the other thread does in between. -/
theorem secured_notePort (hmem : p.id ∈ share.ids) (hunbound : ¬ d.repository.Bound p.id)
    (hstrange : p.id ∉ x.others) :
    (onRepository (Repository.createMemberPort (x.entry p))).Secured x
      (Done (x.Noted share d p)) share d := by
  refine secured_onRepository fun d' hrely =>
    (Repository.ends_createMemberPort (x.entry p) _).mono ?_ ?_
  · intro _ r hend
    obtain ⟨hheard, -⟩ := hend
    have hrecords : r.bindings.filter x.owns =
        d'.repository.bindings.filter x.owns ++ [x.entry p] := by
      have hown : x.owns (x.entry p) = true := owns_iff.mpr ⟨rfl, hstrange⟩
      rw [hheard.bindings, Repository.addBinding, List.filter_append]
      simp [hown]
    refine ⟨share, hrely.holds.recorded rfl hmem hheard, fun d'' hrely' => ⟨(), rfl, rfl, ?_⟩⟩
    rw [hrely'.view_eq, ← hrely.view_eq]
    simp only [Side.view, hrecords]
  · intro e r hend
    have hbound : d'.repository.Bound p.id := hend.2 hrely.holds.capable.harmless
    exact (hrely.steady.unbound _ hmem hunbound hbound).elim

/-- Adding an interface succeeds as long as there is an address left for it. -/
theorem secured_addNic {changed : ChangedPorts} {subnetId : String}
    (hcompute : amphora.computeId = some x.computeId) (hid : amphora.id = x.amphoraId)
    (hnic : x.Providable nic subnetId) (hbudget : 1 ≤ share.budget subnetId) :
    (addNic amphora changed nic).Secured x (Done (x.Grown share d changed nic subnetId))
      share d := by
  refine (secured_createMemberPort hnic hbudget).followed fun p share₁ d₁ hprovided => ?_
  have hmade := hprovided.made
  have hanswers := hprovided.answers
  refine (secured_plugNewPort hcompute hmade).followed fun _ share₂ d₂ hattached => ?_
  obtain ⟨rfl, hunbound, hplugged⟩ := hattached
  refine (secured_record _).looked fun _ d₃ hrely₃ _ => ?_
  have hentry : x.entry p =
      { amphoraId := amphora.id, portId := p.id, networkId := nic.networkId } := by
    rw [entry, hanswers.networkId, hid]
  rw [← hentry]
  refine (secured_notePort hmade.mem (hrely₃.steady.unbound _ hmade.mem hunbound)
    hanswers.strange).followed fun _ share₄ d₄ hnoted => ?_
  obtain ⟨rfl, hnoted⟩ := hnoted
  refine (secured_record _).looked fun _ d₅ hrely₅ _ => ?_
  refine (secured_fillPort hanswers.fillable).looked fun q d₆ hrely₆ hmatches => ?_
  refine secured_pure fun d₇ hrely₇ => ⟨_, rfl, ?_, ?_⟩
  · have hnetwork : q.networkId = nic.networkId := hmatches.networkId.trans hanswers.networkId
    refine ⟨{ p with deviceId := some x.computeId }, q, hanswers.plugged,
      ⟨hmatches.id, hmatches.networkId, hmatches.subnets⟩, by rw [hnetwork], ?_⟩
    rw [hrely₇.view_eq, hrely₆.view_eq, hrely₅.view_eq, hnoted, hrely₃.view_eq, hplugged,
      hprovided.view]
    rfl
  · rw [hprovided.share]
    rfl

end Thread

namespace Side

variable {x : Side} {share share' : Share} {d d' : Deployment} {delta : Delta}
  {links : List Link} {old : List MemberPortBinding} {rest : List SubnetChange}
  {changed changed' : ChangedPorts}

/-- The delta is being applied, and the subnets of `rest` can still be added: a port that counts as
changed is that of the link where the subnets of its network are added, every new port counts, and
for each subnet an address is left unless a port that counts has one there already. -/
structure Adding (x : Side) (delta : Delta) (old : List MemberPortBinding) (links : List Link)
    (rest : List SubnetChange) (changed : ChangedPorts) (share : Share) (d : Deployment) :
    Prop where
  standing : x.Standing links old d
  counted : ∀ change ∈ delta.addSubnets, ∀ q, changed.get? change.networkId = some q →
    ∃ p ∈ (x.view d).ports, p.Matches q ∧ (p.link x.former).Concerns change
  covered : ∀ p ∈ (x.view d).ports, p.id ∉ x.former → ∃ q, changed.get? p.networkId = some q
  affordable : ∀ change ∈ rest, 1 ≤ share.budget change.subnetId ∨
    ∃ q, changed.get? change.networkId = some q ∧ q.hasSubnet change.subnetId

theorem Adding.of_view_eq (h : x.Adding delta old links rest changed share d)
    (hview : x.view d' = x.view d) : x.Adding delta old links rest changed share d' where
  standing := h.standing.of_view_eq hview
  counted := hview ▸ h.counted
  covered := hview ▸ h.covered
  affordable := h.affordable

/-- Where no link is concerned by a change, no port counts as changed for it. -/
theorem Adding.not_counted (h : x.Adding delta old links rest changed share d)
    {change : SubnetChange} (hmem : change ∈ delta.addSubnets)
    (hfree : (change.portId, change.networkId) ∉ links.map Link.key) :
    changed.get? change.networkId = none := by
  rw [Option.eq_none_iff_forall_ne_some]
  intro q hq
  obtain ⟨p, hp, -, hconcerns⟩ := h.counted change hmem q hq
  have hlink : p.link x.former ∈ links := h.standing.links ▸ List.mem_map_of_mem hp
  exact hfree (List.mem_map.mpr ⟨_, hlink, hconcerns⟩)

variable {nic : Interface} {subnetId : String}

/-- For a network without a new port, the address is left that its new port is to begin with. -/
theorem Adding.budget (h : x.Adding delta old links delta.addSubnets changed share d)
    (hmem : ⟨subnetId, nic.networkId, none⟩ ∈ delta.addSubnets)
    (hfree : (none, nic.networkId) ∉ links.map Link.key) : 1 ≤ share.budget subnetId := by
  rcases h.affordable _ hmem with hbudget | ⟨q, hq, -⟩
  · exact hbudget
  · cases hq.symm.trans (h.not_counted hmem hfree)

theorem Adding.grown (h : x.Adding delta old links delta.addSubnets changed share d)
    (hcoherent : delta.Coherent x.start x.computeId)
    (hmem : ⟨subnetId, nic.networkId, none⟩ ∈ delta.addSubnets)
    (hasked : nic.fixedIps.take 1 = [{ subnetId }])
    (hfree : (none, nic.networkId) ∉ links.map Link.key)
    (hgrown : x.Grown share d changed nic subnetId changed' share' d') :
    x.Adding delta old (links ++ [.ofNic nic]) delta.addSubnets changed' share' d' := by
  obtain ⟨⟨p, q, hp, hmatches, rfl, hview⟩, hbudget⟩ := hgrown
  have hports : (x.view d').ports = (x.view d).ports ++ [p] := by rw [hview]
  have hnetwork := hp.networkId
  constructor
  case standing => exact h.standing.grown hp hview
  case counted =>
    intro change hchange q' hq'
    rw [IdMap.get?_insert] at hq'
    rw [hports]
    split at hq'
    next heq =>
      cases hq'
      have hport := hcoherent.together _ hmem change hchange heq
      refine ⟨p, List.mem_append_right _ (List.mem_singleton_self p), hmatches, ?_⟩
      rw [Link.Concerns, Port.key_link_new hp.fresh, hnetwork, hport, heq]
    next =>
      obtain ⟨p', hp', hcounted⟩ := h.counted change hchange q' hq'
      exact ⟨p', List.mem_append_left _ hp', hcounted⟩
  case covered =>
    intro p' hp' hnew
    rw [hports] at hp'
    rw [IdMap.get?_insert]
    split
    · exact ⟨q, rfl⟩
    · rcases List.mem_append.mp hp' with hp' | hp'
      · exact h.covered p' hp' hnew
      · rename_i hne
        cases List.mem_singleton.mp hp'
        exact absurd hnetwork hne
  case affordable =>
    intro change hchange
    by_cases hsubnet : change.subnetId = subnetId
    · -- the port has been made with an address on the subnet
      have hsame : change = ⟨subnetId, nic.networkId, none⟩ :=
        List.inj_on_of_nodup_map hcoherent.subnets_nodup hchange hmem hsubnet
      refine .inr ⟨q, by rw [hsame, IdMap.get?_insert_self], ?_⟩
      rw [hmatches.hasSubnet, Port.hasSubnet_iff_mem_link, hp.link, hsubnet, Link.ofNic, hasked]
      exact List.mem_singleton_self subnetId
    · have hsame : share'.budget change.subnetId = share.budget change.subnetId := by
        rw [hbudget]
        exact if_neg hsubnet
      rw [hsame]
      refine (h.affordable change hchange).imp_right fun hpresent => ?_
      obtain ⟨q', hq', hhas⟩ := hpresent
      refine ⟨q', ?_, hhas⟩
      rw [IdMap.get?_insert, if_neg, hq']
      intro heq
      have hport := hcoherent.together _ hmem change hchange heq
      rw [h.not_counted hchange (by rwa [hport, heq])] at hq'
      cases hq'

end Side

namespace Thread

open Side

variable {x : Side} {share : Share} {d : Deployment} {amphora : Amphora} {delta : Delta}
  {old : List MemberPortBinding}

/-- Some interfaces have been added, and those of `rest` follow. -/
def AddingNics (x : Side) (delta : Delta) (old : List MemberPortBinding) (rest : List Interface)
    (changed : ChangedPorts) (share : Share) (d : Deployment) : Prop :=
  rest ⊆ delta.addNics ∧ ∃ links, links ++ rest.map Link.ofNic = delta.begun x.start x.computeId ∧
    x.Adding delta old links delta.addSubnets changed share d

/-- All new interfaces are added, whatever the other thread does in between. -/
theorem secured_addNics (hcompute : amphora.computeId = some x.computeId)
    (hid : amphora.id = x.amphoraId) (hs : x.start.Sound)
    (hcoherent : delta.Coherent x.start x.computeId) {changed : ChangedPorts}
    (h : AddingNics x delta old delta.addNics changed share d) :
    Secured x (Done (AddingNics x delta old [])) (delta.addNics.foldlM (addNic amphora) changed)
      share d := by
  refine secured_foldlM ?_ ?_ h
  · intro rest changed share d d' h hrely
    obtain ⟨hmem, links, hlinks, hadding⟩ := h
    exact ⟨hmem, links, hlinks, hadding.of_view_eq hrely.view_eq⟩
  · intro nic rest changed share d h
    obtain ⟨hmem, links, hlinks, hadding⟩ := h
    obtain ⟨hnic, hrest⟩ := List.cons_subset.mp hmem
    obtain ⟨hnetwork, subnetId, hasked, hregistered, hchange⟩ := hcoherent.nics nic hnic
    have hfree : (none, nic.networkId) ∉ links.map Link.key := by
      intro hkey
      have hnodup := hcoherent.keys_nodup hs
      rw [← hlinks, List.map_append, List.nodup_append] at hnodup
      exact hnodup.2.2 _ hkey _ List.mem_cons_self rfl
    refine (secured_addNic hcompute hid ⟨hnetwork, hasked, hregistered⟩
      (hadding.budget hchange hfree)).mono ?_
    intro result share' d' hdone
    obtain ⟨changed', rfl, hgrown⟩ := hdone
    refine ⟨changed', rfl, hrest, links ++ [.ofNic nic], ?_, ?_⟩
    · rw [List.append_assoc]
      exact hlinks
    · exact hadding.grown hcoherent hchange hasked hfree hgrown

end Thread

end AmphoraWiring
