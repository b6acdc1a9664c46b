import AmphoraWiring.Proofs.Parallel.Subnets

/-!
Removing the interfaces of a delta beside another thread, and with it all that applying a delta
comes to. The ports that are given up were there in the beginning, so no new port and none of its
records is lost.
-/
namespace AmphoraWiring

open Action Substrate Deployment

theorem Substrate.Detached.pluggedPorts {s t : Substrate} {c networkId : String}
    (h : s.Detached t c networkId) (hfaults : s.faults = []) (hhosted : s.plugged.contains c) :
    t.pluggedPorts c = (s.pluggedPorts c).filter fun p => p.networkId ≠ networkId := by
  rcases h with h | ⟨h, hwhy⟩
  · rw [h.samePorts.pluggedPorts, pluggedPorts_detach_self]
  · rw [h.samePorts.pluggedPorts, eq_comm, List.filter_eq_self]
    intro p hp
    obtain ⟨id, hid, hget⟩ := mem_pluggedPorts.mp hp
    have hvacant := hwhy hfaults hhosted
    have hne : p.networkId ≠ networkId := by
      intro hnetwork
      have hmem : id ∈ s.idsOn c networkId := mem_idsOn.mpr ⟨hid, p, hget, hnetwork⟩
      rw [hvacant] at hmem
      cases hmem
    exact decide_eq_true hne

namespace Side

variable {x : Side} {share : Share} {d d' : Deployment} {links : List Link}
  {old : List MemberPortBinding} {nic : Interface} {id networkId : String}

/-- What the removal of an interface leaves is within the share. -/
theorem Holds.removed {t : Substrate} {portId : Option String} (h : x.Holds share d)
    (hremoval : d.substrate.Removal t x.computeId networkId portId)
    (hid : ∀ id, portId = some id → id ∈ share.ids) :
    x.Guarantee share share d { d with substrate := t } :=
  h.changes (.of_removal hremoval h.listed hid) hremoval.drawn hremoval.get?
    hremoval.keepsInstances (Share.same_of_spends hremoval.spends) hremoval.sameNetworks
    (hremoval.sound h.sound)

/-- Forgetting a port that is given up drops its record. -/
theorem Holds.forgotten {r : Repository} (h : x.Holds share d) (hid : id ∈ x.gives)
    (hr : (d.repository.dropBinding id).Heard r) :
    x.Guarantee share share d { d with repository := r } := by
  refine h.notes ?_ ?_ hr.amphorae (hr.harmless h.capable.harmless)
  · intro keep hkeep
    rw [hr.bindings]
    refine Repository.filter_dropBinding fun b hb => ?_
    rw [Bool.eq_false_iff]
    exact fun hkept => (hkeep b hkept).2 (hb ▸ hid)
  · intro k _ hunbound hbound
    rw [hr.bound_iff, Repository.bound_dropBinding] at hbound
    exact hunbound hbound.1

/-- The share is as it was, none of its ports has got a record, and the side sees `v`. -/
structure Sees (x : Side) (share : Share) (d : Deployment) (v : View) (share' : Share)
    (d' : Deployment) : Prop where
  unbound : ∀ id ∈ share.ids, ¬ d.repository.Bound id → ¬ d'.repository.Bound id
  view : x.view d' = v
  share : share' = share

theorem Rely.sees (h : x.Rely share d d') : x.Sees share d (x.view d) share d' :=
  ⟨h.steady.unbound, h.view_eq, rfl⟩

theorem Sees.trans {v v' : View} {share' share'' : Share} {d'' : Deployment}
    (h : x.Sees share d v share' d') (h' : x.Sees share' d' v' share'' d'') :
    x.Sees share d v' share'' d'' := by
  obtain ⟨hunbound, -, rfl⟩ := h
  exact ⟨fun id hid hnone => h'.unbound id hid (hunbound id hid hnone), h'.view, h'.share⟩

theorem Sees.later {v : View} {share' : Share} {d'' : Deployment}
    (h : x.Sees share d v share' d') (hrely : x.Rely share' d' d'') :
    x.Sees share d v share' d'' :=
  h.view ▸ h.trans hrely.sees

/-- The instance has left a network on which it has no new port. -/
theorem Standing.dropped (h : x.Standing links old d)
    (hold : (none, nic.networkId) ∉ links.map Link.key)
    (hview : x.view d' = ⟨(x.view d).ports.filter fun p => p.networkId ≠ nic.networkId,
      (x.view d).records⟩) : x.Standing (Delta.dropLinked links nic) old d' where
  links := by
    rw [hview, Delta.dropLinked, ← h.links, List.filter_map]
    rfl
  records := by
    have hentries : x.entries ((x.view d).ports.filter fun p => p.networkId ≠ nic.networkId) =
        x.entries (x.view d).ports := by
      unfold entries
      rw [List.filter_filter]
      refine congrArg (List.map x.entry) (List.filter_congr fun p hp => ?_)
      by_cases hformer : p.id ∈ x.former
      · simp [hformer]
      · have hne : p.networkId ≠ nic.networkId := by
          intro heq
          refine hold (List.mem_map.mpr ⟨p.link x.former, h.links ▸ List.mem_map_of_mem hp, ?_⟩)
          rw [Port.key_link_new hformer, heq]
        simp [hformer, hne]
    rw [hview, hentries, h.records]
  made := by
    intro p hp
    rw [hview] at hp
    exact h.made p (List.mem_of_mem_filter hp)

/-- The record of a port was dropped that had been there in the beginning. -/
theorem Standing.forgotten (h : x.Standing links old d) (hid : id ∈ x.former)
    (hview : x.view d' =
      ⟨(x.view d).ports, (x.view d).records.filter fun b => b.portId ≠ id⟩) :
    x.Standing links (old.filter fun b => b.portId ≠ id) d' where
  links := by rw [hview, h.links]
  records := by
    have hentries : (x.entries (x.view d).ports).filter (fun b => b.portId ≠ id) =
        x.entries (x.view d).ports := by
      rw [List.filter_eq_self]
      intro b hb
      obtain ⟨p, hp, rfl⟩ := List.mem_map.mp hb
      have hnew : p.id ∉ x.former := by simpa using (List.mem_filter.mp hp).2
      have hne : p.id ≠ id := fun heq => hnew (heq ▸ hid)
      exact decide_eq_true hne
    rw [hview, h.records, List.filter_append, hentries]
  made := by rw [hview]; exact h.made

end Side

namespace Thread

open Side

variable {x : Side} {share : Share} {d : Deployment} {links : List Link}
  {old : List MemberPortBinding} {nic : Interface} {id networkId : String} {amphora : Amphora}
  {changed : ChangedPorts}

/-- The instance is no longer seen on the network, whatever the call answers. -/
theorem secured_unplugNetwork (networkId : String) :
    (onSubstrate (Substrate.unplugNetwork x.computeId networkId)).Secured x
      (fun _ => x.Sees share d
        ⟨(x.view d).ports.filter fun p => p.networkId ≠ networkId, (x.view d).records⟩)
      share d := by
  have hdetached : ∀ d', x.Rely share d d' → ∀ t,
      d'.substrate.Detached t x.computeId networkId →
      x.Guarantee share share d' { d' with substrate := t } ∧
        x.Sees share d
          ⟨(x.view d).ports.filter fun p => p.networkId ≠ networkId, (x.view d).records⟩ share
          { d' with substrate := t } := by
    intro d' hrely t ht
    have hremoval : d'.substrate.Removal t x.computeId networkId none := ⟨t, ht, .inl (.refl t)⟩
    refine ⟨hrely.holds.removed hremoval (fun _ hid => by cases hid), hrely.steady.unbound, ?_,
      rfl⟩
    rw [← hrely.view_eq]
    simp only [Side.view, ht.pluggedPorts hrely.holds.capable.faults hrely.holds.hosted]
  refine secured_onSubstrate fun d' hrely => (ends_unplugNetwork _ _ _).mono ?_ ?_
  · intro _ t hend
    obtain ⟨hguarantee, hsees⟩ := hdetached d' hrely t (.inl hend.1)
    exact ⟨share, hguarantee, fun d'' hrely' => hsees.later hrely'⟩
  · intro e t hend
    obtain ⟨hguarantee, hsees⟩ := hdetached d' hrely t (.inr hend)
    exact ⟨share, hguarantee, fun d'' hrely' => hsees.later hrely'⟩

/-- Deleting a port that the instance does not list any more. -/
theorem secured_deletePort (hid : id ∈ share.ids) (hgone : ∀ p ∈ (x.view d).ports, p.id ≠ id)
    (hvacant : ∀ p ∈ (x.view d).ports, p.networkId ≠ networkId) :
    (onSubstrate (Substrate.deletePort id)).Secured x
      (Done fun _ => x.Sees share d (x.view d)) share d := by
  refine secured_onSubstrate fun d' hrely => (ends_deletePort _ _).mono ?_ ?_
  · intro _ t hend
    have hports : t.pluggedPorts x.computeId = d'.substrate.pluggedPorts x.computeId := by
      rw [hend.2.samePorts.pluggedPorts, pluggedPorts_removePort hrely.holds.sound,
        List.filter_eq_self]
      intro p hp
      exact decide_eq_true (hgone p (hrely.view_eq ▸ hp))
    have hremoval : d'.substrate.Removal t x.computeId networkId (some id) := by
      refine ⟨d'.substrate, .inr ⟨.refl _, fun _ _ => ?_⟩, .inr ⟨id, rfl, hend.2⟩⟩
      rw [List.eq_nil_iff_forall_not_mem]
      intro k hk
      obtain ⟨hlisted, p, hget, hnetwork⟩ := mem_idsOn.mp hk
      have hp : p ∈ (x.view d').ports := mem_pluggedPorts.mpr ⟨k, hlisted, hget⟩
      exact hvacant p (hrely.view_eq ▸ hp) hnetwork
    have hsees : x.Sees share d (x.view d) share { d' with substrate := t } := by
      refine ⟨hrely.steady.unbound, ?_, rfl⟩
      rw [← hrely.view_eq]
      simp only [Side.view, hports]
    exact ⟨share, hrely.holds.removed hremoval fun k hk => Option.some.inj hk ▸ hid,
      fun d'' hrely' => ⟨(), rfl, hsees.later hrely'⟩⟩
  · intro e t hend
    exact (hend.2.2 hrely.holds.capable.faults).elim

/-- The side sees the record of a port no more. -/
def Forgot (x : Side) (share : Share) (d : Deployment) (id : String) (share' : Share)
    (d' : Deployment) : Prop :=
  ¬ d'.repository.Bound id ∧ x.Sees share d
    ⟨(x.view d).ports, (x.view d).records.filter fun b => b.portId ≠ id⟩ share' d'

theorem Forgot.later {share' : Share} {d' d'' : Deployment} (h : Forgot x share d id share' d')
    (hid : id ∈ share.ids) (hrely : x.Rely share' d' d'') : Forgot x share d id share' d'' :=
  ⟨hrely.steady.unbound id (h.2.share ▸ hid) h.1, h.2.later hrely⟩

/-- Afterwards the port has no record, whether it had one or not. -/
theorem secured_deleteMemberPort (hid : id ∈ share.ids) (hgives : id ∈ x.gives) :
    (onRepository (Repository.deleteMemberPort id)).Secured x
      (fun result share' d' => (result = .ok () ∨
        ∃ what, result = .error (.store (.notFound what))) ∧ Forgot x share d id share' d')
      share d := by
  refine secured_onRepository fun d' hrely => (Repository.ends_deleteMemberPort id _).mono ?_ ?_
  · intro _ r hend
    have hforgot : Forgot x share d id share { d' with repository := r } := by
      refine ⟨?_, ?_, ?_, rfl⟩
      · rw [hend.bound_iff, Repository.bound_dropBinding]
        exact fun hbound => hbound.2 rfl
      · intro k hk hunbound
        rw [hend.bound_iff, Repository.bound_dropBinding]
        exact fun hbound => hrely.steady.unbound k hk hunbound hbound.1
      · rw [← hrely.view_eq]
        simp only [Side.view, hend.bindings, Repository.dropBinding, List.filter_filter,
          Bool.and_comm]
    exact ⟨share, hrely.holds.forgotten hgives hend,
      fun d'' hrely' => ⟨.inl rfl, hforgot.later hid hrely'⟩⟩
  · intro e r hend
    obtain ⟨hheard, hwhy⟩ := hend
    obtain ⟨⟨what, rfl⟩, hunbound⟩ := hwhy hrely.holds.capable.harmless
    have hsame : (x.view d).records.filter (fun b => b.portId ≠ id) = (x.view d).records := by
      rw [← hrely.view_eq, List.filter_eq_self]
      intro b hb
      have hne : b.portId ≠ id := fun heq => hunbound ⟨b, List.mem_of_mem_filter hb, heq⟩
      exact decide_eq_true hne
    obtain ⟨hguarantee, hrely'⟩ := hrely.holds.heard (.refl d'.substrate) hheard d'.audit
    have hforgot : Forgot x share d id share { d' with repository := r } := by
      refine ⟨fun hbound => hunbound ((hheard.bound_iff id).mp hbound), ?_⟩
      rw [hsame]
      exact (hrely.trans hrely').sees
    exact ⟨share, hguarantee, fun d'' hrely' => ⟨.inr ⟨what, rfl⟩, hforgot.later hid hrely'⟩⟩

/-- The record is removed, whatever the other thread does in between. -/
theorem secured_unbind {amphoraId : String} (hid : id ∈ share.ids) (hgives : id ∈ x.gives) :
    (unbind amphoraId id).Secured x (Done fun _ => Forgot x share d id) share d := by
  refine (secured_deleteMemberPort hid hgives).outcome.followed fun result share' d' hdone => ?_
  obtain ⟨rfl | ⟨what, rfl⟩, hforgot⟩ := hdone
  · refine (secured_record _).mono fun result share'' d'' hlooked => ?_
    obtain ⟨a, rfl, rfl, hrely, -⟩ := hlooked
    exact ⟨(), rfl, hforgot.later hid hrely⟩
  · exact secured_pure fun d'' hrely => ⟨(), rfl, hforgot.later hid hrely⟩

/-- An interface was removed that was there in the beginning. -/
structure Dropped (x : Side) (share : Share) (d : Deployment) (links : List Link)
    (old : List MemberPortBinding) (nic : Interface) (id : String) (d' : Deployment) : Prop where
  gone : ¬ d'.repository.Bound id
  unbound : ∀ k ∈ share.ids, ¬ d.repository.Bound k → ¬ d'.repository.Bound k
  standing : x.Standing (Delta.dropLinked links nic) (old.filter fun b => b.portId ≠ id) d'

theorem secured_deleteNic (hinstance : amphora.instanceId = x.computeId)
    (hport : nic.portId = some id) (hgives : id ∈ x.gives) (hid : id ∈ x.former)
    (hon : ∀ p ∈ (x.view d).ports, p.id = id → p.networkId = nic.networkId)
    (hold : (none, nic.networkId) ∉ links.map Link.key) (h : x.Standing links old d) :
    (deleteNic amphora changed nic).Secured x
      (Done fun _ _ => Dropped x share d links old nic id) share d := by
  refine secured_of_later fun d₁ hrely₁ => ?_
  have hmem : id ∈ share.ids := hrely₁.holds.former id hid
  have h := h.of_view_eq hrely₁.view_eq
  rw [← hrely₁.view_eq] at hon
  unfold deleteNic
  rw [hinstance, hport]
  refine (secured_unplugNetwork nic.networkId).outcome.followed fun _ share₂ d₂ hsees₂ => ?_
  obtain rfl := hsees₂.share
  have hview₂ := hsees₂.view
  have hvacant : ∀ p ∈ (x.view d₂).ports, p.networkId ≠ nic.networkId := by
    intro p hp
    rw [hview₂] at hp
    exact of_decide_eq_true (List.mem_filter.mp hp).2
  have hgone : ∀ p ∈ (x.view d₂).ports, p.id ≠ id := by
    intro p hp heq
    have hbefore : p ∈ (x.view d₁).ports := by
      rw [hview₂] at hp
      exact List.mem_of_mem_filter hp
    exact hvacant p hp (hon p hbefore heq)
  refine (secured_deletePort hmem hgone hvacant).outcome.followed fun result share₃ d₃ hdone => ?_
  obtain ⟨_, rfl, hsees₃⟩ := hdone
  obtain rfl := hsees₃.share
  refine (secured_record _).looked fun _ d₄ hrely₄ _ => ?_
  refine (secured_unbind hmem hgives).followed fun _ share₅ d₅ hforgot => ?_
  refine secured_pure fun d₆ hrely₆ => ⟨_, rfl, ?_⟩
  obtain ⟨hunbound, hsees₆⟩ := hforgot.later hmem hrely₆
  have hview₆ := hsees₆.view
  rw [hrely₄.view_eq, hsees₃.view] at hview₆
  have hsees := (((hrely₁.sees.trans hsees₂).trans hsees₃).trans hrely₄.sees).trans hsees₆
  exact ⟨hunbound, hsees.unbound, (h.dropped hold hview₂).forgotten hid hview₆⟩

/-! All interfaces -/

variable {delta : Delta}

/-- Some interfaces have been removed, and those of `rest` follow. -/
def DeletingNics (x : Side) (delta : Delta) (old : List MemberPortBinding)
    (rest : List Interface) (_ : ChangedPorts) (_ : Share) (d : Deployment) : Prop :=
  ∃ done links, done ++ rest = delta.deleteNics ∧
    rest.foldl Delta.dropLinked links =
      delta.linked x.start (x.start.links x.former x.computeId) ∧
    (links.map Link.key).Sublist ((delta.begun x.start x.computeId).map Link.key) ∧
    (∀ nic ∈ done, ∀ id, nic.portId = some id → ¬ d.repository.Bound id) ∧
    x.Standing links (old.filter fun b => b.portId ∉ done.filterMap (·.portId)) d

theorem former_of_mem_deleteNics (hs : x.start.Sound)
    (hcoherent : delta.Coherent x.start x.computeId) (hnic : nic ∈ delta.deleteNics)
    (hport : nic.portId = some id) : id ∈ x.former := by
  obtain ⟨⟨id', hport', hkey⟩, -⟩ := hcoherent.given_up nic hnic
  cases hport.symm.trans hport'
  obtain ⟨p, hp, rfl, -⟩ := (Delta.named_mem_begun hs).mp hkey
  exact (hs.mem_pluggedPorts.mp hp).1

theorem DeletingNics.later {rest : List Interface} {d' : Deployment} (hs : x.start.Sound)
    (hcoherent : delta.Coherent x.start x.computeId)
    (h : DeletingNics x delta old rest changed share d) (hrely : x.Rely share d d') :
    DeletingNics x delta old rest changed share d' := by
  obtain ⟨done, links, hdone, hlinks, hkeys, hunbound, hstanding⟩ := h
  refine ⟨done, links, hdone, hlinks, hkeys, fun nic hnic id hport => ?_,
    hstanding.of_view_eq hrely.view_eq⟩
  have hformer := former_of_mem_deleteNics hs hcoherent
    (hdone ▸ List.mem_append_left rest hnic) hport
  exact hrely.steady.unbound id (hrely.holds.former id hformer) (hunbound nic hnic id hport)

/-- All old interfaces are removed, whatever the other thread does in between. -/
theorem secured_deleteNics (hinstance : amphora.instanceId = x.computeId) (hs : x.start.Sound)
    (hcoherent : delta.Coherent x.start x.computeId) (hgives : x.gives = delta.givenUp)
    (h : DeletingNics x delta old delta.deleteNics changed share d) :
    Secured x (Done (DeletingNics x delta old []))
      (delta.deleteNics.foldlM (deleteNic amphora) changed) share d := by
  refine secured_foldlM (fun h hrely => h.later hs hcoherent hrely) ?_ h
  intro nic rest changed share d h
  refine secured_of_later fun d₁ hrely => ?_
  obtain ⟨done, links, hdone, hlinks, hkeys, hunbound, hstanding⟩ := h.later hs hcoherent hrely
  have hnic : nic ∈ delta.deleteNics := hdone ▸ List.mem_append_right done List.mem_cons_self
  obtain ⟨⟨id, hport, hkey⟩, hold⟩ := hcoherent.given_up nic hnic
  have hformer := former_of_mem_deleteNics hs hcoherent hnic hport
  have hid : id ∈ x.gives := hgives ▸ List.mem_filterMap.mpr ⟨nic, hnic, hport⟩
  have hon : ∀ p ∈ (x.view d₁).ports, p.id = id → p.networkId = nic.networkId := by
    intro p hp heq
    subst heq
    have hmem : (some p.id, p.networkId) ∈ links.map Link.key := by
      refine List.mem_map.mpr ⟨p.link x.former, hstanding.links ▸ List.mem_map_of_mem hp, ?_⟩
      exact Port.key_link_old hformer
    obtain ⟨q, hq, hqid, hqnetwork⟩ := (Delta.named_mem_begun hs).mp (hkeys.subset hmem)
    obtain ⟨r, hr, hrid, hrnetwork⟩ := (Delta.named_mem_begun hs).mp hkey
    have hsame := hs.pluggedPorts_unique hr hq (hqid.trans hrid.symm)
    rw [← hqnetwork, hsame, hrnetwork]
  refine (secured_deleteNic hinstance hport hid hformer hon
    (fun hmem => hold (hkeys.subset hmem)) hstanding).mono ?_
  intro result share' d' hend
  obtain ⟨changed', rfl, hdropped⟩ := hend
  refine ⟨changed', rfl, done ++ [nic], Delta.dropLinked links nic, ?_, hlinks,
    (Delta.keys_dropLinked links nic).trans hkeys, ?_, ?_⟩
  · rw [List.append_assoc]
    exact hdone
  · intro nic' hnic' id' hport'
    rcases List.mem_append.mp hnic' with hnic' | hnic'
    · have hformer' := former_of_mem_deleteNics hs hcoherent
        (hdone ▸ List.mem_append_left (nic :: rest) hnic') hport'
      exact hdropped.unbound id' (hrely.holds.former id' hformer')
        (hunbound nic' hnic' id' hport')
    · cases List.mem_singleton.mp hnic'
      cases hport.symm.trans hport'
      exact hdropped.gone
  · have hold' : (old.filter fun b => b.portId ∉ done.filterMap (·.portId)).filter
        (fun b => b.portId ≠ id) =
        old.filter fun b => b.portId ∉ (done ++ [nic]).filterMap (·.portId) := by
      rw [List.filter_filter, List.filterMap_append]
      apply List.filter_congr
      intro b _
      simp [hport, and_comm]
    rw [← hold']
    exact hdropped.standing

/-! The whole delta -/

/-- What applying a delta comes to for its side: the instance is linked as the delta makes it, the
records of the amphora are those that it had, but for the ports that are given up, and those of the
new ports, and no port that is given up has a record. -/
structure Applied (x : Side) (delta : Delta) (old : List MemberPortBinding) (d : Deployment) :
    Prop where
  standing : x.Standing (delta.linked x.start (x.start.links x.former x.computeId))
    (old.filter fun b => b.portId ∉ delta.givenUp) d
  unbound : ∀ id ∈ delta.givenUp, ¬ d.repository.Bound id

theorem DeletingNics.applied (h : DeletingNics x delta old [] changed share d) :
    Applied x delta old d := by
  obtain ⟨done, links, hdone, hlinks, -, hunbound, hstanding⟩ := h
  rw [List.append_nil] at hdone
  obtain rfl := hdone
  obtain rfl := hlinks
  refine ⟨hstanding, fun id hid => ?_⟩
  obtain ⟨nic, hnic, hport⟩ := List.mem_filterMap.mp hid
  exact hunbound nic hnic id hport

theorem Applied.later {d' : Deployment} (hs : x.start.Sound)
    (hcoherent : delta.Coherent x.start x.computeId) (h : Applied x delta old d)
    (hrely : x.Rely share d d') : Applied x delta old d' := by
  refine ⟨h.standing.of_view_eq hrely.view_eq, fun id hid => ?_⟩
  obtain ⟨nic, hnic, hport⟩ := List.mem_filterMap.mp hid
  have hformer := former_of_mem_deleteNics hs hcoherent hnic hport
  exact hrely.steady.unbound id (hrely.holds.former id hformer) (h.unbound id hid)

/-- In the beginning every port is an old one, and there is an address for each subnet. -/
theorem addingNics_start (hs : x.start.Sound)
    (hview : x.view d = ⟨x.start.pluggedPorts x.computeId, old⟩)
    (hbudget : share.budget = delta.asked) :
    AddingNics x delta old delta.addNics .empty share d := by
  have hformer : ∀ p ∈ x.start.pluggedPorts x.computeId, p.id ∈ x.former :=
    fun p hp => (hs.mem_pluggedPorts.mp hp).1
  refine ⟨List.Subset.refl _, x.start.links x.former x.computeId, rfl, ?_⟩
  constructor
  case standing =>
    have hentries : x.entries (x.start.pluggedPorts x.computeId) = [] := by
      rw [entries, List.map_eq_nil_iff, List.filter_eq_nil_iff]
      intro p hp
      simpa using hformer p hp
    constructor
    · rw [hview]
      rfl
    · rw [hview, hentries, List.append_nil]
    · intro p hp hnew
      rw [hview] at hp
      exact absurd (hformer p hp) hnew
  case counted =>
    intro change _ q hq
    cases hq
  case covered =>
    intro p hp hnew
    rw [hview] at hp
    exact absurd (hformer p hp) hnew
  case affordable =>
    intro change hchange
    rw [hbudget]
    exact .inl (List.count_pos_iff.mpr (List.mem_map_of_mem hchange))

/-- The delta is applied, whatever the other thread does in between. -/
theorem secured_apply (hcompute : amphora.computeId = some x.computeId)
    (hid : amphora.id = x.amphoraId) (hs : x.start.Sound)
    (hcoherent : delta.Coherent x.start x.computeId) (hgives : x.gives = delta.givenUp)
    (hview : x.view d = ⟨x.start.pluggedPorts x.computeId, old⟩)
    (hbudget : share.budget = delta.asked) :
    (apply delta amphora).Secured x (Done fun _ _ => Applied x delta old) share d := by
  unfold apply
  refine (secured_addNics hcompute hid hs hcoherent
    (addingNics_start hs hview hbudget)).followed fun changed₁ share₁ d₁ h₁ => ?_
  obtain ⟨-, links₁, hlinks₁, h₁⟩ := h₁
  rw [List.map_nil, List.append_nil] at hlinks₁
  refine (secured_addSubnets hs hcoherent ⟨.refl _, links₁, by rw [hlinks₁], by rw [hlinks₁],
    h₁⟩).followed fun changed₂ share₂ d₂ h₂ => ?_
  obtain ⟨-, links₂, hlinks₂, hkeys₂, h₂⟩ := h₂
  refine (secured_deleteSubnets hs hcoherent ⟨List.Subset.refl _, links₂, by rw [← hlinks₂]; rfl,
    hkeys₂, h₂.standing⟩).followed fun changed₃ share₃ d₃ h₃ => ?_
  obtain ⟨-, links₃, hlinks₃, hkeys₃, hstanding₃⟩ := h₃
  have h₃ : DeletingNics x delta old delta.deleteNics changed₃ share₃ d₃ := by
    refine ⟨[], links₃, rfl, congrArg (delta.deleteNics.foldl Delta.dropLinked) hlinks₃,
      hkeys₃ ▸ .refl _, (fun _ hnic => by cases hnic), ?_⟩
    simpa using hstanding₃
  refine (secured_deleteNics (Amphora.instanceId_eq hcompute) hs hcoherent hgives h₃).followed
    fun changed₄ share₄ d₄ h₄ => ?_
  exact secured_pure fun d₅ hrely => ⟨_, rfl, h₄.applied.later hs hcoherent hrely⟩

theorem secured_applyDelta (hstored : d.repository.amphorae.get? x.amphoraId = some amphora)
    (hcompute : amphora.computeId = some x.computeId) (hid : amphora.id = x.amphoraId)
    (hs : x.start.Sound) (hcoherent : delta.Coherent x.start x.computeId)
    (hgives : x.gives = delta.givenUp)
    (hview : x.view d = ⟨x.start.pluggedPorts x.computeId, old⟩)
    (hbudget : share.budget = delta.asked) :
    (applyDelta x.amphoraId delta).Secured x (Done fun _ _ => Applied x delta old) share d := by
  unfold applyDelta
  refine (secured_getAmphora hstored).looked fun a d₁ hrely₁ ha => ?_
  obtain rfl := ha
  refine (secured_apply hcompute hid hs hcoherent hgives (hrely₁.view_eq.trans hview)
    hbudget).followed fun ports share₂ d₂ happlied => ?_
  exact secured_pure fun d₃ hrely₃ => ⟨_, rfl, happlied.later hs hcoherent hrely₃⟩

end Thread

end AmphoraWiring
