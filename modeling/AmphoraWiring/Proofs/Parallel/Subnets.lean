import AmphoraWiring.Proofs.Parallel.Adding

/-!
Adding and removing the subnets of a delta beside another thread. The port that a change is about is
known by its link; it is changed in place, and the links of the other ports stay as they are.
-/
namespace AmphoraWiring

open Action Substrate Deployment

namespace Substrate

variable {s : Substrate} {c : String}

theorem Sound.pluggedPorts_unique (hs : s.Sound) {p q : Port} (hp : p ∈ s.pluggedPorts c)
    (hq : q ∈ s.pluggedPorts c) (hid : q.id = p.id) : q = p := by
  have hget := (hs.mem_pluggedPorts.mp hq).2
  rw [hid, (hs.mem_pluggedPorts.mp hp).2] at hget
  exact (Option.some.inj hget).symm

/-- A port gains one address on a subnet, unless it has one there. -/
theorem ends_plugFixedIp_subnets (id subnetId : String) (s : Substrate) :
    (plugFixedIp id subnetId).Ends s
      (fun q _ => ∃ p, s.ports.get? id = some p ∧ q.fixedIps.map (·.subnetId) =
        if subnetId ∈ p.fixedIps.map (·.subnetId) then p.fixedIps.map (·.subnetId)
        else p.fixedIps.map (·.subnetId) ++ [subnetId])
      fun _ _ => True := by
  refine ends_call (fun _ _ _ _ _ => trivial) fun t h _ => ?_
  refine (ends_portById id t).bind ?_ fun _ _ _ => trivial
  intro p u hend
  obtain ⟨rfl, hp⟩ := hend
  rw [h.ports] at hp
  have hiff : p.hasSubnet subnetId ↔ subnetId ∈ p.fixedIps.map (·.subnetId) := by
    simp [Port.hasSubnet_iff]
  by_cases hhas : p.hasSubnet subnetId
  · simp only [hhas, if_true]
    exact ends_pure ⟨p, hp, (if_pos (hiff.mp hhas)).symm⟩
  · simp only [hhas, Bool.false_eq_true, if_false]
    refine (ends_resolveFixedIp_iff p.networkId { subnetId } u).bind ?_ fun _ _ _ => trivial
    intro ip v hend
    obtain ⟨hallocating, hchosen, -⟩ := hend
    refine (ends_updatePort id _ v).mono ?_ fun _ _ _ => trivial
    intro q w hend
    obtain ⟨-, p', hp', rfl⟩ := hend
    rw [hallocating.samePorts.ports, h.ports, hp] at hp'
    cases hp'
    refine ⟨p, hp, ?_⟩
    rw [if_neg fun hmem => hhas (hiff.mpr hmem), List.map_append, List.map_singleton,
      hchosen.answers.subnetId]

end Substrate

theorem Port.link_addIps (former : List String) {p : Port} {ips : List FixedIp} {subnetId : String}
    (h : (p.addIps ips).fixedIps.map (·.subnetId) =
      if subnetId ∈ p.fixedIps.map (·.subnetId) then p.fixedIps.map (·.subnetId)
      else p.fixedIps.map (·.subnetId) ++ [subnetId]) :
    (p.addIps ips).link former = (p.link former).gain subnetId := by
  by_cases hmem : subnetId ∈ (p.link former).subnetIds
  · have hsubnets := h.trans (if_pos hmem)
    rw [Link.gain, if_pos hmem]
    simp only [link, hsubnets]
    rfl
  · have hsubnets := h.trans (if_neg hmem)
    rw [Link.gain, if_neg hmem]
    simp only [link, hsubnets]
    rfl

theorem Port.link_release (former : List String) (p : Port) (subnetId : String) (keeps : Bool) :
    (p.release subnetId keeps).link former = (p.link former).lose subnetId keeps := by
  cases keeps with
  | true => rfl
  | false =>
    simp only [release, link, Link.lose, Bool.false_eq_true, if_false, List.filter_map]
    rfl

namespace Side

variable {x : Side} {share : Share} {d d' : Deployment} {p q : Port} {links : List Link}
  {old : List MemberPortBinding} {f : Port → Port} {g : Link → Link} {change : SubnetChange}

theorem Holds.owned (h : x.Holds share d) (hp : p ∈ (x.view d).ports) : p.id ∈ share.ids :=
  h.listed _ (h.sound.mem_pluggedPorts.mp hp).1

theorem Holds.fillable (h : x.Holds share d) (hp : p ∈ (x.view d).ports) :
    Fillable x.start p := by
  have hget := (h.sound.mem_pluggedPorts.mp hp).2
  constructor
  · rw [← h.sameNetworks.networks]
    exact h.capable.networked hget
  · intro ip hip
    exact ⟨_, h.sameNetworks.registered.mp (h.sound.on_network hget hip)⟩

/-- A port that the instance lists is changed in place. -/
theorem Holds.amended {t : Substrate} {budget : String → Nat} (h : x.Holds share d)
    (hp : p ∈ (x.view d).ports) (hamended : d.substrate.Amended t p.id f)
    (hnet : ∀ p, (f p).networkId = p.networkId)
    (hspends : ∀ id, d.substrate.allocated id ≤ t.allocated id ∧
      t.allocated id + budget id ≤ d.substrate.allocated id + share.budget id)
    (hsame : d.substrate.SameNetworks t) (hsound : t.Sound) :
    x.Guarantee share ⟨share.ids, budget⟩ d { d with substrate := t } := by
  refine h.changes (.of_amended hamended (h.owned hp)) hamended.drawn ?_ hamended.keepsInstances
    hspends hsame hsound
  intro id q hq
  rw [hamended.get?] at hq
  split at hq
  · obtain ⟨r, hr, rfl⟩ := Option.map_eq_some_iff.mp hq
    exact ⟨r, hr, hnet r⟩
  · exact ⟨q, hq, rfl⟩

/-- The port was changed to `q` in place, and its link by `g`. -/
structure Altered (x : Side) (d : Deployment) (p : Port) (g : Link → Link) (q : Port)
    (d' : Deployment) : Prop where
  view : ∃ f, (∀ p : Port, (f p).id = p.id ∧ (f p).networkId = p.networkId) ∧ q = f p ∧
    x.view d' = ⟨(x.view d).ports.map (onPort p.id f), (x.view d).records⟩
  link : q.link x.former = g (p.link x.former)
  fillable : Fillable x.start q

theorem Altered.of_view_eq {e e' : Deployment} (h : x.Altered d p g q d')
    (hview : x.view e = x.view d) (hview' : x.view e' = x.view d') : x.Altered e p g q e' where
  view := by rw [hview, hview']; exact h.view
  link := h.link
  fillable := h.fillable

theorem Holds.altered {t : Substrate} (h : x.Holds share d) (hp : p ∈ (x.view d).ports)
    (hamended : d.substrate.Amended t p.id f)
    (hf : ∀ p : Port, (f p).id = p.id ∧ (f p).networkId = p.networkId)
    (hlink : (f p).link x.former = g (p.link x.former)) {share' : Share}
    (hholds : x.Holds share' { d with substrate := t }) :
    x.Altered d p g (f p) { d with substrate := t } := by
  have hports := hamended.pluggedPorts h.sound x.computeId
  have hmem : f p ∈ t.pluggedPorts x.computeId := by
    rw [hports]
    exact List.mem_map.mpr ⟨p, hp, if_pos rfl⟩
  constructor
  case view =>
    refine ⟨f, hf, rfl, ?_⟩
    simp only [Side.view, hports]
  case link => exact hlink
  case fillable => exact hholds.fillable hmem

/-- A change in place leaves ids and networks as they are. -/
theorem onPort_place (hf : ∀ p : Port, (f p).id = p.id ∧ (f p).networkId = p.networkId)
    (id : String) (p : Port) :
    (onPort id f p).id = p.id ∧ (onPort id f p).networkId = p.networkId := by
  unfold onPort
  split
  · exact hf p
  · exact ⟨rfl, rfl⟩

theorem entries_map_onPort {id : String} {ports : List Port}
    (hf : ∀ p : Port, (f p).id = p.id ∧ (f p).networkId = p.networkId) :
    x.entries (ports.map (onPort id f)) = x.entries ports := by
  have hsame := onPort_place hf id
  have hentry : ∀ p, x.entry (onPort id f p) = x.entry p := by
    intro p
    rw [entry, (hsame p).1, (hsame p).2, entry]
  unfold entries
  rw [List.filter_map, List.map_map]
  simp only [Function.comp_def, hentry, hsame]

theorem Standing.port (h : x.Standing links old d) {k : Option String × String}
    (hk : k ∈ links.map Link.key) : ∃ p ∈ (x.view d).ports, (p.link x.former).key = k := by
  obtain ⟨l, hl, rfl⟩ := List.mem_map.mp hk
  rw [← h.links] at hl
  obtain ⟨p, hp, rfl⟩ := List.mem_map.mp hl
  exact ⟨p, hp, rfl⟩

theorem Standing.unique (h : x.Standing links old d) (hnodup : (links.map Link.key).Nodup)
    (hp : p ∈ (x.view d).ports) (hq : q ∈ (x.view d).ports)
    (hkey : (q.link x.former).key = (p.link x.former).key) : q = p := by
  rw [← h.links, List.map_map] at hnodup
  exact List.inj_on_of_nodup_map hnodup hq hp hkey

/-- Of the links only that of the changed port has changed. -/
theorem Standing.altered (h : x.Standing links old d) (hnodup : (links.map Link.key).Nodup)
    (hs : d.substrate.Sound) (hp : p ∈ (x.view d).ports)
    (hconcerns : (p.link x.former).Concerns change) (haltered : x.Altered d p g q d') :
    x.Standing (links.map fun l => if l.Concerns change then g l else l) old d' := by
  obtain ⟨⟨f, hf, rfl, hview⟩, hlink, -⟩ := haltered
  constructor
  case links =>
    rw [hview, ← h.links, List.map_map, List.map_map]
    apply List.map_congr_left
    intro p' hp'
    simp only [Function.comp_apply, onPort]
    by_cases hid : p'.id = p.id
    · obtain rfl := hs.pluggedPorts_unique hp hp' hid
      rw [if_pos rfl, if_pos hconcerns, hlink]
    · have hother : ¬ (p'.link x.former).Concerns change := by
        intro hconcerns'
        have heq := h.unique hnodup hp hp' (hconcerns'.trans hconcerns.symm)
        exact hid (heq ▸ rfl)
      rw [if_neg hid, if_neg hother]
  case records => rw [hview, h.records, entries_map_onPort hf]
  case made =>
    intro p' hp' hnew
    rw [hview] at hp'
    obtain ⟨p₀, hp₀, rfl⟩ := List.mem_map.mp hp'
    have hsame := (onPort_place hf p.id p₀).1
    rw [hsame] at hnew ⊢
    exact h.made p₀ hp₀ hnew

end Side

namespace Thread

open Side

variable {x : Side} {share : Share} {d : Deployment} {p : Port} {subnetId : String}

/-- A port of the instance gains an address, if there is one left. -/
theorem secured_plugFixedIp (hp : p ∈ (x.view d).ports)
    (hregistered : x.start.Registered subnetId p.networkId)
    (hbudget : 1 ≤ share.budget subnetId) :
    (onSubstrate (Substrate.plugFixedIp p.id subnetId)).Secured x
      (Done fun q share' d' => share' = share.spend subnetId ∧
        x.Altered d p (Link.gain subnetId) q d') share d := by
  refine secured_onSubstrate fun d' hrely =>
    ((ends_plugFixedIp _ _ _).and (ends_plugFixedIp_subnets _ _ _)).mono ?_ ?_
  · intro q t hend
    obtain ⟨⟨p', ips, hgains, rfl⟩, p'', hget, hsubnets⟩ := hend
    have hp' : p ∈ (x.view d').ports := hrely.view_eq ▸ hp
    have hstored := (hrely.holds.sound.mem_pluggedPorts.mp hp').2
    cases hstored.symm.trans hget
    cases hstored.symm.trans hgains.port
    have hguarantee := hrely.holds.amended hp' hgains.amended (fun _ => rfl)
      (Share.spend_of_spends hgains.spends hbudget) hgains.sameNetworks
      (hgains.sound hrely.holds.sound)
    have haltered := hrely.holds.altered hp' hgains.amended (fun _ => ⟨rfl, rfl⟩)
      (Port.link_addIps x.former hsubnets) hguarantee.holds
    exact ⟨_, hguarantee, fun d'' hrely' => ⟨p.addIps ips, rfl, rfl,
      haltered.of_view_eq hrely.view_eq.symm hrely'.view_eq⟩⟩
  · intro e t hend
    obtain ⟨⟨u, -, -, hwhy⟩, -⟩ := hend
    have hstored := (hrely.holds.sound.mem_pluggedPorts.mp (hrely.view_eq ▸ hp)).2
    exact (hwhy hrely.holds.capable.faults p hstored
      ⟨hrely.holds.sameNetworks.registered.mpr hregistered,
        (hrely.holds.room subnetId).mono hbudget⟩).elim

/-- A port of the instance loses its addresses on a subnet, unless these are kept. -/
theorem secured_unplugFixedIp (hp : p ∈ (x.view d).ports) (subnetId : String) :
    (onSubstrate (Substrate.unplugFixedIp p.id subnetId)).Secured x
      (Done fun q share' d' => share' = share ∧
        x.Altered d p (Link.lose subnetId (x.start.keepsAddresses subnetId)) q d') share d := by
  refine secured_onSubstrate fun d' hrely => (ends_unplugFixedIp _ _ _).mono ?_ ?_
  · intro q t hend
    obtain ⟨p', hloses, rfl⟩ := hend
    have hp' : p ∈ (x.view d').ports := hrely.view_eq ▸ hp
    have hstored := (hrely.holds.sound.mem_pluggedPorts.mp hp').2
    cases hstored.symm.trans hloses.port
    have hguarantee := hrely.holds.amended hp' hloses.amended
      (fun _ => Port.release_networkId _ _ _) (Share.same_of_spends hloses.spends)
      hloses.sameNetworks (hloses.sound hrely.holds.sound)
    have haltered := hrely.holds.altered hp' hloses.amended
      (fun _ => ⟨Port.release_id _ _ _, Port.release_networkId _ _ _⟩)
      (Port.link_release x.former p _ _) hguarantee.holds
    rw [hrely.holds.sameNetworks.keepsAddresses] at haltered
    refine ⟨share, hguarantee, fun d'' hrely' => ⟨_, rfl, rfl, ?_⟩⟩
    rw [hrely.holds.sameNetworks.keepsAddresses]
    exact haltered.of_view_eq hrely.view_eq.symm hrely'.view_eq
  · intro e t hend
    have hstored := (hrely.holds.sound.mem_pluggedPorts.mp (hrely.view_eq ▸ hp)).2
    cases hstored.symm.trans (hend.2 hrely.holds.capable.faults)

end Thread

namespace Side

variable {x : Side} {share : Share} {d d' : Deployment} {delta : Delta} {p q q' : Port}
  {links : List Link} {old : List MemberPortBinding} {change : SubnetChange}
  {rest : List SubnetChange} {changed : ChangedPorts}

/-- The link that a change is about has a port. A port that counts as changed is that one. -/
theorem Adding.target (h : x.Adding delta old links rest changed share d)
    (hnodup : (links.map Link.key).Nodup) (hchange : change ∈ delta.addSubnets)
    (hkey : (change.portId, change.networkId) ∈ links.map Link.key) :
    ∃ p ∈ (x.view d).ports, (p.link x.former).Concerns change ∧
      change.target changed = some p.id ∧
      ∀ q, changed.get? change.networkId = some q → p.Matches q := by
  obtain ⟨p, hp, hconcerns⟩ := h.standing.port hkey
  have hmatches : ∀ q, changed.get? change.networkId = some q → p.Matches q := by
    intro q hq
    obtain ⟨p', hp', hmatches, hconcerns'⟩ := h.counted change hchange q hq
    obtain rfl := h.standing.unique hnodup hp hp' (hconcerns'.trans hconcerns.symm)
    exact hmatches
  refine ⟨p, hp, hconcerns, ?_, hmatches⟩
  unfold SubnetChange.target
  by_cases hformer : p.id ∈ x.former
  · rw [Port.key_link_old hformer] at hconcerns
    rw [← (Prod.mk.inj hconcerns).1]
    rfl
  · rw [Port.key_link_new hformer] at hconcerns
    obtain ⟨hport, hnetwork⟩ := Prod.mk.inj hconcerns
    obtain ⟨q, hq⟩ := h.covered p hp hformer
    rw [hnetwork] at hq
    rw [← hport, hq, ← (hmatches q hq).id]
    rfl

/-- A subnet that the port of the link has already changes nothing. -/
theorem Adding.present (h : x.Adding delta old links (change :: rest) changed share d)
    (hnodup : (links.map Link.key).Nodup) (hp : p ∈ (x.view d).ports)
    (hconcerns : (p.link x.former).Concerns change) (hhas : p.hasSubnet change.subnetId) :
    x.Adding delta old (Delta.addLinked links change) rest changed share d := by
  have hsame : Delta.addLinked links change = links := by
    rw [Delta.addLinked, ← h.standing.links, List.map_map]
    apply List.map_congr_left
    intro p' hp'
    simp only [Function.comp_apply]
    split
    next hconcerns' =>
      obtain rfl := h.standing.unique hnodup hp hp' (hconcerns'.trans hconcerns.symm)
      exact if_pos (Port.hasSubnet_iff_mem_link.mp hhas)
    next => rfl
  rw [hsame]
  exact ⟨h.standing, h.counted, h.covered,
    fun change' hchange' => h.affordable change' (List.mem_cons_of_mem _ hchange')⟩

theorem Adding.altered (h : x.Adding delta old links (change :: rest) changed share d)
    (hcoherent : delta.Coherent x.start x.computeId) (hnodup : (links.map Link.key).Nodup)
    (hs : d.substrate.Sound) (hchange : change ∈ delta.addSubnets)
    (hrest : ∀ change' ∈ rest, change' ∈ delta.addSubnets ∧ change'.subnetId ≠ change.subnetId)
    (hp : p ∈ (x.view d).ports) (hconcerns : (p.link x.former).Concerns change)
    (haltered : x.Altered d p (Link.gain change.subnetId) q d') (hmatches : q.Matches q') :
    x.Adding delta old (Delta.addLinked links change) rest
      (changed.insert change.networkId q') (share.spend change.subnetId) d' := by
  have hstanding := h.standing.altered hnodup hs hp hconcerns haltered
  obtain ⟨⟨f, hf, rfl, hview⟩, hlink, -⟩ := haltered
  have hports : (x.view d').ports = (x.view d).ports.map (onPort p.id f) := by rw [hview]
  constructor
  case standing => exact hstanding
  case counted =>
    intro change' hchange' r hr
    rw [IdMap.get?_insert] at hr
    rw [hports]
    split at hr
    next heq =>
      cases hr
      refine ⟨f p, List.mem_map.mpr ⟨p, hp, if_pos rfl⟩, hmatches, ?_⟩
      rw [Link.Concerns, hlink, Link.key_gain, hconcerns, heq,
        hcoherent.together change hchange change' hchange' heq]
    next hne =>
      obtain ⟨p', hp', hcounted, hconcerns'⟩ := h.counted change' hchange' r hr
      -- a port on another network is another port
      have hid : p'.id ≠ p.id := by
        intro hid
        obtain rfl := hs.pluggedPorts_unique hp hp' hid
        exact hne (Prod.mk.inj (hconcerns'.symm.trans hconcerns)).2
      exact ⟨p', List.mem_map.mpr ⟨p', hp', onPort_of_ne hid⟩, hcounted, hconcerns'⟩
  case covered =>
    intro p' hp' hnew
    rw [hports] at hp'
    obtain ⟨p₀, hp₀, rfl⟩ := List.mem_map.mp hp'
    have hsame := onPort_place hf p.id p₀
    rw [hsame.2, IdMap.get?_insert]
    split
    · exact ⟨q', rfl⟩
    · exact h.covered p₀ hp₀ (hsame.1 ▸ hnew)
  case affordable =>
    intro change' hchange'
    obtain ⟨hmem, hother⟩ := hrest change' hchange'
    have hbudget : (share.spend change.subnetId).budget change'.subnetId =
        share.budget change'.subnetId := if_neg hother
    rw [hbudget]
    refine (h.affordable change' (List.mem_cons_of_mem _ hchange')).imp_right fun hpresent => ?_
    obtain ⟨r, hr, hhas⟩ := hpresent
    by_cases hnetwork : change'.networkId = change.networkId
    · refine ⟨q', by rw [hnetwork, IdMap.get?_insert_self], ?_⟩
      obtain ⟨p', hp', hcounted, hconcerns'⟩ := h.counted change' hmem r hr
      have hport := hcoherent.together change hchange change' hmem hnetwork
      rw [Link.Concerns, hport, hnetwork] at hconcerns'
      obtain rfl := h.standing.unique hnodup hp hp' (hconcerns'.trans hconcerns.symm)
      rw [hcounted.hasSubnet, Port.hasSubnet_iff_mem_link] at hhas
      rw [hmatches.hasSubnet, Port.hasSubnet_iff_mem_link, hlink]
      exact Link.mem_gain hhas
    · exact ⟨r, by rw [IdMap.get?_insert, if_neg hnetwork, hr], hhas⟩

end Side

namespace Thread

open Side

variable {x : Side} {share : Share} {d : Deployment} {delta : Delta} {links : List Link}
  {old : List MemberPortBinding} {change : SubnetChange} {rest : List SubnetChange}
  {changed : ChangedPorts}

theorem secured_addSubnet (hcoherent : delta.Coherent x.start x.computeId)
    (hnodup : (links.map Link.key).Nodup) (hchange : change ∈ delta.addSubnets)
    (hkey : (change.portId, change.networkId) ∈ links.map Link.key)
    (hrest : ∀ change' ∈ rest, change' ∈ delta.addSubnets ∧ change'.subnetId ≠ change.subnetId)
    (h : x.Adding delta old links (change :: rest) changed share d) :
    (addSubnet changed change).Secured x
      (Done (x.Adding delta old (Delta.addLinked links change) rest)) share d := by
  refine secured_of_later fun d' hrely => ?_
  have h := h.of_view_eq hrely.view_eq
  obtain ⟨p, hp, hconcerns, htarget, hmatches⟩ := h.target hnodup hchange hkey
  unfold addSubnet
  rw [SubnetChange.target] at htarget
  simp only [htarget, orFail, pure_bind]
  split
  next hany =>
    obtain ⟨q, hq, hhas⟩ := Option.any_eq_true _ _ |>.mp hany
    have hpresent := h.present hnodup hp hconcerns (((hmatches q hq).hasSubnet _).mp hhas)
    exact secured_pure fun d'' hrely' => ⟨changed, rfl, hpresent.of_view_eq hrely'.view_eq⟩
  next habsent =>
    have hbudget : 1 ≤ share.budget change.subnetId := by
      rcases h.affordable change List.mem_cons_self with hbudget | ⟨q, hq, hhas⟩
      · exact hbudget
      · exact absurd (Option.any_eq_true _ _ |>.mpr ⟨q, hq, hhas⟩) habsent
    have hnetwork : p.networkId = change.networkId := congrArg Prod.snd hconcerns
    have hregistered := hcoherent.registered change hchange
    rw [← hnetwork] at hregistered
    refine (secured_plugFixedIp hp hregistered hbudget).followed fun q share' e hplugged => ?_
    obtain ⟨rfl, haltered⟩ := hplugged
    refine (secured_fillPort haltered.fillable).looked fun q' e' hrely' hfilled => ?_
    refine secured_pure fun e'' hrely'' => ⟨_, rfl, ?_⟩
    exact (h.altered hcoherent hnodup hrely.holds.sound hchange hrest hp hconcerns haltered
      hfilled).of_view_eq (hrely'.trans hrely'').view_eq

theorem secured_deleteSubnet {id : String} (hport : change.portId = some id)
    (hnodup : (links.map Link.key).Nodup)
    (hkey : (change.portId, change.networkId) ∈ links.map Link.key)
    (h : x.Standing links old d) : (deleteSubnet changed change).Secured x
      (Done fun _ _ d' => x.Standing (Delta.loseLinked x.start links change) old d') share d := by
  refine secured_of_later fun d' hrely => ?_
  have h := h.of_view_eq hrely.view_eq
  obtain ⟨p, hp, hconcerns⟩ := h.port hkey
  have hid : p.id = id := by
    rw [hport] at hconcerns
    by_cases hformer : p.id ∈ x.former
    · rw [Port.key_link_old hformer] at hconcerns
      exact Option.some.inj (Prod.mk.inj hconcerns).1
    · rw [Port.key_link_new hformer] at hconcerns
      cases (Prod.mk.inj hconcerns).1
  unfold deleteSubnet
  rw [hport, ← hid]
  refine (secured_unplugFixedIp hp change.subnetId).followed fun q share' e hunplugged => ?_
  obtain ⟨rfl, haltered⟩ := hunplugged
  refine (secured_fillPort haltered.fillable).looked fun q' e' hrely' _ => ?_
  refine secured_pure fun e'' hrely'' => ⟨_, rfl, ?_⟩
  exact (h.altered hnodup hrely.holds.sound hp hconcerns haltered).of_view_eq
    (hrely'.trans hrely'').view_eq

/-! All subnets -/

/-- Some subnets have been added, and those of `rest` follow. -/
def AddingSubnets (x : Side) (delta : Delta) (old : List MemberPortBinding)
    (rest : List SubnetChange) (changed : ChangedPorts) (share : Share) (d : Deployment) : Prop :=
  rest.Sublist delta.addSubnets ∧ ∃ links,
    rest.foldl Delta.addLinked links =
      delta.addSubnets.foldl Delta.addLinked (delta.begun x.start x.computeId) ∧
    links.map Link.key = (delta.begun x.start x.computeId).map Link.key ∧
    x.Adding delta old links rest changed share d

/-- All new subnets are added, whatever the other thread does in between. -/
theorem secured_addSubnets (hs : x.start.Sound) (hcoherent : delta.Coherent x.start x.computeId)
    (h : AddingSubnets x delta old delta.addSubnets changed share d) :
    Secured x (Done (AddingSubnets x delta old [])) (delta.addSubnets.foldlM addSubnet changed)
      share d := by
  refine secured_foldlM ?_ ?_ h
  · intro rest changed share d d' h hrely
    obtain ⟨hsub, links, hlinks, hkeys, hadding⟩ := h
    exact ⟨hsub, links, hlinks, hkeys, hadding.of_view_eq hrely.view_eq⟩
  · intro change rest changed share d h
    obtain ⟨hsub, links, hlinks, hkeys, hadding⟩ := h
    have hchange := hsub.subset List.mem_cons_self
    have hkey : (change.portId, change.networkId) ∈ links.map Link.key :=
      hkeys ▸ hcoherent.concerned change (List.mem_append_left _ hchange)
    have hrest : ∀ change' ∈ rest,
        change' ∈ delta.addSubnets ∧ change'.subnetId ≠ change.subnetId := by
      intro change' hchange'
      refine ⟨hsub.subset (List.mem_cons_of_mem _ hchange'), fun heq => ?_⟩
      have hnodup := (hsub.map (·.subnetId)).nodup hcoherent.subnets_nodup
      exact (List.nodup_cons.mp hnodup).1 (List.mem_map.mpr ⟨change', hchange', heq⟩)
    refine (secured_addSubnet hcoherent (hkeys ▸ hcoherent.keys_nodup hs) hchange hkey hrest
      hadding).mono ?_
    intro result share' d' hdone
    obtain ⟨changed', rfl, hadding'⟩ := hdone
    exact ⟨changed', rfl, (List.sublist_cons_self _ _).trans hsub, Delta.addLinked links change,
      hlinks, (Delta.keys_addLinked links change).trans hkeys, hadding'⟩

/-- Some subnets have been removed from the links, and those of `rest` follow. -/
def DeletingSubnets (x : Side) (delta : Delta) (old : List MemberPortBinding)
    (rest : List SubnetChange) (_ : ChangedPorts) (_ : Share) (d : Deployment) : Prop :=
  rest ⊆ delta.deleteSubnets ∧ ∃ links,
    rest.foldl (Delta.loseLinked x.start) links =
      delta.deleteSubnets.foldl (Delta.loseLinked x.start)
        (delta.addSubnets.foldl Delta.addLinked (delta.begun x.start x.computeId)) ∧
    links.map Link.key = (delta.begun x.start x.computeId).map Link.key ∧
    x.Standing links old d

/-- All old subnets are removed, whatever the other thread does in between. -/
theorem secured_deleteSubnets (hs : x.start.Sound)
    (hcoherent : delta.Coherent x.start x.computeId)
    (h : DeletingSubnets x delta old delta.deleteSubnets changed share d) :
    Secured x (Done (DeletingSubnets x delta old []))
      (delta.deleteSubnets.foldlM deleteSubnet changed) share d := by
  refine secured_foldlM ?_ ?_ h
  · intro rest changed share d d' h hrely
    obtain ⟨hmem, links, hlinks, hkeys, hstanding⟩ := h
    exact ⟨hmem, links, hlinks, hkeys, hstanding.of_view_eq hrely.view_eq⟩
  · intro change rest changed share d h
    obtain ⟨hmem, links, hlinks, hkeys, hstanding⟩ := h
    obtain ⟨hchange, hrest⟩ := List.cons_subset.mp hmem
    obtain ⟨id, hport⟩ := hcoherent.lost change hchange
    have hkey : (change.portId, change.networkId) ∈ links.map Link.key :=
      hkeys ▸ hcoherent.concerned change (List.mem_append_right _ hchange)
    refine (secured_deleteSubnet hport (hkeys ▸ hcoherent.keys_nodup hs) hkey hstanding).mono ?_
    intro result share' d' hdone
    obtain ⟨changed', rfl, hstanding'⟩ := hdone
    exact ⟨changed', rfl, hrest, Delta.loseLinked x.start links change, hlinks,
      (Delta.keys_loseLinked x.start links change).trans hkeys, hstanding'⟩

end Thread

end AmphoraWiring
