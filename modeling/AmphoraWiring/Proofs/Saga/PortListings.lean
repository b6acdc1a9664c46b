import AmphoraWiring.Proofs.Saga.PortDetails
import AmphoraWiring.Proofs.Substrate.Coherence
import AmphoraWiring.Saga.Attachment
import Mathlib.Data.List.Forall2

/-!
The steps that list the ports of an amphora. Each port is read once, and the management port is
left out, which is known by its address alone. So every plugged port is listed that does not carry
this address, and a port of a tenant that carries it too is left out with it.
-/
namespace AmphoraWiring

open Action

namespace Substrate

variable {s t u : Substrate}

theorem contains_of_mem_pluggedPortIds {c id : String} (h : id ∈ s.pluggedPortIds c) :
    s.plugged.contains c := by
  unfold pluggedPortIds at h
  cases hget : s.plugged.get? c with
  | some ids => exact IdMap.contains_iff.mpr ⟨ids, hget⟩
  | none =>
    rw [hget] at h
    cases h

theorem map_id_pluggedPorts {c : String}
    (h : ∀ id ∈ s.pluggedPortIds c, ∃ p, s.ports.get? id = some p ∧ p.id = id) :
    (s.pluggedPorts c).map (·.id) = s.pluggedPortIds c := by
  have hsame : ∀ ids : List String, (∀ id ∈ ids, ∃ p, s.ports.get? id = some p ∧ p.id = id) →
      (ids.filterMap s.ports.get?).map (·.id) = ids := by
    intro ids hids
    induction ids with
    | nil => rfl
    | cons id ids ih =>
      obtain ⟨⟨p, hp, hid⟩, hrest⟩ := List.forall_mem_cons.mp hids
      rw [List.filterMap_cons_some hp, List.map_cons, hid, ih hrest]
  exact hsame _ h

/-- The ports of an instance are found under the ids that it lists. -/
theorem Coherent.map_id_pluggedPorts (hs : s.Coherent) (c : String) :
    (s.pluggedPorts c).map (·.id) = s.pluggedPortIds c := by
  refine Substrate.map_id_pluggedPorts fun id hid => ?_
  obtain ⟨p, hp⟩ := hs.exists_port hid
  exact ⟨p, hp, hs.own_id hp⟩

/-- The port as the next reading answers it: a port whose last reading has come is down. -/
def asRead (s : Substrate) (p : Port) : Port :=
  if s.pendingDown.get? p.id = some 0 then { p with status := .down } else p

/-- Reading a port may change its status. -/
theorem asRead_eq (s : Substrate) (p : Port) : ∃ status, s.asRead p = { p with status } := by
  unfold asRead
  split
  · exact ⟨.down, rfl⟩
  · exact ⟨p.status, rfl⟩

/-- `t` is `s` after calls that have read the status of these ports, and of no others. -/
structure StatusRead (s t : Substrate) (ids : List String) : Prop where
  networks : t.networks = s.networks
  subnets : t.subnets = s.subnets
  plugged : t.plugged = s.plugged
  faults : t.faults = []
  unread : ∀ id ∉ ids, t.ports.get? id = s.ports.get? id ∧
    t.pendingDown.get? id = s.pendingDown.get? id
  kept : ∀ id p, s.ports.get? id = some p → ∃ status, t.ports.get? id = some { p with status }

namespace StatusRead

variable {ids ids' : List String}

theorem refl (hquiet : s.faults = []) (ids : List String) : s.StatusRead s ids :=
  ⟨rfl, rfl, rfl, hquiet, fun _ _ => ⟨rfl, rfl⟩, fun _ p hp => ⟨p.status, hp⟩⟩

theorem of_heard (hquiet : s.faults = []) (h : s.Heard t) (ids : List String) :
    s.StatusRead t ids := by
  obtain ⟨calls, faults, rfl, hfaults⟩ := h
  exact ⟨rfl, rfl, rfl, hfaults hquiet, fun _ _ => ⟨rfl, rfl⟩, fun _ p hp => ⟨p.status, hp⟩⟩

theorem trans (h : s.StatusRead t ids) (h' : t.StatusRead u ids') :
    s.StatusRead u (ids ++ ids') := by
  refine ⟨h'.networks.trans h.networks, h'.subnets.trans h.subnets, h'.plugged.trans h.plugged,
    h'.faults, fun id hid => ?_, fun id p hp => ?_⟩
  · rw [List.mem_append, not_or] at hid
    have hfirst := h.unread id hid.1
    have hsecond := h'.unread id hid.2
    exact ⟨hsecond.1.trans hfirst.1, hsecond.2.trans hfirst.2⟩
  · obtain ⟨status, hp'⟩ := h.kept id p hp
    exact h'.kept id { p with status } hp'

theorem sameNetworks (h : s.StatusRead t ids) : s.SameNetworks t :=
  ⟨h.networks, h.subnets, fun _ => h.faults⟩

theorem heard (h : s.StatusRead t ids) (h' : t.Heard u) : s.StatusRead u ids := by
  simpa using h.trans (.of_heard h.faults h' [])

end StatusRead

/-- Reading a port changes nothing but its own status and how long it is still to go down. -/
theorem ends_getPort_quiet (hquiet : s.faults = []) {id : String} {p : Port}
    (hp : s.ports.get? id = some p) (hid : p.id = id) : (getPort id).Ends s
      (fun q t => q = s.asRead p ∧ s.StatusRead t [id]) fun _ _ => False := by
  subst hid
  refine ends_quiet hquiet (ends_get ?_)
  have hheard : s.Heard (s.journaled [⟨.getPort, p.id⟩]) := ⟨_, s.faults, rfl, id⟩
  have hportById : ∀ t : Substrate, t.ports = s.ports → s.pendingDown.get? p.id ≠ some 0 →
      s.StatusRead t [p.id] → (portById p.id).Ends t
        (fun q t => q = s.asRead p ∧ s.StatusRead t [p.id]) fun _ _ => False := by
    intro t hports hleft hread
    apply (ends_portById p.id t).mono
    · intro q u hend
      obtain ⟨rfl, hq⟩ := hend
      rw [hports, hp] at hq
      cases hq
      exact ⟨(if_neg hleft).symm, hread⟩
    · intro e u hend
      rw [hports, hp] at hend
      cases hend.2
  cases hpending : (s.journaled [⟨.getPort, p.id⟩]).pendingDown.get? p.id with
  | none =>
    refine hportById _ rfl ?_ (.of_heard hquiet hheard _)
    rw [show s.pendingDown.get? p.id = none from hpending]
    simp
  | some left =>
    have hleft : s.pendingDown.get? p.id = some left := hpending
    cases left with
    | zero =>
      apply ends_modify
      apply (ends_updatePort p.id _ _).mono
      · intro q t hend
        obtain ⟨rfl, p', hp', rfl⟩ := hend
        cases hp.symm.trans hp'
        refine ⟨(if_pos hleft).symm, rfl, rfl, rfl, hquiet, fun id hid => ?_, fun id p' hp' => ?_⟩
        · have hne : id ≠ p.id := fun heq => hid (List.mem_singleton.mpr heq)
          exact ⟨(IdMap.get?_modify _ _ _ _).trans (if_neg hne),
            (IdMap.get?_erase _ _ _).trans (if_neg hne)⟩
        · rw [show (Substrate.amend _ p.id _).ports.get? id = _ from IdMap.get?_modify _ _ _ _]
          by_cases hid : id = p.id
          · exact ⟨.down, by rw [if_pos hid]; exact congrArg (Option.map _) hp'⟩
          · exact ⟨p'.status, (if_neg hid).trans hp'⟩
      · intro e t hend
        cases hp.symm.trans hend.2
    | succ left =>
      refine ends_modify (hportById _ rfl (by simp [hleft]) ?_)
      refine ⟨rfl, rfl, rfl, hquiet, fun id hid => ⟨rfl, ?_⟩, fun _ p hp => ⟨p.status, hp⟩⟩
      have hne : id ≠ p.id := fun heq => hid (List.mem_singleton.mpr heq)
      exact (IdMap.get?_insert _ _ _ _).trans (if_neg hne)

/-- Once some ports have been read, reading one more answers it as it was, but for its status; and
if it has not been read yet, its status is the one that the first reading answers. -/
theorem StatusRead.ends_getPort {ids : List String} {p : Port} (h : s.StatusRead t ids)
    (hp : s.ports.get? p.id = some p) : (getPort p.id).Ends t
      (fun q u => (∃ status, q = { p with status }) ∧ (p.id ∉ ids → q = s.asRead p) ∧
        s.StatusRead u (ids ++ [p.id])) fun _ _ => False := by
  obtain ⟨status, hp'⟩ := h.kept p.id p hp
  apply (ends_getPort_quiet h.faults hp' rfl).mono
  · intro q u hend
    obtain ⟨rfl, hread⟩ := hend
    refine ⟨?_, fun hid => ?_, h.trans hread⟩
    · obtain ⟨status', hq⟩ := t.asRead_eq { p with status }
      exact ⟨status', hq⟩
    · obtain ⟨hports, hpending⟩ := h.unread p.id hid
      have hsame : { p with status } = p := Option.some.inj (hp'.symm.trans (hports.trans hp))
      rw [hsame, asRead, hpending, asRead]
  · exact fun _ _ h => h

end Substrate

theorem Amphora.isManagementPort_setStatus (amphora : Amphora) (p : Port) (status : PortStatus) :
    amphora.isManagementPort { p with status } = amphora.isManagementPort p := rfl

namespace Step

open Deployment Substrate

variable {s : Substrate} {amphora : Amphora}

/-- The ports are read one after the other, and those on management addresses are left out. -/
theorem ends_collectPorts {ps found : List Port} {seen : List String} {run : Run Deployment}
    (hread : s.StatusRead run.state.substrate seen)
    (hstored : ∀ p ∈ ps, s.ports.get? p.id = some p)
    (hnodup : (seen ++ ps.map (·.id)).Nodup) (hfound : ∀ q ∈ found, q.id ∈ seen) :
    Action.Ends ((ps.map (·.id)).foldlM (collectPort amphora) found) run
      (fun ports _ =>
        ports = found ++ (ps.filter fun p => !amphora.isManagementPort p).map s.asRead)
      fun _ _ => False := by
  induction ps generalizing found seen run with
  | nil => exact ends_pure (by simp)
  | cons p ps ih =>
    rw [List.map_cons, List.foldlM_cons]
    have hnew : p.id ∉ seen := by
      intro hmem
      exact (List.nodup_append.mp hnodup).2.2 _ hmem _ List.mem_cons_self rfl
    have habsent : (found.any fun q => q.id = p.id) = false := by
      simp only [List.any_eq_false, decide_eq_true_eq]
      exact fun q hq heq => hnew (heq ▸ hfound q hq)
    have hcollect : Action.Ends (collectPort amphora found p.id) run
        (fun found' run' => found' = (if amphora.isManagementPort p then found
            else found ++ [s.asRead p]) ∧
          s.StatusRead run'.state.substrate (seen ++ [p.id]))
        fun _ _ => False := by
      unfold collectPort
      simp only [habsent, Bool.false_eq_true, if_false]
      refine (ends_onSubstrate (hread.ends_getPort (hstored p List.mem_cons_self))).bind ?_
        (fun _ _ h => h.1)
      intro q run' hend
      obtain ⟨⟨⟨status, hq⟩, hfirst, hread'⟩, -⟩ := hend
      refine ends_pure ⟨?_, hread'⟩
      rw [hfirst hnew] at hq ⊢
      rw [hq, amphora.isManagementPort_setStatus]
    refine hcollect.bind ?_ (fun _ _ h => h)
    intro found' run' hend
    obtain ⟨rfl, hread'⟩ := hend
    have hrest : (seen ++ [p.id] ++ ps.map (·.id)).Nodup := by simpa using hnodup
    apply (ih hread' (fun q hq => hstored q (List.mem_cons_of_mem _ hq)) hrest ?_).mono
    · intro ports run'' hend
      rw [hend]
      cases hmanagement : amphora.isManagementPort p <;> simp [hmanagement]
    · exact fun _ _ h => h
    · intro q hq
      split at hq
      · exact List.mem_append_left _ (hfound q hq)
      · rcases List.mem_append.mp hq with hq | hq
        · exact List.mem_append_left _ (hfound q hq)
        · obtain ⟨status, hsame⟩ := s.asRead_eq p
          rw [List.mem_singleton.mp hq, hsame]
          exact List.mem_append_right _ (List.mem_singleton_self _)

/-- The amphora reaches members by the port. -/
def reaches (amphora : Amphora) (vipNetworkId : String) (p : Port) : Bool :=
  !(decide (p.networkId = vipNetworkId) || amphora.isManagementPort p)

/-- A port that reaches members is answered with its details. The port of the virtual address may
have been read before, but then it is not one of these. -/
theorem ends_memberPort {vipPort p : Port} {seen : List String} {run : Run Deployment}
    (hquiet : s.faults = []) (hread : s.StatusRead run.state.substrate seen)
    (hstored : s.ports.get? p.id = some p) (hfill : Fillable s p)
    (hseen : p.id ∈ seen → p.networkId = vipPort.networkId) :
    Action.Ends (memberPort? amphora vipPort p.id) run
      (fun found run' => s.StatusRead run'.state.substrate (seen ++ [p.id]) ∧
        if reaches amphora vipPort.networkId p then ∃ q, found = some q ∧ s.Details (s.asRead p) q
        else found = none)
      fun _ _ => False := by
  refine (ends_onSubstrate (hread.ends_getPort hstored)).bind ?_ (fun _ _ h => h.1)
  intro q run' hend
  obtain ⟨⟨⟨status, hq⟩, hfirst, hread'⟩, -⟩ := hend
  have hleft : (decide (q.networkId = vipPort.networkId) || amphora.isManagementPort q) =
      !reaches amphora vipPort.networkId p := by
    rw [hq, reaches, Bool.not_not]
    rfl
  rw [hleft]
  cases hreaches : reaches amphora vipPort.networkId p with
  | false => exact ends_pure ⟨hread', by simp⟩
  | true =>
    -- the one port that was read before does not reach members
    have hunseen : p.id ∉ seen := by
      intro hmem
      simp [reaches, hseen hmem] at hreaches
    rw [← hfirst hunseen]
    have hfillable : Fillable run'.state.substrate q := by
      have hp : Fillable s q := by
        rw [hq]
        exact ⟨hfill.network, hfill.subnets⟩
      exact hp.later hread'.sameNetworks
    refine ((ends_fillPort q run').and (ends_fillPort_details q run')).bind ?_ ?_
    · intro filled run'' hend
      obtain ⟨⟨hheard, -⟩, -, hdetails⟩ := hend
      have hread'' := hread'.heard hheard.1
      have hback : run''.state.substrate.SameNetworks s :=
        ⟨hread''.networks.symm, hread''.subnets.symm, fun _ => hquiet⟩
      exact ends_pure ⟨hread'', filled, rfl, hdetails.later hback⟩
    · intro e run'' hend
      exact hend.1.2 hread'.faults hfillable

theorem ends_memberPorts {vipPort : Port} {ps : List Port} {seen : List String}
    {run : Run Deployment} (hquiet : s.faults = [])
    (hread : s.StatusRead run.state.substrate seen)
    (hstored : ∀ p ∈ ps, s.ports.get? p.id = some p ∧ Fillable s p)
    (hnodup : (ps.map (·.id)).Nodup)
    (hseen : ∀ p ∈ ps, p.id ∈ seen → p.networkId = vipPort.networkId) :
    Action.Ends ((ps.map (·.id)).mapM (memberPort? amphora vipPort)) run
      (fun found _ => List.Forall₂ s.Details
        ((ps.filter (reaches amphora vipPort.networkId)).map s.asRead) (found.filterMap id))
      fun _ _ => False := by
  induction ps generalizing seen run with
  | nil => exact ends_pure .nil
  | cons p ps ih =>
    obtain ⟨⟨hp, hfill⟩, hstored⟩ := List.forall_mem_cons.mp hstored
    obtain ⟨hseenp, hseen⟩ := List.forall_mem_cons.mp hseen
    obtain ⟨hnew, hnodup⟩ := List.nodup_cons.mp hnodup
    rw [List.map_cons, List.mapM_cons]
    refine (ends_memberPort hquiet hread hp hfill hseenp).bind ?_ (fun _ _ h => h)
    intro found run' hend
    obtain ⟨hread', hfound⟩ := hend
    refine (ih hread' hstored hnodup ?_).bind ?_ (fun _ _ h => h)
    · intro q hq hmem
      rcases List.mem_append.mp hmem with hmem | hmem
      · exact hseen q hq hmem
      · exact absurd (List.mem_map.mpr ⟨q, hq, List.mem_singleton.mp hmem⟩) hnew
    · intro rest run'' hrest
      apply ends_pure
      cases hreaches : reaches amphora vipPort.networkId p with
      | false =>
        simp only [hreaches, Bool.false_eq_true, if_false] at hfound
        simpa [hreaches, hfound] using hrest
      | true =>
        simp only [hreaches, if_true] at hfound
        obtain ⟨q, rfl, hdetails⟩ := hfound
        rw [List.filter_cons_of_pos hreaches, List.map_cons]
        exact .cons hdetails hrest

theorem ends_portIdsOf {seen : List String} {run : Run Deployment} (hs : s.Coherent)
    (hread : s.StatusRead run.state.substrate seen)
    (hhosted : s.plugged.contains amphora.instanceId) :
    Action.Ends (portIdsOf amphora) run
      (fun ids run' => ids = (s.pluggedPorts amphora.instanceId).map (·.id) ∧
        s.StatusRead run'.state.substrate seen)
      fun _ _ => False := by
  refine (ends_onSubstrate (ends_getPluggedNetworks amphora.instanceId _)).bind ?_ ?_
  · intro interfaces run' hend
    obtain ⟨⟨hheard, rfl, -⟩, -⟩ := hend
    refine ends_pure ⟨?_, hread.heard hheard⟩
    have hids : run.state.substrate.pluggedPortIds amphora.instanceId =
        s.pluggedPortIds amphora.instanceId := by
      rw [pluggedPortIds, hread.plugged, pluggedPortIds]
    have hports : ∀ id ∈ run.state.substrate.pluggedPortIds amphora.instanceId,
        ∃ p, run.state.substrate.ports.get? id = some p ∧ p.id = id := by
      intro id hid
      obtain ⟨p, hp⟩ := hs.exists_port (hids ▸ hid)
      obtain ⟨status, hp'⟩ := hread.kept id p hp
      have hid : p.id = id := hs.own_id hp
      exact ⟨{ p with status }, hp', hid⟩
    have hportIds : ∀ ps : List Port, (ps.map Port.toInterface).filterMap (·.portId) =
        ps.map (·.id) := by
      intro ps
      rw [List.filterMap_map]
      exact congrFun List.filterMap_eq_map' ps
    rw [hportIds, Substrate.map_id_pluggedPorts hports, hs.map_id_pluggedPorts, hids]
  · intro e run' hend
    have hnone := hend.1.2 hread.faults
    rw [hread.plugged, hhosted] at hnone
    cases hnone

/-- The service ports are those of the instance without the management address. -/
theorem ends_listServicePorts {run : Run Deployment} (hs : run.state.substrate.Coherent)
    (hquiet : run.state.substrate.faults = [])
    (hhosted : run.state.substrate.plugged.contains amphora.instanceId) :
    Action.Ends (listServicePorts amphora).execute run
      (fun ports _ => ports = ((run.state.substrate.pluggedPorts amphora.instanceId).filter
        fun p => !amphora.isManagementPort p).map run.state.substrate.asRead)
      fun _ _ => False := by
  refine (ends_portIdsOf hs (.refl hquiet []) hhosted).bind ?_ (fun _ _ h => h)
  intro ids run' hend
  obtain ⟨rfl, hread⟩ := hend
  have hnodup : ((run.state.substrate.pluggedPorts amphora.instanceId).map (·.id)).Nodup := by
    rw [hs.map_id_pluggedPorts]
    exact hs.nodup _
  refine (ends_collectPorts hread (fun p hp => ?_) (by simpa using hnodup) (by simp)).mono ?_ ?_
  · obtain ⟨id, -, hget⟩ := mem_pluggedPorts.mp hp
    rwa [hs.own_id hget]
  · exact fun ports run'' h => h.trans (List.nil_append _)
  · exact fun _ _ h => h

theorem ends_listMemberPorts {lb : LoadBalancer} {vipPortId : String} {vipPort : Port}
    {run : Run Deployment} (hs : run.state.substrate.Coherent)
    (hquiet : run.state.substrate.faults = [])
    (hhosted : run.state.substrate.plugged.contains amphora.instanceId)
    (hnetworked : ∀ p ∈ run.state.substrate.pluggedPorts amphora.instanceId,
      ∃ network, run.state.substrate.networks.get? p.networkId = some network)
    (hvip : lb.vip.portId = some vipPortId)
    (hvipPort : run.state.substrate.ports.get? vipPortId = some vipPort) :
    Action.Ends (listMemberPorts lb amphora).execute run
      (fun ports _ => List.Forall₂ run.state.substrate.Details
        (((run.state.substrate.pluggedPorts amphora.instanceId).filter
          (reaches amphora vipPort.networkId)).map run.state.substrate.asRead) ports)
      fun _ _ => False := by
  have hvipId : vipPort.id = vipPortId := hs.own_id hvipPort
  rw [← hvipId] at hvip hvipPort
  have hfound : (Action.orFail (.invalidInput ("load balancer " ++ lb.id ++ " has no VIP port"))
      lb.vip.portId : Work String).runOn run = (.ok vipPort.id, run) := by
    rw [hvip]
    rfl
  refine ends_bind_of_ok hfound ?_
  have hstart : run.state.substrate.StatusRead run.state.substrate [] := .refl hquiet []
  refine (ends_onSubstrate (hstart.ends_getPort hvipPort)).bind ?_ (fun _ _ h => h.1)
  intro read run₁ hend
  obtain ⟨⟨⟨status, hstatus⟩, -, hread⟩, -⟩ := hend
  refine (ends_portIdsOf hs hread hhosted).bind ?_ (fun _ _ h => h)
  intro ids run₂ hend
  obtain ⟨rfl, hread'⟩ := hend
  have hstored : ∀ p ∈ run.state.substrate.pluggedPorts amphora.instanceId,
      run.state.substrate.ports.get? p.id = some p ∧ Fillable run.state.substrate p := by
    intro p hp
    obtain ⟨id, -, hget⟩ := mem_pluggedPorts.mp hp
    refine ⟨by rwa [hs.own_id hget], hnetworked p hp, fun ip hip => ?_⟩
    exact ⟨p.networkId, hs.served hget ip hip⟩
  have hnodup : ((run.state.substrate.pluggedPorts amphora.instanceId).map (·.id)).Nodup := by
    rw [hs.map_id_pluggedPorts]
    exact hs.nodup _
  have hnetwork : read.networkId = vipPort.networkId := by
    rw [hstatus]
  refine (ends_memberPorts hquiet hread' hstored hnodup fun p hp hmem => ?_).bind ?_
    (fun _ _ h => h)
  · have hid : p.id = vipPort.id := by simpa using hmem
    have hsame := (hstored p hp).1
    rw [hid, hvipPort] at hsame
    rw [hnetwork, Option.some.inj hsame]
  · intro found run₃ hend
    rw [hnetwork] at hend
    exact ends_pure hend

/-- The ports of the amphora, in the order in which they were plugged in. -/
def portsOf (run : Run Deployment) (amphora : Amphora) : List Port :=
  run.state.substrate.pluggedPorts amphora.instanceId

/-- The ports without the address are all but the one that carries it exactly if that one is the
only one. -/
theorem filter_hasIp_eq_iff {ps : List Port} {m : Port} {a : Address} (hm : m.hasIp a)
    (hown : ∀ p ∈ ps, p.id = m.id → p = m) :
    (ps.filter fun p => !p.hasIp a) = (ps.filter fun p => p.id ≠ m.id) ↔
      ∀ p ∈ ps, p.hasIp a → p = m := by
  constructor
  · intro h p hp hip
    by_contra hne
    have hother : p ∈ ps.filter fun p => p.id ≠ m.id :=
      List.mem_filter.mpr ⟨hp, decide_eq_true fun hid => hne (hown p hp hid)⟩
    rw [← h] at hother
    simpa [hip] using (List.mem_filter.mp hother).2
  · intro h
    refine List.filter_congr fun p hp => ?_
    cases hip : p.hasIp a with
    | true => simp [h p hp hip]
    | false =>
      have hid : p.id ≠ m.id := by
        intro hid
        rw [hown p hp hid, hm] at hip
        cases hip
      simp [hid]

/-- Where no failure is scripted, an amphora that is known by the address `a` of one of its ports is
listed with every other port that does not carry `a`, each once and in the order in which they were
plugged in; for members, those on the network of the virtual address are left out as well. So its
management port alone is left out exactly if no other of its ports carries the address. -/
theorem listed_unless_management_address {amphora : Amphora} {run : Run Deployment} {a : Address}
    {m : Port} (hs : run.state.substrate.Coherent) (hquiet : run.state.substrate.faults = [])
    (hnetworked : ∀ p ∈ portsOf run amphora,
      ∃ network, run.state.substrate.networks.get? p.networkId = some network)
    (haddress : amphora.lbNetworkIp = some a) (hplugged : m ∈ portsOf run amphora)
    (hcarries : m.hasIp a) :
    ((portsOf run amphora).map (·.id)).Nodup ∧
    (∃ run', (listServicePorts amphora).execute.runOn run =
      (.ok (((portsOf run amphora).filter fun p => !p.hasIp a).map run.state.substrate.asRead),
        run')) ∧
    (∀ lb vipPortId vipPort, lb.vip.portId = some vipPortId →
      run.state.substrate.ports.get? vipPortId = some vipPort →
      ∃ ports run', (listMemberPorts lb amphora).execute.runOn run = (.ok ports, run') ∧
        List.Forall₂ run.state.substrate.Details
          (((portsOf run amphora).filter fun p =>
            !(decide (p.networkId = vipPort.networkId) || p.hasIp a)).map
              run.state.substrate.asRead) ports) ∧
    (((portsOf run amphora).filter fun p => !p.hasIp a) =
        ((portsOf run amphora).filter fun p => p.id ≠ m.id) ↔
      ∀ p ∈ portsOf run amphora, p.hasIp a → p = m) := by
  have hmanagement : ∀ p, amphora.isManagementPort p = p.hasIp a := by
    intro p
    rw [Amphora.isManagementPort, haddress, Option.any_some]
  have hhosted : run.state.substrate.plugged.contains amphora.instanceId := by
    obtain ⟨id, hid, -⟩ := mem_pluggedPorts.mp hplugged
    exact contains_of_mem_pluggedPortIds hid
  refine ⟨?_, ?_, fun lb vipPortId vipPort hvip hvipPort => ?_, ?_⟩
  · rw [portsOf, hs.map_id_pluggedPorts]
    exact hs.nodup _
  · obtain ⟨ports, run', hrun, rfl⟩ := (ends_listServicePorts hs hquiet hhosted).value
    simp only [hmanagement] at hrun
    exact ⟨run', hrun⟩
  · obtain ⟨ports, run', hrun, hports⟩ :=
      (ends_listMemberPorts hs hquiet hhosted hnetworked hvip hvipPort).value
    have hreaches : reaches amphora vipPort.networkId =
        fun p => !(decide (p.networkId = vipPort.networkId) || p.hasIp a) := by
      funext p
      rw [reaches, hmanagement]
    rw [hreaches] at hports
    exact ⟨ports, run', hrun, hports⟩
  · refine filter_hasIp_eq_iff hcarries fun p hp hid => ?_
    obtain ⟨k, -, hk⟩ := mem_pluggedPorts.mp hp
    obtain ⟨l, -, hl⟩ := mem_pluggedPorts.mp hplugged
    obtain rfl : k = l := (hs.own_id hk).symm.trans (hid.trans (hs.own_id hl))
    exact Option.some.inj (hk.symm.trans hl)

/-- An instance on the management network and on a network of a tenant that uses the same range. -/
def overlapping : Substrate :=
  Substrate.after {}
    [.addSubnet (Sample.subnet "mgmt-subnet" "mgmt-net" "192.168.0.0/24"),
     .addSubnet (Sample.subnet "tenant-subnet" "tenant-net" "192.168.0.0/24"),
     .seedInterface "vm-1" Sample.managementInterface,
     .seedInterface "vm-1" (Sample.memberInterface "tenant-net" "tenant-subnet")]

theorem overlapping_coherent : overlapping.Coherent := by
  refine Coherent.empty.after ⟨fun known hknown => ?_, fun known hknown => ?_, ?_, ?_, trivial⟩
  · cases hknown
  · cases hknown
  · exact fun h => absurd rfl h
  · exact fun h => absurd rfl h

/-- The amphora as it is known by its address on the management network. -/
def overlapped : Amphora :=
  { Sample.amphora "amp-1" "vm-1" with lbNetworkIp := some (.v4 0xc0a80002) }

/-- The management port is left out by its address. -/
theorem listed_unless_management_address_sample :
    ∃ m ∈ portsOf (Sample.start overlapping) overlapped, m.networkId = "mgmt-net" ∧
      ∃ run', (listServicePorts overlapped).execute.runOn (Sample.start overlapping) =
        (.ok (((portsOf (Sample.start overlapping) overlapped).filter
          fun p => !p.hasIp (.v4 0xc0a80002)).map overlapping.asRead), run') := by
  have hplugged : ∃ m ∈ portsOf (Sample.start overlapping) overlapped,
      m.networkId = "mgmt-net" ∧ m.hasIp (.v4 0xc0a80002) := by
    decide +kernel
  obtain ⟨m, hm, hnetwork, hip⟩ := hplugged
  have hnetworked : ∀ p ∈ portsOf (Sample.start overlapping) overlapped,
      (overlapping.networks.get? p.networkId).isSome := by
    decide +kernel
  have hcoherent : (Sample.start overlapping).state.substrate.Coherent := overlapping_coherent
  have hlisted := listed_unless_management_address hcoherent (by rfl)
    (fun p hp => Option.isSome_iff_exists.mp (hnetworked p hp)) rfl hm hip
  exact ⟨m, hm, hnetwork, hlisted.2.1⟩

/-- The port of the tenant has got the same address in its own network, and is not listed. -/
theorem tenant_port_left_out :
    overlapping.Coherent ∧ overlapping.faults = [] ∧
    (portsOf (Sample.start overlapping) overlapped).map (fun p => (p.networkId, p.fixedIps.map
      (·.ipAddress))) = [("mgmt-net", [some (.v4 0xc0a80002)]),
        ("tenant-net", [some (.v4 0xc0a80002)])] ∧
    overlapped.lbNetworkIp = some (.v4 0xc0a80002) ∧
    ((listServicePorts overlapped).execute.runOn (Sample.start overlapping)).1.toOption =
      some [] :=
  ⟨overlapping_coherent, by decide +kernel⟩

end Step

end AmphoraWiring
