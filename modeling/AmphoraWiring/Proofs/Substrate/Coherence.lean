import AmphoraWiring.Proofs.Substrate.Edits

/-!
The maps of a substrate refer to each other, and none of the references ever dangles. Each way to
change a map is shown to keep this once; a call is a row of such changes, so it keeps it wherever
it stops; and so does a history of calls, of failures that are scripted for them, and of changes
from outside.
-/
namespace AmphoraWiring.Substrate

open Action

/-- The addresses of the port are on subnets that are registered with its network. -/
def Serves (s : Substrate) (p : Port) : Prop :=
  ∀ ip ∈ p.fixedIps, s.Registered ip.subnetId p.networkId

/-- The maps of the substrate agree: a port is stored under its own id and its addresses are on
subnets of its network, an instance lists existing ports and each once, only an existing port is
going down, and a scripted failure is still to come at least once. -/
structure Coherent (s : Substrate) : Prop where
  own_id : ∀ {id p}, s.ports.get? id = some p → p.id = id
  exists_port : ∀ {computeId id}, id ∈ s.pluggedPortIds computeId → ∃ p, s.ports.get? id = some p
  nodup : ∀ computeId, (s.pluggedPortIds computeId).Nodup
  served : ∀ {id p}, s.ports.get? id = some p → s.Serves p
  going_down : ∀ {id left}, s.pendingDown.get? id = some left → ∃ p, s.ports.get? id = some p
  to_come : ∀ f ∈ s.faults, 0 < f.remaining

variable {s t u : Substrate} {wishes : List FixedIp}

/-- Whether the subnets serve a port depends on the subnets alone. -/
theorem Serves.of_subnets {p : Port} (h : s.Serves p) (hsubnets : t.subnets = s.subnets) :
    t.Serves p := by
  intro ip hip
  unfold Registered
  rw [hsubnets]
  exact h ip hip

namespace Coherent

theorem empty : Coherent {} where
  own_id h := by simp at h
  exists_port h := by simp [pluggedPortIds] at h
  nodup c := by simp [pluggedPortIds]
  served h := by simp at h
  going_down h := by simp at h
  to_come f h := by simp at h

/-- What coherence depends on. Networks, allocations, journal and the like are no part of it. -/
theorem of_eq (hs : s.Coherent) (hports : t.ports = s.ports) (hplugged : t.plugged = s.plugged)
    (hsubnets : t.subnets = s.subnets) (hpending : t.pendingDown = s.pendingDown)
    (hfaults : t.faults = s.faults) : t.Coherent := by
  have hids : ∀ c, t.pluggedPortIds c = s.pluggedPortIds c := by
    intro c
    rw [pluggedPortIds, hplugged, pluggedPortIds]
  constructor
  case own_id => exact fun h => hs.own_id (hports ▸ h)
  case exists_port => exact fun h => hports ▸ hs.exists_port (hids _ ▸ h)
  case nodup => exact fun c => hids c ▸ hs.nodup c
  case served => exact fun h => (hs.served (hports ▸ h)).of_subnets hsubnets
  case going_down => exact fun h => hports ▸ hs.going_down (hpending ▸ h)
  case to_come => exact hfaults ▸ hs.to_come

/-- Ports may come and change as long as none goes. -/
theorem setPorts (hs : s.Coherent) (ports : IdMap Port)
    (hkeep : ∀ id p, s.ports.get? id = some p → ∃ q, ports.get? id = some q)
    (hports : ∀ id q, ports.get? id = some q → q.id = id ∧ s.Serves q) :
    ({ s with ports } : Substrate).Coherent where
  own_id h := (hports _ _ h).1
  exists_port h := by
    obtain ⟨p, hp⟩ := hs.exists_port h
    exact hkeep _ p hp
  nodup := hs.nodup
  served h := (hports _ _ h).2
  going_down h := by
    obtain ⟨p, hp⟩ := hs.going_down h
    exact hkeep _ p hp
  to_come := hs.to_come

/-- A port that the subnets serve may be stored under its own id. -/
theorem putPort (hs : s.Coherent) {p : Port} (hp : s.Serves p) :
    ({ s with ports := s.ports.insert p.id p } : Substrate).Coherent := by
  refine hs.setPorts _ ?_ ?_
  · intro id q hq
    rw [IdMap.get?_insert]
    split
    · exact ⟨p, rfl⟩
    · exact ⟨q, hq⟩
  · intro id q hq
    rw [IdMap.get?_insert] at hq
    split at hq
    next heq =>
      cases hq
      exact ⟨heq.symm, hp⟩
    next => exact ⟨hs.own_id hq, hs.served hq⟩

theorem addPort (hs : s.Coherent) {p : Port} (hp : s.Serves p) : (s.addPort p).Coherent :=
  (hs.putPort hp).of_eq rfl rfl rfl rfl rfl

theorem amend (hs : s.Coherent) {portId : String} {f : Port → Port} (hid : ∀ p, (f p).id = p.id)
    (hf : ∀ p, s.ports.get? portId = some p → s.Serves p → s.Serves (f p)) :
    (s.amend portId f).Coherent := by
  refine hs.setPorts _ ?_ ?_
  · intro id p hp
    rw [IdMap.get?_modify, hp]
    split
    · exact ⟨f p, rfl⟩
    · exact ⟨p, rfl⟩
  · intro id q hq
    rw [IdMap.get?_modify] at hq
    split at hq
    next heq =>
      obtain ⟨p, hp, rfl⟩ := Option.map_eq_some_iff.mp hq
      exact ⟨(hid p).trans (hs.own_id hp), hf p (heq ▸ hp) (hs.served hp)⟩
    next => exact ⟨hs.own_id hq, hs.served hq⟩

/-- An instance may be given any list of existing ports. -/
theorem setPlugged (hs : s.Coherent) {plugged : IdMap (List String)}
    (hplugged : ∀ c, ((plugged.get? c).getD []).Nodup ∧
      ∀ id ∈ (plugged.get? c).getD [], ∃ p, s.ports.get? id = some p) :
    ({ s with plugged } : Substrate).Coherent where
  own_id := hs.own_id
  exists_port h := (hplugged _).2 _ h
  nodup c := (hplugged c).1
  served := hs.served
  going_down := hs.going_down
  to_come := hs.to_come

theorem listed (hs : s.Coherent) (c : String) : (s.pluggedPortIds c).Nodup ∧
    ∀ id ∈ s.pluggedPortIds c, ∃ p, s.ports.get? id = some p :=
  ⟨hs.nodup c, fun _ h => hs.exists_port h⟩

/-- An instance may list ports that are there, each once. -/
theorem setPluggedOf (hs : s.Coherent) (c : String) {ids : List String} (hnodup : ids.Nodup)
    (hids : ∀ id ∈ ids, ∃ p, s.ports.get? id = some p) :
    ({ s with plugged := s.plugged.insert c ids } : Substrate).Coherent := by
  refine hs.setPlugged fun c' => ?_
  rw [IdMap.get?_insert]
  split
  · exact ⟨hnodup, hids⟩
  · exact hs.listed c'

/-- A port that is there may be plugged in. -/
theorem attach (hs : s.Coherent) {c portId : String} {p : Port}
    (hp : s.ports.get? portId = some p) : (s.attach c portId).Coherent := by
  have hids : (if (s.pluggedPortIds c).contains portId then s.pluggedPortIds c
      else s.pluggedPortIds c ++ [portId]).Nodup ∧
      ∀ id ∈ (if (s.pluggedPortIds c).contains portId then s.pluggedPortIds c
        else s.pluggedPortIds c ++ [portId]), ∃ p, s.ports.get? id = some p := by
    split
    next => exact hs.listed c
    next hnew =>
      rw [List.contains_iff_mem] at hnew
      constructor
      · exact List.nodup_append.mpr ⟨hs.nodup c, List.nodup_singleton _,
          fun a ha b hb heq => hnew (List.mem_singleton.mp hb ▸ heq ▸ ha)⟩
      · intro id hid
        rcases List.mem_append.mp hid with hold | hlast
        · exact hs.exists_port hold
        · exact ⟨p, List.mem_singleton.mp hlast ▸ hp⟩
  exact (hs.setPluggedOf c hids.1 hids.2).amend (f := fun p => { p with deviceId := some c })
    (fun _ => rfl) fun q _ hq => hq

/-- The ports that were taken off keep their addresses. -/
theorem detach (hs : s.Coherent) (c networkId : String) : (s.detach c networkId).Coherent := by
  have hlisted := hs.setPluggedOf c
    ((hs.nodup c).filter fun id => !(s.idsOn c networkId).contains id)
    fun id hid => hs.exists_port (List.mem_of_mem_filter hid)
  refine hlisted.setPorts (s.detach c networkId).ports ?_ ?_
  · intro id p hp
    change s.ports.get? id = some p at hp
    rw [get?_ports_detach, hp]
    split
    · exact ⟨{ p with deviceId := none }, rfl⟩
    · exact ⟨p, rfl⟩
  · intro id q hq
    rw [get?_ports_detach] at hq
    split at hq
    next =>
      obtain ⟨p, hp, rfl⟩ := Option.map_eq_some_iff.mp hq
      have hid : p.id = id := hs.own_id hp
      exact ⟨hid, fun ip hip => hs.served hp ip hip⟩
    next => exact ⟨hs.own_id hq, hs.served hq⟩

theorem setPending (hs : s.Coherent) {id : String} {p : Port} (hp : s.ports.get? id = some p)
    (left : Nat) :
    ({ s with pendingDown := s.pendingDown.insert id left } : Substrate).Coherent := by
  refine { hs with going_down := ?_ }
  intro other n h
  rw [IdMap.get?_insert] at h
  split at h
  next heq => exact ⟨p, heq ▸ hp⟩
  next => exact hs.going_down h

theorem erasePending (hs : s.Coherent) (id : String) :
    ({ s with pendingDown := s.pendingDown.erase id } : Substrate).Coherent := by
  refine { hs with going_down := ?_ }
  intro other n h
  rw [IdMap.get?_erase] at h
  split at h
  · cases h
  · exact hs.going_down h

/-- A port goes from every map at once. -/
theorem removePort (hs : s.Coherent) (portId : String) : (s.removePort portId).Coherent := by
  have hget : ∀ id, id ≠ portId → (s.removePort portId).ports.get? id = s.ports.get? id :=
    fun id hne => (IdMap.get?_erase _ _ _).trans (if_neg hne)
  have hold : ∀ {id q}, (s.removePort portId).ports.get? id = some q →
      s.ports.get? id = some q := by
    intro id q hq
    change (s.ports.erase portId).get? id = some q at hq
    rw [IdMap.get?_erase] at hq
    split at hq
    · cases hq
    · exact hq
  constructor
  case own_id => exact fun h => hs.own_id (hold h)
  case exists_port =>
    intro c id hid
    rw [pluggedPortIds_removePort, List.mem_filter, decide_eq_true_eq] at hid
    rw [hget id hid.2]
    exact hs.exists_port hid.1
  case nodup =>
    intro c
    rw [pluggedPortIds_removePort]
    exact (hs.nodup c).filter _
  case served => exact fun h => hs.served (hold h)
  case going_down =>
    intro id left h
    change (s.pendingDown.erase portId).get? id = some left at h
    rw [IdMap.get?_erase] at h
    split at h
    · cases h
    next hne =>
      rw [hget id hne]
      exact hs.going_down h
  case to_come => exact hs.to_come

theorem addInstance (hs : s.Coherent) (c : String) : (s.addInstance c).Coherent := by
  unfold Substrate.addInstance
  split
  · exact hs
  · exact hs.setPluggedOf c List.nodup_nil (by simp)

/-- The ports of an instance that is removed stay, and name it no more. -/
theorem removeInstance (hs : s.Coherent) (c : String) : (s.removeInstance c).Coherent := by
  refine hs.setPlugged fun c' => ?_
  rw [IdMap.get?_erase]
  split
  · simp
  · exact hs.listed c'

/-- A subnet that stays on its network takes no port's addresses away from it. -/
theorem addSubnet (hs : s.Coherent) {subnet : Subnet}
    (hsame : ∀ known, s.subnets.get? subnet.id = some known →
      known.networkId = subnet.networkId) : (s.addSubnet subnet).Coherent := by
  refine { hs with served := ?_ }
  intro id p hp ip hip
  obtain ⟨known, hknown, hnet⟩ := hs.served hp ip hip
  by_cases heq : ip.subnetId = subnet.id
  · rw [heq] at hknown ⊢
    exact ⟨subnet, IdMap.get?_insert_self _ _ _, (hsame known hknown).symm.trans hnet⟩
  · exact ⟨known, (IdMap.get?_insert _ _ _ _).trans ((if_neg heq).trans hknown), hnet⟩

theorem injectFault (hs : s.Coherent) (op : Operation) (times : Nat) (e : NetworkError) :
    (s.injectFault op times e).Coherent := by
  unfold Substrate.injectFault
  split
  · exact hs
  next hne =>
    refine { hs with to_come := ?_ }
    intro f hf
    rcases List.mem_append.mp hf with hold | hnew
    · exact hs.to_come f hold
    · rw [List.mem_singleton.mp hnew]
      exact Nat.pos_of_ne_zero hne

end Coherent

/-- A failure that has come for the last time is dropped from the script. -/
theorem takeFault_remaining {op : Operation} {e : NetworkError} {faults : List ScriptedFault} :
    ∀ {script : List ScriptedFault}, (∀ f ∈ script, 0 < f.remaining) →
      takeFault op script = some (e, faults) → ∀ f ∈ faults, 0 < f.remaining := by
  intro script hscript htake
  induction script generalizing faults with
  | nil => cases htake
  | cons first rest ih =>
    have hrest : ∀ f ∈ rest, 0 < f.remaining := fun f hf => hscript f (List.mem_cons_of_mem _ hf)
    unfold takeFault at htake
    split at htake
    next =>
      cases htake
      split
      · exact hrest
      next hmore =>
        rw [List.forall_mem_cons]
        exact ⟨Nat.sub_pos_of_lt (Nat.lt_of_not_le hmore), hrest⟩
    next =>
      obtain ⟨⟨e', faults'⟩, htaken, heq⟩ := Option.map_eq_some_iff.mp htake
      cases heq
      rw [List.forall_mem_cons]
      exact ⟨hscript first List.mem_cons_self, ih hrest htaken⟩

/-! Calls -/

/-- The addresses that a port is given are on subnets of its network. -/
theorem Backed.serves {p : Port} (h : s.Backed t wishes p) (ht : t.Coherent) : t.Serves p := by
  intro ip hip
  rcases h ip hip with hgiven | ⟨id, q, hq, -, hnetwork, hhas⟩
  · exact hgiven.registered
  · exact hnetwork ▸ ht.served hq ip hhas

namespace Coherent

theorem allocating {ids : List String} (hs : s.Coherent) (h : s.Allocating t ids) :
    t.Coherent := by
  obtain ⟨m, rfl, -⟩ := h
  exact hs.of_eq rfl rfl rfl rfl rfl

/-- What one step of a call keeps. -/
theorem edit (ht : t.Coherent) (h : Edit s wishes t u) : u.Coherent := by
  cases h with
  | journaled entry => exact ht.of_eq rfl rfl rfl rfl rfl
  | failed hdue => exact { ht with to_come := takeFault_remaining ht.to_come hdue }
  | handedOut h => exact ht.allocating h
  | drawn drawn => exact ht.of_eq rfl rfl rfl rfl rfl
  | grouped securityGroups => exact ht.of_eq rfl rfl rfl rfl rfl
  | goingDown id left h =>
    obtain ⟨p, hp⟩ : ∃ p, t.ports.get? id = some p := by
      rcases h with hpending | hexists
      · obtain ⟨before, hbefore⟩ := IdMap.contains_iff.mp hpending
        exact ht.going_down hbefore
      · exact IdMap.contains_iff.mp hexists
    exact ht.setPending hp left
  | notGoingDown id => exact ht.erasePending id
  | stored p hp => exact ht.putPort (hp.serves ht)
  | amended id f hid hf => exact ht.amend hid fun p hp _ => (hf p hp).serves ht
  | attached c id h =>
    obtain ⟨p, hp⟩ := IdMap.contains_iff.mp h
    exact ht.attach hp
  | detached c networkId => exact ht.detach c networkId
  | removed id => exact ht.removePort id

/-- What a call keeps, wherever it stops. -/
theorem edited (hs : s.Coherent) (h : s.Edited wishes t) : t.Coherent := by
  induction h with
  | refl => exact hs
  | tail _ h' ih => exact ih.edit h'

end Coherent

/-- Seeding an interface that names its port takes back the port under the drawn id, to which
nothing refers yet. -/
theorem ends_seedInterface_coherent (hs : s.Coherent) (c : String) (interface : Interface)
    (hnew : interface.portId ≠ none → s.ports.get? (drawnId (s.drawn + 1)) = none) :
    (seedInterface c interface).Ends s (fun _ t => t.Coherent) fun _ t => t.Coherent := by
  refine ends_seedInterface_of_made ?_ (fun _ ht => ht.addInstance c) fun _ _ ht h => ht.edited h
  apply (ends_newPort _ s).mono
  · intro p t hend
    obtain ⟨u, ⟨ids, hallocating, -⟩, hcreated, rfl⟩ := hend
    have hu : u.Coherent := hs.allocating hallocating
    have hserves : s.Serves p := hcreated.registered
    have hserves : u.Serves p := hserves.of_subnets hallocating.sameNetworks.subnets
    refine ⟨fun _ => hu.addPort hserves, fun id hport => ?_⟩
    have hfree : u.ports.get? p.id = none := by
      rw [hallocating.samePorts.ports, hcreated.id]
      exact hnew (by simp [hport])
    have hback : (u.ports.insert p.id p).erase p.id = u.ports := by
      rw [IdMap.erase_insert, IdMap.erase_of_get?_eq_none hfree]
    have hnamed : u.Serves { p with id } := hserves
    refine (hu.putPort hnamed).of_eq ?_ rfl rfl rfl rfl
    exact congrArg (fun ports => ports.insert id { p with id }) hback
  · intro e t hend
    obtain ⟨⟨ids, hallocating, -⟩, -⟩ := hend
    exact hs.allocating hallocating

/-- What one event keeps. -/
theorem Coherent.leaves (hs : s.Coherent) {e : Event} (h : e.Admissible s) :
    (e.leaves s).Coherent := by
  refine Ends.state (p := Coherent) ?_
  cases e with
  | command c =>
    exact (edits_command c s).mono (fun _ _ h => hs.edited h) fun _ _ h => hs.edited h
  | addNetwork network => exact ends_modify_last (hs.of_eq rfl rfl rfl rfl rfl)
  | addSubnet subnet => exact ends_modify_last (hs.addSubnet h)
  | addInstance c => exact ends_modify_last (hs.addInstance c)
  | removeInstance c => exact ends_modify_last (hs.removeInstance c)
  | seedInterface c interface => exact (ends_seedInterface_coherent hs c interface h).drop
  | setDownDelay polls => exact ends_modify_last (hs.of_eq rfl rfl rfl rfl rfl)
  | manageSecurityGroups enabled => exact ends_modify_last (hs.of_eq rfl rfl rfl rfl rfl)
  | injectFault op times e => exact ends_modify_last (hs.injectFault op times e)

/-- What a history keeps. -/
theorem Coherent.after (hs : s.Coherent) {events : List Event} (h : s.Admits events) :
    (s.after events).Coherent := by
  induction events generalizing s with
  | nil => exact hs
  | cons e events ih => exact ih (hs.leaves h.1) h.2

/-- From the empty substrate on, the maps always agree. -/
theorem coherent_of_history {events : List Event} (h : Admits {} events) :
    (after {} events).Coherent :=
  Coherent.empty.after h

/-- An interface is seeded, its port is taken down, and a status read fails. -/
def sampleHistory : List Event :=
  [.addSubnet (Sample.subnet "mgmt-subnet" "mgmt-net" "192.168.0.0/24"),
   .addSubnet (Sample.subnet "mgmt-subnet" "mgmt-net" "192.168.0.0/16"),
   .seedInterface "vm-1" { Sample.managementInterface with portId := some "port-1" },
   .setDownDelay 2,
   .injectFault .getPort 2 (.driver "unreachable"),
   .command (.setPortAdminStateUp "port-1" false),
   .command (.getPort "port-1")]

/-- A history with a port that is going down, a failure that is due, and an instance. -/
theorem coherent_of_history_sample : Admits {} sampleHistory ∧ (after {} sampleHistory).Coherent ∧
    (after {} sampleHistory).pluggedPortIds "vm-1" = ["port-1"] ∧
    (after {} sampleHistory).pendingDown.get? "port-1" = some 2 ∧
    (after {} sampleHistory).faults = [⟨.getPort, .driver "unreachable", 1⟩] := by
  have hadmits : Admits {} sampleHistory := by
    refine ⟨?_, ?_, fun _ => rfl, trivial, trivial, trivial, trivial, trivial⟩
    · intro known hknown
      cases hknown
    · intro known hknown
      cases hknown
      rfl
  exact ⟨hadmits, coherent_of_history hadmits, by decide, by decide, by decide⟩

end AmphoraWiring.Substrate
