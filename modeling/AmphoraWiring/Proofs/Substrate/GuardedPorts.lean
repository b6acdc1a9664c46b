import AmphoraWiring.Proofs.Substrate.BasePorts
import AmphoraWiring.Proofs.Substrate.SameBut
import AmphoraWiring.Substrate.Vip

/-!
What guarding a port with the group of a name does. The group is made if it is new, and the port is
given its id unless it has it. So it does not matter in which order, or how often, ports are guarded
with one group; and groups of other names are neither changed nor given to any port.
-/
namespace AmphoraWiring

namespace IdMap

theorem insert_of_get? {α : Type} {m : IdMap α} {id : String} {v : α} (h : m.get? id = some v) :
    m.insert id v = m := by
  apply ext_get?
  intro k
  rw [get?_insert]
  split
  next heq => rw [heq, h]
  next => rfl

end IdMap

namespace Substrate

open Action

variable {s t u : Substrate} {name groupId : String} {ids ids' : List String}

/-- The ports under the ids have been given the group. -/
def guardPorts (groupId : String) (ids : List String) (ports : IdMap Port) : IdMap Port :=
  ids.foldl (fun ports id => ports.modify id (withGroup groupId)) ports

/-- A port is in a group once. -/
@[simp] theorem withGroup_withGroup (groupId : String) (p : Port) :
    withGroup groupId (withGroup groupId p) = withGroup groupId p := by
  by_cases h : groupId ∈ p.securityGroupIds <;> simp [withGroup, h]

/-- A port keeps the groups it is in. -/
theorem mem_withGroup {p : Port} {other : String} :
    other ∈ (withGroup groupId p).securityGroupIds ↔
      other ∈ p.securityGroupIds ∨ other = groupId := by
  by_cases h : groupId ∈ p.securityGroupIds
  · simp only [withGroup, List.contains_iff_mem, h, if_true]
    exact ⟨.inl, fun hmem => hmem.elim (fun hmem => hmem) fun heq => heq ▸ h⟩
  · simp [withGroup, h]

theorem withGroup_id (groupId : String) (p : Port) : (withGroup groupId p).id = p.id := by
  unfold withGroup
  split <;> rfl

theorem withGroup_name (groupId : String) (p : Port) : (withGroup groupId p).name = p.name := by
  unfold withGroup
  split <;> rfl

/-- The ports to be guarded get the group, and the others nothing. -/
theorem get?_guardPorts (groupId : String) (ids : List String) (ports : IdMap Port) (id : String) :
    (guardPorts groupId ids ports).get? id =
      if id ∈ ids then (ports.get? id).map (withGroup groupId) else ports.get? id :=
  get?_foldl_modify ids ports (withGroup groupId) (withGroup_withGroup groupId) id

/-- It matters only which ports are guarded. -/
theorem guardPorts_congr (h : ∀ id, id ∈ ids ↔ id ∈ ids') (ports : IdMap Port) :
    guardPorts groupId ids ports = guardPorts groupId ids' ports := by
  apply IdMap.ext_get?
  intro id
  simp only [get?_guardPorts, h]

theorem guardPorts_append (ports : IdMap Port) :
    guardPorts groupId (ids ++ ids') ports =
      guardPorts groupId ids' (guardPorts groupId ids ports) :=
  List.foldl_append

theorem contains_guardPorts (groupId : String) (ids : List String) (ports : IdMap Port)
    (id : String) : (guardPorts groupId ids ports).contains id = ports.contains id := by
  unfold IdMap.contains
  rw [get?_guardPorts]
  split <;> simp

/-- Base ports are found by what guarding leaves alone. -/
theorem basePortOf_guardPorts (hports : t.ports = guardPorts groupId ids s.ports)
    (amphora : Amphora) : t.basePortOf amphora = s.basePortOf amphora := by
  have hfind : ∀ (ids : List String) (ports : IdMap Port),
      ((guardPorts groupId ids ports).values.find?
        fun p => p.name = basePortName amphora.id).map (·.id) =
      (ports.values.find? fun p => p.name = basePortName amphora.id).map (·.id) := by
    intro ids ports
    induction ids generalizing ports with
    | nil => rfl
    | cons id rest ih =>
      refine (ih (ports.modify id (withGroup groupId))).trans ?_
      exact IdMap.find?_values_modify _ _ (fun p => by rw [withGroup_name]) (withGroup_id groupId)
  apply basePortOf_congr
  · intro id
    rw [hports, contains_guardPorts]
  · unfold basePortOf.byName
    rw [hports]
    exact hfind ids s.ports

/-- The port exists and has the group. -/
def Carries (s : Substrate) (groupId portId : String) : Prop :=
  ∃ p, s.ports.get? portId = some p ∧ groupId ∈ p.securityGroupIds

/-- From `s` to `t`, ports have been given the group, and only such as did not have it. -/
def Adds (groupId : String) (s t : Substrate) : Prop :=
  ∀ id, t.ports.get? id = s.ports.get? id ∨
    ∃ p, s.ports.get? id = some p ∧ groupId ∉ p.securityGroupIds ∧
      t.ports.get? id = some { p with securityGroupIds := p.securityGroupIds ++ [groupId] }

/-- The group of the name: the one that there is, or the one that is made for want of it. -/
def groupNamed (s : Substrate) (name : String) : SecurityGroup :=
  (s.securityGroups.get? name).getD { id := drawnId (s.drawn + 1), name }

/-- The group of the name has been made if it is new. -/
def openGroup (s : Substrate) (name : String) : Substrate :=
  if s.securityGroups.contains name then s
  else { s with
    drawn := s.drawn + 1
    securityGroups := s.securityGroups.insert name (s.groupNamed name) }

/-- The ports under the ids have been guarded with the group of the name. -/
def guardWith (s : Substrate) (name : String) (ids : List String) : Substrate :=
  { s.openGroup name with ports := guardPorts (s.groupNamed name).id ids s.ports }

theorem groupNamed_of_get? {group : SecurityGroup} (h : s.securityGroups.get? name = some group) :
    s.groupNamed name = group := by
  rw [groupNamed, h, Option.getD_some]

/-- A group that is there is the one of its name. -/
theorem get?_groupNamed (h : s.securityGroups.contains name) :
    s.securityGroups.get? name = some (s.groupNamed name) := by
  obtain ⟨group, hgroup⟩ := IdMap.contains_iff.mp h
  rw [groupNamed_of_get? hgroup, hgroup]

theorem securityGroups_guardWith (s : Substrate) (name : String) (ids : List String) :
    (s.guardWith name ids).securityGroups = s.securityGroups.insert name (s.groupNamed name) := by
  unfold guardWith openGroup
  split
  next h => exact (IdMap.insert_of_get? (get?_groupNamed h)).symm
  next => rfl

/-- No two groups have the same id, and an id that has not been drawn yet is that of no group. -/
structure GroupsApart (s : Substrate) : Prop where
  apart : ∀ {name name' group group'}, s.securityGroups.get? name = some group →
    s.securityGroups.get? name' = some group' → group.id = group'.id → name = name'
  fresh : ∀ n, s.drawn < n → ∀ {name group}, s.securityGroups.get? name = some group →
    group.id ≠ drawnId n

theorem groupsApart_of_none (h : s.securityGroups.entries = []) : s.GroupsApart := by
  have hnone : ∀ name, s.securityGroups.get? name = none := by
    intro name
    rw [IdMap.get?, h]
    rfl
  constructor
  · intro name name' group group' hgroup
    rw [hnone] at hgroup
    cases hgroup
  · intro n _ name group hgroup
    rw [hnone] at hgroup
    cases hgroup

/-- Two names have groups with different ids, also where a group is still to be made. -/
theorem GroupsApart.ne (hs : s.GroupsApart) {other : String} {group : SecurityGroup}
    (hgroup : s.securityGroups.get? name = some group) (hne : other ≠ name) :
    (s.groupNamed other).id ≠ group.id := by
  intro heq
  cases hother : s.securityGroups.get? other with
  | some group' =>
    rw [groupNamed_of_get? hother] at heq
    exact hne (hs.apart hother hgroup heq)
  | none =>
    rw [groupNamed, hother, Option.getD_none] at heq
    exact hs.fresh (s.drawn + 1) (Nat.lt_succ_self _) hgroup heq.symm

/-- A group that is made has an id of its own. -/
theorem GroupsApart.guardWith (hs : s.GroupsApart) (name : String) (ids : List String) :
    (s.guardWith name ids).GroupsApart := by
  by_cases hold : s.securityGroups.contains name
  · have hsame : s.openGroup name = s := if_pos hold
    rw [Substrate.guardWith, hsame]
    exact ⟨hs.apart, hs.fresh⟩
  · have hdrawn : (s.guardWith name ids).drawn = s.drawn + 1 := by
      simp [Substrate.guardWith, openGroup, hold]
    have hgroup : s.groupNamed name = { id := drawnId (s.drawn + 1), name } := by
      rw [Bool.not_eq_true, IdMap.contains_eq_false_iff] at hold
      rw [groupNamed, hold, Option.getD_none]
    have hget : ∀ k, (s.guardWith name ids).securityGroups.get? k =
        if k = name then some { id := drawnId (s.drawn + 1), name }
        else s.securityGroups.get? k := by
      intro k
      rw [securityGroups_guardWith, hgroup, IdMap.get?_insert]
    constructor
    case apart =>
      intro k k' group group' h h' heq
      rw [hget] at h h'
      split at h <;> split at h'
      next hk hk' => exact hk.trans hk'.symm
      next =>
        cases h
        exact absurd heq.symm (hs.fresh _ (Nat.lt_succ_self _) h')
      next =>
        cases h'
        exact absurd heq (hs.fresh _ (Nat.lt_succ_self _) h)
      next => exact hs.apart h h' heq
    case fresh =>
      intro n hn k group h
      rw [hdrawn] at hn
      rw [hget] at h
      split at h
      · cases h
        intro heq
        have := drawnId_injective heq
        omega
      · exact hs.fresh n (by omega) h

/-- `t` is `s` after the ports under the ids were guarded with the group of the name, perhaps none
of them, and perhaps the group has not even been made. -/
structure Guarded (s t : Substrate) (name : String) (ids : List String) : Prop where
  faults : t.faults = s.faults
  enabled : t.securityGroupsEnabled = s.securityGroupsEnabled
  ports : t.ports = guardPorts (s.groupNamed name).id ids s.ports
  group : t.groupNamed name = s.groupNamed name
  stays : s.securityGroups.contains name → t.securityGroups.contains name
  others : ∀ other, other ≠ name → t.securityGroups.get? other = s.securityGroups.get? other
  apart : s.GroupsApart → t.GroupsApart

namespace Guarded

theorem journaled (s : Substrate) (name : String) (calls : List JournalEntry) :
    Guarded s (s.journaled calls) name [] :=
  ⟨rfl, rfl, rfl, rfl, fun h => h, fun _ _ => rfl, fun h => ⟨h.apart, h.fresh⟩⟩

theorem refl (s : Substrate) (name : String) : Guarded s s name [] := by
  have h := journaled s name []
  rwa [journaled_nil] at h

theorem trans (h : Guarded s t name ids) (h' : Guarded t u name ids') :
    Guarded s u name (ids ++ ids') where
  faults := h'.faults.trans h.faults
  enabled := h'.enabled.trans h.enabled
  ports := by rw [h'.ports, h.group, h.ports, guardPorts_append]
  group := h'.group.trans h.group
  stays := fun hold => h'.stays (h.stays hold)
  others := fun other hne => (h'.others other hne).trans (h.others other hne)
  apart := fun hs => h'.apart (h.apart hs)

theorem guardWith (s : Substrate) (name : String) (ids : List String) :
    Guarded s (s.guardWith name ids) name ids where
  faults := by unfold Substrate.guardWith openGroup; split <;> rfl
  enabled := by unfold Substrate.guardWith openGroup; split <;> rfl
  ports := rfl
  group := groupNamed_of_get? (by rw [securityGroups_guardWith, IdMap.get?_insert_self])
  stays := fun _ => IdMap.contains_iff.mpr
    ⟨_, by rw [securityGroups_guardWith, IdMap.get?_insert_self]⟩
  others := fun other hne => by rw [securityGroups_guardWith, IdMap.get?_insert, if_neg hne]
  apart := fun hs => hs.guardWith name ids

/-- The base port of an amphora is the same before and after. -/
theorem basePortOf (h : Guarded s t name ids) (amphora : Amphora) :
    t.basePortOf amphora = s.basePortOf amphora :=
  basePortOf_guardPorts h.ports amphora

theorem own_id (h : Guarded s t name ids)
    (hs : ∀ {id p}, s.ports.get? id = some p → p.id = id) {id : String} {p : Port}
    (hp : t.ports.get? id = some p) : p.id = id := by
  rw [h.ports, get?_guardPorts] at hp
  split at hp
  · obtain ⟨q, hq, rfl⟩ := Option.map_eq_some_iff.mp hp
    rw [withGroup_id, hs hq]
  · exact hs hp

/-- Once the group has been made, the groups are those from before and this one. -/
theorem securityGroups (h : Guarded s t name ids) (hmade : t.securityGroups.contains name) :
    t.securityGroups = s.securityGroups.insert name (s.groupNamed name) := by
  apply IdMap.ext_get?
  intro k
  rw [IdMap.get?_insert]
  split
  next heq => rw [heq, get?_groupNamed hmade, h.group]
  next hne => exact h.others k hne

theorem adds (h : Guarded s t name ids) : s.Adds (s.groupNamed name).id t := by
  intro id
  rw [h.ports, get?_guardPorts]
  split
  · cases hp : s.ports.get? id with
    | none => exact .inl rfl
    | some p =>
      by_cases hhas : (s.groupNamed name).id ∈ p.securityGroupIds
      · exact .inl (by simp [withGroup, hhas])
      · exact .inr ⟨p, rfl, hhas, by simp [withGroup, hhas]⟩
  · exact .inl rfl

theorem contains_port (h : Guarded s t name ids) (id : String) :
    t.ports.contains id = s.ports.contains id := by
  rw [h.ports, contains_guardPorts]

/-- The ports that were guarded have the group, if they exist. -/
theorem carries (h : Guarded s t name ids) {id : String} (hid : id ∈ ids)
    (hport : s.ports.contains id) : t.Carries (s.groupNamed name).id id := by
  obtain ⟨p, hp⟩ := IdMap.contains_iff.mp hport
  refine ⟨withGroup (s.groupNamed name).id p, ?_, mem_withGroup.mpr (.inr rfl)⟩
  rw [h.ports, get?_guardPorts, if_pos hid, hp, Option.map_some]

/-- Nothing changes about the ports if those to be guarded have the group already. -/
theorem ports_eq_self (h : Guarded s t name ids)
    (hcarry : ∀ id ∈ ids, s.ports.contains id → s.Carries (s.groupNamed name).id id) :
    t.ports = s.ports := by
  apply IdMap.ext_get?
  intro id
  rcases h.adds id with hsame | ⟨p, hp, hlacks, -⟩
  · exact hsame
  · by_cases hid : id ∈ ids
    · obtain ⟨q, hq, hmem⟩ := hcarry id hid (IdMap.contains_iff.mpr ⟨p, hp⟩)
      rw [hp] at hq
      cases hq
      exact absurd hmem hlacks
    · rw [h.ports, get?_guardPorts, if_neg hid]

/-- Which ports have any other group is left alone. -/
theorem carries_iff (h : Guarded s t name ids) {groupId : String}
    (hne : (s.groupNamed name).id ≠ groupId) (id : String) :
    t.Carries groupId id ↔ s.Carries groupId id := by
  unfold Carries
  rcases h.adds id with hsame | ⟨p, hp, -, hp'⟩
  · rw [hsame]
  · rw [hp, hp']
    simp [Ne.symm hne]

end Guarded

/-! Calls -/

/-- The group is opened if it is not there, and this cannot fail. -/
theorem ends_ensureSecurityGroup_named (name : String) (s : Substrate) :
    (ensureSecurityGroup name).Ends s
      (fun id t => id = (s.groupNamed name).id ∧ t = s.openGroup name) fun _ _ => False := by
  apply ends_get
  cases hgroup : s.securityGroups.get? name with
  | some group =>
    have hold : s.securityGroups.contains name := IdMap.contains_iff.mpr ⟨group, hgroup⟩
    exact ends_pure ⟨by rw [groupNamed_of_get? hgroup], (if_pos hold).symm⟩
  | none =>
    have hnew : ¬ s.securityGroups.contains name := by
      rw [Bool.not_eq_true]
      exact IdMap.contains_eq_false_iff.mpr hgroup
    have hmade : s.groupNamed name = { id := drawnId (s.drawn + 1), name } := by
      rw [groupNamed, hgroup, Option.getD_none]
    refine (ends_drawId s).bind ?_ (fun _ _ h => h)
    intro id t hend
    obtain ⟨rfl, rfl⟩ := hend
    refine ends_modify (ends_pure ⟨by rw [hmade], ?_⟩)
    rw [openGroup, if_neg hnew, hmade]

theorem ports_openGroup (s : Substrate) (name : String) : (s.openGroup name).ports = s.ports := by
  unfold openGroup
  split <;> rfl

theorem guardWith_eq (s : Substrate) (name : String) (ids : List String) :
    s.guardWith name ids = { s.openGroup name with
      ports := guardPorts (s.groupNamed name).id ids (s.openGroup name).ports } := by
  rw [guardWith, ports_openGroup]

/-- Without faults the port of the virtual address is guarded, and the group is answered. -/
theorem ends_updateVipSg_guarding (hquiet : s.faults = []) (henabled : s.securityGroupsEnabled)
    (lb : LoadBalancer) : (updateVipSg lb).Ends s
      (fun answer t => answer = some (s.groupNamed (vipSecurityGroupName lb.id)).id ∧
        t = (s.journaled [⟨.updateVipSg, lb.id⟩]).guardWith (vipSecurityGroupName lb.id)
          lb.vip.portId.toList)
      fun _ _ => False := by
  refine ends_quiet hquiet (ends_get ?_)
  have hmanaged : (s.journaled [⟨.updateVipSg, lb.id⟩]).securityGroupsEnabled = true := henabled
  rw [hmanaged]
  refine (ends_ensureSecurityGroup_named _ _).bind ?_ (fun _ _ h => h)
  intro groupId t hend
  obtain ⟨rfl, rfl⟩ := hend
  rw [guardWith_eq]
  cases lb.vip.portId with
  | some portId => exact ends_modify (ends_pure ⟨rfl, rfl⟩)
  | none => exact ends_bind_of_ok rfl (ends_pure ⟨rfl, rfl⟩)

/-- Without faults the base port of the amphora is guarded by the same group. -/
theorem ends_updateAapPortSg_guarding (hquiet : s.faults = []) (henabled : s.securityGroupsEnabled)
    (hown : ∀ {id p}, s.ports.get? id = some p → p.id = id) (lb : LoadBalancer)
    (amphora : Amphora) : (updateAapPortSg lb amphora).Ends s
      (fun _ t => t = (s.journaled [⟨.updateAapPortSg, amphora.id⟩]).guardWith
        (vipSecurityGroupName lb.id) (s.basePortOf amphora).toList)
      fun _ _ => False := by
  refine ends_quiet hquiet (ends_get ?_)
  have hmanaged : (s.journaled [⟨.updateAapPortSg, amphora.id⟩]).securityGroupsEnabled = true :=
    henabled
  rw [hmanaged]
  refine (ends_ensureSecurityGroup_named _ _).bind ?_ (fun _ _ h => h)
  intro groupId t hend
  obtain ⟨rfl, rfl⟩ := hend
  have hports : ∀ name, ((s.journaled [⟨.updateAapPortSg, amphora.id⟩]).openGroup name).ports =
      s.ports := fun name => ports_openGroup _ name
  have hbase : ∀ name, ((s.journaled [⟨.updateAapPortSg, amphora.id⟩]).openGroup name).basePortOf
      amphora = s.basePortOf amphora := by
    intro name
    have hunguarded : _ = guardPorts "" [] s.ports := hports name
    exact basePortOf_guardPorts hunguarded amphora
  apply ends_get
  rw [hbase, guardWith_eq]
  cases hfound : s.basePortOf amphora with
  | some portId =>
    obtain ⟨p, hp⟩ := IdMap.contains_iff.mp (contains_basePortOf hown hfound)
    refine Ends.bind (ends_updatePort_stored ((congrArg (·.get? portId) (hports _)).trans hp) _) ?_
      (fun _ _ h => h)
    intro q u hend
    obtain ⟨rfl, -⟩ := hend
    exact ends_pure rfl
  | none => exact ends_pure rfl

/-- The group is found once it has been made. -/
theorem ends_getSecurityGroup_made (hquiet : s.faults = [])
    (hmade : s.securityGroups.contains name) : (getSecurityGroup name).Ends s
      (fun group t => group = s.groupNamed name ∧ s.Heard t) fun _ _ => False := by
  refine ends_call (fun _ _ _ _ hne => absurd hquiet hne) fun t h _ => ends_get ?_
  have hgroup : t.securityGroups.get? name = some (s.groupNamed name) := by
    obtain ⟨calls, faults, rfl, -⟩ := h
    exact get?_groupNamed hmade
  rw [hgroup]
  exact ends_pure ⟨rfl, h⟩

end Substrate

end AmphoraWiring
