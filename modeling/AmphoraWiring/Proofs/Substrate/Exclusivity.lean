import AmphoraWiring.Proofs.Substrate.SameBut

/-!
Where a port is plugged in is kept twice: an instance lists its ports, and a port names its
instance. Every change keeps the two in step, with one exception. A port that is plugged into an
instance is taken off no other list, so the two agree afterwards exactly if no other instance
listed it before.
-/
namespace AmphoraWiring.Substrate

open Action

variable {s t u : Substrate} {c id networkId : String} {f : Port → Port}

/-- A port is listed by the instance that it names and by no other. It is stored under its own id,
and an id that has not been drawn yet is in no use. -/
structure AttachmentsAgree (s : Substrate) : Prop where
  own_id : ∀ {id p}, s.ports.get? id = some p → p.id = id
  fresh : ∀ n, s.drawn < n → s.Absent (drawnId n)
  exclusive : s.Exclusive
  device : ∀ {id p}, s.ports.get? id = some p →
    ∀ c, p.deviceId = some c ↔ id ∈ s.pluggedPortIds c

/-- A change of ports that leaves them their ids and their instances. -/
def KeepsDevice (f : Port → Port) : Prop :=
  ∀ p, (f p).id = p.id ∧ (f p).deviceId = p.deviceId

theorem mem_pluggedPortIds_attach_iff {c' id' : String} :
    id' ∈ (s.attach c id).pluggedPortIds c' ↔ id' ∈ s.pluggedPortIds c' ∨ c' = c ∧ id' = id := by
  rw [pluggedPortIds_attach]
  split
  next hnew =>
    obtain ⟨rfl, -⟩ := hnew
    simp
  next hold =>
    refine ⟨.inl, fun h => h.elim (fun h => h) fun heq => ?_⟩
    obtain ⟨rfl, rfl⟩ := heq
    by_contra hnot
    exact hold ⟨rfl, hnot⟩

namespace AttachmentsAgree

theorem of_eq (hs : s.AttachmentsAgree) (hports : t.ports = s.ports)
    (hids : ∀ c, t.pluggedPortIds c = s.pluggedPortIds c) (hdrawn : s.drawn ≤ t.drawn) :
    t.AttachmentsAgree where
  own_id h := hs.own_id (hports ▸ h)
  fresh n hn := by
    have habsent := hs.fresh n (Nat.lt_of_le_of_lt hdrawn hn)
    exact ⟨hports ▸ habsent.port, fun c => hids c ▸ habsent.unplugged c⟩
  exclusive := hs.exclusive.of_ids hids
  device h c := hids c ▸ hs.device (hports ▸ h) c

theorem samePorts (hs : s.AttachmentsAgree) (h : s.SamePorts t) : t.AttachmentsAgree :=
  hs.of_eq h.ports h.pluggedPortIds (Nat.le_of_eq h.drawn.symm)

theorem heard (hs : s.AttachmentsAgree) (h : s.Heard t) : t.AttachmentsAgree :=
  hs.samePorts h.samePorts

/-- Without ports there is nothing to disagree about. -/
theorem of_portless (hports : s.ports = .empty) (hids : ∀ c, s.pluggedPortIds c = []) :
    s.AttachmentsAgree where
  own_id h := by simp [hports] at h
  fresh n _ := ⟨by simp [hports], by simp [hids]⟩
  exclusive := fun c c' id h => by simp [hids] at h
  device h := by simp [hports] at h

/-- Ports may change in everything but their ids and their instances. -/
theorem setPorts (hs : s.AttachmentsAgree) {ports : IdMap Port}
    (hsame : ∀ id, (ports.get? id).map (fun p => (p.id, p.deviceId)) =
      (s.ports.get? id).map fun p => (p.id, p.deviceId)) :
    ({ s with ports } : Substrate).AttachmentsAgree := by
  have hold : ∀ {id q}, ports.get? id = some q →
      ∃ p, s.ports.get? id = some p ∧ q.id = p.id ∧ q.deviceId = p.deviceId := by
    intro id q hq
    have heq := hsame id
    rw [hq, Option.map_some, eq_comm] at heq
    obtain ⟨p, hp, hpair⟩ := Option.map_eq_some_iff.mp heq
    exact ⟨p, hp, (congrArg Prod.fst hpair).symm, (congrArg Prod.snd hpair).symm⟩
  constructor
  case own_id =>
    intro id q hq
    obtain ⟨p, hp, hid, -⟩ := hold hq
    exact hid.trans (hs.own_id hp)
  case fresh =>
    intro n hn
    have habsent := hs.fresh n hn
    have heq := hsame (drawnId n)
    rw [habsent.port, Option.map_none, Option.map_eq_none_iff] at heq
    exact ⟨heq, habsent.unplugged⟩
  case exclusive => exact hs.exclusive
  case device =>
    intro id q hq c
    obtain ⟨p, hp, -, hdevice⟩ := hold hq
    rw [hdevice]
    exact hs.device hp c

theorem amend (hs : s.AttachmentsAgree) (id : String) (hf : KeepsDevice f) :
    (s.amend id f).AttachmentsAgree := by
  refine hs.setPorts fun k => ?_
  rw [IdMap.get?_modify]
  split
  · rw [Option.map_map]
    congr 1
    funext p
    exact Prod.ext (hf p).1 (hf p).2
  · rfl

theorem amended (hs : s.AttachmentsAgree) (h : s.Amended t id f) (hf : KeepsDevice f) :
    t.AttachmentsAgree := by
  obtain ⟨u, hu, ht⟩ := h
  exact ((hs.samePorts hu).amend id hf).samePorts ht

/-- A port may be stored again when it has changed. -/
theorem storeAgain (hs : s.AttachmentsAgree) {p q : Port} (hq : s.ports.get? p.id = some q)
    (hdevice : p.deviceId = q.deviceId) :
    ({ s with ports := s.ports.insert p.id p } : Substrate).AttachmentsAgree := by
  refine hs.setPorts fun k => ?_
  rw [IdMap.get?_insert]
  split
  next heq =>
    subst heq
    rw [hq, Option.map_some, Option.map_some, hdevice, hs.own_id hq]
  next => rfl

/-- A new port is free, and its id was in no use. -/
theorem addPort (hs : s.AttachmentsAgree) {p : Port} (hid : p.id = drawnId (s.drawn + 1))
    (hfree : p.deviceId = none) : (s.addPort p).AttachmentsAgree := by
  have hnew : s.Absent p.id := hid ▸ hs.fresh _ (Nat.lt_succ_self _)
  have hget : ∀ k, (s.addPort p).ports.get? k = if k = p.id then some p else s.ports.get? k :=
    fun k => IdMap.get?_insert _ _ _ _
  constructor
  case own_id =>
    intro k q hq
    rw [hget] at hq
    split at hq
    next heq =>
      cases hq
      exact heq.symm
    next => exact hs.own_id hq
  case fresh =>
    intro n hn
    have hlt : s.drawn + 1 < n := hn
    have hne : drawnId n ≠ p.id := fun heq => drawnId_ne_of_lt hlt (heq.trans hid)
    have habsent := hs.fresh n (by omega)
    exact ⟨by rw [hget, if_neg hne, habsent.port], habsent.unplugged⟩
  case exclusive => exact hs.exclusive.of_eq rfl
  case device =>
    intro k q hq c
    rw [hget] at hq
    split at hq
    next heq =>
      cases hq
      subst heq
      simp only [hfree, reduceCtorEq, false_iff]
      exact hnew.unplugged c
    next => exact hs.device hq c

/-- The ports that were taken off name no device, and are listed by none. -/
theorem detach (hs : s.AttachmentsAgree) (c networkId : String) :
    (s.detach c networkId).AttachmentsAgree := by
  constructor
  case own_id =>
    intro id q hq
    rw [get?_ports_detach] at hq
    split at hq
    next =>
      obtain ⟨p, hp, rfl⟩ := Option.map_eq_some_iff.mp hq
      have hid : p.id = id := hs.own_id hp
      exact hid
    next => exact hs.own_id hq
  case fresh => exact fun n hn => (hs.fresh n hn).detach c networkId
  case exclusive => exact hs.exclusive.detach c networkId
  case device =>
    intro id q hq c'
    rw [get?_ports_detach] at hq
    rw [pluggedPortIds_detach]
    split at hq
    next hon =>
      obtain ⟨p, hp, rfl⟩ := Option.map_eq_some_iff.mp hq
      simp only [reduceCtorEq, false_iff]
      -- no other instance listed it
      split
      · simp [hon]
      next hc => exact fun hid => hc (hs.exclusive hid (mem_idsOn.mp hon).1)
    next hoff =>
      rw [hs.device hq c']
      split
      next hc =>
        subst hc
        simp [hoff]
      next => rfl

theorem removePort (hs : s.AttachmentsAgree) (removed : String) :
    (s.removePort removed).AttachmentsAgree := by
  have hold : ∀ {id q}, (s.removePort removed).ports.get? id = some q →
      id ≠ removed ∧ s.ports.get? id = some q := by
    intro id q hq
    rw [get?_ports_removePort] at hq
    split at hq
    · cases hq
    next hne => exact ⟨hne, hq⟩
  constructor
  case own_id => exact fun h => hs.own_id (hold h).2
  case fresh => exact fun n hn => (hs.fresh n hn).removePort removed
  case exclusive => exact hs.exclusive.removePort removed
  case device =>
    intro id q hq c
    obtain ⟨hne, hq⟩ := hold hq
    rw [hs.device hq c, pluggedPortIds_removePort]
    simp [hne]

theorem removal {portId : Option String} (hs : s.AttachmentsAgree)
    (h : s.Removal t c networkId portId) : t.AttachmentsAgree := by
  obtain ⟨u, hdetached, hremoved⟩ := h
  have hu : u.AttachmentsAgree := by
    rcases hdetached with h | ⟨h, -⟩
    · exact (hs.detach c networkId).heard h
    · exact hs.heard h
  rcases hremoved with h | ⟨id, -, h⟩
  · exact hu.heard h
  · exact (hu.removePort id).heard h

/-- A port that no other instance lists can be plugged in. -/
theorem attach (hs : s.AttachmentsAgree) (hport : s.ports.contains id)
    (hfree : ∀ c', id ∈ s.pluggedPortIds c' → c' = c) : (s.attach c id).AttachmentsAgree := by
  obtain ⟨p, hp⟩ := IdMap.contains_iff.mp hport
  have hget : ∀ k, (s.attach c id).ports.get? k =
      if k = id then (s.ports.get? k).map fun p => { p with deviceId := some c }
      else s.ports.get? k := fun k => IdMap.get?_modify _ _ _ _
  constructor
  case own_id =>
    intro k q hq
    rw [hget] at hq
    split at hq
    next =>
      obtain ⟨p', hp', rfl⟩ := Option.map_eq_some_iff.mp hq
      have hid : p'.id = k := hs.own_id hp'
      exact hid
    next => exact hs.own_id hq
  case fresh =>
    intro n hn
    have habsent := hs.fresh n hn
    have hne : drawnId n ≠ id := by
      rintro rfl
      cases hp.symm.trans habsent.port
    refine ⟨by rw [hget, if_neg hne, habsent.port], fun c' hmem => ?_⟩
    rw [mem_pluggedPortIds_attach_iff] at hmem
    rcases hmem with hold | ⟨-, heq⟩
    · exact habsent.unplugged c' hold
    · exact hne heq
  case exclusive => exact hs.exclusive.attach hfree
  case device =>
    intro k q hq c'
    rw [hget] at hq
    rw [mem_pluggedPortIds_attach_iff]
    split at hq
    next heq =>
      obtain ⟨p', -, rfl⟩ := Option.map_eq_some_iff.mp hq
      subst heq
      constructor
      · intro h
        exact .inr ⟨(Option.some.inj h).symm, rfl⟩
      · intro h
        rcases h with hold | ⟨rfl, -⟩
        · rw [hfree c' hold]
        · rfl
    next hne =>
      rw [hs.device hq c']
      simp [hne]

end AttachmentsAgree

/-! Plugging in -/

/-- The ports are plugged into the instance one after the other. -/
def attachAll (s : Substrate) (c : String) (ids : List String) : Substrate :=
  ids.foldl (fun s id => s.attach c id) s

/-- What is plugged in is listed by the instance from then on. -/
theorem mem_pluggedPortIds_attachAll {ids : List String} {c' : String} :
    id ∈ (s.attachAll c ids).pluggedPortIds c' ↔ id ∈ s.pluggedPortIds c' ∨ c' = c ∧ id ∈ ids := by
  induction ids generalizing s with
  | nil => simp [attachAll]
  | cons first rest ih =>
    rw [attachAll, List.foldl_cons, ← attachAll, ih, mem_pluggedPortIds_attach_iff, List.mem_cons]
    tauto

theorem contains_ports_attach (s : Substrate) (c id other : String) :
    (s.attach c id).ports.contains other = s.ports.contains other :=
  contains_amend s id (fun p => { p with deviceId := some c }) other

theorem Heard.attachAll {ids : List String} (h : s.Heard t) (c : String) :
    (s.attachAll c ids).Heard (t.attachAll c ids) := by
  induction ids generalizing s t with
  | nil => exact h
  | cons first rest ih => exact ih (h.attach c first)

/-- Ports that no other instance lists may be plugged in. -/
theorem AttachmentsAgree.attachAll {ids : List String} (hs : s.AttachmentsAgree)
    (h : ∀ id ∈ ids, s.ports.contains id ∧ ∀ c', id ∈ s.pluggedPortIds c' → c' = c) :
    (s.attachAll c ids).AttachmentsAgree := by
  induction ids generalizing s with
  | nil => exact hs
  | cons first rest ih =>
    obtain ⟨⟨hport, hfree⟩, hrest⟩ := List.forall_mem_cons.mp h
    refine ih (hs.attach hport hfree) fun id hid => ?_
    obtain ⟨hport', hfree'⟩ := hrest id hid
    refine ⟨(contains_ports_attach s c first id).trans hport', fun c' hlisted => ?_⟩
    rcases mem_pluggedPortIds_attach_iff.mp hlisted with hold | ⟨hc, -⟩
    · exact hfree' c' hold
    · exact hc

/-- What work has come to that was to plug certain ports in: some of these have been plugged into
one instance and nothing else has been done, or there was none to be plugged in. -/
inductive Plugging (plugs : String → String → Prop) (s t : Substrate) : Prop where
  | plugged (c : String) (ids : List String)
      (hplugs : ∀ id ∈ ids, plugs c id ∧ s.ports.contains id)
      (hheard : (s.attachAll c ids).Heard t)
  | unasked (hplugs : ∀ c id, ¬ plugs c id) (h : t.AttachmentsAgree)

/-- A port that was to be plugged in has come to be listed by its instance, and another instance
had listed it. -/
def Seized (plugs : String → String → Prop) (s t : Substrate) : Prop :=
  ∃ c c' id, plugs c id ∧ c' ≠ c ∧ id ∈ s.pluggedPortIds c' ∧ id ∈ t.pluggedPortIds c

namespace Plugging

variable {plugs : String → String → Prop}

theorem of_heard (h : s.Heard t) : Plugging plugs s t :=
  .plugged "" [] (fun _ h => nomatch h) h

/-- A port that was seized is listed twice. -/
theorem not_exclusive (h : Plugging plugs s t) (hseized : Seized plugs s t) : ¬ t.Exclusive := by
  obtain ⟨c, c', id, hplugs, hne, hold, hnew⟩ := hseized
  cases h with
  | plugged c₀ ids _ hheard =>
    intro hx
    have hkept : id ∈ t.pluggedPortIds c' := by
      rw [hheard.samePorts.pluggedPortIds, mem_pluggedPortIds_attachAll]
      exact .inl hold
    exact hne (hx hkept hnew)
  | unasked hnone _ => exact absurd hplugs (hnone c id)

/-- The attachments still agree exactly if no port was seized. -/
theorem agree_iff (h : Plugging plugs s t) (hs : s.AttachmentsAgree) :
    t.AttachmentsAgree ↔ ¬ Seized plugs s t := by
  refine ⟨fun ht hseized => h.not_exclusive hseized ht.exclusive, fun hseized => ?_⟩
  cases h with
  | plugged c ids hplugs hheard =>
    refine (hs.attachAll fun id hid => ⟨(hplugs id hid).2, fun c' hold => ?_⟩).heard hheard
    by_contra hne
    refine hseized ⟨c, c', id, (hplugs id hid).1, hne, hold, ?_⟩
    rw [hheard.samePorts.pluggedPortIds, mem_pluggedPortIds_attachAll]
    exact .inr ⟨rfl, hid⟩
  | unasked _ h => exact h

end Plugging

end AmphoraWiring.Substrate
