import AmphoraWiring.Proofs.Substrate.SameBut
import AmphoraWiring.Proofs.Substrate.Sparing

/-!
The ports that are made between two states. Their ids are drawn there one after the other, so they
can be told from every port that existed before. Where instances are given ports on certain
networks only, the ports that they list are such new ones and some of those that they listed.
-/
namespace AmphoraWiring.Substrate

variable {s t u : Substrate} {c id networkId : String}

/-- The ids that were drawn between the states, the oldest first. -/
def newIds (s t : Substrate) : List String :=
  (List.range' (s.drawn + 1) (t.drawn - s.drawn)).map drawnId

/-- The new ids are those drawn in between. -/
theorem mem_newIds : id ∈ s.newIds t ↔ ∃ n, s.drawn < n ∧ n ≤ t.drawn ∧ id = drawnId n := by
  simp only [newIds, List.mem_map, List.mem_range'_1]
  constructor
  · intro h
    obtain ⟨n, ⟨hlow, hhigh⟩, rfl⟩ := h
    exact ⟨n, by omega, by omega, rfl⟩
  · intro h
    obtain ⟨n, hlow, hhigh, rfl⟩ := h
    exact ⟨n, ⟨by omega, by omega⟩, rfl⟩

@[simp] theorem newIds_self (s : Substrate) : s.newIds s = [] := by
  simp [newIds]

theorem newIds_nodup (s t : Substrate) : (s.newIds t).Nodup :=
  List.Nodup.map (fun _ _ h => drawnId_injective h) List.nodup_range'

theorem newIds_of_drawn_succ (h : t.drawn = s.drawn + 1) :
    s.newIds t = [drawnId (s.drawn + 1)] := by
  simp [newIds, h]

theorem newIds_congr (h : u.drawn = t.drawn) : s.newIds u = s.newIds t := by
  unfold newIds
  rw [h]

/-- What was drawn first is listed first. -/
theorem newIds_append (h : s.drawn ≤ t.drawn) (h' : t.drawn ≤ u.drawn) :
    s.newIds u = s.newIds t ++ t.newIds u := by
  have hstart : t.drawn + 1 = s.drawn + 1 + (t.drawn - s.drawn) := by omega
  have hlength : u.drawn - s.drawn = t.drawn - s.drawn + (u.drawn - t.drawn) := by omega
  unfold newIds
  rw [← List.map_append, hstart, List.range'_append_1, hlength]

/-- An id that has yet to be drawn is in no use. -/
theorem Sound.absent_of_new (hs : s.Sound) (h : id ∈ s.newIds t) : s.Absent id := by
  obtain ⟨n, hlow, -, rfl⟩ := mem_newIds.mp h
  exact .of_new hs (hs.fresh n hlow)

/-- A port that was not made since was there already, on the same network. -/
theorem Later.get?_old {q : Port} (h : s.Later t) (hq : t.ports.get? id = some q)
    (hid : id ∉ s.newIds t) : ∃ p, s.ports.get? id = some p ∧ q.networkId = p.networkId := by
  rcases h.ports hq with hold | ⟨n, hlow, hhigh, heq⟩
  · exact hold
  · exact absurd (mem_newIds.mpr ⟨n, hlow, hhigh, heq⟩) hid

/-- `t` comes after `s`, and an instance lists nothing that it has not listed before but new ports
on networks that it was to be given. -/
structure Extends (given : String → String → Prop) (s t : Substrate) : Prop where
  later : s.Later t
  listed : ∀ c, ∀ id ∈ t.pluggedPortIds c, id ∈ s.pluggedPortIds c ∨
    id ∈ s.newIds t ∧ ∃ networkId, given c networkId ∧ t.OnlyOn id networkId

namespace Extends

variable {given given' : String → String → Prop}

theorem refl (s : Substrate) : Extends given s s := ⟨.refl s, fun _ _ h => .inl h⟩

theorem mono (h : Extends given s t) (himp : ∀ c n, given c n → given' c n) :
    Extends given' s t := by
  refine ⟨h.later, fun c id hid => (h.listed c id hid).imp_right fun hnew => ?_⟩
  obtain ⟨hid, n, hn, hon⟩ := hnew
  exact ⟨hid, n, himp c n hn, hon⟩

theorem trans (h : Extends given s t) (h' : Extends given t u) : Extends given s u := by
  have happend := newIds_append h.later.drawn h'.later.drawn
  refine ⟨h.later.trans h'.later, fun c id hid => ?_⟩
  rcases h'.listed c id hid with hold | ⟨hnew, hgiven⟩
  · refine (h.listed c id hold).imp_right fun hnew => ?_
    obtain ⟨hnew, n, hn, hon⟩ := hnew
    exact ⟨happend ▸ List.mem_append_left _ hnew, n, hn, h'.later.onlyOn hon⟩
  · exact .inr ⟨happend ▸ List.mem_append_right _ hnew, hgiven⟩

/-- Where nothing was plugged in. -/
theorem of_listed (hlater : s.Later t)
    (h : ∀ c, t.pluggedPortIds c ⊆ s.pluggedPortIds c) : Extends given s t :=
  ⟨hlater, fun c _ hid => .inl (h c hid)⟩

theorem of_adopts {request : PortRequest} {p : Port} (hs : s.Sound) (hx : s.Exclusive)
    (h : s.Adopts t request c p) (hgiven : given c request.networkId) : Extends given s t := by
  have hnext : Sparing [] s t := .of_adopts hs hx h List.not_mem_nil
  have hget : t.ports.get? p.id = some { p with deviceId := some c } := by
    rw [h.get?, if_pos rfl]
  have hon := hnext.sound.onlyOn hget
  change t.OnlyOn p.id p.networkId at hon
  rw [h.created.network] at hon
  refine ⟨hnext.later, fun c' id hid => ?_⟩
  obtain ⟨u, hu, ht⟩ := h.samePorts
  rw [ht.pluggedPortIds, pluggedPortIds_attach] at hid
  split at hid
  next hc =>
    rcases List.mem_append.mp hid with hold | hnew
    · exact .inl (hc.1 ▸ hu.pluggedPortIds c ▸ hold)
    · rw [List.mem_singleton.mp hnew]
      refine .inr ⟨?_, request.networkId, hc.1 ▸ hgiven, hon⟩
      rw [newIds_of_drawn_succ h.drawn, h.created.id]
      exact List.mem_singleton_self _
  next => exact .inl (hu.pluggedPortIds c' ▸ hid)

theorem of_amended {f : Port → Port} (h : s.Amended t id f)
    (hnet : ∀ p, (f p).networkId = p.networkId) : Extends given s t := by
  refine .of_listed (h.later hnet) fun c k hk => ?_
  obtain ⟨u, hu, ht⟩ := h
  rw [ht.pluggedPortIds] at hk
  exact hu.pluggedPortIds c ▸ hk

/-- A removal makes no port. -/
theorem of_removal {portId : Option String} (h : s.Removal t c networkId portId) :
    Extends given s t := by
  refine .of_listed h.later fun c' k hk => ?_
  obtain ⟨u, hu, hremoved⟩ := h
  have hk' : k ∈ u.pluggedPortIds c' := by
    rcases hremoved with ht | ⟨removed, -, ht⟩
    · exact ht.samePorts.pluggedPortIds c' ▸ hk
    · rw [ht.samePorts.pluggedPortIds, pluggedPortIds_removePort] at hk
      exact List.mem_of_mem_filter hk
  rcases hu with hu | ⟨hu, -⟩
  · rw [hu.samePorts.pluggedPortIds, pluggedPortIds_detach] at hk'
    split at hk'
    next heq => exact heq ▸ List.mem_of_mem_filter hk'
    next => exact hk'
  · exact hu.samePorts.pluggedPortIds c' ▸ hk'

/-- On a network where it had no port, an instance has new ones only. -/
theorem idsOn_subset (h : Extends given s t) (hvacant : s.idsOn c networkId = []) :
    t.idsOn c networkId ⊆ s.newIds t := by
  intro id hid
  obtain ⟨hlisted, q, hq, hnet⟩ := mem_idsOn.mp hid
  by_contra hnot
  obtain ⟨p, hp, hsame⟩ := h.later.get?_old hq hnot
  have hold : id ∈ s.pluggedPortIds c :=
    (h.listed c id hlisted).resolve_right fun hnew => hnot hnew.1
  have hmem : id ∈ s.idsOn c networkId := mem_idsOn.mpr ⟨hold, p, hp, hsame ▸ hnet⟩
  rw [hvacant] at hmem
  cases hmem

/-- On a network that it was not to be given, an instance has no new port. -/
theorem not_new_of_not_given (h : Extends given s t) (hs : s.Sound) (ht : t.Sound)
    (hgiven : ¬ given c networkId) {p : Port} (hp : p ∈ t.portsOn c networkId) :
    p.id ∉ s.newIds t := by
  intro hnew
  obtain ⟨hlisted, hget, hnet⟩ := ht.mem_portsOn.mp hp
  rcases h.listed c p.id hlisted with hold | ⟨-, n, hn, hon⟩
  · exact (hs.absent_of_new hnew).unplugged c hold
  · exact hgiven ((hon.network hget).symm.trans hnet ▸ hn)

end Extends

end AmphoraWiring.Substrate
