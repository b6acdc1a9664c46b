import AmphoraWiring.Proofs.Substrate.Attachment

/-!
Drawn ids never repeat, so a port under a drawn id is a new one, and each change of the
attachments keeps the representation sound and no port plugged into two instances.
-/
namespace AmphoraWiring

/-- The zeros in front of a numeral do not matter. -/
theorem ofDigitChars_padded (k n : Nat) :
    Nat.ofDigitChars 10 (List.replicate k '0' ++ (toString n).toList) 0 = n := by
  rw [Nat.ofDigitChars_append, Nat.ofDigitChars_replicate_zero, Nat.mul_zero,
    Nat.toString_eq_repr, Nat.toList_repr, Nat.ofDigitChars_ten_toDigits]

/-- Reading the digits of a drawn id gives back its number. -/
theorem drawnId_injective {m n : Nat} (h : drawnId m = drawnId n) : m = n := by
  unfold drawnId at h
  rw [← String.toList_inj, String.toList_append, String.toList_append,
    List.append_cancel_left_eq, String.toList_ofList, String.toList_ofList] at h
  rw [← ofDigitChars_padded _ m, h, ofDigitChars_padded]

/-- Ids that are drawn are different. -/
theorem drawnId_ne_of_lt {m n : Nat} (h : m < n) : drawnId n ≠ drawnId m :=
  fun heq => Nat.ne_of_gt h (drawnId_injective heq)

namespace Substrate

variable {s : Substrate}

namespace Sound

/-- What the representation depends on. Journal, failures, allocations and the like are no part
of it. -/
theorem of_ids {t : Substrate} (hs : s.Sound) (hports : t.ports = s.ports)
    (hids : ∀ c, t.pluggedPortIds c = s.pluggedPortIds c) (hsubnets : t.subnets = s.subnets)
    (hdrawn : t.drawn = s.drawn) : t.Sound := by
  constructor
  case own_id =>
    intro id p h
    exact hs.own_id (hports ▸ h)
  case exists_port =>
    intro c id h
    rw [hports]
    exact hs.exists_port (hids c ▸ h)
  case nodup =>
    intro c
    rw [hids]
    exact hs.nodup c
  case on_network =>
    intro id p ip h hip
    unfold Registered
    rw [hsubnets]
    exact hs.on_network (hports ▸ h) hip
  case fresh =>
    intro n hn
    rw [hports]
    exact hs.fresh n (hdrawn ▸ hn)

theorem of_eq {t : Substrate} (hs : s.Sound) (hports : t.ports = s.ports)
    (hplugged : t.plugged = s.plugged) (hsubnets : t.subnets = s.subnets)
    (hdrawn : t.drawn = s.drawn) : t.Sound := by
  refine hs.of_ids hports (fun c => ?_) hsubnets hdrawn
  simp only [pluggedPortIds, hplugged]

/-- The id that is drawn next is in no use. -/
theorem next_is_new (hs : s.Sound) : s.ports.get? (drawnId (s.drawn + 1)) = none :=
  hs.fresh _ (Nat.lt_succ_self _)

/-- What is not there is not listed. -/
theorem not_plugged (hs : s.Sound) {id : String} (hnew : s.ports.get? id = none) (c : String) :
    id ∉ s.pluggedPortIds c := by
  intro hmem
  obtain ⟨p, hp⟩ := hs.exists_port hmem
  simp [hnew] at hp

/-- A port under the next id, with addresses on subnets of its network. -/
theorem addPort (hs : s.Sound) {p : Port} (hid : p.id = drawnId (s.drawn + 1))
    (hnet : ∀ ip ∈ p.fixedIps, s.Registered ip.subnetId p.networkId) :
    (s.addPort p).Sound := by
  have hget : ∀ id, (s.addPort p).ports.get? id =
      if id = p.id then some p else s.ports.get? id := fun id => IdMap.get?_insert _ _ _ _
  constructor
  case own_id =>
    intro id q hq
    rw [hget] at hq
    split at hq
    next heq =>
      cases hq
      exact heq.symm
    next => exact hs.own_id hq
  case exists_port =>
    intro c id hmem
    rw [hget]
    split
    · exact ⟨p, rfl⟩
    · exact hs.exists_port (s := s) hmem
  case nodup => exact hs.nodup
  case on_network =>
    intro id q ip hq hip
    rw [hget] at hq
    split at hq
    · cases hq
      exact hnet ip hip
    · exact hs.on_network hq hip
  case fresh =>
    intro n hn
    have hlt : s.drawn + 1 < n := hn
    have hne : drawnId n ≠ p.id := fun heq => drawnId_ne_of_lt hlt (heq.trans hid)
    rw [hget, if_neg hne]
    exact hs.fresh n (by omega)

/-- A port may change if it keeps its id and stays on subnets of its network. -/
theorem amend (hs : s.Sound) {portId : String} {f : Port → Port} (hid : ∀ p, (f p).id = p.id)
    (hnet : ∀ p, s.ports.get? portId = some p → ∀ ip ∈ (f p).fixedIps,
      s.Registered ip.subnetId (f p).networkId) :
    (s.amend portId f).Sound := by
  have hget : ∀ id, (s.amend portId f).ports.get? id =
      if id = portId then (s.ports.get? id).map f else s.ports.get? id :=
    fun id => IdMap.get?_modify _ _ _ _
  constructor
  case own_id =>
    intro id q hq
    rw [hget] at hq
    split at hq
    · obtain ⟨p, hp, rfl⟩ := Option.map_eq_some_iff.mp hq
      rw [hid]
      exact hs.own_id hp
    · exact hs.own_id hq
  case exists_port =>
    intro c id hmem
    obtain ⟨p, hp⟩ := hs.exists_port (s := s) hmem
    rw [hget, hp]
    split
    · exact ⟨f p, rfl⟩
    · exact ⟨p, rfl⟩
  case nodup => exact hs.nodup
  case on_network =>
    intro id q ip hq hip
    rw [hget] at hq
    split at hq
    next heq =>
      obtain ⟨p, hp, rfl⟩ := Option.map_eq_some_iff.mp hq
      exact hnet p (heq ▸ hp) ip hip
    next => exact hs.on_network hq hip
  case fresh =>
    intro n hn
    rw [hget, hs.fresh n hn]
    split <;> rfl

theorem attach (hs : s.Sound) {c portId : String} {p : Port}
    (hp : s.ports.get? portId = some p) : (s.attach c portId).Sound := by
  have hamend : (s.amend portId fun p => { p with deviceId := some c }).Sound := by
    refine hs.amend ?_ ?_
    · intro q
      rfl
    · intro q hq ip hip
      have hnet := hs.on_network hq hip
      exact hnet
  constructor
  case own_id => exact hamend.own_id
  case exists_port =>
    intro c' id hmem
    have hcases : id = portId ∨ id ∈ s.pluggedPortIds c' := by
      rw [pluggedPortIds_attach] at hmem
      split at hmem
      next hc =>
        rcases List.mem_append.mp hmem with hmem | hmem
        · exact .inr (hc.1 ▸ hmem)
        · exact .inl (List.mem_singleton.mp hmem)
      next => exact .inr hmem
    rcases hcases with rfl | hmem
    · exact ⟨{ p with deviceId := some c }, by simp [Substrate.attach, IdMap.get?_modify, hp]⟩
    · exact hamend.exists_port hmem
  case nodup =>
    intro c'
    rw [pluggedPortIds_attach]
    split
    next hc => exact List.nodup_append.mpr ⟨hs.nodup c, by simp, by
      intro a ha b hb heq
      rw [List.mem_singleton.mp hb] at heq
      exact hc.2 (heq ▸ ha)⟩
    next => exact hs.nodup c'
  case on_network => exact hamend.on_network
  case fresh => exact hamend.fresh

theorem detach (hs : s.Sound) (c networkId : String) : (s.detach c networkId).Sound := by
  have hold : ∀ {id q}, (s.detach c networkId).ports.get? id = some q →
      ∃ p, s.ports.get? id = some p ∧ q.id = p.id ∧ q.fixedIps = p.fixedIps ∧
        q.networkId = p.networkId := by
    intro id q hq
    rw [get?_ports_detach] at hq
    split at hq
    · obtain ⟨p, hp, rfl⟩ := Option.map_eq_some_iff.mp hq
      exact ⟨p, hp, rfl, rfl, rfl⟩
    · exact ⟨q, hq, rfl, rfl, rfl⟩
  constructor
  case own_id =>
    intro id q hq
    obtain ⟨p, hp, hid, -, -⟩ := hold hq
    exact hid.trans (hs.own_id hp)
  case exists_port =>
    intro c' id hmem
    have hin : id ∈ s.pluggedPortIds c' := by
      rw [pluggedPortIds_detach] at hmem
      split at hmem
      next hc => exact hc ▸ List.mem_of_mem_filter hmem
      next => exact hmem
    obtain ⟨p, hp⟩ := hs.exists_port hin
    rw [get?_ports_detach, hp]
    split
    · exact ⟨_, rfl⟩
    · exact ⟨p, rfl⟩
  case nodup =>
    intro c'
    rw [pluggedPortIds_detach]
    split
    · exact (hs.nodup c).filter _
    · exact hs.nodup c'
  case on_network =>
    intro id q ip hq hip
    obtain ⟨p, hp, -, hips, hnet⟩ := hold hq
    rw [hnet]
    exact hs.on_network hp (hips ▸ hip)
  case fresh =>
    intro n hn
    rw [get?_ports_detach, hs.fresh n hn]
    split <;> rfl

/-- A port that is removed is taken off the lists as well. -/
theorem removePort (hs : s.Sound) (portId : String) : (s.removePort portId).Sound := by
  have hget : ∀ id, (s.removePort portId).ports.get? id =
      if id = portId then none else s.ports.get? id := fun id => IdMap.get?_erase _ _ _
  have hold : ∀ {id q}, (s.removePort portId).ports.get? id = some q →
      s.ports.get? id = some q := by
    intro id q hq
    rw [hget] at hq
    split at hq
    · cases hq
    · exact hq
  constructor
  case own_id =>
    intro id q hq
    exact hs.own_id (hold hq)
  case exists_port =>
    intro c id hmem
    rw [pluggedPortIds_removePort, List.mem_filter, decide_eq_true_eq] at hmem
    rw [hget, if_neg hmem.2]
    exact hs.exists_port hmem.1
  case nodup =>
    intro c
    rw [pluggedPortIds_removePort]
    exact (hs.nodup c).filter _
  case on_network =>
    intro id q ip hq hip
    exact hs.on_network (hold hq) hip
  case fresh =>
    intro n hn
    rw [hget, hs.fresh n hn]
    split <;> rfl

end Sound

namespace Exclusive

theorem of_ids {t : Substrate} (hx : s.Exclusive)
    (hids : ∀ c, t.pluggedPortIds c = s.pluggedPortIds c) : t.Exclusive := by
  intro c c' id h h'
  rw [hids] at h h'
  exact hx h h'

theorem of_eq {t : Substrate} (hx : s.Exclusive) (hplugged : t.plugged = s.plugged) :
    t.Exclusive := by
  refine hx.of_ids fun c => ?_
  simp only [pluggedPortIds, hplugged]

/-- Plugging a port in is safe while no other instance has it. -/
theorem attach (hx : s.Exclusive) {c portId : String}
    (hfree : ∀ c', portId ∈ s.pluggedPortIds c' → c' = c) : (s.attach c portId).Exclusive := by
  have hcases : ∀ {c' id}, id ∈ (s.attach c portId).pluggedPortIds c' →
      id ∈ s.pluggedPortIds c' ∨ (c' = c ∧ id = portId) := by
    intro c' id hmem
    rw [pluggedPortIds_attach] at hmem
    split at hmem
    next hc =>
      rcases List.mem_append.mp hmem with hmem | hmem
      · exact .inl (hc.1 ▸ hmem)
      · exact .inr ⟨hc.1, List.mem_singleton.mp hmem⟩
    next => exact .inl hmem
  intro c₁ c₂ id h₁ h₂
  rcases hcases h₁ with hold₁ | ⟨hc₁, hid₁⟩ <;> rcases hcases h₂ with hold₂ | ⟨hc₂, hid₂⟩
  · exact hx hold₁ hold₂
  · rw [hc₂, hfree c₁ (hid₂ ▸ hold₁)]
  · rw [hc₁, hfree c₂ (hid₁ ▸ hold₂)]
  · rw [hc₁, hc₂]

theorem of_subset {t : Substrate} (hx : s.Exclusive)
    (hsub : ∀ {c id}, id ∈ t.pluggedPortIds c → id ∈ s.pluggedPortIds c) : t.Exclusive :=
  fun _ _ _ h h' => hx (hsub h) (hsub h')

theorem detach (hx : s.Exclusive) (c networkId : String) : (s.detach c networkId).Exclusive := by
  apply hx.of_subset
  intro c' id hmem
  rw [pluggedPortIds_detach] at hmem
  split at hmem
  next hc => exact hc ▸ List.mem_of_mem_filter hmem
  next => exact hmem

theorem removePort (hx : s.Exclusive) (portId : String) : (s.removePort portId).Exclusive := by
  apply hx.of_subset
  intro c id hmem
  rw [pluggedPortIds_removePort] at hmem
  exact List.mem_of_mem_filter hmem

end Exclusive

end Substrate

end AmphoraWiring
