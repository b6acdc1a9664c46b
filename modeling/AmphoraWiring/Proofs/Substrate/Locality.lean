import AmphoraWiring.Proofs.Substrate.Views

/-!
Work for one instance on ports of its own. Deleting a port looks through the lists of all
instances, and networks are shared, so that other instances are not affected has to be shown: it
holds as long as none of them lists a port that is worked on.
-/
namespace AmphoraWiring.Substrate

variable {own own' : String → Prop} {c c' id networkId : String} {s t u : Substrate}

/-- Between `s` and `t` nothing has changed but ports of the own ones and what the instance lists,
and it has come to list own ports only. Other instances are affected if they list own ports. -/
structure Touches (own : String → Prop) (c : String) (s t : Substrate) : Prop where
  ports : ∀ id, ¬ own id → t.ports.get? id = s.ports.get? id
  lists : ∀ c' ≠ c, (∀ id ∈ s.pluggedPortIds c', ¬ own id) →
    t.plugged.get? c' = s.plugged.get? c'
  listed : ∀ id ∈ t.pluggedPortIds c, id ∈ s.pluggedPortIds c ∨ own id

namespace Touches

theorem trans (h : Touches own c s t) (h' : Touches own c t u) : Touches own c s u := by
  constructor
  case ports => exact fun id hid => (h'.ports id hid).trans (h.ports id hid)
  case lists =>
    intro c' hc hother
    have hfirst := h.lists c' hc hother
    have hsame : t.pluggedPortIds c' = s.pluggedPortIds c' := by
      simp only [pluggedPortIds, hfirst]
    exact (h'.lists c' hc fun id hid => hother id (hsame ▸ hid)).trans hfirst
  case listed =>
    intro id hid
    rcases h'.listed id hid with hid | hid
    · exact h.listed id hid
    · exact .inr hid

theorem of_samePorts (h : s.SamePorts t) : Touches own c s t where
  ports := fun _ _ => by rw [h.ports]
  lists := fun _ _ _ => by rw [h.plugged]
  listed := fun id hid => .inl (h.pluggedPortIds c ▸ hid)

theorem refl (s : Substrate) : Touches own c s s := .of_samePorts (Heard.refl s).samePorts

theorem of_addPort {p : Port} (hid : own p.id) : Touches own c s (s.addPort p) where
  ports := by
    intro id hother
    have hne : id ≠ p.id := fun heq => hother (heq ▸ hid)
    exact (IdMap.get?_insert _ _ _ _).trans (if_neg hne)
  lists := fun _ _ _ => rfl
  listed := fun id hid => .inl hid

theorem of_attach (hid : own id) : Touches own c s (s.attach c id) where
  ports := by
    intro k hother
    have hne : k ≠ id := fun heq => hother (heq ▸ hid)
    exact (IdMap.get?_modify _ _ _ _).trans (if_neg hne)
  lists := fun c' hc _ => (IdMap.get?_insert _ _ _ _).trans (if_neg hc)
  listed := by
    intro k hk
    rw [pluggedPortIds_attach] at hk
    split at hk
    next =>
      rcases List.mem_append.mp hk with hk | hk
      · exact .inl hk
      · exact .inr (List.mem_singleton.mp hk ▸ hid)
    next => exact .inl hk

/-- An instance may leave a network where it has own ports only. -/
theorem of_detach (hids : ∀ id ∈ s.idsOn c networkId, own id) :
    Touches own c s (s.detach c networkId) where
  ports := by
    intro id hother
    rw [get?_ports_detach, if_neg fun hid => hother (hids id hid)]
  lists := fun c' hc _ => (IdMap.get?_insert _ _ _ _).trans (if_neg hc)
  listed := by
    intro id hid
    rw [pluggedPortIds_detach, if_pos rfl] at hid
    exact .inl (List.mem_of_mem_filter hid)

theorem of_removePort (hid : own id) : Touches own c s (s.removePort id) where
  ports := by
    intro k hother
    have hne : k ≠ id := fun heq => hother (heq ▸ hid)
    rw [get?_ports_removePort, if_neg hne]
  lists := by
    intro c' _ hother
    unfold removePort
    rw [IdMap.get?_map]
    cases hlist : s.plugged.get? c' with
    | none => rfl
    | some ids =>
      have hids : s.pluggedPortIds c' = ids := by simp [pluggedPortIds, hlist]
      rw [Option.map_some, List.filter_eq_self.mpr]
      intro k hk
      have hne : k ≠ id := fun heq => hother k (hids ▸ hk) (heq ▸ hid)
      simpa using hne
  listed := by
    intro k hk
    rw [pluggedPortIds_removePort] at hk
    exact .inl (List.mem_of_mem_filter hk)

theorem of_serving {request : PortRequest} (h : s.Serving t request) : Touches own c s t := by
  obtain ⟨ids, hallocating, -⟩ := h
  exact .of_samePorts hallocating.samePorts

/-- A new port that is the own one may be plugged into the instance. -/
theorem of_adopts {request : PortRequest} {p : Port} (h : s.Adopts t request c p)
    (hid : own p.id) : Touches own c s t := by
  obtain ⟨u, hu, ht⟩ := h.samePorts
  have hadded : Touches own c s (u.addPort p) := (of_samePorts hu).trans (of_addPort hid)
  exact (hadded.trans (of_attach hid)).trans (of_samePorts ht)

theorem of_amended {f : Port → Port} (h : s.Amended t id f) (hid : own id) :
    Touches own c s t := by
  obtain ⟨u, hu, ht⟩ := h
  have hamended : Touches own c u (u.amend id f) := by
    refine ⟨fun k hother => ?_, fun _ _ _ => rfl, fun _ hk => .inl hk⟩
    have hne : k ≠ id := fun heq => hother (heq ▸ hid)
    exact (IdMap.get?_modify _ _ _ _).trans (if_neg hne)
  exact (of_samePorts hu).trans (hamended.trans (of_samePorts ht))

/-- An instance that is detached must list own ports only. -/
theorem of_removal {portId : Option String} (h : s.Removal t c networkId portId)
    (hlisted : ∀ id ∈ s.pluggedPortIds c, own id) (hid : ∀ id, portId = some id → own id) :
    Touches own c s t := by
  obtain ⟨u, hu, hremoved⟩ := h
  have hdetached : Touches own c s u := by
    rcases hu with hu | ⟨hu, -⟩
    · exact (of_detach fun id hid => hlisted id (mem_idsOn.mp hid).1).trans
        (of_samePorts hu.samePorts)
    · exact of_samePorts hu.samePorts
  rcases hremoved with ht | ⟨removed, hport, ht⟩
  · exact hdetached.trans (of_samePorts ht.samePorts)
  · exact hdetached.trans ((of_removePort (hid removed hport)).trans (of_samePorts ht.samePorts))

end Touches

end AmphoraWiring.Substrate
