import AmphoraWiring.Proofs.Substrate.SeededPorts

/-!
What seeding many interfaces does. Those that are seeded take addresses from the ones to come, and
nothing else: together they can be seeded exactly if the rest still can after the first.
-/
namespace AmphoraWiring.Substrate

open Action

variable {s t u : Substrate} {rest : List Interface}

theorem SameNetworks.wishesOf (h : s.SameNetworks t) : t.wishesOf = s.wishesOf := by
  funext i
  unfold Substrate.wishesOf firstSubnet?
  rw [h.networks]

theorem SameNetworks.backs (h : s.SameNetworks t) : t.Backs = s.Backs := by
  have hfulfils : t.Fulfils = s.Fulfils := by
    unfold Fulfils
    rw [h.subnets]
  funext i p
  apply propext
  constructor
  · intro hp
    have hips := hp.fixedIps
    rw [hfulfils, h.wishesOf] at hips
    exact ⟨hp.networkId, hp.vnicType, hp.portId, hips⟩
  · intro hp
    have hips := hp.fixedIps
    rw [← hfulfils, ← h.wishesOf] at hips
    exact ⟨hp.networkId, hp.vnicType, hp.portId, hips⟩

/-- Where all interfaces can be seeded the first of them can be. -/
theorem Seedable.left {interfaces : List Interface} (h : s.Seedable (interfaces ++ rest)) :
    s.Seedable interfaces where
  network := fun i hi => h.network i (List.mem_append_left _ hi)
  registered := fun i hi => h.registered i (List.mem_append_left _ hi)
  room := fun id => (h.room id).mono (by
    rw [List.flatMap_append, owed_append]
    exact Nat.le_add_right _ _)

namespace Seeding

variable {seeded seeded' : List (String × Interface)}

theorem refl (s : Substrate) : s.Seeding s [] :=
  ⟨.refl s, ⟨nofun, nofun, s.room_zero⟩, fun _ _ _ _ _ => rfl,
    fun _ => ⟨[], (List.append_nil _).symm, .nil⟩, fun _ h => h⟩

/-- More interfaces can be seeded together with these if they still can afterwards. -/
theorem seedable_append (h : s.Seeding t seeded) :
    s.Seedable (seeded.map (·.2) ++ rest) ↔ t.Seedable rest := by
  have hwishes := h.toSameNetworks.wishesOf
  have hroom : ∀ id, s.Room id (owed ((seeded.map (·.2) ++ rest).flatMap s.wishesOf) id) ↔
      t.Room id (owed (rest.flatMap t.wishesOf) id) := by
    intro id
    rw [List.flatMap_append, owed_append, h.counts.room_add h.subnets, hwishes]
    exact and_iff_right (h.seedable.room id)
  constructor
  · intro hall
    refine ⟨fun i hi => ?_, fun i hi wish hwish => ?_, fun id => (hroom id).mp (hall.room id)⟩
    · rw [h.networks]
      exact hall.network i (List.mem_append_right _ hi)
    · rw [hwishes] at hwish
      exact h.toSameNetworks.registered.mpr
        (hall.registered i (List.mem_append_right _ hi) wish hwish)
  · intro hrest
    refine ⟨fun i hi => ?_, fun i hi wish hwish => ?_, fun id => (hroom id).mpr (hrest.room id)⟩
    · rcases List.mem_append.mp hi with hi | hi
      · exact h.seedable.network i hi
      · exact h.networks ▸ hrest.network i hi
    · rcases List.mem_append.mp hi with hi | hi
      · exact h.seedable.registered i hi wish hwish
      · exact h.toSameNetworks.registered.mp (hrest.registered i hi wish (hwishes ▸ hwish))

/-- Interfaces are seeded one after the other. -/
theorem trans (h : s.Seeding t seeded) (h' : t.Seeding u seeded') :
    s.Seeding u (seeded ++ seeded') where
  toSameNetworks := h.toSameNetworks.trans h'.toSameNetworks
  seedable := by
    rw [List.map_append]
    exact h.seedable_append.mpr h'.seedable
  counts := by
    have hrest := h'.counts
    rw [h.toSameNetworks.wishesOf] at hrest
    have hcounts := h.counts.trans hrest h.subnets
    simpa only [← owed_append, ← List.flatMap_append, ← List.map_append] using hcounts
  plugged := fun c => by
    obtain ⟨ports, hports, hbacks⟩ := h.plugged c
    obtain ⟨ports', hports', hbacks'⟩ := h'.plugged c
    rw [h.toSameNetworks.backs] at hbacks'
    refine ⟨ports ++ ports', by rw [hports', hports, List.append_assoc], ?_⟩
    have hsplit : interfacesOf c (seeded ++ seeded') =
        interfacesOf c seeded ++ interfacesOf c seeded' := by
      simp [interfacesOf]
    rw [hsplit]
    exact List.rel_append hbacks hbacks'
  hosts := fun c hc => h'.hosts c (h.hosts c hc)

theorem addInstance (s : Substrate) (c : String) : s.Seeding (s.addInstance c) [] := by
  refine ⟨⟨?_, subnets_addInstance s c, ?_⟩, ⟨nofun, nofun, s.room_zero⟩, ?_, fun c' => ?_,
    fun c' hc' => contains_plugged_addInstance hc' c⟩
  · unfold Substrate.addInstance
    split <;> rfl
  · unfold Substrate.addInstance
    split <;> exact fun h => h
  · intro id _ _ _ _
    unfold Substrate.addInstance
    split <;> rfl
  · refine ⟨[], ?_, .nil⟩
    rw [List.append_nil]
    refine pluggedPorts_congr (pluggedPortIds_addInstance s c c') fun id _ => ?_
    rw [ports_addInstance]

end Seeding

theorem Ready.addInstance {interfaces : List Interface} (h : s.Ready interfaces) (c : String) :
    (s.addInstance c).Ready interfaces where
  exists_port := fun c' id hid => by
    rw [pluggedPortIds_addInstance] at hid
    rw [ports_addInstance]
    exact h.exists_port c' id hid
  undrawn := by
    rw [drawn_addInstance, ports_addInstance]
    exact h.undrawn
  unused := by
    rw [ports_addInstance]
    exact h.unused
  apart := by
    rw [drawn_addInstance]
    exact h.apart
  nodup := h.nodup

/-- Seeding the interfaces of an instance fails only if they cannot all be seeded. -/
theorem ends_seedInterfaces {interfaces : List Interface} (hready : s.Ready (interfaces ++ rest))
    (c : String) : (seedInterfaces c interfaces).Ends s
      (fun _ t => s.Seeding t (interfaces.map fun i => (c, i)) ∧ t.Ready rest)
      fun _ _ => ¬ s.Seedable interfaces := by
  induction interfaces generalizing s with
  | nil => exact ends_pure ⟨.refl s, hready⟩
  | cons i interfaces ih =>
    refine (ends_seedInterface_ready hready c).bind ?_ ?_
    · intro _ t hend
      obtain ⟨hfirst, hready'⟩ := hend
      apply (ih hready').mono
      · exact fun _ u hend => ⟨hfirst.trans hend.1, hend.2⟩
      · exact fun e u hend hseedable => hend (hfirst.seedable_append.mp hseedable)
    · intro e t hend hseedable
      have hone : s.Seedable [i] := hseedable.left
      exact hend hone

/-- The interfaces, each with the instance that it is of. -/
def placed (instances : List (String × List Interface)) : List (String × Interface) :=
  instances.flatMap fun e => e.2.map fun i => (e.1, i)

/-- Every interface has a place. -/
theorem map_snd_placed (instances : List (String × List Interface)) :
    (placed instances).map (·.2) = instances.flatMap (·.2) := by
  simp [placed, List.map_flatMap, Function.comp_def]

/-- Seeding instances fails only if their interfaces cannot all be seeded. -/
theorem ends_seedInstances {instances : List (String × List Interface)}
    (hready : s.Ready (instances.flatMap (·.2))) : (seedInstances instances).Ends s
      (fun _ t => s.Seeding t (placed instances) ∧ ∀ e ∈ instances, t.plugged.contains e.1)
      fun _ _ => ¬ s.Seedable (instances.flatMap (·.2)) := by
  induction instances generalizing s with
  | nil => exact ends_pure ⟨.refl s, nofun⟩
  | cons e instances ih =>
    obtain ⟨c, interfaces⟩ := e
    have hadded := Seeding.addInstance s c
    apply ends_modify
    refine (ends_seedInterfaces (hready.addInstance c) c).bind ?_ ?_
    · intro _ t hend
      obtain ⟨hfirst, hready'⟩ := hend
      have hseeded := hadded.trans hfirst
      have hmap : (interfaces.map fun i => (c, i)).map (·.2) = interfaces := by
        simp [Function.comp_def]
      apply (ih hready').mono
      · intro _ u hend
        obtain ⟨hrest, hhosted⟩ := hend
        refine ⟨hseeded.trans hrest, List.forall_mem_cons.mpr ⟨hrest.hosts c ?_, hhosted⟩⟩
        exact hfirst.hosts c (contains_plugged_addInstance_self s c)
      · intro e u hend hseedable
        refine hend (hseeded.seedable_append.mp ?_)
        rw [List.nil_append, hmap]
        exact hseedable
    · exact fun e t hend hseedable => hend (hadded.seedable_append.mp hseedable.left)

end AmphoraWiring.Substrate
