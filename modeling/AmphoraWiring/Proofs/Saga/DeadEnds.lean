import AmphoraWiring.Proofs.Delta.Entries
import AmphoraWiring.Proofs.Saga.PortDetails
import AmphoraWiring.Proofs.Seeding

/-!
Applying a delta may come to a point where it has no port to work on: a subnet is to be added to a
network that has no port, or what is to be removed is named without one. For a delta that has been
computed this never happens. A change that names no port is on a network for which the same delta
adds an interface, and interfaces come first, so its port is among the changed ones by then. That
such a point is not reached shows in that nothing depends on what would be done there.
-/
namespace AmphoraWiring

open Action Deployment

namespace Action

variable {ε σ α β γ : Type} {s : σ}

/-- What follows has to agree only on what the first part comes to. -/
theorem runOn_bind_congr {x y : Action ε σ α} {f g : α → Action ε σ β}
    (hfirst : x.runOn s = y.runOn s)
    (hrest : ∀ a t, y.runOn s = (.ok a, t) → (f a).runOn t = (g a).runOn t) :
    Action.runOn (x >>= f) s = Action.runOn (y >>= g) s := by
  rw [runOn_bind, runOn_bind, hfirst]
  rcases h : y.runOn s with ⟨e | a, t⟩
  · rfl
  · exact hrest a t h

/-- Two loops run alike if their rounds do wherever an invariant holds that a round keeps. -/
theorem runOn_foldlM_congr {f g : β → γ → Action ε σ β} {P : β → Prop} {l : List γ}
    (hsame : ∀ c ∈ l, ∀ b, P b → f b c = g b c)
    (hkeep : ∀ c ∈ l, ∀ b s, P b → (g b c).Ends s (fun b' _ => P b') fun _ _ => True)
    {b : β} (hb : P b) (s : σ) : Action.runOn (l.foldlM f b) s = Action.runOn (l.foldlM g b) s := by
  induction l generalizing b s with
  | nil => rfl
  | cons c rest ih =>
    obtain ⟨hc, hsame⟩ := List.forall_mem_cons.mp hsame
    obtain ⟨hkeepc, hkeep⟩ := List.forall_mem_cons.mp hkeep
    rw [List.foldlM_cons, List.foldlM_cons, hc b hb]
    exact runOn_bind_congr rfl fun b' t hrun => ih hsame hkeep ((hkeepc b s hb).of_ok hrun) t

/-- Two loops with the same rounds run alike. -/
theorem runOn_foldlM_of_eq {f g : β → γ → Action ε σ β} {l : List γ}
    (hsame : ∀ c ∈ l, ∀ b, f b c = g b c) (b : β) (s : σ) :
    Action.runOn (l.foldlM f b) s = Action.runOn (l.foldlM g b) s :=
  runOn_foldlM_congr (P := fun _ => True) (fun c hc b _ => hsame c hc b)
    (fun c _ b s _ => (ends_runOn (g b c) s).mono (fun _ _ _ => trivial) fun _ _ _ => trivial)
    trivial s

end Action

namespace Delta

/-- What is to be done where there is no port to work on. -/
structure DeadEnds where
  addSubnet : ChangedPorts → SubnetChange → Work ChangedPorts
  deleteSubnet : ChangedPorts → SubnetChange → Work ChangedPorts
  deleteNic : Amphora → ChangedPorts → Interface → Work ChangedPorts

namespace DeadEnds

/-- A subnet that cannot be added is an error. A subnet that cannot be removed is passed over, and
of an interface there is only its network to be unplugged. -/
def usual : DeadEnds where
  addSubnet _ change := throw (.invalidInput
    ("no port on network " ++ change.networkId ++ " for subnet " ++ change.subnetId))
  deleteSubnet changed _ := return changed
  deleteNic amphora changed nic := do
    let _ ← Flow.outcome (onSubstrate (Substrate.unplugNetwork amphora.instanceId nic.networkId))
    return changed.erase nic.networkId

variable (ends : DeadEnds) (amphora : Amphora) (changed : ChangedPorts)

def addingSubnet (change : SubnetChange) : Work ChangedPorts :=
  match change.target changed with
  | none => ends.addSubnet changed change
  | some _ => Delta.addSubnet changed change

def deletingSubnet (change : SubnetChange) : Work ChangedPorts :=
  match change.portId with
  | none => ends.deleteSubnet changed change
  | some _ => Delta.deleteSubnet changed change

def deletingNic (nic : Interface) : Work ChangedPorts :=
  match nic.portId with
  | none => ends.deleteNic amphora changed nic
  | some _ => Delta.deleteNic amphora changed nic

/-- Applies a delta, with these dead ends in place of the usual ones. -/
def apply (delta : Delta) : Work (List Port) := do
  let changed ← delta.addNics.foldlM (addNic amphora) .empty
  let changed ← delta.addSubnets.foldlM ends.addingSubnet changed
  let changed ← delta.deleteSubnets.foldlM ends.deletingSubnet changed
  let changed ← delta.deleteNics.foldlM (ends.deletingNic amphora) changed
  return changed.values

theorem addingSubnet_usual (change : SubnetChange) :
    usual.addingSubnet changed change = Delta.addSubnet changed change := by
  unfold addingSubnet
  cases h : change.target changed with
  | some id => rfl
  | none =>
    have hnone : change.portId.or ((changed.get? change.networkId).map (·.id)) = none := h
    have hfail : Delta.addSubnet changed change = usual.addSubnet changed change := by
      unfold Delta.addSubnet
      dsimp only
      rw [hnone]
      rfl
    exact hfail.symm

theorem deletingSubnet_usual (change : SubnetChange) :
    usual.deletingSubnet changed change = Delta.deleteSubnet changed change := by
  unfold deletingSubnet
  cases h : change.portId with
  | some id => rfl
  | none =>
    unfold Delta.deleteSubnet
    rw [h]
    rfl

theorem deletingNic_usual (nic : Interface) :
    usual.deletingNic amphora changed nic = Delta.deleteNic amphora changed nic := by
  unfold deletingNic
  cases h : nic.portId with
  | some id => rfl
  | none =>
    unfold Delta.deleteNic
    rw [h]
    rfl

/-- With the usual dead ends it is the application of the delta as it is. -/
theorem apply_usual (delta : Delta) : usual.apply amphora delta = delta.apply amphora := by
  have hadd : usual.addingSubnet = Delta.addSubnet :=
    funext fun changed => funext fun change => addingSubnet_usual changed change
  have hdelete : usual.deletingSubnet = Delta.deleteSubnet :=
    funext fun changed => funext fun change => deletingSubnet_usual changed change
  have hdeleteNic : usual.deletingNic amphora = Delta.deleteNic amphora :=
    funext fun changed => funext fun nic => deletingNic_usual amphora changed nic
  rw [apply, hadd, hdelete, hdeleteNic]
  rfl

end DeadEnds

/-! Deltas that name their ports -/

/-- Where the delta names no port, it adds one. -/
structure Named (delta : Delta) : Prop where
  addSubnets : ∀ change ∈ delta.addSubnets, change.portId = none →
    ∃ nic ∈ delta.addNics, nic.networkId = change.networkId
  deleteSubnets : ∀ change ∈ delta.deleteSubnets, change.portId ≠ none
  deleteNics : ∀ nic ∈ delta.deleteNics, nic.portId ≠ none

/-- The interfaces are counted as changed. -/
def Counts (nics : List Interface) (changed : ChangedPorts) : Prop :=
  ∀ nic ∈ nics, changed.contains nic.networkId

theorem Counts.insert {nics : List Interface} {changed : ChangedPorts} (h : Counts nics changed)
    (networkId : String) (q : Port) : Counts nics (changed.insert networkId q) := by
  intro nic hnic
  obtain ⟨p, hp⟩ := IdMap.contains_iff.mp (h nic hnic)
  rw [IdMap.contains_iff, IdMap.get?_insert]
  split
  · exact ⟨q, rfl⟩
  · exact ⟨p, hp⟩

theorem ends_addNics_counts (amphora : Amphora) (nics : List Interface) (run : Run Deployment) :
    Action.Ends (nics.foldlM (addNic amphora) .empty) run (fun changed _ => Counts nics changed)
      fun _ _ => True := by
  refine Ends.foldlM_done (fun done changed _ => Counts done changed) ?_ (by simp [Counts])
  intro done nic rest _ changed run hdone
  refine (ends_addNic_details amphora changed nic run).imp_ok fun changed' run' hend => ?_
  obtain ⟨c, p, q, -, -, -, rfl⟩ := hend
  intro other hother
  rcases List.mem_append.mp hother with hother | hother
  · exact hdone.insert nic.networkId q other hother
  · rw [List.mem_singleton.mp hother]
    exact IdMap.contains_iff.mpr ⟨q, IdMap.get?_insert_self _ _ _⟩

theorem ends_addSubnet_counts {nics : List Interface} {changed : ChangedPorts}
    (h : Counts nics changed) (change : SubnetChange) (run : Run Deployment) :
    Action.Ends (addSubnet changed change) run (fun changed' _ => Counts nics changed')
      fun _ _ => True := by
  refine (ends_addSubnet_details changed change run).imp_ok fun changed' run' hend => ?_
  rcases hend with ⟨q, -, -, rfl, -⟩ | ⟨id, p, ips, q, -, -, -, rfl, -⟩
  · exact h
  · exact h.insert change.networkId q

/-- Once the new interfaces are counted, each subnet finds its port. -/
theorem Named.addingSubnet {delta : Delta} (hnamed : delta.Named) (ends : DeadEnds)
    {changed : ChangedPorts} (h : Counts delta.addNics changed) {change : SubnetChange}
    (hchange : change ∈ delta.addSubnets) :
    ends.addingSubnet changed change = addSubnet changed change := by
  have htarget : change.target changed ≠ none := by
    rw [SubnetChange.target]
    intro hnone
    obtain ⟨hport, hcounted⟩ := Option.or_eq_none_iff.mp hnone
    obtain ⟨nic, hnic, hnetwork⟩ := hnamed.addSubnets change hchange hport
    obtain ⟨p, hp⟩ := IdMap.contains_iff.mp (h nic hnic)
    rw [hnetwork] at hp
    rw [hp] at hcounted
    cases hcounted
  obtain ⟨id, hid⟩ := Option.ne_none_iff_exists'.mp htarget
  rw [DeadEnds.addingSubnet, hid]

/-- A delta that names its ports is applied in the same way whatever would be done at dead ends. -/
theorem Named.runOn_apply {delta : Delta} (hnamed : delta.Named) (ends : DeadEnds)
    (amphora : Amphora) (run : Run Deployment) :
    (ends.apply amphora delta).runOn run = (delta.apply amphora).runOn run := by
  have hsubnet : ∀ change ∈ delta.deleteSubnets, ∀ changed,
      ends.deletingSubnet changed change = deleteSubnet changed change := by
    intro change hchange changed
    obtain ⟨id, hid⟩ := Option.ne_none_iff_exists'.mp (hnamed.deleteSubnets change hchange)
    rw [DeadEnds.deletingSubnet, hid]
  have hnic : ∀ nic ∈ delta.deleteNics, ∀ changed,
      ends.deletingNic amphora changed nic = deleteNic amphora changed nic := by
    intro nic hnic changed
    obtain ⟨id, hid⟩ := Option.ne_none_iff_exists'.mp (hnamed.deleteNics nic hnic)
    rw [DeadEnds.deletingNic, hid]
  refine runOn_bind_congr rfl fun changed₁ run₁ hrun₁ => ?_
  have hcounts := (ends_addNics_counts amphora delta.addNics run).of_ok hrun₁
  have hadd := runOn_foldlM_congr (P := Counts delta.addNics)
    (fun change hchange changed h => hnamed.addingSubnet ends h hchange)
    (fun change _ changed run h => ends_addSubnet_counts h change run) hcounts run₁
  refine runOn_bind_congr hadd fun changed₂ run₂ _ => ?_
  refine runOn_bind_congr (runOn_foldlM_of_eq hsubnet changed₂ run₂) fun changed₃ run₃ _ => ?_
  exact runOn_bind_congr (runOn_foldlM_of_eq hnic changed₃ run₃) fun _ _ _ => rfl

/-! Deltas that are computed -/

section

open Substrate

variable {s : Substrate} {management : List String} {c : String} {amphora : Amphora}
  {wanted : Topology}

/-- Whatever the substrate, a subnet is removed from the port by which its network is reached. -/
theorem carrier_of_mem_deleteSubnets {change : SubnetChange}
    (h : change ∈ (between amphora wanted (s.attached management c)).deleteSubnets) :
    ∃ p, s.carrier c change.networkId = some p ∧ change.portId = some p.id := by
  simp only [between, List.mem_map, List.mem_filter, Prod.exists, IdMap.mem_entries_iff,
    get?_pluggedSubnets_iff, subnetChange_attached] at h
  obtain ⟨subnetId, networkId, ⟨⟨⟨hmanagement, p, hp, -⟩, -⟩, -⟩, rfl⟩ := h
  exact ⟨p, hp, namedPort_eq_some.mpr ⟨hmanagement, p, hp, rfl⟩⟩

theorem carrier_of_mem_deleteNics {nic : Interface}
    (h : nic ∈ (between amphora wanted (s.attached management c)).deleteNics) :
    ∃ p, s.carrier c nic.networkId = some p ∧ nic.portId = some p.id := by
  obtain ⟨networkId, p, -, -, hp, rfl⟩ := mem_deleteNics.mp h
  have hnetwork : (staleNic p.toInterface).networkId = networkId := carrier_networkId hp
  exact ⟨p, hnetwork ▸ hp, rfl⟩

/-- A subnet is added without a port only to a network that is not attached yet, and it is wanted,
so an interface is added there. -/
theorem addNics_of_mem_addSubnets {change : SubnetChange}
    (h : change ∈ (between amphora wanted (s.attached management c)).addSubnets)
    (hport : change.portId = none) :
    ∃ nic ∈ (between amphora wanted (s.attached management c)).addNics,
      nic.networkId = change.networkId := by
  obtain ⟨subnetId, networkId, hwanted, -, rfl⟩ := mem_addSubnets.mp h
  refine ⟨newNic wanted networkId, mem_addNics.mpr ⟨networkId, ?_, ?_, rfl⟩, rfl⟩
  · exact Topology.mem_networks.mpr ⟨subnetId, hwanted⟩
  · exact namedPort_eq_none.mp hport

theorem named_between : (between amphora wanted (s.attached management c)).Named where
  addSubnets _ hchange hport := addNics_of_mem_addSubnets hchange hport
  deleteSubnets change hchange := by
    obtain ⟨p, -, hport⟩ := carrier_of_mem_deleteSubnets hchange
    simp [hport]
  deleteNics nic hnic := by
    obtain ⟨p, -, hport⟩ := carrier_of_mem_deleteNics hnic
    simp [hport]

end

end Delta

namespace Step

open Delta Substrate

/-- The step that applies a delta, with these dead ends in place of the usual ones. -/
def applyDeltaWith (ends : DeadEnds) (amphoraId : String) (delta : Delta) :
    Work (IdMap (List Port)) := do
  let amphora ← amphora amphoraId
  let ports ← ends.apply amphora delta
  return IdMap.empty.insert amphoraId ports

theorem applyDeltaWith_usual (amphoraId : String) (delta : Delta) :
    applyDeltaWith .usual amphoraId delta = (applyDelta amphoraId delta).execute := by
  unfold applyDeltaWith
  simp only [DeadEnds.apply_usual]
  rfl

/-- Once a delta has been computed, in whatever state of the substrate, each interface and each
subnet that it removes is named with a port that is plugged into the instance on that network. And
wherever and to whatever amphora the delta is applied, and whatever failures are scripted for that,
the step does the same whatever it were to do where there is no port: so it never comes there. -/
theorem no_dead_ends {s t : Substrate} {management : List String} {lb : LoadBalancer}
    {amphora : Amphora} {delta : Delta}
    (hcomputed : (computeDelta management lb amphora).runOn s = (.ok delta, t)) :
    (∀ nic ∈ delta.deleteNics, ∃ p ∈ s.portsOn amphora.instanceId nic.networkId,
      nic.portId = some p.id) ∧
    (∀ change ∈ delta.deleteSubnets, ∃ p ∈ s.portsOn amphora.instanceId change.networkId,
      change.portId = some p.id) ∧
    ∀ (ends : DeadEnds) (amphoraId : String) (run : Run Deployment),
      (applyDeltaWith ends amphoraId delta).runOn run =
        (applyDelta amphoraId delta).execute.runOn run := by
  obtain ⟨-, rfl, -⟩ := (ends_computeDelta management lb amphora s).of_ok hcomputed
  refine ⟨fun nic hnic => ?_, fun change hchange => ?_, fun ends amphoraId run => ?_⟩
  · obtain ⟨p, hp, hport⟩ := carrier_of_mem_deleteNics hnic
    exact ⟨p, carrier_mem hp, hport⟩
  · obtain ⟨p, hp, hport⟩ := carrier_of_mem_deleteSubnets hchange
    exact ⟨p, carrier_mem hp, hport⟩
  · rw [← applyDeltaWith_usual]
    refine runOn_bind_congr rfl fun amphora' run₁ _ => ?_
    refine runOn_bind_congr ?_ fun _ _ _ => rfl
    rw [DeadEnds.apply_usual]
    exact named_between.runOn_apply ends amphora' run₁

/-- To fail at all of them, with an error that no step has. -/
def unheardOf : DeadEnds where
  addSubnet _ _ := throw (.driver "no port")
  deleteSubnet _ _ := throw (.driver "no port")
  deleteNic _ _ _ := throw (.driver "no port")

/-- A network is added, with a subnet that names no port yet, and another network is removed. -/
theorem no_dead_ends_wired : ∃ delta t,
    (computeDelta ["mgmt-net"] (Sample.loadBalancer []) (Sample.amphora "amp-1" "vm-1")).runOn
      Sample.wired = (.ok delta, t) ∧
    delta.addSubnets = [⟨"vip-subnet", "vip-net", none⟩] ∧
    delta.deleteNics.map (·.networkId) = ["net-c"] ∧
    (∀ nic ∈ delta.deleteNics, ∃ p ∈ Sample.wired.portsOn "vm-1" nic.networkId,
      nic.portId = some p.id) ∧
    (applyDeltaWith unheardOf "amp-1" delta).runOn (Sample.start Sample.wired) =
      (applyDelta "amp-1" delta).execute.runOn (Sample.start Sample.wired) := by
  obtain ⟨delta, t, hcomputed⟩ := exists_of_isSome
    (computeDelta ["mgmt-net"] (Sample.loadBalancer []) (Sample.amphora "amp-1" "vm-1"))
    Sample.wired (by decide +kernel)
  have hentries : ((computeDelta ["mgmt-net"] (Sample.loadBalancer [])
      (Sample.amphora "amp-1" "vm-1")).runOn Sample.wired).1.map
        (fun delta => (delta.addSubnets, delta.deleteNics.map (·.networkId))) =
      .ok ([⟨"vip-subnet", "vip-net", none⟩], ["net-c"]) := by
    decide +kernel
  rw [hcomputed] at hentries
  obtain ⟨hadd, hdelete⟩ := Prod.mk.inj (Except.ok.inj hentries)
  obtain ⟨hnics, -, happly⟩ := no_dead_ends hcomputed
  exact ⟨delta, t, hcomputed, hadd, hdelete, hnics, happly unheardOf "amp-1" _⟩

end Step

end AmphoraWiring
