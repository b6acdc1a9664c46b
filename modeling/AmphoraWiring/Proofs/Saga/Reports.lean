import AmphoraWiring.Proofs.Saga.PartialFailure
import AmphoraWiring.Proofs.Saga.PortDetails
import AmphoraWiring.Proofs.Substrate.Sparing

/-!
What applying a computed delta reports. There is one port for each network that got an interface
or on which a subnet was added or really removed, unless the network was given up. A reported port
is the stored one with its details filled in, with one exception: a port that is new and gets no
second subnet is reported as it was before it was plugged in.
-/
namespace AmphoraWiring

open Action Substrate

namespace IdMap

variable {α : Type}

theorem contains_insert_iff (m : IdMap α) (id k : String) (v : α) :
    (m.insert id v).contains k ↔ m.contains k ∨ id = k := by
  simp only [contains_iff, get?_insert]
  by_cases hk : k = id
  · simp [hk]
  · simp [hk, Ne.symm hk]

theorem contains_erase_iff (m : IdMap α) (id k : String) :
    (m.erase id).contains k ↔ m.contains k ∧ id ≠ k := by
  simp only [contains_iff, get?_erase]
  by_cases hk : k = id
  · simp [hk]
  · simp [hk, Ne.symm hk]

end IdMap

theorem Port.hasSubnet_iff_mem {p : Port} {subnetId : String} :
    p.hasSubnet subnetId ↔ subnetId ∈ p.fixedIps.map (·.subnetId) := by
  simp [Port.hasSubnet_iff]

theorem exists_mem_concat_iff {α : Type} {l : List α} {a : α} {P : α → Prop} :
    (∃ x ∈ l ++ [a], P x) ↔ (∃ x ∈ l, P x) ∨ P a := by
  simp [or_and_right, exists_or]

theorem forall_mem_concat_iff {α : Type} {l : List α} {a : α} {P : α → Prop} :
    (∀ x ∈ l ++ [a], P x) ↔ (∀ x ∈ l, P x) ∧ P a := by
  simp [or_imp, forall_and]

/-- The subnets with which the port of a new interface is made. -/
def Interface.asked (nic : Interface) : List String := (nic.fixedIps.take 1).map (·.subnetId)

namespace Substrate

variable {s t : Substrate}

/-- Giving up a network leaves every port on another network as it is. -/
theorem Removal.get?_of_ne {c networkId : String} {portId : Option String}
    (h : s.Removal t c networkId portId)
    (hon : ∀ id, portId = some id → s.OnlyOn id networkId) {id : String} {p : Port}
    (hp : s.ports.get? id = some p) (hnet : p.networkId ≠ networkId) :
    t.ports.get? id = some p := by
  obtain ⟨u, hdetached, hremoved⟩ := h
  have hu : u.ports.get? id = some p := by
    rcases hdetached with hheard | ⟨hheard, -⟩
    · have hnot : id ∉ s.idsOn c networkId := by
        intro hmem
        obtain ⟨-, q, hq, hqnet⟩ := mem_idsOn.mp hmem
        rw [hp] at hq
        cases hq
        exact hnet hqnet
      rw [hheard.ports, get?_ports_detach, if_neg hnot, hp]
    · rw [hheard.ports, hp]
  rcases hremoved with hheard | ⟨removed, hremoved, hheard⟩
  · rw [hheard.ports, hu]
  · have hne : id ≠ removed := by
      intro heq
      exact hnet ((hon removed hremoved).network (heq ▸ hp))
    rw [hheard.ports, get?_ports_removePort, if_neg hne, hu]

theorem Adopts.later {request : PortRequest} {c : String} {p : Port}
    (h : s.Adopts t request c p) : s.Later t := by
  refine ⟨Nat.le_of_lt (by rw [h.drawn]; exact Nat.lt_succ_self _), fun {id q} hq => ?_⟩
  rw [h.get?] at hq
  split at hq
  next heq =>
    exact .inr ⟨s.drawn + 1, Nat.lt_succ_self _, Nat.le_of_eq h.drawn.symm, heq ▸ h.created.id⟩
  next => exact .inl ⟨q, hq, rfl⟩

/-- Where the addresses of the subnet are kept, no port has changed. -/
theorem Loses.get?_of_kept {id subnetId : String} {p : Port} (h : s.Loses t id subnetId p)
    (hkept : s.keepsAddresses subnetId) (k : String) : t.ports.get? k = s.ports.get? k := by
  rw [h.amended.get?]
  split
  · cases s.ports.get? k <;> simp [Port.release, hkept]
  · rfl

/-- Subnets whose addresses are kept stay on the ports that have them. -/
def Keeping (s t : Substrate) : Prop :=
  ∀ {id p q subnetId}, s.ports.get? id = some p → t.ports.get? id = some q →
    s.keepsAddresses subnetId → p.hasSubnet subnetId → q.hasSubnet subnetId

theorem Keeping.refl (s : Substrate) : s.Keeping s := by
  intro id p q subnetId hp hq _ hsubnet
  rw [hp] at hq
  cases hq
  exact hsubnet

/-- A new port takes no subnet from another one. -/
theorem Keeping.adopts {start : Substrate} (h : start.Keeping s) (hs : start.Sound)
    (hlater : start.Later s) {request : PortRequest} {c : String} {p : Port}
    (hadopts : s.Adopts t request c p) : start.Keeping t := by
  intro id p₀ q subnetId hp₀ hq
  have hne : id ≠ p.id := by
    rintro rfl
    rw [hadopts.created.id, hs.fresh _ (Nat.lt_succ_of_le hlater.drawn)] at hp₀
    cases hp₀
  rw [hadopts.get?, if_neg hne] at hq
  exact h hp₀ hq

theorem Keeping.amended {start : Substrate} (h : start.Keeping s) {id : String} {f : Port → Port}
    (hamended : s.Amended t id f)
    (hf : ∀ p subnetId, start.keepsAddresses subnetId → p.hasSubnet subnetId →
      (f p).hasSubnet subnetId) : start.Keeping t := by
  intro k p₀ q subnetId hp₀ hq hkeeps hsubnet
  rw [hamended.get?] at hq
  split at hq
  · obtain ⟨p, hp, rfl⟩ := Option.map_eq_some_iff.mp hq
    exact hf p subnetId hkeeps (h hp₀ hp hkeeps hsubnet)
  · exact h hp₀ hq hkeeps hsubnet

end Substrate

namespace Delta

/-- The network gets a new interface, and of the added subnets none but the one with which its
port is made. -/
def Bare (delta : Delta) (added : List SubnetChange) (networkId : String) : Prop :=
  ∃ nic ∈ delta.addNics, nic.networkId = networkId ∧
    ∀ change ∈ added, change.networkId = networkId → change.subnetId ∈ nic.asked

/-- What is reported: the stored port with its details, or a new port as it was before it was
plugged in. -/
inductive Reported (delta : Delta) (added : List SubnetChange) (s : Substrate) (q : Port) :
    Prop where
  | stored (p : Port) (hport : s.ports.get? q.id = some p) (hdetails : s.Details p q)
      (hbare : ¬ delta.Bare added q.networkId)
  | unplugged (p : Port) (c : String)
      (hport : s.ports.get? q.id = some { p with deviceId := some c })
      (hnone : p.deviceId = none) (hdetails : s.Details p q)
      (hbare : delta.Bare added q.networkId)
      (hsubnets : ∀ nic ∈ delta.addNics, nic.networkId = q.networkId →
        q.fixedIps.map (·.subnetId) = nic.asked)

/-- A delta fits a state when every change names a port on its network, and new interfaces ask for
a subnet, one interface for each network. -/
structure Fits (delta : Delta) (s : Substrate) : Prop where
  asked : ∀ nic ∈ delta.addNics, nic.fixedIps ≠ []
  unique : ∀ nic ∈ delta.addNics, ∀ nic' ∈ delta.addNics, nic.networkId = nic'.networkId →
    nic = nic'
  added : ∀ change ∈ delta.addSubnets, ∀ id, change.portId = some id →
    s.OnlyOn id change.networkId
  deleted : ∀ change ∈ delta.deleteSubnets, ∃ id p, change.portId = some id ∧
    s.ports.get? id = some p ∧ s.OnlyOn id change.networkId ∧ p.hasSubnet change.subnetId ∧
    ∀ nic ∈ delta.addNics, nic.networkId ≠ change.networkId
  given_up : ∀ nic ∈ delta.deleteNics, ∀ id, nic.portId = some id → s.OnlyOn id nic.networkId

/-- A computed delta fits the state that it was computed from. -/
theorem fits_delta {s : Substrate} (hs : s.Sound) (management : List String) (lb : LoadBalancer)
    (amphora : Amphora) : (s.delta management lb amphora).Fits s := by
  have hnamed : ∀ {networkId id}, namedPort s management amphora.instanceId networkId = some id →
      s.OnlyOn id networkId := by
    intro networkId id h
    obtain ⟨-, p, hp, rfl⟩ := namedPort_eq_some.mp h
    exact carrier_networkId hp ▸ hs.onlyOn (hs.carrier_get? hp).2
  constructor
  case asked =>
    intro nic hnic
    obtain ⟨networkId, hwanted, -, rfl⟩ := mem_addNics.mp hnic
    simpa [newNic] using Topology.subnetsOn_ne_nil hwanted
  case unique =>
    intro nic hnic nic' hnic' heq
    obtain ⟨networkId, -, -, rfl⟩ := mem_addNics.mp hnic
    obtain ⟨networkId', -, -, rfl⟩ := mem_addNics.mp hnic'
    exact congrArg _ heq
  case added =>
    intro change hchange id hid
    obtain ⟨subnetId, networkId, -, -, rfl⟩ := mem_addSubnets.mp hchange
    exact hnamed hid
  case deleted =>
    intro change hchange
    obtain ⟨subnetId, networkId, p, hmanagement, hp, hsubnet, -, rfl⟩ :=
      (mem_deleteSubnets hs).mp hchange
    have hget := (hs.carrier_get? hp).2
    refine ⟨p.id, p, rfl, hget, carrier_networkId hp ▸ hs.onlyOn hget, hsubnet, ?_⟩
    intro nic hnic
    obtain ⟨n, -, hfree, rfl⟩ := mem_addNics.mp hnic
    rintro rfl
    rcases hfree with hmem | hnil
    · exact hmanagement hmem
    · exact List.ne_nil_of_mem (carrier_mem hp) hnil
  case given_up =>
    intro nic hnic id hid
    obtain ⟨networkId, p, -, -, hp, rfl⟩ := mem_deleteNics.mp hnic
    cases hid
    exact hs.onlyOn (hs.carrier_get? hp).2

/-- The delta is being applied, `added` are the subnets that have been added, and of `changed` it
is known which networks it names and what the ports in it are. -/
structure Reporting (delta : Delta) (start : Substrate) (added : List SubnetChange)
    (named : String → Prop) (changed : ChangedPorts) (s : Substrate) : Prop where
  sound : s.Sound
  later : start.Later s
  sameNetworks : start.SameNetworks s
  named : ∀ networkId, changed.contains networkId ↔ named networkId
  reported : ∀ {networkId q}, changed.get? networkId = some q →
    q.networkId = networkId ∧ delta.Reported added s q

variable {delta : Delta} {start s t : Substrate} {added added' : List SubnetChange}
  {named named' : String → Prop} {changed changed' : ChangedPorts}

theorem Bare.of_append {networkId : String} (h : delta.Bare (added ++ added') networkId) :
    delta.Bare added networkId := by
  obtain ⟨nic, hnic, hnet, halone⟩ := h
  exact ⟨nic, hnic, hnet, fun change hmem => halone change (List.mem_append_left _ hmem)⟩

theorem bare_concat_of_ne {change : SubnetChange} {networkId : String}
    (hne : networkId ≠ change.networkId) :
    delta.Bare (added ++ [change]) networkId ↔ delta.Bare added networkId := by
  refine ⟨Bare.of_append, fun h => ?_⟩
  obtain ⟨nic, hnic, hnet, halone⟩ := h
  refine ⟨nic, hnic, hnet, fun other hmem hother => ?_⟩
  rcases List.mem_append.mp hmem with hmem | hmem
  · exact halone other hmem hother
  · rw [List.mem_singleton.mp hmem] at hother
    exact absurd hother.symm hne

theorem Reported.exists_port {q : Port} (h : delta.Reported added s q) :
    ∃ p, s.ports.get? q.id = some p ∧ p.networkId = q.networkId := by
  cases h with
  | stored p hport hdetails hbare => exact ⟨p, hport, hdetails.networkId.symm⟩
  | unplugged p c hport hnone hdetails hbare hsubnets =>
    exact ⟨_, hport, hdetails.networkId.symm⟩

/-- A report stays true while its port does not change. -/
theorem Reported.congr {q : Port} (h : delta.Reported added s q) (hsame : s.SameNetworks t)
    (hports : t.ports.get? q.id = s.ports.get? q.id)
    (hbare : delta.Bare added' q.networkId ↔ delta.Bare added q.networkId) :
    delta.Reported added' t q := by
  cases h with
  | stored p hport hdetails hnot =>
    exact .stored p (hports.trans hport) (hdetails.later hsame) (hbare.not.mpr hnot)
  | unplugged p c hport hnone hdetails hyes hsubnets =>
    exact .unplugged p c (hports.trans hport) hnone (hdetails.later hsame) (hbare.mpr hyes)
      hsubnets

/-- Work on one network leaves the reports for the others true. -/
theorem Reporting.step (h : Reporting delta start added named changed s) (ht : t.Sound)
    (hlater : s.Later t) (hsame : s.SameNetworks t) (networkId : String)
    (hports : ∀ {id p}, s.ports.get? id = some p → p.networkId ≠ networkId →
      t.ports.get? id = some p)
    (hbare : ∀ n ≠ networkId, delta.Bare added' n ↔ delta.Bare added n)
    (hnamed : ∀ n, changed'.contains n ↔ named' n)
    (hold : ∀ n ≠ networkId, changed'.get? n = changed.get? n)
    (hnew : ∀ q, changed'.get? networkId = some q →
      q.networkId = networkId ∧ delta.Reported added' t q) :
    Reporting delta start added' named' changed' t := by
  refine ⟨ht, h.later.trans hlater, h.sameNetworks.trans hsame, hnamed, fun {n q} hq => ?_⟩
  by_cases hn : n = networkId
  · subst hn
    exact hnew q hq
  · rw [hold n hn] at hq
    obtain ⟨rfl, hreported⟩ := h.reported hq
    obtain ⟨p, hp, hnet⟩ := hreported.exists_port
    exact ⟨rfl, hreported.congr hsame ((hports hp (hnet ▸ hn)).trans hp.symm) (hbare _ hn)⟩

/-! One lemma for each kind of change -/

/-- A new port has its addresses on the subnets that the interface asks for. -/
theorem asked_of_created {amphora : Amphora} {nic : Interface} {p : Port}
    (hcreated : s.Created (portRequest amphora nic) p) (hne : nic.fixedIps ≠ []) :
    p.fixedIps.map (·.subnetId) = nic.asked := by
  apply hcreated.subnets
  simpa [portRequest] using hne

/-- A new interface is reported with the port that was made for it. -/
theorem Reporting.nicAdded (h : Reporting delta start [] named changed s)
    (hfits : delta.Fits start) {amphora : Amphora} {nic : Interface} (hnic : nic ∈ delta.addNics)
    {c : String} {p q : Port}
    (hadopts : s.Adopts t (portRequest amphora nic) c p) (hnone : p.deviceId = none)
    (hdetails : t.Details p q) :
    Reporting delta start [] (fun n => named n ∨ nic.networkId = n)
      (changed.insert nic.networkId q) t := by
  have hnet : q.networkId = nic.networkId := hdetails.networkId.trans hadopts.created.network
  refine h.step (hadopts.sound h.sound) hadopts.later hadopts.sameNetworks nic.networkId ?_
    (fun _ _ => Iff.rfl) ?_ ?_ ?_
  · intro id p' hp' _
    have hne : id ≠ p.id := by
      rintro rfl
      simp [hadopts.is_new h.sound] at hp'
    rw [hadopts.get?, if_neg hne, hp']
  · intro n
    rw [IdMap.contains_insert_iff, h.named]
  · intro n hn
    rw [IdMap.get?_insert, if_neg hn]
  · intro q' hq'
    rw [IdMap.get?_insert_self] at hq'
    cases hq'
    refine ⟨hnet, .unplugged p c ?_ hnone hdetails ⟨nic, hnic, hnet.symm, by simp⟩ ?_⟩
    · rw [hdetails.id, hadopts.get?, if_pos rfl]
    · intro nic' hnic' hnet'
      rw [← hfits.unique nic hnic nic' hnic' (hnet.symm.trans hnet'.symm), hdetails.subnetIds]
      exact asked_of_created hadopts.created (hfits.asked nic hnic)

/-- The subnet of a new port is added by making the port. -/
theorem Reporting.subnetPresent (h : Reporting delta start added named changed s)
    {change : SubnetChange} {q : Port} (hq : changed.get? change.networkId = some q)
    (hsubnet : q.hasSubnet change.subnetId) :
    Reporting delta start (added ++ [change]) (fun n => named n ∨ change.networkId = n) changed
      s := by
  refine h.step h.sound (.refl s) (.refl s) change.networkId (fun hp _ => hp)
    (fun n hn => bare_concat_of_ne hn) ?_ (fun _ _ => rfl) ?_
  · intro n
    rw [h.named]
    refine ⟨.inl, fun hn => hn.elim id ?_⟩
    rintro rfl
    exact (h.named _).mp (IdMap.contains_iff.mpr ⟨q, hq⟩)
  · intro q' hq'
    rw [hq] at hq'
    cases hq'
    obtain ⟨hnet, hreported⟩ := h.reported hq
    refine ⟨hnet, ?_⟩
    cases hreported with
    | stored p hport hdetails hbare =>
      exact .stored p hport hdetails fun hlong => hbare hlong.of_append
    | unplugged p c hport hnone hdetails hbare hsubnets =>
      refine .unplugged p c hport hnone hdetails ?_ hsubnets
      obtain ⟨nic, hnic, hnicnet, halone⟩ := hbare
      refine ⟨nic, hnic, hnicnet, fun other hmem hother => ?_⟩
      rcases List.mem_append.mp hmem with hmem | hmem
      · exact halone other hmem hother
      · rw [List.mem_singleton.mp hmem, ← hsubnets nic hnic hnicnet]
        exact Port.hasSubnet_iff_mem.mp hsubnet

/-- A port that gains a subnet that it was not made with has been plugged in before. -/
theorem Reporting.not_bare_of_absent (h : Reporting delta start added named changed s)
    {change : SubnetChange} (hnics : ∀ nic ∈ delta.addNics, named nic.networkId)
    (habsent : ∀ q, changed.get? change.networkId = some q → ¬ q.hasSubnet change.subnetId) :
    ¬ delta.Bare (added ++ [change]) change.networkId := by
  intro hbare
  obtain ⟨nic, hnic, hnet, halone⟩ := id hbare
  have hasked := halone change (by simp) rfl
  obtain ⟨q, hq⟩ := IdMap.contains_iff.mp ((h.named _).mpr (hnet ▸ hnics nic hnic))
  obtain ⟨hqnet, hreported⟩ := h.reported hq
  cases hreported with
  | stored p hport hdetails hnot => exact hnot (hqnet ▸ hbare.of_append)
  | unplugged p c hport hnone hdetails _ hsubnets =>
    rw [← hsubnets nic hnic (hnet.trans hqnet.symm)] at hasked
    exact habsent q hq (Port.hasSubnet_iff_mem.mpr hasked)

/-- A subnet is added to a port on its network. -/
theorem Reporting.target (h : Reporting delta start added named changed s)
    (hfits : delta.Fits start) {change : SubnetChange} (hchange : change ∈ delta.addSubnets)
    {id : String} {p : Port} (htarget : change.target changed = some id)
    (hp : s.ports.get? id = some p) : p.networkId = change.networkId := by
  rw [SubnetChange.target, Option.or_eq_some_iff] at htarget
  rcases htarget with hnamed | ⟨-, hcounted⟩
  · exact (h.later.onlyOn (hfits.added change hchange id hnamed)).network hp
  · obtain ⟨q, hq, rfl⟩ := Option.map_eq_some_iff.mp hcounted
    obtain ⟨hnet, hreported⟩ := h.reported hq
    obtain ⟨p', hp', hnet'⟩ := hreported.exists_port
    rw [hp] at hp'
    cases hp'
    exact hnet'.trans hnet

/-- The report of a port that changes its addresses takes the place of the one before. -/
theorem Reporting.amended (h : Reporting delta start added named changed s) {id networkId : String}
    {f : Port → Port} {p q : Port} (hamended : s.Amended t id f) (ht : t.Sound)
    (hsame : s.SameNetworks t) (hnet : ∀ p, (f p).networkId = p.networkId)
    (hid : ∀ p, (f p).id = p.id) (hp : s.ports.get? id = some p)
    (hon : p.networkId = networkId) (hdetails : t.Details (f p) q)
    (hbare : ∀ n ≠ networkId, delta.Bare added' n ↔ delta.Bare added n)
    (hnot : ¬ delta.Bare added' networkId) :
    Reporting delta start added' (fun n => named n ∨ networkId = n) (changed.insert networkId q)
      t := by
  have hqnet : q.networkId = networkId := hdetails.networkId.trans ((hnet p).trans hon)
  refine h.step ht (hamended.later hnet) hsame networkId ?_ hbare ?_ ?_ ?_
  · intro k p' hp' hne
    have hk : k ≠ id := by
      rintro rfl
      rw [hp] at hp'
      cases hp'
      exact hne hon
    rw [hamended.get?, if_neg hk, hp']
  · intro n
    rw [IdMap.contains_insert_iff, h.named]
  · intro n hn
    rw [IdMap.get?_insert, if_neg hn]
  · intro q' hq'
    rw [IdMap.get?_insert_self] at hq'
    cases hq'
    refine ⟨hqnet, .stored (f p) ?_ hdetails (hqnet ▸ hnot)⟩
    rw [hdetails.id, hid, h.sound.own_id hp, hamended.get?, if_pos rfl, hp]
    rfl

/-- A port that gains a subnet is reported as it is then. -/
theorem Reporting.subnetGained (h : Reporting delta start added named changed s)
    (hfits : delta.Fits start) {change : SubnetChange} (hchange : change ∈ delta.addSubnets)
    (hnics : ∀ nic ∈ delta.addNics, named nic.networkId) {id : String} {p q : Port}
    {ips : List FixedIp} (htarget : change.target changed = some id)
    (hgains : s.Gains t id change.subnetId p ips) (hdetails : t.Details (p.addIps ips) q)
    (habsent : ∀ q, changed.get? change.networkId = some q → ¬ q.hasSubnet change.subnetId) :
    Reporting delta start (added ++ [change]) (fun n => named n ∨ change.networkId = n)
      (changed.insert change.networkId q) t :=
  h.amended hgains.amended (hgains.sound h.sound) hgains.sameNetworks (fun _ => rfl)
    (fun _ => rfl) hgains.port (h.target hfits hchange htarget hgains.port) hdetails
    (fun _ hn => bare_concat_of_ne hn) (h.not_bare_of_absent hnics habsent)

/-- A removed subnet is reported unless its addresses are kept. -/
theorem Reporting.subnetLost (h : Reporting delta start added named changed s)
    (hkeeping : start.Keeping s) (hfits : delta.Fits start) {change : SubnetChange}
    (hchange : change ∈ delta.deleteSubnets) {id : String} {p q : Port}
    (hport : change.portId = some id) (hloses : s.Loses t id change.subnetId p)
    (hdetails : t.Details (p.release change.subnetId (s.keepsAddresses change.subnetId)) q) :
    Reporting delta start added
      (fun n => named n ∨ change.networkId = n ∧ ¬ start.keepsAddresses change.subnetId)
      (if q.hasSubnet change.subnetId then changed else changed.insert change.networkId q) t := by
  obtain ⟨id', p₀, hport', hp₀, hnet₀, hsubnet₀, hnics⟩ := hfits.deleted change hchange
  rw [hport] at hport'
  cases hport'
  have hon : p.networkId = change.networkId := (h.later.onlyOn hnet₀).network hloses.port
  have hnot : ¬ delta.Bare added change.networkId := by
    intro hbare
    obtain ⟨nic, hnic, hnet, -⟩ := hbare
    exact hnics nic hnic hnet
  have hkeeps := h.sameNetworks.keepsAddresses change.subnetId
  have hstays : q.hasSubnet change.subnetId ↔ start.keepsAddresses change.subnetId := by
    rw [Port.hasSubnet_iff_mem, hdetails.subnetIds, ← Port.hasSubnet_iff_mem,
      Port.hasSubnet_release, hkeeps]
    constructor
    · intro h
      exact h.2.resolve_right fun hne => hne rfl
    · intro h
      exact ⟨hkeeping hp₀ hloses.port h hsubnet₀, .inl h⟩
  split
  next hyes =>
    have hkept := hstays.mp hyes
    have hports := hloses.get?_of_kept (hkeeps ▸ hkept)
    refine h.step (hloses.sound h.sound)
      (hloses.amended.later fun _ => Port.release_networkId _ _ _) hloses.sameNetworks
      change.networkId (fun hp _ => (hports _).trans hp) (fun _ _ => Iff.rfl) ?_
      (fun _ _ => rfl) ?_
    · intro n
      simp [h.named, hkept]
    · intro q' hq'
      obtain ⟨hnet, hreported⟩ := h.reported hq'
      exact ⟨hnet, hreported.congr hloses.sameNetworks (hports _) Iff.rfl⟩
  next hno =>
    have hreported := h.amended hloses.amended (hloses.sound h.sound) hloses.sameNetworks
      (fun _ => Port.release_networkId _ _ _) (fun _ => Port.release_id _ _ _) hloses.port hon
      hdetails (fun _ _ => Iff.rfl) hnot
    have hlost := hstays.not.mp hno
    simpa [hlost] using hreported

/-- A removed interface is no longer reported. -/
theorem Reporting.nicDeleted (h : Reporting delta start added named changed s)
    (hfits : delta.Fits start) {nic : Interface} (hnic : nic ∈ delta.deleteNics) {c : String}
    (hremoval : s.Removal t c nic.networkId nic.portId) :
    Reporting delta start added (fun n => named n ∧ nic.networkId ≠ n)
      (changed.erase nic.networkId) t := by
  refine h.step (hremoval.sound h.sound) hremoval.later hremoval.sameNetworks nic.networkId ?_
    (fun _ _ => Iff.rfl) ?_ ?_ ?_
  · intro id p hp hne
    exact hremoval.get?_of_ne (fun id hid => h.later.onlyOn (hfits.given_up nic hnic id hid)) hp hne
  · intro n
    rw [IdMap.contains_erase_iff, h.named]
  · intro n hn
    rw [IdMap.get?_erase, if_neg hn]
  · intro q hq
    rw [IdMap.get?_erase, if_pos rfl] at hq
    cases hq

/-! The whole delta -/

theorem Reporting.of_named (h : Reporting delta start added named changed s)
    (hnamed : ∀ n, named n ↔ named' n) : Reporting delta start added named' changed s :=
  { h with named := fun n => (h.named n).trans (hnamed n) }

/-- A new interface is on the network, or a subnet was added or really removed there, and the
network has not been given up. -/
structure Changes (delta : Delta) (s : Substrate) (networkId : String) : Prop where
  touched : (∃ nic ∈ delta.addNics, nic.networkId = networkId) ∨
    (∃ change ∈ delta.addSubnets, change.networkId = networkId) ∨
    ∃ change ∈ delta.deleteSubnets, change.networkId = networkId ∧
      ¬ s.keepsAddresses change.subnetId
  stays : ∀ nic ∈ delta.deleteNics, nic.networkId ≠ networkId

theorem changes_congr (h : t.subnets = s.subnets) {networkId : String} :
    delta.Changes t networkId ↔ delta.Changes s networkId := by
  have hkeeps : t.keepsAddresses = s.keepsAddresses := by
    funext subnetId
    unfold keepsAddresses
    rw [h]
  constructor
  · exact fun h => ⟨hkeeps ▸ h.touched, h.stays⟩
  · exact fun h => ⟨hkeeps ▸ h.touched, h.stays⟩

/-- The interfaces in `done` have been added. -/
def NicsReported (delta : Delta) (start : Substrate) (done : List Interface)
    (changed : ChangedPorts) (run : Run Deployment) : Prop :=
  Reporting delta start [] (fun n => ∃ nic ∈ done, nic.networkId = n) changed
    run.state.substrate ∧ start.Keeping run.state.substrate

/-- The subnets in `done` have been added. -/
def SubnetsReported (delta : Delta) (start : Substrate) (done : List SubnetChange)
    (changed : ChangedPorts) (run : Run Deployment) : Prop :=
  Reporting delta start done
    (fun n => (∃ nic ∈ delta.addNics, nic.networkId = n) ∨
      ∃ change ∈ done, change.networkId = n) changed
    run.state.substrate ∧ start.Keeping run.state.substrate

/-- The subnets in `done` have been removed. -/
def RemovalsReported (delta : Delta) (start : Substrate) (done : List SubnetChange)
    (changed : ChangedPorts) (run : Run Deployment) : Prop :=
  Reporting delta start delta.addSubnets
    (fun n => ((∃ nic ∈ delta.addNics, nic.networkId = n) ∨
      ∃ change ∈ delta.addSubnets, change.networkId = n) ∨
      ∃ change ∈ done, change.networkId = n ∧ ¬ start.keepsAddresses change.subnetId) changed
    run.state.substrate ∧ start.Keeping run.state.substrate

/-- The networks of the interfaces in `done` have been given up. -/
def GivenUpReported (delta : Delta) (start : Substrate) (done : List Interface)
    (changed : ChangedPorts) (run : Run Deployment) : Prop :=
  Reporting delta start delta.addSubnets
    (fun n => (((∃ nic ∈ delta.addNics, nic.networkId = n) ∨
      ∃ change ∈ delta.addSubnets, change.networkId = n) ∨
      ∃ change ∈ delta.deleteSubnets, change.networkId = n ∧
        ¬ start.keepsAddresses change.subnetId) ∧
      ∀ nic ∈ done, nic.networkId ≠ n) changed
    run.state.substrate

section

variable {run : Run Deployment} (amphora : Amphora)

theorem ends_addNics_reports (hs : start.Sound) (hfits : delta.Fits start)
    (h : NicsReported delta start [] changed run) :
    Action.Ends (delta.addNics.foldlM (addNic amphora) changed) run
      (NicsReported delta start delta.addNics) fun _ _ => True := by
  refine Ends.foldlM_done (NicsReported delta start) ?_ h
  intro done nic rest hsplit changed run h
  obtain ⟨h, hkeeping⟩ := h
  have hnic : nic ∈ delta.addNics := by simp [hsplit]
  apply (ends_addNic_details amphora changed nic run).mono
  · intro changed' run' hend
    obtain ⟨c, p, q, hadopts, hnone, hdetails, rfl⟩ := hend
    refine ⟨(h.nicAdded hfits hnic hadopts hnone hdetails).of_named fun n => ?_,
      hkeeping.adopts hs h.later hadopts⟩
    rw [exists_mem_concat_iff]
  · exact fun _ _ _ => trivial

theorem ends_addSubnets_reports (hfits : delta.Fits start)
    (h : SubnetsReported delta start [] changed run) :
    Action.Ends (delta.addSubnets.foldlM addSubnet changed) run
      (SubnetsReported delta start delta.addSubnets) fun _ _ => True := by
  refine Ends.foldlM_done (SubnetsReported delta start) ?_ h
  intro done change rest hsplit changed run h
  obtain ⟨h, hkeeping⟩ := h
  have hchange : change ∈ delta.addSubnets := by simp [hsplit]
  apply (ends_addSubnet_details changed change run).mono
  · intro changed' run' hend
    rcases hend with ⟨q, hq, hsubnet, rfl, hstate⟩ |
      ⟨id, p, ips, q, htarget, hgains, hdetails, rfl, habsent⟩
    · unfold SubnetsReported
      rw [hstate]
      refine ⟨(h.subnetPresent hq hsubnet).of_named fun n => ?_, hkeeping⟩
      rw [exists_mem_concat_iff, or_assoc]
    · refine ⟨(h.subnetGained hfits hchange (fun nic hnic => .inl ⟨nic, hnic, rfl⟩) htarget
        hgains hdetails habsent).of_named fun n => ?_, hkeeping.amended hgains.amended ?_⟩
      · rw [exists_mem_concat_iff, or_assoc]
      · exact fun p x _ hsubnet => (p.hasSubnet_addIps ips x).mpr (.inl hsubnet)
  · exact fun _ _ _ => trivial

theorem ends_deleteSubnets_reports (hfits : delta.Fits start)
    (h : RemovalsReported delta start [] changed run) :
    Action.Ends (delta.deleteSubnets.foldlM deleteSubnet changed) run
      (RemovalsReported delta start delta.deleteSubnets) fun _ _ => True := by
  refine Ends.foldlM_done (RemovalsReported delta start) ?_ h
  intro done change rest hsplit changed run h
  obtain ⟨h, hkeeping⟩ := h
  have hchange : change ∈ delta.deleteSubnets := by simp [hsplit]
  obtain ⟨id, -, hport, -⟩ := hfits.deleted change hchange
  apply (ends_deleteSubnet_details changed change hport run).mono
  · intro changed' run' hend
    obtain ⟨p, q, hloses, hdetails, rfl⟩ := hend
    refine ⟨(h.subnetLost hkeeping hfits hchange hport hloses hdetails).of_named fun n => ?_,
      hkeeping.amended hloses.amended ?_⟩
    · rw [exists_mem_concat_iff, or_assoc]
    · intro r x hkeeps hsubnet
      refine (r.hasSubnet_release _ x _).mpr ⟨hsubnet, ?_⟩
      by_cases hx : x = change.subnetId
      · subst hx
        exact .inl ((h.sameNetworks.keepsAddresses _).trans hkeeps)
      · exact .inr hx
  · exact fun _ _ _ => trivial

theorem ends_deleteNics_reports (hfits : delta.Fits start)
    (h : GivenUpReported delta start [] changed run) :
    Action.Ends (delta.deleteNics.foldlM (deleteNic amphora) changed) run
      (GivenUpReported delta start delta.deleteNics) fun _ _ => True := by
  refine Ends.foldlM_done (GivenUpReported delta start) ?_ h
  intro done nic rest hsplit changed run h
  have hnic : nic ∈ delta.deleteNics := by simp [hsplit]
  apply (ends_deleteNic amphora changed nic run).mono
  · intro changed' run' hend
    obtain ⟨rfl, hdeleted⟩ := hend
    refine (h.nicDeleted hfits hnic hdeleted.removal).of_named fun n => ?_
    rw [forall_mem_concat_iff, and_assoc]
  · exact fun _ _ _ => trivial

theorem nicsReported_start (hs : start.Sound) (hstart : run.state.substrate = start) :
    NicsReported delta start [] .empty run := by
  unfold NicsReported
  rw [hstart]
  refine ⟨⟨hs, .refl start, .refl start, fun n => ?_, fun h => by cases h⟩, Keeping.refl start⟩
  simp [IdMap.contains]

/-- A delta that is applied reports the ports that it changes, as they are in the end. -/
theorem ends_apply_reports (hs : start.Sound) (hfits : delta.Fits start)
    (hstart : run.state.substrate = start) : Action.Ends (delta.apply amphora) run
      (fun ports run' => ∃ changed, ports = changed.values ∧
        Reporting delta start delta.addSubnets (delta.Changes start) changed run'.state.substrate)
      fun _ _ => True := by
  refine (ends_addNics_reports amphora hs hfits (nicsReported_start hs hstart)).bind ?_
    (fun _ _ _ => trivial)
  intro changed₁ run₁ h₁
  have hbegin₂ : SubnetsReported delta start [] changed₁ run₁ :=
    ⟨h₁.1.of_named fun n => by simp, h₁.2⟩
  refine (ends_addSubnets_reports hfits hbegin₂).bind ?_ (fun _ _ _ => trivial)
  intro changed₂ run₂ h₂
  have hbegin₃ : RemovalsReported delta start [] changed₂ run₂ :=
    ⟨h₂.1.of_named fun n => by simp, h₂.2⟩
  refine (ends_deleteSubnets_reports hfits hbegin₃).bind ?_ (fun _ _ _ => trivial)
  intro changed₃ run₃ h₃
  have hbegin₄ : GivenUpReported delta start [] changed₃ run₃ :=
    h₃.1.of_named fun n => by simp
  refine (ends_deleteNics_reports amphora hfits hbegin₄).bind ?_ (fun _ _ _ => trivial)
  intro changed₄ run₄ h₄
  refine ends_pure ⟨changed₄, rfl, h₄.of_named fun n => ?_⟩
  rw [or_assoc]
  exact ⟨fun h => ⟨h.1, h.2⟩, fun h => ⟨h.touched, h.stays⟩⟩

end

/-- The reported ports come by their networks. -/
theorem Reporting.networks (h : Reporting delta start added named changed s) :
    changed.values.map (·.networkId) = changed.keys := by
  unfold IdMap.values IdMap.keys
  rw [List.map_map]
  apply List.map_congr_left
  intro e he
  exact (h.reported (IdMap.mem_entries_iff.mp he)).1

end Delta

namespace Step

/-- A delta was computed in `s`, which left `s₁`, and any failures are scripted then. If applying
it succeeds, its report names the changed networks in the order of their ids, each once, and tells
what has become of the port on each of them. -/
theorem applyDelta_reports {s s₁ : Substrate} (hs : s.Sound) {management : List String}
    {lb : LoadBalancer} {amphora : Amphora} {delta : Delta}
    (hcompute : (computeDelta management lb amphora).runOn s = (.ok delta, s₁))
    {faults : List ScriptedFault} {run run' : Run Deployment}
    (hrun : run.state.substrate = { s₁ with faults }) {amphoraId : String}
    {report : IdMap (List Port)}
    (hexecute : (applyDelta amphoraId delta).execute.runOn run = (.ok report, run')) :
    ∃ ports, report = IdMap.empty.insert amphoraId ports ∧
      (ports.map (·.networkId)).Pairwise (· < ·) ∧
      (∀ networkId, networkId ∈ ports.map (·.networkId) ↔ delta.Changes s networkId) ∧
      ∀ q ∈ ports, delta.Reported delta.addSubnets run'.state.substrate q := by
  obtain ⟨hheard, rfl, -⟩ := (ends_computeDelta management lb amphora s).of_ok hcompute
  have hsound : ({ s₁ with faults } : Substrate).Sound :=
    (hheard.sound hs).of_eq rfl rfl rfl rfl
  have hdelta : s.delta management lb amphora =
      ({ s₁ with faults } : Substrate).delta management lb amphora := by
    rw [← hheard.delta_eq]
    rfl
  have hfits := Delta.fits_delta hsound management lb amphora
  rw [← hdelta] at hfits
  have hend : Action.Ends (applyDelta amphoraId (s.delta management lb amphora)).execute run
      (fun report run' => ∃ changed : ChangedPorts,
        report = IdMap.empty.insert amphoraId changed.values ∧
        Delta.Reporting (s.delta management lb amphora) { s₁ with faults }
          (s.delta management lb amphora).addSubnets
          ((s.delta management lb amphora).Changes { s₁ with faults }) changed
          run'.state.substrate) fun _ _ => True := by
    refine (Deployment.ends_onRepository (Repository.ends_getAmphora amphoraId _)).bind ?_
      (fun _ _ _ => trivial)
    intro stored run₁ hend
    obtain ⟨-, hsubstrate, -⟩ := hend
    refine (Delta.ends_apply_reports stored hsound hfits (hsubstrate.trans hrun)).bind ?_
      (fun _ _ _ => trivial)
    intro ports run₂ hend
    obtain ⟨changed, rfl, hreporting⟩ := hend
    exact ends_pure ⟨changed, rfl, hreporting⟩
  obtain ⟨changed, rfl, hreporting⟩ := hend.of_ok hexecute
  refine ⟨changed.values, rfl, ?_, fun networkId => ?_, fun q hq => ?_⟩
  · rw [hreporting.networks]
    exact List.pairwise_map.mpr changed.ascending
  · rw [hreporting.networks, IdMap.mem_keys_iff, ← IdMap.contains_iff, hreporting.named]
    exact Delta.changes_congr (t := { s₁ with faults }) hheard.subnets
  · obtain ⟨networkId, hget⟩ := IdMap.mem_values_iff.mp hq
    exact (hreporting.reported hget).2

/-- An instance gives up one of its networks, though it cannot be detached, and gains another. -/
theorem applyDelta_reports_wired : ∃ delta s₁ report run',
    (computeDelta ["mgmt-net"] (Sample.loadBalancer []) (Sample.amphora "amp-1" "vm-1")).runOn
      Sample.wired = (.ok delta, s₁) ∧
    (applyDelta "amp-1" delta).execute.runOn (Sample.start
      { s₁ with faults := [⟨.unplugNetwork, .driver "busy", 1⟩] }) = (.ok report, run') ∧
    ∃ ports, report = IdMap.empty.insert "amp-1" ports ∧
      (∀ networkId, networkId ∈ ports.map (·.networkId) ↔ delta.Changes Sample.wired networkId) ∧
      ∀ q ∈ ports, delta.Reported delta.addSubnets run'.state.substrate q := by
  have hrun : ∃ delta ∈ ((computeDelta ["mgmt-net"] (Sample.loadBalancer [])
      (Sample.amphora "amp-1" "vm-1")).runOn Sample.wired).1.toOption,
      ((applyDelta "amp-1" delta).execute.runOn (Sample.start
        { ((computeDelta ["mgmt-net"] (Sample.loadBalancer [])
            (Sample.amphora "amp-1" "vm-1")).runOn Sample.wired).2 with
          faults := [⟨.unplugNetwork, .driver "busy", 1⟩] })).1.toOption.isSome := by
    decide +kernel
  obtain ⟨delta, s₁, hcompute⟩ := exists_of_isSome
    (computeDelta ["mgmt-net"] (Sample.loadBalancer []) (Sample.amphora "amp-1" "vm-1"))
    Sample.wired (by decide +kernel)
  rw [hcompute] at hrun
  obtain ⟨delta', hdelta, hdone⟩ := hrun
  cases hdelta
  obtain ⟨report, run', hexecute⟩ := exists_of_isSome _ _ hdone
  obtain ⟨ports, hreport, -, hnetworks, hports⟩ :=
    applyDelta_reports Sample.wired_fit.1 hcompute rfl hexecute
  exact ⟨delta, s₁, report, run', hcompute, hexecute, ports, hreport, hnetworks, hports⟩

/-- The port of a new interface is reported as it was before it was plugged in: of no instance,
although the instance has it. -/
theorem new_port_reported_unplugged :
    ∃ delta ∈ ((computeDelta ["mgmt-net"] (Sample.loadBalancer [])
        (Sample.amphora "amp-1" "vm-1")).runOn Sample.substrate).1.toOption,
      ∃ report ∈
        ((applyDelta "amp-1" delta).execute.runOn (Sample.start Sample.substrate)).1.toOption,
      ∃ ports ∈ report.get? "amp-1", ∃ q ∈ ports,
      ∃ p ∈ ((applyDelta "amp-1" delta).execute.runOn
        (Sample.start Sample.substrate)).2.state.substrate.ports.get? q.id,
        q.deviceId = none ∧ p.deviceId = some "vm-1" := by
  decide +kernel

end Step

end AmphoraWiring
