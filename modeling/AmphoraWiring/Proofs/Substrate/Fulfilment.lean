import AmphoraWiring.Proofs.Substrate.Addresses
import Mathlib.Data.List.Forall2

/-!
Exactly when the addresses that are asked for at once are all granted: the subnets are all on the
network, and every subnet with a range has a host left for each wish on it that names no address.
-/
namespace AmphoraWiring

/-- How a wish is fulfilled on the subnet: with the address that it names, or else with a host other
than the first, or with none if the subnet has no range. -/
structure Subnet.Fulfils (subnet : Subnet) (wish ip : FixedIp) : Prop where
  answers : ip.Answers wish
  host : wish.ipAddress = none → ∀ cidr, subnet.cidr = some cidr →
    ∃ n a, 0 < n ∧ cidr.host? n = some a ∧ ip.ipAddress = some a
  rangeless : wish.ipAddress = none → subnet.cidr = none → ip.ipAddress = none

/-- The number of addresses that are to be chosen on the subnet. -/
def owed (wishes : List FixedIp) (subnetId : String) : Nat :=
  wishes.countP fun wish => wish.subnetId = subnetId ∧ wish.ipAddress = none

@[simp] theorem owed_append (wishes wishes' : List FixedIp) (subnetId : String) :
    owed (wishes ++ wishes') subnetId = owed wishes subnetId + owed wishes' subnetId :=
  List.countP_append

/-- No address is owed to a wish that names one. -/
theorem owed_singleton_of_some {wish : FixedIp} {a : Address} (h : wish.ipAddress = some a)
    (subnetId : String) : owed [wish] subnetId = 0 := by
  simp [owed, h]

theorem owed_singleton_of_none {wish : FixedIp} (h : wish.ipAddress = none) (subnetId : String) :
    owed [wish] subnetId = if wish.subnetId = subnetId then 1 else 0 := by
  simp [owed, h, List.countP_singleton]

namespace Substrate

open Action

variable {s t u : Substrate} {networkId : String} {wish ip : FixedIp}
  {wishes wishes' ips ips' : List FixedIp}

def Fulfils (s : Substrate) (networkId : String) (wish ip : FixedIp) : Prop :=
  ∃ subnet, s.subnets.get? wish.subnetId = some subnet ∧ subnet.networkId = networkId ∧
    subnet.Fulfils wish ip

/-- Nothing stands in the way of fulfilling the wishes. -/
structure Capable (s : Substrate) (networkId : String) (wishes : List FixedIp) : Prop where
  registered : ∀ wish ∈ wishes, s.Registered wish.subnetId networkId
  room : ∀ id, s.Room id (owed wishes id)

/-- From `s` to `t`, so many addresses have been handed out on each of the subnets with a range. -/
def Counts (s t : Substrate) (count : String → Nat) : Prop :=
  ∀ id subnet cidr, s.subnets.get? id = some subnet → subnet.cidr = some cidr →
    t.allocated id = s.allocated id + count id

/-- From `s` to `t`, the wishes have been fulfilled and nothing else was done. -/
structure Fulfilled (s t : Substrate) (networkId : String) (wishes ips : List FixedIp) : Prop where
  capable : s.Capable networkId wishes
  fulfils : List.Forall₂ (s.Fulfils networkId) wishes ips
  counts : s.Counts t (owed wishes)
  rest : ∃ allocations, t = { s with allocations }

theorem room_zero (s : Substrate) (id : String) : s.Room id 0 := by
  intro subnet cidr _ _ n hlow hhigh
  omega

/-- Room for more is room that is left after some was taken. -/
theorem Counts.room_add {count : String → Nat} (h : s.Counts t count)
    (hsubnets : t.subnets = s.subnets) (id : String) (more : Nat) :
    s.Room id (count id + more) ↔ s.Room id (count id) ∧ t.Room id more := by
  constructor
  · intro hroom
    refine ⟨hroom.mono (Nat.le_add_right _ _), fun subnet cidr hsubnet hcidr n hlow hhigh => ?_⟩
    rw [hsubnets] at hsubnet
    have hcount := h id subnet cidr hsubnet hcidr
    exact hroom subnet cidr hsubnet hcidr n (by omega) (by omega)
  · intro ⟨hfirst, hrest⟩ subnet cidr hsubnet hcidr n hlow hhigh
    have hcount := h id subnet cidr hsubnet hcidr
    by_cases hn : n ≤ s.allocated id + count id
    · exact hfirst subnet cidr hsubnet hcidr n hlow hn
    · exact hrest subnet cidr (hsubnets ▸ hsubnet) hcidr n (by omega) (by omega)

/-- What is handed out in turn adds up. -/
theorem Counts.trans {count count' : String → Nat} (h : s.Counts t count)
    (h' : t.Counts u count') (hsubnets : t.subnets = s.subnets) :
    s.Counts u fun id => count id + count' id := by
  intro id subnet cidr hsubnet hcidr
  have hfirst := h id subnet cidr hsubnet hcidr
  have hrest := h' id subnet cidr (hsubnets ▸ hsubnet) hcidr
  change u.allocated id = s.allocated id + (count id + count' id)
  omega

/-- What can fulfil all wishes can fulfil the first of them. -/
theorem Capable.left (h : s.Capable networkId (wishes ++ wishes')) :
    s.Capable networkId wishes where
  registered := fun wish hwish => h.registered wish (List.mem_append_left _ hwish)
  room := fun id => (h.room id).mono (owed_append wishes wishes' id ▸ Nat.le_add_right _ _)

namespace Fulfilled

theorem subnets (h : s.Fulfilled t networkId wishes ips) : t.subnets = s.subnets := by
  obtain ⟨allocations, rfl⟩ := h.rest
  rfl

theorem refl (s : Substrate) (networkId : String) : s.Fulfilled s networkId [] [] where
  capable := ⟨nofun, s.room_zero⟩
  fulfils := .nil
  counts := fun _ _ _ _ _ => rfl
  rest := ⟨s.allocations, rfl⟩

/-- More wishes can be fulfilled together with these if they still can afterwards. -/
theorem capable_append (h : s.Fulfilled t networkId wishes ips) :
    s.Capable networkId (wishes ++ wishes') ↔ t.Capable networkId wishes' := by
  have hregistered : ∀ id, t.Registered id networkId ↔ s.Registered id networkId := by
    intro id
    unfold Registered
    rw [h.subnets]
  have hroom : ∀ id, s.Room id (owed (wishes ++ wishes') id) ↔ t.Room id (owed wishes' id) := by
    intro id
    rw [owed_append, h.counts.room_add h.subnets]
    exact and_iff_right (h.capable.room id)
  constructor
  · intro hall
    refine ⟨fun wish hwish => (hregistered _).mpr ?_, fun id => (hroom id).mp (hall.room id)⟩
    exact hall.registered wish (List.mem_append_right _ hwish)
  · intro hrest
    refine ⟨fun wish hwish => ?_, fun id => (hroom id).mpr (hrest.room id)⟩
    rcases List.mem_append.mp hwish with hwish | hwish
    · exact h.capable.registered wish hwish
    · exact (hregistered _).mp (hrest.registered wish hwish)

theorem trans (h : s.Fulfilled t networkId wishes ips)
    (h' : t.Fulfilled u networkId wishes' ips') :
    s.Fulfilled u networkId (wishes ++ wishes') (ips ++ ips') where
  capable := h.capable_append.mpr h'.capable
  fulfils := by
    have hrest := h'.fulfils
    unfold Fulfils at hrest
    rw [h.subnets] at hrest
    exact List.rel_append h.fulfils hrest
  counts := by
    have hcounts := h.counts.trans h'.counts h.subnets
    simpa only [← owed_append] using hcounts
  rest := by
    obtain ⟨allocations, rfl⟩ := h.rest
    obtain ⟨allocations', rfl⟩ := h'.rest
    exact ⟨allocations', rfl⟩

end Fulfilled

/-! Resolving -/

/-- An address that is named is taken as it is. -/
theorem ends_resolveFixedIp_named {a : Address} (hwish : wish.ipAddress = some a) :
    (resolveFixedIp networkId wish).Ends s (fun _ t => t = s) fun _ _ => True := by
  refine (ends_subnetById wish.subnetId s).bind ?_ fun _ _ _ => trivial
  intro subnet t hend
  obtain ⟨rfl, -⟩ := hend
  by_cases hnet : subnet.networkId = networkId
  · simp only [hnet, hwish, ne_eq, not_true_eq_false, if_false]
    exact ends_pure rfl
  · simp only [hnet, ne_eq, not_false_eq_true, if_true]
    exact ends_throw trivial

/-- One wish can be fulfilled if it can be granted. -/
theorem capable_singleton_iff : s.Capable networkId [wish] ↔ s.Grantable networkId wish := by
  have hregistered : (∀ w ∈ [wish], s.Registered w.subnetId networkId) ↔
      s.Registered wish.subnetId networkId := List.forall_mem_singleton
  constructor
  · intro h
    refine ⟨hregistered.mp h.registered, fun hnone => ?_⟩
    have hroom := h.room wish.subnetId
    rwa [owed_singleton_of_none hnone, if_pos rfl] at hroom
  · intro h
    refine ⟨hregistered.mpr h.1, fun id => ?_⟩
    cases haddress : wish.ipAddress with
    | some a =>
      rw [owed_singleton_of_some haddress]
      exact s.room_zero id
    | none =>
      rw [owed_singleton_of_none haddress]
      split
      next heq => exact heq ▸ h.2 haddress
      next => exact s.room_zero id

namespace HandedOut

variable {id : String} {subnet : Subnet} {answer : Option Address}

/-- A subnet with a range hands out its next host, which is not the first. -/
theorem host (h : s.HandedOut t id answer) (hsubnet : s.subnets.get? id = some subnet)
    {cidr : Cidr} (hcidr : subnet.cidr = some cidr) :
    t.allocated id = s.allocated id + 1 ∧
      ∃ n a, 0 < n ∧ cidr.host? n = some a ∧ answer = some a := by
  cases h with
  | rangeless subnet' hsubnet' hcidr' =>
    cases hsubnet.symm.trans hsubnet'
    cases hcidr.symm.trans hcidr'
  | next a hhost hcount =>
    obtain ⟨subnet', cidr', hsubnet', hcidr', hhost⟩ := hhost
    cases hsubnet.symm.trans hsubnet'
    cases hcidr.symm.trans hcidr'
    exact ⟨hcount, _, a, Nat.succ_pos _, hhost, rfl⟩

theorem eq_none (h : s.HandedOut t id answer) (hsubnet : s.subnets.get? id = some subnet)
    (hcidr : subnet.cidr = none) : answer = none := by
  cases h with
  | rangeless => rfl
  | next a hhost hcount =>
    obtain ⟨subnet', cidr', hsubnet', hcidr', -⟩ := hhost
    cases hsubnet.symm.trans hsubnet'
    cases hcidr.symm.trans hcidr'

end HandedOut

/-- What is chosen for a wish fulfils it. -/
theorem Chosen.fulfils (h : s.Chosen t wish ip) (hgrantable : s.Grantable networkId wish) :
    s.Fulfils networkId wish ip := by
  obtain ⟨subnet, hsubnet, hnetwork⟩ := hgrantable.1
  exact ⟨subnet, hsubnet, hnetwork, h.answers,
    fun hnone cidr hcidr => ((h.handedOut hnone).host hsubnet hcidr).2,
    fun hnone hcidr => (h.handedOut hnone).eq_none hsubnet hcidr⟩

/-- An address that is chosen is counted. -/
theorem Chosen.counts (h : s.Chosen t wish ip) (hwish : wish.ipAddress = none)
    (hallocating : s.Allocating t [wish.subnetId]) : s.Counts t (owed [wish]) := by
  intro id subnet cidr hsubnet hcidr
  rw [owed_singleton_of_none hwish]
  split
  next heq =>
    subst heq
    exact ((h.handedOut hwish).host hsubnet hcidr).1
  next hne =>
    obtain ⟨m, -, hbounds⟩ := hallocating
    have hbound := hbounds id
    rw [List.count_singleton] at hbound
    simp only [beq_iff_eq, hne, if_false] at hbound
    omega

theorem ends_resolveFixedIp_fulfilled (networkId : String) (wish : FixedIp) (s : Substrate) :
    (resolveFixedIp networkId wish).Ends s
      (fun ip t => s.Fulfilled t networkId [wish] [ip])
      fun _ _ => ¬ s.Capable networkId [wish] := by
  have hends := ends_resolveFixedIp_iff networkId wish s
  cases haddress : wish.ipAddress with
  | some a =>
    apply (hends.and (ends_resolveFixedIp_named haddress)).mono
    · intro ip t hend
      obtain ⟨⟨-, hchosen, hgrantable⟩, rfl⟩ := hend
      refine ⟨capable_singleton_iff.mpr hgrantable, .cons (hchosen.fulfils hgrantable) .nil, ?_,
        ⟨t.allocations, rfl⟩⟩
      intro id subnet cidr _ _
      rw [owed_singleton_of_some haddress, Nat.add_zero]
    · exact fun e t hend => fun hcapable => hend.1.2 (capable_singleton_iff.mp hcapable)
  | none =>
    apply hends.mono
    · intro ip t hend
      obtain ⟨hallocating, hchosen, hgrantable⟩ := hend
      refine ⟨capable_singleton_iff.mpr hgrantable, .cons (hchosen.fulfils hgrantable) .nil,
        hchosen.counts haddress hallocating, ?_⟩
      obtain ⟨m, hm, -⟩ := hallocating
      exact ⟨m, hm⟩
    · exact fun e t hend => fun hcapable => hend.2 (capable_singleton_iff.mp hcapable)

/-- All wishes are fulfilled, or something stands in the way of one of them. -/
theorem ends_resolveFixedIps_fulfilled (networkId : String) (wishes : List FixedIp)
    (s : Substrate) : (resolveFixedIps networkId wishes).Ends s
      (fun ips t => s.Fulfilled t networkId wishes ips)
      fun _ _ => ¬ s.Capable networkId wishes := by
  induction wishes generalizing s with
  | nil => exact ends_pure (.refl s networkId)
  | cons wish wishes ih =>
    refine (ends_resolveFixedIp_fulfilled networkId wish s).bind ?_ ?_
    · intro ip t hfirst
      refine (ih t).bind ?_ ?_
      · intro ips u hrest
        exact ends_pure (hfirst.trans hrest)
      · intro e u hrest hcapable
        exact hrest (hfirst.capable_append.mp hcapable)
    · intro e t hfirst hcapable
      have hone : s.Capable networkId [wish] := hcapable.left
      exact hfirst hone

end Substrate

end AmphoraWiring
