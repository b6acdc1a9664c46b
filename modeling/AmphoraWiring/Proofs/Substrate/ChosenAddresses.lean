import AmphoraWiring.Proofs.Substrate.Granting
import Mathlib.Algebra.GroupWithZero.Nat

/-!
Whether an address that is chosen for a port is free. A subnet counts the hosts that it hands out,
and the count only grows, so it chooses no host twice. But it does not look at the ports: one that
was given an address by name may have it already when the count comes to it.
-/
namespace AmphoraWiring

namespace Cidr

variable {c : Cidr}

theorem size_pos (c : Cidr) : 0 < c.size := Nat.pow_pos (by decide)

theorem toNat_lt (a : Address) : a.toNat < 2 ^ a.width := by
  cases a with
  | v4 bits => exact bits.isLt
  | v6 bits => exact bits.isLt

theorem toNat_withNat (a : Address) {n : Nat} (h : n < 2 ^ a.width) : (a.withNat n).toNat = n := by
  cases a with
  | v4 bits => exact (BitVec.toNat_ofNat n 32).trans (Nat.mod_eq_of_lt h)
  | v6 bits => exact (BitVec.toNat_ofNat n 128).trans (Nat.mod_eq_of_lt h)

/-- A range lies within the addresses of its family. -/
theorem firstNumber_add_size_le (c : Cidr) : c.firstNumber + c.size ≤ 2 ^ c.address.width := by
  have hsplit : 2 ^ c.address.width = c.size * 2 ^ c.length := by
    change _ = 2 ^ (c.address.width - c.length) * 2 ^ c.length
    rw [← Nat.pow_add, Nat.sub_add_cancel c.length_le]
  have hquotient : c.address.toNat / c.size < 2 ^ c.length :=
    Nat.div_lt_of_lt_mul (hsplit ▸ toNat_lt c.address)
  have hnext : c.firstNumber + c.size = (c.address.toNat / c.size + 1) * c.size :=
    (Nat.succ_mul _ _).symm
  rw [hnext, hsplit, Nat.mul_comm c.size]
  exact Nat.mul_le_mul_right _ hquotient

theorem lastHost_lt (c : Cidr) : c.lastHost < 2 ^ c.address.width := by
  have hwithin := c.firstNumber_add_size_le
  have hsize := c.size_pos
  have hlast : c.lastHost ≤ c.firstNumber + c.size - 1 := by
    unfold lastHost lastNumber
    split
    · exact Nat.sub_le _ _
    · exact Nat.le_refl _
  omega

/-- No host of a range is listed twice. -/
theorem host?_injective {i j : Nat} {a : Address} (hi : c.host? i = some a)
    (hj : c.host? j = some a) : i = j := by
  have hnumber : ∀ {n : Nat}, c.host? n = some a → a.toNat = c.firstHost + n := by
    intro n h
    unfold host? at h
    split at h
    next hle =>
      cases h
      exact toNat_withNat _ (Nat.lt_of_le_of_lt hle c.lastHost_lt)
    next => cases h
  exact Nat.add_left_cancel ((hnumber hi).symm.trans (hnumber hj))

end Cidr

namespace Substrate

open Action

variable {s t u : Substrate}

/-- An address is one host of its subnet. -/
theorem HostOf.number_unique {id : String} {m n : Nat} {a : Address} (hm : s.HostOf id m a)
    (hn : s.HostOf id n a) : m = n := by
  obtain ⟨subnet, cidr, hsubnet, hcidr, hhost⟩ := hm
  obtain ⟨subnet', cidr', hsubnet', hcidr', hhost'⟩ := hn
  cases hsubnet.symm.trans hsubnet'
  cases hcidr.symm.trans hcidr'
  exact Cidr.host?_injective hhost hhost'

/-- Every address that a port has was asked for by name, or is a host that was handed out; the
first host never is. -/
structure Accounted (s : Substrate) (asked : List FixedIp) : Prop where
  own_id : ∀ {id p}, s.ports.get? id = some p → p.id = id
  source : ∀ {id p}, s.ports.get? id = some p → ∀ ip ∈ p.fixedIps, ∀ a, ip.ipAddress = some a →
    Named asked ip.subnetId a ∨
      ∃ n, 0 < n ∧ n ≤ s.allocated ip.subnetId ∧ s.HostOf ip.subnetId n a

/-- The address is a host of the subnet, but not the first one, and a port carries it only if it
was asked for by name. -/
structure FreeHost (s : Substrate) (asked : List FixedIp) (subnetId : String) (a : Address) :
    Prop where
  host : ∃ n, s.HostOf subnetId n a
  not_first : ¬ s.HostOf subnetId 0 a
  carried : ∀ {id p}, s.ports.get? id = some p → ∀ ip ∈ p.fixedIps, ip.subnetId = subnetId →
    ip.ipAddress = some a → Named asked subnetId a

namespace Accounted

variable {asked wishes : List FixedIp}

theorem empty : Accounted {} [] := ⟨fun h => by simp at h, fun h => by simp at h⟩

/-- A host beyond the count is free. -/
theorem freeHost (h : s.Accounted asked) {id : String} {n : Nat} {a : Address}
    (hn : s.allocated id < n) (hhost : s.HostOf id n a) : s.FreeHost asked id a := by
  refine ⟨⟨n, hhost⟩, fun hfirst => ?_, fun hp ip hip hsubnet ha => ?_⟩
  · have hzero := hfirst.number_unique hhost
    omega
  · rcases h.source hp ip hip a ha with hnamed | ⟨m, -, hm, hhost'⟩
    · exact hsubnet ▸ hnamed
    · rw [hsubnet] at hm hhost'
      have hsame := hhost'.number_unique hhost
      omega

/-- What is granted stays accounted for. -/
theorem granting (h : s.Accounted asked) (h' : s.Granting t wishes) :
    t.Accounted (asked ++ wishes) := by
  refine ⟨h'.own_id, fun hp ip hip a ha => ?_⟩
  rcases h'.carried hp ip hip with ⟨q, hq, hold⟩ | hgranted
  · rcases h.source hq ip hold a ha with hnamed | ⟨n, hpos, hle, hhost⟩
    · exact .inl (hnamed.mono (List.subset_append_left _ _))
    · exact .inr ⟨n, hpos, Nat.le_trans hle (h'.counted _), hhost.of_subnets h'.subnets⟩
  · rcases hgranted a ha with hnamed | ⟨n, hlow, hhigh, hhost⟩
    · exact .inl (hnamed.mono (List.subset_append_right _ _))
    · exact .inr ⟨n, Nat.lt_of_le_of_lt (Nat.zero_le _) hlow, hhigh, hhost.of_subnets h'.subnets⟩

/-- A subnet that is known already keeps its range. -/
theorem addSubnet (h : s.Accounted asked) {subnet : Subnet}
    (hsame : ∀ known, s.subnets.get? subnet.id = some known → known.cidr = subnet.cidr) :
    (s.addSubnet subnet).Accounted asked := by
  refine ⟨h.own_id, fun hp ip hip a ha => (h.source hp ip hip a ha).imp_right ?_⟩
  intro hhost
  obtain ⟨n, hpos, hle, known, cidr, hknown, hcidr, hhost⟩ := hhost
  refine ⟨n, hpos, hle, ?_⟩
  by_cases heq : ip.subnetId = subnet.id
  · rw [heq] at hknown ⊢
    exact ⟨subnet, cidr, IdMap.get?_insert_self _ _ _, hsame known hknown ▸ hcidr, hhost⟩
  · exact ⟨known, cidr, (IdMap.get?_insert _ _ _ _).trans ((if_neg heq).trans hknown), hcidr,
      hhost⟩

end Accounted

namespace Event

/-- The addresses that are asked for in the event, by name or not. -/
def asked : Event → List FixedIp
  | .command c => c.asked
  | .seedInterface _ interface => interface.fixedIps
  | _ => []

/-- A subnet that is known already is not registered with another range. -/
def KeepsRanges (s : Substrate) : Event → Prop
  | .addSubnet subnet =>
    ∀ known, s.subnets.get? subnet.id = some known → known.cidr = subnet.cidr
  | _ => True

/-- An event grants no more than it is asked for by name and hands out, or it registers a
subnet. -/
theorem granting_leaves (e : Event) (hs : ∀ {id p}, s.ports.get? id = some p → p.id = id) :
    s.Granting (e.leaves s) e.asked ∨
      ∃ subnet, e = .addSubnet subnet ∧ e.leaves s = s.addSubnet subnet := by
  have hstart : s.Granting s e.asked := .refl hs _
  cases e with
  | addSubnet subnet => exact .inr ⟨subnet, rfl, rfl⟩
  | command c => exact .inl (.edited hs (edited_leaves_command c s))
  | seedInterface c interface =>
    exact .inl (Ends.state (p := fun t => s.Granting t interface.fixedIps)
      (ends_seedInterface_granting hs c interface).drop)
  | addNetwork network => exact .inl (hstart.of_ports rfl rfl rfl)
  | addInstance c => exact .inl (hstart.addInstance c)
  | removeInstance c => exact .inl (hstart.of_ports rfl rfl rfl)
  | setDownDelay polls => exact .inl (hstart.of_ports rfl rfl rfl)
  | manageSecurityGroups enabled => exact .inl (hstart.of_ports rfl rfl rfl)
  | injectFault op times e =>
    left
    change s.Granting (s.injectFault op times e) []
    unfold Substrate.injectFault
    split
    · exact hstart
    · exact hstart.of_ports rfl rfl rfl

end Event

/-- Every event of the history keeps the ranges that are known where it happens. -/
def KeepRanges (s : Substrate) : List Event → Prop
  | [] => True
  | e :: events => e.KeepsRanges s ∧ (e.leaves s).KeepRanges events

namespace Accounted

variable {asked : List FixedIp}

/-- What one event keeps. -/
theorem leaves (h : s.Accounted asked) {e : Event} (he : e.KeepsRanges s) :
    (e.leaves s).Accounted (asked ++ e.asked) := by
  rcases e.granting_leaves h.own_id with hgranting | ⟨subnet, rfl, hleaves⟩
  · exact h.granting hgranting
  · rw [hleaves, show (Event.addSubnet subnet).asked = [] from rfl, List.append_nil]
    exact h.addSubnet he

/-- What a history keeps. -/
theorem after {events : List Event} (h : s.Accounted asked) (hevents : s.KeepRanges events) :
    (s.after events).Accounted (asked ++ events.flatMap Event.asked) := by
  induction events generalizing s asked with
  | nil =>
    rw [List.flatMap_nil, List.append_nil]
    exact h
  | cons e events ih =>
    have hrest := ih (h.leaves hevents.1) hevents.2
    rwa [List.append_assoc] at hrest

/-- Where a subnet with a range is to choose, it chooses a free host. -/
theorem chosen (h : s.Accounted asked) {networkId : String} {wish ip : FixedIp} {subnet : Subnet}
    (hrun : (resolveFixedIp networkId wish).runOn s = (.ok ip, t)) (hwish : wish.ipAddress = none)
    (hsubnet : s.subnets.get? wish.subnetId = some subnet) (hrange : subnet.cidr ≠ none) :
    ∃ a, ip.ipAddress = some a ∧ s.FreeHost asked wish.subnetId a := by
  obtain ⟨-, hchosen, -⟩ := (ends_resolveFixedIp_iff networkId wish s).of_ok hrun
  have hout := hchosen.handedOut hwish
  cases hip : ip.ipAddress with
  | none =>
    rw [hip] at hout
    cases hout with
    | rangeless subnet' hsubnet' hcidr =>
      cases hsubnet.symm.trans hsubnet'
      exact absurd hcidr hrange
  | some a =>
    rw [hip] at hout
    cases hout with
    | next _ hhost hcount => exact ⟨a, rfl, h.freeHost (Nat.lt_succ_self _) hhost⟩

end Accounted

/-- Whenever a subnet with a range chooses an address, after any history and in the midst of any
call (`Granting.edited` has every state that a call comes to), it chooses a host other than the
first that no port carries, unless that address was asked for by name. And what a port has gained in
the end of an event was asked for by name in it, or was free before it in the same sense. -/
theorem chosen_address_free_unless_named {events : List Event} (hevents : KeepRanges {} events) :
    (∀ u wishes networkId wish ip v subnet, (after {} events).Granting u wishes →
      (resolveFixedIp networkId wish).runOn u = (.ok ip, v) → wish.ipAddress = none →
      u.subnets.get? wish.subnetId = some subnet → subnet.cidr ≠ none →
      ∃ a, ip.ipAddress = some a ∧
        u.FreeHost (events.flatMap Event.asked ++ wishes) wish.subnetId a) ∧
    ∀ (e : Event) id p ip a, (e.leaves (after {} events)).ports.get? id = some p →
      ip ∈ p.fixedIps → ip.ipAddress = some a →
      (∀ q, (after {} events).ports.get? id = some q → ip ∉ q.fixedIps) →
      Named e.asked ip.subnetId a ∨
        (after {} events).FreeHost (events.flatMap Event.asked) ip.subnetId a := by
  have hs : (after {} events).Accounted (events.flatMap Event.asked) :=
    Accounted.empty.after hevents
  constructor
  · intro u wishes networkId wish ip v subnet hu hrun hwish hsubnet hrange
    exact (hs.granting hu).chosen hrun hwish hsubnet hrange
  · intro e id p ip a hp hip ha hgained
    rcases e.granting_leaves hs.own_id with hgranting | ⟨subnet, rfl, hleaves⟩
    · rcases hgranting.carried hp ip hip with ⟨q, hq, hold⟩ | hgranted
      · exact absurd hold (hgained q hq)
      · rcases hgranted a ha with hnamed | ⟨n, hlow, -, hhost⟩
        · exact .inl hnamed
        · exact .inr (hs.freeHost hlow hhost)
    · rw [hleaves] at hp
      exact absurd hip (hgained p hp)

/-- The first port is given the address 10.0.1.2 by name, and the second is to get any. -/
def namedFirst : List Event :=
  [.addSubnet (Sample.subnet "subnet-b" "net-b" "10.0.1.0/24"),
   .command (.createPort
     { networkId := "net-b"
       name := "first"
       fixedIps := [{ subnetId := "subnet-b", ipAddress := some (.v4 0x0a000102) }] }),
   .command (.createPort { networkId := "net-b", name := "second" })]

theorem namedFirst_keepRanges : KeepRanges {} namedFirst := by
  refine ⟨?_, trivial, trivial, trivial⟩
  intro known hknown
  cases hknown

/-- Addresses have been named by then, and the one that is chosen next is free unless it is among
them. -/
theorem chosen_address_free_unless_named_sample :
    ∃ ip v a, (resolveFixedIp "net-b" { subnetId := "subnet-b" }).runOn (after {} namedFirst) =
        (.ok ip, v) ∧ ip.ipAddress = some a ∧
      (after {} namedFirst).FreeHost (namedFirst.flatMap Event.asked ++ []) "subnet-b" a := by
  have hs := Accounted.empty.after namedFirst_keepRanges
  obtain ⟨ip, v, hrun⟩ := exists_of_isSome
    (resolveFixedIp "net-b" { subnetId := "subnet-b" }) (after {} namedFirst) (by decide +kernel)
  obtain ⟨subnet, hsubnet, hrange⟩ : ∃ subnet,
      (after {} namedFirst).subnets.get? "subnet-b" = some subnet ∧ subnet.cidr ≠ none :=
    ⟨Sample.subnet "subnet-b" "net-b" "10.0.1.0/24", by decide +kernel, by decide +kernel⟩
  obtain ⟨a, ha, hfree⟩ := (chosen_address_free_unless_named namedFirst_keepRanges).1
    (after {} namedFirst) [] "net-b" { subnetId := "subnet-b" } ip v subnet (.refl hs.own_id [])
    hrun rfl hsubnet hrange
  exact ⟨ip, v, a, hrun, ha, hfree⟩

/-- The count begins with the second host, and the first port has that one. -/
theorem named_address_chosen_again :
    KeepRanges {} namedFirst ∧
    (after {} namedFirst).ports.values.map (fun p => (p.name, p.fixedIps)) =
      [("first", [{ subnetId := "subnet-b", ipAddress := some (.v4 0x0a000102) }]),
       ("second", [{ subnetId := "subnet-b", ipAddress := some (.v4 0x0a000102) }])] :=
  ⟨namedFirst_keepRanges, by decide +kernel⟩

end Substrate

end AmphoraWiring
