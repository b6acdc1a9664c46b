import AmphoraWiring.Proofs.Seeding
import AmphoraWiring.Proofs.Substrate.VirtualAddresses
import Mathlib.Data.List.Forall2

/-!
Which addresses an allocation gives. A wish for an address on a subnet that the port is on already
is answered with the address that the port has there, whatever it names. So all wishes for one
subnet are answered like the first of them, and it is that one whose address counts.
-/
namespace AmphoraWiring

namespace Port

/-- The address with which the port answers on the subnet. -/
def ipOn (p : Port) (subnetId : String) : Option FixedIp :=
  p.fixedIps.find? fun ip => ip.subnetId = subnetId

theorem ipOn_addIps (p : Port) (ips : List FixedIp) (subnetId : String) :
    (p.addIps ips).ipOn subnetId =
      (p.ipOn subnetId).or (ips.find? fun ip => ip.subnetId = subnetId) :=
  List.find?_append

/-- The address that a port has on a subnet is not replaced. -/
theorem ipOn_addIps_of_some {p : Port} {subnetId : String} {ip : FixedIp}
    (h : p.ipOn subnetId = some ip) (ips : List FixedIp) :
    (p.addIps ips).ipOn subnetId = some ip := by
  rw [ipOn_addIps, h, Option.some_or]

theorem subnetId_of_ipOn {p : Port} {subnetId : String} {ip : FixedIp}
    (h : p.ipOn subnetId = some ip) : ip.subnetId = subnetId := by
  simpa using List.find?_some h

end Port

theorem FixedIp.Answers.eq {ip wish : FixedIp} (h : ip.Answers wish) :
    ip = { subnetId := wish.subnetId, ipAddress := ip.ipAddress } := by
  obtain ⟨hsubnet, hdetail, -⟩ := h
  obtain ⟨subnetId, ipAddress, subnet⟩ := ip
  cases hsubnet
  cases hdetail
  rfl

def AdditionalVip.fixedIp (vip : AdditionalVip) : FixedIp :=
  { subnetId := vip.subnetId, ipAddress := vip.ipAddress }

def Vip.fixedIp (vip : Vip) : FixedIp := { subnetId := vip.subnetId, ipAddress := vip.ipAddress }

/-- The addresses that a load balancer asks for, that of its own first. -/
def LoadBalancer.wishes (lb : LoadBalancer) : List FixedIp :=
  lb.vip.fixedIp :: lb.additionalVips.map (·.fixedIp)

/-- The addresses that have been allocated, in the same order. -/
def AllocatedVip.addresses (allocated : AllocatedVip) : List FixedIp :=
  allocated.vip.fixedIp :: allocated.additionalVips.map (·.fixedIp)

/-- What has been allocated on the port corresponds to what the load balancer asks for, one by
one. -/
structure LoadBalancer.AllottedOn (lb : LoadBalancer) (p : Port) (allocated : AllocatedVip) :
    Prop where
  vip : allocated.vip = { lb.vip with
    ipAddress := allocated.vip.ipAddress
    portId := some p.id
    loadBalancerId := some lb.id }
  network : p.networkId = lb.vip.networkId
  additional : List.Forall₂
    (fun asked given => given = { asked with
      ipAddress := given.ipAddress
      networkId := some p.networkId
      portId := some p.id })
    lb.additionalVips allocated.additionalVips

namespace Substrate

open Action

variable {s t : Substrate}

/-- How further wishes are dealt with: each is answered with what the port has on its subnet in the
end, and what it did not have there before is an answer to the first wish for the subnet. -/
structure VipsAdded (p : Port) (extras : List AdditionalVip) (r : Port × List AdditionalVip) :
    Prop where
  port : ∃ ips, r.1 = p.addIps ips
  answered : List.Forall₂
    (fun extra vip => ∃ ip, r.1.ipOn extra.subnetId = some ip ∧
      vip = ⟨ip.ipAddress, extra.subnetId, some p.networkId, some p.id⟩) extras r.2
  first : ∀ id ip, p.ipOn id = none → r.1.ipOn id = some ip →
    ∃ wish, (extras.map (·.fixedIp)).find? (fun wish => wish.subnetId = id) = some wish ∧
      ip.Answers wish

/-- One more wish in front, when the port has `ip` on its subnet: from before, or as an answer to
this wish. -/
theorem VipsAdded.cons {p : Port} {extra : AdditionalVip} {extras : List AdditionalVip}
    {r : Port × List AdditionalVip} {ips : List FixedIp} {ip : FixedIp}
    (h : VipsAdded (p.addIps ips) extras r) (hip : (p.addIps ips).ipOn extra.subnetId = some ip)
    (hnew : ∀ id ip', p.ipOn id = none → (p.addIps ips).ipOn id = some ip' →
      id = extra.subnetId ∧ ip'.Answers extra.fixedIp) :
    VipsAdded p (extra :: extras)
      (r.1, ⟨ip.ipAddress, extra.subnetId, some r.1.networkId, some r.1.id⟩ :: r.2) := by
  obtain ⟨more, hport⟩ := h.port
  have hkept : ∀ id ip', (p.addIps ips).ipOn id = some ip' → r.1.ipOn id = some ip' := by
    intro id ip' hhas
    rw [hport]
    exact Port.ipOn_addIps_of_some hhas more
  refine ⟨⟨ips ++ more, ?_⟩, .cons ⟨ip, hkept _ _ hip, ?_⟩ h.answered, ?_⟩
  · rw [hport]
    simp [Port.addIps]
  · rw [hport]
    rfl
  · intro id ip' hnone hhas
    rw [List.map_cons, List.find?_cons]
    -- the subnet has been brought by this wish, or it is brought by a later one
    cases hbefore : (p.addIps ips).ipOn id with
    | some q =>
      have heq : q = ip' := Option.some.inj ((hkept id q hbefore).symm.trans hhas)
      obtain ⟨rfl, hanswers⟩ := hnew id q hnone hbefore
      exact ⟨extra.fixedIp, by simp [AdditionalVip.fixedIp], heq ▸ hanswers⟩
    | none =>
      have hne : extra.fixedIp.subnetId ≠ id := by
        rintro rfl
        rw [show extra.fixedIp.subnetId = extra.subnetId from rfl, hip] at hbefore
        cases hbefore
      simp only [hne, decide_false]
      exact h.first id ip' hbefore hhas

/-- For each additional address the port gets one, unless it is on the subnet already. -/
theorem ends_addVips_answers (p : Port) (extras : List AdditionalVip) (s : Substrate) :
    (addVips p extras).Ends s (fun r _ => VipsAdded p extras r) fun _ _ => True := by
  induction extras generalizing p s with
  | nil => exact ends_pure ⟨⟨[], by simp [Port.addIps]⟩, .nil, by simp_all⟩
  | cons extra extras ih =>
    unfold addVips
    split
    next ip hfound =>
      have hsame : p.addIps [] = p := by simp [Port.addIps]
      refine ends_bind_of_ok rfl ((ih p s).bind ?_ (fun _ _ _ => trivial))
      intro r u hend
      have hadded : VipsAdded (p.addIps []) extras r := by rwa [hsame]
      refine ends_pure (hadded.cons ?_ ?_)
      · rwa [hsame]
      · intro id ip' hnone hhas
        rw [hsame, hnone] at hhas
        cases hhas
    next hnone =>
      refine (ends_resolveFixedIp_iff p.networkId _ s).bind ?_ (fun _ _ _ => trivial)
      intro ip t hend
      obtain ⟨-, ⟨hanswers, -⟩, -⟩ := hend
      have hsubnet : ip.subnetId = extra.subnetId := hanswers.subnetId
      refine (ih (p.addIps [ip]) t).bind ?_ (fun _ _ _ => trivial)
      intro r u hend
      refine ends_pure (hend.cons ?_ ?_)
      · rw [Port.ipOn_addIps, show p.ipOn extra.subnetId = none from hnone]
        simp [hsubnet]
      · intro id ip' hnone hhas
        rw [Port.ipOn_addIps, hnone, Option.none_or] at hhas
        have hmem := List.mem_singleton.mp (List.mem_of_find?_eq_some hhas)
        have hid : ip'.subnetId = id := by simpa using List.find?_some hhas
        subst hmem
        exact ⟨hid.symm.trans hsubnet, hanswers⟩

/-- A port made for the virtual address has an answer to each wish, and what it has on a subnet is
an answer to the first wish for it. -/
structure VipAnswered (t : Substrate) (lb : LoadBalancer) (allocated : AllocatedVip) (p : Port) :
    Prop where
  stored : t.ports.get? p.id = some p
  allotted : lb.AllottedOn p allocated
  answered : List.Forall₂ (fun wish ip => p.ipOn wish.subnetId = some ip) lb.wishes
    allocated.addresses
  first : ∀ id ip, p.ipOn id = some ip →
    ∃ wish, lb.wishes.find? (fun wish => wish.subnetId = id) = some wish ∧ ip.Answers wish

/-- The wishes are those that were dealt with when the port was made, the one for its own address,
and those that were dealt with afterwards. -/
theorem VipsAdded.answered_first {lb : LoadBalancer} {made : Port} {own : FixedIp}
    {r : Port × List AdditionalVip} (h : VipsAdded made lb.additionalVips r)
    (hips : made.fixedIps = [own]) (hown : own.Answers lb.vip.fixedIp) :
    r.1.ipOn lb.vip.subnetId = some own ∧ ∀ id ip, r.1.ipOn id = some ip →
      ∃ wish, lb.wishes.find? (fun wish => wish.subnetId = id) = some wish ∧ ip.Answers wish := by
  obtain ⟨ips, hport⟩ := h.port
  have hbase : ∀ id, made.ipOn id = if lb.vip.subnetId = id then some own else none := by
    intro id
    have hsubnet : own.subnetId = lb.vip.subnetId := hown.subnetId
    simp only [Port.ipOn, hips, List.find?_singleton, hsubnet, decide_eq_true_eq]
  have hvip : r.1.ipOn lb.vip.subnetId = some own := by
    rw [hport]
    exact Port.ipOn_addIps_of_some (by rw [hbase, if_pos rfl]) ips
  refine ⟨hvip, fun id ip hhas => ?_⟩
  rw [LoadBalancer.wishes, List.find?_cons]
  by_cases hid : lb.vip.subnetId = id
  · subst hid
    cases hvip.symm.trans hhas
    exact ⟨lb.vip.fixedIp, by simp [Vip.fixedIp], hown⟩
  · have hne : lb.vip.fixedIp.subnetId ≠ id := hid
    simp only [hne, decide_false]
    exact h.first id ip (by rw [hbase, if_neg hid]) hhas

/-- A new virtual port answers the wish of the virtual address and adds what is wished besides. -/
theorem ends_allocateVip_answers {lb : LoadBalancer} {s : Substrate}
    (hnew : s.vipPort? lb.vip = none) : (allocateVip lb).Ends s
      (fun allocated t => ∃ p, t.VipAnswered lb allocated p) fun _ _ => True := by
  refine ends_call (fun _ _ _ _ _ => trivial) fun t h _ => ?_
  apply ends_get
  have hvip : t.vipPort? lb.vip = none := by
    unfold vipPort?
    rw [h.ports]
    exact hnew
  rw [hvip]
  have hasked : (vipPortRequest lb).fixedIps = [lb.vip.fixedIp] := rfl
  refine (ends_newPort_single hasked t).bind ?_ (fun _ _ _ => trivial)
  intro made u hend
  obtain ⟨-, -, own, -, hown, hmade, -⟩ := hend
  have hips : made.fixedIps = [own] := hmade ▸ rfl
  have hnetwork : made.networkId = lb.vip.networkId := hmade ▸ rfl
  refine (ends_addVips_answers made lb.additionalVips u).bind ?_ (fun _ _ _ => trivial)
  intro r v hadded
  obtain ⟨hvip, hfirst⟩ := hadded.answered_first hips hown
  obtain ⟨p, given⟩ := r
  have hsame : p.networkId = made.networkId ∧ p.id = made.id := by
    obtain ⟨ips, hport⟩ := hadded.port
    dsimp only at hport
    rw [hport]
    exact ⟨rfl, rfl⟩
  refine ends_modify (ends_pure ⟨p, IdMap.get?_insert_self _ _ _, ⟨rfl, ?_, ?_⟩, ?_, hfirst⟩)
  · exact hsame.1.trans hnetwork
  · refine hadded.answered.imp fun extra vip h => ?_
    obtain ⟨ip, -, rfl⟩ := h
    rw [hsame.1, hsame.2]
  · refine .cons ?_ ?_
    · rw [show p.ipOn lb.vip.fixedIp.subnetId = some own from hvip]
      have haddress : (p.fixedIps.find? fun ip => ip.subnetId = lb.vip.subnetId) = some own := hvip
      rw [haddress]
      exact congrArg some hown.eq
    · refine List.forall₂_map_left_iff.mpr (List.forall₂_map_right_iff.mpr ?_)
      refine hadded.answered.imp fun extra vip h => ?_
      obtain ⟨ip, hhas, rfl⟩ := h
      obtain ⟨wish, hwish, hanswers⟩ := hfirst _ ip hhas
      have hsubnet : wish.subnetId = extra.subnetId :=
        hanswers.subnetId.symm.trans (Port.subnetId_of_ipOn hhas)
      refine hhas.trans (congrArg some (hanswers.eq.trans ?_))
      rw [hsubnet]
      rfl

/-- When an allocation makes a port, each wish is given what the first wish for its subnet is given,
which is the address that this one names, if it names one. So a wish that names an address gets it
exactly if the first wish for the subnet does. -/
theorem allocated_as_first_wish {lb : LoadBalancer} {s t : Substrate} {allocated : AllocatedVip}
    (hnew : s.vipPort? lb.vip = none) (hrun : (allocateVip lb).runOn s = (.ok allocated, t)) :
    ∃ p, t.ports.get? p.id = some p ∧ lb.AllottedOn p allocated ∧
      ∀ wish ip, (wish, ip) ∈ lb.wishes.zip allocated.addresses →
        ip.subnetId = wish.subnetId ∧ ip ∈ p.fixedIps ∧
        ∃ first, lb.wishes.find? (fun other => other.subnetId = wish.subnetId) = some first ∧
          (∀ a, first.ipAddress = some a → ip.ipAddress = some a) ∧
          ∀ other ip', (other, ip') ∈ lb.wishes.zip allocated.addresses →
            other.subnetId = wish.subnetId → ip' = ip := by
  obtain ⟨p, hstored, hallotted, hanswered, hfirst⟩ := (ends_allocateVip_answers hnew).of_ok hrun
  refine ⟨p, hstored, hallotted, fun wish ip hpair => ?_⟩
  have hhas : p.ipOn wish.subnetId = some ip := List.forall₂_zip hanswered hpair
  obtain ⟨first, hfind, hanswers⟩ := hfirst wish.subnetId ip hhas
  refine ⟨Port.subnetId_of_ipOn hhas, List.mem_of_find?_eq_some hhas, first, hfind,
    hanswers.address, fun other ip' hother hsubnet => ?_⟩
  have hhas' : p.ipOn other.subnetId = some ip' := List.forall₂_zip hanswered hother
  rw [hsubnet, hhas] at hhas'
  exact (Option.some.inj hhas').symm

/-- The load balancer asks for a second address, 10.0.0.50, on the subnet of its own one. -/
def secondOnSubnet : LoadBalancer :=
  { Sample.loadBalancer [] with
    additionalVips := [{ subnetId := "vip-subnet", ipAddress := some (.v4 0x0a000032) }] }

/-- Two wishes for one subnet, of which the second names an address that nobody gets. -/
theorem allocated_as_first_wish_sample : ∃ allocated t p,
    (allocateVip secondOnSubnet).runOn Sample.substrate = (.ok allocated, t) ∧
      t.ports.get? p.id = some p ∧ secondOnSubnet.AllottedOn p allocated ∧
      ∀ ip ∈ allocated.addresses, ip ∈ p.fixedIps := by
  obtain ⟨allocated, t, hrun⟩ := exists_of_isSome (allocateVip secondOnSubnet) Sample.substrate
    (by decide +kernel)
  have hnew : Sample.substrate.vipPort? secondOnSubnet.vip = none := rfl
  obtain ⟨p, hstored, hallotted, hgiven⟩ := allocated_as_first_wish hnew hrun
  refine ⟨allocated, t, p, hrun, hstored, hallotted, fun ip hmem => ?_⟩
  have hlength : allocated.addresses.length ≤ secondOnSubnet.wishes.length := by
    simp [AllocatedVip.addresses, LoadBalancer.wishes, hallotted.additional.length_eq]
  rw [← List.map_snd_zip hlength] at hmem
  obtain ⟨⟨wish, ip⟩, hpair, rfl⟩ := List.mem_map.mp hmem
  exact (hgiven wish ip hpair).2.1

/-- The second wish names 10.0.0.50 and is given what the first one drew, 10.0.0.2. -/
theorem second_wish_for_subnet_ignored :
    Sample.substrate.vipPort? secondOnSubnet.vip = none ∧
    secondOnSubnet.additionalVips.map (·.ipAddress) = [some (.v4 0x0a000032)] ∧
    ((allocateVip secondOnSubnet).runOn Sample.substrate).1.toOption.map
      (fun allocated => allocated.additionalVips.map (·.ipAddress)) =
        some [some (.v4 0x0a000002)] := by
  decide +kernel

end Substrate

end AmphoraWiring
