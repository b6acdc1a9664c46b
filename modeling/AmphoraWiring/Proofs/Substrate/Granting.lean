import AmphoraWiring.Proofs.Substrate.Edits

/-!
Where the addresses of ports come from. An address that a port gains while a call runs was asked
for by name in the call, or it is a host of the subnet whose number was counted up to while the
call ran. This holds of every call, however it ends, and of seeding.
-/
namespace AmphoraWiring.Substrate

open Action

variable {s t u : Substrate} {wishes : List FixedIp}

/-- Between `s` and `t` no port has gained an address that was not granted, and subnets have been
counted on, if at all. -/
structure Granting (s t : Substrate) (wishes : List FixedIp) : Prop where
  subnets : t.subnets = s.subnets
  counted : ∀ id, s.allocated id ≤ t.allocated id
  own_id : ∀ {id p}, t.ports.get? id = some p → p.id = id
  carried : ∀ {id p}, t.ports.get? id = some p → ∀ ip ∈ p.fixedIps,
    (∃ q, s.ports.get? id = some q ∧ ip ∈ q.fixedIps) ∨ s.Granted t wishes ip

/-- A step leaves a port no address but those that it had and those that were granted. -/
theorem Edit.carried (h : Edit s wishes t u)
    (hown : ∀ {id p}, t.ports.get? id = some p → p.id = id) {id : String} {q : Port}
    (hq : u.ports.get? id = some q) : q.id = id ∧ ∀ ip ∈ q.fixedIps,
      (∃ p, t.ports.get? id = some p ∧ ip ∈ p.fixedIps) ∨ s.Granted t wishes ip := by
  -- a port that was there with the same addresses
  have hkeeps : ∀ {p}, t.ports.get? id = some p → q.id = p.id → q.fixedIps = p.fixedIps →
      q.id = id ∧ ∀ ip ∈ q.fixedIps,
        (∃ p, t.ports.get? id = some p ∧ ip ∈ p.fixedIps) ∨ s.Granted t wishes ip :=
    fun hp hid hips => ⟨hid.trans (hown hp), fun ip hip => .inl ⟨_, hp, hips ▸ hip⟩⟩
  have hsame : t.ports.get? id = some q → q.id = id ∧ ∀ ip ∈ q.fixedIps,
      (∃ p, t.ports.get? id = some p ∧ ip ∈ p.fixedIps) ∨ s.Granted t wishes ip :=
    fun hq => hkeeps hq rfl rfl
  have hbacked : q.id = id → s.Backed t wishes q → ∀ ip ∈ q.fixedIps,
      (∃ p, t.ports.get? id = some p ∧ ip ∈ p.fixedIps) ∨ s.Granted t wishes ip := by
    intro hid h ip hip
    rcases h ip hip with hgiven | ⟨k, p, hp, hkept, -, hhas⟩
    · exact .inr hgiven.granted
    · -- under its own id there is one port only
      obtain rfl : k = id := (hown hp).symm.trans (hkept.trans hid)
      exact .inl ⟨p, hp, hhas⟩
  cases h with
  | handedOut h => exact hsame (h.samePorts.ports ▸ hq)
  | stored p hp =>
    rw [IdMap.get?_insert] at hq
    split at hq
    next heq =>
      cases hq
      exact ⟨heq.symm, hbacked heq.symm hp⟩
    next => exact hsame hq
  | amended k f hid hf =>
    rw [show (t.amend k f).ports.get? id = _ from IdMap.get?_modify _ _ _ _] at hq
    split at hq
    next heq =>
      obtain ⟨p, hp, rfl⟩ := Option.map_eq_some_iff.mp hq
      have hkept : (f p).id = id := (hid p).trans (hown hp)
      exact ⟨hkept, hbacked hkept (hf p (heq ▸ hp))⟩
    next => exact hsame hq
  | attached c k h =>
    rw [show (t.attach c k).ports.get? id = _ from IdMap.get?_modify _ _ _ _] at hq
    split at hq
    next =>
      obtain ⟨p, hp, rfl⟩ := Option.map_eq_some_iff.mp hq
      exact hkeeps hp rfl rfl
    next => exact hsame hq
  | detached c networkId =>
    rw [get?_ports_detach] at hq
    split at hq
    next =>
      obtain ⟨p, hp, rfl⟩ := Option.map_eq_some_iff.mp hq
      exact hkeeps hp rfl rfl
    next => exact hsame hq
  | removed k =>
    rw [show (t.removePort k).ports.get? id = _ from IdMap.get?_erase _ _ _] at hq
    split at hq
    next => cases hq
    next => exact hsame hq
  | _ => exact hsame hq

namespace Granting

theorem refl (h : ∀ {id p}, s.ports.get? id = some p → p.id = id) (wishes : List FixedIp) :
    s.Granting s wishes :=
  ⟨rfl, fun _ => Nat.le_refl _, h, fun hp _ hip => .inl ⟨_, hp, hip⟩⟩

/-- One more step that grants what it adds. -/
theorem next (h : s.Granting t wishes) (hsubnets : u.subnets = t.subnets)
    (hcount : ∀ id, t.allocated id ≤ u.allocated id)
    (hports : ∀ {id q}, u.ports.get? id = some q → q.id = id ∧ ∀ ip ∈ q.fixedIps,
      (∃ p, t.ports.get? id = some p ∧ ip ∈ p.fixedIps) ∨ s.Granted t wishes ip) :
    s.Granting u wishes where
  subnets := hsubnets.trans h.subnets
  counted id := Nat.le_trans (h.counted id) (hcount id)
  own_id hq := (hports hq).1
  carried hq ip hip := by
    rcases (hports hq).2 ip hip with ⟨p, hp, hold⟩ | hgranted
    · exact (h.carried hp ip hold).imp_right fun hgranted => hgranted.mono hcount
    · exact .inr (hgranted.mono hcount)

/-- Where ports, subnets and counts have not changed. -/
theorem of_ports (h : s.Granting t wishes) (hsubnets : u.subnets = t.subnets)
    (hallocations : u.allocations = t.allocations) (hports : u.ports = t.ports) :
    s.Granting u wishes := by
  refine h.next hsubnets (fun id => ?_) fun hq => ?_
  · exact Nat.le_of_eq (by rw [allocated, allocated, hallocations])
  · rw [hports] at hq
    exact ⟨h.own_id hq, fun ip hip => .inl ⟨_, hq, hip⟩⟩

theorem addInstance (h : s.Granting t wishes) (c : String) :
    s.Granting (t.addInstance c) wishes := by
  unfold Substrate.addInstance
  split
  · exact h
  · exact h.of_ports rfl rfl rfl

/-- What one step of a call keeps. -/
theorem edit (h : s.Granting t wishes) (h' : Edit s wishes t u) : s.Granting u wishes :=
  h.next h'.subnets h'.counted (h'.carried h.own_id)

/-- What a call keeps, wherever it stops. -/
theorem edited (hown : ∀ {id p}, s.ports.get? id = some p → p.id = id)
    (h : s.Edited wishes t) : s.Granting t wishes := by
  induction h with
  | refl => exact .refl hown wishes
  | tail _ h' ih => exact ih.edit h'

/-- What is granted later is granted from the beginning. -/
theorem trans (h : s.Granting t wishes) (h' : t.Granting u []) : s.Granting u wishes := by
  refine ⟨h'.subnets.trans h.subnets, fun id => Nat.le_trans (h.counted id) (h'.counted id),
    h'.own_id, fun hp ip hip => ?_⟩
  rcases h'.carried hp ip hip with ⟨q, hq, hold⟩ | hgranted
  · exact (h.carried hq ip hold).imp_right fun hgranted => hgranted.mono h'.counted
  · refine .inr fun a ha => .inr ?_
    rcases hgranted a ha with ⟨wish, hwish, -⟩ | ⟨n, hlow, hhigh, hhost⟩
    · cases hwish
    · exact ⟨n, Nat.lt_of_le_of_lt (h.counted _) hlow, hhigh, hhost.of_subnets h.subnets.symm⟩

/-- A new port that is stored under another id takes its addresses there. -/
theorem renamed (h : s.Granting t wishes) {p : Port} (id : String)
    (hp : ∀ ip ∈ p.fixedIps, s.Given t wishes p.networkId ip) :
    s.Granting ((t.addPort p).renamePort p id) wishes := by
  refine h.next rfl (fun _ => Nat.le_refl _) fun {k q} hq => ?_
  change (((t.ports.insert p.id p).erase p.id).insert id { p with id }).get? k = some q at hq
  rw [IdMap.get?_insert, IdMap.erase_insert, IdMap.get?_erase] at hq
  split at hq
  next heq =>
    cases hq
    exact ⟨heq.symm, fun ip hip => .inr (hp ip hip).granted⟩
  next =>
    split at hq
    · cases hq
    · exact ⟨h.own_id hq, fun ip hip => .inl ⟨q, hq, hip⟩⟩

end Granting

/-- The port of a seeded interface has the addresses that it names, or addresses handed out for
it. -/
theorem ends_seedInterface_granting (hown : ∀ {id p}, s.ports.get? id = some p → p.id = id)
    (c : String) (interface : Interface) : (seedInterface c interface).Ends s
      (fun _ t => s.Granting t interface.fixedIps) fun _ t => s.Granting t interface.fixedIps := by
  refine ends_seedInterface_of_made ?_ (fun _ ht => ht.addInstance c)
    fun _ _ ht h => ht.trans (.edited ht.own_id h)
  apply (ends_newPort_given .refl fun wish hwish => .inr hwish).mono
  · intro p t hend
    obtain ⟨u, hu, hgiven, rfl⟩ := hend
    exact ⟨fun _ => .edited hown (hu.addPort hgiven),
      fun id _ => (Granting.edited hown hu).renamed id hgiven⟩
  · exact fun e t ht => .edited hown ht

end AmphoraWiring.Substrate
