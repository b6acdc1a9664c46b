import AmphoraWiring.Proofs.Delta.Entries
import AmphoraWiring.Proofs.Saga.NicChanges
import Mathlib.Data.List.Forall2

/-!
What holds between any two changes of a delta that is being applied, wherever it stops. Other
instances are not affected. On a management network the instance has the ports that it had, and
after them perhaps new ones. On every other network that is not given up each port has kept the
subnets that are to be reached, and has gained none but those.
-/
namespace AmphoraWiring

open Substrate

theorem forall₂_exists_left {r : α → β → Prop} {l : List α} {l' : List β}
    (h : List.Forall₂ r l l') {b : β} (hb : b ∈ l') : ∃ a ∈ l, r a b := by
  induction h with
  | nil => cases hb
  | cons hab _ ih =>
    rcases List.mem_cons.mp hb with rfl | hb
    · exact ⟨_, List.mem_cons_self, hab⟩
    · obtain ⟨a, ha, hr⟩ := ih hb
      exact ⟨a, List.mem_cons_of_mem _ ha, hr⟩

theorem forall₂_exists_right {r : α → β → Prop} {l : List α} {l' : List β}
    (h : List.Forall₂ r l l') {a : α} (ha : a ∈ l) : ∃ b ∈ l', r a b :=
  forall₂_exists_left h.flip ha

theorem forall₂_getLast? {r : α → β → Prop} {l : List α} {l' : List β} (h : List.Forall₂ r l l')
    {a : α} (ha : l.getLast? = some a) : ∃ b, l'.getLast? = some b ∧ r a b := by
  induction h with
  | nil => cases ha
  | @cons x y xs ys hxy hrest ih =>
    cases hrest with
    | nil =>
      cases ha
      exact ⟨y, rfl, hxy⟩
    | cons hxy' hrest' =>
      rw [List.getLast?_cons_cons] at ha ⊢
      exact ih ha

/-- What a delta was computed from: the state at that time, and what an instance is to be led to. -/
structure Plan where
  management : List String
  start : Substrate
  computeId : String
  wanted : Topology
  sound : start.Sound
  exclusive : start.Exclusive

namespace Plan

def delta (plan : Plan) (amphora : Amphora) : Delta :=
  .between amphora plan.wanted (plan.start.attached plan.management plan.computeId)

/-- What may have become of a port on a network: it is the same port, it has kept the subnets that
are to be reached and those whose addresses are kept anyway, and it has gained only subnets that
are to be reached by the network. -/
structure Readdressed (plan : Plan) (networkId : String) (p q : Port) : Prop where
  id : q.id = p.id
  kept : ∀ subnetId, p.hasSubnet subnetId →
    plan.wanted.subnets.contains subnetId ∨ plan.start.keepsAddresses subnetId →
    q.hasSubnet subnetId
  gained : ∀ subnetId, q.hasSubnet subnetId →
    p.hasSubnet subnetId ∨ plan.wanted.subnets.get? subnetId = some networkId

theorem Readdressed.refl (plan : Plan) (networkId : String) (p : Port) :
    plan.Readdressed networkId p p :=
  ⟨rfl, fun _ h _ => h, fun _ h => .inl h⟩

theorem Readdressed.trans {plan : Plan} {networkId : String} {p q r : Port}
    (h : plan.Readdressed networkId p q) (h' : plan.Readdressed networkId q r) :
    plan.Readdressed networkId p r where
  id := h'.id.trans h.id
  kept := fun subnetId hp hneeded => h'.kept subnetId (h.kept subnetId hp hneeded) hneeded
  gained := fun subnetId hr => (h'.gained subnetId hr).elim (h.gained subnetId) .inr

/-- The delta is being applied; the networks in `gone` have been given up. -/
structure Underway (plan : Plan) (gone : List String) (s : Substrate) : Prop where
  sound : s.Sound
  exclusive : s.Exclusive
  sameNetworks : plan.start.SameNetworks s
  drawn : plan.start.drawn ≤ s.drawn
  located : ∀ {id p q}, plan.start.ports.get? id = some p → s.ports.get? id = some q →
    q.networkId = p.networkId
  others : ∀ c ≠ plan.computeId, s.pluggedPorts c = plan.start.pluggedPorts c
  management : ∀ networkId ∈ plan.management,
    plan.start.portsOn plan.computeId networkId <+: s.portsOn plan.computeId networkId
  unwanted : ∀ networkId ∈ plan.management, networkId ∉ plan.wanted.networks →
    s.portsOn plan.computeId networkId = plan.start.portsOn plan.computeId networkId
  kept : ∀ networkId, networkId ∉ plan.management → networkId ∉ gone →
    plan.start.portsOn plan.computeId networkId ≠ [] →
    List.Forall₂ (plan.Readdressed networkId) (plan.start.portsOn plan.computeId networkId)
      (s.portsOn plan.computeId networkId)
  added : ∀ networkId, networkId ∉ plan.management →
    plan.start.portsOn plan.computeId networkId = [] →
    ∀ q ∈ s.portsOn plan.computeId networkId, ∀ subnetId, q.hasSubnet subnetId →
      plan.wanted.subnets.get? subnetId = some networkId
  given_up : ∀ networkId ∈ gone, ∀ q ∈ s.portsOn plan.computeId networkId,
    ∃ p ∈ plan.start.portsOn plan.computeId networkId, plan.Readdressed networkId p q

/-- What a step counts as changed are the carriers of the networks, and on a management network
they are new ports. -/
def Counted (plan : Plan) (s : Substrate) (changed : ChangedPorts) : Prop :=
  ∀ networkId q, changed.get? networkId = some q →
    q.networkId = networkId ∧
    (∃ p, s.carrier plan.computeId networkId = some p ∧ q.id = p.id ∧
      ∀ subnetId, q.hasSubnet subnetId ↔ p.hasSubnet subnetId) ∧
    (networkId ∈ plan.management → plan.start.ports.get? q.id = none)

variable {plan : Plan} {gone : List String} {s t : Substrate} {changed : ChangedPorts}

theorem underway_start (plan : Plan) : plan.Underway [] plan.start where
  sound := plan.sound
  exclusive := plan.exclusive
  sameNetworks := .refl _
  drawn := Nat.le_refl _
  located := by
    intro id p q hp hq
    rw [hp] at hq
    cases hq
    rfl
  others := fun _ _ => rfl
  management := fun _ _ => List.prefix_refl _
  unwanted := fun _ _ _ => rfl
  kept := fun _ _ _ _ => List.forall₂_same.mpr fun p _ => .refl plan _ p
  added := by
    intro networkId _ hnil q hq
    simp [hnil] at hq
  given_up := by
    intro networkId hgone
    cases hgone

theorem counted_empty (plan : Plan) (s : Substrate) : plan.Counted s .empty := by
  intro networkId q h
  cases h

namespace Underway

/-- Calls that leave the attachments of all instances as they are do no harm. -/
theorem of_pluggedPorts (h : plan.Underway gone s) (hs : t.Sound) (hx : t.Exclusive)
    (hsame : s.SameNetworks t) (hdrawn : s.drawn ≤ t.drawn)
    (hlocated : ∀ {id p q}, plan.start.ports.get? id = some p → t.ports.get? id = some q →
      q.networkId = p.networkId)
    (hplugged : ∀ c, t.pluggedPorts c = s.pluggedPorts c) : plan.Underway gone t := by
  have hportsOn : t.portsOn plan.computeId = s.portsOn plan.computeId := by
    funext networkId
    exact portsOn_congr (hplugged plan.computeId) networkId
  constructor
  case sound => exact hs
  case exclusive => exact hx
  case sameNetworks => exact h.sameNetworks.trans hsame
  case drawn => exact Nat.le_trans h.drawn hdrawn
  case located => exact hlocated
  case others =>
    intro c hc
    rw [hplugged, h.others c hc]
  case management =>
    rw [hportsOn]
    exact h.management
  case unwanted =>
    rw [hportsOn]
    exact h.unwanted
  case kept =>
    rw [hportsOn]
    exact h.kept
  case added =>
    rw [hportsOn]
    exact h.added
  case given_up =>
    rw [hportsOn]
    exact h.given_up

theorem samePorts (h : plan.Underway gone s) (hsame : s.SamePorts t) : plan.Underway gone t :=
  h.of_pluggedPorts (hsame.sound h.sound) (hsame.exclusive h.exclusive) hsame.toSameNetworks
    (Nat.le_of_eq hsame.drawn.symm) (fun hp hq => h.located hp (hsame.ports ▸ hq))
    hsame.pluggedPorts

/-- A port that is made on the way did not exist at the start. -/
theorem created_new (h : plan.Underway gone s) {request : PortRequest} {p : Port}
    (hcreated : s.Created request p) : plan.start.ports.get? p.id = none := by
  rw [hcreated.id]
  exact plan.sound.fresh _ (Nat.lt_succ_of_le h.drawn)

/-- Where the ports change on one network only, the plan is kept to if it is kept to there. -/
theorem of_portsOn {gone' : List String} (h : plan.Underway gone s) (networkId : String)
    (sound : t.Sound) (exclusive : t.Exclusive) (sameNetworks : s.SameNetworks t)
    (drawn : s.drawn ≤ t.drawn)
    (located : ∀ {id p q}, plan.start.ports.get? id = some p → t.ports.get? id = some q →
      q.networkId = p.networkId)
    (others : ∀ c ≠ plan.computeId, t.pluggedPorts c = s.pluggedPorts c)
    (hother : ∀ n ≠ networkId,
      (n ∈ gone' ↔ n ∈ gone) ∧ t.portsOn plan.computeId n = s.portsOn plan.computeId n)
    (management : networkId ∈ plan.management →
      plan.start.portsOn plan.computeId networkId <+: t.portsOn plan.computeId networkId)
    (unwanted : networkId ∈ plan.management → networkId ∉ plan.wanted.networks →
      t.portsOn plan.computeId networkId = plan.start.portsOn plan.computeId networkId)
    (kept : networkId ∉ plan.management → networkId ∉ gone' →
      plan.start.portsOn plan.computeId networkId ≠ [] →
      List.Forall₂ (plan.Readdressed networkId) (plan.start.portsOn plan.computeId networkId)
        (t.portsOn plan.computeId networkId))
    (added : networkId ∉ plan.management → plan.start.portsOn plan.computeId networkId = [] →
      ∀ q ∈ t.portsOn plan.computeId networkId, ∀ subnetId, q.hasSubnet subnetId →
        plan.wanted.subnets.get? subnetId = some networkId)
    (given_up : networkId ∈ gone' → ∀ q ∈ t.portsOn plan.computeId networkId,
      ∃ p ∈ plan.start.portsOn plan.computeId networkId, plan.Readdressed networkId p q) :
    plan.Underway gone' t := by
  -- everywhere else the facts are those about the state before
  have hcases : ∀ n, n = networkId ∨ (n ≠ networkId ∧ (n ∈ gone' ↔ n ∈ gone) ∧
      t.portsOn plan.computeId n = s.portsOn plan.computeId n) := fun n =>
    (eq_or_ne n networkId).imp_right fun hn => ⟨hn, hother n hn⟩
  constructor
  case sound => exact sound
  case exclusive => exact exclusive
  case sameNetworks => exact h.sameNetworks.trans sameNetworks
  case drawn => exact Nat.le_trans h.drawn drawn
  case located => exact located
  case others => exact fun c hc => (others c hc).trans (h.others c hc)
  case management =>
    intro n
    obtain rfl | ⟨-, -, hports⟩ := hcases n
    · exact management
    · rw [hports]
      exact h.management n
  case unwanted =>
    intro n
    obtain rfl | ⟨-, -, hports⟩ := hcases n
    · exact unwanted
    · rw [hports]
      exact h.unwanted n
  case kept =>
    intro n
    obtain rfl | ⟨-, hgone, hports⟩ := hcases n
    · exact kept
    · rw [hgone, hports]
      exact h.kept n
  case added =>
    intro n
    obtain rfl | ⟨-, -, hports⟩ := hcases n
    · exact added
    · rw [hports]
      exact h.added n
  case given_up =>
    intro n
    obtain rfl | ⟨-, hgone, hports⟩ := hcases n
    · exact given_up
    · rw [hgone, hports]
      exact h.given_up n

/-- A new port appears on a network that is to be reached. -/
theorem adopts (h : plan.Underway [] s) {request : PortRequest} {p : Port}
    (hadopts : s.Adopts t request plan.computeId p)
    (hwanted : request.networkId ∈ plan.wanted.networks)
    (hfree : request.networkId ∈ plan.management ∨
      plan.start.portsOn plan.computeId request.networkId = [])
    (hsubnets : ∀ subnetId, p.hasSubnet subnetId →
      plan.wanted.subnets.get? subnetId = some request.networkId) : plan.Underway [] t := by
  have hself : t.portsOn plan.computeId request.networkId =
      s.portsOn plan.computeId request.networkId ++
        [{ p with deviceId := some plan.computeId }] := by
    rw [hadopts.portsOn h.sound, if_pos ⟨rfl, rfl⟩]
  apply h.of_portsOn request.networkId
  case sound => exact hadopts.sound h.sound
  case exclusive => exact hadopts.exclusive h.sound h.exclusive
  case sameNetworks => exact hadopts.sameNetworks
  case drawn =>
    rw [hadopts.drawn]
    exact Nat.le_succ _
  case located =>
    intro id p₀ q hp₀ hq
    have hne : id ≠ p.id := by
      intro h
      subst h
      simp [h.created_new hadopts.created] at hp₀
    rw [hadopts.get?, if_neg hne] at hq
    exact h.located hp₀ hq
  case others =>
    intro c hc
    rw [hadopts.pluggedPorts h.sound, if_neg hc]
  case hother =>
    intro n hn
    rw [hadopts.portsOn h.sound, if_neg fun hboth => hn hboth.2]
    exact ⟨.rfl, rfl⟩
  case management =>
    intro hmanagement
    rw [hself]
    exact (h.management _ hmanagement).trans (List.prefix_append _ _)
  case unwanted => exact fun _ hunwanted => absurd hwanted hunwanted
  case kept => exact fun hmanagement _ hports => (hfree.elim hmanagement hports).elim
  case added =>
    intro hmanagement hports q hq subnetId hsubnet
    rw [hself] at hq
    rcases List.mem_append.mp hq with hq | hq
    · exact h.added _ hmanagement hports q hq subnetId hsubnet
    · rw [List.mem_singleton.mp hq] at hsubnet
      exact hsubnets subnetId hsubnet
  case given_up =>
    intro hgone
    cases hgone

/-- An interface that could not be added leaves nothing plugged in but a port of its own. -/
theorem created (h : plan.Underway gone s) {request : PortRequest} {u : Substrate} {p : Port}
    (hserving : s.Serving u request) (hcreated : s.Created request p) :
    plan.Underway gone (u.addPort p) ∧ plan.Underway gone ((u.addPort p).removePort p.id) := by
  obtain ⟨ids, hallocating, -⟩ := hserving
  have hu := h.samePorts hallocating.samePorts
  have hid : p.id = drawnId (u.drawn + 1) := hallocating.samePorts.drawn ▸ hcreated.id
  have hnew : u.ports.get? p.id = none := hid ▸ hu.sound.next_is_new
  have hadded : (u.addPort p).Sound := by
    refine hu.sound.addPort hid fun ip hip => ?_
    exact hallocating.sameNetworks.registered.mpr (hcreated.registered ip hip)
  have hget : ∀ {id q}, (u.addPort p).ports.get? id = some q → id ≠ p.id →
      u.ports.get? id = some q := by
    intro id q hq hne
    change (u.ports.insert p.id p).get? id = _ at hq
    rwa [IdMap.get?_insert, if_neg hne] at hq
  have hlocated : ∀ {id p₀ q}, plan.start.ports.get? id = some p₀ →
      (u.addPort p).ports.get? id = some q → q.networkId = p₀.networkId := by
    intro id p₀ q hp₀ hq
    have hne : id ≠ p.id := by
      intro h
      subst h
      simp [h.created_new hcreated] at hp₀
    exact hu.located hp₀ (hget hq hne)
  constructor
  · exact hu.of_pluggedPorts hadded hu.exclusive (.addPort u p) (Nat.le_succ _) hlocated
      fun c => pluggedPorts_addPort hu.sound hnew c
  · refine hu.of_pluggedPorts (hadded.removePort p.id) (Exclusive.removePort hu.exclusive p.id)
      (.trans (.addPort u p) (.removePort _ p.id)) (Nat.le_succ _) ?_ fun c => ?_
    · intro id p₀ q hp₀ hq
      rw [get?_ports_removePort] at hq
      split at hq
      · cases hq
      · exact hlocated hp₀ hq
    · rw [pluggedPorts_removePort hadded, pluggedPorts_addPort hu.sound hnew, List.filter_eq_self]
      intro q hq
      have hne : q.id ≠ p.id := by
        intro heq
        obtain ⟨-, hgetq⟩ := hu.sound.mem_pluggedPorts.mp hq
        rw [heq, hnew] at hgetq
        cases hgetq
      simpa using hne

/-- The port under the id changes its addresses, but not against the plan. -/
theorem amended (h : plan.Underway [] s) {id networkId : String} {f : Port → Port}
    (hamended : s.Amended t id f) (hsound : t.Sound) (hsame : s.SameNetworks t)
    (hnet : ∀ p, (f p).networkId = p.networkId)
    (hon : ∀ p, s.ports.get? id = some p → p.networkId = networkId)
    (happart : ∀ c ≠ plan.computeId, id ∉ s.pluggedPortIds c)
    (hmanagement : networkId ∈ plan.management →
      networkId ∈ plan.wanted.networks ∧ plan.start.ports.get? id = none)
    (hreaddressed : ∀ q, plan.Readdressed networkId q (f q)) : plan.Underway [] t := by
  have hself := hamended.portsOn h.sound hnet plan.computeId networkId
  have hchange : ∀ q, plan.Readdressed networkId q (onPort id f q) := by
    intro q
    unfold onPort
    split
    · exact hreaddressed q
    · exact .refl plan networkId q
  apply h.of_portsOn networkId
  case sound => exact hsound
  case exclusive => exact hamended.exclusive h.exclusive
  case sameNetworks => exact hsame
  case drawn => exact Nat.le_of_eq hamended.drawn.symm
  case located =>
    intro k p q hp hq
    rw [hamended.get?] at hq
    split at hq
    · obtain ⟨q', hq', rfl⟩ := Option.map_eq_some_iff.mp hq
      rw [hnet]
      exact h.located hp hq'
    · exact h.located hp hq
  case others => exact fun c hc => hamended.pluggedPorts_eq_self h.sound (happart c hc)
  case hother =>
    intro n hn
    refine ⟨.rfl, hamended.portsOn_eq_self h.sound hnet fun p hp heq => ?_⟩
    obtain ⟨-, hget, hnetp⟩ := h.sound.mem_portsOn.mp hp
    exact hn (hnetp.symm.trans (hon p (heq ▸ hget)))
  case management =>
    intro hn
    -- the port was made on the way, so those that were there at the start are not changed
    have hfixed : (plan.start.portsOn plan.computeId networkId).map (onPort id f) =
        plan.start.portsOn plan.computeId networkId := by
      apply map_onPort_of_ne
      intro p hp heq
      obtain ⟨-, hget, -⟩ := plan.sound.mem_portsOn.mp hp
      rw [heq, (hmanagement hn).2] at hget
      cases hget
    rw [hself, ← hfixed]
    exact (h.management networkId hn).map _
  case unwanted => exact fun hn hunwanted => absurd (hmanagement hn).1 hunwanted
  case kept =>
    intro hn hgone hports
    rw [hself, List.forall₂_map_right_iff]
    exact (h.kept networkId hn hgone hports).imp fun p q hpq => hpq.trans (hchange q)
  case added =>
    intro hn hports q hq subnetId hsubnet
    rw [hself] at hq
    obtain ⟨q', hq', rfl⟩ := List.mem_map.mp hq
    rcases (hchange q').gained subnetId hsubnet with hold | hnew
    · exact h.added networkId hn hports q' hq' subnetId hold
    · exact hnew
  case given_up =>
    intro hgone
    cases hgone

/-- The instance gives up a network that it is not to reach. -/
theorem removal (h : plan.Underway gone s) {networkId : String} {portId : Option String}
    (hremoval : s.Removal t plan.computeId networkId portId)
    (hmanagement : networkId ∉ plan.management)
    (hon : ∀ id, portId = some id → ∀ p, s.ports.get? id = some p → p.networkId = networkId)
    (happart : ∀ id, portId = some id → ∀ c ≠ plan.computeId, id ∉ s.pluggedPortIds c)
    (hports : plan.start.portsOn plan.computeId networkId ≠ []) :
    plan.Underway (networkId :: gone) t := by
  apply h.of_portsOn networkId
  case sound => exact hremoval.sound h.sound
  case exclusive => exact hremoval.exclusive h.exclusive
  case sameNetworks => exact hremoval.sameNetworks
  case drawn => exact Nat.le_of_eq hremoval.drawn.symm
  case located =>
    intro id p q hp hq
    obtain ⟨q', hq', hnet⟩ := hremoval.get? hq
    rw [hnet]
    exact h.located hp hq'
  case others =>
    exact fun c hc => hremoval.pluggedPorts_other h.sound h.exclusive hc
      fun id hid => happart id hid c hc
  case hother =>
    intro n hn
    exact ⟨List.mem_cons.trans (or_iff_right hn), hremoval.portsOn_of_ne h.sound h.exclusive hn hon⟩
  case management => exact fun hn => absurd hn hmanagement
  case unwanted => exact fun hn => absurd hn hmanagement
  case kept => exact fun _ hgone => absurd List.mem_cons_self hgone
  case added => exact fun _ hnil => absurd hnil hports
  case given_up =>
    intro _ q hq
    have hq' := (hremoval.portsOn_sublist h.sound).subset hq
    by_cases hgone : networkId ∈ gone
    · exact h.given_up networkId hgone q hq'
    · exact forall₂_exists_left (h.kept networkId hmanagement hgone hports) hq'

end Underway

end Plan

end AmphoraWiring
