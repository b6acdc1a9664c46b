import AmphoraWiring.Proofs.Parallel.Threads
import AmphoraWiring.Proofs.Saga.Capability
import AmphoraWiring.Proofs.Substrate.Locality

/-!
Two threads that work for different instances. Each has a share of the deployment: the ports that
it works on, among them all that its instance lists, and so many addresses of each subnet. What a
thread relies on is that the other one leaves alone what it sees of its share; what it guarantees in
turn is that it works on its own ports and takes its own addresses only. A thread that is secured in
this sense comes to the same end beside any other that is.
-/
namespace AmphoraWiring

open Action Substrate

/-- A side works for an amphora on its instance, from the substrate where it started. It forgets the
records of the ports that it gives up, and is not concerned with those of ports that others give
up. -/
structure Side where
  start : Substrate
  computeId : String
  amphoraId : String
  gives : List String
  others : List String

structure Share where
  ids : List String
  budget : String → Nat

/-- What a side sees: the ports of its instance and the records of its amphora. -/
structure View where
  ports : List Port
  records : List MemberPortBinding

namespace Side

variable {x y : Side} {mine theirs share share' : Share} {d d' d'' : Deployment}

def owns (x : Side) (b : MemberPortBinding) : Bool :=
  b.amphoraId = x.amphoraId && !x.others.contains b.portId

theorem owns_iff {b : MemberPortBinding} :
    x.owns b = true ↔ b.amphoraId = x.amphoraId ∧ b.portId ∉ x.others := by
  simp [owns]

def view (x : Side) (d : Deployment) : View where
  ports := d.substrate.pluggedPorts x.computeId
  records := d.repository.bindings.filter x.owns

/-- Nothing stands in the way of the side, its instance lists ports of its share only, and there is
room for the addresses of its share. -/
structure Holds (x : Side) (share : Share) (d : Deployment) : Prop where
  sound : d.substrate.Sound
  capable : d.Capable
  sameNetworks : x.start.SameNetworks d.substrate
  hosted : d.substrate.plugged.contains x.computeId
  listed : ∀ id ∈ d.substrate.pluggedPortIds x.computeId, id ∈ share.ids
  former : ∀ id ∈ x.start.pluggedPortIds x.computeId, id ∈ share.ids
  drawn : ∀ id ∈ share.ids, ∀ n, d.substrate.drawn < n → id ≠ drawnId n
  strange : ∀ id ∈ x.others, ∀ n, d.substrate.drawn < n → id ≠ drawnId n
  fresh : ∀ n, d.substrate.drawn < n → x.start.ports.get? (drawnId n) = none
  room : ∀ subnetId, d.substrate.Room subnetId (share.budget subnetId)

/-- Between `d` and `d'` nothing has changed that the side could see. -/
structure Steady (x : Side) (share : Share) (d d' : Deployment) : Prop where
  listed : d'.substrate.pluggedPortIds x.computeId = d.substrate.pluggedPortIds x.computeId
  ports : ∀ id ∈ share.ids, d'.substrate.ports.get? id = d.substrate.ports.get? id
  records : d'.repository.bindings.filter x.owns = d.repository.bindings.filter x.owns
  unbound : ∀ id ∈ share.ids, ¬ d.repository.Bound id → ¬ d'.repository.Bound id
  amphorae : d'.repository.amphorae = d.repository.amphorae

/-- What the side relies on while it makes no call. -/
structure Rely (x : Side) (share : Share) (d d' : Deployment) : Prop where
  steady : x.Steady share d d'
  holds : x.Holds share d'

/-- What a call of the side guarantees: it works on ports of the share, to which only new ones are
added, and changes records of such ports only; of the addresses it takes its own. -/
structure Guarantee (x : Side) (share share' : Share) (d d' : Deployment) : Prop where
  touches : d.substrate.Touches (· ∈ share'.ids) x.computeId d'.substrate
  ids : ∀ id ∈ share'.ids, id ∈ share.ids ∨ ∃ n, d.substrate.drawn < n ∧ id = drawnId n
  drawn : d.substrate.drawn ≤ d'.substrate.drawn
  records : ∀ keep : MemberPortBinding → Bool,
    (∀ b, keep b = true → b.amphoraId ≠ x.amphoraId ∧ b.portId ∉ x.gives) →
    d'.repository.bindings.filter keep = d.repository.bindings.filter keep
  unbound : ∀ id ∉ share'.ids, ¬ d.repository.Bound id → ¬ d'.repository.Bound id
  amphorae : d'.repository.amphorae = d.repository.amphorae
  instances : d.substrate.KeepsInstances d'.substrate
  spends : ∀ subnetId, d.substrate.allocated subnetId ≤ d'.substrate.allocated subnetId ∧
    d'.substrate.allocated subnetId + share'.budget subnetId ≤
      d.substrate.allocated subnetId + share.budget subnetId
  holds : x.Holds share' d'

theorem Steady.trans (h : x.Steady share d d') (h' : x.Steady share d' d'') :
    x.Steady share d d'' where
  listed := h'.listed.trans h.listed
  ports id hid := (h'.ports id hid).trans (h.ports id hid)
  records := h'.records.trans h.records
  unbound id hid hunbound := h'.unbound id hid (h.unbound id hid hunbound)
  amphorae := h'.amphorae.trans h.amphorae

theorem Rely.trans (h : x.Rely share d d') (h' : x.Rely share d' d'') : x.Rely share d d'' :=
  ⟨h.steady.trans h'.steady, h'.holds⟩

theorem Holds.rely (h : x.Holds share d) : x.Rely share d d :=
  ⟨⟨rfl, fun _ _ => rfl, rfl, fun _ _ h => h, rfl⟩, h⟩

/-- What the other thread does is not seen on this side. -/
theorem Rely.view_eq (h : x.Rely share d d') : x.view d' = x.view d := by
  have hports : d'.substrate.pluggedPorts x.computeId = d.substrate.pluggedPorts x.computeId :=
    pluggedPorts_congr h.steady.listed fun id hid =>
      h.steady.ports id (h.holds.listed id (h.steady.listed ▸ hid))
  simp only [view, hports, h.steady.records]

end Side

namespace Thread

variable {α β γ : Type} {x : Side} {share share' : Share} {d d' : Deployment}
  {post post' : Except NetworkError α → Share → Deployment → Prop}

/-- Beside anything that it relies on, the thread gives its guarantee with every call, and what
holds in the end keeps holding. -/
def Secured (x : Side) (post : Except NetworkError α → Share → Deployment → Prop) :
    Thread α → Share → Deployment → Prop
  | .ended result, share, d => ∀ d', x.Rely share d d' → post result share d'
  | .call request next, share, d => ∀ d', x.Rely share d d' → ∃ share',
      x.Guarantee share share' d' (request.perform d').2 ∧
      Secured x post (next (request.perform d').1) share' (request.perform d').2

/-- What is secured stays so, whatever the other thread does first. -/
theorem Secured.later {thread : Thread α} (h : thread.Secured x post share d)
    (hrely : x.Rely share d d') : thread.Secured x post share d' := by
  cases thread with
  | ended result => exact fun d'' hrely' => h d'' (hrely.trans hrely')
  | call request next => exact fun d'' hrely' => h d'' (hrely.trans hrely')

theorem secured_of_later {thread : Thread α}
    (h : ∀ d', x.Rely share d d' → thread.Secured x post share d') :
    thread.Secured x post share d := by
  cases thread with
  | ended result => exact fun d' hrely => h d' hrely d' hrely.holds.rely
  | call request next => exact fun d' hrely => h d' hrely d' hrely.holds.rely

theorem Secured.mono {thread : Thread α} (h : thread.Secured x post share d)
    (himp : ∀ result share d, post result share d → post' result share d) :
    thread.Secured x post' share d := by
  induction thread generalizing share d with
  | ended result => exact fun d' hrely => himp _ _ _ (h d' hrely)
  | call request next ih =>
    intro d' hrely
    obtain ⟨share', hguarantee, hnext⟩ := h d' hrely
    exact ⟨share', hguarantee, ih _ hnext⟩

theorem secured_pure {a : α} (h : ∀ d', x.Rely share d d' → post (.ok a) share d') :
    Secured x post (pure a) share d := h

/-- What follows is secured from whatever the first part ends with. -/
theorem Secured.bind {thread : Thread α} {rest : α → Thread β}
    {post' : Except NetworkError β → Share → Deployment → Prop}
    (h : thread.Secured x post share d)
    (hok : ∀ a share d, post (.ok a) share d → (rest a).Secured x post' share d)
    (hbad : ∀ e share d, post (.error e) share d → post' (.error e) share d) :
    Secured x post' (thread >>= rest) share d := by
  change (thread.bind rest).Secured x post' share d
  induction thread generalizing share d with
  | ended result =>
    cases result with
    | ok a => exact secured_of_later fun d' hrely => hok a share d' (h d' hrely)
    | error e => exact fun d' hrely => hbad e share d' (h d' hrely)
  | call request next ih =>
    intro d' hrely
    obtain ⟨share', hguarantee, hnext⟩ := h d' hrely
    exact ⟨share', hguarantee, ih _ hnext⟩

/-- The thread has come to a value for which `post` holds. -/
def Done (post : α → Share → Deployment → Prop) (result : Except NetworkError α) (share : Share)
    (d : Deployment) : Prop :=
  ∃ a, result = .ok a ∧ post a share d

/-- What follows a thread that cannot fail is secured from what that one has come to. -/
theorem Secured.followed {thread : Thread α} {rest : α → Thread β}
    {post : α → Share → Deployment → Prop}
    {post' : Except NetworkError β → Share → Deployment → Prop}
    (h : thread.Secured x (Done post) share d)
    (hrest : ∀ a share d, post a share d → (rest a).Secured x post' share d) :
    Secured x post' (thread >>= rest) share d := by
  refine h.bind ?_ ?_
  · intro a share' d' hdone
    obtain ⟨a', heq, hpost⟩ := hdone
    cases heq
    exact hrest a share' d' hpost
  · intro e share' d' hdone
    obtain ⟨a, heq, -⟩ := hdone
    cases heq

/-- A loop keeps an invariant that may depend on what is still to be done. -/
theorem secured_foldlM {f : β → γ → Thread β} {inv : List γ → β → Share → Deployment → Prop}
    (hlater : ∀ {rest b share d d'}, inv rest b share d → x.Rely share d d' → inv rest b share d')
    (hstep : ∀ e rest b share d, inv (e :: rest) b share d →
      (f b e).Secured x (Done (inv rest)) share d)
    {l : List γ} {b : β} (h : inv l b share d) :
    Secured x (Done (inv [])) (l.foldlM f b) share d := by
  induction l generalizing b share d with
  | nil => exact secured_pure fun d' hrely => ⟨b, rfl, hlater h hrely⟩
  | cons e rest ih =>
    rw [List.foldlM_cons]
    exact (hstep e rest b share d h).followed fun b' share' d' h' => ih h'

theorem Secured.outcome {thread : Thread α} (h : thread.Secured x post share d) :
    thread.outcome.Secured x (Done post) share d := by
  induction thread generalizing share d with
  | ended result => exact fun d' hrely => ⟨result, rfl, h d' hrely⟩
  | call request next ih =>
    intro d' hrely
    obtain ⟨share', hguarantee, hnext⟩ := h d' hrely
    exact ⟨share', hguarantee, ih _ hnext⟩

/-- Alone the thread comes to an end that it is secured for. -/
theorem Secured.finish {thread : Thread α} (h : thread.Secured x post share d)
    (hd : x.Holds share d) : ∃ share', post (thread.finish d).1 share' (thread.finish d).2 := by
  induction thread generalizing share d with
  | ended result => exact ⟨share, h d hd.rely⟩
  | call request next ih =>
    obtain ⟨share', hguarantee, hnext⟩ := h d hd.rely
    exact ih _ hnext hguarantee.holds

end Thread

namespace Side

variable {x y : Side} {mine mine' theirs : Share} {d d' : Deployment}

/-- The sides work for different amphorae on different instances, and each knows which ports the
other gives up. -/
structure Apart (x y : Side) : Prop where
  start : y.start = x.start
  computeId : y.computeId ≠ x.computeId
  amphoraId : y.amphoraId ≠ x.amphoraId
  gives : y.others = x.gives

/-- The shares have no port in common, and there is room for the addresses of both. -/
structure Joint (x y : Side) (mine theirs : Share) (d : Deployment) : Prop where
  left : x.Holds mine d
  right : y.Holds theirs d
  disjoint : ∀ id ∈ mine.ids, id ∉ theirs.ids
  room : ∀ subnetId, d.substrate.Room subnetId (mine.budget subnetId + theirs.budget subnetId)

theorem Joint.symm (h : Joint x y mine theirs d) : Joint y x theirs mine d where
  left := h.right
  right := h.left
  disjoint id hid hid' := h.disjoint id hid' hid
  room subnetId := Nat.add_comm _ _ ▸ h.room subnetId

theorem Joint.next_disjoint (h : Joint x y mine theirs d)
    (hguarantee : x.Guarantee mine mine' d d') : ∀ id ∈ mine'.ids, id ∉ theirs.ids := by
  intro id hid hid'
  rcases hguarantee.ids id hid with hid | ⟨n, hn, rfl⟩
  · exact h.disjoint id hid hid'
  · exact h.right.drawn _ hid' n hn rfl

variable (hapart : Apart x y) (h : Joint x y mine theirs d)
  (hguarantee : x.Guarantee mine mine' d d')

include hapart h hguarantee

theorem Joint.next_plugged :
    d'.substrate.plugged.get? y.computeId = d.substrate.plugged.get? y.computeId :=
  hguarantee.touches.lists y.computeId hapart.computeId fun id hid hown =>
    h.next_disjoint hguarantee id hown (h.right.listed id hid)

theorem Joint.next_listed :
    d'.substrate.pluggedPortIds y.computeId = d.substrate.pluggedPortIds y.computeId := by
  simp only [pluggedPortIds, h.next_plugged hapart hguarantee]

/-- What one side guarantees is what the other relies on. -/
theorem Joint.rely : y.Rely theirs d d' := by
  have hdisjoint := h.next_disjoint hguarantee
  have hlisted := h.next_listed hapart hguarantee
  have hmine := hguarantee.holds
  constructor
  case steady =>
    constructor
    case listed => exact hlisted
    case ports => exact fun id hid => hguarantee.touches.ports id fun hown => hdisjoint id hown hid
    case records =>
      refine hguarantee.records y.owns fun b hb => ?_
      obtain ⟨hamphora, hport⟩ := owns_iff.mp hb
      exact ⟨hamphora ▸ hapart.amphoraId, hapart.gives ▸ hport⟩
    case unbound => exact fun id hid => hguarantee.unbound id fun hown => hdisjoint id hown hid
    case amphorae => exact hguarantee.amphorae
  case holds =>
    constructor
    case sound => exact hmine.sound
    case capable => exact hmine.capable
    case sameNetworks => exact hapart.start ▸ hmine.sameNetworks
    case hosted => exact hguarantee.instances y.computeId h.right.hosted
    case listed => exact fun id hid => h.right.listed id (hlisted ▸ hid)
    case former => exact h.right.former
    case drawn =>
      exact fun id hid n hn => h.right.drawn id hid n (Nat.lt_of_le_of_lt hguarantee.drawn hn)
    case strange =>
      exact fun id hid n hn => h.right.strange id hid n (Nat.lt_of_le_of_lt hguarantee.drawn hn)
    case fresh => exact fun n hn => h.right.fresh n (Nat.lt_of_le_of_lt hguarantee.drawn hn)
    case room =>
      intro subnetId
      obtain ⟨hlow, hhigh⟩ := hguarantee.spends subnetId
      have hsubnets : d'.substrate.subnets = d.substrate.subnets :=
        hmine.sameNetworks.subnets.trans h.left.sameNetworks.subnets.symm
      exact (h.room subnetId).later hsubnets hlow (by omega)

theorem Joint.next : Joint x y mine' theirs d' where
  left := hguarantee.holds
  right := (h.rely hapart hguarantee).holds
  disjoint := h.next_disjoint hguarantee
  room subnetId := by
    obtain ⟨hlow, hhigh⟩ := hguarantee.spends subnetId
    have hsubnets : d'.substrate.subnets = d.substrate.subnets :=
      hguarantee.holds.sameNetworks.subnets.trans h.left.sameNetworks.subnets.symm
    exact (h.room subnetId).later hsubnets hlow (by omega)

end Side

namespace Thread

open Side

variable {α β : Type} {x y : Side} {mine theirs : Share} {d : Deployment}
  {post : Except NetworkError α → Share → Deployment → Prop}
  {post' : Except NetworkError β → Share → Deployment → Prop}

/-- Running one thread to its end leaves the other as secured as it was. -/
theorem Secured.finish_beside {thread : Thread α} {other : Thread β} (hapart : Apart x y)
    (h : thread.Secured x post mine d) (h' : other.Secured y post' theirs d)
    (hd : Joint x y mine theirs d) : ∃ mine', Joint x y mine' theirs (thread.finish d).2 ∧
      (Thread.ended (thread.finish d).1).Secured x post mine' (thread.finish d).2 ∧
      other.Secured y post' theirs (thread.finish d).2 := by
  induction thread generalizing mine d with
  | ended result => exact ⟨mine, hd, h, h'⟩
  | call request next ih =>
    obtain ⟨mine', hguarantee, hnext⟩ := h d hd.left.rely
    exact ih _ hnext (h'.later (hd.rely hapart hguarantee)) (hd.next hapart hguarantee)

/-- However the calls of two secured threads are interleaved, both come to an end that they are
secured for. -/
theorem interleave_secured {left : Thread α} {right : Thread β} (hapart : Apart x y)
    (hapart' : Apart y x) (turns : List Turn) (hleft : left.Secured x post mine d)
    (hright : right.Secured y post' theirs d) (hd : Joint x y mine theirs d) :
    ∃ mine' theirs', Joint x y mine' theirs' (interleave turns left right d).2 ∧
      post (interleave turns left right d).1.1 mine' (interleave turns left right d).2 ∧
      post' (interleave turns left right d).1.2 theirs' (interleave turns left right d).2 := by
  induction turns generalizing left right mine theirs d with
  | nil =>
    obtain ⟨mine', hd', hleft', hright'⟩ := hleft.finish_beside hapart hright hd
    obtain ⟨theirs', hd'', hright'', hleft''⟩ :=
      hright'.finish_beside hapart' hleft' hd'.symm
    exact ⟨mine', theirs', hd''.symm, hleft'' _ hd''.right.rely, hright'' _ hd''.left.rely⟩
  | cons turn turns ih =>
    cases turn with
    | left =>
      cases left with
      | ended result => exact ih hleft hright hd
      | call request next =>
        obtain ⟨mine', hguarantee, hnext⟩ := hleft d hd.left.rely
        exact ih hnext (hright.later (hd.rely hapart hguarantee)) (hd.next hapart hguarantee)
    | right =>
      cases right with
      | ended result => exact ih hleft hright hd
      | call request next =>
        obtain ⟨theirs', hguarantee, hnext⟩ := hright d hd.right.rely
        have hrely := hd.symm.rely hapart' hguarantee
        exact ih (hleft.later hrely) hnext (hd.symm.next hapart' hguarantee).symm

end Thread

end AmphoraWiring
