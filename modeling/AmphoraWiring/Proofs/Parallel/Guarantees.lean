import AmphoraWiring.Proofs.Parallel.Calls
import AmphoraWiring.Proofs.Parallel.Sides

/-!
What the calls of a thread guarantee, one after the other. Most only look something up and change
nothing that anyone could see. The others make a port, work on ports of the share, or change records
of the amphora.
-/
namespace AmphoraWiring

open Action Substrate Deployment

namespace Share

variable {share : Share}

/-- The share with a port that was made. -/
def take (share : Share) (id : String) : Share := { share with ids := id :: share.ids }

/-- The share when an address was taken. -/
def spend (share : Share) (subnetId : String) : Share :=
  { share with
    budget := fun id => if id = subnetId then share.budget id - 1 else share.budget id }

theorem spend_of_spends {s t : Substrate} {subnetId : String} (h : s.Spends t [subnetId])
    (hbudget : 1 ≤ share.budget subnetId) (id : String) : s.allocated id ≤ t.allocated id ∧
      t.allocated id + (share.spend subnetId).budget id ≤ s.allocated id + share.budget id := by
  obtain ⟨hlow, hhigh⟩ := h id
  refine ⟨hlow, ?_⟩
  rw [List.count_singleton] at hhigh
  by_cases hid : id = subnetId
  · subst hid
    simp only [spend, if_true]
    simp only [beq_self_eq_true, if_true] at hhigh
    omega
  · have hne : (subnetId == id) = false := by simpa using Ne.symm hid
    simp only [spend, if_neg hid]
    simp only [hne, Bool.false_eq_true, if_false] at hhigh
    omega

theorem same_of_spends {s t : Substrate} (h : s.Spends t []) (id : String) :
    s.allocated id ≤ t.allocated id ∧
      t.allocated id + share.budget id ≤ s.allocated id + share.budget id := by
  obtain ⟨hlow, hhigh⟩ := h id
  rw [List.count_nil] at hhigh
  omega

end Share

namespace Side

variable {x : Side} {share share' : Share} {d d' : Deployment}

/-- A call that works on ports of the share gives the guarantee, if it leaves the deployment in
order. -/
theorem Holds.guarantee (h : x.Holds share d) (hmore : ∀ id ∈ share.ids, id ∈ share'.ids)
    (htouches : d.substrate.Touches (· ∈ share'.ids) x.computeId d'.substrate)
    (hids : ∀ id ∈ share'.ids, id ∈ share.ids ∨
      ∃ n, d.substrate.drawn < n ∧ n ≤ d'.substrate.drawn ∧ id = drawnId n)
    (hdrawn : d.substrate.drawn ≤ d'.substrate.drawn)
    (hrecords : ∀ keep : MemberPortBinding → Bool,
      (∀ b, keep b = true → b.amphoraId ≠ x.amphoraId ∧ b.portId ∉ x.gives) →
      d'.repository.bindings.filter keep = d.repository.bindings.filter keep)
    (hunbound : ∀ id ∉ share'.ids, ¬ d.repository.Bound id → ¬ d'.repository.Bound id)
    (hamphorae : d'.repository.amphorae = d.repository.amphorae)
    (hinstances : d.substrate.KeepsInstances d'.substrate)
    (hspends : ∀ id, d.substrate.allocated id ≤ d'.substrate.allocated id ∧
      d'.substrate.allocated id + share'.budget id ≤ d.substrate.allocated id + share.budget id)
    (hsame : d.substrate.SameNetworks d'.substrate) (hsound : d'.substrate.Sound)
    (hcapable : d'.Capable) : x.Guarantee share share' d d' where
  touches := htouches
  ids id hid := (hids id hid).imp_right fun hnew =>
    hnew.imp fun _ hn => ⟨hn.1, hn.2.2⟩
  drawn := hdrawn
  records := hrecords
  unbound := hunbound
  amphorae := hamphorae
  instances := hinstances
  spends := hspends
  holds := by
    constructor
    case sound => exact hsound
    case capable => exact hcapable
    case sameNetworks => exact h.sameNetworks.trans hsame
    case hosted => exact hinstances _ h.hosted
    case listed =>
      intro id hid
      rcases htouches.listed id hid with hid | hid
      · exact hmore id (h.listed id hid)
      · exact hid
    case former => exact fun id hid => hmore id (h.former id hid)
    case drawn =>
      intro id hid n hn heq
      rcases hids id hid with hid | ⟨m, -, hm, rfl⟩
      · exact h.drawn id hid n (Nat.lt_of_le_of_lt hdrawn hn) heq
      · have hsame := drawnId_injective heq
        omega
    case strange => exact fun id hid n hn => h.strange id hid n (Nat.lt_of_le_of_lt hdrawn hn)
    case fresh => exact fun n hn => h.fresh n (Nat.lt_of_le_of_lt hdrawn hn)
    case room =>
      intro id
      exact (h.room id).later hsame.subnets (hspends id).1 (hspends id).2

/-- A change of ports of the share. -/
theorem Holds.changes {t : Substrate} {budget : String → Nat} (h : x.Holds share d)
    (htouches : d.substrate.Touches (· ∈ share.ids) x.computeId t)
    (hdrawn : t.drawn = d.substrate.drawn)
    (hports : ∀ {id q}, t.ports.get? id = some q →
      ∃ p, d.substrate.ports.get? id = some p ∧ q.networkId = p.networkId)
    (hinstances : d.substrate.KeepsInstances t)
    (hspends : ∀ id, d.substrate.allocated id ≤ t.allocated id ∧
      t.allocated id + budget id ≤ d.substrate.allocated id + share.budget id)
    (hsame : d.substrate.SameNetworks t) (hsound : t.Sound) :
    x.Guarantee share ⟨share.ids, budget⟩ d { d with substrate := t } := by
  have hcapable : Capable { d with substrate := t } :=
    h.capable.of_removed hsame hdrawn hports (.inl (.refl _))
  exact h.guarantee (fun _ hid => hid) htouches (fun _ hid => .inl hid) (Nat.le_of_eq hdrawn.symm)
    (fun _ _ => rfl) (fun _ _ hunbound => hunbound) rfl hinstances hspends hsame hsound hcapable

/-- A change of records, all of them of ports of the share. -/
theorem Holds.notes {r : Repository} (h : x.Holds share d)
    (hrecords : ∀ keep : MemberPortBinding → Bool,
      (∀ b, keep b = true → b.amphoraId ≠ x.amphoraId ∧ b.portId ∉ x.gives) →
      r.bindings.filter keep = d.repository.bindings.filter keep)
    (hunbound : ∀ id ∉ share.ids, ¬ d.repository.Bound id → ¬ r.Bound id)
    (hamphorae : r.amphorae = d.repository.amphorae) (hharmless : r.Harmless) :
    x.Guarantee share share d { d with repository := r } := by
  refine h.guarantee (fun _ hid => hid) (.refl _) (fun _ hid => .inl hid) (Nat.le_refl _)
    hrecords hunbound hamphorae (fun _ hc => hc) (Share.same_of_spends (spends_of_allocations rfl))
    (.refl _) h.sound ⟨h.capable.faults, hharmless, ?_, h.capable.networked⟩
  intro n hn
  exact hunbound _ (fun hid => h.drawn _ hid n hn rfl) (h.capable.unbound n hn)

/-! Calls that only look something up -/

theorem Holds.heard {s : Substrate} {r : Repository} (h : x.Holds share d)
    (hs : d.substrate.Heard s) (hr : d.repository.Heard r) (audit : AuditLog) :
    x.Guarantee share share d ⟨s, r, audit⟩ ∧ x.Rely share d ⟨s, r, audit⟩ := by
  have hcapable : Capable ⟨s, r, audit⟩ := by
    refine h.capable.of_removed hs.sameNetworks hs.drawn (fun hq => ?_) (.inl hr)
    rw [hs.ports] at hq
    exact ⟨_, hq, rfl⟩
  have hguarantee : x.Guarantee share share d ⟨s, r, audit⟩ := by
    refine h.guarantee (fun _ hid => hid) (.of_samePorts hs.samePorts) (fun _ hid => .inl hid)
      (Nat.le_of_eq hs.drawn.symm) (fun _ _ => ?_) (fun id _ hunbound => ?_) hr.amphorae
      (keepsInstances_of_plugged hs.plugged)
      (Share.same_of_spends (spends_of_allocations hs.allocations)) hs.sameNetworks
      (hs.sound h.sound) hcapable
    · rw [hr.bindings]
    · rwa [hr.bound_iff]
  refine ⟨hguarantee, ⟨?_, fun id _ => ?_, ?_, fun id _ hunbound => ?_, hr.amphorae⟩,
    hguarantee.holds⟩
  · exact hs.samePorts.pluggedPortIds _
  · rw [hs.ports]
  · rw [hr.bindings]
  · rwa [hr.bound_iff]

end Side

namespace Thread

open Side

variable {α : Type} {x : Side} {share : Share} {d : Deployment}

/-- A call to the substrate is secured by what it does wherever it is made. -/
theorem secured_onSubstrate {call : Substrate.Call α}
    {post : Except NetworkError α → Share → Deployment → Prop}
    (h : ∀ d', x.Rely share d d' → call.Ends d'.substrate
      (fun a t => ∃ share', x.Guarantee share share' d' { d' with substrate := t } ∧
        ∀ d'', x.Rely share' { d' with substrate := t } d'' → post (.ok a) share' d'')
      fun e t => ∃ share', x.Guarantee share share' d' { d' with substrate := t } ∧
        ∀ d'', x.Rely share' { d' with substrate := t } d'' → post (.error e) share' d'') :
    (onSubstrate call).Secured x post share d := by
  intro d' hrely
  have hend := h d' hrely
  rw [Request.perform_substrate]
  rcases hrun : call.runOn d'.substrate with ⟨e | a, t⟩
  · exact hend.of_error hrun
  · exact hend.of_ok hrun

theorem secured_onRepository {call : Repository.Call α}
    {post : Except NetworkError α → Share → Deployment → Prop}
    (h : ∀ d', x.Rely share d d' → call.Ends d'.repository
      (fun a r => ∃ share', x.Guarantee share share' d' { d' with repository := r } ∧
        ∀ d'', x.Rely share' { d' with repository := r } d'' → post (.ok a) share' d'')
      fun e r => ∃ share', x.Guarantee share share' d' { d' with repository := r } ∧
        ∀ d'', x.Rely share' { d' with repository := r } d'' →
          post (.error (.store e)) share' d'') :
    (onRepository call).Secured x post share d := by
  intro d' hrely
  have hend := h d' hrely
  rw [Request.perform_repository]
  rcases hrun : call.runOn d'.repository with ⟨e | a, r⟩
  · exact hend.of_error hrun
  · exact hend.of_ok hrun

/-- The thread has changed nothing that its side could see, and has come to a value. -/
def Looked (x : Side) (share : Share) (d : Deployment) (found : α → Prop) :
    Except NetworkError α → Share → Deployment → Prop :=
  Done fun a share' d' => share' = share ∧ x.Rely share d d' ∧ found a

/-- A call that is only heard gives the guarantee, and its side goes on seeing what it saw. -/
theorem looked_of_heard {d' : Deployment} {s : Substrate} {r : Repository} {audit : AuditLog}
    {found : α → Prop} {a : α} (hrely : x.Rely share d d') (hs : d'.substrate.Heard s)
    (hr : d'.repository.Heard r) (hfound : found a) :
    ∃ share', x.Guarantee share share' d' ⟨s, r, audit⟩ ∧
      ∀ d'', x.Rely share' ⟨s, r, audit⟩ d'' → Looked x share d found (.ok a) share' d'' := by
  obtain ⟨hguarantee, hsteady⟩ := hrely.holds.heard hs hr audit
  exact ⟨share, hguarantee, fun d'' hrely' =>
    ⟨a, rfl, rfl, hrely.trans (hsteady.trans hrely'), hfound⟩⟩

theorem secured_record (f : AuditLog → AuditLog) :
    (record f).Secured x (Looked x share d fun _ => True) share d :=
  fun _ hrely => looked_of_heard hrely (.refl _) (.refl _) trivial

theorem secured_look {call : Substrate.Call α} {found : α → Prop}
    (h : ∀ d', x.Rely share d d' → call.Ends d'.substrate
      (fun a t => d'.substrate.Heard t ∧ found a) fun _ _ => False) :
    (onSubstrate call).Secured x (Looked x share d found) share d :=
  secured_onSubstrate fun d' hrely => (h d' hrely).mono
    (fun _ _ hend => looked_of_heard hrely hend.1 (.refl _) hend.2) fun _ _ hend => hend.elim

theorem secured_getAmphora {id : String} {amphora : Amphora}
    (hstored : d.repository.amphorae.get? id = some amphora) :
    (onRepository (Repository.getAmphora id)).Secured x (Looked x share d (· = amphora)) share
      d := by
  refine secured_onRepository fun d' hrely => (Repository.ends_getAmphora_stored
    hrely.holds.capable.harmless (hrely.steady.amphorae ▸ hstored)).mono ?_ fun _ _ h => h.elim
  intro a r hend
  obtain ⟨rfl, hr⟩ := hend
  exact looked_of_heard hrely (.refl _) hr rfl

/-- What follows a lookup finds what its side could see before it. -/
theorem Secured.looked {β : Type} {thread : Thread α} {rest : α → Thread β} {found : α → Prop}
    {post : Except NetworkError β → Share → Deployment → Prop}
    (h : thread.Secured x (Looked x share d found) share d)
    (hrest : ∀ a d', x.Rely share d d' → found a → (rest a).Secured x post share d') :
    Secured x post (thread >>= rest) share d := by
  refine h.followed fun a share' d' hlooked => ?_
  obtain ⟨rfl, hrely, hfound⟩ := hlooked
  exact hrest a d' hrely hfound

/-- One lookup after the other. -/
theorem secured_look_bind {β : Type} {thread : Thread α} {rest : α → Thread β} {found : α → Prop}
    {found' : β → Prop} (h : thread.Secured x (Looked x share d found) share d)
    (hrest : ∀ a d', x.Rely share d d' → found a →
      (rest a).Secured x (Looked x share d' found') share d') :
    Secured x (Looked x share d found') (thread >>= rest) share d := by
  refine h.looked fun a d' hrely hfound => (hrest a d' hrely hfound).mono ?_
  intro result share' d'' hlooked
  obtain ⟨b, rfl, hshare, hrely', hfound'⟩ := hlooked
  exact ⟨b, rfl, hshare, hrely.trans hrely', hfound'⟩

theorem secured_look_pure {a : α} {found : α → Prop} (h : found a) :
    Secured x (Looked x share d found) (pure a) share d :=
  secured_pure fun _ hrely => ⟨a, rfl, rfl, hrely, h⟩

theorem secured_fillFixedIp {ip : FixedIp}
    (hip : ∃ networkId, x.start.Registered ip.subnetId networkId) :
    (fillFixedIp ip).Secured x (Looked x share d fun q => q.subnetId = ip.subnetId) share d := by
  have hsubnet : (onSubstrate (Substrate.getSubnet ip.subnetId)).Secured x
      (Looked x share d fun _ => True) share d := by
    refine secured_look fun d' hrely => (ends_getSubnet ip.subnetId _).mono ?_ ?_
    · exact fun _ _ hend => ⟨hend.1, trivial⟩
    · intro e t hend
      obtain ⟨n, hn⟩ := hip
      obtain ⟨subnet, hget, -⟩ := hrely.holds.sameNetworks.registered.mpr hn
      simp [hend.2 hrely.holds.capable.faults] at hget
  exact secured_look_bind hsubnet fun subnet d' _ _ => secured_look_pure rfl

theorem secured_fillFixedIps {ips : List FixedIp}
    (hips : ∀ ip ∈ ips, ∃ networkId, x.start.Registered ip.subnetId networkId) :
    Secured x (Looked x share d fun qs => qs.map (·.subnetId) = ips.map (·.subnetId))
      (ips.mapM fillFixedIp) share d := by
  induction ips generalizing d with
  | nil => exact secured_look_pure rfl
  | cons ip ips ih =>
    rw [List.mapM_cons]
    refine secured_look_bind (secured_fillFixedIp (hips ip List.mem_cons_self)) ?_
    intro q d' _ hq
    refine secured_look_bind (ih fun ip hip => hips ip (List.mem_cons_of_mem _ hip)) ?_
    intro qs d'' _ hqs
    exact secured_look_pure (by simp [hq, hqs])

/-- Filling in the details of a port changes nothing. -/
theorem secured_fillPort {p : Port} (hp : Fillable x.start p) :
    (fillPort p).Secured x (Looked x share d p.Matches) share d := by
  have hnetwork : (onSubstrate (Substrate.getNetwork p.networkId)).Secured x
      (Looked x share d fun _ => True) share d := by
    refine secured_look fun d' hrely => (ends_getNetwork p.networkId _).mono ?_ ?_
    · exact fun _ _ hend => ⟨hend.1, trivial⟩
    · intro e t hend
      obtain ⟨network, hget⟩ := hp.network
      rw [← hrely.holds.sameNetworks.networks, hend.2 hrely.holds.capable.faults] at hget
      cases hget
  refine secured_look_bind hnetwork fun network d' _ _ => ?_
  refine secured_look_bind (secured_fillFixedIps hp.subnets) fun ips d'' _ hips => ?_
  exact secured_look_pure ⟨rfl, rfl, hips⟩

end Thread

end AmphoraWiring
