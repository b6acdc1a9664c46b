import AmphoraWiring.Proofs.Substrate.Commands
import AmphoraWiring.Proofs.Substrate.VipAddresses

/-!
What calls are made of. A call changes the substrate in steps of a few kinds, and it gives a port no
address but one that was asked for by name in the call or handed out while it ran. So what each kind
of step keeps, every call keeps, wherever it stops.
-/
namespace AmphoraWiring

/-- One of the wishes names the address on the subnet. -/
def Named (wishes : List FixedIp) (subnetId : String) (a : Address) : Prop :=
  ∃ wish ∈ wishes, wish.subnetId = subnetId ∧ wish.ipAddress = some a

theorem Named.mono {wishes wishes' : List FixedIp} {subnetId : String} {a : Address}
    (h : Named wishes subnetId a) (hsub : wishes ⊆ wishes') : Named wishes' subnetId a :=
  h.imp fun _ h => ⟨hsub h.1, h.2⟩

/-- A change of ports that leaves them their ids and networks and adds no address. -/
def AddsNoAddress (f : Port → Port) : Prop :=
  ∀ p, (f p).id = p.id ∧ (f p).networkId = p.networkId ∧ (f p).fixedIps ⊆ p.fixedIps

namespace Substrate

open Action

variable {s t u : Substrate} {wishes : List FixedIp}

/-- The address was asked for by name, or it was handed out between `s` and `t`. -/
def Granted (s t : Substrate) (wishes : List FixedIp) (ip : FixedIp) : Prop :=
  ∀ a, ip.ipAddress = some a → Named wishes ip.subnetId a ∨
    ∃ n, s.allocated ip.subnetId < n ∧ n ≤ t.allocated ip.subnetId ∧ s.HostOf ip.subnetId n a

/-- The address was granted, and its subnet is one of the network. -/
structure Given (s t : Substrate) (wishes : List FixedIp) (networkId : String) (ip : FixedIp) :
    Prop where
  registered : t.Registered ip.subnetId networkId
  granted : s.Granted t wishes ip

/-- Where a port that is to be stored in `t` has its addresses from: each was given to it, or the
port that is stored with the same id has it. -/
def Backed (s t : Substrate) (wishes : List FixedIp) (p : Port) : Prop :=
  ∀ ip ∈ p.fixedIps, s.Given t wishes p.networkId ip ∨
    ∃ id q, t.ports.get? id = some q ∧ q.id = p.id ∧ q.networkId = p.networkId ∧ ip ∈ q.fixedIps

/-- One step of a call that began in `s`, asking for the wishes, and has come to `t`. -/
inductive Edit (s : Substrate) (wishes : List FixedIp) (t : Substrate) : Substrate → Prop where
  | journaled (entry : JournalEntry) :
      Edit s wishes t { t with journal := t.journal ++ [entry] }
  | failed {op : Operation} {e : NetworkError} {faults : List ScriptedFault}
      (hdue : takeFault op t.faults = some (e, faults)) : Edit s wishes t { t with faults }
  | handedOut {u : Substrate} {ids : List String} (h : t.Allocating u ids) : Edit s wishes t u
  | drawn (drawn : Nat) : Edit s wishes t { t with drawn }
  | grouped (securityGroups : IdMap SecurityGroup) : Edit s wishes t { t with securityGroups }
  | goingDown (id : String) (left : Nat)
      (h : t.pendingDown.contains id ∨ t.ports.contains id) :
      Edit s wishes t { t with pendingDown := t.pendingDown.insert id left }
  | notGoingDown (id : String) :
      Edit s wishes t { t with pendingDown := t.pendingDown.erase id }
  | stored (p : Port) (hp : s.Backed t wishes p) :
      Edit s wishes t { t with ports := t.ports.insert p.id p }
  | amended (id : String) (f : Port → Port) (hid : ∀ p, (f p).id = p.id)
      (hf : ∀ p, t.ports.get? id = some p → s.Backed t wishes (f p)) :
      Edit s wishes t (t.amend id f)
  | attached (c id : String) (h : t.ports.contains id) : Edit s wishes t (t.attach c id)
  | detached (c networkId : String) : Edit s wishes t (t.detach c networkId)
  | removed (id : String) : Edit s wishes t (t.removePort id)

/-- What a call that began in `s`, asking for the wishes, may have come to. -/
inductive Edited (s : Substrate) (wishes : List FixedIp) : Substrate → Prop where
  | refl : Edited s wishes s
  | tail {t u : Substrate} (h : Edited s wishes t) (h' : Edit s wishes t u) : Edited s wishes u

/-- No step of a call changes the subnets. -/
theorem Edit.subnets (h : Edit s wishes t u) : u.subnets = t.subnets := by
  cases h with
  | handedOut h => exact h.sameNetworks.subnets
  | _ => rfl

theorem Edit.counted (h : Edit s wishes t u) (id : String) : t.allocated id ≤ u.allocated id := by
  cases h with
  | handedOut h =>
    obtain ⟨m, -, hcount⟩ := h
    exact (hcount id).1
  | _ => exact Nat.le_refl _

theorem Edited.subnets (h : s.Edited wishes t) : t.subnets = s.subnets := by
  induction h with
  | refl => rfl
  | tail _ h' ih => exact h'.subnets.trans ih

/-- Addresses that were handed out are not handed out again. -/
theorem Edited.counted (h : s.Edited wishes t) (id : String) : s.allocated id ≤ t.allocated id := by
  induction h with
  | refl => exact Nat.le_refl _
  | tail _ h' ih => exact Nat.le_trans ih (h'.counted id)

/-- What was granted stays granted when more is handed out. -/
theorem Granted.mono {ip : FixedIp} (h : s.Granted t wishes ip)
    (hcount : ∀ id, t.allocated id ≤ u.allocated id) : s.Granted u wishes ip := by
  intro a ha
  rcases h a ha with hnamed | ⟨n, hlow, hhigh, hhost⟩
  · exact .inl hnamed
  · exact .inr ⟨n, hlow, Nat.le_trans hhigh (hcount _), hhost⟩

theorem Given.edit {networkId : String} {ip : FixedIp} (h : s.Given t wishes networkId ip)
    (h' : Edit s wishes t u) : s.Given u wishes networkId ip := by
  refine ⟨?_, h.granted.mono h'.counted⟩
  unfold Registered
  rw [h'.subnets]
  exact h.registered

namespace Backed

variable {p : Port}

theorem of_fewer {id : String} {q : Port} (hq : t.ports.get? id = some q) (hid : q.id = p.id)
    (hnetwork : q.networkId = p.networkId) (hfewer : p.fixedIps ⊆ q.fixedIps) :
    s.Backed t wishes p :=
  fun _ hip => .inr ⟨id, q, hq, hid, hnetwork, hfewer hip⟩

/-- A port has its addresses from where it had them, whatever else is handed out. -/
theorem handedOut {ids : List String} (h : s.Backed t wishes p) (h' : t.Allocating u ids) :
    s.Backed u wishes p := by
  intro ip hip
  rcases h ip hip with hgiven | ⟨id, q, hq, hsame⟩
  · exact .inl (hgiven.edit (.handedOut h'))
  · exact .inr ⟨id, q, h'.samePorts.ports ▸ hq, hsame⟩

theorem addIp {ip : FixedIp} (h : s.Backed t wishes p) (hip : s.Given t wishes p.networkId ip) :
    s.Backed t wishes (p.addIps [ip]) := by
  intro q hq
  rcases List.mem_append.mp hq with hold | hnew
  · exact h q hold
  · exact .inl (List.mem_singleton.mp hnew ▸ hip)

end Backed

namespace Edited

theorem amend (h : s.Edited wishes t) (id : String) {f : Port → Port} (hf : AddsNoAddress f) :
    s.Edited wishes (t.amend id f) :=
  h.tail (.amended id f (fun p => (hf p).1) fun p hp =>
    .of_fewer hp (hf p).1.symm (hf p).2.1.symm (hf p).2.2)

theorem addPort (h : s.Edited wishes t) {p : Port}
    (hp : ∀ ip ∈ p.fixedIps, s.Given t wishes p.networkId ip) : s.Edited wishes (t.addPort p) :=
  (h.tail (.stored p fun ip hip => .inl (hp ip hip))).tail (.drawn (t.drawn + 1))

theorem removeBasePort (h : s.Edited wishes t) (amphora : Amphora) :
    s.Edited wishes (t.removeBasePort amphora) := by
  unfold Substrate.removeBasePort
  split
  · exact h.tail (.removed _)
  · exact h

end Edited

/-! Addresses -/

/-- An address that a call chooses was handed out in it. -/
theorem Chosen.granted {wish ip : FixedIp} (h : t.Chosen u wish ip) (hst : s.Edited wishes t)
    (hwish : wish.ipAddress = none ∨ wish ∈ wishes) : s.Granted u wishes ip := by
  intro a ha
  have hsubnet : ip.subnetId = wish.subnetId := h.answers.subnetId
  cases hnamed : wish.ipAddress with
  | some b =>
    cases (h.answers.address b hnamed).symm.trans ha
    rcases hwish with hnone | hwish
    · cases hnamed.symm.trans hnone
    · exact .inl ⟨wish, hwish, hsubnet.symm, hnamed⟩
  | none =>
    have hout := h.handedOut hnamed
    rw [ha] at hout
    cases hout with
    | next _ hhost hcount =>
      refine .inr ⟨t.allocated wish.subnetId + 1, ?_, ?_, ?_⟩
      · rw [hsubnet]
        exact Nat.lt_succ_of_le (hst.counted _)
      · exact Nat.le_of_eq (by rw [hsubnet, hcount])
      · rw [hsubnet]
        exact hhost.of_subnets hst.subnets.symm

/-- A wish is granted by name, or with an address that is handed out. -/
theorem ends_resolveFixedIp_given (h : s.Edited wishes t) (networkId : String) {wish : FixedIp}
    (hwish : wish.ipAddress = none ∨ wish ∈ wishes) : (resolveFixedIp networkId wish).Ends t
      (fun ip u => t.Allocating u [wish.subnetId] ∧ s.Given u wishes networkId ip)
      fun _ u => t.Allocating u [wish.subnetId] := by
  apply (ends_resolveFixedIp_iff networkId wish t).mono
  · intro ip u hend
    obtain ⟨hallocating, hchosen, hregistered, -⟩ := hend
    refine ⟨hallocating, ?_, hchosen.granted h hwish⟩
    rw [hallocating.sameNetworks.registered, hchosen.answers.subnetId]
    exact hregistered
  · exact fun e u hend => hend.1

theorem ends_resolveFixedIps_given (h : s.Edited wishes t) (networkId : String)
    {asked : List FixedIp} (hasked : ∀ wish ∈ asked, wish.ipAddress = none ∨ wish ∈ wishes) :
    (resolveFixedIps networkId asked).Ends t
      (fun ips u => s.Edited wishes u ∧ ∀ ip ∈ ips, s.Given u wishes networkId ip)
      fun _ u => s.Edited wishes u := by
  induction asked generalizing t with
  | nil => exact ends_pure ⟨h, by simp⟩
  | cons wish asked ih =>
    obtain ⟨hwish, hasked⟩ := List.forall_mem_cons.mp hasked
    refine (ends_resolveFixedIp_given h networkId hwish).bind ?_
      (fun _ _ h' => h.tail (.handedOut h'))
    intro ip u hend
    obtain ⟨hallocating, hip⟩ := hend
    refine ((ih (h.tail (.handedOut hallocating)) hasked).and
      (ends_resolveFixedIps networkId asked u)).bind ?_ (fun _ _ h => h.1)
    intro ips v hend
    obtain ⟨⟨hv, hips⟩, hmore, -⟩ := hend
    exact ends_pure ⟨hv, List.forall_mem_cons.mpr ⟨hip.edit (.handedOut hmore), hips⟩⟩

/-- A new port has the addresses that its request asks for by name, and others that are handed
out. -/
theorem ends_newPort_given (h : s.Edited wishes t) {request : PortRequest}
    (hasked : ∀ wish ∈ request.fixedIps, wish.ipAddress = none ∨ wish ∈ wishes) :
    (newPort request).Ends t
      (fun p u => ∃ v : Substrate, s.Edited wishes v ∧
        (∀ ip ∈ p.fixedIps, s.Given v wishes p.networkId ip) ∧ u = v.addPort p)
      fun _ u => s.Edited wishes u := by
  have hips (network : Network) : (resolveFixedIps request.networkId
      (PortRequest.wishes request network)).Ends t
        (fun ips u => s.Edited wishes u ∧ ∀ ip ∈ ips, s.Given u wishes request.networkId ip)
        fun _ u => s.Edited wishes u := by
    refine ends_resolveFixedIps_given h request.networkId fun wish hwish => ?_
    unfold PortRequest.wishes at hwish
    split at hwish
    · obtain ⟨id, -, rfl⟩ := List.mem_map.mp hwish
      exact .inl rfl
    · exact hasked wish hwish
  refine (ends_newPort_resolved (fun _ _ => h) fun network _ => hips network).imp_ok ?_
  intro p u hend
  obtain ⟨ips, v, ⟨hv, hgiven⟩, rfl, rfl⟩ := hend
  exact ⟨v, hv, hgiven, rfl⟩

/-- The addresses that are added to a virtual port were given to it. -/
theorem ends_addVips_backed {p : Port} {extras : List AdditionalVip} (h : s.Edited wishes t)
    (hp : s.Backed t wishes p) (hextras : ∀ extra ∈ extras, extra.fixedIp ∈ wishes) :
    (addVips p extras).Ends t (fun r u => s.Edited wishes u ∧ s.Backed u wishes r.1)
      fun _ u => s.Edited wishes u := by
  induction extras generalizing p t with
  | nil => exact ends_pure ⟨h, hp⟩
  | cons extra extras ih =>
    obtain ⟨hextra, hextras⟩ := List.forall_mem_cons.mp hextras
    unfold addVips
    split
    next =>
      exact ends_bind_of_ok rfl ((ih h hp hextras).bind (fun _ _ h => ends_pure h) fun _ _ h => h)
    next =>
      refine (ends_resolveFixedIp_given h p.networkId (.inr hextra)).bind ?_
        (fun _ _ h' => h.tail (.handedOut h'))
      intro ip u hend
      obtain ⟨hallocating, hip⟩ := hend
      have hmore : s.Backed u wishes (p.addIps [ip]) := (hp.handedOut hallocating).addIp hip
      exact (ih (h.tail (.handedOut hallocating)) hmore hextras).bind (fun _ _ h => ends_pure h)
        fun _ _ h => h

/-! Calls -/

/-- From `t` the call goes on, however it ends, in steps of a call that began in `s`. -/
def Edits (s t : Substrate) (wishes : List FixedIp) (call : Call α) : Prop :=
  call.Ends t (fun _ u => s.Edited wishes u) fun _ u => s.Edited wishes u

theorem Edits.drop {call : Call α} (h : s.Edits t wishes call) :
    s.Edits t wishes (do let _ ← call) :=
  Ends.drop h

/-- Steps follow steps. -/
theorem Edits.bind {call : Call α} {rest : α → Call β} (h : s.Edits t wishes call)
    (hrest : ∀ (a : α) (u : Substrate), s.Edited wishes u → s.Edits u wishes (rest a)) :
    s.Edits t wishes (call >>= rest) :=
  Ends.bind h hrest fun _ _ h => h

/-- A call is journaled, and then the first failure that is scripted for it is taken. -/
theorem ends_begin (op : Operation) (target : String) (s : Substrate) : (begin op target).Ends s
    (fun _ t => takeFault op s.faults = none ∧
      t = { s with journal := s.journal ++ [⟨op, target⟩] })
    fun e t => ∃ faults, takeFault op s.faults = some (e, faults) ∧
      t = { s with journal := s.journal ++ [⟨op, target⟩], faults } := by
  apply (ends_runOn (begin op target) s).mono
  · intro a t hrun
    cases htake : takeFault op s.faults with
    | none =>
      simp only [runOn, begin, htake] at hrun
      cases hrun
      exact ⟨rfl, rfl⟩
    | some due =>
      simp only [runOn, begin, htake] at hrun
      cases hrun
  · intro e t hrun
    cases htake : takeFault op s.faults with
    | none =>
      simp only [runOn, begin, htake] at hrun
      cases hrun
    | some due =>
      simp only [runOn, begin, htake] at hrun
      cases hrun
      exact ⟨due.2, rfl, rfl⟩

theorem edits_begin (h : s.Edited wishes t) (op : Operation) (target : String) :
    s.Edits t wishes (begin op target) := by
  have hjournaled : s.Edited wishes { t with journal := t.journal ++ [⟨op, target⟩] } :=
    h.tail (.journaled _)
  apply (ends_begin op target t).mono
  · intro a u hend
    obtain ⟨-, rfl⟩ := hend
    exact hjournaled
  · intro e u hend
    obtain ⟨faults, hdue, rfl⟩ := hend
    exact hjournaled.tail (.failed hdue)

/-- A call is journaled, and it may take a failure, before it does its work. -/
theorem edits_call (h : s.Edited wishes t) {op : Operation} {target : String} {rest : Call α}
    (hrest : ∀ u : Substrate, s.Edited wishes u → s.Edits u wishes rest) :
    s.Edits t wishes (do begin op target; rest) :=
  (edits_begin h op target).bind fun _ => hrest

theorem edits_of_state {call : Call α} (h : s.Edited wishes t)
    (hcall : call.Ends t (fun _ u => u = t) fun _ u => u = t) : s.Edits t wishes call :=
  hcall.mono (fun _ _ heq => heq ▸ h) fun _ _ heq => heq ▸ h

theorem edits_portById (h : s.Edited wishes t) (id : String) : s.Edits t wishes (portById id) :=
  edits_of_state h ((ends_portById id t).mono (fun _ _ h => h.1) fun _ _ h => h.1)

/-- A change that adds no address is a step. -/
theorem edits_updatePort (h : s.Edited wishes t) {id : String} {f : Port → Port}
    (hf : AddsNoAddress f) : s.Edits t wishes (updatePort id f) :=
  (ends_updatePort id f t).mono (fun _ _ hend => hend.1 ▸ h.amend id hf)
    fun _ _ hend => hend.1 ▸ h

theorem edits_plug (h : s.Edited wishes t) (c id : String) : s.Edits t wishes (plug c id) := by
  apply (ends_plug c id t).mono
  · intro a u hend
    obtain ⟨rfl, -, p, hp⟩ := hend
    exact h.tail (.attached c id (IdMap.contains_iff.mpr ⟨p, hp⟩))
  · exact fun e u hend => hend.1 ▸ h

/-- The port of the address is stored again with what further addresses it is given. -/
theorem edits_answerVip (h : s.Edited wishes t) {lb : LoadBalancer} {p : Port}
    (hp : s.Backed t wishes p) (hextras : ∀ extra ∈ lb.additionalVips, extra.fixedIp ∈ wishes) :
    s.Edits t wishes (answerVip lb p) := by
  refine (ends_addVips_backed h hp hextras).bind ?_ (fun _ _ h => h)
  intro r u hend
  obtain ⟨hu, hbacked⟩ := hend
  exact ends_modify (ends_pure (hu.tail (.stored _ hbacked)))

/-- The wishes of an allocation are those of the load balancer. -/
theorem edits_allocateVip (h : s.Edited wishes t) {lb : LoadBalancer}
    (hwishes : lb.wishes ⊆ wishes) : s.Edits t wishes (allocateVip lb) := by
  obtain ⟨hown, hextras⟩ := List.cons_subset.mp hwishes
  have hextras : ∀ extra ∈ lb.additionalVips, extra.fixedIp ∈ wishes :=
    fun extra hextra => hextras (List.mem_map_of_mem hextra)
  rw [allocateVip_eq]
  refine edits_call h fun u hu => ends_get ?_
  cases hport : u.vipPort? lb.vip with
  | some p =>
    obtain ⟨id, -, hp⟩ := Option.bind_eq_some_iff.mp hport
    exact edits_answerVip hu (.of_fewer hp rfl rfl fun _ hip => hip) hextras
  | none =>
    refine (ends_newPort_given hu ?_).bind ?_ (fun _ _ h => h)
    · intro wish hwish
      rw [List.mem_singleton.mp hwish]
      exact .inr hown
    · intro p w hend
      obtain ⟨v, hv, hgiven, rfl⟩ := hend
      have hstored : (v.addPort p).ports.get? p.id = some p := IdMap.get?_insert_self _ _ _
      exact edits_answerVip (hv.addPort hgiven)
        (.of_fewer hstored rfl rfl fun _ hip => hip) hextras

theorem edits_plugBase (h : s.Edited wishes t) (vip : Vip) (amphora : Amphora) (c id : String) :
    s.Edits t wishes (plugBase vip amphora c id) :=
  (edits_plug h c id).bind fun _ _ h => ends_get (ends_pure h)

/-- The base port is found or made, and plugged in. -/
theorem edits_plugAapPort (h : s.Edited wishes t) (vip : Vip) (amphora : Amphora)
    (subnet : Subnet) : s.Edits t wishes (plugAapPort vip amphora subnet) := by
  rw [plugAapPort_eq]
  refine edits_call h fun u hu => ?_
  refine (ends_orFail _ amphora.computeId u).bind ?_ (fun _ _ hend => hend.1 ▸ hu)
  intro c u' hend
  obtain ⟨rfl, -⟩ := hend
  refine (ends_portsOfInstance c u').bind ?_ (fun _ _ hend => hend.1 ▸ hu)
  intro ids v hend
  obtain ⟨rfl, -, -⟩ := hend
  apply ends_get
  cases v.basePortOf amphora with
  | some id => exact edits_plugBase hu vip amphora c id
  | none =>
    refine (ends_newPort_given hu ?_).bind ?_ (fun _ _ h => h)
    · intro wish hwish
      rw [List.mem_singleton.mp hwish]
      exact .inl rfl
    · intro p x hend
      obtain ⟨w, hw, hgiven, rfl⟩ := hend
      exact edits_plugBase (hw.addPort hgiven) vip amphora c p.id

theorem edits_getPort (h : s.Edited wishes t) (id : String) : s.Edits t wishes (getPort id) := by
  refine edits_call h fun u hu => ends_get ?_
  cases hpending : u.pendingDown.get? id with
  | none => exact edits_portById hu id
  | some left =>
    cases left with
    | zero =>
      exact ends_modify (edits_updatePort (hu.tail (.notGoingDown id))
        fun _ => ⟨rfl, rfl, fun _ hip => hip⟩)
    | succ left =>
      have hcounts : u.pendingDown.contains id := IdMap.contains_iff.mpr ⟨_, hpending⟩
      exact ends_modify (edits_portById (hu.tail (.goingDown id left (.inl hcounts))) id)

theorem edits_setPortAdminStateUp (h : s.Edited wishes t) (id : String) (up : Bool) :
    s.Edits t wishes (setPortAdminStateUp id up) := by
  refine edits_call h fun u hu => ?_
  have hadmin : AddsNoAddress fun p => { p with adminStateUp := up } :=
    fun _ => ⟨rfl, rfl, fun _ hip => hip⟩
  refine (ends_updatePort id _ u).bind ?_ (fun _ _ hend => hend.1 ▸ hu)
  intro port v hend
  obtain ⟨rfl, p, hp, -⟩ := hend
  have hv := hu.amend id hadmin
  cases up with
  | true =>
    exact ends_modify (edits_updatePort (hv.tail (.notGoingDown id))
      fun _ => ⟨rfl, rfl, fun _ hip => hip⟩)
  | false =>
    apply ends_get
    change Ends (if _ then _ else _) _ _ _
    split
    · have hexists : (u.amend id fun p => { p with adminStateUp := false }).ports.contains id :=
        IdMap.contains_iff.mpr ⟨{ p with adminStateUp := false }, by
          simp [Substrate.amend, IdMap.get?_modify, hp]⟩
      exact ends_modify (ends_pure (hv.tail (.goingDown id _ (.inr hexists))))
    · exact edits_updatePort hv fun _ => ⟨rfl, rfl, fun _ hip => hip⟩

theorem edits_plugFixedIp (h : s.Edited wishes t) (id subnetId : String) :
    s.Edits t wishes (plugFixedIp id subnetId) := by
  refine edits_call h fun u hu => ?_
  refine (ends_portById id u).bind ?_ (fun _ _ hend => hend.1 ▸ hu)
  intro port v hend
  obtain ⟨rfl, hport⟩ := hend
  split
  · exact ends_pure hu
  refine (ends_resolveFixedIp_given hu port.networkId (.inl rfl)).bind ?_
    (fun _ _ h' => hu.tail (.handedOut h'))
  intro ip w hend
  obtain ⟨hallocating, hip⟩ := hend
  have hw : s.Edited wishes w := hu.tail (.handedOut hallocating)
  apply (ends_updatePort id _ w).mono
  · intro q x hend
    rw [hend.1]
    refine hw.tail (.amended id _ (fun _ => rfl) fun p hp => ?_)
    -- only counts have changed since the port was read
    have hsame : p = port := by
      rw [hallocating.samePorts.ports, hport] at hp
      exact (Option.some.inj hp).symm
    subst hsame
    have hold : s.Backed w wishes p := .of_fewer hp rfl rfl fun _ hip => hip
    exact hold.addIp hip
  · exact fun e x hend => hend.1 ▸ hw

theorem edits_unplugFixedIp (h : s.Edited wishes t) (id subnetId : String) :
    s.Edits t wishes (unplugFixedIp id subnetId) := by
  refine edits_call h fun u hu => ends_get ?_
  split
  · exact edits_portById hu id
  · exact edits_updatePort hu fun _ => ⟨rfl, rfl, fun _ hip => List.mem_of_mem_filter hip⟩

theorem edits_unplugNetwork (h : s.Edited wishes t) (c networkId : String) :
    s.Edits t wishes (unplugNetwork c networkId) := by
  refine edits_call h fun u hu => ?_
  refine (ends_portsOfInstance c u).bind ?_ (fun _ _ hend => hend.1 ▸ hu)
  intro ids v hend
  obtain ⟨rfl, rfl, -⟩ := hend
  apply ends_get
  change Ends (if (v.idsOn c networkId).isEmpty then _ else _) _ _ _
  split
  · exact ends_throw_bind hu
  · exact ends_modify_last (hu.tail (.detached c networkId))

theorem addsNoAddress_withGroup (groupId : String) : AddsNoAddress (withGroup groupId) := by
  intro p
  unfold withGroup
  split
  · exact ⟨rfl, rfl, fun _ hip => hip⟩
  · exact ⟨rfl, rfl, fun _ hip => hip⟩

theorem edits_ensureSecurityGroup (h : s.Edited wishes t) (name : String) :
    s.Edits t wishes (ensureSecurityGroup name) := by
  apply ends_get
  cases t.securityGroups.get? name with
  | some group => exact ends_pure h
  | none =>
    refine (ends_drawId t).bind ?_ (fun _ _ h => h.elim)
    intro id u hend
    obtain ⟨-, rfl⟩ := hend
    exact ends_modify (ends_pure ((h.tail (.drawn _)).tail (.grouped _)))

theorem edits_updateVipSg (h : s.Edited wishes t) (lb : LoadBalancer) :
    s.Edits t wishes (updateVipSg lb) := by
  refine edits_call h fun u hu => ends_get ?_
  split
  · exact ends_pure hu
  refine (edits_ensureSecurityGroup hu _).bind fun groupId v hv => ?_
  split
  · exact ends_modify (ends_pure (hv.amend _ (addsNoAddress_withGroup groupId)))
  · exact ends_bind_of_ok rfl (ends_pure hv)

theorem edits_updateAapPortSg (h : s.Edited wishes t) (lb : LoadBalancer) (amphora : Amphora) :
    s.Edits t wishes (updateAapPortSg lb amphora) := by
  refine edits_call h fun u hu => ends_get ?_
  split
  · exact ends_pure hu
  refine (edits_ensureSecurityGroup hu _).bind fun groupId v hv => ends_get ?_
  split
  · exact (edits_updatePort hv (addsNoAddress_withGroup groupId)).drop
  · exact ends_pure hv

/-- The addresses that a call asks for, with names or without. -/
def Command.asked : Command → List FixedIp
  | .createPort request => request.fixedIps
  | .allocateVip lb => lb.wishes
  | _ => []

/-- Every command is made of such steps, and asks for the addresses that it says. -/
theorem edits_command (c : Command) (s : Substrate) : s.Edits s c.asked c.perform := by
  have h : s.Edited c.asked s := .refl
  cases c with
  | getPluggedNetworks c =>
    refine (edits_call h fun u hu => ?_).drop
    refine (ends_portsOfInstance c u).bind ?_ (fun _ _ hend => hend.1 ▸ hu)
    exact fun _ _ hend => ends_get (ends_pure (hend.1 ▸ hu))
  | getSubnet id =>
    refine (edits_call h fun u hu => edits_of_state hu ?_).drop
    exact (ends_subnetById id u).mono (fun _ _ hend => hend.1) fun _ _ hend => hend.1
  | getNetwork id =>
    refine (edits_call h fun u hu => ends_get (edits_of_state hu ?_)).drop
    exact (ends_orFail _ _ u).mono (fun _ _ hend => hend.1) fun _ _ hend => hend.1
  | getPort id => exact (edits_getPort h id).drop
  | createPort request =>
    refine (edits_call h fun u hu => ?_).drop
    refine (ends_newPort_given hu fun wish hwish => .inr hwish).imp_ok fun p w hend => ?_
    obtain ⟨v, hv, hgiven, rfl⟩ := hend
    exact hv.addPort hgiven
  | deletePort id => exact edits_call h fun u hu => ends_modify_last (hu.tail (.removed id))
  | adminDownPort id =>
    refine edits_call h fun u hu => Edits.drop ?_
    exact edits_updatePort hu fun _ => ⟨rfl, rfl, fun _ hip => hip⟩
  | setPortAdminStateUp id up => exact (edits_setPortAdminStateUp h id up).drop
  | plugPort amphora port =>
    refine edits_call h fun u hu => ?_
    refine (ends_orFail _ amphora.computeId u).bind ?_ (fun _ _ hend => hend.1 ▸ hu)
    exact fun c v hend => edits_plug (hend.1 ▸ hu) c port.id
  | plugFixedIp id subnetId => exact (edits_plugFixedIp h id subnetId).drop
  | unplugFixedIp id subnetId => exact (edits_unplugFixedIp h id subnetId).drop
  | unplugNetwork c networkId => exact edits_unplugNetwork h c networkId
  | allocateVip lb => exact (edits_allocateVip h fun _ hwish => hwish).drop
  | deallocateVip vip =>
    refine edits_call h fun u hu => ?_
    split
    · exact ends_modify_last (hu.tail (.removed _))
    · exact ends_pure hu
  | plugAapPort vip amphora subnet => exact (edits_plugAapPort h vip amphora subnet).drop
  | unplugAapPort amphora =>
    exact edits_call h fun u hu => ends_modify_last (hu.removeBasePort amphora)
  | unplugVip lb =>
    refine edits_call h fun u hu => ends_modify_last ?_
    exact List.foldlRecOn lb.amphorae removeBasePort hu
      fun v hv amphora _ => hv.removeBasePort amphora
  | updateVip lb forDelete => exact edits_begin h _ _
  | updateVipSg lb => exact (edits_updateVipSg h lb).drop
  | updateAapPortSg lb amphora => exact edits_updateAapPortSg h lb amphora
  | applyQosOnPort qosPolicyId id =>
    refine edits_call h fun u hu => Edits.drop ?_
    exact edits_updatePort hu fun _ => ⟨rfl, rfl, fun _ hip => hip⟩
  | getSecurityGroup name =>
    refine (edits_call h fun u hu => ends_get (edits_of_state hu ?_)).drop
    exact (ends_orFail _ _ u).mono (fun _ _ hend => hend.1) fun _ _ hend => hend.1
  | getNetworkConfigs lb amphora =>
    exact (edits_call h fun u hu => ends_get (ends_pure hu)).drop

/-- Every call is made of such steps, also when it fails half way. -/
theorem edited_leaves_command (c : Command) (s : Substrate) :
    s.Edited c.asked ((Event.command c).leaves s) :=
  Ends.state (p := fun t => s.Edited c.asked t) (edits_command c s)

/-- The port is stored under another id. -/
def renamePort (s : Substrate) (p : Port) (id : String) : Substrate :=
  { s with ports := (s.ports.erase p.id).insert id { p with id } }

/-- Seeding keeps what holds once its port has been made, and renamed if the interface names one,
what a new instance keeps and what calls keep. -/
theorem ends_seedInterface_of_made {I : Substrate → Prop} {c : String} {interface : Interface}
    (hmade : (newPort
      { networkId := interface.networkId
        name := ""
        fixedIps := interface.fixedIps
        vnicType := interface.vnicType }).Ends s
      (fun p t => (interface.portId = none → I t) ∧
        ∀ id, interface.portId = some id → I (t.renamePort p id))
      fun _ t => I t)
    (hinstance : ∀ t : Substrate, I t → I (t.addInstance c))
    (hedited : ∀ t u : Substrate, I t → t.Edited [] u → I u) :
    (seedInterface c interface).Ends s (fun _ t => I t) fun _ t => I t := by
  refine hmade.bind ?_ (fun _ _ h => h)
  intro p t hend
  have hplug : ∀ (q : Port) (u : Substrate), I u → Ends (do
      modify fun s => s.addInstance c
      plug c q.id
      return q) u (fun _ v => I v) fun _ v => I v := by
    intro q u hu
    have hplugged : (u.addInstance c).Edits (u.addInstance c) [] (plug c q.id) :=
      edits_plug .refl c q.id
    refine ends_modify (Ends.bind hplugged ?_ ?_)
    · exact fun _ v hv => ends_pure (hedited _ v (hinstance u hu) hv)
    · exact fun _ v hv => hedited _ v (hinstance u hu) hv
  cases hport : interface.portId with
  | none => exact ends_bind_of_ok rfl (hplug p t (hend.1 hport))
  | some id => exact ends_modify (ends_modify (hplug { p with id } _ (hend.2 id hport)))

end Substrate

end AmphoraWiring
