import AmphoraWiring.Proofs.Substrate.Calls

/-!
Addresses of ports. A subnet hands out its host addresses one after the other, so it has room for
as many more as there are hosts left. A new port gets the addresses that are asked for; an
existing port gains an address on a subnet or loses those that it has there.
-/
namespace AmphoraWiring

namespace Port

def addIps (p : Port) (ips : List FixedIp) : Port := { p with fixedIps := p.fixedIps ++ ips }

/-- The port without its addresses on the subnet, unless these are kept. -/
def release (p : Port) (subnetId : String) (keeps : Bool) : Port :=
  if keeps then p else { p with fixedIps := p.fixedIps.filter fun ip => ip.subnetId ≠ subnetId }

@[simp] theorem release_id (p : Port) (subnetId : String) (keeps : Bool) :
    (p.release subnetId keeps).id = p.id := by
  cases keeps <;> rfl

@[simp] theorem release_networkId (p : Port) (subnetId : String) (keeps : Bool) :
    (p.release subnetId keeps).networkId = p.networkId := by
  cases keeps <;> rfl

theorem hasSubnet_iff {p : Port} {subnetId : String} :
    p.hasSubnet subnetId ↔ ∃ ip ∈ p.fixedIps, ip.subnetId = subnetId := by
  simp [hasSubnet]

theorem hasSubnet_addIps (p : Port) (ips : List FixedIp) (subnetId : String) :
    (p.addIps ips).hasSubnet subnetId ↔
      p.hasSubnet subnetId ∨ ∃ ip ∈ ips, ip.subnetId = subnetId := by
  simp [hasSubnet_iff, addIps, or_and_right, exists_or]

/-- A release takes a port off the subnet, unless addresses of its kind are kept. -/
theorem hasSubnet_release (p : Port) (subnetId other : String) (keeps : Bool) :
    (p.release subnetId keeps).hasSubnet other ↔
      p.hasSubnet other ∧ (keeps ∨ other ≠ subnetId) := by
  cases keeps with
  | true => simp [release]
  | false =>
    simp only [hasSubnet_iff, release, Bool.false_eq_true, if_false, List.mem_filter,
      decide_eq_true_eq, false_or]
    constructor
    · intro h
      obtain ⟨ip, ⟨hmem, hne⟩, rfl⟩ := h
      exact ⟨⟨ip, hmem, rfl⟩, hne⟩
    · intro h
      obtain ⟨⟨ip, hmem, rfl⟩, hne⟩ := h
      exact ⟨ip, ⟨hmem, hne⟩, rfl⟩

/-- A release adds no address. -/
theorem mem_release {p : Port} {subnetId : String} {keeps : Bool} {ip : FixedIp}
    (h : ip ∈ (p.release subnetId keeps).fixedIps) : ip ∈ p.fixedIps := by
  cases keeps with
  | true => exact h
  | false => exact List.mem_of_mem_filter h

end Port

/-- The port that is made on request, under an id and with the addresses that were granted. -/
def PortRequest.port (request : PortRequest) (id : String) (fixedIps : List FixedIp) : Port where
  id := id
  name := request.name
  networkId := request.networkId
  fixedIps := fixedIps
  qosPolicyId := request.qosPolicyId
  securityGroupIds := request.securityGroupIds
  vnicType := request.vnicType
  allowedAddressPairs := request.secondaryIps

/-- `ip` is an answer to the wish: an address on its subnet, the one that it names if it names
one. -/
structure FixedIp.Answers (ip wish : FixedIp) : Prop where
  subnetId : ip.subnetId = wish.subnetId
  detail : ip.subnet = none
  address : ∀ a, wish.ipAddress = some a → ip.ipAddress = some a

namespace Substrate

open Action

variable {s t u : Substrate}

/-- The number of host addresses of a subnet that have been handed out. -/
def allocated (s : Substrate) (subnetId : String) : Nat := (s.allocations.get? subnetId).getD 0

/-- So many more addresses can be handed out on the subnet. -/
def Room (s : Substrate) (subnetId : String) (count : Nat) : Prop :=
  ∀ subnet cidr, s.subnets.get? subnetId = some subnet → subnet.cidr = some cidr →
    ∀ n, s.allocated subnetId < n → n ≤ s.allocated subnetId + count → (cidr.host? n).isSome

/-- Where there is room for many there is room for fewer. -/
theorem Room.mono {id : String} {count count' : Nat} (h : s.Room id count) (hle : count' ≤ count) :
    s.Room id count' := by
  intro subnet cidr hsubnet hcidr n hlow hhigh
  exact h subnet cidr hsubnet hcidr n hlow (by omega)

/-- `t` is `s` after addresses were handed out on some of the subnets, one for each at most. -/
def Allocating (s t : Substrate) (subnetIds : List String) : Prop :=
  ∃ m, t = { s with allocations := m } ∧ ∀ id, s.allocated id ≤ t.allocated id ∧
    t.allocated id ≤ s.allocated id + subnetIds.count id

namespace Allocating

variable {ids : List String}

theorem refl (s : Substrate) (ids : List String) : s.Allocating s ids :=
  ⟨s.allocations, rfl, fun _ => ⟨Nat.le_refl _, Nat.le_add_right _ _⟩⟩

theorem cons {id : String} (h : s.Allocating t [id]) (h' : t.Allocating u ids) :
    s.Allocating u (id :: ids) := by
  obtain ⟨m, rfl, hcount⟩ := h
  obtain ⟨m', rfl, hcount'⟩ := h'
  refine ⟨m', rfl, fun other => ?_⟩
  have hone := hcount other
  have hrest := hcount' other
  rw [List.count_singleton] at hone
  rw [List.count_cons]
  omega

/-- What was handed out takes away that much room at most. -/
theorem room (h : s.Allocating t ids) {id : String} {count : Nat}
    (hroom : s.Room id (count + ids.count id)) : t.Room id count := by
  obtain ⟨m, rfl, hcount⟩ := h
  intro subnet cidr hsubnet hcidr n hlow hhigh
  have hbounds := hcount id
  exact hroom subnet cidr hsubnet hcidr n (by omega) (by omega)

theorem sameNetworks (h : s.Allocating t ids) : s.SameNetworks t := by
  obtain ⟨m, rfl, -⟩ := h
  exact ⟨rfl, rfl, id⟩

end Allocating

/-- The address is the host of the subnet's range with this number, counted from zero. -/
def HostOf (s : Substrate) (subnetId : String) (n : Nat) (a : Address) : Prop :=
  ∃ subnet cidr, s.subnets.get? subnetId = some subnet ∧ subnet.cidr = some cidr ∧
    cidr.host? n = some a

theorem HostOf.of_subnets {id : String} {n : Nat} {a : Address} (h : s.HostOf id n a)
    (hsubnets : t.subnets = s.subnets) : t.HostOf id n a := by
  unfold HostOf
  rwa [hsubnets]

/-- What a subnet hands out: nothing if it has no range, or else the host after those that it has
handed out, which is counted. -/
inductive HandedOut (s t : Substrate) (subnetId : String) : Option Address → Prop where
  | rangeless (subnet : Subnet) (hsubnet : s.subnets.get? subnetId = some subnet)
      (hcidr : subnet.cidr = none) : HandedOut s t subnetId none
  | next (a : Address) (hhost : s.HostOf subnetId (s.allocated subnetId + 1) a)
      (hcount : t.allocated subnetId = s.allocated subnetId + 1) : HandedOut s t subnetId (some a)

/-- What was handed out had room. -/
theorem HandedOut.room {id : String} {a : Option Address} (h : s.HandedOut t id a) :
    s.Room id 1 := by
  intro subnet cidr hsubnet hcidr n hlow hhigh
  cases h with
  | rangeless subnet' hsubnet' hcidr' =>
    cases hsubnet.symm.trans hsubnet'
    cases hcidr.symm.trans hcidr'
  | next a hhost hcount =>
    obtain ⟨subnet', cidr', hsubnet', hcidr', hhost⟩ := hhost
    cases hsubnet.symm.trans hsubnet'
    cases hcidr.symm.trans hcidr'
    obtain rfl : n = s.allocated id + 1 := by omega
    exact Option.isSome_of_eq_some hhost

/-- The next host of the range is handed out, or none for a subnet without a range; with room left
only an unknown subnet is refused. -/
theorem ends_allocateIp (subnetId : String) (s : Substrate) :
    (allocateIp subnetId).Ends s
      (fun a t => s.Allocating t [subnetId] ∧ s.HandedOut t subnetId a)
      fun _ t => s.Allocating t [subnetId] ∧
        (s.Room subnetId 1 → s.subnets.get? subnetId = none) := by
  refine (ends_subnetById subnetId s).bind ?_ ?_
  · intro subnet t hend
    obtain ⟨rfl, hsubnet⟩ := hend
    have hcounted : t.Allocating
        { t with allocations := t.allocations.insert subnetId (t.allocated subnetId + 1) }
        [subnetId] := by
      refine ⟨_, rfl, fun other => ?_⟩
      simp only [allocated, IdMap.get?_insert]
      by_cases heq : other = subnetId
      · subst heq
        simp
      · simp [heq]
    cases hcidr : subnet.cidr with
    | none => exact ends_pure ⟨.refl t _, .rangeless subnet hsubnet hcidr⟩
    | some cidr =>
      apply ends_get
      apply ends_modify
      split
      next a hhost =>
        refine ends_pure ⟨hcounted, .next a ⟨subnet, cidr, hsubnet, hcidr, hhost⟩ ?_⟩
        simp [allocated]
      next hhost =>
        refine ends_throw ⟨hcounted, fun hroom => ?_⟩
        have hsome := hroom subnet cidr hsubnet hcidr _ (Nat.lt_succ_self _) (Nat.le_refl _)
        simp [allocated, hhost] at hsome
  · intro e t hend
    obtain ⟨rfl, hnone⟩ := hend
    exact ⟨.refl t _, fun _ => hnone⟩

/-- The addresses are on the subnets of the wishes, and these are all on the network. -/
def Resolved (s : Substrate) (networkId : String) (wishes ips : List FixedIp) : Prop :=
  ips.map (·.subnetId) = wishes.map (·.subnetId) ∧ ∀ ip ∈ ips, s.Registered ip.subnetId networkId

/-- The subnet is one of the network and has so many addresses left. -/
def Available (s : Substrate) (networkId subnetId : String) (count : Nat) : Prop :=
  s.Registered subnetId networkId ∧ s.Room subnetId count

/-- The wish can be granted: its subnet is one of the network, and it names an address or there is
one left. -/
def Grantable (s : Substrate) (networkId : String) (wish : FixedIp) : Prop :=
  s.Registered wish.subnetId networkId ∧ (wish.ipAddress = none → s.Room wish.subnetId 1)

/-- How a wish for an address is granted: with the address that it names, or with what its subnet
hands out. -/
structure Chosen (s t : Substrate) (wish ip : FixedIp) : Prop where
  answers : ip.Answers wish
  handedOut : wish.ipAddress = none → s.HandedOut t wish.subnetId ip.ipAddress

/-- A wish is granted whenever that is possible. -/
theorem ends_resolveFixedIp_iff (networkId : String) (wish : FixedIp) (s : Substrate) :
    (resolveFixedIp networkId wish).Ends s
      (fun ip t => s.Allocating t [wish.subnetId] ∧ s.Chosen t wish ip ∧
        s.Grantable networkId wish)
      fun _ t => s.Allocating t [wish.subnetId] ∧ ¬ s.Grantable networkId wish := by
  refine (ends_subnetById wish.subnetId s).bind ?_ ?_
  · intro subnet t hend
    obtain ⟨rfl, hsubnet⟩ := hend
    by_cases hnet : subnet.networkId = networkId
    · have hregistered : t.Registered wish.subnetId networkId := ⟨subnet, hsubnet, hnet⟩
      simp only [hnet, ne_eq, not_true_eq_false, if_false]
      cases haddress : wish.ipAddress with
      | some a =>
        refine ends_pure ⟨.refl t _, ⟨⟨rfl, rfl, fun b hb => ?_⟩, ?_⟩, hregistered, ?_⟩
        · exact haddress.symm.trans hb
        · simp [haddress]
        · simp [haddress]
      | none =>
        refine (ends_allocateIp wish.subnetId t).bind ?_ ?_
        · intro a u hend
          obtain ⟨hallocating, hout⟩ := hend
          refine ends_pure ⟨hallocating, ⟨⟨rfl, rfl, fun b hb => ?_⟩, fun _ => hout⟩,
            hregistered, fun _ => hout.room⟩
          cases haddress.symm.trans hb
        · intro e u hend
          obtain ⟨hallocating, hwhy⟩ := hend
          refine ⟨hallocating, fun h => ?_⟩
          simp [hwhy (h.2 haddress)] at hsubnet
    · simp only [hnet, ne_eq, not_false_eq_true, if_true]
      refine ends_throw ⟨.refl t _, fun h => ?_⟩
      obtain ⟨⟨subnet', hsubnet', hnet'⟩, -⟩ := h
      rw [hsubnet] at hsubnet'
      cases hsubnet'
      exact hnet hnet'
  · intro e t hend
    obtain ⟨rfl, hnone⟩ := hend
    refine ⟨.refl t _, fun h => ?_⟩
    obtain ⟨⟨subnet, hsubnet, -⟩, -⟩ := h
    simp [hnone] at hsubnet

/-- A wish is granted with an address on its subnet, unless the subnet is not one of the network or
has no room. -/
theorem ends_resolveFixedIp (networkId : String) (wish : FixedIp) (s : Substrate) :
    (resolveFixedIp networkId wish).Ends s
      (fun ip t => s.Allocating t [wish.subnetId] ∧ s.Resolved networkId [wish] [ip])
      fun _ t => s.Allocating t [wish.subnetId] ∧ ¬ s.Available networkId wish.subnetId 1 := by
  apply (ends_resolveFixedIp_iff networkId wish s).mono
  · intro ip t hend
    obtain ⟨hallocating, hchosen, hregistered, -⟩ := hend
    have hsubnet : ip.subnetId = wish.subnetId := hchosen.answers.subnetId
    exact ⟨hallocating, by simp [hsubnet], by simpa [hsubnet] using hregistered⟩
  · intro e t hend
    obtain ⟨hallocating, hwhy⟩ := hend
    exact ⟨hallocating, fun h => hwhy ⟨h.1, fun _ => h.2⟩⟩

/-- One address that was handed out leaves room for one less. -/
theorem Allocating.available {networkId first id : String} {count : Nat}
    (h : s.Allocating t [first]) (havailable : s.Available networkId id (count + 1)) :
    t.Available networkId id count := by
  have hroom : t.Room id count := by
    apply h.room
    apply havailable.2.mono
    rw [List.count_singleton]
    split <;> omega
  obtain ⟨m, rfl, -⟩ := h
  exact ⟨havailable.1, hroom⟩

/-- Wishes are granted one after the other, each on its own subnet. -/
theorem ends_resolveFixedIps (networkId : String) (wishes : List FixedIp) (s : Substrate) :
    (resolveFixedIps networkId wishes).Ends s
      (fun ips t => s.Allocating t (wishes.map (·.subnetId)) ∧ s.Resolved networkId wishes ips)
      fun _ t => s.Allocating t (wishes.map (·.subnetId)) ∧
        ¬ ∀ wish ∈ wishes, s.Available networkId wish.subnetId wishes.length := by
  induction wishes generalizing s with
  | nil => exact ends_pure ⟨.refl s _, rfl, by simp⟩
  | cons wish wishes ih =>
    refine (ends_resolveFixedIp networkId wish s).bind ?_ ?_
    · intro ip t hend
      obtain ⟨hfirst, hip, hregistered⟩ := hend
      refine (ih t).bind ?_ ?_
      · intro ips u hend
        obtain ⟨hrest, hips, hregistered'⟩ := hend
        refine ends_pure ⟨hfirst.cons hrest, ?_, ?_⟩
        · simp only [List.map_cons, hips]
          exact congrArg (· ++ _) hip
        · intro q hq
          rcases List.mem_cons.mp hq with rfl | hq
          · exact hregistered q (List.mem_singleton_self q)
          · obtain ⟨m, rfl, -⟩ := hfirst
            exact hregistered' q hq
      · intro e u hend
        obtain ⟨hrest, hwhy⟩ := hend
        refine ⟨hfirst.cons hrest, fun h => hwhy fun w hw => ?_⟩
        exact hfirst.available (h w (List.mem_cons_of_mem _ hw))
    · intro e t hend
      obtain ⟨hfirst, hwhy⟩ := hend
      refine ⟨hfirst.cons (.refl t _), fun h => hwhy ?_⟩
      have hwish := h wish List.mem_cons_self
      exact ⟨hwish.1, hwish.2.mono (by simp)⟩

/-- A port that was made on request: its id had not been drawn before, and its addresses are on
the subnets that were asked for. -/
structure Created (s : Substrate) (request : PortRequest) (p : Port) : Prop where
  id : p.id = drawnId (s.drawn + 1)
  network : p.networkId = request.networkId
  registered : ∀ ip ∈ p.fixedIps, s.Registered ip.subnetId p.networkId
  subnets : request.fixedIps ≠ [] →
    p.fixedIps.map (·.subnetId) = request.fixedIps.map (·.subnetId)

/-- Nothing stands in the way of a new port, unless a failure is scripted. -/
structure Creatable (s : Substrate) (request : PortRequest) : Prop where
  network : ∃ network, s.networks.get? request.networkId = some network
  asked : request.fixedIps ≠ []
  available : ∀ wish ∈ request.fixedIps,
    s.Available request.networkId wish.subnetId request.fixedIps.length

theorem ends_drawId (s : Substrate) : drawId.Ends s
    (fun id t => id = drawnId (s.drawn + 1) ∧ t = { s with drawn := s.drawn + 1 })
    fun _ _ => False :=
  ends_modify (ends_get (ends_pure ⟨rfl, rfl⟩))

theorem wishes_of_ne_nil {request : PortRequest} (h : request.fixedIps ≠ []) (network : Network) :
    PortRequest.wishes request network = request.fixedIps := by
  simp [PortRequest.wishes, h]

/-- A new port is stored with what the addresses that it is to have are resolved to. -/
theorem ends_newPort_resolved {request : PortRequest} {ok : List FixedIp → Substrate → Prop}
    {bad : NetworkError → Substrate → Prop}
    (hmissing : s.networks.get? request.networkId = none → ∀ e, bad e s)
    (hips : ∀ network, s.networks.get? request.networkId = some network →
      (resolveFixedIps request.networkId (PortRequest.wishes request network)).Ends s ok bad) :
    (newPort request).Ends s
      (fun p t => ∃ ips u, ok ips u ∧ p = request.port (drawnId (u.drawn + 1)) ips ∧
        t = u.addPort p)
      bad := by
  refine ends_get ((ends_orFail _ _ s).bind ?_ ?_)
  · intro network t hend
    obtain ⟨rfl, hnetwork⟩ := hend
    refine (hips network hnetwork).bind ?_ (fun e u h => h)
    intro ips u hend
    refine (ends_drawId u).bind ?_ (fun e v h => h.elim)
    intro id v hdrawn
    obtain ⟨rfl, rfl⟩ := hdrawn
    exact ends_modify (ends_pure ⟨ips, u, hend, rfl, rfl⟩)
  · intro e t hend
    obtain ⟨rfl, hnone⟩ := hend
    exact hmissing hnone e

/-- What was handed out for a request, the addresses that it asks for itself if there are any. -/
def Serving (s t : Substrate) (request : PortRequest) : Prop :=
  ∃ ids, s.Allocating t ids ∧
    (request.fixedIps ≠ [] → ids = request.fixedIps.map (·.subnetId))

/-- A new port has the next id and addresses on the network that was asked for. -/
theorem ends_newPort (request : PortRequest) (s : Substrate) : (newPort request).Ends s
    (fun p t => ∃ u, s.Serving u request ∧ s.Created request p ∧ t = u.addPort p)
    fun _ t => s.Serving t request ∧ ¬ s.Creatable request := by
  have hips : ∀ network, s.networks.get? request.networkId = some network →
      (resolveFixedIps request.networkId (PortRequest.wishes request network)).Ends s
        (fun ips t => s.Serving t request ∧
          s.Created request (request.port (drawnId (t.drawn + 1)) ips))
        fun _ t => s.Serving t request ∧ ¬ s.Creatable request := by
    intro network hnetwork
    have hids : request.fixedIps ≠ [] →
        (PortRequest.wishes request network).map (·.subnetId) =
          request.fixedIps.map (·.subnetId) :=
      fun hne => by rw [wishes_of_ne_nil hne]
    apply (ends_resolveFixedIps request.networkId _ s).mono
    · intro ips u hend
      obtain ⟨hallocating, hmap, hregistered⟩ := hend
      refine ⟨⟨_, hallocating, hids⟩, ?_⟩
      obtain ⟨m, rfl, -⟩ := hallocating
      exact ⟨rfl, rfl, hregistered, fun hne => hmap.trans (hids hne)⟩
    · intro e u hend
      obtain ⟨hallocating, hwhy⟩ := hend
      refine ⟨⟨_, hallocating, hids⟩, fun h => hwhy ?_⟩
      rw [wishes_of_ne_nil h.asked]
      exact h.available
  refine (ends_newPort_resolved (fun hnone e => ?_) hips).imp_ok ?_
  · refine ⟨⟨_, .refl s _, fun _ => rfl⟩, fun h => ?_⟩
    obtain ⟨network, hnetwork⟩ := h.network
    simp [hnone] at hnetwork
  · intro p t hend
    obtain ⟨ips, u, ⟨hserving, hcreated⟩, rfl, rfl⟩ := hend
    exact ⟨u, hserving, hcreated, rfl⟩

/-- What is handed out after some calls may as well be handed out before them. -/
theorem Heard.allocating {ids : List String} (h : s.Heard t) (h' : t.Allocating u ids) :
    ∃ v, s.Allocating v ids ∧ v.Heard u := by
  obtain ⟨calls, faults, rfl, hfaults⟩ := h
  obtain ⟨m, rfl, hcount⟩ := h'
  exact ⟨{ s with allocations := m }, ⟨m, rfl, hcount⟩, calls, faults, rfl, hfaults⟩

/-- What a request may draw on does not depend on the script. -/
theorem Heard.serving {request : PortRequest} (h : s.Heard t) (h' : t.Serving u request) :
    ∃ v, s.Serving v request ∧ v.Heard u := by
  obtain ⟨ids, hallocating, hids⟩ := h'
  obtain ⟨v, hallocating, hv⟩ := h.allocating hallocating
  exact ⟨v, ⟨ids, hallocating, hids⟩, hv⟩

/-- A port is made as asked for, and where it is not, addresses may have been handed out in vain. -/
theorem ends_createPort (request : PortRequest) (s : Substrate) : (createPort request).Ends s
    (fun p t => ∃ u, s.Serving u request ∧ s.Created request p ∧ (u.addPort p).Heard t)
    fun _ t => ∃ u, s.Serving u request ∧ u.Heard t ∧
      (s.faults = [] → ¬ s.Creatable request) := by
  refine ends_call (fun e t h _ hne => ?_) fun t h _ => ?_
  · exact ⟨s, ⟨_, .refl s _, fun _ => rfl⟩, h, fun hnil => absurd hnil hne⟩
  · apply (ends_newPort request t).mono
    · intro p v hend
      obtain ⟨u, hserving, hcreated, rfl⟩ := hend
      obtain ⟨w, hserving, hw⟩ := h.serving hserving
      refine ⟨w, hserving, ?_, hw.addPort p⟩
      obtain ⟨calls, faults, rfl, -⟩ := h
      exact ⟨hcreated.id, hcreated.network, hcreated.registered, hcreated.subnets⟩
    · intro e u hend
      obtain ⟨hserving, hwhy⟩ := hend
      obtain ⟨w, hserving, hw⟩ := h.serving hserving
      refine ⟨w, hserving, hw, fun _ hs => hwhy ?_⟩
      obtain ⟨calls, faults, rfl, -⟩ := h
      exact ⟨hs.network, hs.asked, hs.available⟩

/-- `t` is `s` after a port was made on request and plugged into the instance. -/
structure Adopts (s t : Substrate) (request : PortRequest) (c : String) (p : Port) : Prop where
  created : s.Created request p
  result : ∃ u, s.Serving u request ∧ ((u.addPort p).attach c p.id).Heard t

theorem Adopts.heard {request : PortRequest} {c : String} {p : Port}
    (h : s.Adopts t request c p) (h' : t.Heard u) : s.Adopts u request c p := by
  obtain ⟨v, hv, hheard⟩ := h.result
  exact ⟨h.created, v, hv, hheard.trans h'⟩

/-- Networks and subnets do not notice a new port. -/
theorem Adopts.sameNetworks {request : PortRequest} {c : String} {p : Port}
    (h : s.Adopts t request c p) : s.SameNetworks t := by
  obtain ⟨u, ⟨ids, hu, -⟩, hheard⟩ := h.result
  exact hu.sameNetworks.trans
    (.trans (.addPort u p) (.trans (.attach _ c p.id) hheard.sameNetworks))

/-! Ports that exist -/

theorem amend_eq_self {id : String} {f : Port → Port}
    (h : ∀ p, s.ports.get? id = some p → f p = p) : s.amend id f = s := by
  have hports : s.ports.modify id f = s.ports := by
    apply IdMap.ext_get?
    intro k
    rw [IdMap.get?_modify]
    split
    next heq =>
      subst heq
      cases hget : s.ports.get? k with
      | none => rfl
      | some p => rw [Option.map_some, h p hget]
    next => rfl
  unfold amend
  rw [hports]

/-- `t` is `s` after the port under the id gained addresses; it is on the subnet then. -/
structure Gains (s t : Substrate) (id subnetId : String) (p : Port)
    (ips : List FixedIp) : Prop where
  port : s.ports.get? id = some p
  present : (p.addIps ips).hasSubnet subnetId
  registered : ∀ ip ∈ ips, ip.subnetId = subnetId ∧ s.Registered subnetId p.networkId
  result : ∃ u, s.Allocating u [subnetId] ∧ (u.amend id fun p => p.addIps ips).Heard t

/-- `t` is `s` after the port under the id lost its addresses on the subnet, unless these
are kept. -/
structure Loses (s t : Substrate) (id subnetId : String) (p : Port) : Prop where
  port : s.ports.get? id = some p
  result : (s.amend id fun p => p.release subnetId (s.keepsAddresses subnetId)).Heard t

theorem Gains.heard {id subnetId : String} {p : Port} {ips : List FixedIp}
    (h : s.Gains t id subnetId p ips) (h' : t.Heard u) : s.Gains u id subnetId p ips := by
  obtain ⟨v, hv, hheard⟩ := h.result
  exact ⟨h.port, h.present, h.registered, v, hv, hheard.trans h'⟩

theorem Loses.heard {id subnetId : String} {p : Port} (h : s.Loses t id subnetId p)
    (h' : t.Heard u) : s.Loses u id subnetId p :=
  ⟨h.port, h.result.trans h'⟩

theorem Gains.sameNetworks {id subnetId : String} {p : Port} {ips : List FixedIp}
    (h : s.Gains t id subnetId p ips) : s.SameNetworks t := by
  obtain ⟨u, hu, hheard⟩ := h.result
  exact hu.sameNetworks.trans (.trans (.amend u id _) hheard.sameNetworks)

theorem Loses.sameNetworks {id subnetId : String} {p : Port} (h : s.Loses t id subnetId p) :
    s.SameNetworks t :=
  .trans (.amend s id _) h.result.sameNetworks

/-- A port that is not on the subnet yet is given an address there. -/
theorem ends_gainIp {id : String} {p : Port} (h : s.Heard t) (hp : s.ports.get? id = some p)
    (subnetId : String) : Action.Ends (do
        let ip ← resolveFixedIp p.networkId { subnetId }
        updatePort id fun p => p.addIps [ip]) t
      (fun q u => ∃ ips, s.Gains u id subnetId p ips ∧ q = p.addIps ips)
      fun _ u => ∃ v, s.Allocating v [subnetId] ∧ v.Heard u ∧
        ¬ s.Available p.networkId subnetId 1 := by
  refine (ends_resolveFixedIp p.networkId { subnetId } t).bind ?_ ?_
  · intro ip v hend
    obtain ⟨hallocating, hsubnet, hregistered⟩ := hend
    obtain ⟨w, hw, hheard⟩ := h.allocating hallocating
    have hip : ip.subnetId = subnetId := by simpa using hsubnet
    have hnet := h.sameNetworks.registered.mp (hregistered ip (List.mem_singleton_self ip))
    rw [hip] at hnet
    have hstored : v.ports.get? id = some p := by
      obtain ⟨m, rfl, -⟩ := hw
      exact hheard.ports ▸ hp
    have hpresent : (p.addIps [ip]).hasSubnet subnetId :=
      (p.hasSubnet_addIps [ip] subnetId).mpr (.inr ⟨ip, by simp, hip⟩)
    apply (ends_updatePort_stored hstored (fun p => p.addIps [ip])).mono
    · intro q u hend
      obtain ⟨rfl, rfl⟩ := hend
      exact ⟨[ip], ⟨hp, hpresent, by simpa using ⟨hip, hnet⟩, w, hw, hheard.amend id _⟩, rfl⟩
    · exact fun _ _ h => h.elim
  · intro e v hend
    obtain ⟨hallocating, hwhy⟩ := hend
    obtain ⟨w, hw, hheard⟩ := h.allocating hallocating
    refine ⟨w, hw, hheard, fun hs => hwhy ?_⟩
    obtain ⟨calls, faults, rfl, -⟩ := h
    exact hs

/-- A port gets an address on the subnet unless it has one there already. -/
theorem ends_plugFixedIp (id subnetId : String) (s : Substrate) : (plugFixedIp id subnetId).Ends s
    (fun q t => ∃ p ips, s.Gains t id subnetId p ips ∧ q = p.addIps ips)
    fun _ t => ∃ u, s.Allocating u [subnetId] ∧ u.Heard t ∧ (s.faults = [] →
      ∀ p, s.ports.get? id = some p → ¬ s.Available p.networkId subnetId 1) := by
  refine ends_call (fun e t h _ hne => ?_) fun t h _ => ?_
  · exact ⟨s, .refl s _, h, fun hnil => absurd hnil hne⟩
  refine (ends_portById id t).bind ?_ ?_
  · intro p u hend
    obtain ⟨rfl, hp⟩ := hend
    rw [h.ports] at hp
    by_cases hhas : p.hasSubnet subnetId
    · simp only [hhas, if_true]
      have hsame : p = p.addIps [] := by simp [Port.addIps]
      refine ends_pure ⟨p, [], ⟨hp, hsame ▸ hhas, by simp, s, .refl s _, ?_⟩, hsame⟩
      rw [amend_eq_self fun p _ => by simp [Port.addIps]]
      exact h
    · simp only [hhas, Bool.false_eq_true, if_false]
      apply (ends_gainIp h hp subnetId).mono
      · exact fun q v hend => ⟨p, hend⟩
      · intro e v hend
        obtain ⟨w, hw, hheard, hwhy⟩ := hend
        refine ⟨w, hw, hheard, fun _ q hq => ?_⟩
        cases hp.symm.trans hq
        exact hwhy
  · intro e u hend
    obtain ⟨rfl, hnone⟩ := hend
    refine ⟨s, .refl s _, h, fun _ p hp => ?_⟩
    rw [← h.ports, hnone] at hp
    cases hp

/-- A port loses its addresses on the subnet, and without faults only an unknown port is refused. -/
theorem ends_unplugFixedIp (id subnetId : String) (s : Substrate) :
    (unplugFixedIp id subnetId).Ends s
      (fun q t => ∃ p, s.Loses t id subnetId p ∧
        q = p.release subnetId (s.keepsAddresses subnetId))
      fun _ t => s.Heard t ∧ (s.faults = [] → s.ports.get? id = none) := by
  refine ends_call (fun e t h _ hne => ⟨h, fun hnil => absurd hnil hne⟩) fun t h _ => ?_
  have hkeeps := h.sameNetworks.keepsAddresses subnetId
  have hports := h.ports
  apply ends_get
  rw [hkeeps]
  by_cases hslaac : s.keepsAddresses subnetId
  · simp only [hslaac, if_true]
    apply (ends_portById id t).mono
    · intro p u hend
      obtain ⟨rfl, hp⟩ := hend
      have hsame : (s.amend id fun p => p.release subnetId true) = s :=
        amend_eq_self fun p _ => rfl
      exact ⟨p, ⟨hports ▸ hp, by rw [hslaac, hsame]; exact h⟩, rfl⟩
    · intro e u hend
      obtain ⟨rfl, hnone⟩ := hend
      exact ⟨h, fun _ => hports ▸ hnone⟩
  · rw [Bool.not_eq_true] at hslaac
    simp only [hslaac, Bool.false_eq_true, if_false]
    apply (ends_updatePort id _ t).mono
    · intro q u hend
      obtain ⟨rfl, p, hp, rfl⟩ := hend
      exact ⟨p, ⟨hports ▸ hp, by rw [hslaac]; exact h.amend id _⟩, rfl⟩
    · intro e u hend
      obtain ⟨rfl, hnone⟩ := hend
      exact ⟨h, fun _ => hports ▸ hnone⟩

end Substrate

end AmphoraWiring
