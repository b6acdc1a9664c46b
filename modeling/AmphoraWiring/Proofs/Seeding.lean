import AmphoraWiring.Proofs.Substrate.Views
import AmphoraWiring.Sample

/-!
A substrate that is set up by hand, interface by interface, is sound, and no port is plugged into
two instances. In particular this holds of the sample deployment.
-/
namespace AmphoraWiring

open Action

namespace Substrate

variable {s t : Substrate}

/-- Sound, and no port plugged into two instances. -/
def Fit (s : Substrate) : Prop := s.Sound ∧ s.Exclusive

theorem pluggedPortIds_addInstance (s : Substrate) (c c' : String) :
    (s.addInstance c).pluggedPortIds c' = s.pluggedPortIds c' := by
  unfold addInstance
  split
  next => rfl
  next hnew =>
    rw [Bool.not_eq_true, IdMap.contains_eq_false_iff] at hnew
    unfold pluggedPortIds
    rw [IdMap.get?_insert]
    split
    next heq => simp [heq, hnew]
    next => rfl

theorem ports_addInstance (s : Substrate) (c : String) : (s.addInstance c).ports = s.ports := by
  unfold addInstance
  split <;> rfl

theorem subnets_addInstance (s : Substrate) (c : String) :
    (s.addInstance c).subnets = s.subnets := by
  unfold addInstance
  split <;> rfl

theorem drawn_addInstance (s : Substrate) (c : String) : (s.addInstance c).drawn = s.drawn := by
  unfold addInstance
  split <;> rfl

theorem Fit.addInstance (h : s.Fit) (c : String) : (s.addInstance c).Fit :=
  ⟨h.1.of_ids (s.ports_addInstance c) (s.pluggedPortIds_addInstance c) (s.subnets_addInstance c)
    (s.drawn_addInstance c), h.2.of_ids (s.pluggedPortIds_addInstance c)⟩

/-- Addresses that are drawn meanwhile leave a fit substrate fit. -/
theorem Fit.allocating {ids : List String} (h : s.Fit) (h' : s.Allocating t ids) : t.Fit := by
  obtain ⟨m, rfl, -⟩ := h'
  exact ⟨h.1.of_eq rfl rfl rfl rfl, h.2.of_eq rfl⟩

/-- A substrate without ports and instances is fit. -/
theorem fit_of_empty (hports : s.ports = .empty) (hplugged : s.plugged = .empty) : s.Fit := by
  have hids : ∀ c, s.pluggedPortIds c = [] := by
    intro c
    rw [pluggedPortIds, hplugged]
    rfl
  constructor
  · constructor
    case own_id =>
      intro id p h
      simp [hports] at h
    case exists_port =>
      intro c id h
      simp [hids] at h
    case nodup =>
      intro c
      simp [hids]
    case on_network =>
      intro id p ip h
      simp [hports] at h
    case fresh =>
      intro n _
      simp [hports]
  · intro c c' id h
    simp [hids] at h

/-- Subnets alone make a fit substrate. -/
theorem fit_addSubnets (subnets : List Subnet) : (subnets.foldl Substrate.addSubnet {}).Fit := by
  have hempty : ∀ (subnets : List Subnet) (s : Substrate), s.ports = .empty → s.plugged = .empty →
      (subnets.foldl Substrate.addSubnet s).ports = .empty ∧
        (subnets.foldl Substrate.addSubnet s).plugged = .empty := by
    intro subnets
    induction subnets with
    | nil => exact fun s hports hplugged => ⟨hports, hplugged⟩
    | cons subnet subnets ih => exact fun s hports hplugged => ih _ hports hplugged
  obtain ⟨hports, hplugged⟩ := hempty subnets {} rfl rfl
  exact fit_of_empty hports hplugged

/-- Seeding an interface whose port is to be made keeps a substrate fit, also if it fails. -/
theorem ends_seedInterface (h : s.Fit) (c : String) {interface : Interface}
    (hport : interface.portId = none) :
    (seedInterface c interface).Ends s (fun _ t => t.Fit) fun _ t => t.Fit := by
  unfold seedInterface
  rw [hport]
  refine (ends_newPort _ s).bind ?_ ?_
  · intro p t hend
    obtain ⟨u, ⟨ids, hallocating, -⟩, hcreated, rfl⟩ := hend
    have hu := h.allocating hallocating
    have hid : p.id = drawnId (u.drawn + 1) := hallocating.samePorts.drawn ▸ hcreated.id
    have hnew : u.ports.get? p.id = none := hid ▸ hu.1.next_is_new
    have hadded : (u.addPort p).Fit := by
      refine ⟨hu.1.addPort hid fun ip hip => ?_, hu.2⟩
      exact hallocating.sameNetworks.registered.mpr (hcreated.registered ip hip)
    have hinstance := hadded.addInstance c
    have hfree : ∀ c', p.id ∉ ((u.addPort p).addInstance c).pluggedPortIds c' := by
      intro c'
      rw [pluggedPortIds_addInstance]
      exact hu.1.not_plugged hnew c'
    refine ends_bind_of_ok rfl (ends_modify ?_)
    refine (ends_plug c p.id _).bind ?_ ?_
    · intro a v hend
      obtain ⟨rfl, -⟩ := hend
      have hget : ((u.addPort p).addInstance c).ports.get? p.id = some p := by
        rw [ports_addInstance]
        exact IdMap.get?_insert_self _ _ _
      exact ends_pure ⟨hinstance.1.attach hget,
        hinstance.2.attach fun c' hmem => absurd hmem (hfree c')⟩
    · intro e v hend
      obtain ⟨rfl, -⟩ := hend
      exact hinstance
  · intro e t hend
    obtain ⟨⟨ids, hallocating, -⟩, -⟩ := hend
    exact h.allocating hallocating

end Substrate

namespace Sample

open Substrate

/-- An instance with its interface is added to a fit substrate. -/
theorem ends_seedAmphora {s : Substrate} (h : s.Fit) (id computeId : String) :
    (seedAmphora id computeId).Ends s (fun _ t => t.Fit) fun _ t => t.Fit := by
  apply ends_modify
  refine (ends_seedInterface (h.addInstance computeId) computeId rfl).bind ?_ (fun e t h => h)
  intro port t ht
  exact ends_pure ht

theorem ends_seed {s : Substrate} (h : s.Fit) :
    seed.Ends s (fun _ t => t.Fit) fun _ t => t.Fit := by
  refine (ends_seedAmphora h "amp-1" "vm-1").bind ?_ (fun e t h => h)
  intro first t ht
  refine (ends_seedAmphora ht "amp-2" "vm-2").bind ?_ (fun e t h => h)
  intro second u hu
  exact ends_pure hu

theorem fit_seed {s : Substrate} (h : s.Fit) : (seed.runOn s).2.Fit := (ends_seed h).state

/-- The substrate of the sample deployment. -/
def substrate : Substrate := (seed.runOn (subnets.foldl Substrate.addSubnet {})).2

/-- The sample deployment starts from a fit substrate. -/
theorem substrate_fit : substrate.Fit := fit_seed (fit_addSubnets subnets)

def memberInterface (networkId subnetId : String) : Interface where
  networkId := networkId
  fixedIps := [{ subnetId }]

theorem fit_seedInterface {s : Substrate} (h : s.Fit) (c : String) {interface : Interface}
    (hport : interface.portId = none) : ((seedInterface c interface).runOn s).2.Fit :=
  (ends_seedInterface h c hport).state

/-- The sample deployment when the first instance is on the networks of both members. -/
def wired : Substrate :=
  ((seedInterface "vm-1" (memberInterface "net-c" "subnet-c")).runOn
    ((seedInterface "vm-1" (memberInterface "net-b" "subnet-b")).runOn substrate).2).2

theorem wired_fit : wired.Fit :=
  fit_seedInterface (fit_seedInterface substrate_fit "vm-1" rfl) "vm-1" rfl

/-- A subnet of the second network whose addresses come from the router. -/
def routerSubnet : Subnet where
  id := "router-subnet"
  networkId := "net-b"
  cidr := Cidr.ofText? "2001:db8::/64"
  ipv6AddressMode := some "slaac"

/-- An interface with two addresses, one of them from the router. -/
def routerInterface : Interface where
  networkId := "net-b"
  fixedIps := [{ subnetId := "subnet-b" }, { subnetId := "router-subnet" }]

/-- The sample deployment with that subnet, when the first instance has an address on it. -/
def autoconfigured : Substrate :=
  ((seedInterface "vm-1" (memberInterface "net-c" "subnet-c")).runOn
    ((seedInterface "vm-1" routerInterface).runOn
      (seed.runOn ((subnets ++ [routerSubnet]).foldl Substrate.addSubnet {})).2).2).2

theorem autoconfigured_fit : autoconfigured.Fit :=
  fit_seedInterface (fit_seedInterface (fit_seed (fit_addSubnets _)) "vm-1" rfl) "vm-1" rfl

def amphora (id computeId : String) : Amphora where
  id := id
  loadBalancerId := some "lb-1"
  computeId := some computeId

/-- A step is to start on the substrate; the first amphora is known to the repository. -/
def start (substrate : Substrate) : Run Deployment where
  context := {}
  state :=
    { substrate
      repository := Repository.store {} (loadBalancer [amphora "amp-1" "vm-1"]) }

@[simp] theorem start_substrate (substrate : Substrate) :
    (start substrate).state.substrate = substrate := rfl

def pair : LoadBalancer := loadBalancer [amphora "amp-1" "vm-1", amphora "amp-2" "vm-2"]

/-- The load balancer with both amphorae is persisted. -/
def persisted (substrate : Substrate) : Deployment where
  substrate := substrate
  repository := Repository.store {} pair

/-- A step is to start on the substrate; both amphorae are known to the repository. -/
def startPair (substrate : Substrate) : Run Deployment where
  context := {}
  state := persisted substrate

@[simp] theorem startPair_substrate (substrate : Substrate) :
    (startPair substrate).state.substrate = substrate := rfl

end Sample

end AmphoraWiring
