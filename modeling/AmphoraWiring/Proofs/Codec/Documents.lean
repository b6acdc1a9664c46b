import AmphoraWiring.Codec.Model
import AmphoraWiring.Proofs.Codec.Spelling

/-!
The documents of the library's records. What is written for a record spells it, as far as its
numbers have the size that documents can hold, so every document that spells a record, the written
one among them, is decoded to it.
-/
namespace AmphoraWiring

namespace Codec

variable {α : Type} {codec : Codec α}

/-- What is written for the value spells it, and is not `null`. -/
structure Writes (codec : Codec α) (a : α) : Prop where
  spells : Spells codec a (codec.encode a)
  present : codec.encode a ≠ .null

theorem writes_text (s : String) : Writes text s := ⟨.text s, nofun⟩

theorem writes_word32 {n : Nat} (h : n < Nat.pow 2 32) : Writes word32 n :=
  ⟨.word (by decide) h, nofun⟩

theorem writes_address (a : Address) : Writes address a := ⟨.address a, nofun⟩

theorem writes_cidr (c : Cidr) : Writes Codec.cidr c := ⟨.cidr c, nofun⟩

/-- A value of an enumeration is written by its name, and found by it. -/
theorem writes_enumeration {known : List (String × α)} {name : α → String} {a : α}
    (h : known.find? (fun k => k.1 = name a) = some (name a, a)) :
    Writes (enumeration known name) a := ⟨.enumeration h, nofun⟩

/-- Nothing is written as `null`, so what is there must not be. -/
theorem spells_option {o : Option α} (h : ∀ a ∈ o, Writes codec a) :
    Spells codec.option o (codec.option.encode o) := by
  cases o with
  | none => exact .none
  | some a => exact .some (h a rfl).spells (h a rfl).present

theorem writes_list {as : List α} (h : ∀ a ∈ as, Writes codec a) : Writes codec.list as := by
  refine ⟨.list ?_, nofun⟩
  induction as with
  | nil => exact .nil
  | cons a as ih =>
    obtain ⟨ha, has⟩ := List.forall_mem_cons.mp h
    exact .cons ha.spells (ih has)

theorem writes_idMap {m : IdMap α} (h : ∀ e ∈ m.entries, Writes codec e.2) :
    Writes codec.idMap m := by
  refine ⟨.idMap ?_, nofun⟩
  generalize m.entries = entries at h
  induction entries with
  | nil => exact .nil
  | cons e entries ih =>
    obtain ⟨he, hentries⟩ := List.forall_mem_cons.mp h
    exact .cons he.spells (ih hentries)

theorem spells_optionalText (o : Option String) :
    Spells text.option o (text.option.encode o) := spells_option fun s _ => writes_text s

theorem spells_optionalAddress (o : Option Address) :
    Spells address.option o (address.option.encode o) := spells_option fun a _ => writes_address a

theorem spells_texts (ss : List String) : Spells text.list ss (text.list.encode ss) :=
  (writes_list fun s _ => writes_text s).spells

/-- A field that is not hidden is written. -/
theorem SpellsFields.shown {τ σ : Type} {name : String} {missing : Missing α} {hidden : α → Bool}
    {next : Fields τ σ} {v : α} {vs : τ} (hv : hidden v = false)
    (h : Spells codec v (codec.encode v)) (hs : SpellsFields next vs (next.encode vs)) :
    SpellsFields (.field name codec missing hidden next) (v, vs)
      ((Fields.field name codec missing hidden next).encode (v, vs)) := by
  simp only [Fields.encode, hv, Bool.false_eq_true, if_false]
  exact .written h hs

theorem SpellsFields.cons {τ σ : Type} {name : String} {missing : Missing α} {next : Fields τ σ}
    {v : α} {vs : τ} (h : Spells codec v (codec.encode v))
    (hs : SpellsFields next vs (next.encode vs)) :
    SpellsFields (.field name codec missing (fun _ => false) next) (v, vs)
      ((Fields.field name codec missing (fun _ => false) next).encode (v, vs)) :=
  SpellsFields.shown rfl h hs

/-- A record is written with its fields in order, and their names are told apart. -/
theorem writes_record {τ σ : Type} {name : String} {fields : Fields τ σ} {ofTuple : τ → α}
    {toTuple : α → τ} {a : α} (ha : ofTuple (toTuple a) = a)
    (h : SpellsFields fields (toTuple a) (fields.encode (toTuple a)))
    (hnames : fields.names.Nodup) : Writes (record name fields ofTuple toTuple) a :=
  ⟨.record hnames ha h (fun _ hm => absurd hm List.not_mem_nil) (by rw [List.append_nil]), nofun⟩

end Codec

open Codec

theorem VnicType.writes (v : VnicType) : Writes VnicType.codec v :=
  writes_enumeration (by cases v <;> rfl)

theorem PortStatus.writes (s : PortStatus) : Writes PortStatus.codec s :=
  writes_enumeration (by cases s <;> rfl)

theorem ProvisioningStatus.writes (s : ProvisioningStatus) : Writes ProvisioningStatus.codec s :=
  writes_enumeration (by cases s <;> rfl)

theorem AmphoraStatus.writes (s : AmphoraStatus) : Writes AmphoraStatus.codec s :=
  writes_enumeration (by cases s <;> rfl)

theorem PortDeletion.writes (d : PortDeletion) : Writes PortDeletion.codec d :=
  writes_enumeration (by cases d <;> rfl)

/-! Records -/

theorem Member.writes (m : Member) : Writes Member.codec m :=
  writes_record rfl
    (.cons (.text m.id) <| .cons (spells_optionalText m.subnetId) <|
      .cons m.provisioningStatus.writes.spells <| .cons m.vnicType.writes.spells .done)
    (by decide)

theorem Pool.writes (p : Pool) : Writes Pool.codec p :=
  writes_record rfl
    (.cons (.text p.id) <| .cons (writes_list fun m _ => m.writes).spells .done)
    (by decide)

theorem Vip.writes (v : Vip) : Writes Vip.codec v :=
  writes_record rfl
    (.cons (spells_optionalAddress v.ipAddress) <| .cons (.text v.subnetId) <|
      .cons (.text v.networkId) <| .cons (spells_optionalText v.portId) <|
      .cons (spells_optionalText v.qosPolicyId) <| .cons (spells_texts v.sgIds) <|
      .cons v.vnicType.writes.spells <| .cons (spells_optionalText v.loadBalancerId) .done)
    (by decide)

theorem AdditionalVip.writes (v : AdditionalVip) : Writes AdditionalVip.codec v :=
  writes_record rfl
    (.cons (spells_optionalAddress v.ipAddress) <| .cons (.text v.subnetId) <|
      .cons (spells_optionalText v.networkId) <| .cons (spells_optionalText v.portId) .done)
    (by decide)

/-- The router number has 32 bits. -/
def Amphora.Fits (a : Amphora) : Prop := ∀ n ∈ a.vrrpId, n < Nat.pow 2 32

/-- The router number is the one field of an amphora that could be too great. -/
theorem Amphora.writes (a : Amphora) (ha : a.Fits) : Writes Amphora.codec a :=
  writes_record rfl
    (.cons (.text a.id) <| .cons (spells_optionalText a.loadBalancerId) <|
      .cons (spells_optionalText a.computeId) <| .cons a.status.writes.spells <|
      .cons (spells_optionalAddress a.lbNetworkIp) <| .cons (spells_optionalText a.vrrpPortId) <|
      .cons (spells_optionalAddress a.vrrpIp) <| .cons (spells_optionalText a.haPortId) <|
      .cons (spells_optionalAddress a.haIp) <|
      .cons (spells_option fun n hn => writes_word32 (ha n hn)) .done)
    (by decide)

def LoadBalancer.Fits (lb : LoadBalancer) : Prop := ∀ a ∈ lb.amphorae, a.Fits

theorem LoadBalancer.writes (lb : LoadBalancer) (hlb : lb.Fits) : Writes LoadBalancer.codec lb :=
  writes_record rfl
    (.cons (.text lb.id) <| .cons lb.vip.writes.spells <|
      .cons (writes_list fun v _ => v.writes).spells <|
      .cons (writes_list fun p _ => p.writes).spells <|
      .cons (writes_list fun a ha => a.writes (hlb a ha)).spells .done)
    (by decide)

theorem Subnet.writes (s : Subnet) : Writes Subnet.codec s :=
  writes_record rfl
    (.cons (.text s.id) <| .cons (.text s.networkId) <|
      .cons (spells_option fun c _ => writes_cidr c) <|
      .cons (spells_optionalAddress s.gatewayIp) <|
      .cons (spells_optionalText s.ipv6AddressMode) .done)
    (by decide)

/-- The packet size has 32 bits. -/
def Network.Fits (n : Network) : Prop := ∀ mtu ∈ n.mtu, mtu < Nat.pow 2 32

theorem Network.writes (n : Network) (hn : n.Fits) : Writes Network.codec n :=
  writes_record rfl
    (.cons (.text n.id) <| .cons (.text n.name) <| .cons (spells_texts n.subnets) <|
      .cons (spells_option fun mtu hmtu => writes_word32 (hn mtu hmtu)) .done)
    (by decide)

theorem FixedIp.writes (ip : FixedIp) : Writes FixedIp.codec ip :=
  writes_record rfl
    (.cons (.text ip.subnetId) <| .cons (spells_optionalAddress ip.ipAddress) <|
      .cons (spells_option fun s _ => s.writes) .done)
    (by decide)

theorem Interface.writes (i : Interface) : Writes Interface.codec i :=
  writes_record rfl
    (.cons (.text i.networkId) <| .cons (spells_optionalText i.portId) <|
      .cons (writes_list fun ip _ => ip.writes).spells <| .cons i.vnicType.writes.spells .done)
    (by decide)

def Port.Fits (p : Port) : Prop := ∀ n ∈ p.network, n.Fits

theorem Port.writes (p : Port) (hp : p.Fits) : Writes Port.codec p :=
  writes_record rfl
    (.cons (.text p.id) <| .cons (.text p.name) <| .cons (.text p.networkId) <|
      .cons (writes_list fun ip _ => ip.writes).spells <| .cons (.flag p.adminStateUp) <|
      .cons p.status.writes.spells <| .cons (spells_optionalText p.deviceId) <|
      .cons (spells_optionalText p.qosPolicyId) <| .cons (spells_texts p.securityGroupIds) <|
      .cons p.vnicType.writes.spells <|
      .cons (writes_list fun a _ => writes_address a).spells <|
      .cons (spells_option fun n hn => n.writes (hp n hn)) .done)
    (by decide)

theorem SecurityGroup.writes (g : SecurityGroup) : Writes SecurityGroup.codec g :=
  writes_record rfl (.cons (.text g.id) <| .cons (.text g.name) .done) (by decide)

theorem MemberPortBinding.writes (b : MemberPortBinding) : Writes MemberPortBinding.codec b :=
  writes_record rfl
    (.cons (.text b.amphoraId) <| .cons (.text b.portId) <| .cons (.text b.networkId) .done)
    (by decide)

theorem AvailabilityZone.writes (z : AvailabilityZone) : Writes AvailabilityZone.codec z :=
  writes_record rfl
    (.cons (spells_optionalText z.name) <|
      .cons (spells_optionalText z.managementNetwork) .done)
    (by decide)

structure AmphoraNetworkConfig.Fits (c : AmphoraNetworkConfig) : Prop where
  vipPort : ∀ p ∈ c.vipPort, p.Fits
  vrrpPort : ∀ p ∈ c.vrrpPort, p.Fits
  haPort : ∀ p ∈ c.haPort, p.Fits

theorem AmphoraNetworkConfig.writes (c : AmphoraNetworkConfig) (hc : c.Fits) :
    Writes AmphoraNetworkConfig.codec c :=
  writes_record rfl
    (.cons (.text c.amphoraId) <| .cons (spells_option fun s _ => s.writes) <|
      .cons (spells_option fun p hp => p.writes (hc.vipPort p hp)) <|
      .cons (spells_option fun s _ => s.writes) <|
      .cons (spells_option fun p hp => p.writes (hc.vrrpPort p hp)) <|
      .cons (spells_option fun s _ => s.writes) <|
      .cons (spells_option fun p hp => p.writes (hc.haPort p hp)) .done)
    (by decide)

theorem AllocatedVip.writes (a : AllocatedVip) : Writes AllocatedVip.codec a :=
  writes_record rfl
    (.cons a.vip.writes.spells <| .cons (writes_list fun v _ => v.writes).spells .done)
    (by decide)

theorem SubnetChange.writes (c : SubnetChange) : Writes SubnetChange.codec c :=
  writes_record rfl
    (.cons (.text c.subnetId) <| .cons (.text c.networkId) <|
      .cons (spells_optionalText c.portId) .done)
    (by decide)

theorem Delta.writes (d : Delta) : Writes Delta.codec d :=
  writes_record rfl
    (.cons (.text d.amphoraId) <| .cons (.text d.computeId) <|
      .cons (writes_list fun i _ => i.writes).spells <|
      .cons (writes_list fun i _ => i.writes).spells <|
      .cons (writes_list fun c _ => c.writes).spells <|
      .cons (writes_list fun c _ => c.writes).spells .done)
    (by decide)

/-- A policy that is left alone is not written, one that is cleared is written as `null`. -/
theorem VipUpdate.writes (u : VipUpdate) : Writes VipUpdate.codec u := by
  refine writes_record rfl ?_ (by decide)
  obtain ⟨policy⟩ := u
  cases policy with
  | none => exact .left .done
  | some policy => exact .shown rfl (.given (spells_optionalText policy)) .done

theorem LoadBalancerUpdate.writes (u : LoadBalancerUpdate) :
    Writes LoadBalancerUpdate.codec u :=
  writes_record rfl (.cons (spells_option fun vip _ => vip.writes) .done) (by decide)

def Snapshot.Fits (s : Snapshot) : Prop := ∀ n ∈ s.networks, n.Fits

theorem Snapshot.writes (s : Snapshot) (hs : s.Fits) : Writes Snapshot.codec s :=
  writes_record rfl
    (.cons (writes_list fun n hn => n.writes (hs n hn)).spells <|
      .cons (writes_list fun s _ => s.writes).spells <|
      .cons (writes_idMap fun _ _ => writes_list fun i _ => i.writes).spells <|
      .cons (.flag s.securityGroupsEnabled) .done)
    (by decide)

/-! All of them -/

/-- The types of the library's documents. -/
inductive DocumentType where
  | vnicType | portStatus | provisioningStatus | amphoraStatus | portDeletion
  | loadBalancer | vip | additionalVip | pool | member | amphora
  | subnet | network | fixedIp | interface | port | securityGroup | memberPortBinding
  | availabilityZone | amphoraNetworkConfig | allocatedVip
  | delta | subnetChange | snapshot | loadBalancerUpdate | vipUpdate

namespace DocumentType

def Value : DocumentType → Type
  | vnicType => VnicType
  | portStatus => PortStatus
  | provisioningStatus => ProvisioningStatus
  | amphoraStatus => AmphoraStatus
  | portDeletion => PortDeletion
  | loadBalancer => LoadBalancer
  | vip => Vip
  | additionalVip => AdditionalVip
  | pool => Pool
  | member => Member
  | amphora => Amphora
  | subnet => Subnet
  | network => Network
  | fixedIp => FixedIp
  | interface => Interface
  | port => Port
  | securityGroup => SecurityGroup
  | memberPortBinding => MemberPortBinding
  | availabilityZone => AvailabilityZone
  | amphoraNetworkConfig => AmphoraNetworkConfig
  | allocatedVip => AllocatedVip
  | delta => Delta
  | subnetChange => SubnetChange
  | snapshot => Snapshot
  | loadBalancerUpdate => LoadBalancerUpdate
  | vipUpdate => VipUpdate

def codec : (t : DocumentType) → Codec t.Value
  | vnicType => VnicType.codec
  | portStatus => PortStatus.codec
  | provisioningStatus => ProvisioningStatus.codec
  | amphoraStatus => AmphoraStatus.codec
  | portDeletion => PortDeletion.codec
  | loadBalancer => LoadBalancer.codec
  | vip => Vip.codec
  | additionalVip => AdditionalVip.codec
  | pool => Pool.codec
  | member => Member.codec
  | amphora => Amphora.codec
  | subnet => Subnet.codec
  | network => Network.codec
  | fixedIp => FixedIp.codec
  | interface => Interface.codec
  | port => Port.codec
  | securityGroup => SecurityGroup.codec
  | memberPortBinding => MemberPortBinding.codec
  | availabilityZone => AvailabilityZone.codec
  | amphoraNetworkConfig => AmphoraNetworkConfig.codec
  | allocatedVip => AllocatedVip.codec
  | delta => Delta.codec
  | subnetChange => SubnetChange.codec
  | snapshot => Snapshot.codec
  | loadBalancerUpdate => LoadBalancerUpdate.codec
  | vipUpdate => VipUpdate.codec

/-- The numbers of the value have 32 bits. -/
def Fits : (t : DocumentType) → t.Value → Prop
  | loadBalancer, lb => LoadBalancer.Fits lb
  | amphora, a => Amphora.Fits a
  | network, n => Network.Fits n
  | port, p => Port.Fits p
  | amphoraNetworkConfig, c => AmphoraNetworkConfig.Fits c
  | snapshot, s => Snapshot.Fits s
  | _, _ => True

theorem writes : (t : DocumentType) → (v : t.Value) → t.Fits v → Writes t.codec v
  | vnicType, v, _ => VnicType.writes v
  | portStatus, v, _ => PortStatus.writes v
  | provisioningStatus, v, _ => ProvisioningStatus.writes v
  | amphoraStatus, v, _ => AmphoraStatus.writes v
  | portDeletion, v, _ => PortDeletion.writes v
  | loadBalancer, v, hv => LoadBalancer.writes v hv
  | vip, v, _ => Vip.writes v
  | additionalVip, v, _ => AdditionalVip.writes v
  | pool, v, _ => Pool.writes v
  | member, v, _ => Member.writes v
  | amphora, v, hv => Amphora.writes v hv
  | subnet, v, _ => Subnet.writes v
  | network, v, hv => Network.writes v hv
  | fixedIp, v, _ => FixedIp.writes v
  | interface, v, _ => Interface.writes v
  | port, v, hv => Port.writes v hv
  | securityGroup, v, _ => SecurityGroup.writes v
  | memberPortBinding, v, _ => MemberPortBinding.writes v
  | availabilityZone, v, _ => AvailabilityZone.writes v
  | amphoraNetworkConfig, v, hv => AmphoraNetworkConfig.writes v hv
  | allocatedVip, v, _ => AllocatedVip.writes v
  | delta, v, _ => Delta.writes v
  | subnetChange, v, _ => SubnetChange.writes v
  | snapshot, v, hv => Snapshot.writes v hv
  | loadBalancerUpdate, v, _ => LoadBalancerUpdate.writes v
  | vipUpdate, v, _ => VipUpdate.writes v

/-- The text of a value is decoded to the value, and so is the text of each document that spells
it, of which the one written for the value is one. -/
theorem ofText_spelling (t : DocumentType) (v : t.Value) (hv : t.Fits v) :
    t.codec.ofText (t.codec.toText v) = .ok v ∧ Spells t.codec v (t.codec.encode v) ∧
      ∀ j : Json, Spells t.codec v j → t.codec.ofText j.compactText = .ok v := by
  have hwritten := (t.writes v hv).spells
  exact ⟨hwritten.ofText, hwritten, fun _ hj => hj.ofText⟩

/-- An amphora that was written by hand: its members stand in another order, one of them no
amphora has, and most fields are left to the values they take when they are missing. -/
def respelledAmphora : Json :=
  .object [("vrrp_id", .natural 7), ("tags", .array [.string "spare"]), ("id", .string "a1")]

/-- The respelled amphora has members in another order, a foreign one, and most of its fields
missing. -/
theorem ofText_spelling_respelled :
    Amphora.Fits { id := "a1", vrrpId := some 7 } ∧
      Spells Amphora.codec { id := "a1", vrrpId := some 7 } respelledAmphora ∧
      Amphora.codec.ofText respelledAmphora.compactText =
        .ok { id := "a1", vrrpId := some 7 } := by
  have hfits : Amphora.Fits { id := "a1", vrrpId := some 7 } := by
    rintro n ⟨⟩
    decide
  have hspells : Spells Amphora.codec { id := "a1", vrrpId := some 7 } respelledAmphora := by
    have hperm : [("vrrp_id", .natural 7), ("tags", .array [.string "spare"]),
        ("id", .string "a1")].Perm ([("id", .string "a1"), ("vrrp_id", .natural 7)] ++
          [("tags", Json.array [.string "spare"])]) := List.perm_append_singleton _ [_, _]
    exact .record (by decide) rfl
      (.written (.text "a1") <| .left <| .left <| .left <| .left <| .left <| .left <| .left <|
        .left <| .written (.some (.word (by decide) (by decide)) nofun) .done)
      (by decide) hperm
  exact ⟨hfits, hspells, (ofText_spelling .amphora _ hfits).2.2 _ hspells⟩

/-- Leaving the policy alone, clearing it and setting it are three texts. -/
example : [none, some none, some (some "gold")].map (fun policy => VipUpdate.codec.toText ⟨policy⟩)
    = ["\x7b\x7d", "\x7b\"qos_policy_id\":null\x7d", "\x7b\"qos_policy_id\":\"gold\"\x7d"] := by
  decide +kernel

end DocumentType

end AmphoraWiring
