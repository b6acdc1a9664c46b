import AmphoraWiring.Codec.Record
import AmphoraWiring.Proofs.Address.Spelling
import AmphoraWiring.Proofs.Json.Reading
import AmphoraWiring.Proofs.Listing

/-!
The documents that spell a value, and that each of them is read as this value. A record may have
its members in any order, unknown members among them, and may leave out a field that has the value
it takes when it is missing.
-/
namespace AmphoraWiring

open Json (reread rereadItems rereadMembers)

def Fields.names : {τ σ : Type} → Fields τ σ → List String
  | _, _, .done => []
  | _, _, .field name _ _ _ next => name :: next.names

namespace Codec

mutual

/-- The document spells the value: it is what is written for the value, but for the members of
records, which stand in any order between `extra` ones and without some of the fields that take
their value when they are missing. -/
inductive Spells : {α : Type} → Codec α → α → Json → Prop
  | text (s : String) : Spells text s (.string s)
  | flag (b : Bool) : Spells flag b (.bool b)
  | word {bits : Nat} {name : String} {n : Nat} (hbits : bits ≤ 64) (hn : n < Nat.pow 2 bits) :
      Spells (word bits name) n (.natural n)
  | address (a : Address) : Spells address a (.string a.text)
  | cidr (c : Cidr) : Spells cidr c (.string c.text)
  | enumeration {α : Type} {known : List (String × α)} {name : α → String} {a : α}
      (h : known.find? (fun k => k.1 = name a) = some (name a, a)) :
      Spells (enumeration known name) a (.string (name a))
  | none {α : Type} {codec : Codec α} : Spells codec.option none .null
  | some {α : Type} {codec : Codec α} {a : α} {j : Json} (h : Spells codec a j)
      (hj : j ≠ .null) : Spells codec.option (some a) j
  | given {α : Type} {codec : Codec α} {a : α} {j : Json} (h : Spells codec a j) :
      Spells codec.given (Option.some a) j
  | list {α : Type} {codec : Codec α} {as : List α} {items : List Json}
      (h : SpellsItems codec as items) : Spells codec.list as (.array items)
  | idMap {α : Type} {codec : Codec α} {m : IdMap α} {members : List (String × Json)}
      (h : SpellsEntries codec m.entries members) : Spells codec.idMap m (.object members)
  | record {α τ σ : Type} {name : String} {fields : Fields τ σ} {ofTuple : τ → α}
      {toTuple : α → τ} {a : α} {values : τ} {written extra members : List (String × Json)}
      (hnames : fields.names.Nodup) (ha : ofTuple values = a)
      (h : SpellsFields fields values written) (hextra : ∀ m ∈ extra, m.1 ∉ fields.names)
      (hperm : members.Perm (written ++ extra)) :
      Spells (record name fields ofTuple toTuple) a (.object members)

inductive SpellsItems : {α : Type} → Codec α → List α → List Json → Prop
  | nil {α : Type} {codec : Codec α} : SpellsItems codec [] []
  | cons {α : Type} {codec : Codec α} {a : α} {as : List α} {j : Json} {items : List Json}
      (h : Spells codec a j) (hs : SpellsItems codec as items) :
      SpellsItems codec (a :: as) (j :: items)

inductive SpellsEntries : {α : Type} → Codec α → List (String × α) → List (String × Json) → Prop
  | nil {α : Type} {codec : Codec α} : SpellsEntries codec [] []
  | cons {α : Type} {codec : Codec α} {id : String} {a : α} {entries : List (String × α)}
      {j : Json} {members : List (String × Json)} (h : Spells codec a j)
      (hs : SpellsEntries codec entries members) :
      SpellsEntries codec ((id, a) :: entries) ((id, j) :: members)

/-- The fields of a record in their order, each written or left out. -/
inductive SpellsFields : {τ σ : Type} → Fields τ σ → τ → List (String × Json) → Prop
  | done : SpellsFields .done () []
  | written {α τ σ : Type} {name : String} {codec : Codec α} {missing : Missing α}
      {hidden : α → Bool} {next : Fields τ σ} {v : α} {vs : τ} {j : Json}
      {members : List (String × Json)} (h : Spells codec v j)
      (hs : SpellsFields next vs members) :
      SpellsFields (.field name codec missing hidden next) (v, vs) ((name, j) :: members)
  | left {α τ σ : Type} {name : String} {codec : Codec α} {inArray : Bool}
      {hidden : α → Bool} {next : Fields τ σ} {v : α} {vs : τ}
      {members : List (String × Json)} (hs : SpellsFields next vs members) :
      SpellsFields (.field name codec (.filled v inArray) hidden next) (v, vs) members

end

end Codec

/-! Reading the members of a record -/

namespace Fields

variable {τ σ : Type}

/-- The field of the name reads the node as its value. -/
def Takes : {τ σ : Type} → Fields τ σ → τ → String → Node → Prop
  | _, _, .done, (), _, _ => False
  | _, _, .field own codec _ _ next, (v, vs), name, node =>
    if own = name then ∀ source, codec.decode source node = .ok v else next.Takes vs name node

/-- A field that is not read takes its value when it is missing. -/
def Fills : {τ σ : Type} → Fields τ σ → τ → (String → Bool) → Prop
  | _, _, .done, (), _ => True
  | _, _, .field own _ missing _ next, (v, vs), read =>
    (read own = false → ∃ inArray, missing = .filled v inArray) ∧ next.Fills vs read

/-- What has been taken in when the fields of some names have been read. -/
def slots : {τ σ : Type} → Fields τ σ → τ → (String → Bool) → σ
  | _, _, .done, (), _ => ()
  | _, _, .field own _ _ _ next, (v, vs), read =>
    (if read own then some v else none, next.slots vs read)

theorem unread_eq_slots : {τ σ : Type} → (fields : Fields τ σ) → (vs : τ) →
    fields.unread = fields.slots vs fun _ => false
  | _, _, .done, () => rfl
  | _, _, .field _ _ _ _ next, (_, vs) => congrArg (Prod.mk none) (next.unread_eq_slots vs)

/-- Only the fields that were read matter to the slots. -/
theorem slots_congr {read read' : String → Bool} : {τ σ : Type} → (fields : Fields τ σ) →
    (vs : τ) → (∀ name ∈ fields.names, read name = read' name) →
      fields.slots vs read = fields.slots vs read'
  | _, _, .done, (), _ => rfl
  | _, _, .field own _ _ _ next, (v, vs), h => by
    simp only [slots, h own List.mem_cons_self,
      next.slots_congr vs fun name hname => h name (List.mem_cons_of_mem _ hname)]

/-- The slots of a value make the value, with what stands for the fields that are missing. -/
theorem finish_slots {read : String → Bool} : {τ σ : Type} → (fields : Fields τ σ) → (vs : τ) →
    fields.Fills vs read → fields.finish (fields.slots vs read) = .ok vs
  | _, _, .done, (), _ => rfl
  | _, _, .field own _ missing _ next, (v, vs), h => by
    obtain ⟨hmissing, hnext⟩ := h
    have hfinish := next.finish_slots vs hnext
    cases hread : read own with
    | true => simp [finish, slots, hread, hfinish]; rfl
    | false =>
      obtain ⟨inArray, rfl⟩ := hmissing hread
      simp [finish, slots, hread, hfinish]; rfl

/-- A member that no field claims is passed over. -/
theorem accept_of_notMem (source : Source) {name : String} (node : Node) : {τ σ : Type} →
    (fields : Fields τ σ) → (slots : σ) → name ∉ fields.names →
      fields.accept source name node slots = .ok none
  | _, _, .done, (), _ => rfl
  | _, _, .field own _ _ _ next, (slot, slots), h => by
    simp only [names, List.mem_cons, not_or] at h
    obtain ⟨hown, hnext⟩ := h
    simp only [accept, Ne.symm hown, if_false, next.accept_of_notMem source node slots hnext]
    rfl

/-- A member of a field that has not been read is taken in as its value. -/
theorem accept_slots (source : Source) {name : String} {node : Node} {read : String → Bool}
    (hread : read name = false) : {τ σ : Type} → (fields : Fields τ σ) → (vs : τ) →
      fields.names.Nodup → fields.Takes vs name node →
        fields.accept source name node (fields.slots vs read) =
          .ok (some (fields.slots vs fun n => read n || n = name))
  | _, _, .done, (), _, h => h.elim
  | _, _, .field own _ _ _ next, (v, vs), hnames, h => by
    obtain ⟨hown, hnext⟩ := List.nodup_cons.mp hnames
    simp only [Takes] at h
    split at h
    next heq =>
      subst heq
      have hsame : next.slots vs read = next.slots vs fun n => read n || n = own := by
        apply next.slots_congr
        intro n hn
        have hne : n ≠ own := fun h => hown (h ▸ hn)
        simp [hne]
      simp [accept, slots, hread, h source, ← hsame]
      rfl
    next hne =>
      have haccept := next.accept_slots source hread vs hnext h
      simp [accept, slots, hne, haccept]
      rfl

/-- Members are taken in one after the other; those that no field has the name of are skipped. -/
theorem decodeMembers_slots (source : Source) {fields : Fields τ σ} {vs : τ}
    (hnames : fields.names.Nodup) (members : List (String × Json)) (read : String → Bool)
    (htakes : ∀ m ∈ members, m.1 ∈ fields.names → fields.Takes vs m.1 (reread m.2))
    (hread : ∀ m ∈ members, m.1 ∈ fields.names → read m.1 = false)
    (hnodup : ((members.map (·.1)).filter (· ∈ fields.names)).Nodup) :
    fields.decodeMembers source (fields.slots vs read) (rereadMembers members) =
      .ok (fields.slots vs fun n => read n || n ∈ members.map (·.1)) := by
  induction members generalizing read with
  | nil => simp [rereadMembers, decodeMembers]
  | cons member members ih =>
    obtain ⟨name, value⟩ := member
    obtain ⟨htake, htakes⟩ := List.forall_mem_cons.mp htakes
    obtain ⟨hname, hread⟩ := List.forall_mem_cons.mp hread
    by_cases hmem : name ∈ fields.names
    · rw [List.map_cons, List.filter_cons_of_pos (by simpa using hmem)] at hnodup
      obtain ⟨hfresh, hnodup⟩ := List.nodup_cons.mp hnodup
      have hread' : ∀ m ∈ members, m.1 ∈ fields.names → (read m.1 || m.1 = name) = false := by
        intro m hm hmem'
        have hne : m.1 ≠ name := by
          intro heq
          refine hfresh (List.mem_filter.mpr ⟨?_, by simpa using hmem⟩)
          exact List.mem_map.mpr ⟨m, hm, heq⟩
        simp [hread m hm hmem', hne]
      have hnext := ih (fun n => read n || n = name) htakes hread' hnodup
      simp only [rereadMembers, decodeMembers,
        fields.accept_slots source (hname hmem) vs hnames (htake hmem)]
      refine Eq.trans hnext (congrArg Except.ok (fields.slots_congr vs fun n _ => ?_))
      rw [List.map_cons, Bool.eq_iff_iff]
      simp [or_assoc]
    · rw [List.map_cons, List.filter_cons_of_neg (by simpa using hmem)] at hnodup
      have hnext := ih read htakes hread hnodup
      simp only [rereadMembers, decodeMembers, bind, Except.bind,
        fields.accept_of_notMem source (reread value) _ hmem, Json.skipFault?_reread]
      refine Eq.trans hnext (congrArg Except.ok (fields.slots_congr vs fun n hn => ?_))
      have hne : n ≠ name := fun h => hmem (h ▸ hn)
      rw [List.map_cons, Bool.eq_iff_iff]
      simp [hne]

end Fields

namespace Codec

/-- What the members of a record spell is taken in by its fields, each member once. -/
structure Written {τ σ : Type} (fields : Fields τ σ) (vs : τ) (written : List (String × Json)) :
    Prop where
  names : (written.map (·.1)).Sublist fields.names
  takes : ∀ m ∈ written, fields.Takes vs m.1 (reread m.2)
  fills : ∀ read : String → Bool, (∀ m ∈ written, read m.1 = true) → fields.Fills vs read

/-- Members may stand in any order, and others among them. -/
theorem decode_record {α τ σ : Type} {name : String} {fields : Fields τ σ} {ofTuple : τ → α}
    {toTuple : α → τ} {values : τ} {written extra members : List (String × Json)}
    (hnames : fields.names.Nodup) (h : Written fields values written)
    (hextra : ∀ m ∈ extra, m.1 ∉ fields.names) (hperm : members.Perm (written ++ extra))
    (source : Source) : (record name fields ofTuple toTuple).decode source
      (.object (rereadMembers members) none) = .ok (ofTuple values) := by
  have hwritten : ∀ m ∈ members, m.1 ∈ fields.names → m ∈ written := by
    intro m hm hmem
    rcases List.mem_append.mp (hperm.mem_iff.mp hm) with hm | hm
    · exact hm
    · exact absurd hmem (hextra m hm)
  have hnodup : ((members.map (·.1)).filter (· ∈ fields.names)).Nodup := by
    have hnone : (extra.map (·.1)).filter (· ∈ fields.names) = [] := by
      simpa [List.filter_eq_nil_iff] using hextra
    have hfilter := (hperm.map (·.1)).filter (· ∈ fields.names)
    rw [List.map_append, List.filter_append, hnone, List.append_nil] at hfilter
    exact hfilter.nodup_iff.mpr ((h.names.nodup hnames).filter _)
  have hslots := Fields.decodeMembers_slots source hnames members (fun _ => false)
    (fun m hm hmem => h.takes m (hwritten m hm hmem)) (fun _ _ _ => rfl) hnodup
  have hfills : fields.Fills values fun n => false || n ∈ members.map (·.1) := by
    refine h.fills _ fun m hm => ?_
    have hmem : m ∈ members := hperm.mem_iff.mpr (List.mem_append_left _ hm)
    simpa using ⟨m.2, hmem⟩
  rw [← fields.unread_eq_slots values] at hslots
  simp only [record, hslots]
  change (fields.finish _ >>= fun values => pure (ofTuple values)) = _
  rw [fields.finish_slots values hfills]
  rfl

/-- A map is the map of its entries. -/
theorem ofList_entries {α : Type} (m : IdMap α) : IdMap.ofList m.entries = m := by
  apply IdMap.ext_get?
  intro id
  apply Option.ext
  intro a
  rw [← IdMap.mem_entries_iff, ← IdMap.mem_entries_iff]
  exact (IdMap.entries_ofList_perm (IdMap.keys_nodup m)).mem_iff

theorem decodeItems_cons {α : Type} {codec : Codec α} {source : Source} {node : Node}
    {nodes : List Node} {a : α} {as : List α} (h : codec.decode source node = .ok a)
    (hs : codec.decodeItems source nodes = .ok as) :
    codec.decodeItems source (node :: nodes) = .ok (a :: as) := by
  simp only [decodeItems, h, hs]
  rfl

theorem decodeMembers_cons {α : Type} {codec : Codec α} {source : Source} {name : String}
    {node : Node} {members : List (Except Fault String × Node)} {a : α}
    {entries : List (String × α)} (h : codec.decode source node = .ok a)
    (hs : codec.decodeMembers source members = .ok entries) :
    codec.decodeMembers source ((.ok name, node) :: members) = .ok ((name, a) :: entries) := by
  simp only [decodeMembers, h, hs]
  rfl

theorem decode_option {α : Type} {codec : Codec α} {source : Source} {node : Node} {a : α}
    (hnode : node ≠ .null) (h : codec.decode source node = .ok a) :
    codec.option.decode source node = .ok (some a) := by
  cases node with
  | null => exact absurd rfl hnode
  | _ => simp only [option, h]; rfl

theorem Written.cons {α τ σ : Type} {name : String} {codec : Codec α} {missing : Missing α}
    {hidden : α → Bool} {next : Fields τ σ} {v : α} {vs : τ} {j : Json}
    {written : List (String × Json)} (hname : name ∉ next.names)
    (h : ∀ source, codec.decode source (reread j) = .ok v) (hs : Written next vs written) :
    Written (.field name codec missing hidden next) (v, vs) ((name, j) :: written) := by
  constructor
  case names => exact hs.names.cons_cons name
  case takes =>
    refine List.forall_mem_cons.mpr ⟨by simpa [Fields.Takes] using h, fun m hm => ?_⟩
    have hne : name ≠ m.1 := fun heq => hname (heq ▸ hs.names.subset (List.mem_map_of_mem hm))
    simpa [Fields.Takes, hne] using hs.takes m hm
  case fills =>
    intro read hread
    obtain ⟨hown, hrest⟩ := List.forall_mem_cons.mp hread
    exact ⟨fun hfalse => by simp [hown] at hfalse, hs.fills read hrest⟩

/-- A field that is missing is filled with the value that it would have had. -/
theorem Written.left {α τ σ : Type} {name : String} {codec : Codec α} {inArray : Bool}
    {hidden : α → Bool} {next : Fields τ σ} {v : α} {vs : τ} {written : List (String × Json)}
    (hname : name ∉ next.names) (hs : Written next vs written) :
    Written (.field name codec (.filled v inArray) hidden next) (v, vs) written := by
  constructor
  case names => exact hs.names.cons name
  case takes =>
    intro m hm
    have hne : name ≠ m.1 := fun heq => hname (heq ▸ hs.names.subset (List.mem_map_of_mem hm))
    simpa [Fields.Takes, hne] using hs.takes m hm
  case fills => exact fun read hread => ⟨fun _ => ⟨inArray, rfl⟩, hs.fills read hread⟩

mutual

/-- A document that spells a value is read as the value, and only `null` is read as `null`. -/
theorem Spells.decode : {α : Type} → {codec : Codec α} → {a : α} → {j : Json} →
    Spells codec a j →
      (reread j = .null → j = .null) ∧ ∀ source, codec.decode source (reread j) = .ok a
  | _, _, _, _, .text s => ⟨nofun, fun _ => rfl⟩
  | _, _, _, _, .flag b => ⟨nofun, fun _ => rfl⟩
  | _, _, _, _, .word hbits hn => by
    have hnode := Json.reread_natural
      (Nat.lt_of_lt_of_le hn (Nat.pow_le_pow_right (by decide) hbits))
    rw [hnode]
    exact ⟨nofun, fun _ => if_pos hn⟩
  | _, _, _, _, .address a => ⟨nofun, fun _ => by
      simp [Codec.address, reread, Address.ofText?_text]⟩
  | _, _, _, _, .cidr c => ⟨nofun, fun _ => by simp [Codec.cidr, reread, Cidr.ofText?_text]⟩
  | _, _, _, _, .enumeration h => ⟨nofun, fun source => by
      cases source <;> simp [Codec.enumeration, reread, variant?, h]⟩
  | _, _, _, _, .none => ⟨fun _ => rfl, fun _ => rfl⟩
  | _, _, _, _, .some h hj => by
    obtain ⟨hnull, hdecode⟩ := h.decode
    exact ⟨hnull, fun source => decode_option (mt hnull hj) (hdecode source)⟩
  | _, _, _, _, .given h => by
    obtain ⟨hnull, hdecode⟩ := h.decode
    exact ⟨hnull, fun source => by simp [Codec.given, hdecode source]; rfl⟩
  | _, _, _, _, .list h => ⟨nofun, fun source => by
      simp only [Codec.list, reread, h.decode source]
      rfl⟩
  | _, _, _, _, .idMap h => ⟨nofun, fun source => by
      simp only [Codec.idMap, reread, h.decode source]
      exact congrArg Except.ok (ofList_entries _)⟩
  | _, _, _, _, .record hnames ha h hextra hperm =>
    ⟨nofun, fun source => ha ▸ decode_record hnames (h.decode hnames) hextra hperm source⟩

/-- Items are decoded one by one. -/
theorem SpellsItems.decode : {α : Type} → {codec : Codec α} → {as : List α} →
    {items : List Json} → SpellsItems codec as items → (source : Source) →
      codec.decodeItems source (rereadItems items) = .ok as
  | _, _, _, _, .nil, _ => rfl
  | _, _, _, _, .cons h hs, source => decodeItems_cons (h.decode.2 source) (hs.decode source)

theorem SpellsEntries.decode : {α : Type} → {codec : Codec α} → {entries : List (String × α)} →
    {members : List (String × Json)} → SpellsEntries codec entries members → (source : Source) →
      codec.decodeMembers source (rereadMembers members) = .ok entries
  | _, _, _, _, .nil, _ => rfl
  | _, _, _, _, .cons h hs, source => decodeMembers_cons (h.decode.2 source) (hs.decode source)

/-- By induction on the fields: each is decoded from its member or filled. -/
theorem SpellsFields.decode : {τ σ : Type} → {fields : Fields τ σ} → {vs : τ} →
    {written : List (String × Json)} → SpellsFields fields vs written → fields.names.Nodup →
      Written fields vs written
  | _, _, _, _, _, .done, _ => ⟨.refl _, by simp, fun _ _ => trivial⟩
  | _, _, _, _, _, .written h hs, hnames =>
    have ⟨hname, hnext⟩ := List.nodup_cons.mp hnames
    .cons hname h.decode.2 (hs.decode hnext)
  | _, _, _, _, _, .left hs, hnames =>
    have ⟨hname, hnext⟩ := List.nodup_cons.mp hnames
    .left hname (hs.decode hnext)

end

/-- The text of a document that spells a value is decoded to the value. -/
theorem Spells.ofText {α : Type} {codec : Codec α} {a : α} {j : Json} (h : Spells codec a j) :
    codec.ofText j.compactText = .ok a := by
  simp only [Codec.ofText, Json.readText_compactText, h.decode.2 .text]
  rfl

end Codec

end AmphoraWiring
