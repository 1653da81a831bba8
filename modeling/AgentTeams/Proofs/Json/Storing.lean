import AgentTeams.Proofs.Json.Canonical
import AgentTeams.Proofs.Json.Record

/-! Reading back what was stored. A decoder restores a value if it reads it from the stored form of
its document; a record does so if each of its fields is found, or may be absent, and no key
repeats. -/
namespace AgentTeams.Json

/-- The value comes back from what has been stored of it. -/
def Restores (encode : α → Json) (decode : Decoder α) (value : α) : Prop :=
  decode (Tree.ofJson (encode value).canonical) = .ok value

theorem restores_string (value : String) : Restores .str Decoder.string value := rfl

theorem restores_bool (value : Bool) : Restores .bool Decoder.bool value := rfl

theorem Decoder.word32_of_bounds {value : Int} (bounds : 0 ≤ value ∧ value < UInt32.size) :
    Decoder.word32 (.num (some (.integer value))) = .ok (UInt32.ofNat value.toNat) :=
  if_pos bounds

theorem restores_word32 (value : UInt32) :
    Restores (fun value => .ofNat value.toNat) Decoder.word32 value := by
  have bounded : (value.toNat : Int) < (UInt32.size : Nat) := Int.ofNat_lt.mpr value.toNat_lt_size
  have stored : Tree.ofJson (Json.ofNat value.toNat).canonical =
      .num (some (.integer value.toNat)) := rfl
  unfold Restores
  rw [stored, Decoder.word32_of_bounds ⟨Int.natCast_nonneg _, bounded⟩, Int.toNat_natCast,
    UInt32.ofNat_toNat]

theorem items_ofItems {encode : α → Json} {decode : Decoder α} {values : List α}
    (each : ∀ value ∈ values, Restores encode decode value) :
    Decoder.items decode (Tree.ofItems (canonicalItems (values.map encode))) = .ok values := by
  induction values with
  | nil => rfl
  | cons value rest ih =>
    obtain ⟨here, later⟩ := List.forall_mem_cons.mp each
    refine bind_eq_ok_iff.mpr ⟨value, here, bind_eq_ok_iff.mpr ⟨rest, ih later, rfl⟩⟩

theorem restores_list {encode : α → Json} {decode : Decoder α} {values : List α}
    (each : ∀ value ∈ values, Restores encode decode value) :
    Restores (fun values => .arr (values.map encode)) (Decoder.list decode) values :=
  bind_eq_ok_iff.mpr ⟨values, items_ofItems each, rfl⟩

theorem restores_strings (values : List String) : Restores strings Decoder.strings values :=
  restores_list fun value _ => restores_string value

theorem restores_stringSet (set : StringSet) :
    Restores (fun set => strings set.elements) Decoder.stringSet set :=
  map_eq_ok_iff.mpr ⟨set.elements, restores_strings set.elements, set.ofList_elements⟩

theorem ofMembers_eq_map (members : List (String × Json)) :
    Tree.ofMembers members = members.map fun member => (some member.1, Tree.ofJson member.2) := by
  induction members with
  | nil => rfl
  | cons member rest ih => rw [Tree.ofMembers, ih, List.map_cons]

theorem lookup_ofMembers (members : List (String × Json)) (key : String) :
    (Tree.ofMembers members).lookup (some key) = (members.lookup key).map Tree.ofJson := by
  induction members with
  | nil => rfl
  | cons member rest ih =>
    obtain ⟨first, value⟩ := member
    rw [Tree.ofMembers, lookup_cons_eq_ite, lookup_cons_eq_ite, ih]
    by_cases same : key = first <;> simp [same]

theorem member?_ofJson {members : List (String × Json)} (once : (members.map (·.1)).Nodup)
    (key : String) :
    (Tree.ofJson (.obj members)).member? key = (members.lookup key).map Tree.ofJson := by
  change (Tree.ofMembers members).reverse.lookup (some key) = _
  rw [ofMembers_eq_map, ← List.map_reverse, ← ofMembers_eq_map, lookup_ofMembers,
    lookup_reverse once]

namespace Record

/-- The value is read from these members, field by field. A field without a member has the value
that it has if it is absent. -/
def WrittenAs : {α : Type} → Record α → (String → Option Json) → α → Prop
  | _, .field name decode absent _, members, value =>
      match members name with
      | some member => decode (Tree.ofJson member) = .ok value
      | none => absent = some value
  | _, .both first second, members, (left, right) =>
      first.WrittenAs members left ∧ second.WrittenAs members right

section Fields

variable {α : Type} {name : String} {encode : α → Json} {decode : Decoder α}
  {members : String → Option Json} {value : α}

theorem writtenAs_of_member {absent unlisted : Option α}
    (member : members name = some (encode value).canonical)
    (restores : Restores encode decode value) :
    (field name decode absent unlisted).WrittenAs members value := by
  unfold WrittenAs
  rw [member]
  exact restores

theorem writtenAs_of_absent {absent unlisted : Option α} (missing : members name = none)
    (standard : absent = some value) :
    (field name decode absent unlisted).WrittenAs members value := by
  unfold WrittenAs
  rw [missing]
  exact standard

theorem omissible_writtenAs {value : Option α}
    (member : members name = value.map fun present => (encode present).canonical)
    (refused : decode .null = .error .unreadable)
    (restores : ∀ present ∈ value, Restores encode decode present) :
    (omissible name decode).WrittenAs members value := by
  unfold omissible defaulted WrittenAs
  rw [member]
  cases value with
  | none => rfl
  | some present =>
    have restored : decode (Tree.ofJson (encode present).canonical) = .ok present :=
      restores present rfl
    have there : (Tree.ofJson (encode present).canonical).present? =
        some (Tree.ofJson (encode present).canonical) := by
      cases tree : Tree.ofJson (encode present).canonical with
      | null => simp [tree, refused] at restored
      | bool | num | str | arr | obj | buried | broken => rfl
    exact Decoder.optional_eq_ok_iff.mpr (by simp [there, restored])

end Fields

variable {α σ : Type} {record : Record α} {slots : record.Slots} {held : String → Option Tree}
  {members : String → Option Json} {entries : List (String × Json)} {key : String} {value : α}
  {other : σ → String → Tree → Except DecodeError σ}

theorem take?_of_writtenAs {member : Json} (field : key ∈ record.names)
    (holds : record.Holds slots held) (free : held key = none)
    (written : record.WrittenAs members value) (present : members key = some member) :
    ∃ taken, record.take? slots key (Tree.ofJson member) = some (.ok taken) := by
  induction record with
  | field name decode absent unlisted =>
    obtain rfl := List.mem_singleton.mp field
    have empty : slots = none := by
      cases slots with
      | none => rfl
      | some _ => simp [Holds, free] at holds
    have decoded : decode (Tree.ofJson member) = .ok value := by
      simpa [WrittenAs, present] using written
    exact ⟨some value, by simp [take?, empty, decoded, Except.map]⟩
  | both first second ihFirst ihSecond =>
    obtain ⟨left, right⟩ := slots
    obtain ⟨one, two⟩ := value
    by_cases here : key ∈ first.names
    · obtain ⟨taken, took⟩ := ihFirst here holds.1 written.1
      exact ⟨(taken, right), take?_both_eq_some_iff.mpr (.inl ⟨_, took, rfl⟩)⟩
    · have there : key ∈ second.names := (List.mem_append.mp field).resolve_left here
      obtain ⟨taken, took⟩ := ihSecond there holds.2 written.2
      have untaken : first.take? left key (Tree.ofJson member) = none :=
        take?_eq_none_iff.mpr here
      exact ⟨(left, taken), take?_both_eq_some_iff.mpr (.inr ⟨untaken, _, took, rfl⟩)⟩

theorem takeMembers_of_writtenAs {start : σ} (distinct : record.names.Nodup)
    (once : (entries.map (·.1)).Nodup) (holds : record.Holds slots held)
    (free : ∀ entry ∈ entries, held entry.1 = none)
    (written : record.WrittenAs members value)
    (present : ∀ entry ∈ entries, members entry.1 = some entry.2)
    (accepts : ∀ rest key value, ∃ next, other rest key (Tree.ofJson value) = .ok next) :
    ∃ answer, record.takeMembers other (Tree.ofMembers entries) slots start = .ok answer := by
  induction entries generalizing slots held start with
  | nil => exact ⟨_, rfl⟩
  | cons entry rest ih =>
    obtain ⟨key, member⟩ := entry
    obtain ⟨new, onceLater⟩ := List.nodup_cons.mp once
    obtain ⟨freeHere, freeLater⟩ := List.forall_mem_cons.mp free
    obtain ⟨presentHere, presentLater⟩ := List.forall_mem_cons.mp present
    unfold Tree.ofMembers takeMembers
    by_cases field : key ∈ record.names
    · obtain ⟨taken, took⟩ := take?_of_writtenAs field holds freeHere written presentHere
      obtain ⟨_, held⟩ := holds_take? distinct holds took
      rw [took]
      refine ih onceLater held ?_ presentLater
      intro entry later
      have differ : entry.1 ≠ key := fun same => new (List.mem_map.mpr ⟨entry, later, same⟩)
      rw [if_neg differ, freeLater entry later]
    · obtain ⟨next, accepted⟩ := accepts start key member
      rw [take?_eq_none_iff.mpr field, accepted]
      exact ih onceLater holds freeLater presentLater

theorem complete_of_writtenAs
    (holds : record.Holds slots fun name => (members name).map Tree.ofJson)
    (written : record.WrittenAs members value) : record.complete slots = .ok value := by
  induction record with
  | field name decode absent unlisted =>
    have held : ((members name).map Tree.ofJson).map decode = Option.map .ok slots := holds
    unfold WrittenAs at written
    cases member : members name with
    | none =>
      cases slots with
      | none =>
        rw [member] at written
        rw [written]
        rfl
      | some found => simp [member] at held
    | some part =>
      cases slots with
      | none => simp [member] at held
      | some found =>
        rw [member] at written
        have same : decode (Tree.ofJson part) = .ok found := by simpa [member] using held
        exact same.symm.trans written
  | both first second ihFirst ihSecond =>
    obtain ⟨left, right⟩ := slots
    obtain ⟨one, two⟩ := value
    exact bind_eq_ok_iff.mpr ⟨one, ihFirst holds.1 written.1,
      bind_eq_ok_iff.mpr ⟨two, ihSecond holds.2 written.2, rfl⟩⟩

theorem ofMembers_of_writtenAs (start : σ) (distinct : record.names.Nodup)
    (once : (entries.map (·.1)).Nodup) (written : record.WrittenAs (entries.lookup ·) value)
    (accepts : ∀ rest key value, ∃ next, other rest key (Tree.ofJson value) = .ok next) :
    ∃ rest,
      record.ofMembers other start (Tree.ofMembers entries) .foreseen = .ok (value, rest) := by
  obtain ⟨⟨slots, rest⟩, went⟩ := takeMembers_of_writtenAs distinct once holds_noSlots
    (fun _ _ => rfl) written (fun entry member => (lookup_eq_some_iff_mem once).mpr member) accepts
  have holds := holds_takeMembers distinct holds_noSlots went
  have completed : record.complete slots = .ok value := by
    refine complete_of_writtenAs ?_ written
    simpa [lookup_ofMembers] using holds
  have closed : Closing.foreseen ≠ .missing := by decide
  exact ⟨rest, bind_eq_ok_iff.mpr ⟨(slots, rest), went,
    (if_neg closed).trans (bind_eq_ok_iff.mpr ⟨value, completed, rfl⟩)⟩⟩

/-- A record is read from what has been stored of an object with its fields, whatever else the
object has. -/
theorem decode_canonical (distinct : record.names.Nodup) (once : (entries.map (·.1)).Nodup)
    (written : record.WrittenAs (fun key => (entries.lookup key).map canonical) value) :
    record.decode (Tree.ofJson (Json.obj entries).canonical) = .ok value := by
  have accepts : ∀ (rest : Unit) (key : String) (value : Json), ∃ next,
      Decoder.ignored (Tree.ofJson value) = .ok next := by
    intro _ _ value
    exact ⟨(), by simp [Decoder.ignored, Tree.wellFormed_ofJson value]⟩
  simp only [← lookup_canonicalMembers_nil once] at written
  obtain ⟨rest, read⟩ := ofMembers_of_writtenAs () distinct
    (nodup_keys_canonicalMembers entries) written accepts
  exact map_eq_ok_iff.mpr ⟨(value, rest), read, rfl⟩

/-- A record is read from what has been stored of an object with its fields, and what else the
object has is kept. -/
theorem decodeKeeping_canonical (distinct : record.names.Nodup)
    (once : (entries.map (·.1)).Nodup)
    (written : record.WrittenAs (fun key => (entries.lookup key).map canonical) value) :
    ∃ kept, record.decodeKeeping (Tree.ofJson (Json.obj entries).canonical) = .ok (value, kept) ∧
      ∀ key, kept.get? key =
        if key ∈ record.names then none else (entries.lookup key).map canonical := by
  have accepts : ∀ (kept : StringMap Json) (key : String) (value : Json), ∃ next,
      keep kept key (Tree.ofJson value) = .ok next := by
    intro kept key value
    exact ⟨kept.insert key value.canonical, by
      simp [keep, Decoder.json, Tree.toJson?_ofJson value, Except.map]⟩
  simp only [← lookup_canonicalMembers_nil once] at written
  have once' := nodup_keys_canonicalMembers entries
  obtain ⟨kept, read⟩ := ofMembers_of_writtenAs StringMap.empty distinct once' written accepts
  have decoded : record.decodeKeeping (Tree.ofJson (Json.obj entries).canonical) =
      .ok (value, kept) := read
  refine ⟨kept, decoded, fun key => ?_⟩
  obtain ⟨own, foreign⟩ := get?_decodeKeeping decoded
  split
  · rename_i field
    exact own field
  · rename_i field
    have found := foreign field
    rw [canonical_obj, member?_ofJson once', lookup_canonicalMembers_nil once] at found
    cases here : entries.lookup key with
    | none => simpa [here] using found
    | some member =>
      simpa [here, Tree.toJson?_ofJson, canonical_canonical] using found

theorem decode_required (name : String) {encode : α → Json} {decode : Decoder α} {value : α}
    (restores : Restores encode decode value) :
    (required name decode).decode (Tree.ofJson (.obj [(name, (encode value).canonical)])) =
      .ok value := by
  have distinct : (required name decode).names.Nodup := List.nodup_singleton name
  have once : ([(name, encode value)].map (·.1)).Nodup := List.nodup_singleton name
  have written : (required name decode).WrittenAs
      (fun key => ([(name, encode value)].lookup key).map canonical) value :=
    writtenAs_of_member (by simp) restores
  exact decode_canonical distinct once written

end Record

namespace Tagged

variable {α : Type} {nested : Bool} {alternatives : List (String × α)} {alternative : α}
  {kind key : String} {content : Json}

/-- A tagged object with one field, once it is stored, has its tag in the order of the keys. -/
theorem canonical_tagged (before : key < tagField) :
    (Json.obj [(tagField, .str kind), (key, content)]).canonical =
      .obj [(key, content.canonical), (tagField, .str kind)] := by
  simp [canonical, canonicalMembers, putByKey, before]

theorem split_stored (before : key < tagField)
    (named : alternatives.lookup kind = some alternative) :
    split nested alternatives
        (Tree.ofJson (Json.obj [(tagField, .str kind), (key, content)]).canonical) =
      .ok (alternative, Tree.ofJson (.obj [(key, content.canonical)])) := by
  have apart : ∀ member ∈ [(some key, Tree.ofJson content.canonical)] ++ [], IsContent member := by
    simp only [List.append_nil, List.forall_mem_singleton]
    exact ⟨key, _, rfl, Std.ne_of_lt before, Tree.toJson?_ofJson _⟩
  have picked : tagOf nested alternatives (Tree.ofJson (.str kind)) = .ok alternative := by
    simp [Tree.ofJson, tagOf, Decoder.pick, named]
  rw [canonical_tagged before]
  exact split_obj apart picked

end Tagged

end AgentTeams.Json
