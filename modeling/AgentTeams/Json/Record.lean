import AgentTeams.Json.Decode

/-!
Records: documents with named fields. A record is read from an object, whose members may come in
any order, or from an array with the fields in order of declaration. From an object each field is
decoded where it stands, so the first fault of the text wins; a field that is absent is noticed at
the end.
-/
namespace AgentTeams.Json

/-- The fields of a record that decodes to `α`. A field with no value for `absent` has to be
there; one with a value for `unlisted` may be left out at the end of an array. -/
inductive Record : Type → Type 1 where
  | field {α : Type} (name : String) (decode : Decoder α) (absent unlisted : Option α) : Record α
  | both {α β : Type} (first : Record α) (second : Record β) : Record (α × β)

namespace Record

def required (name : String) (decode : Decoder α) : Record α :=
  .field name decode none none

/-- A field that may be absent or null. -/
def optional (name : String) (decode : Decoder α) : Record (Option α) :=
  .field name (Decoder.optional decode) (some none) none

/-- A field that may be absent, in objects and at the end of arrays. -/
def defaulted (name : String) (decode : Decoder α) (value : α) : Record α :=
  .field name decode (some value) (some value)

/-- A field that may be absent, in objects and at the end of arrays, or null. -/
def omissible (name : String) (decode : Decoder α) : Record (Option α) :=
  .defaulted name (Decoder.optional decode) none

/-- The values that were found so far. -/
def Slots : {α : Type} → Record α → Type
  | α, .field .. => Option α
  | _, .both first second => first.Slots × second.Slots

def noSlots : {α : Type} → (record : Record α) → record.Slots
  | _, .field .. => none
  | _, .both first second => (first.noSlots, second.noSlots)

/-- Take a member of an object, if the record has a field of that name. -/
def take? : {α : Type} → (record : Record α) → record.Slots → String → Tree →
    Option (Except DecodeError record.Slots)
  | _, .field name decode .., slot, key, tree =>
      if key = name then
        some (match slot with
          | some _ => .error (.duplicateField name)
          | none => (decode tree).map some)
      else none
  | _, .both first second, slots, key, tree =>
      let (left, right) : first.Slots × second.Slots := slots
      match first.take? left key tree with
      | some taken => some (taken.map (·, right))
      | none => (second.take? right key tree).map (·.map (left, ·))

/-- The record, once all members were seen. -/
def complete : {α : Type} → (record : Record α) → record.Slots → Except DecodeError α
  | _, .field name _ absent _, slot =>
      match slot, absent with
      | some value, _ => .ok value
      | none, some value => .ok value
      | none, none => .error (.missingField name)
  | _, .both first second, slots => do
      let (left, right) : first.Slots × second.Slots := slots
      let value ← first.complete left
      return (value, ← second.complete right)

/-- Go through the members of an object; `other` receives those that are no fields. -/
def takeMembers (record : Record α) (other : σ → String → Tree → Except DecodeError σ) :
    List (Option String × Tree) → record.Slots → σ → Except DecodeError (record.Slots × σ)
  | [], slots, rest => .ok (slots, rest)
  | (none, _) :: _, _, _ => .error .unreadable
  | (some key, tree) :: members, slots, rest =>
      match record.take? slots key tree with
      | some taken => do record.takeMembers other members (← taken) rest
      | none => do record.takeMembers other members slots (← other rest key tree)

/-- Read the record from the members of an object. -/
def ofMembers (record : Record α) (other : σ → String → Tree → Except DecodeError σ) (start : σ)
    (members : List (Option String × Tree)) (closing : Closing) : Except DecodeError (α × σ) := do
  let (slots, rest) ← record.takeMembers other members record.noSlots start
  if closing = .missing then throw .unreadable
  return (← record.complete slots, rest)

/-- Read the fields in order of declaration from the items of an array. -/
def takeItems : {α : Type} → Record α → List Tree → Closing → Except DecodeError (α × List Tree)
  | _, .field _ decode _ unlisted, trees, closing =>
      match trees, unlisted with
      | tree :: rest, _ => (decode tree).map (·, rest)
      | [], some value => if closing = .missing then .error .unreadable else .ok (value, [])
      | [], none => .error .unreadable
  | _, .both first second, trees, closing => do
      let (value, trees) ← first.takeItems trees closing
      let (other, trees) ← second.takeItems trees closing
      return ((value, other), trees)

def ofItems (record : Record α) (items : List Tree) (closing : Closing) : Except DecodeError α := do
  let (value, rest) ← record.takeItems items closing
  if closing = .missing ∨ !rest.isEmpty then throw .unreadable
  return value

/-- Read the record; members that are no fields are ignored. -/
def decode (record : Record α) : Decoder α
  | .obj members closing =>
      (record.ofMembers (fun _ _ tree => Decoder.ignored tree) () members closing).map (·.1)
  | .arr items closing => record.ofItems items closing
  | _ => .error .unreadable

/-- Keep a member that is no field. -/
def keep (kept : StringMap Json) (key : String) (tree : Tree) :
    Except DecodeError (StringMap Json) :=
  (Decoder.json tree).map (kept.insert key)

/-- Read the record from an object; the members that are no fields are kept. -/
def decodeKeeping (record : Record α) : Decoder (α × StringMap Json)
  | .obj members closing => record.ofMembers keep StringMap.empty members closing
  | _ => .error .unreadable

end Record

namespace Tagged

/-- The name of the member that holds the tag, which says what the other fields of a document
are. -/
def tagField : String := "type"

/-- Which alternative a tag names. Inside other tagged content a tag may also be the alternative's
number. -/
def tagOf (nested : Bool) (alternatives : List (String × α)) : Decoder α
  | .str (some name) => Decoder.pick alternatives name
  | .num (some (.integer index)) =>
      match nested, alternatives[index.toNat]? with
      | true, some (_, value) => if 0 ≤ index then .ok value else .error .unreadable
      | _, _ => .error .unreadable
  | _ => .error .unreadable

/-- Content is looked at only after the tag, so all of it has to be free of faults. -/
private def content (tree : Tree) : Except DecodeError Tree := do
  let _ ← Decoder.json tree
  return tree

private def splitMembers (nested : Bool) (alternatives : List (String × α)) :
    List (Option String × Tree) → Option α →
    Except DecodeError (Option α × List (Option String × Tree))
  | [], tag => .ok (tag, [])
  | (none, _) :: _, _ => .error .unreadable
  | (some key, tree) :: members, tag => do
      if key = tagField then
        if tag.isSome then throw (.duplicateField tagField)
        splitMembers nested alternatives members (some (← tagOf nested alternatives tree))
      else
        let tree ← content tree
        let (tag, rest) ← splitMembers nested alternatives members tag
        return (tag, (some key, tree) :: rest)

/-- The alternative that a document names, and the fields that remain. The tag may stand anywhere
in an object; in an array it comes first. -/
def split (nested : Bool) (alternatives : List (String × α)) : Decoder (α × Tree)
  | .obj members closing => do
      let (tag, rest) ← splitMembers nested alternatives members none
      if closing = .missing then throw .unreadable
      match tag with
      | some alternative => return (alternative, .obj rest .foreseen)
      | none => throw (.missingField tagField)
  | .arr [] closing => .error (if closing = .missing then .unreadable else .missingField tagField)
  | .arr (tag :: items) closing => do
      let alternative ← tagOf nested alternatives tag
      let items ← items.mapM content
      if closing = .missing then throw .unreadable
      return (alternative, .arr items .foreseen)
  | _ => .error .unreadable

/-- A member that is not the tag and has no fault. -/
def IsContent (member : Option String × Tree) : Prop :=
  ∃ key value, member.1 = some key ∧ key ≠ tagField ∧ member.2.toJson? = some value

section Split

variable {α : Type} {nested : Bool} {alternatives : List (String × α)}
  {before after rest fields : List (Option String × Tree)} {tag : Tree} {alternative : α}

private theorem splitMembers_cons {member : Option String × Tree} {seen found : Option α}
    (apart : IsContent member)
    (onward : splitMembers nested alternatives rest seen = .ok (found, fields)) :
    splitMembers nested alternatives (member :: rest) seen = .ok (found, member :: fields) := by
  obtain ⟨label, tree⟩ := member
  obtain ⟨key, value, rfl, differ, read : tree.toJson? = some value⟩ := apart
  have kept : content tree = .ok tree := by
    simp [content, Decoder.json, read, bind, Except.bind, pure, Except.pure]
  simp [splitMembers, differ, kept, onward, bind, Except.bind, pure, Except.pure]

private theorem splitMembers_content (apart : ∀ member ∈ rest, IsContent member)
    (seen : Option α) : splitMembers nested alternatives rest seen = .ok (seen, rest) := by
  induction rest with
  | nil => rfl
  | cons member rest ih =>
    obtain ⟨here, later⟩ := List.forall_mem_cons.mp apart
    exact splitMembers_cons here (ih later)

private theorem splitMembers_tag (apart : ∀ member ∈ before ++ after, IsContent member)
    (named : tagOf nested alternatives tag = .ok alternative) :
    splitMembers nested alternatives (before ++ (some tagField, tag) :: after) none =
      .ok (some alternative, before ++ after) := by
  induction before with
  | nil =>
    have others : splitMembers nested alternatives after (some alternative) =
        .ok (some alternative, after) := splitMembers_content apart _
    simpa [splitMembers, named, bind, Except.bind] using others
  | cons member before ih =>
    obtain ⟨here, later⟩ := List.forall_mem_cons.mp apart
    exact splitMembers_cons here (ih later)

/-- An object splits at its tag, wherever that stands among members that have no fault. -/
theorem split_obj (apart : ∀ member ∈ before ++ after, IsContent member)
    (named : tagOf nested alternatives tag = .ok alternative) :
    split nested alternatives (.obj (before ++ (some tagField, tag) :: after) .foreseen) =
      .ok (alternative, .obj (before ++ after) .foreseen) := by
  simp [split, splitMembers_tag apart named, bind, Except.bind, pure, Except.pure]

end Split

/-- Content without fields: an object may have some nevertheless, an array may not. -/
def noFields : Decoder Unit
  | .obj _ _ => .ok ()
  | .arr items _ => if items.isEmpty then .ok () else .error .unreadable
  | _ => .error .unreadable

end Tagged

end AgentTeams.Json
