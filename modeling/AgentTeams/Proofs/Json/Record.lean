import AgentTeams.Json.Record
import AgentTeams.Proofs.Traversal

/-! Records: what a value that was read has to do with its document. Each field comes from the part
of the document that stands for it, and members that are no fields are kept as they are. -/
namespace AgentTeams.Json

theorem bind_eq_ok_iff {read : Except ε α} {next : α → Except ε β} {value : β} :
    (read >>= next) = .ok value ↔ ∃ first, read = .ok first ∧ next first = .ok value := by
  cases read <;> simp [bind, Except.bind]

theorem map_eq_ok_iff {read : Except ε α} {change : α → β} {value : β} :
    read.map change = .ok value ↔ ∃ first, read = .ok first ∧ change first = value := by
  cases read <;> simp [Except.map]

theorem of_decodeText {decode : Decoder α} {text : String} {value : α}
    (read : decodeText decode text = .ok value) : decode (Tree.ofText text).1 = .ok value := by
  unfold decodeText at read
  generalize Tree.ofText text = whole at read ⊢
  obtain ⟨tree, trailing⟩ := whole
  obtain ⟨found, decoded, read⟩ := bind_eq_ok_iff.mp read
  cases trailing with
  | true => simp at read
  | false =>
    cases read
    exact decoded

theorem Decoder.items_eq_mapM (decode : Decoder α) (trees : List Tree) :
    Decoder.items decode trees = trees.mapM decode := by
  induction trees with
  | nil => rfl
  | cons tree trees ih => rw [items, List.mapM_cons, ih]

theorem Decoder.items_forall₂ {decode : Decoder α} {trees : List Tree} {values : List α}
    (read : Decoder.items decode trees = .ok values) :
    List.Forall₂ (fun tree value => decode tree = .ok value) trees values := by
  rw [items_eq_mapM] at read
  exact Traversal.mapM_eq_ok_iff.mp read

theorem Decoder.list_forall₂ {decode : Decoder α} {tree : Tree} {values : List α}
    (read : Decoder.list decode tree = .ok values) :
    ∃ trees closing, tree = .arr trees closing ∧
      List.Forall₂ (fun tree value => decode tree = .ok value) trees values := by
  unfold Decoder.list at read
  split at read
  · rename_i trees closing
    obtain ⟨found, items, read⟩ := bind_eq_ok_iff.mp read
    split at read
    · simp at read
    · cases read
      exact ⟨trees, closing, rfl, items_forall₂ items⟩
  · simp at read

theorem Decoder.json_eq_ok_iff {tree : Tree} {value : Json} :
    Decoder.json tree = .ok value ↔ tree.toJson? = some value := by
  unfold Decoder.json
  cases tree.toJson? <;> simp

/-- What stands there, unless it is null. -/
def Tree.present? : Tree → Option Tree
  | .null => none
  | tree => some tree

theorem Decoder.optional_eq_ok_iff {decode : Decoder α} {tree : Tree} {value : Option α} :
    Decoder.optional decode tree = .ok value ↔ tree.present?.map decode = value.map .ok := by
  have present : (decode tree).map some = .ok value ↔ some (decode tree) = value.map .ok := by
    cases decode tree <;> cases value <;> simp [Except.map]
  cases tree with
  | null => cases value <;> simp [Decoder.optional, Tree.present?]
  | bool | num | str | arr | obj | buried | broken => exact present

/-- The value under a key of an object. Of members with one key the last one counts. -/
def Tree.member? (key : String) : Tree → Option Tree
  | .obj members _ => members.reverse.lookup (some key)
  | _ => none

namespace Record

/-- The fields' names in order of declaration. -/
def names : {α : Type} → Record α → List String
  | _, .field name .. => [name]
  | _, .both first second => first.names ++ second.names

/-- The part of a document that stands for a field: the member of an object under its name, the
item of an array at its place. -/
def part? (record : Record α) (name : String) : Tree → Option Tree
  | .obj members _ => members.lookup (some name)
  | .arr items _ => (record.names.zip items).lookup name
  | _ => none

/-- The value comes from these parts, field by field. A field without a part has one of its values
for that. -/
def ReadFrom : {α : Type} → Record α → (String → Option Tree) → α → Prop
  | _, .field name decode absent unlisted, parts, value =>
      match parts name with
      | some tree => decode tree = .ok value
      | none => absent = some value ∨ unlisted = some value
  | _, .both first second, parts, (left, right) =>
      first.ReadFrom parts left ∧ second.ReadFrom parts right

/-- The slots hold what these parts decode to. -/
def Holds : {α : Type} → (record : Record α) → record.Slots → (String → Option Tree) → Prop
  | α, .field name decode .., slot, parts =>
      let found : Option α := slot
      (parts name).map decode = found.map .ok
  | _, .both first second, slots, parts =>
      let (left, right) : first.Slots × second.Slots := slots
      first.Holds left parts ∧ second.Holds right parts

variable {α β σ : Type} {record : Record α} {slots taken : record.Slots}
  {parts others : String → Option Tree} {key : String} {tree : Tree} {value : α}

/-- A field is read from its part or, if it has none, is one of the values for that. -/
theorem readFrom_field_iff {name : String} {decode : Decoder α} {absent unlisted : Option α} :
    (field name decode absent unlisted).ReadFrom parts value ↔
      (∃ tree, parts name = some tree ∧ decode tree = .ok value) ∨
        parts name = none ∧ (absent = some value ∨ unlisted = some value) := by
  unfold ReadFrom
  cases parts name <;> simp

section Both

variable {first : Record α} {second : Record β} {left : first.Slots} {right : second.Slots}

theorem take?_both_eq_none_iff : (both first second).take? (left, right) key tree = none ↔
    first.take? left key tree = none ∧ second.take? right key tree = none := by
  rw [take?]
  cases first.take? left key tree <;> simp

/-- Of two records the first has the choice of the members. -/
theorem take?_both_eq_some_iff {answer : Except DecodeError (first.Slots × second.Slots)} :
    (both first second).take? (left, right) key tree = some answer ↔
      (∃ taken, first.take? left key tree = some taken ∧ taken.map (·, right) = answer) ∨
        first.take? left key tree = none ∧
          ∃ taken, second.take? right key tree = some taken ∧ taken.map (left, ·) = answer := by
  rw [take?]
  cases first.take? left key tree with
  | none =>
    refine Option.map_eq_some_iff.trans ?_
    simp only [reduceCtorEq, false_and, exists_false, false_or, true_and]
    rfl
  | some taken =>
    refine Option.some_inj.trans ?_
    simp only [Option.some.injEq, exists_eq_left', reduceCtorEq, false_and, or_false]
    rfl

end Both

theorem readFrom_congr (same : ∀ name ∈ record.names, parts name = others name)
    (read : record.ReadFrom parts value) : record.ReadFrom others value := by
  induction record with
  | field name decode absent unlisted =>
    have here : parts name = others name := same name (by simp [names])
    unfold ReadFrom at read ⊢
    rwa [← here]
  | both first second ihFirst ihSecond =>
    obtain ⟨left, right⟩ := value
    exact ⟨ihFirst (fun name member => same name (by simp [names, member])) read.1,
      ihSecond (fun name member => same name (by simp [names, member])) read.2⟩

theorem holds_congr (same : ∀ name ∈ record.names, parts name = others name)
    (holds : record.Holds slots parts) : record.Holds slots others := by
  induction record with
  | field name decode absent unlisted =>
    have here : parts name = others name := same name (by simp [names])
    unfold Holds at holds ⊢
    rwa [← here]
  | both first second ihFirst ihSecond =>
    exact ⟨ihFirst (fun name member => same name (by simp [names, member])) holds.1,
      ihSecond (fun name member => same name (by simp [names, member])) holds.2⟩

theorem holds_noSlots : record.Holds record.noSlots fun _ => none := by
  induction record with
  | field => rfl
  | both first second ihFirst ihSecond => exact ⟨ihFirst, ihSecond⟩

theorem take?_eq_none_iff : record.take? slots key tree = none ↔ key ∉ record.names := by
  induction record with
  | field name decode absent unlisted => simp [take?, names]
  | both first second ihFirst ihSecond =>
    obtain ⟨left, right⟩ := slots
    rw [take?_both_eq_none_iff, ihFirst, ihSecond, names, List.mem_append, not_or]

theorem mem_names_of_take? {answer : Except DecodeError record.Slots}
    (took : record.take? slots key tree = some answer) : key ∈ record.names := by
  apply Decidable.byContradiction
  intro absent
  simp [take?_eq_none_iff.mpr absent] at took

/-- A member that is taken is new, and is held from then on. -/
theorem holds_take? (distinct : record.names.Nodup) (holds : record.Holds slots parts)
    (took : record.take? slots key tree = some (.ok taken)) : parts key = none ∧
      record.Holds taken fun name => if name = key then some tree else parts name := by
  induction record with
  | field name decode absent unlisted =>
    unfold take? at took
    split at took
    · rename_i same
      subst same
      cases slots with
      | some _ => simp at took
      | none =>
        obtain ⟨value, decoded, rfl⟩ := map_eq_ok_iff.mp (Option.some.inj took)
        have empty : parts key = none := by simpa [Holds] using holds
        exact ⟨empty, by simp [Holds, decoded]⟩
    · simp at took
  | both first second ihFirst ihSecond =>
    obtain ⟨left, right⟩ := slots
    obtain ⟨distinctFirst, distinctSecond, apart⟩ := List.nodup_append.mp distinct
    -- The half that has no such field keeps its slots, and all its names differ from the key.
    rcases take?_both_eq_some_iff.mp took with ⟨answer, here, answered⟩ | ⟨_, answer, there, answered⟩
    · obtain ⟨next, rfl, rfl⟩ := map_eq_ok_iff.mp answered
      have member := mem_names_of_take? here
      obtain ⟨new, held⟩ := ihFirst distinctFirst holds.1 here
      refine ⟨new, held, holds_congr ?_ holds.2⟩
      intro name other
      rw [if_neg (Ne.symm (apart key member name other))]
    · obtain ⟨next, rfl, rfl⟩ := map_eq_ok_iff.mp answered
      have member := mem_names_of_take? there
      obtain ⟨new, held⟩ := ihSecond distinctSecond holds.2 there
      refine ⟨new, holds_congr ?_ holds.1, held⟩
      intro name other
      rw [if_neg (apart name other key member)]

/-- A member is taken by the field of its name, and one that is no field goes to the others. -/
theorem takeMembers_cons {other : σ → String → Tree → Except DecodeError σ} {start : σ}
    {label : Option String} {members : List (Option String × Tree)}
    (read : record.takeMembers other ((label, tree) :: members) slots start = .ok answer) :
    ∃ key, label = some key ∧
      ((∃ next, record.take? slots key tree = some (.ok next) ∧
          record.takeMembers other members next start = .ok answer) ∨
        key ∉ record.names ∧ ∃ next, other start key tree = .ok next ∧
          record.takeMembers other members slots next = .ok answer) := by
  cases label with
  | none => simp [takeMembers] at read
  | some key =>
    refine ⟨key, rfl, ?_⟩
    unfold takeMembers at read
    split at read
    · rename_i taken took
      obtain ⟨next, rfl, onward⟩ := bind_eq_ok_iff.mp read
      exact .inl ⟨next, took, onward⟩
    · rename_i untaken
      obtain ⟨next, kept, onward⟩ := bind_eq_ok_iff.mp read
      exact .inr ⟨take?_eq_none_iff.mp untaken, next, kept, onward⟩

/-- What the slots hold after all members: what they held before, and the members of the object. -/
theorem holds_takeMembers {other : σ → String → Tree → Except DecodeError σ}
    {members : List (Option String × Tree)} {start rest : σ} (distinct : record.names.Nodup)
    (holds : record.Holds slots parts)
    (read : record.takeMembers other members slots start = .ok (taken, rest)) :
    record.Holds taken fun name => (parts name).or (members.lookup (some name)) := by
  induction members generalizing slots start parts with
  | nil =>
    cases read
    simpa using holds
  | cons member members ih =>
    obtain ⟨label, tree⟩ := member
    obtain ⟨key, rfl, ⟨next, took, onward⟩ | ⟨foreign, next, _, onward⟩⟩ := takeMembers_cons read
    · obtain ⟨new, held⟩ := holds_take? distinct holds took
      refine holds_congr ?_ (ih held onward)
      intro name _
      rw [lookup_cons_eq_ite]
      by_cases same : name = key <;> simp [same, new]
    · refine holds_congr ?_ (ih holds onward)
      intro name field
      have differ : name ≠ key := ne_of_mem_of_not_mem field foreign
      rw [lookup_cons_eq_ite, if_neg (by simpa using differ)]

theorem complete_readFrom (holds : record.Holds slots parts)
    (read : record.complete slots = .ok value) : record.ReadFrom parts value := by
  induction record with
  | field name decode absent unlisted =>
    have held : (parts name).map decode = Option.map .ok slots := holds
    unfold ReadFrom
    cases part : parts name with
    | none =>
      cases slots with
      | some found => simp [part] at held
      | none =>
        cases absent with
        | none => simp [complete] at read
        | some default =>
          cases read
          exact .inl rfl
    | some tree =>
      cases slots with
      | none => simp [part] at held
      | some found =>
        cases read
        simpa [part] using held
  | both first second ihFirst ihSecond =>
    obtain ⟨left, right⟩ := slots
    obtain ⟨one, readFirst, read⟩ := bind_eq_ok_iff.mp read
    obtain ⟨two, readSecond, same⟩ := bind_eq_ok_iff.mp read
    cases same
    exact ⟨ihFirst holds.1 readFirst, ihSecond holds.2 readSecond⟩

theorem lookup_zip_eq_none {names : List String} {trees : List Tree} {name : String}
    (absent : name ∉ names) : (names.zip trees).lookup name = none := by
  apply List.lookup_eq_none_iff.mpr
  rintro ⟨other, tree⟩ member
  have known := (List.of_mem_zip member).1
  simpa using fun same : name = other => absent (same ▸ known)

theorem lookup_zip_append (names others : List String) (trees : List Tree) (name : String) :
    ((names ++ others).zip trees).lookup name =
      ((names.zip trees).lookup name).or ((others.zip (trees.drop names.length)).lookup name) := by
  induction names generalizing trees with
  | nil => simp
  | cons first names ih =>
    cases trees with
    | nil => simp
    | cons tree trees =>
      simp only [List.cons_append, List.zip_cons_cons, List.length_cons, List.drop_succ_cons,
        lookup_cons_eq_ite, ih]
      split <;> simp

theorem takeItems_readFrom {trees rest : List Tree} {closing : Closing}
    (distinct : record.names.Nodup) (read : record.takeItems trees closing = .ok (value, rest)) :
    record.ReadFrom (fun name => (record.names.zip trees).lookup name) value ∧
      rest = trees.drop record.names.length := by
  induction record generalizing trees rest with
  | field name decode absent unlisted =>
    unfold takeItems at read
    split at read
    · obtain ⟨found, decoded, same⟩ := map_eq_ok_iff.mp read
      cases same
      simp [ReadFrom, names, decoded]
    · split at read
      · simp at read
      · cases read
        simp [ReadFrom, names]
    · simp at read
  | both first second ihFirst ihSecond =>
    obtain ⟨distinctFirst, distinctSecond, apart⟩ := List.nodup_append.mp distinct
    unfold takeItems at read
    obtain ⟨⟨one, later⟩, readFirst, read⟩ := bind_eq_ok_iff.mp read
    obtain ⟨⟨two, last⟩, readSecond, same⟩ := bind_eq_ok_iff.mp read
    cases same
    obtain ⟨fromFirst, rfl⟩ := ihFirst distinctFirst readFirst
    obtain ⟨fromSecond, rfl⟩ := ihSecond distinctSecond readSecond
    -- No name stands in both halves, so each one finds its items only where it has taken them.
    refine ⟨⟨readFrom_congr ?_ fromFirst, readFrom_congr ?_ fromSecond⟩, ?_⟩
    · intro name member
      have elsewhere : name ∉ second.names := fun other => apart name member name other rfl
      simp [names, lookup_zip_append, lookup_zip_eq_none elsewhere]
    · intro name member
      have elsewhere : name ∉ first.names := fun other => apart name other name member rfl
      simp [names, lookup_zip_append, lookup_zip_eq_none elsewhere]
    · simp [names]

theorem of_ofMembers {other : σ → String → Tree → Except DecodeError σ}
    {members : List (Option String × Tree)} {start rest : σ} {closing : Closing}
    (read : record.ofMembers other start members closing = .ok (value, rest)) :
    ∃ slots, record.takeMembers other members record.noSlots start = .ok (slots, rest) ∧
      record.complete slots = .ok value := by
  obtain ⟨⟨slots, kept⟩, went, read⟩ := bind_eq_ok_iff.mp read
  by_cases missing : closing = .missing
  · simp [missing, throw, throwThe, MonadExceptOf.throw, bind, Except.bind] at read
  · simp only [missing, if_false] at read
    obtain ⟨found, completed, same⟩ := bind_eq_ok_iff.mp read
    cases same
    exact ⟨slots, went, completed⟩

/-- A value is read field by field from the parts of its document. -/
theorem decode_readFrom (distinct : record.names.Nodup) (read : record.decode tree = .ok value) :
    record.ReadFrom (record.part? · tree) value := by
  unfold decode at read
  split at read
  · obtain ⟨⟨found, _⟩, readMembers, rfl⟩ := map_eq_ok_iff.mp read
    obtain ⟨slots, went, completed⟩ := of_ofMembers readMembers
    have holds := holds_takeMembers distinct holds_noSlots went
    exact complete_readFrom (by simpa [part?] using holds) completed
  · rename_i items closing
    obtain ⟨⟨found, rest⟩, readItems, read⟩ := bind_eq_ok_iff.mp read
    by_cases fault : closing = .missing ∨ !rest.isEmpty
    · simp only [fault, if_true] at read
      cases read
    · simp only [fault, if_false] at read
      cases read
      exact (takeItems_readFrom distinct readItems).1
  · simp at read

/-- The part of a document that stands for a field, unless it is null. -/
def given? (record : Record α) (name : String) (tree : Tree) : Option Tree :=
  (record.part? name tree).bind Tree.present?

theorem optional_readFrom {name : String} {decode : Decoder α} {value : Option α}
    (read : (optional name decode).ReadFrom parts value) :
    ((parts name).bind Tree.present?).map decode = value.map .ok := by
  rcases readFrom_field_iff.mp read with ⟨tree, part, decoded⟩ | ⟨part, nothing⟩
  · simpa [part] using Decoder.optional_eq_ok_iff.mp decoded
  · have none : value = none := by simpa [eq_comm] using nothing
    simp [part, none]

/-- In an object it makes no difference whether a field may be left out at the end of an array. -/
theorem omissible_readFrom {name : String} {decode : Decoder α} {value : Option α}
    (read : (omissible name decode).ReadFrom parts value) :
    ((parts name).bind Tree.present?).map decode = value.map .ok := by
  apply optional_readFrom
  apply readFrom_field_iff.mpr
  rcases readFrom_field_iff.mp read with given | ⟨part, nothing⟩
  · exact .inl given
  · exact .inr ⟨part, .inl (or_self_iff.mp nothing)⟩

/-- A field has no part and no value, or a part that decodes to its value. -/
theorem given_cases {part : Option Tree} {decode : Decoder α} {value : Option α}
    (read : part.map decode = value.map .ok) :
    (part = none ∧ value = none) ∨
      ∃ tree found, part = some tree ∧ value = some found ∧ decode tree = .ok found := by
  cases part with
  | none =>
    cases value with
    | none => exact .inl ⟨rfl, rfl⟩
    | some found => simp at read
  | some tree =>
    cases value with
    | none => simp at read
    | some found => exact .inr ⟨tree, found, rfl, rfl, by simpa using read⟩

/-- What is kept after all members: of those that are no fields the last under each key. -/
theorem get?_takeMembers {members : List (Option String × Tree)} {start rest : StringMap Json}
    (read : record.takeMembers keep members slots start = .ok (taken, rest)) :
    (key ∈ record.names → rest.get? key = start.get? key) ∧
    (key ∉ record.names → (rest.get? key).map some =
      ((members.reverse.lookup (some key)).map Tree.toJson?).or ((start.get? key).map some)) := by
  induction members generalizing slots start with
  | nil =>
    cases read
    simp
  | cons member members ih =>
    obtain ⟨label, tree⟩ := member
    obtain ⟨other, rfl, ⟨next, took, onward⟩ | ⟨foreign, next, kept, onward⟩⟩ :=
      takeMembers_cons read
    · obtain ⟨fields, others⟩ := ih onward
      -- Nothing is kept of a field, and a key that is no field is another one.
      refine ⟨fields, fun absent => ?_⟩
      have differ : key ≠ other := (ne_of_mem_of_not_mem (mem_names_of_take? took) absent).symm
      simp [others absent, List.lookup_append, lookup_cons_eq_ite, differ]
    · obtain ⟨value, canonical, rfl⟩ := map_eq_ok_iff.mp kept
      have stored := Decoder.json_eq_ok_iff.mp canonical
      obtain ⟨fields, others⟩ := ih onward
      constructor
      · intro field
        have differ : key ≠ other := ne_of_mem_of_not_mem field foreign
        rw [fields field, StringMap.get?_insert, if_neg differ]
      · intro absent
        rw [others absent, StringMap.get?_insert, List.reverse_cons, List.lookup_append,
          lookup_cons_eq_ite]
        by_cases same : key = other
        · cases members.reverse.lookup (some key) <;> simp [same, stored]
        · simp [same]

theorem get?_decodeKeeping {kept : StringMap Json}
    (read : record.decodeKeeping tree = .ok (value, kept)) :
    (key ∈ record.names → kept.get? key = none) ∧
    (key ∉ record.names → (kept.get? key).map some = (tree.member? key).map Tree.toJson?) := by
  unfold decodeKeeping at read
  split at read
  · obtain ⟨slots, went, _⟩ := of_ofMembers read
    simpa [Tree.member?] using get?_takeMembers went
  · simp at read

end Record

end AgentTeams.Json
