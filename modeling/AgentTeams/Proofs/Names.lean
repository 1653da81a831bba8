import AgentTeams.Compiler

/-! The checks of names against one specification: agents can stand together when no name is
reserved and no two names are equal. -/
namespace AgentTeams

/-- Names that the agents of one team can have. -/
structure AcceptedNames (names : List String) : Prop where
  distinct : names.Nodup
  unreserved : ∀ name ∈ names, name ∉ NodeId.reserved

theorem AcceptedNames.absent {names : List String} {id : String} (accepted : AcceptedNames names)
    (reserved : id ∈ NodeId.reserved) : id ∉ names :=
  fun member => accepted.unreserved id member reserved

theorem AcceptedNames.user_absent {names : List String} (accepted : AcceptedNames names) :
    NodeId.user ∉ names :=
  accepted.absent List.mem_cons_self

theorem AcceptedNames.perm {names others : List String} (accepted : AcceptedNames names)
    (same : names.Perm others) : AcceptedNames others :=
  ⟨same.nodup_iff.mp accepted.distinct,
    fun name member => accepted.unreserved name (same.mem_iff.mpr member)⟩

theorem acceptedNames_nil : AcceptedNames [] := ⟨List.nodup_nil, by simp⟩

theorem acceptedNames_cons : AcceptedNames (name :: rest) ↔
    name ∉ NodeId.reserved ∧ name ∉ rest ∧ AcceptedNames rest := by
  constructor
  · intro accepted
    have distinct := List.nodup_cons.mp accepted.distinct
    exact ⟨accepted.unreserved name (by simp), distinct.1, distinct.2,
      fun other member => accepted.unreserved other (by simp [member])⟩
  · rintro ⟨unreserved, fresh, accepted⟩
    refine ⟨List.nodup_cons.mpr ⟨fresh, accepted.distinct⟩, ?_⟩
    intro other member
    rcases List.mem_cons.mp member with same | later
    · exact same ▸ unreserved
    · exact accepted.unreserved other later

/-- What holds of the scan that has `name` behind it: the rest is new to it too. -/
private theorem new_after_iff {name : String} {seen rest : List String} :
    (∀ other ∈ rest, other ∉ name :: seen) ↔ name ∉ rest ∧ ∀ other ∈ rest, other ∉ seen := by
  constructor
  · intro new
    refine ⟨fun member => new name member (by simp), ?_⟩
    intro other member present
    exact new other member (by simp [present])
  · rintro ⟨absent, new⟩ other member present
    rcases List.mem_cons.mp present with same | earlier
    · exact absent (same ▸ member)
    · exact new other member earlier

/-- The scan for a fault finds none exactly in accepted names that were not given before. -/
theorem nameFault?_eq_none_iff (seen names : List String) :
    nameFault? seen names = none ↔ AcceptedNames names ∧ ∀ name ∈ names, name ∉ seen := by
  induction names generalizing seen with
  | nil => simp [nameFault?, acceptedNames_nil]
  | cons name rest ih =>
    rw [List.forall_mem_cons, acceptedNames_cons]
    unfold nameFault?
    split
    · rename_i reserved
      simp [reserved]
    · rename_i unreserved
      split
      · rename_i repeated
        simp [repeated]
      · rename_i fresh
        rw [ih, new_after_iff]
        exact ⟨fun ⟨accepted, absent, new⟩ => ⟨⟨unreserved, absent, accepted⟩, fresh, new⟩,
          fun ⟨⟨_, absent, accepted⟩, _, new⟩ => ⟨accepted, absent, new⟩⟩

theorem AcceptedNames.concat {names : List String} {name : String} (accepted : AcceptedNames names)
    (unreserved : name ∉ NodeId.reserved) (fresh : name ∉ names) :
    AcceptedNames (names ++ [name]) := by
  apply AcceptedNames.perm _ (List.perm_append_singleton name names).symm
  exact acceptedNames_cons.mpr ⟨unreserved, fresh, accepted⟩

/-- The fault of the first name that cannot stand with those before it. A name that is reserved
counts as that, even if it is repeated as well. -/
inductive FirstFault (names : List String) : NameFault → Prop where
  | reserved {before after : List String} {name : String} (split : names = before ++ name :: after)
      (accepted : AcceptedNames before) (reserved : name ∈ NodeId.reserved) :
      FirstFault names (.reserved name)
  | repeated {before after : List String} {name : String} (split : names = before ++ name :: after)
      (accepted : AcceptedNames before) (unreserved : name ∉ NodeId.reserved)
      (earlier : name ∈ before) : FirstFault names (.repeated name)

/-- The scan passes over accepted names and remembers them. -/
theorem nameFault?_append {before : List String} (accepted : AcceptedNames before)
    (seen rest : List String) (new : ∀ name ∈ before, name ∉ seen) :
    nameFault? seen (before ++ rest) = nameFault? (before.reverse ++ seen) rest := by
  induction before generalizing seen with
  | nil => rfl
  | cons name before ih =>
    obtain ⟨unreserved, absent, accepted⟩ := acceptedNames_cons.mp accepted
    obtain ⟨fresh, new⟩ := List.forall_mem_cons.mp new
    rw [List.cons_append, nameFault?, if_neg unreserved, if_neg fresh,
      ih accepted (name :: seen) (new_after_iff.mpr ⟨absent, new⟩)]
    simp

private theorem firstFault_of_scan {fault : NameFault} {before : List String}
    (accepted : AcceptedNames before) (rest : List String)
    (found : nameFault? before.reverse rest = some fault) : FirstFault (before ++ rest) fault := by
  induction rest generalizing before with
  | nil => simp [nameFault?] at found
  | cons name rest ih =>
    unfold nameFault? at found
    split at found
    · rename_i reserved
      cases found
      exact .reserved rfl accepted reserved
    · rename_i unreserved
      split at found
      · rename_i earlier
        cases found
        exact .repeated rfl accepted unreserved (List.mem_reverse.mp earlier)
      · rename_i fresh
        have onward := ih (accepted.concat unreserved (by simpa using fresh)) (by simpa using found)
        simpa using onward

/-- The scan finds the first fault. -/
theorem nameFault?_eq_some_iff {names : List String} {fault : NameFault} :
    nameFault? [] names = some fault ↔ FirstFault names fault := by
  constructor
  · intro found
    exact firstFault_of_scan acceptedNames_nil names found
  · intro first
    cases first with
    | reserved split accepted reserved =>
      rw [split, nameFault?_append accepted [] _ (by simp), nameFault?, if_pos reserved]
    | repeated split accepted unreserved earlier =>
      rw [split, nameFault?_append accepted [] _ (by simp), nameFault?, if_neg unreserved,
        if_pos (by simpa using earlier)]

theorem FirstFault.unique {names : List String} {fault other : NameFault}
    (one : FirstFault names fault) (two : FirstFault names other) : fault = other :=
  Option.some.inj ((nameFault?_eq_some_iff.mpr one).symm.trans (nameFault?_eq_some_iff.mpr two))

theorem FirstFault.not_accepted {names : List String} {fault : NameFault}
    (first : FirstFault names fault) : ¬ AcceptedNames names := by
  intro accepted
  have none := (nameFault?_eq_none_iff [] names).mpr ⟨accepted, by simp⟩
  simp [nameFault?_eq_some_iff.mpr first] at none

theorem firstRepeated?_eq_none_iff (seen names : List String) :
    firstRepeated? seen names = none ↔ names.Nodup ∧ ∀ name ∈ names, name ∉ seen := by
  induction names generalizing seen with
  | nil => simp [firstRepeated?]
  | cons name rest ih =>
    rw [List.forall_mem_cons, List.nodup_cons]
    unfold firstRepeated?
    split
    · rename_i repeated
      simp [repeated]
    · rename_i fresh
      rw [ih, new_after_iff]
      exact ⟨fun ⟨distinct, absent, new⟩ => ⟨⟨absent, distinct⟩, fresh, new⟩,
        fun ⟨⟨absent, distinct⟩, _, new⟩ => ⟨distinct, absent, new⟩⟩

theorem firstRepeated?_append {before : List String} (distinct : before.Nodup)
    (seen rest : List String) (new : ∀ name ∈ before, name ∉ seen) :
    firstRepeated? seen (before ++ rest) = firstRepeated? (before.reverse ++ seen) rest := by
  induction before generalizing seen with
  | nil => rfl
  | cons name before ih =>
    obtain ⟨absent, distinct⟩ := List.nodup_cons.mp distinct
    obtain ⟨fresh, new⟩ := List.forall_mem_cons.mp new
    rw [List.cons_append, firstRepeated?, if_neg fresh,
      ih distinct (name :: seen) (new_after_iff.mpr ⟨absent, new⟩)]
    simp

/-- A search of its own for repeated names finds the first fault, if that is a repetition. -/
theorem firstRepeated?_of_firstFault {names : List String} {name : String}
    (first : FirstFault names (.repeated name)) : firstRepeated? [] names = some name := by
  cases first with
  | repeated split accepted unreserved earlier =>
    rw [split, firstRepeated?_append accepted.distinct [] _ (by simp), firstRepeated?,
      if_pos (by simpa using earlier)]

theorem firstReserved?_eq_none_iff (names : List String) :
    firstReserved? names = none ↔ ∀ name ∈ names, name ∉ NodeId.reserved := by
  simp [firstReserved?]

theorem firstReserved?_of_firstFault {names : List String} {name : String}
    (first : FirstFault names (.reserved name)) : firstReserved? names = some name := by
  cases first with
  | @reserved before after _ split accepted reserved =>
    have none : before.find? (· ∈ NodeId.reserved) = none :=
      (firstReserved?_eq_none_iff before).mpr accepted.unreserved
    rw [firstReserved?, split, List.find?_append, none,
      List.find?_cons_of_pos (by simpa using reserved), Option.none_or]

/-- No name is wrong after those before it. -/
def AllRight (wrong : List String → String → Prop) (names : List String) : Prop :=
  ∀ before name, before ++ [name] <+: names → ¬ wrong before name

theorem AllRight.concat {wrong : List String → String → Prop} {names : List String} {name : String}
    (right : AllRight wrong names) (here : ¬ wrong names name) :
    AllRight wrong (names ++ [name]) := by
  intro before other reached
  rcases List.prefix_concat_iff.mp reached with same | earlier
  · obtain ⟨rfl, last⟩ := List.append_inj' same rfl
    obtain rfl := List.singleton_inj.mp last
    exact here
  · exact right before other earlier

/-- The first name that is wrong after those before it, if there is one. -/
inductive FirstWrong (wrong : List String → String → Prop) (names : List String) :
    Option String → Prop where
  | clear (right : AllRight wrong names) : FirstWrong wrong names none
  | found {before : List String} {name : String} (reached : before ++ [name] <+: names)
      (right : AllRight wrong before) (here : wrong before name) :
      FirstWrong wrong names (some name)

theorem FirstWrong.unique {wrong : List String → String → Prop} {names : List String}
    {one other : Option String} (first : FirstWrong wrong names one)
    (second : FirstWrong wrong names other) : one = other := by
  -- Of two prefixes that end in a wrong name, a shorter one would stand right in the other.
  have ends {before after : List String} {name last : String}
      (earlier : before ++ [name] <+: after ++ [last]) (right : AllRight wrong after)
      (here : wrong before name) : name = last := by
    rcases List.prefix_concat_iff.mp earlier with same | inside
    · exact List.singleton_inj.mp (List.append_inj' same rfl).2
    · exact absurd here (right before name inside)
  cases first with
  | clear right =>
    cases second with
    | clear => rfl
    | found reached _ here => exact absurd here (right _ _ reached)
  | found reached right here =>
    cases second with
    | clear others => exact absurd here (others _ _ reached)
    | found arrived others there =>
      rcases List.prefix_or_prefix_of_prefix reached arrived with earlier | later
      · rw [ends earlier others here]
      · rw [ends later right there]

theorem firstReserved?_firstWrong (names : List String) :
    FirstWrong (fun _ name => name ∈ NodeId.reserved) names (firstReserved? names) := by
  cases found : firstReserved? names with
  | none =>
    refine .clear ?_
    intro before name reached
    exact (firstReserved?_eq_none_iff names).mp found name (reached.subset (by simp))
  | some name =>
    obtain ⟨here, before, after, rfl, unreserved⟩ := List.find?_eq_some_iff_append.mp found
    have reached : before ++ [name] <+: before ++ name :: after := ⟨after, by simp⟩
    refine .found reached ?_ (by simpa using here)
    intro earlier other inside
    simpa using unreserved other (inside.subset (by simp))

private theorem firstWrong_of_scan (before rest : List String)
    (right : AllRight (fun before name => name ∈ before) before) :
    FirstWrong (fun before name => name ∈ before) (before ++ rest)
      (firstRepeated? before.reverse rest) := by
  induction rest generalizing before with
  | nil => simpa [firstRepeated?] using FirstWrong.clear right
  | cons name rest ih =>
    unfold firstRepeated?
    split
    · rename_i repeated
      exact .found ⟨rest, by simp⟩ right (by simpa using repeated)
    · rename_i fresh
      simpa using ih (before ++ [name]) (right.concat (by simpa using fresh))

theorem firstRepeated?_firstWrong (names : List String) :
    FirstWrong (fun before name => name ∈ before) names (firstRepeated? [] names) :=
  firstWrong_of_scan [] names (by intro before name reached; simp at reached)

/-- The compiler's check of agents passes exactly for accepted names. -/
theorem checkAgentNames_eq_ok_iff {agents : List Agent} :
    checkAgentNames agents = .ok () ↔ AcceptedNames (agents.map (·.name)) := by
  have scan := nameFault?_eq_none_iff [] (agents.map (·.name))
  unfold checkAgentNames
  cases found : nameFault? [] (agents.map (·.name)) with
  | none => simpa [found] using scan
  | some fault => simpa [found] using scan

theorem checkAgentNames_eq_error_iff {agents : List Agent} {error : CompileError} :
    checkAgentNames agents = .error error ↔
      ∃ fault, FirstFault (agents.map (·.name)) fault ∧ error = .ofNameFault fault := by
  unfold checkAgentNames
  simp only [← nameFault?_eq_some_iff]
  cases nameFault? [] (agents.map (·.name)) with
  | none => simp
  | some fault => simp [eq_comm]

/-- The example agents of a topology were checked when it was loaded. -/
theorem Topology.exampleNames_accepted (topology : Topology) :
    AcceptedNames ((topology.exampleAgents.map Role.toAgent).map (·.name)) := by
  have accepted := ((nameFault?_eq_none_iff [] _).mp topology.names_accepted).1
  simpa [Function.comp_def, Role.toAgent] using accepted

/-- Validation reports no name exactly for accepted names. -/
theorem Team.nameIssues_eq_nil_iff {team : Team} :
    team.nameIssues = [] ↔ AcceptedNames team.agentNames := by
  have repeated := firstRepeated?_eq_none_iff [] team.agentNames
  have reserved := firstReserved?_eq_none_iff team.agentNames
  simp only [List.not_mem_nil, not_false_eq_true, implies_true, and_true] at repeated
  simp only [nameIssues, List.append_eq_nil_iff, Option.toList_eq_nil_iff, Option.map_eq_none_iff,
    repeatedName?, reservedName?, repeated, reserved]
  exact ⟨fun ⟨unreserved, distinct⟩ => ⟨distinct, unreserved⟩,
    fun accepted => ⟨accepted.unreserved, accepted.distinct⟩⟩

end AgentTeams
