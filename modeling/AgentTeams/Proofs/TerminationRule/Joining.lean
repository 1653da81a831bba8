import AgentTeams.TerminationRule

/-! Joining loses nothing. What `or` makes of two rules is determined by their conditions one after
the other, and from this come associativity, the order of the single conditions, the absence of
nesting and the words in which a joined rule is shown. -/
namespace AgentTeams.TerminationRule

/-- A condition that is no choice between others. -/
inductive Single where
  | textMention (text : String)
  | maxMessages (limit : UInt32)

mutual
/-- The single conditions of a rule, at whatever depth they stand, in the order of reading. -/
def leaves : TerminationRule → List Single
  | textMention text => [.textMention text]
  | maxMessages limit => [.maxMessages limit]
  | any conditions => leavesOf conditions

def leavesOf : List TerminationRule → List Single
  | [] => []
  | rule :: rest => leaves rule ++ leavesOf rest
end

/-- A rule stands inside another one, at whatever depth. -/
inductive Inside (inner : TerminationRule) : TerminationRule → Prop where
  | condition (member : inner ∈ choices) : Inside inner (any choices)
  | deeper (member : outer ∈ choices) (inside : Inside inner outer) : Inside inner (any choices)

/-- No choice stands inside the rule, so that none stands inside another choice. -/
def Flat (rule : TerminationRule) : Prop :=
  ∀ choices, ¬ Inside (any choices) rule

/-- Join a first rule and those after it from the right. -/
def joinRight (first : TerminationRule) : List TerminationRule → TerminationRule
  | [] => first
  | second :: rest => first.or (joinRight second rest)

variable {left right : TerminationRule}

@[simp] theorem conditions_or (left right : TerminationRule) :
    (left.or right).conditions = left.conditions ++ right.conditions := rfl

theorem conditions_eq_nil_iff {rule : TerminationRule} : rule.conditions = [] ↔ rule = any [] := by
  cases rule <;> simp [conditions]

theorem or_assoc (first second third : TerminationRule) :
    (first.or second).or third = first.or (second.or third) :=
  congrArg any (List.append_assoc _ _ _)

instance : Std.Associative or := ⟨or_assoc⟩

theorem leavesOf_append (rules others : List TerminationRule) :
    leavesOf (rules ++ others) = leavesOf rules ++ leavesOf others := by
  induction rules with
  | nil => rfl
  | cons rule rest ih => rw [List.cons_append, leavesOf, leavesOf, ih, List.append_assoc]

theorem leavesOf_conditions (rule : TerminationRule) : leavesOf rule.conditions = rule.leaves := by
  cases rule with
  | textMention text => rfl
  | maxMessages limit => rfl
  | any choices => rw [conditions, leaves]

theorem leaves_or (left right : TerminationRule) :
    (left.or right).leaves = left.leaves ++ right.leaves := by
  rw [or, leaves, leavesOf_append, leavesOf_conditions, leavesOf_conditions]

/-- It is enough to look at the conditions themselves. -/
theorem flat_iff {rule : TerminationRule} :
    rule.Flat ↔ ∀ condition ∈ rule.conditions, ∀ inner, condition ≠ any inner := by
  constructor
  · rintro flat condition member inner rfl
    cases rule with
    | textMention text => simp [conditions] at member
    | maxMessages limit => simp [conditions] at member
    | any choices => exact flat inner (.condition member)
  · intro single inner inside
    cases inside with
    | condition member => exact single _ member inner rfl
    | deeper member inside =>
      -- Only a choice has anything inside it.
      cases inside with
      | condition => exact single _ member _ rfl
      | deeper => exact single _ member _ rfl

theorem Flat.or (flat : left.Flat) (other : right.Flat) : (left.or right).Flat := by
  rw [flat_iff] at flat other ⊢
  intro condition member
  rcases List.mem_append.mp member with before | after
  · exact flat condition before
  · exact other condition after

theorem displays_eq_map (rules : List TerminationRule) : displays rules = rules.map display := by
  induction rules with
  | nil => rfl
  | cons rule rest ih => rw [displays, ih, List.map_cons]

theorem display_eq (rule : TerminationRule) :
    rule.display = " | ".intercalate (rule.conditions.map display) := by
  cases rule with
  | textMention text => simp [conditions]
  | maxMessages limit => simp [conditions]
  | any choices => rw [display, displays_eq_map, conditions]

theorem display_or_empty (rule : TerminationRule) : (rule.or (any [])).display = rule.display := by
  rw [display_eq, display_eq rule, conditions_or, conditions, List.append_nil]

theorem display_empty_or (rule : TerminationRule) :
    ((any []).or rule).display = rule.display := by
  rw [display_eq, display_eq rule, conditions_or, conditions, List.nil_append]

theorem display_or (given : left ≠ any []) (other : right ≠ any []) :
    (left.or right).display = left.display ++ " | " ++ right.display := by
  have before : left.conditions.map display ≠ [] := by simpa [conditions_eq_nil_iff] using given
  have after : right.conditions.map display ≠ [] := by simpa [conditions_eq_nil_iff] using other
  rw [display_eq, conditions_or, List.map_append, String.intercalate_append_of_ne_nil before after,
    ← display_eq, ← display_eq]

/-- It makes no difference from which end rules are joined. -/
theorem join_eq_joinRight (first : TerminationRule) (rest : List TerminationRule) :
    join (first :: rest) = joinRight first rest := by
  induction rest generalizing first with
  | nil => rfl
  | cons second rest ih =>
    calc join (first :: second :: rest) = rest.foldl or (first.or second) := rfl
      _ = first.or (rest.foldl or second) := List.foldl_assoc
      _ = first.or (joinRight second rest) := congrArg (or first) (ih second)

theorem joinRight_ne_empty {first : TerminationRule} {rest : List TerminationRule}
    (given : first ≠ any []) : joinRight first rest ≠ any [] := by
  cases rest with
  | nil => exact given
  | cons second rest =>
    rw [joinRight, Ne, ← conditions_eq_nil_iff, conditions_or, List.append_eq_nil_iff,
      conditions_eq_nil_iff]
    exact fun none => given none.1

theorem display_joinRight {first : TerminationRule} {rest : List TerminationRule}
    (given : ∀ rule ∈ first :: rest, rule ≠ any []) :
    (joinRight first rest).display = " | ".intercalate ((first :: rest).map display) := by
  induction rest generalizing first with
  | nil => simp [joinRight]
  | cons second rest ih =>
    obtain ⟨here, later⟩ := List.forall_mem_cons.mp given
    have next := (List.forall_mem_cons.mp later).1
    rw [joinRight, display_or here (joinRight_ne_empty next), ih later]
    simp

/-- Rules are joined without loss: it does not matter how they are grouped, their single conditions
follow each other, and rules that are flat stay so. What is joined is shown side by side, and a
choice that has no conditions leaves no trace in it. -/
theorem joining_keeps_conditions :
    (∀ first second third : TerminationRule,
      (first.or second).or third = first.or (second.or third)) ∧
    (∀ left right : TerminationRule, (left.or right).leaves = left.leaves ++ right.leaves) ∧
    (∀ left right : TerminationRule, left.Flat → right.Flat → (left.or right).Flat) ∧
    (∀ left right : TerminationRule, left ≠ any [] → right ≠ any [] →
      (left.or right).display = left.display ++ " | " ++ right.display) ∧
    (∀ rule : TerminationRule, (rule.or (any [])).display = rule.display ∧
      ((any []).or rule).display = rule.display) ∧
    ∀ first rest, join (first :: rest) = joinRight first rest ∧
      ((∀ rule ∈ first :: rest, rule ≠ any []) →
        (join (first :: rest)).display = " | ".intercalate ((first :: rest).map display) ∧
        (joinRight first rest).display = " | ".intercalate ((first :: rest).map display)) := by
  refine ⟨or_assoc, leaves_or, fun _ _ => Flat.or, fun _ _ => display_or,
    fun rule => ⟨display_or_empty rule, display_empty_or rule⟩, fun first rest => ?_⟩
  refine ⟨join_eq_joinRight first rest, fun given => ?_⟩
  rw [join_eq_joinRight]
  exact ⟨display_joinRight given, display_joinRight given⟩

/-- A choice inside a choice, one without conditions inside another, and a limit. -/
theorem joining_keeps_conditions_of_nested :
    let nested := any [any [textMention "DONE"], any []]
    nested ≠ any [] ∧ default.Flat ∧ (maxMessages 3).Flat ∧ (default.or (maxMessages 3)).Flat ∧
      (nested.or (maxMessages 3)).display = nested.display ++ " | " ++ "MaxMessages(3)" ∧
      (join [nested, maxMessages 3, default]).display =
        "TextMention(DONE) |  | MaxMessages(3) | TextMention(TERMINATE) | MaxMessages(10)" := by
  intro nested
  obtain ⟨_, _, flat, shown, _, joined⟩ := joining_keeps_conditions
  have given : nested ≠ any [] := by simp [nested]
  have plain : default.Flat := flat_iff.mpr (by simp [default, stopWordOr, or, conditions])
  have limit : (maxMessages 3).Flat := flat_iff.mpr (by simp [conditions])
  have kept : ∀ rule ∈ [nested, maxMessages 3, default], rule ≠ any [] := by
    simp [nested, default, stopWordOr, or, conditions]
  refine ⟨given, plain, limit, flat _ _ plain limit, shown _ _ given (by simp), ?_⟩
  rw [((joined nested [maxMessages 3, default]).2 kept).1]
  decide +kernel

end AgentTeams.TerminationRule
