import AgentTeams.Compiler

/-! Handoff notes: what is written under a text comes off again, whatever the text is, and nothing
but a note for the same targets ever comes off. -/
namespace AgentTeams

theorem Text.stripEnding?_eq_some_iff {ending text rest : String} :
    Text.stripEnding? ending text = some rest ↔ text = rest ++ ending := by
  simp only [Text.stripEnding?, Option.map_eq_some_iff]
  constructor
  · rintro ⟨front, dropped, rfl⟩
    apply String.toList_inj.mp
    simpa using Text.eq_append_of_dropEnding? dropped
  · rintro rfl
    refine ⟨rest.toList, ?_, String.ofList_toList⟩
    simpa using Text.dropEnding?_append ending.toList rest.toList

namespace HandoffNote

@[simp] theorem append_nil (base : String) : append [] base = base := rfl

@[simp] theorem strip_nil (instructions : String) : strip [] instructions = instructions := rfl

theorem append_empty {targets : List String} (given : targets ≠ []) :
    append targets "" = text targets := by
  simp [append, given]

theorem append_written {targets : List String} {base : String} (given : targets ≠ [])
    (written : base ≠ "") : append targets base = base ++ separator ++ text targets := by
  simp [append, given, written]

theorem text_ne_empty (targets : List String) : text targets ≠ "" := by
  delta text
  simp

theorem append_eq_self_iff {targets : List String} {base : String} :
    append targets base = base ↔ targets = [] := by
  by_cases given : targets = []
  · simp [given]
  · refine iff_of_false ?_ given
    by_cases written : base = ""
    · simp [written, append_empty given, text_ne_empty]
    · rw [append_written given written, String.append_assoc, String.append_eq_left_iff]
      simp [text_ne_empty]

/-- A text is its base and one note under it, for these targets. A note for an empty base stands
alone. -/
def Under (targets : List String) (base written : String) : Prop :=
  targets ≠ [] ∧
    written = if base = "" then text targets else base ++ separator ++ text targets

theorem under_append {targets : List String} (given : targets ≠ []) (base : String) :
    Under targets base (append targets base) := by
  refine ⟨given, ?_⟩
  by_cases written : base = ""
  · rw [if_pos written, written, append_empty given]
  · rw [if_neg written, append_written given written]

/-- A text ends in a note for these targets, and this is the rest of it. There is no note for
nobody, and a blank line belongs to the note under it also where the rest is empty. -/
inductive Noted (targets : List String) : String → String → Prop where
  | alone (given : targets ≠ []) : Noted targets "" (text targets)
  | under (given : targets ≠ []) (rest : String) :
      Noted targets rest (rest ++ separator ++ text targets)

theorem Under.noted {targets : List String} {base written : String}
    (under : Under targets base written) : Noted targets base written := by
  obtain ⟨given, rfl⟩ := under
  by_cases empty : base = ""
  · rw [if_pos empty, empty]
    exact .alone given
  · rw [if_neg empty]
    exact .under given base

theorem Noted.strip_eq {targets : List String} {rest written : String}
    (noted : Noted targets rest written) : strip targets written = rest := by
  cases noted with
  | alone given => simp [strip, given]
  | under given rest =>
    -- With a blank line above it the note is longer than the note alone, so it is not taken for it.
    have longer : rest ++ separator ++ text targets ≠ text targets := by
      simp [separator]
    have noteOff : Text.stripEnding? (text targets) (rest ++ separator ++ text targets) =
        some (rest ++ separator) := Text.stripEnding?_eq_some_iff.mpr rfl
    have lineOff : Text.stripEnding? separator (rest ++ separator) = some rest :=
      Text.stripEnding?_eq_some_iff.mpr rfl
    simp [strip, given, longer, noteOff, lineOff]

theorem strip_of_plain {targets : List String} {written : String}
    (plain : ∀ rest, ¬ Noted targets rest written) : strip targets written = written := by
  by_cases given : targets = []
  · simp [given]
  · have other : written ≠ text targets := by
      rintro rfl
      exact plain "" (.alone given)
    have kept : (Text.stripEnding? (text targets) written).bind
        (Text.stripEnding? separator) = none := by
      refine Option.eq_none_iff_forall_ne_some.mpr fun rest taken => ?_
      obtain ⟨front, noteOff, lineOff⟩ := Option.bind_eq_some_iff.mp taken
      rw [Text.stripEnding?_eq_some_iff] at noteOff lineOff
      rw [noteOff, lineOff] at plain
      exact plain rest (.under given rest)
    simp [strip, given, other, kept]

/-- Exactly a note comes off, and the text stays as it is if there is none. -/
theorem strip_eq_iff {targets : List String} {written rest : String} :
    strip targets written = rest ↔
      Noted targets rest written ∨ rest = written ∧ ∀ other, ¬ Noted targets other written := by
  constructor
  · rintro rfl
    by_cases noted : ∃ rest, Noted targets rest written
    · obtain ⟨rest, noted⟩ := noted
      rw [noted.strip_eq]
      exact .inl noted
    · have plain := not_exists.mp noted
      exact .inr ⟨strip_of_plain plain, plain⟩
  · rintro (noted | ⟨rfl, plain⟩)
    · exact noted.strip_eq
    · exact strip_of_plain plain

/-- The note under a text comes off, also when the text itself ends in a note or is one. -/
@[simp] theorem strip_append (targets : List String) (base : String) :
    strip targets (append targets base) = base := by
  by_cases given : targets = []
  · simp [given]
  · exact (under_append given base).noted.strip_eq

/-- Notes that were written under each other come off one by one, the last one first. -/
theorem strip_stack (stack : List (List String)) (base : String) :
    stack.foldl (fun written targets => strip targets written) (stack.foldr append base) =
      base := by
  induction stack with
  | nil => rfl
  | cons targets rest ih => rw [List.foldr_cons, List.foldl_cons, strip_append, ih]

end HandoffNote

@[simp] theorem Agent.withoutNote_handingOff (agent : Agent) (targets : List String) :
    (agent.handingOff targets).withoutNote = { agent with handoffTargets := some targets } := by
  simp [Agent.handingOff, Agent.withoutNote]

theorem Team.withoutNotes_withHandoffs {team : Team} (handoff : team.driverKind = .peerHandoff) :
    team.withHandoffs.withoutNotes = { team with
      agents := team.agents.map fun agent => { agent with
        handoffTargets := some ((HandoffGraph.complete team.agentNames).targets agent.name) } } := by
  simp [withHandoffs, withoutNotes, handoff]

namespace HandoffNote

/-- Writing notes and taking them off undo each other. An agent is told of its targets by one note
under its instructions, or by nothing if it has none, and stripping gives the instructions back, as
it does for a whole team and for notes under notes. Of any text stripping takes off a note for
exactly these targets, with the blank line above it, or nothing; without targets it is nothing. -/
theorem stripping_undoes_writing :
    (∀ (agent : Agent) (targets : List String),
      let told := (agent.handingOff targets).instructions
      (targets = [] ∧ told = agent.instructions ∨ Under targets agent.instructions told) ∧
        strip targets told = agent.instructions) ∧
    (∀ team : Team, team.driverKind = .peerHandoff →
      team.withHandoffs.withoutNotes = { team with
        agents := team.agents.map fun agent => { agent with
          handoffTargets := some ((HandoffGraph.complete team.agentNames).targets agent.name) } }) ∧
    (∀ (stack : List (List String)) (base : String),
      stack.foldl (fun written targets => strip targets written) (stack.foldr append base) =
        base) ∧
    ∀ (targets : List String) (written rest : String), strip targets written = rest ↔
      Noted targets rest written ∨ rest = written ∧ ∀ other, ¬ Noted targets other written := by
  refine ⟨fun agent targets => ⟨?_, strip_append targets agent.instructions⟩,
    fun _ => Team.withoutNotes_withHandoffs, strip_stack, fun _ _ _ => strip_eq_iff⟩
  by_cases given : targets = []
  · exact .inl ⟨given, by rw [given]; rfl⟩
  · exact .inr (under_append given agent.instructions)

/-- Instructions that are the very note, and instructions that end in a blank line. -/
theorem stripping_undoes_writing_of_own_note :
    let team : Team := {
      driverKind := .peerHandoff
      agents := [
        { name := "planner", instructions := text ["writer"] },
        { name := "writer", instructions := "Write." ++ separator }] }
    team.driverKind = .peerHandoff ∧
      team.withHandoffs.agents.map (·.instructions) =
        [text ["writer"] ++ separator ++ text ["writer"],
          "Write." ++ separator ++ separator ++ text ["planner"]] ∧
      team.withHandoffs.withoutNotes.agents.map (·.instructions) =
        [text ["writer"], "Write." ++ separator] := by
  intro team
  refine ⟨rfl, by decide +kernel, ?_⟩
  rw [stripping_undoes_writing.2.1 team rfl]
  rfl

end HandoffNote

end AgentTeams
