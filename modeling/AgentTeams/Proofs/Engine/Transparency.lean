import AgentTeams.Engine
import AgentTeams.Proofs.Compiler.Warnings
import AgentTeams.Proofs.Memo

/-! Transparency of the tables: an engine answers every call of a history as if it had no tables
and computed each answer afresh, under the options that are in force at the call. -/
namespace AgentTeams

/-- A compilation for the default topology, with the warning that it stands for an unknown one. -/
def Compilation.insteadOf (id : String) (compilation : Compilation) : Compilation :=
  { compilation with
    warnings := .unknownTopology id Engine.defaultTopology :: compilation.warnings }

/-- A request for a compilation. -/
structure Selection where
  existing : Option Team
  id : String

namespace Selection

def key (selection : Selection) : UInt64 :=
  Engine.compilationKey selection.existing selection.id

def compile (compiler : Compiler) (selection : Selection) : Except CompileError Compilation :=
  compiler.compile selection.existing selection.id

/-- The same selection, but of the default topology if the id is unknown. -/
def orDefault (registry : Registry) (selection : Selection) : Selection :=
  match registry.find? selection.id with
  | some _ => selection
  | none => { selection with id := Engine.defaultTopology }

/-- What a selection comes to if an unknown id is replaced, with the warning about it. -/
def compileOrDefault (compiler : Compiler) (selection : Selection) :
    Except CompileError Compilation :=
  match compiler.registry.find? selection.id with
  | some _ => selection.compile compiler
  | none => (compiler.compile selection.existing Engine.defaultTopology).map
      (Compilation.insteadOf selection.id)

end Selection

/-- A request for a diagram. -/
structure Drawing where
  team : Team
  activity : Activity
  status : Run.Status

namespace Drawing

def key (drawing : Drawing) : UInt64 :=
  Engine.diagramKey drawing.team drawing.activity drawing.status

def draw (registry : Registry) (drawing : Drawing) : Diagram :=
  registry.render drawing.team drawing.activity drawing.status

end Drawing

namespace Engine

/-- What an engine can be called for. -/
inductive Call where
  | select (selection : Selection)
  | selectOrDefault (selection : Selection)
  | render (drawing : Drawing)
  | renderRun (team : Team) (run : Run)
  | clear
  | withOptions (options : Options)

inductive Answer where
  | compilation (result : Except CompileError Compilation)
  | diagram (diagram : Diagram)
  | done

namespace Call

/-- What a call looks up among the compilations. -/
def selection? (registry : Registry) : Call → Option Selection
  | select selection => some selection
  | selectOrDefault selection => some (selection.orDefault registry)
  | _ => none

/-- What a call looks up among the diagrams. -/
def drawing? : Call → Option Drawing
  | render drawing => some drawing
  | renderRun team run => some ⟨team, run.activity, run.status⟩
  | _ => none

/-- The answer to a call where there are no tables. -/
def plainAnswer (compiler : Compiler) : Call → Answer
  | select selection => .compilation (selection.compile compiler)
  | selectOrDefault selection => .compilation (selection.compileOrDefault compiler)
  | render drawing => .diagram (drawing.draw compiler.registry)
  | renderRun team run => .diagram (compiler.registry.render team run.activity run.status)
  | clear => .done
  | withOptions _ => .done

/-- The compiler that answers after a call. -/
def govern (compiler : Compiler) : Call → Compiler
  | withOptions options => { compiler with options }
  | _ => compiler

end Call

/-- The answers to a history of calls where there are no tables. -/
def plainAnswers (compiler : Compiler) : List Call → List Answer
  | [] => []
  | call :: rest => call.plainAnswer compiler :: plainAnswers (call.govern compiler) rest

/-- Answer a call. -/
def perform (engine : Engine) : Call → Answer × Engine
  | .select selection =>
      let (answer, engine) := engine.select selection.existing selection.id
      (.compilation (answer.map (·.value)), engine)
  | .selectOrDefault selection =>
      let (answer, engine) := engine.selectOrDefault selection.existing selection.id
      (.compilation answer, engine)
  | .render drawing =>
      let (answer, engine) := engine.render drawing.team drawing.activity drawing.status
      (.diagram answer.value, engine)
  | .renderRun team run =>
      let (answer, engine) := engine.renderRun team run
      (.diagram answer.value, engine)
  | .clear => (.done, engine.clear)
  | .withOptions options => (.done, engine.withOptions options)

/-- The answers to a history of calls. -/
def answers (engine : Engine) : List Call → List Answer
  | [] => []
  | call :: rest => (engine.perform call).1 :: (engine.perform call).2.answers rest

/-- An engine after a history of calls. -/
def after (engine : Engine) (calls : List Call) : Engine :=
  calls.foldl (fun engine call => (engine.perform call).2) engine

/-- An engine whose tables hold what these requests come to, and nothing else. -/
structure Faithful (engine : Engine) (selections : List Selection) (drawings : List Drawing) :
    Prop where
  compilations : engine.compilations.Faithful selections Selection.key
    fun selection compilation => selection.compile engine.compiler = .ok compilation
  diagrams : engine.diagrams.Faithful drawings Drawing.key
    fun drawing diagram => drawing.draw engine.registry = diagram

/-- No two different requests have the same key in one table. -/
structure KeysApart (selections : List Selection) (drawings : List Drawing) : Prop where
  selections : ∀ first ∈ selections, ∀ second ∈ selections,
    first.key = second.key → first = second
  drawings : ∀ first ∈ drawings, ∀ second ∈ drawings, first.key = second.key → first = second

variable {engine : Engine} {selections : List Selection} {drawings : List Drawing}

theorem faithful_fresh (registry : Registry) (options : Options) :
    Faithful { registry, options } selections drawings where
  compilations := Memo.faithful_of_isEmpty rfl
  diagrams := Memo.faithful_of_isEmpty rfl

theorem select_value (faithful : engine.Faithful selections drawings)
    (apart : KeysApart selections drawings) (selection : Selection)
    (asked : selection ∈ selections) :
    (engine.select selection.existing selection.id).1.map (·.value) =
      selection.compile engine.compiler :=
  faithful.compilations.obtain?_value fun other present same =>
    apart.selections other present selection asked same

theorem Faithful.select (faithful : engine.Faithful selections drawings) (selection : Selection)
    (asked : selection ∈ selections) :
    (engine.select selection.existing selection.id).2.Faithful selections drawings where
  compilations := faithful.compilations.obtain? asked
  diagrams := faithful.diagrams

theorem render_value (faithful : engine.Faithful selections drawings)
    (apart : KeysApart selections drawings) (drawing : Drawing) (asked : drawing ∈ drawings) :
    (engine.render drawing.team drawing.activity drawing.status).1.value =
      drawing.draw engine.registry :=
  faithful.diagrams.obtain_value fun other present same =>
    apart.drawings other present drawing asked same

theorem Faithful.render (faithful : engine.Faithful selections drawings) (drawing : Drawing)
    (asked : drawing ∈ drawings) :
    (engine.render drawing.team drawing.activity drawing.status).2.Faithful selections
      drawings where
  compilations := faithful.compilations
  diagrams := faithful.diagrams.obtain asked

/-- A selection with a default goes through the same table as one without: only its answer is
changed on the way out, never what is stored. -/
theorem selectOrDefault_eq (selection : Selection) :
    engine.selectOrDefault selection.existing selection.id =
      match engine.registry.find? selection.id with
      | some _ => ((engine.select selection.existing selection.id).1.map (·.value),
          (engine.select selection.existing selection.id).2)
      | none => (((engine.select selection.existing defaultTopology).1.map (·.value)).map
          (Compilation.insteadOf selection.id),
            (engine.select selection.existing defaultTopology).2) := by
  unfold selectOrDefault
  cases engine.registry.find? selection.id with
  | some topology => rfl
  | none =>
    obtain ⟨answer, after⟩ := engine.select selection.existing defaultTopology
    cases answer with
    | error error => rfl
    | ok stored => rfl

/-- A call asks its requests of the tables. -/
def Call.Asks (call : Call) (registry : Registry) (selections : List Selection)
    (drawings : List Drawing) : Prop :=
  (∀ selection, call.selection? registry = some selection → selection ∈ selections) ∧
    ∀ drawing, call.drawing? = some drawing → drawing ∈ drawings

/-- No call changes the registry, and only new options change the compiler. -/
theorem compiler_perform (engine : Engine) (call : Call) :
    (engine.perform call).2.compiler = call.govern engine.compiler := by
  cases call with
  | select selection => rfl
  | selectOrDefault selection =>
    simp only [perform, selectOrDefault_eq]
    cases engine.registry.find? selection.id with
    | some topology => rfl
    | none => rfl
  | render drawing => rfl
  | renderRun team run => rfl
  | clear => rfl
  | withOptions options => rfl

theorem registry_govern (compiler : Compiler) (call : Call) :
    (call.govern compiler).registry = compiler.registry := by
  cases call <;> rfl

/-- Tables stay faithful in every call. The one call after which old compilations would be wrong
drops them. -/
theorem Faithful.perform (faithful : engine.Faithful selections drawings) {call : Call}
    (asks : call.Asks engine.registry selections drawings) :
    (engine.perform call).2.Faithful selections drawings := by
  cases call with
  | select selection => exact faithful.select selection (asks.1 selection rfl)
  | selectOrDefault selection =>
    have asked := asks.1 _ rfl
    simp only [Engine.perform, selectOrDefault_eq]
    unfold Selection.orDefault at asked
    cases found : engine.registry.find? selection.id with
    | some topology => exact faithful.select selection (by simpa [found] using asked)
    | none =>
      exact faithful.select ⟨selection.existing, defaultTopology⟩ (by simpa [found] using asked)
  | render drawing => exact faithful.render drawing (asks.2 drawing rfl)
  | renderRun team run =>
    exact faithful.render ⟨team, run.activity, run.status⟩ (asks.2 _ rfl)
  | clear => exact ⟨Memo.faithful_of_isEmpty rfl, Memo.faithful_of_isEmpty rfl⟩
  | withOptions options => exact ⟨Memo.faithful_of_isEmpty rfl, faithful.diagrams⟩

/-- A faithful engine answers a call as if it had no tables. -/
theorem Faithful.answer_eq (faithful : engine.Faithful selections drawings)
    (apart : KeysApart selections drawings) {call : Call}
    (asks : call.Asks engine.registry selections drawings) :
    (engine.perform call).1 = call.plainAnswer engine.compiler := by
  cases call with
  | select selection =>
    exact congrArg Answer.compilation
      (select_value faithful apart selection (asks.1 selection rfl))
  | selectOrDefault selection =>
    have asked := asks.1 _ rfl
    simp only [Engine.perform, selectOrDefault_eq, Call.plainAnswer, Selection.compileOrDefault]
    unfold Selection.orDefault at asked
    have registry : engine.compiler.registry = engine.registry := rfl
    rw [registry]
    cases found : engine.registry.find? selection.id with
    | some topology =>
      exact congrArg Answer.compilation
        (select_value faithful apart selection (by simpa [found] using asked))
    | none =>
      have plain := select_value faithful apart ⟨selection.existing, defaultTopology⟩
        (by simpa [found] using asked)
      simp only at plain ⊢
      rw [plain]
      rfl
  | render drawing =>
    exact congrArg Answer.diagram (render_value faithful apart drawing (asks.2 drawing rfl))
  | renderRun team run =>
    exact congrArg Answer.diagram
      (render_value faithful apart ⟨team, run.activity, run.status⟩ (asks.2 _ rfl))
  | clear => rfl
  | withOptions options => rfl

private theorem eq_error_of_map {answer : Except ε α} {change : α → β} {error : ε}
    (failed : answer.map change = .error error) : answer = .error error := by
  cases answer with
  | error other => exact congrArg Except.error (Except.error.inj failed)
  | ok value => simp [Except.map] at failed

theorem snd_select_of_error {existing : Option Team} {id : String} {error : CompileError}
    (failed : (engine.select existing id).1.map (·.value) = .error error) :
    (engine.select existing id).2 = engine := by
  have refused := eq_error_of_map failed
  have kept : (engine.compilations.obtain? (compilationKey existing id)
      fun _ => engine.compiler.compile existing id).2 = engine.compilations :=
    Memo.snd_obtain?_of_error refused
  change { engine with compilations := (engine.compilations.obtain? (compilationKey existing id)
    fun _ => engine.compiler.compile existing id).2 } = engine
  rw [kept]

theorem snd_perform_of_error {call : Call} {error : CompileError}
    (failed : (engine.perform call).1 = .compilation (.error error)) :
    (engine.perform call).2 = engine := by
  cases call with
  | select selection => exact snd_select_of_error (Answer.compilation.inj failed)
  | selectOrDefault selection =>
    simp only [perform, selectOrDefault_eq] at failed ⊢
    cases found : engine.registry.find? selection.id with
    | some topology =>
      rw [found] at failed
      exact snd_select_of_error (Answer.compilation.inj failed)
    | none =>
      rw [found] at failed
      exact snd_select_of_error (eq_error_of_map (Answer.compilation.inj failed))
  | render drawing => simp [perform] at failed
  | renderRun team run => simp [perform] at failed
  | clear => simp [perform] at failed
  | withOptions options => simp [perform] at failed

/-- The requests of a history for the two tables. -/
def selectionsOf (registry : Registry) (calls : List Call) : List Selection :=
  calls.filterMap (Call.selection? registry)

def drawingsOf (calls : List Call) : List Drawing :=
  calls.filterMap Call.drawing?

theorem asks_of_mem {registry : Registry} {calls : List Call} {call : Call}
    (member : call ∈ calls) :
    call.Asks registry (selectionsOf registry calls) (drawingsOf calls) :=
  ⟨fun _ asked => List.mem_filterMap.mpr ⟨call, member, asked⟩,
    fun _ asked => List.mem_filterMap.mpr ⟨call, member, asked⟩⟩

theorem registry_perform (engine : Engine) (call : Call) :
    (engine.perform call).2.registry = engine.registry := by
  have same := congrArg Compiler.registry (compiler_perform engine call)
  rw [registry_govern] at same
  exact same

/-- Tables stay faithful through a history, whether keys clash or not. -/
theorem Faithful.after {registry : Registry} {calls : List Call}
    (faithful : engine.Faithful selections drawings) (known : engine.registry = registry)
    (asks : ∀ call ∈ calls, call.Asks registry selections drawings) :
    (engine.after calls).Faithful selections drawings := by
  induction calls generalizing engine with
  | nil => exact faithful
  | cons call rest ih =>
    have first := asks call List.mem_cons_self
    rw [← known] at first
    exact ih (faithful.perform first) ((registry_perform engine call).trans known)
      fun call member => asks call (List.mem_cons_of_mem _ member)

/-- The simulation: a faithful engine goes through a history of calls with the answers of one
without tables. -/
theorem Faithful.answers_eq {registry : Registry} {calls : List Call}
    (faithful : engine.Faithful selections drawings) (apart : KeysApart selections drawings)
    (known : engine.registry = registry)
    (asks : ∀ call ∈ calls, call.Asks registry selections drawings) :
    engine.answers calls = plainAnswers engine.compiler calls := by
  induction calls generalizing engine with
  | nil => rfl
  | cons call rest ih =>
    have first := asks call List.mem_cons_self
    rw [← known] at first
    have later := ih (faithful.perform first) ((registry_perform engine call).trans known)
      fun call member => asks call (List.mem_cons_of_mem _ member)
    rw [compiler_perform] at later
    rw [answers, plainAnswers, faithful.answer_eq apart first, later]

/-- No compilation that is stored carries the warning about a replaced id. -/
theorem Faithful.warnings_known (faithful : engine.Faithful selections drawings) :
    ∀ entry ∈ engine.compilations.entries, ∀ requested fallback,
      .unknownTopology requested fallback ∉ entry.2.value.warnings := by
  intro entry stored requested fallback
  obtain ⟨selection, _, _, compiled⟩ := faithful.compilations entry stored
  exact Compiler.compile_warnings_known compiled requested fallback

/-- If no two different requests of a history share a key, a fresh engine answers the history as
if it had no tables, whatever is asked in whatever order and however the options change on the way.
Failures leave the engine as it was, and the warning about an unknown id is never stored. -/
theorem answers_transparent {registry : Registry} {options : Options} {calls : List Call}
    (apart : KeysApart (selectionsOf registry calls) (drawingsOf calls)) :
    let fresh : Engine := { registry, options }
    fresh.answers calls = plainAnswers { registry, options } calls ∧
      ∀ before call later, calls = before ++ call :: later →
        (∀ error, ((fresh.after before).perform call).1 = .compilation (.error error) →
          ((fresh.after before).perform call).2 = fresh.after before) ∧
        ∀ entry ∈ (fresh.after (before ++ [call])).compilations.entries,
          ∀ requested fallback, .unknownTopology requested fallback ∉ entry.2.value.warnings := by
  intro fresh
  have faithful : fresh.Faithful (selectionsOf registry calls) (drawingsOf calls) :=
    faithful_fresh registry options
  have asks : ∀ call ∈ calls, call.Asks registry (selectionsOf registry calls)
      (drawingsOf calls) := fun _ member => asks_of_mem member
  refine ⟨faithful.answers_eq apart rfl asks, ?_⟩
  rintro before call later rfl
  refine ⟨fun _ failed => snd_perform_of_error failed, ?_⟩
  apply Faithful.warnings_known
  apply faithful.after rfl
  intro other member
  apply asks
  rcases List.mem_append.mp member with earlier | last
  · exact List.mem_append_left _ earlier
  · rw [List.mem_singleton.mp last]
    exact List.mem_append_right _ List.mem_cons_self

/-- An unknown topology, other options, a second topology and a run that has not begun. -/
theorem answers_transparent_of_replaced :
    let registry := Compiler.bundled.registry
    let small : Options := { defaultModel := ⟨"local", "small"⟩ }
    let team : Team := { driverKind := .fixedOrder, agents := [{ name := "planner" }] }
    let calls : List Call := [.select ⟨none, TopologyId.sequential⟩,
      .selectOrDefault ⟨none, "nowhere"⟩, .withOptions small,
      .select ⟨none, TopologyId.sequential⟩, .select ⟨none, TopologyId.debate⟩,
      .render ⟨team, Activity.empty, .created⟩, .renderRun team Run.start]
    KeysApart (selectionsOf registry calls) (drawingsOf calls) ∧
      answers { registry } calls = plainAnswers { registry } calls := by
  intro registry small team calls
  have unknown : registry.find? "nowhere" = none := by
    apply Option.isNone_iff_eq_none.mp
    decide +kernel
  have selections : selectionsOf registry calls = [⟨none, TopologyId.sequential⟩,
      ⟨none, TopologyId.sequential⟩, ⟨none, TopologyId.sequential⟩, ⟨none, TopologyId.debate⟩] := by
    simp [selectionsOf, calls, List.filterMap_cons, Call.selection?, Selection.orDefault, unknown,
      defaultTopology]
  have drawings : drawingsOf calls =
      [⟨team, Activity.empty, .created⟩, ⟨team, Activity.empty, .created⟩] := rfl
  have differ : Selection.key ⟨none, TopologyId.sequential⟩ ≠
      Selection.key ⟨none, TopologyId.debate⟩ := by decide +kernel
  have apart : KeysApart (selectionsOf registry calls) (drawingsOf calls) := by
    rw [selections, drawings]
    refine ⟨?_, ?_⟩
    · simp [differ, differ.symm]
    · simp
  exact ⟨apart, (answers_transparent apart).1⟩

end Engine

end AgentTeams
