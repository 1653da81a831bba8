import AgentTeams.Compiler.Journal
import AgentTeams.Diagram.Render
import AgentTeams.Directory
import AgentTeams.Fingerprint
import AgentTeams.Memo

/-!
Engines: a registry and options with tables of what was compiled and drawn before. Equal requests
share one answer. An engine has no current topology; every request names its own.
-/
namespace AgentTeams

structure Engine where
  registry : Registry
  options : Options := {}
  compilations : Memo Compilation := {}
  diagrams : Memo Diagram := {}

namespace Engine

/-- The topology for requests that name an unknown one. -/
def defaultTopology : String := TopologyId.sequential

/-- The error of a compilation, as an engine reports it. -/
def errorMessage (error : CompileError) : String :=
  "Compile error: " ++ error.message

def compiler (engine : Engine) : Compiler :=
  { registry := engine.registry, options := engine.options }

/-- The key of a request for a compilation. -/
def compilationKey (existing : Option Team) (id : String) : UInt64 :=
  Fingerprint.combine [Fingerprint.of existing, Fingerprint.of id]

/-- The key of a request for a diagram. -/
def diagramKey (team : Team) (activity : Activity) (status : Run.Status) : UInt64 :=
  Fingerprint.combine [Fingerprint.of team, Fingerprint.of activity, Fingerprint.of status]

/-- Compile a topology, or take what the same request was answered before. -/
def select (engine : Engine) (existing : Option Team) (id : String) :
    Except CompileError (Ticketed Compilation) × Engine :=
  let (answer, compilations) := engine.compilations.obtain? (compilationKey existing id)
    (fun _ => engine.compiler.compile existing id)
  (answer, { engine with compilations })

/-- What `select` says; nothing if the answer is known. -/
def selectJournal (engine : Engine) (existing : Option Team) (id : String) : Journal :=
  match engine.compilations.find? (compilationKey existing id) with
  | some _ => []
  | none => engine.compiler.journal existing id

/-- Compile a topology; an unknown one is replaced by the default, with a warning. -/
def selectOrDefault (engine : Engine) (existing : Option Team) (id : String) :
    Except CompileError Compilation × Engine :=
  match engine.registry.find? id with
  | some _ =>
      let (answer, engine) := engine.select existing id
      (answer.map (·.value), engine)
  | none =>
      let (answer, engine) := engine.select existing defaultTopology
      (answer.map fun stored =>
        { stored.value with
          warnings := .unknownTopology id defaultTopology :: stored.value.warnings }, engine)

def selectOrDefaultJournal (engine : Engine) (existing : Option Team) (id : String) : Journal :=
  match engine.registry.find? id with
  | some _ => engine.selectJournal existing id
  | none =>
      ⟨.warn, "| engine | Unknown topology '" ++ id ++ "', falling back to '" ++ defaultTopology ++
        "'"⟩ :: engine.selectJournal existing defaultTopology

/-- Draw a team, or take what was drawn for the same request before. -/
def render (engine : Engine) (team : Team) (activity : Activity) (status : Run.Status) :
    Ticketed Diagram × Engine :=
  let (answer, diagrams) := engine.diagrams.obtain (diagramKey team activity status)
    (fun _ => engine.registry.render team activity status)
  (answer, { engine with diagrams })

/-- What `render` says; nothing if the answer is known. -/
def renderJournal (engine : Engine) (team : Team) (activity : Activity) (status : Run.Status) :
    Journal :=
  match engine.diagrams.find? (diagramKey team activity status) with
  | some _ => []
  | none => engine.registry.visualJournal team

/-- Draw a team as far as a run has come. -/
def renderRun (engine : Engine) (team : Team) (run : Run) : Ticketed Diagram × Engine :=
  engine.render team run.activity run.status

/-- Change the options. What was compiled under the old ones is dropped. -/
def withOptions (engine : Engine) (options : Options) : Engine :=
  { engine with options, compilations := engine.compilations.clear }

def clear (engine : Engine) : Engine :=
  { engine with compilations := engine.compilations.clear, diagrams := engine.diagrams.clear }

end Engine

end AgentTeams
