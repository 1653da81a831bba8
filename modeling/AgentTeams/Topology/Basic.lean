import AgentTeams.Journal
import AgentTeams.NodeId
import AgentTeams.Text.Basic
import AgentTeams.Topology.Document
import AgentTeams.Vocabulary

/-!
Topologies: documents whose driver kind is known, whose example agents can stand together in a
diagram and whose look and requirements are complete.
-/
namespace AgentTeams

structure Topology where
  id : String
  name : String
  description : String
  driverKind : DriverKind
  exampleAgents : List Role
  visual : Visual
  required : Requirements
  coordinationPromptTemplate : Option String
  id_not_blank : Text.isBlank id = false
  names_accepted : nameFault? [] (exampleAgents.map (·.name)) = none

/-- Why topologies cannot be loaded. -/
inductive LoadError where
  | malformed (source : String) (error : Json.DecodeError)
  | emptyId (source : String)
  | unknownDriverKind (id driverKind : String)
  | duplicateId (id : String)
  | duplicateExampleAgent (id agent : String)
  | reservedExampleAgent (id agent : String)
  /-- The directory cannot be listed. -/
  | unreadableDirectory
  /-- The file cannot be read as text. -/
  | unreadableFile (name : String)
deriving DecidableEq

def LoadError.message : LoadError → String
  | malformed source error => "Malformed topology document " ++ source ++ ": " ++ error.message
  | emptyId source => "Topology document " ++ source ++ " has an empty id"
  | unknownDriverKind id driverKind =>
      "Topology '" ++ id ++ "' uses unknown driver kind '" ++ driverKind ++ "'"
  | duplicateId id => "Duplicate topology id: " ++ id
  | duplicateExampleAgent id agent =>
      "Topology '" ++ id ++ "' lists example agent '" ++ agent ++ "' more than once"
  | reservedExampleAgent id agent =>
      "Topology '" ++ id ++ "' names example agent '" ++ agent ++ "' after a diagram node"
  | unreadableDirectory => "IO error reading the directory"
  | unreadableFile name => "IO error reading " ++ name

namespace Topology

/-- The error for a name that an example agent cannot have. -/
def exampleAgentError (id : String) : NameFault → LoadError
  | .reserved name => .reservedExampleAgent id name
  | .repeated name => .duplicateExampleAgent id name

/-- Check a document and complete it with the defaults of its driver kind. -/
def ofDocument (source : String) (document : TopologyDocument) : Except LoadError Topology :=
  match blank : Text.isBlank document.id with
  | true => .error (.emptyId source)
  | false =>
      match DriverKind.ofName? document.driverKind with
      | none => .error (.unknownDriverKind document.id document.driverKind)
      | some driverKind =>
          match names : nameFault? [] (document.exampleAgents.map (·.name)) with
          | some fault => .error (exampleAgentError document.id fault)
          | none => .ok {
              id := document.id
              name := document.name
              description := document.description
              driverKind
              exampleAgents := document.exampleAgents
              visual := (document.visualOverride.getD {}).resolve (Visual.ofDriverKind driverKind)
              required :=
                (document.requiredConfig.getD {}).resolve (Requirements.ofDriverKind driverKind)
              coordinationPromptTemplate := document.coordinationPromptTemplate
              id_not_blank := blank
              names_accepted := names }

/-- Centralized selection over example agents that argue before an adjudicator. -/
def isDebate (topology : Topology) : Bool :=
  topology.driverKind = .centralizedSelection &&
    AgentTeams.isDebate (topology.exampleAgents.map Role.toAgent)

/-- What is said about a topology as it is checked. -/
def journal (topology : Topology) : Journal :=
  if topology.coordinationPromptTemplate.isSome ∧ topology.driverKind ≠ .centralizedSelection then
    [⟨.warn, "| topology registry | Topology '" ++ topology.id ++ "' (" ++
      topology.driverKind.name ++
      ") carries a coordination prompt template that will never be used"⟩]
  else []

end Topology

end AgentTeams
