import AgentTeams.Agent
import AgentTeams.Journal
import AgentTeams.TerminationRule

/-!
Compile options: what a compiled team gets where it and its topology say nothing. Options can be
read from a document or from the variables of an environment.
-/
namespace AgentTeams

structure Options where
  defaultModel : ModelBinding := ModelBinding.default
  defaultTermination : TerminationRule := TerminationRule.default
  /-- Whether a team that stays under centralized selection keeps its own model. -/
  preserveModelBinding : Bool := false

namespace Options

instance : Inhabited Options := ⟨{}⟩

def toJson (options : Options) : Json :=
  .obj [("defaultModel", options.defaultModel.toJson),
    ("defaultTermination", options.defaultTermination.toJson),
    ("preserveModelBinding", .bool options.preserveModelBinding)]

open Json in
def decoder : Decoder Options := fun tree =>
  (Record.both (.defaulted "defaultModel" ModelBinding.decoder ModelBinding.default)
      (.both (.defaulted "defaultTermination" TerminationRule.decoder TerminationRule.default)
        (.defaulted "preserveModelBinding" Decoder.bool false))
    |>.decode tree).map
      fun (defaultModel, defaultTermination, preserveModelBinding) =>
        { defaultModel, defaultTermination, preserveModelBinding }

instance : Json.Document Options := ⟨toJson, decoder⟩

/-- Why a text is not a whole number of 32 bits. -/
inductive CountError where
  | empty
  | invalidDigit
  | tooLarge
deriving DecidableEq

def CountError.message : CountError → String
  | empty => "cannot parse integer from empty string"
  | invalidDigit => "invalid digit found in string"
  | tooLarge => "number too large to fit in target type"

/-- Read digits after those that make `value`. The first fault decides the error. -/
def readDigits (value : Nat) : List Char → Except CountError UInt32
  | [] => .ok (UInt32.ofNat value)
  | c :: rest =>
      if c.isDigit then
        let next := value * 10 + (c.toNat - '0'.toNat)
        if next < UInt32.size then readDigits next rest else .error .tooLarge
      else .error .invalidDigit

/-- Read a whole number of 32 bits: an optional plus sign and at least one digit. -/
def readCount (text : String) : Except CountError UInt32 :=
  match text.toList with
  | [] => .error .empty
  | ['+'] => .error .invalidDigit
  | '+' :: digits => readDigits 0 digits
  | digits => readDigits 0 digits

def providerVariable : String := "TOPOLOGY_MODEL_PROVIDER"
def modelVariable : String := "TOPOLOGY_MODEL"
def maxMessagesVariable : String := "TOPOLOGY_MAX_MESSAGES"
def preserveVariable : String := "TOPOLOGY_PRESERVE_MODEL_BINDING"

/-- The texts that switch a setting on. -/
def affirmative : List String := ["1", "true", "yes"]

/-- The termination rule that the variable asks for. -/
def requestedTermination? (lookup : String → Option String) : Option TerminationRule := do
  (readCount (← lookup maxMessagesVariable)).toOption.map TerminationRule.stopWordOr

/-- Options from variables; one that is unset or cannot be read keeps its default. -/
def ofVariables (lookup : String → Option String) : Options where
  defaultModel := {
    provider := (lookup providerVariable).getD ModelBinding.default.provider
    model := (lookup modelVariable).getD ModelBinding.default.model }
  defaultTermination := (requestedTermination? lookup).getD TerminationRule.default
  preserveModelBinding := (lookup preserveVariable).any (· ∈ affirmative)

/-- What is said about a variable that is ignored. -/
def variablesJournal (lookup : String → Option String) : Journal :=
  match (lookup maxMessagesVariable).map readCount with
  | some (.error error) =>
      [⟨.warn, "| compile options | Ignoring " ++ maxMessagesVariable ++ ": " ++ error.message⟩]
  | _ => []

end Options

end AgentTeams
