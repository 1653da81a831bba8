import AgentTeams.DriverKind
import AgentTeams.TerminationRule

/-!
Driver settings that a topology asks of the teams built from it. A topology that leaves one open
takes that of its driver kind.
-/
namespace AgentTeams

structure Requirements where
  /-- Whether a selector may pick the previous speaker again. -/
  allowRepeatedSpeaker : Option Bool := none
  /-- The rule for teams that have none. -/
  termination : Option TerminationRule := none

namespace Requirements

def toJson (requirements : Requirements) : Json :=
  .obj [("allowRepeatedSpeaker", .ofOption requirements.allowRepeatedSpeaker .bool),
    ("termination", .ofOption requirements.termination TerminationRule.toJson)]

open Json in
def record : Record (Option Bool × Option TerminationRule) :=
  .both (.optional "allowRepeatedSpeaker" Decoder.bool)
    (.optional "termination" TerminationRule.decoder)

def decoder : Json.Decoder Requirements := fun tree =>
  (record.decode tree).map
    fun (allowRepeatedSpeaker, termination) => ⟨allowRepeatedSpeaker, termination⟩

instance : Json.Document Requirements := ⟨toJson, decoder⟩

/-- The settings of a driver kind. -/
def ofDriverKind : DriverKind → Requirements
  | .centralizedSelection => { allowRepeatedSpeaker := some false }
  | .fixedOrder | .peerHandoff | .hierarchical => {}

/-- Take the settings of `base` where there are none. -/
def resolve (requirements base : Requirements) : Requirements :=
  { allowRepeatedSpeaker := requirements.allowRepeatedSpeaker.or base.allowRepeatedSpeaker
    termination := requirements.termination.or base.termination }

end Requirements

end AgentTeams
