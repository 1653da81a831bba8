import AgentTeams.Json.Document

/-!
Agents: the participants of a team, and the roles that a topology suggests. An agent's document
may have members that are not known here; they are kept and written back.
-/
namespace AgentTeams

/-- The model that an agent, or the selector of a team, runs on. -/
structure ModelBinding where
  provider : String
  model : String
deriving DecidableEq

namespace ModelBinding

def default : ModelBinding := ⟨"openai", "gpt-4o-mini"⟩

instance : Inhabited ModelBinding := ⟨default⟩

def toJson (binding : ModelBinding) : Json :=
  .obj [("provider", .str binding.provider), ("model", .str binding.model)]

open Json in
def decoder : Decoder ModelBinding := fun tree =>
  (Record.both (.required "provider" Decoder.string) (.required "model" Decoder.string)
    |>.decode tree).map fun (provider, model) => ⟨provider, model⟩

instance : Json.Document ModelBinding := ⟨toJson, decoder⟩

end ModelBinding

/-- One participant of a team. Its name is what prompts, handoffs and diagrams know it by. -/
structure Agent where
  name : String
  description : String := ""
  instructions : String := ""
  tools : StringSet := StringSet.empty
  modelBinding : Option ModelBinding := none
  handoffTargets : Option (List String) := none
  /-- Members of the document that are not known here. -/
  extra : StringMap Json := StringMap.empty

namespace Agent

def addTools (agent : Agent) (tools : List String) : Agent :=
  { agent with tools := tools.foldl StringSet.insert agent.tools }

def toJson (agent : Agent) : Json :=
  .obj <|
    [("name", .str agent.name), ("description", .str agent.description),
      ("instructions", .str agent.instructions)] ++
    (if agent.tools.elements.isEmpty then [] else [("tools", .strings agent.tools.elements)]) ++
    Json.member? "modelBinding" agent.modelBinding ModelBinding.toJson ++
    Json.member? "handoffTargets" agent.handoffTargets Json.strings ++
    agent.extra.entries

open Json in
/-- The members of an agent's document that are known here. -/
def record : Record (String × String × String × StringSet × Option ModelBinding ×
    Option (List String)) :=
  .both (.required "name" Decoder.string) <|
  .both (.defaulted "description" Decoder.string "") <|
  .both (.defaulted "instructions" Decoder.string "") <|
  .both (.defaulted "tools" Decoder.stringSet StringSet.empty) <|
  .both (.omissible "modelBinding" ModelBinding.decoder)
    (.omissible "handoffTargets" Decoder.strings)

def decoder : Json.Decoder Agent := fun tree =>
  (record.decodeKeeping tree).map
    fun ((name, description, instructions, tools, modelBinding, handoffTargets), extra) =>
      { name, description, instructions, tools, modelBinding, handoffTargets, extra }

instance : Json.Document Agent := ⟨toJson, decoder⟩

end Agent

/-- An example role that a topology comes with. -/
structure Role where
  name : String
  description : String := ""
  instructions : String := ""
deriving DecidableEq

namespace Role

def toAgent (role : Role) : Agent :=
  { name := role.name, description := role.description, instructions := role.instructions }

def toJson (role : Role) : Json :=
  .obj [("name", .str role.name), ("description", .str role.description),
    ("instructions", .str role.instructions)]

open Json in
def decoder : Decoder Role := fun tree =>
  (Record.both (.required "name" Decoder.string)
      (.both (.defaulted "description" Decoder.string "")
        (.defaulted "instructions" Decoder.string ""))
    |>.decode tree).map fun (name, description, instructions) => ⟨name, description, instructions⟩

instance : Json.Document Role := ⟨toJson, decoder⟩

end Role

end AgentTeams
