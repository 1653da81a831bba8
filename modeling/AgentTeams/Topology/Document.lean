import AgentTeams.Agent
import AgentTeams.Topology.Requirements
import AgentTeams.Topology.Visual

/-!
Topology documents: topologies as they are stored. The driver kind is still a plain string here,
so that an unknown one is refused together with the topology's id.
-/
namespace AgentTeams

structure TopologyDocument where
  id : String
  name : String
  description : String
  driverKind : String
  exampleAgents : List Role
  visualOverride : Option Visual.Override := none
  requiredConfig : Option Requirements := none
  coordinationPromptTemplate : Option String := none

namespace TopologyDocument

def toJson (document : TopologyDocument) : Json :=
  .obj [("id", .str document.id), ("name", .str document.name),
    ("description", .str document.description), ("driverKind", .str document.driverKind),
    ("exampleAgents", .arr (document.exampleAgents.map Role.toJson)),
    ("visualOverride", .ofOption document.visualOverride Visual.Override.toJson),
    ("requiredConfig", .ofOption document.requiredConfig Requirements.toJson),
    ("coordinationPromptTemplate", .ofOption document.coordinationPromptTemplate .str)]

open Json in
def record : Record (String × String × String × String × List Role × Option Visual.Override ×
    Option Requirements × Option String) :=
  .both (.required "id" Decoder.string) <|
  .both (.required "name" Decoder.string) <|
  .both (.required "description" Decoder.string) <|
  .both (.required "driverKind" Decoder.string) <|
  .both (.required "exampleAgents" (Decoder.list Role.decoder)) <|
  .both (.omissible "visualOverride" Visual.Override.decoder) <|
  .both (.omissible "requiredConfig" Requirements.decoder)
    (.omissible "coordinationPromptTemplate" Decoder.string)

def decoder : Json.Decoder TopologyDocument := fun tree =>
  (record.decode tree).map
    fun (id, name, description, driverKind, exampleAgents, visualOverride, requiredConfig,
        coordinationPromptTemplate) =>
      { id, name, description, driverKind, exampleAgents, visualOverride, requiredConfig,
        coordinationPromptTemplate }

instance : Json.Document TopologyDocument := ⟨toJson, decoder⟩

end TopologyDocument

end AgentTeams
