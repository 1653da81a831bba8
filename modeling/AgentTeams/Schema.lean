import AgentTeams.Json.Pointer
import AgentTeams.Team
import AgentTeams.Topology.Document

/-!
JSON Schemas of the two documents that are written by hand: teams and topologies.
-/
namespace AgentTeams

/-- A schema is a list of keywords. -/
abbrev Schema := List (String × Json)

namespace Schema

def text : Schema := [("type", .str "string")]

def flag : Schema := [("type", .str "boolean")]

/-- A whole number of 32 bits. -/
def word32 : Schema := [("type", .str "integer"), ("format", .str "uint32"), ("minimum", .ofNat 0)]

def list (items : Schema) : Schema := [("type", .str "array"), ("items", .obj items)]

/-- A list without repeats. -/
def set (items : Schema) : Schema := list items ++ [("uniqueItems", .bool true)]

/-- What is defined under a name. -/
def defined (name : String) : Schema := [("$ref", .str ("#/$defs/" ++ name))]

/-- One text. -/
def constant (value : String) : Schema := ("const", .str value) :: text

/-- One of these texts. -/
def oneName (names : List String) : Schema := ("enum", .strings names) :: text

def oneOf (alternatives : List Schema) : Schema := [("oneOf", .arr (alternatives.map .obj))]

/-- Null is a type beside that of the schema, or an alternative if the schema has none. -/
def nullable (schema : Schema) : Schema :=
  match schema.lookup "type" with
  | some type => schema.map fun
      | ("type", _) => ("type", .arr [type, .str "null"])
      | keyword => keyword
  | none => [("anyOf", .arr [.obj schema, .obj [("type", .str "null")]])]

def described (description : String) (schema : Schema) : Schema :=
  ("description", .str description) :: schema

/-- What an absent member stands for. -/
def withDefault (value : Json) (schema : Schema) : Schema :=
  ("default", value) :: schema

/-- A member of an object. -/
structure Property where
  name : String
  schema : Schema
  isRequired : Bool

def required (name : String) (schema : Schema) : Property := ⟨name, schema, true⟩

def optional (name : String) (schema : Schema) : Property := ⟨name, schema, false⟩

/-- An object; if none of its members has to be there, nothing is said about that. -/
def object (properties : List Property) : Schema :=
  let names := (properties.filter (·.isRequired)).map (·.name)
  [("type", .str "object"),
    ("properties", .obj (properties.map fun property => (property.name, .obj property.schema)))] ++
  if names.isEmpty then [] else [("required", .strings names)]

/-- A kind of tagged document. -/
def tagged (tag : String) (property : Property) : Schema :=
  object [required "type" (constant tag), property]

def modelBinding : Schema :=
  described "The model an agent (or the team-level speaker selector) runs on." <|
  object [required "provider" text, required "model" text]

def driverKindDescription : DriverKind → String
  | .fixedOrder => "Agents speak in list order, round after round."
  | .centralizedSelection => "A model picks the next speaker from the roster every turn."
  | .peerHandoff => "The current speaker transfers control to a peer."
  | .hierarchical => "The first agent supervises and delegates to the rest."

def driverKind : Schema :=
  described "The turn-taking mechanism that decides who speaks next." <|
  oneOf <| DriverKind.all.map fun kind =>
    described (driverKindDescription kind) (constant kind.name)

def terminationRule : Schema :=
  described "When the runtime should stop a run." <|
  oneOf [
    described "Stop once a message contains `text`." <|
      tagged "textMention" (required "text" text),
    described "Stop after `limit` messages." <|
      tagged "maxMessages" (required "limit" word32),
    described "Stop as soon as any of the conditions holds." <|
      tagged "any" (required "conditions" (list (defined "TerminationRule")))]

def agent : Schema :=
  described "One participant of a team.

The name is the key used by handoff graphs, coordination prompts and layout
nodes, so it must be unique within a configuration. Fields the engine does
not know about (externally sourced agents carry their own connection
settings) are kept in `extra` and written back unchanged." <|
  ("additionalProperties", .bool true) ::
  object [
    required "name" text,
    optional "description" (withDefault (.str "") text),
    optional "instructions" (withDefault (.str "") text),
    optional "tools" (set text),
    optional "modelBinding" (nullable (defined "ModelBinding")),
    optional "handoffTargets" (nullable (list text))]

def role : Schema :=
  described "An example role shipped with a topology definition." <|
  object [
    required "name" text,
    optional "description" (withDefault (.str "") text),
    optional "instructions" (withDefault (.str "") text)]

def layoutFamily : Schema :=
  described "Geometric layout used to draw a topology." <|
  oneName (LayoutFamily.all.map (·.name))

def edgeStyle : Schema :=
  oneName ([EdgeStyle.solid, EdgeStyle.dashed].map (·.name))

def colorPair : Schema :=
  object [required "primary" text, required "secondary" text]

def visualOverride : Schema :=
  described "Partial [`VisualDescriptor`] a definition may carry; absent fields fall back
to the driver family's defaults." <|
  object [
    optional "layout" (nullable (defined "LayoutFamily")),
    optional "colors" (nullable (defined "ColorPair")),
    optional "icon" (nullable text),
    optional "edgeStyle" (nullable (defined "EdgeStyle")),
    optional "bidirectional" (nullable flag),
    optional "crossConnections" (nullable flag)]

def requirements : Schema :=
  object [
    optional "allowRepeatedSpeaker" (nullable flag),
    optional "termination" (nullable (defined "TerminationRule"))]

/-- A whole schema: the document's own keywords and the definitions that it refers to. -/
def root (title : String) (definitions : List (String × Schema)) (document : Schema) : Json :=
  .obj <|
    [("$schema", .str "https://json-schema.org/draft/2020-12/schema"), ("title", .str title)] ++
    document ++ [("$defs", .obj (definitions.map fun (name, schema) => (name, .obj schema)))]

def team : Json :=
  root "TeamConfig"
    [("AgentDescriptor", agent), ("DriverKind", driverKind), ("ModelBinding", modelBinding),
      ("TerminationRule", terminationRule)] <|
  described "The executable team handed to the multi-agent runtime." <|
  object [
    required "driverKind" (defined "DriverKind"),
    optional "topologyId"
      (described "The topology this team was last compiled for." (nullable text)),
    optional "label" (nullable text),
    optional "description" (nullable text),
    optional "agents" (withDefault (.arr []) (list (defined "AgentDescriptor"))),
    optional "teamModelBinding" (nullable (defined "ModelBinding")),
    optional "coordinationPrompt" (nullable text),
    optional "allowRepeatedSpeaker" (nullable flag),
    optional "terminationRule" (nullable (defined "TerminationRule"))]

def topologyDocument : Json :=
  root "TopologyDocument"
    [("AgentRole", role), ("ColorPair", colorPair), ("EdgeStyle", edgeStyle),
      ("LayoutFamily", layoutFamily), ("RequiredConfigOverride", requirements),
      ("TerminationRule", terminationRule), ("VisualOverride", visualOverride)] <|
  described "A topology definition document as stored on disk.

`driverKind` stays a string here so an unknown kind is reported by the
registry with the offending definition's id." <|
  object [
    required "id" text,
    required "name" text,
    required "description" text,
    required "driverKind" text,
    required "exampleAgents" (list (defined "AgentRole")),
    optional "visualOverride" (withDefault .null (nullable (defined "VisualOverride"))),
    optional "requiredConfig" (withDefault .null (nullable (defined "RequiredConfigOverride"))),
    optional "coordinationPromptTemplate" (withDefault .null (nullable text))]

end Schema

end AgentTeams
