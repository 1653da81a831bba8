import AgentTeams.Proofs.Json.Record
import AgentTeams.Topology.Basic

/-! Topologies: what a document overrides, and the topology that its driver kind completes it to. -/
namespace AgentTeams

open Json (Decoder Tree)

/-- The fields of an override are those of these parts that are there. -/
structure Visual.Override.ReadFrom (parts : String → Option Tree) (override : Visual.Override) :
    Prop where
  layout : (parts "layout").map LayoutFamily.decoder = override.layout.map .ok
  colors : (parts "colors").map ColorPair.decoder = override.colors.map .ok
  icon : (parts "icon").map Decoder.string = override.icon.map .ok
  edgeStyle : (parts "edgeStyle").map EdgeStyle.decoder = override.edgeStyle.map .ok
  bidirectional : (parts "bidirectional").map Decoder.bool = override.bidirectional.map .ok
  crossConnections : (parts "crossConnections").map Decoder.bool =
    override.crossConnections.map .ok

theorem Visual.Override.readFrom_of_decoder {tree : Tree} {override : Visual.Override}
    (decoded : decoder tree = .ok override) : ReadFrom (record.given? · tree) override := by
  obtain ⟨_, read, rfl⟩ := Json.map_eq_ok_iff.mp decoded
  obtain ⟨layout, colors, icon, edgeStyle, bidirectional, crossConnections⟩ :=
    Json.Record.decode_readFrom (by decide) read
  constructor
  · exact Json.Record.optional_readFrom layout
  · exact Json.Record.optional_readFrom colors
  · exact Json.Record.optional_readFrom icon
  · exact Json.Record.optional_readFrom edgeStyle
  · exact Json.Record.optional_readFrom bidirectional
  · exact Json.Record.optional_readFrom crossConnections

/-- The settings of a document are those of these parts that are there. -/
structure Requirements.ReadFrom (parts : String → Option Tree) (requirements : Requirements) :
    Prop where
  allowRepeatedSpeaker : (parts "allowRepeatedSpeaker").map Decoder.bool =
    requirements.allowRepeatedSpeaker.map .ok
  termination : (parts "termination").map TerminationRule.decoder =
    requirements.termination.map .ok

theorem Requirements.readFrom_of_decoder {tree : Tree} {requirements : Requirements}
    (decoded : decoder tree = .ok requirements) :
    ReadFrom (record.given? · tree) requirements := by
  obtain ⟨_, read, rfl⟩ := Json.map_eq_ok_iff.mp decoded
  obtain ⟨allowRepeatedSpeaker, termination⟩ := Json.Record.decode_readFrom (by decide) read
  exact ⟨Json.Record.optional_readFrom allowRepeatedSpeaker,
    Json.Record.optional_readFrom termination⟩

namespace TopologyDocument

/-- A part of the look in a document. Neither the block nor the part may be null. -/
def visualPart? (tree : Tree) (name : String) : Option Tree :=
  (record.given? "visualOverride" tree).bind (Visual.Override.record.given? name)

/-- A part of the settings in a document. Neither the block nor the part may be null. -/
def requiredPart? (tree : Tree) (name : String) : Option Tree :=
  (record.given? "requiredConfig" tree).bind (Requirements.record.given? name)

/-- What a document overrides of a look. A block that is missing overrides nothing. -/
def look (document : TopologyDocument) : Visual.Override :=
  document.visualOverride.getD {}

/-- What a document overrides of the settings. A block that is missing overrides nothing. -/
def demands (document : TopologyDocument) : Requirements :=
  document.requiredConfig.getD {}

variable {document : TopologyDocument} {tree : Tree}

theorem look_readFrom (decoded : decoder tree = .ok document) :
    Visual.Override.ReadFrom (visualPart? tree) document.look := by
  obtain ⟨_, read, rfl⟩ := Json.map_eq_ok_iff.mp decoded
  obtain ⟨_, _, _, _, _, part, _⟩ := Json.Record.decode_readFrom (by decide) read
  have block : (record.given? "visualOverride" tree).map Visual.Override.decoder = _ :=
    Json.Record.omissible_readFrom part
  unfold visualPart?
  rcases Json.Record.given_cases block with
    ⟨absent, unset⟩ | ⟨inner, override, present, set, decoded⟩
  · simpa [absent, look, unset] using ⟨rfl, rfl, rfl, rfl, rfl, rfl⟩
  · simpa [present, look, set] using Visual.Override.readFrom_of_decoder decoded

theorem demands_readFrom (decoded : decoder tree = .ok document) :
    Requirements.ReadFrom (requiredPart? tree) document.demands := by
  obtain ⟨_, read, rfl⟩ := Json.map_eq_ok_iff.mp decoded
  obtain ⟨_, _, _, _, _, _, part, _⟩ := Json.Record.decode_readFrom (by decide) read
  have block : (record.given? "requiredConfig" tree).map Requirements.decoder = _ :=
    Json.Record.omissible_readFrom part
  unfold requiredPart?
  rcases Json.Record.given_cases block with
    ⟨absent, unset⟩ | ⟨inner, requirements, present, set, decoded⟩
  · simpa [absent, demands, unset] using ⟨rfl, rfl⟩
  · simpa [present, demands, set] using Requirements.readFrom_of_decoder decoded

/-- A document overrides what a tree has in the two blocks and is not null. -/
structure OverridesFrom (tree : Tree) (document : TopologyDocument) : Prop where
  look : Visual.Override.ReadFrom (visualPart? tree) document.look
  demands : Requirements.ReadFrom (requiredPart? tree) document.demands

theorem overridesFrom_of_decoder (decoded : decoder tree = .ok document) :
    OverridesFrom tree document :=
  ⟨look_readFrom decoded, demands_readFrom decoded⟩

end TopologyDocument

/-- The topology of a document. Each field of its look and its settings is the document's own if
there is one, else that of the driver kind, whatever the other fields are. -/
structure Topology.Completes (topology : Topology) (document : TopologyDocument) : Prop where
  id : topology.id = document.id
  name : topology.name = document.name
  description : topology.description = document.description
  driverKind : topology.driverKind.name = document.driverKind
  exampleAgents : topology.exampleAgents = document.exampleAgents
  coordinationPromptTemplate :
    topology.coordinationPromptTemplate = document.coordinationPromptTemplate
  layout : topology.visual.layout =
    document.look.layout.getD (Visual.ofDriverKind topology.driverKind).layout
  colors : topology.visual.colors =
    document.look.colors.getD (Visual.ofDriverKind topology.driverKind).colors
  icon : topology.visual.icon =
    document.look.icon.getD (Visual.ofDriverKind topology.driverKind).icon
  edgeStyle : topology.visual.edgeStyle =
    document.look.edgeStyle.getD (Visual.ofDriverKind topology.driverKind).edgeStyle
  bidirectional : topology.visual.bidirectional =
    document.look.bidirectional.getD (Visual.ofDriverKind topology.driverKind).bidirectional
  crossConnections : topology.visual.crossConnections =
    document.look.crossConnections.getD (Visual.ofDriverKind topology.driverKind).crossConnections
  allowRepeatedSpeaker : topology.required.allowRepeatedSpeaker =
    document.demands.allowRepeatedSpeaker.or
      (Requirements.ofDriverKind topology.driverKind).allowRepeatedSpeaker
  termination : topology.required.termination =
    document.demands.termination.or (Requirements.ofDriverKind topology.driverKind).termination

end AgentTeams
