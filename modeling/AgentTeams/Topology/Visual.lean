import AgentTeams.DriverKind

/-!
How a topology is drawn. A topology may override the look of its driver kind field by field.
-/
namespace AgentTeams

/-- The geometry of a diagram. -/
inductive LayoutFamily where
  | chain
  | hubAndSpoke
  | mesh
  | forkJoin
  | tree
  | ring
deriving DecidableEq

namespace LayoutFamily

def all : List LayoutFamily := [chain, hubAndSpoke, mesh, forkJoin, tree, ring]

def name : LayoutFamily → String
  | chain => "chain"
  | hubAndSpoke => "hub_and_spoke"
  | mesh => "mesh"
  | forkJoin => "fork_join"
  | tree => "tree"
  | ring => "ring"

def decoder : Json.Decoder LayoutFamily :=
  Json.Decoder.choice (all.map (fun family => (family.name, family)))

instance : Json.Document LayoutFamily := ⟨fun family => .str family.name, decoder⟩

end LayoutFamily

inductive EdgeStyle where
  | solid
  | dashed
deriving DecidableEq

namespace EdgeStyle

def name : EdgeStyle → String
  | solid => "solid"
  | dashed => "dashed"

def decoder : Json.Decoder EdgeStyle :=
  Json.Decoder.choice ([solid, dashed].map (fun style => (style.name, style)))

instance : Json.Document EdgeStyle := ⟨fun style => .str style.name, decoder⟩

end EdgeStyle

structure ColorPair where
  primary : String
  secondary : String
deriving DecidableEq

namespace ColorPair

def toJson (colors : ColorPair) : Json :=
  .obj [("primary", .str colors.primary), ("secondary", .str colors.secondary)]

open Json in
def decoder : Decoder ColorPair := fun tree =>
  (Record.both (.required "primary" Decoder.string) (.required "secondary" Decoder.string)
    |>.decode tree).map fun (primary, secondary) => ⟨primary, secondary⟩

instance : Json.Document ColorPair := ⟨toJson, decoder⟩

end ColorPair

structure Visual where
  layout : LayoutFamily
  colors : ColorPair
  icon : String
  edgeStyle : EdgeStyle
  /-- Draw edges back: agents to the hub or supervisor, the last agent to the first. -/
  bidirectional : Bool
  /-- Draw edges between all pairs of agents. -/
  crossConnections : Bool
deriving DecidableEq

namespace Visual

def toJson (visual : Visual) : Json :=
  .obj [("layout", .str visual.layout.name), ("colors", visual.colors.toJson),
    ("icon", .str visual.icon), ("edgeStyle", .str visual.edgeStyle.name),
    ("bidirectional", .bool visual.bidirectional),
    ("crossConnections", .bool visual.crossConnections)]

open Json in
def decoder : Decoder Visual := fun tree =>
  (Record.both (.required "layout" LayoutFamily.decoder)
      (.both (.required "colors" ColorPair.decoder)
        (.both (.required "icon" Decoder.string)
          (.both (.required "edgeStyle" EdgeStyle.decoder)
            (.both (.required "bidirectional" Decoder.bool)
              (.required "crossConnections" Decoder.bool)))))
    |>.decode tree).map
      fun (layout, colors, icon, edgeStyle, bidirectional, crossConnections) =>
        { layout, colors, icon, edgeStyle, bidirectional, crossConnections }

instance : Json.Document Visual := ⟨toJson, decoder⟩

/-- The look of a driver kind. -/
def ofDriverKind : DriverKind → Visual
  | .fixedOrder => ⟨.chain, ⟨"#3b82f6", "#dbeafe"⟩, "arrow-right", .solid, false, false⟩
  | .centralizedSelection => ⟨.hubAndSpoke, ⟨"#8b5cf6", "#ede9fe"⟩, "target", .solid, true, false⟩
  | .peerHandoff => ⟨.mesh, ⟨"#10b981", "#d1fae5"⟩, "shuffle", .solid, true, false⟩
  | .hierarchical => ⟨.tree, ⟨"#f59e0b", "#fef3c7"⟩, "network", .solid, true, false⟩

/-- Some fields of a look. -/
structure Override where
  layout : Option LayoutFamily := none
  colors : Option ColorPair := none
  icon : Option String := none
  edgeStyle : Option EdgeStyle := none
  bidirectional : Option Bool := none
  crossConnections : Option Bool := none
deriving DecidableEq

namespace Override

def toJson (override : Override) : Json :=
  .obj [("layout", .ofOption override.layout (.str ·.name)),
    ("colors", .ofOption override.colors ColorPair.toJson),
    ("icon", .ofOption override.icon .str),
    ("edgeStyle", .ofOption override.edgeStyle (.str ·.name)),
    ("bidirectional", .ofOption override.bidirectional .bool),
    ("crossConnections", .ofOption override.crossConnections .bool)]

open Json in
def record : Record (Option LayoutFamily × Option ColorPair × Option String × Option EdgeStyle ×
    Option Bool × Option Bool) :=
  .both (.optional "layout" LayoutFamily.decoder) <|
  .both (.optional "colors" ColorPair.decoder) <|
  .both (.optional "icon" Decoder.string) <|
  .both (.optional "edgeStyle" EdgeStyle.decoder) <|
  .both (.optional "bidirectional" Decoder.bool)
    (.optional "crossConnections" Decoder.bool)

def decoder : Json.Decoder Override := fun tree =>
  (record.decode tree).map
    fun (layout, colors, icon, edgeStyle, bidirectional, crossConnections) =>
      { layout, colors, icon, edgeStyle, bidirectional, crossConnections }

instance : Json.Document Override := ⟨toJson, decoder⟩

/-- Fill the fields that are not overridden. -/
def resolve (override : Override) (base : Visual) : Visual :=
  { layout := override.layout.getD base.layout
    colors := override.colors.getD base.colors
    icon := override.icon.getD base.icon
    edgeStyle := override.edgeStyle.getD base.edgeStyle
    bidirectional := override.bidirectional.getD base.bidirectional
    crossConnections := override.crossConnections.getD base.crossConnections }

end Override

end Visual

end AgentTeams
