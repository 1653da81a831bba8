import AgentTeams.Json.Document

/-!
Termination rules say when a run should stop. Rules are joined with `or`, which keeps one flat
list of conditions where it can.
-/
namespace AgentTeams

inductive TerminationRule where
  /-- Stop once a message contains the text. -/
  | textMention (text : String)
  /-- Stop after so many messages. -/
  | maxMessages (limit : UInt32)
  /-- Stop as soon as one of the conditions holds. -/
  | any (conditions : List TerminationRule)

namespace TerminationRule

/-- The rules of which one has to hold. -/
def conditions : TerminationRule → List TerminationRule
  | any conditions => conditions
  | rule => [rule]

/-- Stop as soon as either rule holds. -/
def or (left right : TerminationRule) : TerminationRule :=
  any (left.conditions ++ right.conditions)

def stopWord : String := "TERMINATE"

/-- Stop at the usual word, or after so many messages. -/
def stopWordOr (limit : UInt32) : TerminationRule :=
  (textMention stopWord).or (maxMessages limit)

def default : TerminationRule := stopWordOr 10

instance : Inhabited TerminationRule := ⟨default⟩

/-- Join rules from the left. Without any, the default stands. -/
def join : List TerminationRule → TerminationRule
  | [] => default
  | first :: rest => rest.foldl or first

mutual
/-- A rule in words; conditions are set apart by bars. -/
def display : TerminationRule → String
  | textMention text => "TextMention(" ++ text ++ ")"
  | maxMessages limit => "MaxMessages(" ++ toString limit.toNat ++ ")"
  | any conditions => " | ".intercalate (displays conditions)

def displays : List TerminationRule → List String
  | [] => []
  | rule :: rest => display rule :: displays rest
end

mutual
def toJson : TerminationRule → Json
  | textMention text => .obj [("type", .str "textMention"), ("text", .str text)]
  | maxMessages limit => .obj [("type", .str "maxMessages"), ("limit", .ofNat limit.toNat)]
  | any conditions => .obj [("type", .str "any"), ("conditions", .arr (toJsons conditions))]

def toJsons : List TerminationRule → List Json
  | [] => []
  | rule :: rest => toJson rule :: toJsons rest
end

/-- The kinds of rules. -/
inductive Kind where
  | textMention
  | maxMessages
  | any
deriving DecidableEq

def Kind.alternatives : List (String × Kind) :=
  [("textMention", .textMention), ("maxMessages", .maxMessages), ("any", .any)]

open Json in
/-- Decode a rule whose conditions stand inside each other at most so deep. -/
def decodeWithin (nested : Bool) : Nat → Decoder TerminationRule
  | 0, _ => .error .unreadable
  | depth + 1, tree => do
      let (kind, fields) ← Tagged.split nested Kind.alternatives tree
      match kind with
      | .textMention => return textMention (← (Record.required "text" Decoder.string).decode fields)
      | .maxMessages =>
          return maxMessages (← (Record.required "limit" Decoder.word32).decode fields)
      | .any =>
          let conditions := Decoder.list (decodeWithin true depth)
          return any (← (Record.required "conditions" conditions).decode fields)

def decoder : Json.Decoder TerminationRule := fun tree =>
  decodeWithin false (tree.height + 1) tree

instance : Json.Document TerminationRule := ⟨toJson, decoder⟩

end TerminationRule

end AgentTeams
