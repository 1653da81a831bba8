import AgentTeams.Json.Reader
import AgentTeams.Sorted

/-!
Decoders of single values, and the causes for which a document is refused.
-/
namespace AgentTeams.Json

/-- Why a document does not decode. -/
inductive DecodeError where
  | missingField (name : String)
  | duplicateField (name : String)
  | unknownVariant (name : String) (expected : List String)
  /-- The text is not JSON, or a value is of another kind than its place asks for. -/
  | unreadable
deriving DecidableEq

namespace DecodeError

private def ticked (name : String) : String :=
  "`" ++ name ++ "`"

/-- Name the alternatives that would have been accepted. -/
private def alternatives : List String → String
  | [one] => ticked one
  | [one, other] => ticked one ++ " or " ++ ticked other
  | names => "one of " ++ ", ".intercalate (names.map ticked)

/-- What can be said about an error that concerns a name. -/
def detail? : DecodeError → Option String
  | missingField name => some ("missing field " ++ ticked name)
  | duplicateField name => some ("duplicate field " ++ ticked name)
  | unknownVariant name expected =>
      some ("unknown variant " ++ ticked name ++ ", expected " ++ alternatives expected)
  | unreadable => none

def message (error : DecodeError) : String :=
  error.detail?.getD "unreadable document"

end DecodeError

abbrev Decoder (α : Type) := Tree → Except DecodeError α

namespace Decoder

def string : Decoder String
  | .str (some value) => .ok value
  | _ => .error .unreadable

def bool : Decoder Bool
  | .bool value => .ok value
  | _ => .error .unreadable

/-- A whole number of 32 bits, written without fraction and exponent. -/
def word32 : Decoder UInt32
  | .num (some (.integer value)) =>
      if 0 ≤ value ∧ value < UInt32.size then .ok (UInt32.ofNat value.toNat) else .error .unreadable
  | _ => .error .unreadable

/-- Null stands for no value. -/
def optional (decode : Decoder α) : Decoder (Option α)
  | .null => .ok none
  | tree => (decode tree).map some

def items (decode : Decoder α) : List Tree → Except DecodeError (List α)
  | [] => .ok []
  | item :: rest => do
      let first ← decode item
      return first :: (← items decode rest)

def list (decode : Decoder α) : Decoder (List α)
  | .arr trees closing => do
      let values ← items decode trees
      if closing = .missing then .error .unreadable else .ok values
  | _ => .error .unreadable

def strings : Decoder (List String) := list string

def stringSet : Decoder StringSet := fun tree => (strings tree).map StringSet.ofList

/-- Any value, in canonical form. -/
def json : Decoder Json := fun tree =>
  match tree.toJson? with
  | some value => .ok value
  | none => .error .unreadable

/-- A value that nobody asks for only has to be well formed. -/
def ignored : Decoder Unit := fun tree =>
  if tree.wellFormed then .ok () else .error .unreadable

/-- Find an alternative by its name. -/
def pick (alternatives : List (String × α)) (name : String) : Except DecodeError α :=
  match alternatives.lookup name with
  | some value => .ok value
  | none => .error (.unknownVariant name (alternatives.map (·.1)))

/-- One of finitely many names: the name itself, or an object with the name as its only key and null
under it. -/
def choice (alternatives : List (String × α)) : Decoder α
  | .str (some name) => pick alternatives name
  | .obj ((some name, value) :: rest) closing => do
      if closing = .foreseen ∧ rest ≠ [] then throw .unreadable
      let chosen ← pick alternatives name
      match value, rest, closing with
      | _, _, .missing => throw .unreadable
      | .null, [], _ => return chosen
      | _, _, _ => throw .unreadable
  | _ => .error .unreadable

end Decoder

/-- Decode a whole text: first the value, then the check that nothing follows it. -/
def decodeText (decode : Decoder α) (text : String) : Except DecodeError α := do
  let (tree, trailing) := Tree.ofText text
  let value ← decode tree
  if trailing then .error .unreadable else .ok value

/-- Decode a stored value. -/
def decodeValue (decode : Decoder α) (value : Json) : Except DecodeError α :=
  decode (Tree.ofJson value)

end AgentTeams.Json
