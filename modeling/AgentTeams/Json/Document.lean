import AgentTeams.Json.Printer
import AgentTeams.Json.Record

/-!
Documents: values with a JSON form that is written and read. The text of a document has its
members in order of declaration; the stored form has them sorted.
-/
namespace AgentTeams.Json

class Document (α : Type) where
  encode : α → Json
  decoder : Decoder α

namespace Document

instance : Document Json := ⟨canonical, Decoder.json⟩

instance : Document String := ⟨.str, Decoder.string⟩

instance [Document α] : Document (Option α) :=
  ⟨fun value => ofOption value encode, Decoder.optional decoder⟩

/-- The text of a value. -/
def text [Document α] (value : α) : String :=
  (encode value).compact

/-- The value that is left of a document once it has been stored. -/
def stored [Document α] (value : α) : Json :=
  (encode value).canonical

def read (α : Type) [Document α] (text : String) : Except DecodeError α :=
  decodeText decoder text

def ofStored (α : Type) [Document α] (value : Json) : Except DecodeError α :=
  decodeValue decoder value

end Document

end AgentTeams.Json
