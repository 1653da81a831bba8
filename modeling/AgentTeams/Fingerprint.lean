import AgentTeams.Hash
import AgentTeams.Json.Document

/-!
Fingerprints: hashes of documents, so that equal documents have one key.
-/
namespace AgentTeams

namespace Fingerprint

private def counted (count : Nat) (bytes : ByteArray) : ByteArray :=
  ⟨(Hash.littleEndian (UInt64.ofNat count)).toArray⟩ ++ bytes

/-- The fingerprint of a text: its length in bytes goes in front. -/
def ofText (text : String) : UInt64 :=
  let bytes := text.toUTF8
  Hash.xxh3 (counted bytes.size bytes)

/-- The fingerprint of a document is that of its text. -/
def of [Json.Document α] (value : α) : UInt64 :=
  ofText (Json.Document.text value)

/-- One fingerprint for several: their count goes in front. -/
def combine (parts : List UInt64) : UInt64 :=
  Hash.xxh3 (counted parts.length ⟨(parts.flatMap Hash.littleEndian).toArray⟩)

end Fingerprint

end AgentTeams
