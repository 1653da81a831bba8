import AgentTeams.Registry
import AgentTeams.Text.Basic

/-!
Loading a registry from a directory: the files that end in ".json", in the order of their names.
-/
namespace AgentTeams

namespace Directory

/-- What stands under a name. -/
inductive Content where
  | bytes (data : ByteArray)
  | subdirectory

/-- The text of a file, if it is one and its bytes are UTF-8. -/
def Content.text? : Content → Option String
  | bytes data => String.fromUTF8? data
  | subdirectory => none

structure Entry where
  name : String
  content : Content

/-- The name has an extension, and it is "json". A name that only consists of one has none. -/
def isTopologyName (name : String) : Bool :=
  match Text.dropEnding? ".json".toList name.toList with
  | some stem => !stem.isEmpty
  | none => false

/-- The entries that count, in the order of their names. -/
def topologyEntries (entries : List Entry) : List Entry :=
  (entries.filter (fun entry => isTopologyName entry.name)).mergeSort
    (fun before after => before.name ≤ after.name)

/-- Read all files; the first that cannot be read decides the error. -/
def readEntries : List Entry → Except LoadError (List Registry.Source)
  | [] => .ok []
  | entry :: rest =>
      match entry.content.text? with
      | some text => do return ⟨entry.name, text⟩ :: (← readEntries rest)
      | none => .error (.unreadableFile entry.name)

/-- The texts of a directory; there are no entries if it cannot be listed. -/
def sources (listing : Option (List Entry)) : Except LoadError (List Registry.Source) :=
  match listing with
  | some entries => readEntries (topologyEntries entries)
  | none => .error .unreadableDirectory

end Directory

/-- Load the topologies of a directory. All files are read before any is decoded. -/
def Registry.loadDirectory (listing : Option (List Directory.Entry)) :
    Except LoadError Registry := do
  load (← Directory.sources listing)

def Registry.loadDirectoryJournal (listing : Option (List Directory.Entry)) : Journal :=
  match Directory.sources listing with
  | .ok sources => loadJournal sources
  | .error _ => []

end AgentTeams
