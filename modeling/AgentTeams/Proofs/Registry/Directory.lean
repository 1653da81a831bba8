import AgentTeams.Directory
import AgentTeams.Proofs.Text.Bytes
import AgentTeams.Proofs.Traversal
import Mathlib.Data.List.Sort

/-! Loading from a directory. What is loaded depends on the files that end in ".json" alone, and not
on the order in which the directory is listed: they are read in the order of the bytes of their
names, all of them before any is decoded. -/
namespace AgentTeams

namespace Directory

/-- The part of a name behind its last dot, if something stands in front of that. -/
def HasExtension (name extension : String) : Prop :=
  ∃ stem : List Char, stem ≠ [] ∧ '.' ∉ extension.toList ∧
    name.toList = stem ++ '.' :: extension.toList

/-- The files that count among the entries, in the order of the bytes of their names. -/
structure Files (entries files : List Entry) : Prop where
  member : ∀ entry, entry ∈ files ↔ entry ∈ entries ∧ HasExtension entry.name "json"
  ascending : files.Pairwise fun before after => Text.bytes before.name < Text.bytes after.name

/-- The texts of files, each with the name of its file. -/
def Texts (files : List Entry) (sources : List Registry.Source) : Prop :=
  files.map (fun file => (file.name, file.content.text?)) =
    sources.map fun source => (source.name, some source.text)

/-- The error is that of the first file that cannot be read. -/
def FirstUnreadable (files : List Entry) (error : LoadError) : Prop :=
  ∃ before file after, files = before ++ file :: after ∧ (∃ sources, Texts before sources) ∧
    file.content.text? = none ∧ error = .unreadableFile file.name

/-- What loading these files comes to. A file that cannot be read decides, whatever the others
hold; if there is none, it is for their texts to decide. -/
inductive Loads (files : List Entry) : Except LoadError Registry → Prop where
  | unreadable {error : LoadError} (first : FirstUnreadable files error) :
      Loads files (.error error)
  | readable {sources : List Registry.Source} (texts : Texts files sources) :
      Loads files (Registry.load sources)

variable {entries others files : List Entry}

theorem isTopologyName_iff {name : String} :
    isTopologyName name = true ↔ HasExtension name "json" := by
  have ending : ".json".toList = '.' :: "json".toList := rfl
  have undotted : '.' ∉ "json".toList := by decide
  unfold isTopologyName
  cases dropped : Text.dropEnding? ".json".toList name.toList with
  | some stem =>
    have parts := Text.eq_append_of_dropEnding? dropped
    constructor
    · intro given
      exact ⟨stem, by simpa using given, undotted, parts⟩
    · rintro ⟨other, given, _, same⟩
      obtain rfl : stem = other := List.append_cancel_right (parts.symm.trans same)
      simpa using given
  | none =>
    simp only [Bool.false_eq_true, false_iff]
    rintro ⟨stem, _, _, parts⟩
    rw [parts, ← ending, Text.dropEnding?_append] at dropped
    contradiction

theorem Files.unique (first : Files entries files) (second : Files entries others) :
    files = others := by
  have : Std.Irrefl fun before after : Entry =>
      Text.bytes before.name < Text.bytes after.name := ⟨fun _ => List.lt_irrefl _⟩
  have : Std.Antisymm fun before after : Entry =>
      Text.bytes before.name < Text.bytes after.name :=
    ⟨fun _ _ less greater => (List.lt_asymm less greater).elim⟩
  exact first.ascending.eq_of_mem_iff second.ascending fun entry =>
    (first.member entry).trans (second.member entry).symm

theorem files_topologyEntries (distinct : (entries.map (·.name)).Nodup) :
    Files entries (topologyEntries entries) where
  member entry := by
    rw [topologyEntries, List.mem_mergeSort, List.mem_filter, isTopologyName_iff]
  ascending := by
    have sorted : (topologyEntries entries).Pairwise fun before after =>
        decide (before.name ≤ after.name) = true := by
      refine List.pairwise_mergeSort (fun first second third below above => ?_)
        (fun first second => ?_) _
      · exact decide_eq_true (String.le_trans (of_decide_eq_true below) (of_decide_eq_true above))
      · simpa using String.le_total first.name second.name
    have same : (topologyEntries entries).Perm
        (entries.filter fun entry => isTopologyName entry.name) := List.mergeSort_perm _ _
    have apart : (topologyEntries entries).Pairwise fun before after =>
        before.name ≠ after.name := by
      apply List.pairwise_map.mp
      rw [← List.Nodup, (same.map _).nodup_iff]
      exact distinct.sublist (List.filter_sublist.map _)
    refine (sorted.and apart).imp fun ⟨below, differ⟩ => ?_
    exact Text.bytes_lt_iff.mpr (Std.lt_of_le_of_ne (of_decide_eq_true below) differ)

theorem Files.of_same (counted : Files entries files)
    (same : ∀ entry, HasExtension entry.name "json" → (entry ∈ others ↔ entry ∈ entries)) :
    Files others files where
  member entry := by
    rw [counted.member]
    exact and_congr_left fun counts => (same entry counts).symm
  ascending := counted.ascending

variable {file : Entry} {source : Registry.Source} {sources : List Registry.Source}
  {error : LoadError}

/-- Read one file. -/
def readEntry (file : Entry) : Except LoadError Registry.Source :=
  match file.content.text? with
  | some text => .ok ⟨file.name, text⟩
  | none => .error (.unreadableFile file.name)

theorem readEntry_eq_ok_iff : readEntry file = .ok source ↔
    (file.name, file.content.text?) = (source.name, some source.text) := by
  obtain ⟨name, text⟩ := source
  unfold readEntry
  cases file.content.text? <;> simp

theorem readEntry_eq_error_iff : readEntry file = .error error ↔
    file.content.text? = none ∧ error = .unreadableFile file.name := by
  unfold readEntry
  cases file.content.text? <;> simp [eq_comm]

theorem readEntries_eq_mapM (files : List Entry) : readEntries files = files.mapM readEntry := by
  induction files with
  | nil => rfl
  | cons file rest ih =>
    rw [readEntries, List.mapM_cons, ← ih, readEntry]
    cases file.content.text? <;> rfl

theorem texts_iff : Texts files sources ↔
    List.Forall₂ (fun file source => readEntry file = .ok source) files sources := by
  simp only [readEntry_eq_ok_iff]
  exact Traversal.map_eq_map_iff

theorem readEntries_eq_ok_iff : readEntries files = .ok sources ↔ Texts files sources := by
  rw [readEntries_eq_mapM, Traversal.mapM_eq_ok_iff, texts_iff]

theorem readEntries_eq_error_iff : readEntries files = .error error ↔
    FirstUnreadable files error := by
  rw [readEntries_eq_mapM, Traversal.mapM_eq_error_iff]
  simp only [FirstUnreadable, texts_iff, readEntry_eq_error_iff]

end Directory

open Directory

namespace Registry

variable {entries : List Entry} {answer : Except LoadError Registry}

theorem loadDirectory_some : loadDirectory (some entries) = answer ↔
    Loads (topologyEntries entries) answer := by
  have opened : loadDirectory (some entries) =
      readEntries (topologyEntries entries) >>= load := rfl
  rw [opened]
  constructor
  · rintro rfl
    cases reading : readEntries (topologyEntries entries) with
    | error error => exact .unreadable (readEntries_eq_error_iff.mp reading)
    | ok sources => exact .readable (readEntries_eq_ok_iff.mp reading)
  · intro loads
    cases loads with
    | unreadable first =>
      rw [readEntries_eq_error_iff.mpr first]
      rfl
    | readable texts =>
      rw [readEntries_eq_ok_iff.mpr texts]
      rfl

/-- A directory is listed in any order, with any entries besides the files that count. A file that
cannot be read is told of before any text that does not decode. -/
theorem loadDirectory_ignores_listing :
    loadDirectory none = .error .unreadableDirectory ∧
    ∀ entries : List Entry, (entries.map (·.name)).Nodup →
      (∃! files, Files entries files) ∧
      (∀ files answer, Files entries files →
        (loadDirectory (some entries) = answer ↔ Loads files answer)) ∧
      (∀ others : List Entry, others.Perm entries →
        loadDirectory (some others) = loadDirectory (some entries)) ∧
      ∀ others : List Entry, (others.map (·.name)).Nodup →
        (∀ entry, HasExtension entry.name "json" → (entry ∈ others ↔ entry ∈ entries)) →
        loadDirectory (some others) = loadDirectory (some entries) := by
  refine ⟨rfl, fun entries distinct => ?_⟩
  have counted := files_topologyEntries distinct
  have same_files (others : List Entry) (apart : (others.map (·.name)).Nodup)
      (same : ∀ entry, HasExtension entry.name "json" → (entry ∈ others ↔ entry ∈ entries)) :
      loadDirectory (some others) = loadDirectory (some entries) := by
    have ordered : topologyEntries others = topologyEntries entries :=
      (files_topologyEntries apart).unique (counted.of_same same)
    rw [loadDirectory_some, ordered, ← loadDirectory_some]
  refine ⟨⟨_, counted, fun files other => other.unique counted⟩, ?_, ?_, same_files⟩
  · intro files answer other
    rw [loadDirectory_some, counted.unique other]
  · intro others reordered
    exact same_files others ((reordered.map _).nodup_iff.mpr distinct) fun _ _ => reordered.mem_iff

/-- A folder is told of, although the text in front of it does not decode. -/
theorem loadDirectory_ignores_listing_of_subdirectory :
    let broken : Entry := ⟨"a.json", .bytes "\x7b".toUTF8⟩
    let folder : Entry := ⟨"b.json", .subdirectory⟩
    let hidden : Entry := ⟨".json", .subdirectory⟩
    loadDirectory (some [hidden, folder, broken]) = .error (.unreadableFile "b.json") ∧
      loadDirectory (some [broken, hidden, folder]) = .error (.unreadableFile "b.json") := by
  intro broken folder hidden
  obtain ⟨-, loaded, reordered, -⟩ :=
    loadDirectory_ignores_listing.2 [hidden, folder, broken] (by decide)
  have counted : Files [hidden, folder, broken] [broken, folder] := by
    have names : isTopologyName broken.name = true ∧ isTopologyName folder.name = true ∧
        isTopologyName hidden.name = false := by decide
    constructor
    · intro entry
      simp only [List.mem_cons, List.not_mem_nil, or_false, ← isTopologyName_iff]
      grind
    · simp only [List.pairwise_cons]
      decide
  have texts : Texts [broken] [⟨"a.json", "\x7b"⟩] := rfl
  have first : loadDirectory (some [hidden, folder, broken]) = .error (.unreadableFile "b.json") :=
    (loaded _ _ counted).mpr (.unreadable ⟨[broken], folder, [], rfl, ⟨_, texts⟩, rfl, rfl⟩)
  have turned := reordered _ (List.perm_append_singleton broken [hidden, folder]).symm
  exact ⟨first, turned.trans first⟩

end Registry

end AgentTeams
