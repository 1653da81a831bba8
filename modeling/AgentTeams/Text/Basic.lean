/-!
Texts: those that are blank, those that end in a given way, and the replacement of what occurs in
them.
-/
namespace AgentTeams.Text

/-- The characters of the Unicode property White_Space. -/
def isSpace (c : Char) : Bool :=
  c.toNat ∈ [0x09, 0x0a, 0x0b, 0x0c, 0x0d, 0x20, 0x85, 0xa0, 0x1680, 0x2028, 0x2029, 0x202f, 0x205f,
    0x3000] || (0x2000 ≤ c.toNat && c.toNat ≤ 0x200a)

/-- Nothing but white space. -/
def isBlank (text : String) : Bool :=
  text.toList.all isSpace

def dropEnding? (ending text : List Char) : Option (List Char) :=
  if ending.isSuffixOf text then some (text.take (text.length - ending.length)) else none

theorem dropEnding?_append (ending text : List Char) :
    dropEnding? ending (text ++ ending) = some text := by
  have isEnding : ending.isSuffixOf (text ++ ending) = true :=
    List.isSuffixOf_iff_suffix.mpr ⟨text, rfl⟩
  simp [dropEnding?, isEnding]

theorem eq_append_of_dropEnding? {ending text rest : List Char}
    (dropped : dropEnding? ending text = some rest) : text = rest ++ ending := by
  unfold dropEnding? at dropped
  split at dropped
  · rename_i isEnding
    obtain ⟨front, rfl⟩ := List.isSuffixOf_iff_suffix.mp isEnding
    have same : front = rest := by simpa using dropped
    rw [same]
  · contradiction

/-- The text without its ending, if it ends so. -/
def stripEnding? (ending text : String) : Option String :=
  (dropEnding? ending.toList text.toList).map String.ofList

/-- Leave out `skip` characters, then replace the occurrences of `pattern`, which are looked for
from the left and do not overlap. -/
def replaceAfter (pattern replacement : List Char) : (skip : Nat) → List Char → List Char
  | _, [] => []
  | skip + 1, _ :: rest => replaceAfter pattern replacement skip rest
  | 0, c :: rest =>
      if pattern.isPrefixOf (c :: rest) then
        replacement ++ replaceAfter pattern replacement (pattern.length - 1) rest
      else c :: replaceAfter pattern replacement 0 rest

/-- Replace the occurrences of a pattern of at least one character. -/
def replace (pattern replacement text : String) : String :=
  String.ofList (replaceAfter pattern.toList replacement.toList 0 text.toList)

end AgentTeams.Text
