import AgentTeams.Text.Basic
import Mathlib.Data.List.Infix

/-! Replacement in parts: a text that is cut where no occurrence of the pattern crosses the cut may
be replaced on both sides by itself, and a text without an occurrence stays as it is. -/
namespace AgentTeams.Text

variable {pattern replacement front back text : List Char}

/-- No occurrence of the pattern begins in front of the cut and ends behind it. -/
def Uncrossed (pattern front back : List Char) : Prop :=
  ∀ opening closing, pattern = opening ++ closing → opening ≠ [] → closing ≠ [] →
    opening <:+ front → ¬ closing <+: back

theorem Uncrossed.of_cons {c : Char} (uncrossed : Uncrossed pattern (c :: front) back) :
    Uncrossed pattern front back :=
  fun opening closing split nonempty rest ending =>
    uncrossed opening closing split nonempty rest (ending.trans (List.suffix_cons c front))

/-- What begins with a character that a pattern can only begin with is not crossed into. -/
theorem uncrossed_of_head {c : Char} (fresh : c ∉ pattern.tail) :
    Uncrossed pattern front (c :: back) := by
  rintro opening closing rfl nonempty rest _ beginning
  obtain ⟨first, opening, rfl⟩ := List.exists_cons_of_ne_nil nonempty
  obtain ⟨next, closing, rfl⟩ := List.exists_cons_of_ne_nil rest
  obtain ⟨rfl, _⟩ := List.cons_prefix_cons.mp beginning
  exact fresh (by simp)

theorem Uncrossed.prefix_front (uncrossed : Uncrossed pattern front back) (inside : front ≠ [])
    (found : pattern <+: front ++ back) : pattern <+: front := by
  obtain ⟨rest, split⟩ := found
  rcases List.append_eq_append_iff.mp split with ⟨left, front_eq, _⟩ | ⟨excess, pattern_eq, back_eq⟩
  · exact ⟨left, front_eq.symm⟩
  · by_cases none : excess = []
    · simp [pattern_eq, none]
    · exact absurd ⟨rest, back_eq.symm⟩
        (uncrossed front excess pattern_eq inside none (List.suffix_refl front))

theorem replaceAfter_append (uncrossed : Uncrossed pattern front back) {skip : Nat}
    (inside : skip ≤ front.length) : replaceAfter pattern replacement skip (front ++ back) =
      replaceAfter pattern replacement skip front ++ replaceAfter pattern replacement 0 back := by
  induction front generalizing skip with
  | nil =>
    obtain rfl := Nat.le_zero.mp inside
    simp [replaceAfter]
  | cons c front ih =>
    cases skip with
    | succ skip => exact ih uncrossed.of_cons (Nat.le_of_succ_le_succ inside)
    | zero =>
      have same : pattern <+: c :: (front ++ back) ↔ pattern <+: c :: front :=
        ⟨uncrossed.prefix_front (List.cons_ne_nil c front),
          fun found => found.trans (List.prefix_append (c :: front) back)⟩
      simp only [List.cons_append, replaceAfter, List.isPrefixOf_iff_prefix, same]
      split
      · rename_i found
        -- The occurrence ends in front of the cut, so what is left out of the rest does so too.
        have short : pattern.length ≤ front.length + 1 := found.length_le
        rw [ih uncrossed.of_cons (by omega), List.append_assoc]
      · rw [ih uncrossed.of_cons (Nat.zero_le _), List.cons_append]

theorem replaceAfter_length_append (front back : List Char) :
    replaceAfter pattern replacement front.length (front ++ back) =
      replaceAfter pattern replacement 0 back := by
  induction front with
  | nil => rfl
  | cons c front ih => exact ih

theorem replaceAfter_pattern_append (nonempty : pattern ≠ []) (back : List Char) :
    replaceAfter pattern replacement 0 (pattern ++ back) =
      replacement ++ replaceAfter pattern replacement 0 back := by
  obtain ⟨c, rest, rfl⟩ := List.exists_cons_of_ne_nil nonempty
  have found : (c :: rest).isPrefixOf (c :: (rest ++ back)) = true :=
    List.isPrefixOf_iff_prefix.mpr (List.prefix_append (c :: rest) back)
  rw [List.cons_append, replaceAfter, if_pos found]
  exact congrArg (replacement ++ ·) (replaceAfter_length_append rest back)

theorem replaceAfter_of_absent (absent : ¬ pattern <:+: text) :
    replaceAfter pattern replacement 0 text = text := by
  induction text with
  | nil => rfl
  | cons c rest ih =>
    rw [List.infix_cons_iff, not_or] at absent
    have other : ¬ pattern.isPrefixOf (c :: rest) = true := by
      rw [List.isPrefixOf_iff_prefix]
      exact absent.1
    rw [replaceAfter, if_neg other, ih absent.2]

/-- What a replaced text begins with it began with before, unless that is in the replacement. -/
theorem prefix_of_prefix_replaceAfter {first : Char} {others beginning : List Char}
    (apart : first ∉ beginning)
    (found : beginning <+: replaceAfter pattern (first :: others) 0 text) : beginning <+: text := by
  induction text generalizing beginning with
  | nil => exact found
  | cons c rest ih =>
    cases beginning with
    | nil => exact List.nil_prefix
    | cons next beginning =>
      rw [List.mem_cons, not_or] at apart
      unfold replaceAfter at found
      split at found
      · exact absurd (List.cons_prefix_cons.mp found).1.symm apart.1
      · obtain ⟨same, onward⟩ := List.cons_prefix_cons.mp found
        exact List.cons_prefix_cons.mpr ⟨same, ih apart.2 onward⟩

theorem infix_append_cons_iff {c : Char} (absent : c ∉ pattern) :
    pattern <:+: front ++ c :: back ↔ pattern <:+: front ∨ pattern <:+: back := by
  have nowhere : ∀ {part : List Char}, c ∉ part → part <+: c :: back → part = [] := by
    intro part absent found
    cases part with
    | nil => rfl
    | cons next part =>
      obtain ⟨rfl, _⟩ := List.cons_prefix_cons.mp found
      simp at absent
  rw [List.infix_append_iff, List.infix_cons_iff]
  constructor
  · rintro (before | (here | after) | ⟨opening, closing, rfl, ending, beginning⟩)
    · exact .inl before
    · exact .inl (nowhere absent here ▸ List.nil_infix)
    · exact .inr after
    · have nothing := nowhere (fun member => absent (by simp [member])) beginning
      exact .inl (by simpa [nothing] using ending.isInfix)
  · rintro (before | after)
    · exact .inl before
    · exact .inr (.inl (.inr after))

theorem infix_cons_iff_of_not_mem {c : Char} (absent : c ∉ pattern) (nonempty : pattern ≠ []) :
    pattern <:+: c :: back ↔ pattern <:+: back := by
  have nowhere : ¬ pattern <:+: [] := fun found => nonempty (List.infix_nil.mp found)
  rw [← List.nil_append (c :: back), infix_append_cons_iff absent]
  simp [nowhere]

/-- A text has a part somewhere. -/
def Contains (text part : String) : Prop :=
  ∃ before after, text = before ++ part ++ after

theorem contains_iff_infix {text part : String} :
    Contains text part ↔ part.toList <:+: text.toList := by
  constructor
  · rintro ⟨before, after, rfl⟩
    exact ⟨before.toList, after.toList, by simp⟩
  · rintro ⟨before, after, same⟩
    refine ⟨String.ofList before, String.ofList after, ?_⟩
    simp [← String.toList_inj, ← same]

instance (text part : String) : Decidable (Contains text part) :=
  decidable_of_iff _ contains_iff_infix.symm

end AgentTeams.Text
