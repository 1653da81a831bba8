import AgentTeams.Proofs.Text.Replace
import Mathlib.Data.List.Infix

/-! Words in braces. Two of them in a text never overlap, so one stays where it is when another is
replaced, and a change that leaves some of them in their places keeps their order. -/
namespace AgentTeams.Text

variable {part other pattern replacement front back text word : List Char}

/-- A word in braces, without any brace inside. -/
def Braced (part : List Char) : Prop :=
  ∃ word, part = '\x7b' :: (word ++ ['\x7d']) ∧ '\x7b' ∉ word ∧ '\x7d' ∉ word

theorem Braced.open_head (braced : Braced part) :
    ∃ rest, part = '\x7b' :: rest ∧ '\x7b' ∉ rest := by
  obtain ⟨word, rfl, opening, _⟩ := braced
  exact ⟨word ++ ['\x7d'], rfl, by simpa using opening⟩

/-- The word up to a closing brace, if no other brace comes first. -/
def enclosed? : List Char → Option (List Char)
  | [] => none
  | c :: rest =>
      if c = '\x7d' then some []
      else if c = '\x7b' then none
      else (enclosed? rest).map (c :: ·)

/-- The word in braces that a text begins with. -/
def bracedAt? : List Char → Option (List Char)
  | [] => none
  | c :: rest =>
      if c = '\x7b' then (enclosed? rest).map fun word => c :: (word ++ ['\x7d']) else none

/-- The words in braces of a text, from left to right. -/
def bracedParts (text : List Char) : List (List Char) :=
  text.tails.filterMap bracedAt?

theorem enclosed?_eq_some_iff : enclosed? text = some word ↔
    word ++ ['\x7d'] <+: text ∧ '\x7b' ∉ word ∧ '\x7d' ∉ word := by
  induction text generalizing word with
  | nil => simp [enclosed?]
  | cons c rest ih =>
    by_cases closing : c = '\x7d'
    · cases word with
      | nil => simp [enclosed?, closing]
      | cons next word =>
        simp only [enclosed?, if_pos closing, Option.some.injEq, List.nil_eq, reduceCtorEq,
          false_iff, List.cons_append, List.cons_prefix_cons, List.mem_cons]
        rintro ⟨⟨rfl, _⟩, _, free⟩
        exact free (.inl closing.symm)
    · by_cases opening : c = '\x7b'
      · cases word with
        | nil => simp [enclosed?, opening]
        | cons next word =>
          simp only [enclosed?, if_neg closing, if_pos opening, reduceCtorEq, false_iff,
            List.cons_append, List.cons_prefix_cons, List.mem_cons]
          rintro ⟨⟨rfl, _⟩, free, _⟩
          exact free (.inl opening.symm)
      · cases word with
        | nil => simp [enclosed?, opening, closing, Ne.symm closing]
        | cons next word =>
          simp only [enclosed?, if_neg closing, if_neg opening, Option.map_eq_some_iff, ih,
            List.cons.injEq, List.cons_append, List.cons_prefix_cons, List.mem_cons]
          constructor
          · rintro ⟨_, ⟨begins, free, free'⟩, rfl, rfl⟩
            exact ⟨⟨rfl, begins⟩, by simp [free, Ne.symm opening], by simp [free', Ne.symm closing]⟩
          · rintro ⟨⟨rfl, begins⟩, free, free'⟩
            exact ⟨word, ⟨begins, fun member => free (.inr member),
              fun member => free' (.inr member)⟩, rfl, rfl⟩

theorem bracedAt?_eq_some_iff : bracedAt? text = some part ↔ Braced part ∧ part <+: text := by
  cases text with
  | nil =>
    refine iff_of_false (by simp [bracedAt?]) ?_
    rintro ⟨braced, begins⟩
    obtain ⟨rest, rfl, _⟩ := braced.open_head
    simp at begins
  | cons c rest =>
    by_cases opening : c = '\x7b'
    · simp only [bracedAt?, if_pos opening, Option.map_eq_some_iff, enclosed?_eq_some_iff]
      constructor
      · rintro ⟨word, ⟨begins, free, free'⟩, rfl⟩
        exact ⟨⟨word, by rw [opening], free, free'⟩, List.cons_prefix_cons.mpr ⟨rfl, begins⟩⟩
      · rintro ⟨⟨word, rfl, free, free'⟩, begins⟩
        obtain ⟨same, begins⟩ := List.cons_prefix_cons.mp begins
        exact ⟨word, ⟨begins, free, free'⟩, by rw [same]⟩
    · refine iff_of_false (by simp [bracedAt?, opening]) ?_
      rintro ⟨braced, begins⟩
      obtain ⟨rest, rfl, _⟩ := braced.open_head
      exact opening (List.cons_prefix_cons.mp begins).1.symm

/-- At one place of a text there is at most one word in braces. -/
theorem Braced.eq_of_prefix (braced : Braced part) (braced' : Braced other)
    (begins : part <+: other ++ back) : part = other := by
  have found : bracedAt? (other ++ back) = some part :=
    bracedAt?_eq_some_iff.mpr ⟨braced, begins⟩
  have found' : bracedAt? (other ++ back) = some other :=
    bracedAt?_eq_some_iff.mpr ⟨braced', List.prefix_append _ _⟩
  exact Option.some.inj (found.symm.trans found')

/-- A part of a word in braces that opens at its end is all of it. -/
theorem Braced.eq_of_suffix (braced : Braced part) (ending : '\x7b' :: back <:+ part) :
    '\x7b' :: back = part := by
  obtain ⟨rest, rfl, once⟩ := braced.open_head
  obtain ⟨front, split⟩ := ending
  cases front with
  | nil => exact split
  | cons c front =>
    obtain ⟨rfl, rfl⟩ := List.cons.inj split
    simp at once

theorem Braced.uncrossed_before (braced : Braced pattern) (braced' : Braced part) :
    Uncrossed pattern front (part ++ back) := by
  obtain ⟨rest, rfl, once⟩ := braced.open_head
  obtain ⟨others, rfl, _⟩ := braced'.open_head
  exact uncrossed_of_head once

theorem Braced.uncrossed_behind (braced : Braced pattern) (braced' : Braced part)
    (apart : pattern ≠ part) : Uncrossed pattern part back := by
  rintro opening closing rfl nonempty _ ending _
  obtain ⟨rest, same, _⟩ := braced.open_head
  obtain ⟨first, opening, rfl⟩ := List.exists_cons_of_ne_nil nonempty
  obtain ⟨rfl, _⟩ := List.cons.inj same
  have whole := braced'.eq_of_suffix ending
  rw [whole] at apart braced
  have begins : part <+: (part ++ closing) ++ [] := by simp
  exact apart (braced'.eq_of_prefix braced begins).symm

theorem Braced.not_infix (braced : Braced pattern) (braced' : Braced part)
    (apart : pattern ≠ part) : ¬ pattern <:+: part := by
  rintro ⟨front, back, split⟩
  obtain ⟨rest, same, _⟩ := braced.open_head
  have ending : '\x7b' :: (rest ++ back) <:+ part := ⟨front, by simp [← split, same]⟩
  have whole := braced'.eq_of_suffix ending
  have begins : pattern <+: part ++ [] := ⟨back, by simp [← whole, same]⟩
  exact apart (braced.eq_of_prefix braced' begins)

/-- While one word in braces is replaced, another stays between what the texts on its two sides
become. -/
theorem replaceAfter_around (braced : Braced pattern) (braced' : Braced part)
    (apart : pattern ≠ part) (front back : List Char) :
    replaceAfter pattern replacement 0 (front ++ (part ++ back)) =
      replaceAfter pattern replacement 0 front ++
        (part ++ replaceAfter pattern replacement 0 back) := by
  rw [replaceAfter_append (braced.uncrossed_before braced') (Nat.zero_le _),
    replaceAfter_append (braced.uncrossed_behind braced' apart) (Nat.zero_le _),
    replaceAfter_of_absent (braced.not_infix braced' apart)]

theorem bracedParts_nil : bracedParts [] = [] := rfl

theorem bracedParts_cons (c : Char) (rest : List Char) :
    bracedParts (c :: rest) = (bracedAt? (c :: rest)).toList ++ bracedParts rest := by
  unfold bracedParts
  rw [List.tails_cons, List.filterMap_cons]
  cases bracedAt? (c :: rest) <;> rfl

theorem bracedParts_append_of_closed (closed : '\x7b' ∉ front) :
    bracedParts (front ++ back) = bracedParts back := by
  induction front with
  | nil => rfl
  | cons c front ih =>
    rw [List.mem_cons, not_or] at closed
    rw [List.cons_append, bracedParts_cons, ih closed.2, bracedAt?, if_neg (Ne.symm closed.1)]
    rfl

theorem Braced.bracedParts_append (braced : Braced part) (back : List Char) :
    bracedParts (part ++ back) = part :: bracedParts back := by
  have found : bracedAt? (part ++ back) = some part :=
    bracedAt?_eq_some_iff.mpr ⟨braced, List.prefix_append _ _⟩
  obtain ⟨rest, rfl, closed⟩ := braced.open_head
  rw [List.cons_append] at found ⊢
  rw [bracedParts_cons, found, bracedParts_append_of_closed closed]
  rfl

theorem bracedParts_sublist_append (front back : List Char) :
    (bracedParts back).Sublist (bracedParts (front ++ back)) := by
  induction front with
  | nil => exact List.Sublist.refl _
  | cons c front ih =>
    rw [List.cons_append, bracedParts_cons]
    exact ih.trans (List.sublist_append_right _ _)

variable {keep : List Char → Bool} {change : List Char → List Char}

/-- A text can be cut at the first of its words in braces that a test accepts. -/
theorem exists_split_of_filter_eq_cons {others : List (List Char)}
    (kept : (bracedParts text).filter keep = part :: others) :
    Braced part ∧ keep part ∧ ∃ front back, text = front ++ (part ++ back) ∧
      (bracedParts back).filter keep = others := by
  induction text with
  | nil => simp [bracedParts_nil] at kept
  | cons c rest ih =>
    have later (passed : (bracedParts rest).filter keep = part :: others) :
        Braced part ∧ keep part ∧ ∃ front back, c :: rest = front ++ (part ++ back) ∧
          (bracedParts back).filter keep = others := by
      obtain ⟨braced, accepted, front, back, split, same⟩ := ih passed
      exact ⟨braced, accepted, c :: front, back, by rw [split, List.cons_append], same⟩
    cases here : bracedAt? (c :: rest) with
    | none => exact later (by simpa [bracedParts_cons, here] using kept)
    | some word =>
      by_cases accepted : keep word
      · obtain ⟨braced, back, split⟩ := bracedAt?_eq_some_iff.mp here
        rw [← split, braced.bracedParts_append, List.filter_cons_of_pos accepted] at kept
        obtain ⟨rfl, same⟩ := List.cons.inj kept
        exact ⟨braced, accepted, [], back, split.symm, same⟩
      · exact later (by simpa [bracedParts_cons, here, accepted] using kept)

/-- A change that cuts a text at some words in braces and leaves these as they are keeps all of them
and their order. -/
theorem filter_bracedParts_sublist
    (around : ∀ part, Braced part → keep part → ∀ front back,
      change (front ++ (part ++ back)) = change front ++ (part ++ change back))
    (text : List Char) :
    ((bracedParts text).filter keep).Sublist (bracedParts (change text)) := by
  -- Word after word: what follows the first one is changed by itself.
  induction parts : (bracedParts text).filter keep generalizing text with
  | nil => exact List.nil_sublist _
  | cons part others ih =>
    obtain ⟨braced, accepted, front, back, rfl, rest⟩ := exists_split_of_filter_eq_cons parts
    have step : (part :: others).Sublist (bracedParts (part ++ change back)) := by
      rw [braced.bracedParts_append]
      exact (ih back rest).cons_cons part
    rw [around part braced accepted]
    exact step.trans (bracedParts_sublist_append _ _)

/-- How many parts of a text, one for each place where it begins, are equal to this one. -/
def occurrences (part text : List Char) : Nat :=
  text.tails.countP (part.isPrefixOf ·)

theorem Braced.count_bracedParts (braced : Braced part) (text : List Char) :
    (bracedParts text).count part = occurrences part text := by
  unfold bracedParts occurrences
  rw [List.count_filterMap]
  refine List.countP_congr fun rest _ => ?_
  simp [bracedAt?_eq_some_iff, braced]

end AgentTeams.Text
