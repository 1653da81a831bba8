import AgentTeams.Text.Words
import Mathlib.Data.List.Basic
import Mathlib.Logic.Relation

/-! Words of a text: the runs of letters and digits that cannot be longer, in lower case. They do
not show in which case the letters were or what stood between the runs. -/
namespace AgentTeams.Text

/-- A run with what stands before and after it. All of its characters are kept, and next to it are
none that are. -/
structure Cut (keep : Char → Bool) (text before run after : List Char) : Prop where
  split : text = before ++ (run ++ after)
  nonempty : run ≠ []
  kept : ∀ c ∈ run, keep c = true
  begins : ∀ c ∈ before.getLast?, keep c = false
  ends : ∀ c ∈ after.head?, keep c = false

/-- A part of a text that is all kept and is not within a longer one. -/
def IsRun (keep : Char → Bool) (text run : List Char) : Prop :=
  ∃ before after, Cut keep text before run after

/-- One change of style: another case of an ASCII letter, another character between words, or one
more beside such a character or at an end of the text. -/
inductive Restyle : List Char → List Char → Prop where
  | recase {c d : Char} (letter : c.isAlpha = true) (letterToo : d.isAlpha = true)
      (same : d.toLower = c.toLower) : Restyle (front ++ c :: back) (front ++ d :: back)
  | replace {c d : Char} (separates : isAlphanumeric c = false)
      (separatesToo : isAlphanumeric d = false) : Restyle (front ++ c :: back) (front ++ d :: back)
  | add {c : Char} (separates : isAlphanumeric c = false)
      (beside : (∀ b ∈ front.getLast?, isAlphanumeric b = false) ∨
        ∀ b ∈ back.head?, isAlphanumeric b = false) : Restyle (front ++ back) (front ++ c :: back)

/-- Texts that differ in their style at most. -/
def Restyled (text other : String) : Prop :=
  Relation.ReflTransGen Restyle text.toList other.toList

/-- What a text may be in lower case. An ASCII letter becomes the small one. Of the characters
beyond ASCII only the Kelvin sign becomes an ASCII letter; another may become several characters,
but not all of these are ASCII. -/
inductive Lowered : List Char → List Char → Prop where
  | nil : Lowered [] []
  | ascii {c : Char} (inside : c.toNat < 0x80) (rest : Lowered text lower) :
      Lowered (c :: text) (c.toLower :: lower)
  | kelvin {c : Char} (sign : c.toNat = 0x212a) (rest : Lowered text lower) :
      Lowered (c :: text) ('k' :: lower)
  | beyond {c : Char} (outside : 0x80 ≤ c.toNat) (other : c.toNat ≠ 0x212a)
      (foreign : ∃ d ∈ piece, 0x80 ≤ d.toNat) (rest : Lowered text lower) :
      Lowered (c :: text) (piece ++ lower)

variable {keep : Char → Bool} {text front back run : List Char} {c : Char}

theorem runs_cons_of_dropped (dropped : keep c = false) :
    runs keep (c :: text) = runs keep text := by
  simp [runs, dropped]

/-- Runs are the pieces between the characters that are dropped, where there is anything. -/
theorem runs_eq_splitOnP : runs keep text = (text.splitOnP (!keep ·)).filter (· ≠ []) := by
  induction text with
  | nil => rfl
  | cons c rest ih =>
    rw [List.splitOnP_cons_eq_if_modifyHead]
    cases kept : keep c with
    | false => simp [runs_cons_of_dropped kept, ih]
    | true =>
      cases rest with
      | nil => simp [runs, kept]
      | cons next rest =>
        obtain ⟨piece, later, pieces⟩ := List.exists_cons_of_ne_nil
          (List.splitOnP_ne_nil (!keep ·) rest)
        rw [List.splitOnP_cons_eq_if_modifyHead, pieces] at ih ⊢
        -- The first character makes a run of its own, or that of the next one longer.
        cases keptToo : keep next with
        | false =>
          have alone : runs keep (c :: next :: rest) = [c] :: runs keep (next :: rest) := by
            simp [runs, kept, keptToo]
          rw [alone, ih]
          simp [keptToo]
        | true =>
          have following : runs keep (next :: rest) = (next :: piece) :: later.filter (· ≠ []) := by
            rw [ih]
            simp [keptToo]
          have longer : runs keep (c :: next :: rest) =
              (c :: next :: piece) :: later.filter (· ≠ []) := by
            rw [runs, following]
            simp [kept, keptToo]
          rw [longer]
          simp

theorem runs_of_kept (kept : ∀ c ∈ text, keep c = true) (nonempty : text ≠ []) :
    runs keep text = [text] := by
  have whole : text.splitOnP (!keep ·) = [text] :=
    List.splitOnP_eq_singleton (by simpa using kept)
  simp [runs_eq_splitOnP, whole, nonempty]

/-- No run goes across a character that is dropped. -/
theorem runs_append_cons (dropped : keep c = false) :
    runs keep (front ++ c :: back) = runs keep front ++ runs keep back := by
  have cut : (front ++ c :: back).splitOnP (!keep ·) =
      front.splitOnP (!keep ·) ++ back.splitOnP (!keep ·) :=
    List.splitOnP_append_cons front back (by simp [dropped])
  rw [runs_eq_splitOnP, runs_eq_splitOnP, runs_eq_splitOnP, cut, List.filter_append]

theorem runs_append (beside : (∀ c ∈ front.getLast?, keep c = false) ∨
    ∀ c ∈ back.head?, keep c = false) :
    runs keep (front ++ back) = runs keep front ++ runs keep back := by
  rcases beside with ended | begun
  · rcases List.eq_nil_or_concat' front with rfl | ⟨front, c, rfl⟩
    · rfl
    · have dropped : keep c = false := ended c (by simp)
      rw [List.append_assoc, List.singleton_append, runs_append_cons dropped,
        runs_append_cons dropped]
      simp [runs]
  · cases back with
    | nil => simp [runs]
    | cons c back =>
      have dropped : keep c = false := begun c rfl
      rw [runs_append_cons dropped, runs_cons_of_dropped dropped]

theorem Cut.mem_runs {before after : List Char} (cut : Cut keep text before run after) :
    run ∈ runs keep text := by
  rw [cut.split, runs_append (.inl cut.begins), runs_append (.inr cut.ends),
    runs_of_kept cut.kept cut.nonempty]
  simp

theorem eq_of_mem_runs (kept : ∀ c ∈ text, keep c = true) (member : run ∈ runs keep text) :
    run = text ∧ text ≠ [] := by
  by_cases empty : text = []
  · simp [empty, runs] at member
  · rw [runs_of_kept kept empty, List.mem_singleton] at member
    exact ⟨member, empty⟩

theorem IsRun.after_dropped (found : IsRun keep back run) (dropped : keep c = false) :
    IsRun keep (front ++ c :: back) run := by
  obtain ⟨before, after, cut⟩ := found
  refine ⟨front ++ c :: before, after, by simp [cut.split], cut.nonempty, cut.kept, ?_, cut.ends⟩
  intro last ending
  rcases List.eq_nil_or_concat' before with rfl | ⟨prior, latest, rfl⟩
  · obtain rfl : c = last := by simpa using ending
    exact dropped
  · exact cut.begins last (by simpa [List.getLast?_cons] using ending)

/-- The induction is on what is left of a text while a run is read, of which there is a front. -/
theorem isRun_of_mem_runs_append (front : List Char) (kept : ∀ c ∈ front, keep c = true)
    (member : run ∈ runs keep (front ++ text)) : IsRun keep (front ++ text) run := by
  induction text generalizing front with
  | nil =>
    rw [List.append_nil] at member ⊢
    obtain ⟨rfl, nonempty⟩ := eq_of_mem_runs kept member
    exact ⟨[], [], by simp, nonempty, kept, by simp, by simp⟩
  | cons c rest ih =>
    cases current : keep c with
    | true =>
      rw [List.append_cons] at member ⊢
      have longer : ∀ d ∈ front ++ [c], keep d = true :=
        List.forall_mem_append.mpr ⟨kept, by simpa using current⟩
      exact ih (front ++ [c]) longer member
    | false =>
      rw [runs_append_cons current] at member
      rcases List.mem_append.mp member with read | later
      · obtain ⟨rfl, nonempty⟩ := eq_of_mem_runs kept read
        exact ⟨[], c :: rest, by simp, nonempty, kept, by simp, by simpa using current⟩
      · exact (ih [] (List.forall_mem_nil _) later).after_dropped current

/-- The runs of a text are the parts that are all kept and are not within longer ones. -/
theorem mem_runs_iff : run ∈ runs keep text ↔ IsRun keep text run := by
  constructor
  · exact isRun_of_mem_runs_append [] (List.forall_mem_nil _)
  · rintro ⟨before, after, cut⟩
    exact cut.mem_runs

theorem runs_map {change : Char → Char} (same : ∀ c, keep (change c) = keep c) :
    runs keep (text.map change) = (runs keep text).map (List.map change) := by
  induction text with
  | nil => rfl
  | cons c rest ih =>
    cases rest with
    | nil => cases kept : keep c <;> simp [runs, same, kept]
    | cons next rest =>
      rw [List.map_cons] at ih
      cases kept : keep c with
      | false => simp [runs_cons_of_dropped, same, kept, ih]
      | true =>
        rw [List.map_cons, List.map_cons, runs, runs, same, same, ih, if_pos kept, if_pos kept]
        cases keep next <;> cases runs keep (next :: rest) <;> rfl

theorem lowerChar_of_ascii (inside : c.toNat < 0x80) : lowerChar c = c.toLower :=
  if_neg (by omega)

theorem lowerChar_of_beyond (outside : 0x80 ≤ c.toNat) (other : c.toNat ≠ 0x212a) :
    lowerChar c = c := by
  have capital : ¬ (c.val ≥ 'A'.val ∧ c.val ≤ 'Z'.val) := by
    rintro ⟨_, within⟩
    have bound : c.toNat ≤ 0x5a := UInt32.le_iff_toNat_le.mp within
    omega
  rw [lowerChar, if_neg other]
  exact dif_neg capital

theorem isAlphanumeric_lowerChar (c : Char) : isAlphanumeric (lowerChar c) = isAlphanumeric c := by
  by_cases inside : c.toNat < 0x80
  · have ascii : ∀ n < 0x80, isAlphanumeric (lowerChar (Char.ofNat n)) =
        isAlphanumeric (Char.ofNat n) := by decide +kernel
    simpa using ascii c.toNat inside
  · by_cases kelvin : c.toNat = 0x212a
    · rw [← Char.ofNat_toNat c, kelvin]
      decide +kernel
    · rw [lowerChar_of_beyond (by omega) kelvin]

theorem lowered_map (text : List Char) : Lowered text (text.map lowerChar) := by
  induction text with
  | nil => exact .nil
  | cons c rest ih =>
    rw [List.map_cons]
    by_cases inside : c.toNat < 0x80
    · rw [lowerChar_of_ascii inside]
      exact .ascii inside ih
    · by_cases kelvin : c.toNat = 0x212a
      · rw [lowerChar, if_pos kelvin]
        exact .kelvin kelvin ih
      · rw [lowerChar_of_beyond (by omega) kelvin]
        have beyond : Lowered (c :: rest) ([c] ++ rest.map lowerChar) :=
          .beyond (by omega) kelvin ⟨c, List.mem_singleton_self c, by omega⟩ ih
        exact beyond

/-- For words of ASCII characters it does not matter what becomes of characters beyond ASCII. -/
theorem Lowered.eq_iff {lower word : List Char} (lowered : Lowered text lower)
    (ascii : ∀ c ∈ word, c.toNat < 0x80) : lower = word ↔ text.map lowerChar = word := by
  induction lowered generalizing word with
  | nil => exact Iff.rfl
  | ascii inside rest ih =>
    rw [List.map_cons, lowerChar_of_ascii inside]
    cases word with
    | nil => simp
    | cons d word => simp [ih (List.forall_mem_cons.mp ascii).2]
  | kelvin sign rest ih =>
    rw [List.map_cons, lowerChar, if_pos sign]
    cases word with
    | nil => simp
    | cons d word => simp [ih (List.forall_mem_cons.mp ascii).2]
  | @beyond text lower piece c outside other foreign rest _ =>
    obtain ⟨d, member, large⟩ := foreign
    refine iff_of_false ?_ ?_
    · rintro rfl
      have := ascii d (List.mem_append_left _ member)
      omega
    · rintro rfl
      have := ascii c (by simp [lowerChar_of_beyond outside other])
      omega

theorem lowerChar_of_isAlpha (letter : c.isAlpha = true) : lowerChar c = c.toLower := by
  refine if_neg fun kelvin => ?_
  rw [← Char.ofNat_toNat c, kelvin] at letter
  exact absurd letter (by decide)

theorem Restyle.runs_eq {text other : List Char} (restyle : Restyle text other) :
    (runs isAlphanumeric text).map (List.map lowerChar) =
      (runs isAlphanumeric other).map (List.map lowerChar) := by
  cases restyle with
  | recase letter letterToo same =>
    rw [← runs_map isAlphanumeric_lowerChar, ← runs_map isAlphanumeric_lowerChar]
    simp [lowerChar_of_isAlpha, letter, letterToo, same]
  | replace separates separatesToo =>
    rw [runs_append_cons separates, runs_append_cons separatesToo]
  | add separates beside =>
    rw [runs_append_cons separates, runs_append beside]

theorem runs_eq_of_restyled {text other : List Char}
    (restyled : Relation.ReflTransGen Restyle text other) :
    (runs isAlphanumeric text).map (List.map lowerChar) =
      (runs isAlphanumeric other).map (List.map lowerChar) := by
  induction restyled with
  | refl => rfl
  | tail _ step ih => exact ih.trans step.runs_eq

/-- The words of a text do not show its style. -/
theorem Restyled.words_eq {text other : String} (restyled : Restyled text other) :
    words text = words other := by
  have read (text : String) : words text =
      ((runs isAlphanumeric text.toList).map (List.map lowerChar)).map String.ofList := by
    simp [words, Function.comp_def]
  rw [read, read, runs_eq_of_restyled restyled]

end AgentTeams.Text
