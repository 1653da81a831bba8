import AgentTeams.Options
import Mathlib.Logic.Function.Basic

/-! Options from variables. Each setting is read from a variable of its own and from no other one,
and a limit is installed exactly if its variable writes a whole number of 32 bits in decimal. -/
namespace AgentTeams.Options

/-- What there is to settle in options. -/
inductive Setting where
  | provider
  | model
  | termination
  | preservation

namespace Setting

/-- The variable that a setting is read from. -/
def source : Setting → String
  | provider => providerVariable
  | model => modelVariable
  | termination => maxMessagesVariable
  | preservation => preserveVariable

/-- Two options are the same in a setting. -/
def Agree : Setting → Options → Options → Prop
  | provider, left, right => left.defaultModel.provider = right.defaultModel.provider
  | model, left, right => left.defaultModel.model = right.defaultModel.model
  | termination, left, right => left.defaultTermination = right.defaultTermination
  | preservation, left, right => left.preserveModelBinding = right.preserveModelBinding

theorem source_injective : Function.Injective source := by
  intro first second same
  cases first <;> cases second <;>
    simp_all [source, providerVariable, modelVariable, maxMessagesVariable, preserveVariable]

end Setting

theorem eq_of_agree {left right : Options}
    (agree : ∀ setting : Setting, setting.Agree left right) : left = right := by
  obtain ⟨⟨provider, model⟩, termination, preserve⟩ := left
  obtain ⟨⟨_, _⟩, _, _⟩ := right
  obtain rfl : provider = _ := agree .provider
  obtain rfl : model = _ := agree .model
  obtain rfl : termination = _ := agree .termination
  obtain rfl : preserve = _ := agree .preservation
  rfl

/-- Digits that stand for a value in decimal. There is at least one; zeros in front do not count. -/
structure Numeral (digits : List Char) (value : Nat) : Prop where
  given : digits ≠ []
  decimal : ∀ c ∈ digits, c.isDigit = true
  value : Nat.ofDigitChars 10 digits 0 = value

/-- A text writes a value by its digits alone, or by a plus sign and the digits. -/
def Writes (text : String) (value : Nat) : Prop :=
  Numeral text.toList value ∨ ∃ digits, text.toList = '+' :: digits ∧ Numeral digits value

theorem le_ofDigitChars (digits : List Char) (value : Nat) :
    value ≤ Nat.ofDigitChars 10 digits value := by
  rw [Nat.ofDigitChars_eq_ofDigitChars_zero]
  calc value ≤ 10 ^ digits.length * value :=
        Nat.le_mul_of_pos_left value (Nat.pow_pos (by decide))
    _ ≤ 10 ^ digits.length * value + Nat.ofDigitChars 10 digits 0 := Nat.le_add_right _ _

/-- Reading stops as soon as the value is too large. As it only grows, it would have been so in the
end. -/
theorem readDigits_eq_ok_iff {digits : List Char} {value : Nat} {limit : UInt32}
    (within : value < UInt32.size) : readDigits value digits = .ok limit ↔
      (∀ c ∈ digits, c.isDigit = true) ∧ Nat.ofDigitChars 10 digits value = limit.toNat := by
  induction digits generalizing value with
  | nil =>
    have same : UInt32.ofNat value = limit ↔ value = limit.toNat := by
      rw [← UInt32.toNat_inj, UInt32.toNat_ofNat_of_lt' within]
    simp [readDigits, same]
  | cons c rest ih =>
    rw [readDigits, Nat.ofDigitChars_cons, Nat.mul_comm 10 value, List.forall_mem_cons]
    by_cases digit : c.isDigit = true
    · by_cases fits : value * 10 + (c.toNat - '0'.toNat) < UInt32.size
      · rw [if_pos digit, if_pos fits, ih fits]
        simp only [digit, true_and]
      · have grown := le_ofDigitChars rest (value * 10 + (c.toNat - '0'.toNat))
        have small := limit.toNat_lt_size
        have differ : Nat.ofDigitChars 10 rest (value * 10 + (c.toNat - '0'.toNat)) ≠
            limit.toNat := by omega
        rw [if_pos digit, if_neg fits]
        simp only [differ, and_false, reduceCtorEq]
    · simp [digit]

theorem readDigits_eq_ok_iff_numeral {digits : List Char} {limit : UInt32} (given : digits ≠ []) :
    readDigits 0 digits = .ok limit ↔ Numeral digits limit.toNat := by
  rw [readDigits_eq_ok_iff (by decide)]
  exact ⟨fun ⟨decimal, value⟩ => ⟨given, decimal, value⟩,
    fun numeral => ⟨numeral.decimal, numeral.value⟩⟩

theorem not_numeral_of_sign {digits : List Char} {value : Nat} :
    ¬ Numeral ('+' :: digits) value := by
  intro numeral
  have digit := numeral.decimal '+' List.mem_cons_self
  contradiction

theorem readCount_eq_ok_iff {text : String} {limit : UInt32} :
    readCount text = .ok limit ↔ Writes text limit.toNat := by
  unfold readCount Writes
  split
  · rename_i empty
    have nothing : ¬ Numeral [] limit.toNat := fun numeral => numeral.given rfl
    simp [empty, nothing]
  · rename_i sign
    have nothing : ¬ Numeral [] limit.toNat := fun numeral => numeral.given rfl
    simp [sign, nothing, not_numeral_of_sign]
  · rename_i digits more signed
    rw [readDigits_eq_ok_iff_numeral more, signed]
    simp [not_numeral_of_sign]
  · rename_i empty sign signed
    have unsigned (digits : List Char) : text.toList ≠ '+' :: digits := fun same =>
      signed digits same
    simp [readDigits_eq_ok_iff_numeral empty, unsigned]

/-- The rule for a text that is given for the limit on messages. -/
structure Limits (text : String) (rule : TerminationRule) : Prop where
  /-- A number of 32 bits is installed beside the usual word. -/
  installed : ∀ limit : UInt32, Writes text limit.toNat →
    rule = (TerminationRule.textMention "TERMINATE").or (.maxMessages limit)
  /-- A text that writes no number, or a larger one, changes nothing. -/
  kept : (∀ value, Writes text value → UInt32.size ≤ value) → rule = TerminationRule.default
  /-- No other limit is installed, except that the default stands for a text without effect. -/
  only : ∀ limit : UInt32,
    rule = (TerminationRule.textMention "TERMINATE").or (.maxMessages limit) →
    Writes text limit.toNat ∨ limit = 10 ∧ ∀ value, Writes text value → UInt32.size ≤ value

theorem stopWordOr_inj {limit other : UInt32} :
    TerminationRule.stopWordOr limit = TerminationRule.stopWordOr other ↔ limit = other := by
  simp [TerminationRule.stopWordOr, TerminationRule.or, TerminationRule.conditions]

theorem limits_of_readCount (text : String) :
    Limits text (((readCount text).toOption.map TerminationRule.stopWordOr).getD
      TerminationRule.default) := by
  cases counted : readCount text with
  | ok limit =>
    have written := readCount_eq_ok_iff.mp counted
    refine ⟨?_, ?_, ?_⟩
    · intro other also
      rw [← readCount_eq_ok_iff, counted] at also
      rw [Except.ok.inj also]
      rfl
    · intro large
      exact absurd (large _ written) (Nat.not_le_of_lt limit.toNat_lt_size)
    · intro other same
      have equal : limit = other := stopWordOr_inj.mp same
      exact .inl (equal ▸ written)
  | error fault =>
    have large : ∀ value, Writes text value → UInt32.size ≤ value := by
      intro value writes
      by_contra small
      have limit : (UInt32.ofNat value).toNat = value :=
        UInt32.toNat_ofNat_of_lt' (Nat.lt_of_not_le small)
      rw [← limit, ← readCount_eq_ok_iff, counted] at writes
      contradiction
    refine ⟨?_, fun _ => rfl, ?_⟩
    · intro limit writes
      exact absurd (large _ writes) (Nat.not_le_of_lt limit.toNat_lt_size)
    · intro limit same
      have equal : 10 = limit := stopWordOr_inj.mp same
      exact .inr ⟨equal.symm, large⟩

theorem agree_of_source {lookup other : String → Option String} {setting : Setting}
    (same : other setting.source = lookup setting.source) :
    setting.Agree (ofVariables other) (ofVariables lookup) := by
  cases setting with
  | provider => exact congrArg (fun text => text.getD ModelBinding.default.provider) same
  | model => exact congrArg (fun text => text.getD ModelBinding.default.model) same
  | termination =>
    have requested : requestedTermination? other = requestedTermination? lookup :=
      congrArg (fun text => text.bind fun text =>
        (readCount text).toOption.map TerminationRule.stopWordOr) same
    exact congrArg (fun rule => rule.getD TerminationRule.default) requested
  | preservation => exact congrArg (fun text => text.any (· ∈ affirmative)) same

/-- Options are read setting by setting, each from its own variable: the others do not matter, a
change of one variable changes no other setting, and without its variable a setting has its default.
No variable counts besides these four. One that is set is taken as it stands, as a number of 32 bits
or as one of three words for yes. -/
theorem ofVariables_settles (lookup : String → Option String) :
    (∀ other (setting : Setting), other setting.source = lookup setting.source →
      setting.Agree (ofVariables other) (ofVariables lookup)) ∧
    (∀ other, (∀ setting : Setting, other setting.source = lookup setting.source) →
      ofVariables other = ofVariables lookup) ∧
    (∀ (changed : Setting) (value : Option String) (setting : Setting), setting ≠ changed →
      setting.Agree (ofVariables (Function.update lookup changed.source value))
        (ofVariables lookup)) ∧
    (∀ setting : Setting, lookup setting.source = none →
      setting.Agree (ofVariables lookup) {}) ∧
    (∀ text, lookup providerVariable = some text →
      (ofVariables lookup).defaultModel.provider = text) ∧
    (∀ text, lookup modelVariable = some text → (ofVariables lookup).defaultModel.model = text) ∧
    (∀ text, lookup maxMessagesVariable = some text →
      Limits text (ofVariables lookup).defaultTermination) ∧
    ∀ text, lookup preserveVariable = some text →
      ((ofVariables lookup).preserveModelBinding = true ↔
        text = "1" ∨ text = "true" ∨ text = "yes") := by
  refine ⟨fun _ _ => agree_of_source, ?_, ?_, ?_, ?_, ?_, ?_, ?_⟩
  · intro other same
    exact eq_of_agree fun setting => agree_of_source (same setting)
  · intro changed value setting differ
    apply agree_of_source
    exact Function.update_of_ne (Setting.source_injective.ne differ) _ _
  · intro setting absent
    change setting.Agree (ofVariables lookup) (ofVariables fun _ => none)
    exact agree_of_source absent
  · intro text given
    simp [ofVariables, given]
  · intro text given
    simp [ofVariables, given]
  · intro text given
    simpa [ofVariables, requestedTermination?, given] using limits_of_readCount text
  · intro text given
    simp [ofVariables, given, affirmative]

/-- The largest limit, behind a sign and zeros, is installed; one more than that changes nothing,
and neither touches another setting. -/
theorem ofVariables_settles_of_bounds :
    let largest : String → Option String := fun name =>
      if name = maxMessagesVariable then some "+0004294967295" else none
    let larger := Function.update largest Setting.termination.source (some "4294967296")
    Writes "+0004294967295" 4294967295 ∧
      (ofVariables largest).defaultTermination =
        (TerminationRule.textMention "TERMINATE").or (.maxMessages 4294967295) ∧
      (ofVariables larger).defaultTermination = TerminationRule.default ∧
      (ofVariables larger).defaultModel.model = (ofVariables largest).defaultModel.model ∧
      (ofVariables largest).defaultModel.model = "gpt-4o-mini" := by
  intro largest larger
  obtain ⟨_, _, apart, unset, _, _, read, _⟩ := ofVariables_settles largest
  obtain ⟨_, _, _, _, _, _, reread, _⟩ := ofVariables_settles larger
  have writes : Writes "+0004294967295" 4294967295 :=
    .inr ⟨"0004294967295".toList, by decide, by decide, List.all_eq_true.mp rfl, by decide⟩
  have beyond : ∀ value, Writes "4294967296" value → UInt32.size ≤ value := by
    rintro value (numeral | ⟨digits, signed, _⟩)
    · rw [← numeral.value]
      decide
    · have first : "4294967296".toList.head? = some '+' := congrArg List.head? signed
      exact absurd first (by decide)
  have limits := read _ rfl
  exact ⟨writes, limits.installed 4294967295 writes,
    (reread _ (Function.update_self _ _ _)).kept beyond,
    apart .termination _ .model (by simp), unset .model rfl⟩

end AgentTeams.Options
