import Mathlib.Data.List.Basic
import Mathlib.Tactic.SplitIfs

/-! The bytes of texts. UTF-8 keeps the order: texts stand in the order of their characters exactly
if they stand in the order of their bytes. -/
namespace AgentTeams.Text

/-- The bytes of a text in UTF-8. -/
def bytes (text : String) : List UInt8 :=
  text.toByteArray.data.toList

theorem bytes_eq_flatMap (text : String) :
    bytes text = text.toList.flatMap String.utf8EncodeChar := by
  rw [bytes, ← String.utf8Encode_toList, List.utf8Encode, List.toList_data_toByteArray]

theorem ofNat_lt_ofNat_iff {left right : Nat} (small : left < 256) (other : right < 256) :
    UInt8.ofNat left < UInt8.ofNat right ↔ left < right := by
  rw [UInt8.lt_iff_toNat_lt, UInt8.toNat_ofNat_of_lt' small, UInt8.toNat_ofNat_of_lt' other]

theorem ofNat_eq_ofNat_iff {left right : Nat} (small : left < 256) (other : right < 256) :
    UInt8.ofNat left = UInt8.ofNat right ↔ left = right := by
  rw [← UInt8.toNat_inj, UInt8.toNat_ofNat_of_lt' small, UInt8.toNat_ofNat_of_lt' other]

/-- Of two characters the lesser one has the lesser bytes, whatever follows them. -/
theorem utf8EncodeChar_append_lt {first second : Char} (less : first < second)
    (front back : List UInt8) :
    String.utf8EncodeChar first ++ front < String.utf8EncodeChar second ++ back := by
  have below : first.val.toNat < second.val.toNat := less
  have bound : second.val.toNat < 0x110000 := by
    rcases second.valid with early | late
    · exact Nat.lt_trans early (by decide)
    · exact late.2
  unfold String.utf8EncodeChar
  dsimp only
  generalize first.val.toNat = m at *
  generalize second.val.toNat = n at *
  -- The digits of the code points in base 64 are what the bytes of four are made of.
  have digits : m / 262144 < n / 262144 ∨ m / 262144 = n / 262144 ∧
      (m / 4096 % 64 < n / 4096 % 64 ∨ m / 4096 % 64 = n / 4096 % 64 ∧
        (m / 64 % 64 < n / 64 % 64 ∨ m / 64 % 64 = n / 64 % 64 ∧ m % 64 < n % 64)) := by omega
  have leading : m / 262144 % 8 = m / 262144 ∧ n / 262144 % 8 = n / 262144 := by omega
  -- More bytes have a greater first one; as many bytes compare as the digits do.
  split_ifs
  all_goals first
    | omega
    | simp (disch := omega) only [List.cons_append, List.nil_append, List.cons_lt_cons_iff,
        ofNat_lt_ofNat_iff, ofNat_eq_ofNat_iff, leading]
      omega

theorem flatMap_utf8EncodeChar_lt {left right : List Char} (less : left < right) :
    left.flatMap String.utf8EncodeChar < right.flatMap String.utf8EncodeChar := by
  induction less with
  | @nil first rest =>
    obtain ⟨byte, others, encoded⟩ :=
      List.exists_cons_of_ne_nil (String.utf8EncodeChar_ne_nil (c := first))
    simp [encoded]
  | cons rest ih => exact List.append_left_lt ih
  | rel first => exact utf8EncodeChar_append_lt first _ _

theorem bytes_lt_iff {left right : String} : bytes left < bytes right ↔ left < right := by
  have kept {left right : String} (less : left < right) : bytes left < bytes right := by
    rw [bytes_eq_flatMap, bytes_eq_flatMap]
    exact flatMap_utf8EncodeChar_lt less
  constructor
  · intro less
    by_contra greater
    rcases Decidable.em (left = right) with rfl | differ
    · exact absurd less (List.lt_irrefl _)
    · have turned := kept (Std.lt_of_le_of_ne (Std.not_lt.mp greater) (Ne.symm differ))
      exact List.lt_asymm less turned
  · exact kept

end AgentTeams.Text
