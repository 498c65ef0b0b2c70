/-
The order of texts. Texts are compared character by character, by the numbers of the characters, and their
bytes come in the same order (`encodeUtf8_lt_iff`): where two characters differ, so do their bytes, and at the
first byte that differs the lesser character has the lesser one (`encodeChar_lt`). So it makes no difference
whether names are sorted as texts or as bytes.
-/
import ManagedDatabase.Proofs.Text.Base64

namespace ManagedDatabase.Text

/-- The lesser of two characters has the lesser bytes, whatever stands behind them. -/
theorem encodeChar_lt {c d : Char} (less : c < d) (cs ds : List UInt8) :
    String.utf8EncodeChar c ++ cs < String.utf8EncodeChar d ++ ds := by
  have values : c.val.toNat < d.val.toNat := less
  have bound : d.val.toNat < 0x110000 := by
    rcases d.valid with low | ⟨-, high⟩
    · exact Nat.lt_trans low (by decide)
    · exact high
  -- the bytes carry digits to base 64
  have twice : ∀ n : Nat, n / 4096 = n / 64 / 64 := fun n => (Nat.div_div_eq_div_mul n 64 64).symm
  have thrice : ∀ n : Nat, n / 262144 = n / 64 / 64 / 64 := fun n => by
    rw [Nat.div_div_eq_div_mul, Nat.div_div_eq_div_mul]
  simp only [String.utf8EncodeChar, twice, thrice]
  -- the first byte tells how many there are, and more of them stand for a greater number
  split_ifs
  all_goals
    simp only [List.cons_append, List.nil_append, List.cons_lt_cons_iff, UInt8.lt_iff_toNat_lt,
      ← UInt8.toNat_inj, UInt8.toNat_ofNat']
    omega

theorem flatMap_encodeChar_lt : ∀ {cs ds : List Char}, cs < ds →
    cs.flatMap String.utf8EncodeChar < ds.flatMap String.utf8EncodeChar
  | cs, [], less => absurd less (List.not_lt_nil cs)
  | [], d :: ds, _ => by
    obtain ⟨byte, bytes, encoded⟩ := List.exists_cons_of_ne_nil (String.utf8EncodeChar_ne_nil (c := d))
    rw [List.flatMap_nil, List.flatMap_cons, encoded]
    exact List.nil_lt_cons _ _
  | c :: cs, d :: ds, less => by
    rw [List.flatMap_cons, List.flatMap_cons]
    rcases List.cons_lt_cons_iff.1 less with first | ⟨rfl, later⟩
    · exact encodeChar_lt first _ _
    · exact List.append_left_lt (flatMap_encodeChar_lt later)

/-- What keeps the order of texts tells it, since of two texts that differ one is less. -/
theorem lt_iff_of_keeps {α : Type} [LT α] [Std.Irrefl (α := α) (· < ·)] [Std.Asymm (α := α) (· < ·)]
    {f : String → List α} (keeps : ∀ a b, a < b → f a < f b) {a b : String} : f a < f b ↔ a < b := by
  refine ⟨fun less => ?_, keeps a b⟩
  rcases Std.lt_trichotomy a b with before | rfl | behind
  · exact before
  · exact absurd less (List.lt_irrefl (f a))
  · exact absurd (keeps b a behind) (List.lt_asymm less)

/-- The order of texts is that of their bytes. -/
theorem encodeUtf8_lt_iff {a b : String} : encodeUtf8 a < encodeUtf8 b ↔ a < b := by
  refine lt_iff_of_keeps fun a b less => ?_
  rw [encodeUtf8_eq, encodeUtf8_eq]
  exact flatMap_encodeChar_lt less

theorem encodeUtf8_le_iff {a b : String} : encodeUtf8 a ≤ encodeUtf8 b ↔ a ≤ b :=
  not_congr encodeUtf8_lt_iff

/-- The order of texts is that of the numbers of their characters. -/
theorem codes_lt_iff {a b : String} : a.toList.map Char.toNat < b.toList.map Char.toNat ↔ a < b := by
  have numbers : ∀ c d : Char, c < d → c.toNat < d.toNat := fun _ _ h => h
  exact lt_iff_of_keeps fun _ _ less => List.map_lt numbers less

/-- Sorted by a text that goes with each of them, things come in the order of these texts. -/
theorem mergeSort_ascends {α : Type} (key : α → String) (l : List α) :
    (l.mergeSort fun a b => !decide (key b < key a)).Pairwise fun a b => key a ≤ key b := by
  have before_iff : ∀ {a b : α}, (!decide (key b < key a)) = true ↔ key a ≤ key b := fun {a b} => by
    rw [Bool.not_eq_true', decide_eq_false_iff_not, String.not_lt]
  refine (List.pairwise_mergeSort (fun a b c h k => ?_) (fun a b => ?_) l).imp before_iff.1
  · exact before_iff.2 (String.le_trans (before_iff.1 h) (before_iff.1 k))
  · rw [Bool.or_eq_true, before_iff, before_iff]
    exact String.le_total (key a) (key b)

end ManagedDatabase.Text
