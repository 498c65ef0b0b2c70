/-
Numerals are read exactly (`readNumeral_ok_iff`): what is read is what has the form of a numeral, with the
value of its digits, as long as that is below the bound; what is not below it is refused (`readNumeral_large`).
The reader goes from the left and gives up as soon as a number is too large. So the induction is about the
number read so far, which counts as many tens as there are digits to come.

Blanks around a numeral do not count: trimming leaves the numeral, whichever blanks there are
(`Denotes.trim`).
-/
import ManagedDatabase.Text.Blank
import ManagedDatabase.Text.Numeral
import Mathlib.Data.Nat.Digits.Defs

namespace ManagedDatabase.Text

/-- The number that digits denote, each with its weight. -/
def decimal (digits : List Char) : Nat := Nat.ofDigits 10 (digits.reverse.map fun c => c.toNat - 48)

/-- A text is a numeral of a number: an optional plus sign and at least one ASCII digit. -/
def Denotes (cs : List Char) (n : Nat) : Prop :=
  ∃ digits, digits ≠ [] ∧ (∀ c ∈ digits, c.isDigit = true) ∧ (cs = digits ∨ cs = '+' :: digits) ∧
    decimal digits = n

variable {c : Char} {cs digits : List Char} {bound value n : Nat}

/-! ## Digits -/

theorem decimal_cons (c : Char) (cs : List Char) :
    decimal (c :: cs) = (c.toNat - 48) * 10 ^ cs.length + decimal cs := by
  simp only [decimal, List.reverse_cons, List.map_append, List.map_cons, List.map_nil, Nat.ofDigits_append,
    Nat.ofDigits_singleton, List.length_map, List.length_reverse]
  ring

theorem isDigit_iff : c.isDigit = true ↔ 48 ≤ c.toNat ∧ c.toNat ≤ 57 := by
  simp only [Char.isDigit, Bool.and_eq_true, decide_eq_true_eq, ge_iff_le, UInt32.le_iff_toNat_le]
  rfl

theorem digit?_of_digit (digit : c.isDigit = true) : digit? c = some (c.toNat - 48) := by
  obtain ⟨low, high⟩ := isDigit_iff.1 digit
  have least : '0' ≤ c := low
  have greatest : c ≤ '9' := high
  simp [digit?, least, greatest]

theorem digit?_of_other (other : c.isDigit = false) : digit? c = none := by
  unfold digit?
  split
  · next range =>
    simp only [Bool.and_eq_true, decide_eq_true_eq] at range
    have digit : c.isDigit = true := isDigit_iff.2 ⟨range.1, range.2⟩
    simp [other] at digit
  · rfl

/-- The weight of all digits to come is on the number read so far. -/
theorem readDigits_ok_iff : readDigits bound value cs = .ok n ↔
    (∀ c ∈ cs, c.isDigit = true) ∧ n = value * 10 ^ cs.length + decimal cs ∧ (cs ≠ [] → n < bound) := by
  induction cs generalizing value with
  | nil =>
    simp only [readDigits, Except.ok.injEq, decimal, List.reverse_nil, List.map_nil, Nat.ofDigits_nil]
    simp [eq_comm (a := n)]
  | cons c cs ih =>
    rw [readDigits, decimal_cons]
    cases digit : c.isDigit with
    | false => simp [digit?_of_other digit, digit]
    | true =>
      have weights : value * 10 ^ (c :: cs).length + ((c.toNat - 48) * 10 ^ cs.length + decimal cs) =
          (10 * value + (c.toNat - 48)) * 10 ^ cs.length + decimal cs := by
        rw [List.length_cons, pow_succ]
        ring
      rw [weights]
      simp only [digit?_of_digit digit]
      split
      · next small =>
        rw [ih]
        have last : cs = [] → (10 * value + (c.toNat - 48)) * 10 ^ cs.length + decimal cs < bound := by
          intro none
          subst none
          simpa [decimal] using small
        simp only [List.mem_cons, forall_eq_or_imp, digit, true_and]
        refine and_congr_right fun _ => ?_
        constructor
        · intro ⟨same, fits⟩
          subst same
          refine ⟨rfl, fun _ => ?_⟩
          by_cases none : cs = []
          · exact last none
          · exact fits none
        · intro ⟨same, fits⟩
          exact ⟨same, fun _ => fits (List.cons_ne_nil _ _)⟩
      · next large =>
        -- what comes behind makes the number no smaller
        have grown : 10 * value + (c.toNat - 48) ≤ (10 * value + (c.toNat - 48)) * 10 ^ cs.length :=
          Nat.le_mul_of_pos_right _ (Nat.pow_pos (by omega))
        constructor
        · intro read
          cases read
        · intro ⟨_, same, fits⟩
          have := fits (List.cons_ne_nil _ _)
          omega

theorem readDigits_of_digits (bound : Nat) (all : ∀ c ∈ cs, c.isDigit = true) (value : Nat) :
    (∃ n, readDigits bound value cs = .ok n) ∨ readDigits bound value cs = .error .tooLarge := by
  induction cs generalizing value with
  | nil => exact .inl ⟨value, rfl⟩
  | cons c cs ih =>
    rw [readDigits]
    simp only [digit?_of_digit (all c (by simp))]
    split
    · exact ih (fun d member => all d (List.mem_cons_of_mem c member)) _
    · exact .inr rfl

/-! ## Numerals -/

theorem head?_ne_sign (all : ∀ c ∈ cs, c.isDigit = true) : cs.head? ≠ some '+' := by
  intro sign
  have digit := all '+' (List.mem_of_mem_head? sign)
  simp at digit

theorem readNumeral_of_form (there : digits ≠ []) (all : ∀ c ∈ digits, c.isDigit = true)
    (form : cs = digits ∨ cs = '+' :: digits) : readNumeral bound cs = readDigits bound 0 digits := by
  obtain ⟨d, ds, rfl⟩ := List.exists_cons_of_ne_nil there
  obtain rfl | rfl := form
  · have unsigned : d ≠ '+' := fun sign => head?_ne_sign all (by simp [sign])
    unfold readNumeral
    split <;> simp_all
  · rfl

theorem form_of_read (read : readNumeral bound cs = .ok n) :
    ∃ digits, digits ≠ [] ∧ (cs = digits ∨ cs = '+' :: digits) ∧ readDigits bound 0 digits = .ok n := by
  unfold readNumeral at read
  split at read
  · cases read
  · cases read
  · exact ⟨_, List.cons_ne_nil _ _, .inr rfl, read⟩
  · exact ⟨_, List.cons_ne_nil _ _, .inl rfl, read⟩

/-- What is read is what denotes a number below the bound. -/
theorem readNumeral_ok_iff : readNumeral bound cs = .ok n ↔ Denotes cs n ∧ n < bound := by
  constructor
  · intro read
    obtain ⟨digits, there, form, read⟩ := form_of_read read
    obtain ⟨all, same, fits⟩ := readDigits_ok_iff.1 read
    exact ⟨⟨digits, there, all, form, by simp [same]⟩, fits there⟩
  · intro ⟨⟨digits, there, all, form, same⟩, fits⟩
    rw [readNumeral_of_form there all form]
    exact readDigits_ok_iff.2 ⟨all, by simp [same], fun _ => fits⟩

/-- A numeral of a number that is not below the bound is refused as such, however long it is. -/
theorem readNumeral_large (numeral : Denotes cs n) (large : bound ≤ n) :
    readNumeral bound cs = .error .tooLarge := by
  obtain ⟨digits, there, all, form, same⟩ := numeral
  rw [readNumeral_of_form there all form]
  obtain ⟨m, read⟩ | refused := readDigits_of_digits bound all 0
  · obtain ⟨-, value, fits⟩ := readDigits_ok_iff.1 read
    obtain rfl : m = n := by simpa [same] using value
    exact absurd (fits there) (Nat.not_lt.2 large)
  · exact refused

/-! ## Blanks around them -/

/-- A text is something with blanks around it. -/
def Padded (core cs : List Char) : Prop :=
  ∃ before after, cs = before ++ core ++ after ∧ ∀ c ∈ before ++ after, isBlank c = true

theorem padded_trim (cs : List Char) : Padded (trim cs) cs := by
  let front := cs.takeWhile isBlank
  let rest := cs.dropWhile isBlank
  let back := (rest.reverse.takeWhile isBlank).reverse
  have split : trim cs ++ back = rest := by
    rw [← List.reverse_inj, List.reverse_append, List.reverse_reverse, trim, List.reverse_reverse]
    exact List.takeWhile_append_dropWhile
  refine ⟨front, back, ?_, fun c member => ?_⟩
  · rw [List.append_assoc, split]
    exact List.takeWhile_append_dropWhile.symm
  · obtain early | late := List.mem_append.1 member
    · exact List.all_eq_true.1 List.all_takeWhile c early
    · exact List.all_eq_true.1 List.all_takeWhile c (List.mem_reverse.1 late)

theorem dropWhile_of_head (first : ∀ c, cs.head? = some c → isBlank c = false) :
    cs.dropWhile isBlank = cs := by
  cases cs with
  | nil => rfl
  | cons c cs => simp [first c rfl]

theorem trim_padded {core : List Char} (padded : Padded core cs)
    (first : ∀ c, core.head? = some c → isBlank c = false)
    (last : ∀ c, core.getLast? = some c → isBlank c = false) : trim cs = core := by
  obtain ⟨before, after, rfl, blank⟩ := padded
  have early : ∀ c ∈ before, isBlank c = true := fun c member => blank c (List.mem_append_left _ member)
  have late : ∀ c ∈ after.reverse, isBlank c = true := fun c member =>
    blank c (List.mem_append_right _ (List.mem_reverse.1 member))
  unfold trim
  rw [List.append_assoc, List.dropWhile_append_of_pos early]
  cases core with
  | nil =>
    have none : (after ++ []).dropWhile isBlank = [] :=
      List.dropWhile_append_of_pos fun c member => late c (List.mem_reverse.2 member)
    rw [List.append_nil] at none
    rw [List.nil_append, none]
    rfl
  | cons c cs =>
    have whole : (c :: cs ++ after).dropWhile isBlank = c :: cs ++ after := dropWhile_of_head first
    have back : (c :: cs).reverse.dropWhile isBlank = (c :: cs).reverse :=
      dropWhile_of_head fun d is => last d (by rwa [List.head?_reverse] at is)
    rw [whole, List.reverse_append, List.dropWhile_append_of_pos late, back, List.reverse_reverse]

theorem isBlank_of_digit (digit : c.isDigit = true) : isBlank c = false := by
  obtain ⟨low, high⟩ := isDigit_iff.1 digit
  simp only [isBlank, Bool.or_eq_false_iff, Bool.and_eq_false_iff, decide_eq_false_iff_not, beq_eq_false_iff_ne]
  omega

theorem Denotes.trim {core : List Char} (numeral : Denotes core n) (padded : Padded core cs) :
    trim cs = core := by
  obtain ⟨digits, there, all, form, -⟩ := numeral
  have inner : ∀ c ∈ core, isBlank c = false := by
    intro c member
    obtain rfl | rfl := form
    · exact isBlank_of_digit (all c member)
    · obtain rfl | member := List.mem_cons.1 member
      · decide
      · exact isBlank_of_digit (all c member)
  exact trim_padded padded (fun c is => inner c (List.mem_of_mem_head? is))
    fun c is => inner c (List.mem_of_getLast? is)

end ManagedDatabase.Text
