import PropertyTemplates.Decimal.Numeral
import Mathlib.Data.List.Basic
import Mathlib.Data.List.Induction

namespace PropertyTemplates.Decimal

theorem numeral_eq_toDigits (n : Nat) : numeral n = Nat.toDigits 10 n := Nat.toList_repr

theorem value_eq_ofDigitChars (digits : List Char) : value digits = Nat.ofDigitChars 10 digits 0 :=
  rfl

theorem isDigit_iff (c : Char) : isDigit c = true ↔ c.isDigit = true := by
  simp only [isDigit, Char.isDigit, Bool.and_eq_true, decide_eq_true_eq]
  exact Iff.rfl

theorem toNat_of_isDigit {c : Char} (h : isDigit c = true) : 48 ≤ c.toNat ∧ c.toNat ≤ 57 := by
  simp only [isDigit, Bool.and_eq_true, decide_eq_true_eq] at h
  exact h

theorem numeral_ne_nil (n : Nat) : numeral n ≠ [] := by
  rw [numeral_eq_toDigits]
  exact Nat.toDigits_ne_nil

theorem isDigit_of_mem_numeral {n : Nat} {c : Char} (h : c ∈ numeral n) : isDigit c = true := by
  rw [numeral_eq_toDigits] at h
  exact (isDigit_iff c).mpr (Nat.isDigit_of_mem_toDigits (by decide) (by decide) h)

-- A numeral denotes its number.
@[simp] theorem value_numeral (n : Nat) : value (numeral n) = n := by
  rw [numeral_eq_toDigits, value_eq_ofDigitChars, Nat.ofDigitChars_ten_toDigits]

theorem value_append (digits more : List Char) :
    value (digits ++ more) = Nat.pow 10 more.length * value digits + value more := by
  rw [value_eq_ofDigitChars, Nat.ofDigitChars_append, Nat.ofDigitChars_eq_ofDigitChars_zero]
  rfl

theorem value_concat (digits : List Char) (c : Char) :
    value (digits ++ [c]) = 10 * value digits + digitValue c := by
  simp [value]

theorem value_singleton (c : Char) : value [c] = digitValue c := by
  simp [value]

theorem value_le_append (digits more : List Char) : value digits ≤ value (digits ++ more) := by
  have hpos : 0 < Nat.pow 10 more.length := Nat.pow_pos (by decide)
  rw [value_append]
  exact Nat.le_trans (Nat.le_mul_of_pos_left _ hpos) (Nat.le_add_right _ _)

theorem digitValue_lt {c : Char} (h : isDigit c = true) : digitValue c < 10 := by
  have hrange := toNat_of_isDigit h
  have hzero : '0'.toNat = 48 := rfl
  unfold digitValue
  omega

theorem numeral_digitValue {c : Char} (h : isDigit c = true) : numeral (digitValue c) = [c] := by
  have hrange := toNat_of_isDigit h
  have hzero : '0'.toNat = 48 := rfl
  have hchar : Nat.digitChar (digitValue c) = c := by
    rw [← Char.toNat_inj, Nat.toNat_digitChar_of_lt_ten (digitValue_lt h)]
    unfold digitValue
    omega
  rw [numeral_eq_toDigits, Nat.toDigits_of_lt_base (digitValue_lt h), hchar]

theorem numeral_append {n d : Nat} (hn : 0 < n) (hd : d < 10) :
    numeral n ++ numeral d = numeral (10 * n + d) := by
  simp only [numeral_eq_toDigits]
  exact Nat.toDigits_append_toDigits (by decide) hn hd

-- A run of digits without a leading zero is the numeral of its number.
theorem numeral_value {digits : List Char} (hne : digits ≠ [])
    (hdigits : ∀ c ∈ digits, isDigit c = true) (hlead : digits.head? ≠ some '0') :
    numeral (value digits) = digits := by
  induction digits using List.reverseRecOn with
  | nil => exact absurd rfl hne
  | append_singleton digits c ih =>
      have hc : isDigit c = true := hdigits c (by simp)
      by_cases hempty : digits = []
      · subst hempty
        rw [List.nil_append, value_singleton, numeral_digitValue hc]
      · rw [List.head?_append_of_ne_nil _ hempty] at hlead
        have hnumeral : numeral (value digits) = digits :=
          ih hempty (fun d hd => hdigits d (List.mem_append_left _ hd)) hlead
        have hpos : 0 < value digits := by
          apply Nat.pos_of_ne_zero
          intro hzero
          rw [hzero] at hnumeral
          rw [← hnumeral] at hlead
          exact hlead rfl
        rw [value_concat, ← numeral_append hpos (digitValue_lt hc), hnumeral,
          numeral_digitValue hc]

theorem isDigit_of_mem_padded {width n : Nat} {c : Char} (h : c ∈ padded width n) :
    isDigit c = true := by
  rcases List.mem_append.mp h with h | h
  · rw [List.eq_of_mem_replicate h]
    rfl
  · exact isDigit_of_mem_numeral h

theorem padded_ne_nil (width n : Nat) : padded width n ≠ [] := by
  intro h
  exact numeral_ne_nil n (List.append_eq_nil_iff.mp h).2

theorem exists_padded_eq_cons (width n : Nat) :
    ∃ c cs, padded width n = c :: cs ∧ isDigit c = true := by
  obtain ⟨c, cs, h⟩ := List.exists_cons_of_ne_nil (padded_ne_nil width n)
  have hmem : c ∈ padded width n := by
    rw [h]
    exact List.mem_cons_self
  exact ⟨c, cs, h, isDigit_of_mem_padded hmem⟩

-- Zeros on the left do not count.
@[simp] theorem value_padded (width n : Nat) : value (padded width n) = n := by
  have hzeros : ∀ count, value (List.replicate count '0') = 0 := by
    intro count
    rw [value_eq_ofDigitChars, Nat.ofDigitChars_replicate_zero, Nat.mul_zero]
  rw [padded, value_append, hzeros, value_numeral, Nat.mul_zero, Nat.zero_add]

theorem length_padded {width n : Nat} (hwidth : 0 < width) (hn : n < Nat.pow 10 width) :
    (padded width n).length = width := by
  have hle : (numeral n).length ≤ width := by
    rw [numeral_eq_toDigits]
    exact (Nat.length_toDigits_le_iff (by decide) hwidth).mpr hn
  simp only [padded, List.length_append, List.length_replicate]
  omega

section

variable {run rest : List Char} {c : Char}

-- A text that does not go on with a digit.
def EndsNumber (rest : List Char) : Prop := ∀ c ∈ rest.head?, isDigit c = false

theorem endsNumber_cons (rest : List Char) (h : isDigit c = false) : EndsNumber (c :: rest) := by
  intro d hd
  cases hd
  exact h

theorem takeWhile_isDigit (hrun : ∀ c ∈ run, isDigit c = true) (hrest : EndsNumber rest) :
    (run ++ rest).takeWhile isDigit = run ∧ (run ++ rest).dropWhile isDigit = rest := by
  have htail : rest.takeWhile isDigit = [] ∧ rest.dropWhile isDigit = rest := by
    cases rest with
    | nil => exact ⟨rfl, rfl⟩
    | cons d rest =>
        have hd := hrest d rfl
        simp [hd]
  rw [List.takeWhile_append_of_pos hrun, List.dropWhile_append_of_pos hrun, htail.1, htail.2,
    List.append_nil]
  exact ⟨rfl, rfl⟩

end

end PropertyTemplates.Decimal
