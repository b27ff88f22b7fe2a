import PropertyTemplates.Proofs.Decimal.Numeral
import PropertyTemplates.Proofs.Decimal.Rounding

namespace PropertyTemplates.Decimal

-- A number has at most so many digits before its trailing zeros.
def HasDigits (count n : Nat) : Prop :=
  ∃ digits places, digits ≤ 10 ^ count ∧ n = digits * 10 ^ places

-- A number that is longer than that ends in zeros.
theorem HasDigits.dvd {count n zeros : Nat} (h : HasDigits count n)
    (hn : 10 ^ (count + zeros) < n) : 10 ^ (zeros + 1) ∣ n := by
  obtain ⟨digits, places, hdigits, rfl⟩ := h
  have hplaces : zeros < places := by
    apply Nat.lt_of_not_le
    intro hfew
    have hpow : 10 ^ places ≤ 10 ^ zeros := Nat.pow_le_pow_right (by decide) hfew
    have hle : digits * 10 ^ places ≤ 10 ^ count * 10 ^ zeros := Nat.mul_le_mul hdigits hpow
    rw [← Nat.pow_add] at hle
    omega
  exact Nat.dvd_mul_left_of_dvd (Nat.pow_dvd_pow 10 hplaces) digits

theorem numeral_append_zeros {n : Nat} (hn : 0 < n) (places : Nat) :
    numeral n ++ List.replicate places '0' = numeral (n * 10 ^ places) := by
  induction places with
  | zero => simp
  | succ places ih =>
      have hpos : 0 < n * 10 ^ places := Nat.mul_pos hn (Nat.pow_pos (by decide))
      have hzero : numeral 0 = ['0'] := by decide
      have hten : 10 * (n * 10 ^ places) + 0 = n * 10 ^ (places + 1) := by
        rw [Nat.add_zero, Nat.mul_left_comm, ← Nat.pow_succ']
      rw [List.replicate_succ', ← List.append_assoc, ih, ← hzero, numeral_append hpos (by decide),
        hten]

namespace Scaled

variable {d : Scaled}

-- Zeros move from the digits into the exponent.
theorem exists_trim_eq (d : Scaled) :
    ∃ zeros : Nat, d.trim.exponent = d.exponent + zeros ∧ d.digits = d.trim.digits * 10 ^ zeros := by
  fun_induction trim with
  | case1 d h ih =>
      obtain ⟨zeros, hexponent, hdigits⟩ := ih
      have hten : d.digits = d.digits / 10 * 10 := by omega
      refine ⟨zeros + 1, hexponent.trans ?_, ?_⟩
      · show d.exponent + 1 + zeros = d.exponent + (zeros + 1 : Nat)
        omega
      · calc d.digits
            = d.digits / 10 * 10 := hten
          _ = (trim ⟨d.digits / 10, d.exponent + 1⟩).digits * 10 ^ zeros * 10 :=
              congrArg (· * 10) hdigits
          _ = _ := Nat.mul_assoc _ _ 10
  | case2 d h => exact ⟨0, by simp, by simp⟩

-- A whole number is laid out as its numeral.
theorem positional_trim (hdigits : 0 < d.digits) {places : Nat} (hexponent : d.exponent = places) :
    d.trim.positional false = numeral (d.digits * 10 ^ places) := by
  obtain ⟨zeros, htrim, hvalue⟩ := exists_trim_eq d
  have hplaces : d.trim.exponent.toNat = places + zeros := by omega
  have hpos : 0 < d.trim.digits := by
    apply Nat.pos_of_ne_zero
    intro hzero
    rw [hzero, Nat.zero_mul] at hvalue
    omega
  unfold positional
  simp only [if_pos (show 0 ≤ d.trim.exponent by omega), Bool.false_eq_true, if_false,
    List.append_nil]
  rw [numeral_append_zeros hpos, hplaces, hvalue, Nat.mul_assoc, ← Nat.pow_add, Nat.add_comm zeros]

end Scaled

theorem Quotient.scale_natCast (n base e : Nat) : Quotient.scale n base e = ⟨n * base ^ e, 1⟩ :=
  if_pos (Int.natCast_nonneg e)

namespace Binary

variable {b : Binary} {d : Scaled} {places : Nat}

-- The power of ten that the last of so many digits counts.
def lastPlace (b : Binary) (places : Nat) : Int := b.value.magnitude - (places - 1 : Nat)

-- The decimals that are looked at lie around the number, and one that is chosen reads back.
theorem nearest?_eq_some (h : b.nearest? places = some d) :
    d.exponent = b.lastPlace places ∧ d.digits ≤ b.value.floorAt (b.lastPlace places) + 1 ∧
      b.readsBack d = true := by
  unfold nearest? at h
  simp only at h
  split at h
  · rename_i hlower hupper
    split at h <;> cases h
    · exact ⟨rfl, Nat.le_succ _, hlower⟩
    · exact ⟨rfl, Nat.le_refl _, hupper⟩
  · rename_i hlower _
    cases h
    exact ⟨rfl, Nat.le_succ _, hlower⟩
  · rename_i _ hupper
    cases h
    exact ⟨rfl, Nat.le_refl _, hupper⟩
  · cases h

theorem readsBack_of_nearest?_eq_none (h : b.nearest? places = none) :
    b.readsBack ⟨b.value.floorAt (b.lastPlace places) + 1, b.lastPlace places⟩ = false := by
  unfold nearest? at h
  simp only at h
  split at h
  · split at h <;> cases h
  · cases h
  · cases h
  · rename_i _ hupper
    exact hupper

end Binary

section Units

-- The floats of 53 bits of units: the whole numbers from 2 ^ 63 up to 2 ^ 64 in steps of 2 ^ 11.
variable {units : Nat} (tight : Bool) {d : Scaled}

theorem value_units (units : Nat) :
    (Binary.mk units 11 tight).value = ⟨2 ^ 11 * units, 1⟩ := by
  refine (Quotient.scale_natCast (4 * units) 2 9).trans ?_
  congr 1
  omega

theorem magnitude_units (hlow : 2 ^ 52 ≤ units) (hhigh : units < 2 ^ 53) :
    ∃ power : Nat, Quotient.magnitude ⟨2 ^ 11 * units, 1⟩ = power ∧ 18 ≤ power ∧ power ≤ 19 ∧
      2 ^ 11 * units < 10 ^ (power + 1) := by
  have hlog : (2 ^ 11 * units).log2 = 63 := by
    rw [Nat.log2_eq_iff (by omega)]
    omega
  have hone : (1 : Nat).log2 = 0 := by decide
  have hguess : Int.fdiv (((63 : Nat) - (0 : Nat) : Int) * 1233) 4096 = 18 := by decide
  have habove : Quotient.scale 1 10 (18 + 1) = ⟨10 ^ 19, 1⟩ := by decide
  have hbelow : Quotient.scale 1 10 18 = ⟨10 ^ 18, 1⟩ := by decide
  unfold Quotient.magnitude
  simp only [hlog, hone, hguess, habove, hbelow, Quotient.le, decide_eq_true_eq]
  by_cases htop : 10 ^ 19 ≤ 2 ^ 11 * units
  · exact ⟨19, if_pos (by omega), by decide, by decide, by omega⟩
  · exact ⟨18, (if_neg (by omega)).trans (if_pos (by omega)), by decide, by decide, by omega⟩

-- What reads back as such a float is no further from it than halfway to its neighbours.
theorem readsBack_units (hlow : 2 ^ 52 ≤ units) {places : Nat} (hexponent : d.exponent = places) :
    ((Binary.mk units 11 tight).readsBack d = true →
      2 ^ 11 * units ≤ d.digits * 10 ^ places + 2 ^ 10 ∧
        d.digits * 10 ^ places ≤ 2 ^ 11 * units + 2 ^ 10) ∧
    (2 ^ 11 * units ≤ d.digits * 10 ^ places → d.digits * 10 ^ places < 2 ^ 11 * units + 2 ^ 10 →
      (Binary.mk units 11 tight).readsBack d = true) := by
  have hvalue : d.value = ⟨d.digits * 10 ^ places, 1⟩ := by
    rw [Scaled.value, hexponent, Quotient.scale_natCast]
  have hbelow : (Binary.mk units 11 tight).low =
      ⟨(4 * units - if tight then 1 else 2) * 2 ^ 9, 1⟩ := Quotient.scale_natCast _ 2 9
  have habove : (Binary.mk units 11 tight).high = ⟨(4 * units + 2) * 2 ^ 9, 1⟩ :=
    Quotient.scale_natCast _ 2 9
  unfold Binary.readsBack Quotient.le Quotient.lt
  simp only [hvalue, hbelow, habove]
  constructor
  · intro h
    split at h <;> split at h <;> simp at h <;> omega
  · intro hdown hup
    split <;> split <;> simp <;> omega

theorem lastPlace_units (hlow : 2 ^ 52 ≤ units) (hhigh : units < 2 ^ 53) {k : Nat} (hk : k < 17) :
    ∃ places : Nat, (Binary.mk units 11 tight).lastPlace (k + 1) = places ∧
      2 ^ 11 * units < 10 ^ (k + 1) * 10 ^ places ∧ (k = 16 → places ≤ 3) ∧
      (Binary.mk units 11 tight).value.floorAt places = 2 ^ 11 * units / 10 ^ places := by
  obtain ⟨power, hpower, hleast, hmost, hbound⟩ := magnitude_units hlow hhigh
  have hsum : k + 1 + (power - k) = power + 1 := by omega
  refine ⟨power - k, ?_, ?_, by omega, ?_⟩
  · rw [Binary.lastPlace, value_units, hpower]
    omega
  · rw [← Nat.pow_add, hsum]
    exact hbound
  · rw [value_units, Quotient.floorAt, if_pos (Int.natCast_nonneg _), Nat.one_mul]
    rfl

-- With 17 digits the decimal just above reads back, so the search for the fewest ends.
theorem nearest?_units_ne_none (hlow : 2 ^ 52 ≤ units) (hhigh : units < 2 ^ 53) :
    (Binary.mk units 11 tight).nearest? 17 ≠ none := by
  intro hnone
  obtain ⟨places, hplace, -, hplaces, hfloor⟩ :=
    lastPlace_units tight hlow hhigh (show 16 < 17 by decide)
  have hfails := Binary.readsBack_of_nearest?_eq_none hnone
  rw [hplace, hfloor] at hfails
  have hpos : 0 < 10 ^ places := Nat.pow_pos (by decide)
  have hstep : 10 ^ places ≤ 10 ^ 3 := Nat.pow_le_pow_right (by decide) (hplaces rfl)
  have hdiv : 10 ^ places * (2 ^ 11 * units / 10 ^ places) + 2 ^ 11 * units % 10 ^ places =
      2 ^ 11 * units := Nat.div_add_mod _ _
  have hmod : 2 ^ 11 * units % 10 ^ places < 10 ^ places := Nat.mod_lt _ hpos
  have hreads := (readsBack_units tight hlow
    (d := ⟨2 ^ 11 * units / 10 ^ places + 1, places⟩) rfl).2
  have hnext : (2 ^ 11 * units / 10 ^ places + 1) * 10 ^ places =
      10 ^ places * (2 ^ 11 * units / 10 ^ places) + 10 ^ places := by
    rw [Nat.succ_mul, Nat.mul_comm]
  simp only [hnext] at hreads
  rw [hreads (by omega) (by omega)] at hfails
  cases hfails

theorem exists_shortest_units (hlow : 2 ^ 52 ≤ units) (hhigh : units < 2 ^ 53) :
    ∃ (d : Scaled) (places : Nat), (Binary.mk units 11 tight).shortest = d.trim ∧
      d.exponent = places ∧ d.digits ≤ 10 ^ 17 ∧
      (Binary.mk units 11 tight).readsBack d = true := by
  unfold Binary.shortest
  cases hfound : (List.range 17).findSome? fun k => (Binary.mk units 11 tight).nearest? (k + 1) with
  | none =>
      rw [List.findSome?_eq_none_iff] at hfound
      exact absurd (hfound 16 (by decide)) (nearest?_units_ne_none tight hlow hhigh)
  | some d =>
      obtain ⟨k, hk, hd⟩ := List.exists_of_findSome?_eq_some hfound
      have hk' : k < 17 := List.mem_range.mp hk
      obtain ⟨places, hplace, hbound, -, hfloor⟩ := lastPlace_units tight hlow hhigh hk'
      obtain ⟨hexponent, hdigits, hreads⟩ := Binary.nearest?_eq_some hd
      rw [hplace] at hexponent hdigits
      have hlt : 2 ^ 11 * units / 10 ^ places < 10 ^ (k + 1) :=
        (Nat.div_lt_iff_lt_mul (Nat.pow_pos (by decide))).mpr hbound
      have hle : 10 ^ (k + 1) ≤ 10 ^ 17 := Nat.pow_le_pow_right (by decide) hk'
      exact ⟨d, places, rfl, hexponent, by omega, hreads⟩

-- The numeral that a whole float is shown by.
theorem layout_units (hlow : 2 ^ 52 ≤ units) (hhigh : units < 2 ^ 53) :
    ∃ shown, HasDigits 17 shown ∧ 2 ^ 11 * units ≤ shown + 2 ^ 10 ∧
      shown ≤ 2 ^ 11 * units + 2 ^ 10 ∧
      Layout.plain.magnitude ⟨units, 11, tight⟩ = numeral shown := by
  obtain ⟨d, places, hshortest, hexponent, hdigits, hreads⟩ :=
    exists_shortest_units tight hlow hhigh
  obtain ⟨hdown, hup⟩ := (readsBack_units tight hlow hexponent).1 hreads
  have hpos : 0 < d.digits := by
    apply Nat.pos_of_ne_zero
    intro hzero
    rw [hzero, Nat.zero_mul] at hdown
    omega
  refine ⟨d.digits * 10 ^ places, ⟨d.digits, places, hdigits, rfl⟩, hdown, hup, ?_⟩
  unfold Layout.magnitude
  rw [hshortest]
  exact Scaled.positional_trim hpos hexponent

-- A number beyond the words is shown as a whole number with 17 digits at most, close to it.
theorem float_ofInt {n : Nat} (hlow : 2 ^ 63 ≤ n) (hhigh : n < 2 ^ 64) :
    ∃ shown, HasDigits 17 shown ∧ 2 ^ 63 ≤ shown ∧ n ≤ shown + 2 ^ 11 ∧ shown ≤ n + 2 ^ 11 ∧
      Layout.plain.float (Float.ofInt n) = String.ofList (numeral shown) := by
  obtain ⟨units, hfirst, hlast, hdown, hup, hparts⟩ := ofFloat_ofInt hlow hhigh
  have hshow {shown : Nat} (h : Layout.plain.magnitude (.ofUnits units) = numeral shown) :
      Layout.plain.float (Float.ofInt n) = String.ofList (numeral shown) := by
    unfold Layout.float
    rw [hparts, ← h]
    rfl
  -- The ends are powers of two. The first is shown by a decimal above it, so no word is reached.
  by_cases htop : units = 2 ^ 53
  · subst htop
    exact ⟨18446744073709552000, ⟨18446744073709552, 3, by decide, by decide⟩, by decide, by omega,
      by omega, hshow (by decide +kernel)⟩
  by_cases hbottom : units = 2 ^ 52
  · subst hbottom
    exact ⟨9223372036854776000, ⟨9223372036854776, 3, by decide, by decide⟩, by decide, by omega,
      by omega, hshow (by decide +kernel)⟩
  obtain ⟨shown, hdigits, hleast, hmost, hmagnitude⟩ :=
    layout_units false hfirst (by omega : units < 2 ^ 53)
  refine ⟨shown, hdigits, by omega, by omega, by omega, hshow ?_⟩
  rw [← hmagnitude, Binary.ofUnits, if_neg htop, decide_eq_false hbottom]

example : Layout.plain.float (Float.ofInt 9223372036854775809) = "9223372036854776000" := by
  decide +kernel

-- Numbers with the same nearest units are shown alike.
theorem float_ofInt_eq {m n : Nat} (units : Nat) (hm : 2 ^ 63 ≤ m ∧ m < 2 ^ 64)
    (hn : 2 ^ 63 ≤ n ∧ n < 2 ^ 64)
    (hmunits : m < 2 ^ 11 * units + 2 ^ 10 ∧ 2 ^ 11 * units < m + 2 ^ 10)
    (hnunits : n < 2 ^ 11 * units + 2 ^ 10 ∧ 2 ^ 11 * units < n + 2 ^ 10) (l : Layout) :
    l.float (Float.ofInt m) = l.float (Float.ofInt n) := by
  obtain ⟨munits, -, -, hmdown, hmup, hmparts⟩ := ofFloat_ofInt hm.1 hm.2
  obtain ⟨nunits, -, -, hndown, hnup, hnparts⟩ := ofFloat_ofInt hn.1 hn.2
  have hsame : munits = nunits := by omega
  unfold Layout.float
  rw [hmparts, hnparts, hsame]

end Units

end PropertyTemplates.Decimal
