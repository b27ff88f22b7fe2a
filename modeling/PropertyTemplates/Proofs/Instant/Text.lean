import PropertyTemplates.Instant
import PropertyTemplates.Proofs.Decimal.Numeral

namespace PropertyTemplates.Instant

open Decimal Text

variable {run rest : List Char} {c : Char} {most width n : Nat}

theorem digits?_append (hrun : ∀ c ∈ run, isDigit c = true) (hne : run ≠ [])
    (hlen : run.length ≤ most) (hrest : EndsNumber rest) :
    digits? most (run ++ rest) = some (run, rest) := by
  have hempty : run.isEmpty = false := by simpa using hne
  simp only [digits?, (takeWhile_isDigit hrun hrest).1, List.take_of_length_le hlen, hempty,
    Bool.false_eq_true, ite_false, List.drop_left]

theorem isBlank_of_isDigit (h : isDigit c = true) : isBlank c = false := by
  obtain ⟨hlow, hhigh⟩ := toNat_of_isDigit h
  simp only [isBlank, Bool.or_eq_false_iff, Bool.and_eq_false_iff, decide_eq_false_iff_not,
    beq_eq_false_iff_ne]
  omega

theorem skipBlanks_padded (width n : Nat) (rest : List Char) :
    skipBlanks (padded width n ++ rest) = padded width n ++ rest := by
  obtain ⟨d, tail, hpadded, hd⟩ := exists_padded_eq_cons width n
  rw [hpadded, List.cons_append, skipBlanks, List.dropWhile_cons, isBlank_of_isDigit hd]
  rfl

theorem digits?_padded (hlen : (padded width n).length ≤ most) (hrest : EndsNumber rest) :
    digits? most (padded width n ++ rest) = some (padded width n, rest) :=
  digits?_append (fun _ => isDigit_of_mem_padded) (padded_ne_nil width n) hlen hrest

-- A number of two digits is read back.
theorem number?_padded (hn : n < 100) (hrest : EndsNumber rest) :
    number? 2 (padded 2 n ++ rest) = some (n, rest) := by
  have hlen : (padded 2 n).length ≤ 2 := Nat.le_of_eq (length_padded (by decide) hn)
  rw [number?, skipBlanks_padded, digits?_padded hlen hrest]
  simp

theorem mark?_self (mark : Char) (h : isBlank mark = false) (rest : List Char) :
    mark? mark (mark :: rest) = some rest := by
  simp [mark?, skipBlanks, h]

theorem year?_minus (cs : List Char) : year? ('-' :: cs) =
    (digits? cs.length cs).map fun (run, rest) => (-(value run : Int), rest) := rfl

theorem year?_plus (cs : List Char) : year? ('+' :: cs) =
    (digits? cs.length cs).map fun (run, rest) => ((value run : Int), rest) := rfl

theorem year?_padded (hn : n ≤ 9999) (hrest : EndsNumber rest) :
    year? (padded 4 n ++ rest) = some ((n : Int), rest) := by
  have hlen : (padded 4 n).length ≤ 4 :=
    Nat.le_of_eq (length_padded (by decide) (show n < 10000 by omega))
  have hno : ∀ mark tail, padded 4 n ++ rest = mark :: tail → isDigit mark = true := by
    intro mark tail h
    obtain ⟨d, more, hpadded, hd⟩ := exists_padded_eq_cons 4 n
    rw [hpadded, List.cons_append] at h
    obtain ⟨rfl, -⟩ := List.cons_eq_cons.mp h
    exact hd
  rw [year?, skipBlanks_padded]
  split
  · rename_i tail h
    exact absurd (hno '-' tail h) (by decide)
  · rename_i tail h
    exact absurd (hno '+' tail h) (by decide)
  · rw [digits?_padded hlen hrest]
    simp

-- A year is read back, whether it has a sign or not.
theorem year?_yearText (year : Int) (hrest : EndsNumber rest) :
    year? (yearText year ++ rest) = some (year, rest) := by
  have hsigned : digits? (padded 4 year.natAbs ++ rest).length (padded 4 year.natAbs ++ rest) =
      some (padded 4 year.natAbs, rest) := digits?_padded (by simp) hrest
  unfold yearText
  split
  · have hplain : ((year.toNat : Nat) : Int) = year := by omega
    rw [year?_padded (by omega) hrest, hplain]
  · split
    · have hminus : -((year.natAbs : Nat) : Int) = year := by omega
      rw [List.cons_append, year?_minus, hsigned]
      simp only [Option.map_some, value_padded, hminus]
    · have hplus : ((year.natAbs : Nat) : Int) = year := by omega
      rw [List.cons_append, year?_plus, hsigned]
      simp only [Option.map_some, value_padded, hplus]

theorem fraction?_point {width : Nat} (hlen : (padded width n).length = width) (hwidth : width ≤ 9)
    (hrest : EndsNumber rest) :
    fraction? ('.' :: padded width n ++ rest) = some (n * Nat.pow 10 (9 - width), rest) := by
  have hdigits : digits? 9 (padded width n ++ rest) = some (padded width n, rest) :=
    digits?_padded (by omega) hrest
  have hdrop : (padded width n ++ rest).dropWhile isDigit = rest :=
    (takeWhile_isDigit (fun _ => isDigit_of_mem_padded) hrest).2
  rw [List.cons_append, fraction?, hdigits]
  simp [hdrop, hlen]

-- The digits that a fraction is written without are zeros.
theorem fraction?_fractionText {nano : Nat} (h : nano < nanosPerSecond) (hrest : EndsNumber rest)
    (hpoint : rest.head? ≠ some '.') :
    fraction? (fractionText nano ++ rest) = some (nano, rest) := by
  have hsize : nano < 1000000000 := h
  unfold fractionText
  split
  · rename_i hzero
    subst hzero
    cases rest with
    | nil => rfl
    | cons c rest =>
        unfold fraction?
        split
        · simp_all
        · rfl
  · split
    · have hlt : nano / 1000000 < 1000 := by omega
      have hpow : Nat.pow 10 (9 - 3) = 1000000 := rfl
      have hmilli : nano / 1000000 * 1000000 = nano := by omega
      rw [fraction?_point (length_padded (by decide) hlt) (by decide) hrest, hpow, hmilli]
    · split
      · have hlt : nano / 1000 < 1000000 := by omega
        have hpow : Nat.pow 10 (9 - 6) = 1000 := rfl
        have hmicro : nano / 1000 * 1000 = nano := by omega
        rw [fraction?_point (length_padded (by decide) hlt) (by decide) hrest, hpow, hmicro]
      · have hpow : Nat.pow 10 (9 - 9) = 1 := rfl
        rw [fraction?_point (length_padded (by decide) hsize) (by decide) hrest, hpow, Nat.mul_one]

theorem ofLocal?_utc (i : Instant) : ofLocal? i.date i.time 0 = some i := by
  obtain ⟨hhour, hminute, -, -⟩ := i.time_valid
  have hminutes : (i.time.hour * 60 + i.time.minute - 0 : Int) / 60 = i.time.hour ∧
      (i.time.hour * 60 + i.time.minute - 0 : Int) % 60 = i.time.minute := by omega
  have hlow : ¬(i.time.hour * 60 + i.time.minute - 0 : Int) < 0 := by omega
  have hhigh : (i.time.hour * 60 + i.time.minute - 0 : Int) < 24 * 60 := by omega
  have hvalid : i.date.Valid ∧ i.time.Valid ∧ (0 : Int).natAbs < 24 * 60 :=
    ⟨i.date_valid, i.time_valid, by decide⟩
  unfold ofLocal?
  rw [if_pos hvalid]
  simp only [if_neg hlow, if_pos hhigh, hminutes, Int.toNat_natCast]
  exact dif_pos ⟨i.date_valid, i.time_valid⟩

theorem daysInMonth_le (year : Int) (month : Nat) : daysInMonth year month ≤ 31 := by
  unfold daysInMonth
  repeat' split
  all_goals decide

theorem endsNumber_fractionText (nano : Nat) (h : EndsNumber rest) :
    EndsNumber (fractionText nano ++ rest) := by
  unfold fractionText
  split
  · exact h
  · repeat' split
    all_goals exact endsNumber_cons _ rfl

-- The text of an instant is read as the instant.
theorem parse_toText (i : Instant) : parse i.toText = some i := by
  obtain ⟨-, -, -, hmonth, -, hday⟩ := i.date_valid
  obtain ⟨hhour, hminute, hsecond, hnano⟩ := i.time_valid
  have hdays := daysInMonth_le i.date.year i.date.month
  have hz : EndsNumber ['Z'] := endsNumber_cons [] rfl
  have hyear : ∀ rest, year? (yearText i.date.year ++ '-' :: rest) =
      some (i.date.year, '-' :: rest) := fun rest => year?_yearText _ (endsNumber_cons rest rfl)
  have hdash : ∀ rest, mark? '-' ('-' :: rest) = some rest := mark?_self '-' rfl
  have hcolon : ∀ rest, mark? ':' (':' :: rest) = some rest := mark?_self ':' rfl
  have hnumber : ∀ n c rest, n < 100 → isDigit c = false →
      number? 2 (padded 2 n ++ c :: rest) = some (n, c :: rest) :=
    fun _ _ rest hn hc => number?_padded hn (endsNumber_cons rest hc)
  have hseconds : number? 2 (padded 2 i.time.second ++ (fractionText i.time.nano ++ ['Z'])) =
      some (i.time.second, fractionText i.time.nano ++ ['Z']) :=
    number?_padded (by omega) (endsNumber_fractionText _ hz)
  have hfraction : fraction? (fractionText i.time.nano ++ ['Z']) = some (i.time.nano, ['Z']) :=
    fraction?_fractionText hnano hz (by decide)
  have hzone : zone? (skipBlanks ['Z']) = some (0, []) := rfl
  simp only [parse, toText, textOf, dateText, clockText, String.toList_ofList, List.append_assoc,
    List.cons_append, Option.bind_eq_bind, Option.bind_some, hyear, hdash, hcolon, hseconds,
    hfraction, hzone, hnumber i.date.month '-' _ (by omega) rfl,
    hnumber i.date.day 'T' _ (by omega) rfl, hnumber i.time.hour ':' _ (by omega) rfl,
    hnumber i.time.minute ':' _ (by omega) rfl]
  exact ofLocal?_utc i

end PropertyTemplates.Instant
