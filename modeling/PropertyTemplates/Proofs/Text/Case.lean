import PropertyTemplates.Text.Case

namespace PropertyTemplates.Text

namespace LetterRun

-- Two runs have no letter in common: one ends before the other begins, or both take every second
-- letter and only one of them the even ones. It is written with tests that are quick to evaluate.
def apart (a b : LetterRun) : Bool :=
  a.last.blt b.first || b.last.blt a.first ||
    (a.step.beq 2 && b.step.beq 2 && !(a.first % 2).beq (b.first % 2))

-- The run of the letters that stand for those of a run.
def image (r : LetterRun) : LetterRun :=
  ⟨((r.first : Int) + r.shift).toNat, ((r.last : Int) + r.shift).toNat, r.step, 0⟩

variable {a b r : LetterRun} {n : Nat}

theorem contains_iff :
    r.contains n = true ↔ r.first ≤ n ∧ n ≤ r.last ∧ (n - r.first) % r.step = 0 := by
  simp [contains, and_assoc]

theorem not_contains_of_apart (h : a.apart b = true) (ha : a.contains n = true) :
    ¬b.contains n = true := by
  intro hb
  rw [contains_iff] at ha hb
  simp only [apart, Bool.or_eq_true, Bool.and_eq_true, Nat.blt_eq, Nat.beq_eq, Bool.not_eq_true',
    ← Bool.not_eq_true] at h
  rcases h with (h | h) | ⟨⟨hstep, hstep'⟩, hparity⟩
  · omega
  · omega
  · rw [hstep] at ha
    rw [hstep'] at hb
    omega

theorem contains_image (h : r.contains n = true) (hpos : 0 ≤ (r.first : Int) + r.shift) :
    r.image.contains ((n : Int) + r.shift).toNat = true := by
  obtain ⟨hfirst, hlast, hstep⟩ := contains_iff.mp h
  have hsub : ((n : Int) + r.shift).toNat - ((r.first : Int) + r.shift).toNat = n - r.first := by
    omega
  refine contains_iff.mpr ⟨?_, ?_, ?_⟩
  · simp only [image]
    omega
  · simp only [image]
    omega
  · simpa only [image, hsub] using hstep

-- No small form of a letter of the run is a capital.
def isSettled (r : LetterRun) : Bool :=
  decide (0 ≤ (r.first : Int) + r.shift) && capitalRuns.all r.image.apart

end LetterRun

theorem isSettled_of_mem : ∀ r ∈ capitalRuns, r.shift = 0 ∨ r.isSettled = true := by
  decide +kernel

theorem isCapital_iff {c : Char} :
    isCapital c = true ↔ ∃ r ∈ capitalRuns, r.contains c.toNat = true := by
  simp [isCapital, capitalRun?]

-- A number that is not that of a character denotes the first character of all.
theorem toNat_ofNat_eq_or (n : Nat) : (Char.ofNat n).toNat = n ∨ (Char.ofNat n).toNat = 0 := by
  by_cases h : n.isValidChar
  · have hn : Char.ofNat n = Char.ofNatAux n h := dif_pos h
    exact .inl (congrArg Char.toNat hn)
  · have hn : Char.ofNat n = ⟨0, by decide⟩ := dif_neg h
    exact .inr (congrArg Char.toNat hn)

theorem not_isCapital_ofNat {n : Nat} (h : ∀ r ∈ capitalRuns, ¬r.contains n = true) :
    ¬isCapital (Char.ofNat n) = true := by
  rw [isCapital_iff]
  rintro ⟨r, hr, hcontains⟩
  rcases toNat_ofNat_eq_or n with hn | hn
  · rw [hn] at hcontains
    exact h r hr hcontains
  · have hzero : ¬∃ r ∈ capitalRuns, r.contains 0 = true := by decide +kernel
    rw [hn] at hcontains
    exact hzero ⟨r, hr, hcontains⟩

-- A character that is no capital is its own small form.
theorem smallForm_of_not_isCapital {c : Char} (h : ¬isCapital c = true) : smallForm c = [c] := by
  have hdotted : c.toNat ≠ 0x130 := by
    intro hc
    have hcapital : ∃ r ∈ capitalRuns, r.contains 0x130 = true := by decide +kernel
    exact h (isCapital_iff.mpr (hc ▸ hcapital))
  have hnone : capitalRun? c = none := by simpa [isCapital] using h
  rw [smallForm, if_neg hdotted, hnone]

-- A small form starts with a character that is its own small form.
theorem exists_smallForm_eq_cons (c : Char) :
    ∃ d rest, smallForm c = d :: rest ∧ smallForm d = [d] := by
  by_cases hdotted : c.toNat = 0x130
  · exact ⟨'i', _, if_pos hdotted, by decide +kernel⟩
  · cases hrun : capitalRun? c with
    | none =>
        have hsmall : smallForm c = [c] := by
          rw [smallForm, if_neg hdotted, hrun]
        exact ⟨c, [], hsmall, hsmall⟩
    | some r =>
        have hfind : capitalRuns.find? (·.contains c.toNat) = some r := hrun
        have hmem : r ∈ capitalRuns := List.mem_of_find?_eq_some hfind
        have hcontains : r.contains c.toNat = true := by simpa using List.find?_some hfind
        have hsmall : smallForm c = [Char.ofNat ((c.toNat : Int) + r.shift).toNat] := by
          rw [smallForm, if_neg hdotted, hrun]
        refine ⟨_, [], hsmall, ?_⟩
        rcases isSettled_of_mem r hmem with hshift | hsettled
        · have hsame : Char.ofNat ((c.toNat : Int) + r.shift).toNat = c := by
            rw [hshift, Int.add_zero, Int.toNat_natCast, Char.ofNat_toNat]
          rw [hsame] at hsmall ⊢
          exact hsmall
        · obtain ⟨hpos, hapart⟩ : 0 ≤ (r.first : Int) + r.shift ∧
              ∀ s ∈ capitalRuns, r.image.apart s = true := by
            simpa [LetterRun.isSettled] using hsettled
          refine smallForm_of_not_isCapital (not_isCapital_ofNat fun s hs => ?_)
          have himage := LetterRun.contains_image hcontains hpos
          exact LetterRun.not_contains_of_apart (hapart s hs) himage

theorem smallForm_ascii {c : Char} (h : c.toNat < 128) : smallForm c = [c.toLower] := by
  have hall : ∀ n < 128, smallForm (Char.ofNat n) = [(Char.ofNat n).toLower] := by
    decide +kernel
  have hc := hall c.toNat h
  rwa [Char.ofNat_toNat] at hc

-- The first character takes its small form, and the rest is kept.
theorem lowerFirst_cons (c : Char) (rest : List Char) :
    lowerFirst (String.ofList (c :: rest)) = String.ofList (smallForm c ++ rest) := by
  rw [lowerFirst, String.toList_ofList]
  dsimp only
  by_cases hc : isCapital c = true
  · rw [if_pos hc]
  · rw [if_neg hc, smallForm_of_not_isCapital hc]
    rfl

-- Names that differ in their first characters only have one key just where those have one small
-- form.
theorem lowerFirst_cons_eq_iff {c d : Char} {rest : List Char} :
    lowerFirst (String.ofList (c :: rest)) = lowerFirst (String.ofList (d :: rest)) ↔
      smallForm c = smallForm d := by
  rw [lowerFirst_cons, lowerFirst_cons, String.ofList_inj, List.append_left_inj]

theorem lowerFirst_ascii {c : Char} (h : c.toNat < 128) (rest : List Char) :
    lowerFirst (String.ofList (c :: rest)) = String.ofList (c.toLower :: rest) := by
  rw [lowerFirst_cons, smallForm_ascii h]
  rfl

-- Making the first character small once is enough.
theorem lowerFirst_lowerFirst (name : String) : lowerFirst (lowerFirst name) = lowerFirst name := by
  rw [← String.ofList_toList (s := name)]
  cases name.toList with
  | nil => rfl
  | cons c rest =>
      obtain ⟨d, more, hsmall, hd⟩ := exists_smallForm_eq_cons c
      rw [lowerFirst_cons, hsmall, List.cons_append, lowerFirst_cons, hd]
      rfl

theorem lowerFirst_eq_empty_iff {name : String} : lowerFirst name = "" ↔ name = "" := by
  rw [← String.ofList_toList (s := name)]
  cases name.toList with
  | nil => exact Iff.rfl
  | cons c rest =>
      obtain ⟨d, more, hsmall, -⟩ := exists_smallForm_eq_cons c
      rw [lowerFirst_cons, hsmall]
      simp

end PropertyTemplates.Text
