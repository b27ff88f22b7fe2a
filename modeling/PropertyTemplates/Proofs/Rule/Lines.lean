import PropertyTemplates.Proofs.Pattern.Star
import PropertyTemplates.Proofs.Rule.Grammar

namespace PropertyTemplates

open Pattern

theorem Pattern.CharSet.contains_notLineEnd (c : Char) :
    (notLineEnd false).contains c = true ↔ c ≠ '\n' := by
  have hsingle : (single '\n').contains c = true ↔ c = '\n' := by
    simp only [single, contains, Bool.and_eq_true, decide_eq_true_eq, ← Char.toNat_inj]
    omega
  have hcompl : (notLineEnd false).contains c = !(single '\n').contains c := rfl
  rw [hcompl, Bool.not_eq_true', ← Bool.not_eq_true, hsingle]

theorem Pattern.parse_anything : Pattern.parse ".*" = .ok ⟨.star (.notLineEnd false)⟩ := rfl

-- Without a dollar sign and a backslash every character stands for itself.
theorem Replacement.written_literals (count : Nat) (names : List String) {cs : List Char}
    (hdollar : '$' ∉ cs) (hescape : '\\' ∉ cs) : Written count names cs (cs.map .literal) := by
  induction cs with
  | nil => exact .nil
  | cons c cs ih =>
      simp only [List.mem_cons, not_or] at hdollar hescape
      exact .literal c (Ne.symm hdollar.1) (Ne.symm hescape.1) (ih hdollar.2 hescape.2)

-- What stands between the line ends makes place for the text that is put.
theorem intercalate_lines (put cs : List Char) :
    ['\n'].intercalate ((cs.splitOn '\n').map fun _ => put) =
      put ++ betweenRuns (.notLineEnd false) put cs := by
  induction cs with
  | nil => simp [betweenRuns]
  | cons c cs ih =>
      obtain ⟨line, lines, hlines⟩ :=
        List.exists_cons_of_ne_nil (List.splitOn_ne_nil '\n' cs)
      rw [hlines, List.map_cons] at ih
      rw [List.splitOn_cons_eq_if_modifyHead, hlines]
      by_cases hc : c = '\n'
      · subst hc
        have hend : ¬(CharSet.notLineEnd false).contains '\n' = true := by
          rw [CharSet.contains_notLineEnd]
          simp
        rw [betweenRuns_cons_of_not_contains hend, ← ih]
        simp [List.intercalate_cons_cons]
      · have hline : (CharSet.notLineEnd false).contains c = true :=
          (CharSet.contains_notLineEnd c).mpr hc
        rw [if_neg (by simpa using hc), List.modifyHead_cons, List.map_cons, ih]
        simp [betweenRuns, hline]

namespace Rule

variable {replacement : String}

-- Puts a text in place of anything.
def overwrite (replacement : String) : Rule := ⟨".*", replacement⟩

theorem apply_overwrite (hdollar : '$' ∉ replacement.toList) (hescape : '\\' ∉ replacement.toList)
    (text : String) :
    (overwrite replacement).apply text = .ok (String.ofList
      (replacement.toList ++ betweenRuns (.notLineEnd false) replacement.toList text.toList)) := by
  have hwritten := Replacement.written_literals (groupCount ⟨.star (.notLineEnd false)⟩)
    (groupNames ⟨.star (.notLineEnd false)⟩) hdollar hescape
  have hput : ∀ (group : Nat → List Char) (named : String → List Char),
      (replacement.toList.map ReplacementItem.literal).flatMap (·.text group named) =
        replacement.toList := by
    intro group named
    simp [List.flatMap_map, ReplacementItem.text]
  rw [apply_of_written parse_anything hwritten]
  simp only [hput, replaceAll_star]

-- Overwriting puts the replacement in place of every line, so that it alone is left if and only if
-- there is a single line.
theorem apply_overwrite_lines (hdollar : '$' ∉ replacement.toList)
    (hescape : '\\' ∉ replacement.toList) (text : String) :
    (overwrite replacement).apply text = .ok (String.ofList
        (['\n'].intercalate ((text.toList.splitOn '\n').map fun _ => replacement.toList))) ∧
      ((overwrite replacement).apply text = .ok replacement ↔ '\n' ∉ text.toList) := by
  rw [apply_overwrite hdollar hescape, intercalate_lines]
  refine ⟨rfl, ?_⟩
  rw [Except.ok.injEq, ← String.toList_inj, String.toList_ofList, List.append_right_eq_self,
    betweenRuns_eq_nil_iff]
  constructor
  · intro hall hmem
    exact (CharSet.contains_notLineEnd '\n').mp (hall '\n' hmem) rfl
  · intro hnone c hc
    refine (CharSet.contains_notLineEnd c).mpr ?_
    rintro rfl
    exact hnone hc

theorem apply_overwrite_lines_twoBands :
    (overwrite "This is static").apply "Band 1\nBand 2" = .ok "This is static\nThis is static" ∧
      (overwrite "This is static").apply "Band 1" = .ok "This is static" := by
  have hdollar : '$' ∉ "This is static".toList := by decide
  have hescape : '\\' ∉ "This is static".toList := by decide
  have hlines : String.ofList (['\n'].intercalate
      (("Band 1\nBand 2".toList.splitOn '\n').map fun _ => "This is static".toList)) =
        "This is static\nThis is static" := by decide +kernel
  refine ⟨?_, ?_⟩
  · have htwo := (apply_overwrite_lines hdollar hescape "Band 1\nBand 2").1
    rwa [hlines] at htwo
  · exact (apply_overwrite_lines hdollar hescape "Band 1").2.mpr (by decide)

-- A text of several lines is not overwritten as a whole: the point stops at the end of a line.
theorem not_overwritten_of_lines :
    ¬∀ (replacement text : String), '$' ∉ replacement.toList → '\\' ∉ replacement.toList →
      (overwrite replacement).apply text = .ok replacement := by
  intro h
  have hlines := h "s" "a\nb" (by decide) (by decide)
  rw [apply_overwrite (by decide) (by decide), Except.ok.injEq, ← String.toList_inj,
    String.toList_ofList] at hlines
  revert hlines
  decide

end Rule

end PropertyTemplates
