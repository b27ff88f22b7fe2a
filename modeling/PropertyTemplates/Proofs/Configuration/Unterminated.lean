import PropertyTemplates.Proofs.Configuration.Agreement
import PropertyTemplates.Proofs.Template.Openings

namespace PropertyTemplates

-- Every placeholder of the template reads as a path with a name in each of its steps.
def Definition.HasPaths (d : Definition) : Prop :=
  ∀ inner, .placeholder inner ∈ tokenize d.template →
    ∃ path, Path.parse inner = .ok path ∧ ∀ s ∈ path.segments, s.accessor ≠ ""

namespace Inspection

open Token

variable {ds : List Definition} {d e : Definition} {name template inner : String}

theorem hasOpening_iff {cs : List Char} : hasOpening cs = true ↔ ['{', '{'] <:+: cs := by
  fun_induction hasOpening cs with
  | case1 rest => simp [List.infix_cons_iff]
  | case2 c rest hfront ih =>
      have hprefix : ¬['{', '{'] <+: c :: rest := by
        rintro ⟨more, he⟩
        obtain ⟨rfl, rfl⟩ := List.cons_eq_cons.mp he
        exact hfront more rfl rfl
      rw [ih, List.infix_cons_iff, or_iff_right hprefix]
  | case3 => simp

theorem not_hasUnclosed_of_isBlankText (h : Text.isBlankText template = true) :
    ¬HasUnclosed template.toList := by
  rintro ⟨before, after, he, -⟩
  have hbrace : '{' ∈ template.toList := by simp [he]
  have hblank : Text.isBlank '{' = true := List.all_eq_true.mp h '{' hbrace
  exact absurd hblank (by decide)

-- A template is said to be unterminated if and only if it leaves braces open on their line.
theorem mem_templateWarnings :
    .unterminated name template ∈ templateWarnings e ↔
      e.name = name ∧ e.template = template ∧ HasUnclosed template.toList := by
  unfold templateWarnings
  split
  · rename_i hblank
    simp only [List.mem_singleton, reduceCtorEq, false_iff, not_and]
    rintro - rfl
    exact not_hasUnclosed_of_isBlankText hblank
  · rw [List.mem_filterMap]
    constructor
    · rintro ⟨t, ht, hwarning⟩
      cases t with
      | placeholder inner => cases hwarning
      | literal text =>
          simp only [Option.ite_none_right_eq_some, Option.some.injEq,
            Warning.unterminated.injEq] at hwarning
          obtain ⟨hopening, rfl, rfl⟩ := hwarning
          have hopens : OpensLiteral (tokenize e.template) :=
            ⟨text, ht, hasOpening_iff.mp hopening⟩
          exact ⟨rfl, rfl, (opensLiteral_scan _).mp hopens⟩
    · rintro ⟨rfl, rfl, hunclosed⟩
      obtain ⟨text, htext, hopening⟩ := (opensLiteral_scan _).mpr hunclosed
      exact ⟨.literal text, htext, by simp [hasOpening_iff.mpr hopening]⟩

theorem mem_warnings {warning : Warning} (h : ∀ property count, warning ≠ .duplicate property count) :
    warning ∈ (ofDefinitions ds).warnings ↔ ∃ e ∈ ds, warning ∈ templateWarnings e := by
  have hduplicates : warning ∉ duplicates (ds.map (·.name)) := by
    intro hmem
    obtain ⟨property, -, he⟩ := List.mem_map.mp hmem
    exact h property _ he.symm
  simp [ofDefinitions, hduplicates]

theorem unterminated_iff (hd : d ∈ ds) :
    .unterminated d.name d.template ∈ (ofDefinitions ds).warnings ↔
      HasUnclosed d.template.toList := by
  rw [mem_warnings (by simp)]
  simp only [mem_templateWarnings]
  constructor
  · rintro ⟨e, -, -, -, hunclosed⟩
    exact hunclosed
  · intro hunclosed
    exact ⟨d, hd, rfl, rfl, hunclosed⟩

theorem badPath_of_mem (hd : d ∈ ds) {flaw : PathFlaw}
    (hinner : .placeholder inner ∈ tokenize d.template) (hflaw : pathFlaw? inner = some flaw) :
    .badPath d.name inner flaw ∈ (ofDefinitions ds).problems := by
  have hpath := mem_pathProblems.mpr ⟨inner, flaw, hinner, hflaw, rfl⟩
  exact mem_problems.mpr ⟨d, hd, mem_problems_singleton.mpr (.inl hpath)⟩

-- A placeholder that is not reported reads as a path with a name in each of its steps.
theorem reported_or_hasPaths (hd : d ∈ ds) :
    (∃ inner flaw, .placeholder inner ∈ tokenize d.template ∧
      .badPath d.name inner flaw ∈ (ofDefinitions ds).problems) ∨ d.HasPaths := by
  by_cases hflawed : ∃ inner flaw, .placeholder inner ∈ tokenize d.template ∧
      pathFlaw? inner = some flaw
  · obtain ⟨inner, flaw, hinner, hflaw⟩ := hflawed
    exact .inl ⟨inner, flaw, hinner, badPath_of_mem hd hinner hflaw⟩
  · refine .inr fun inner hinner => pathFlaw?_eq_none_iff.mp ?_
    cases hflaw : pathFlaw? inner with
    | some flaw => exact absurd ⟨inner, flaw, hinner, hflaw⟩ hflawed
    | none => rfl

-- Braces that are opened are reported if and only if nothing closes them on their line. Braces that
-- are opened a second time before that may be closed as a part of the placeholder around them, and
-- then nothing is reported only where all placeholders read as paths.
theorem unterminated_reported (hd : d ∈ ds) :
    (.unterminated d.name d.template ∈ (ofDefinitions ds).warnings ↔
      HasUnclosed d.template.toList) ∧
    (NeverCloses d.template.toList →
      .unterminated d.name d.template ∈ (ofDefinitions ds).warnings) ∧
    (Reopens d.template.toList →
      .unterminated d.name d.template ∈ (ofDefinitions ds).warnings ∨
      (∃ inner flaw, .placeholder inner ∈ tokenize d.template ∧
        .badPath d.name inner flaw ∈ (ofDefinitions ds).problems) ∨
      d.HasPaths ∧ ∃ inner, .placeholder inner ∈ tokenize d.template ∧
        ['{', '{'] <:+: inner.toList) := by
  have hwarned := unterminated_iff hd
  refine ⟨hwarned, ?_, ?_⟩
  · intro hnever
    exact hwarned.mpr hnever.hasUnclosed
  · intro hreopens
    refine (exists_of_reopens hreopens).imp hwarned.mpr ?_
    intro hinner
    exact (reported_or_hasPaths hd).imp_right fun hpaths => ⟨hpaths, hinner⟩

-- A placeholder around braces, with an index that is no number.
def doubledTemplate : String := "\x7b\x7ba\x7b\x7bb[x]\x7d\x7d"

def openDefinitions : List Definition :=
  [⟨"Offen", "{{blatt}} \x7b\x7btitel", []⟩, ⟨"Doppelt", doubledTemplate, []⟩]

theorem unterminated_reported_openDefinitions :
    .unterminated "Offen" "{{blatt}} \x7b\x7btitel" ∈ (ofDefinitions openDefinitions).warnings ∧
      (.unterminated "Doppelt" doubledTemplate ∈ (ofDefinitions openDefinitions).warnings ∨
        (∃ inner flaw, .placeholder inner ∈ tokenize doubledTemplate ∧
          .badPath "Doppelt" inner flaw ∈ (ofDefinitions openDefinitions).problems) ∨
        Definition.HasPaths ⟨"Doppelt", doubledTemplate, []⟩ ∧
          ∃ inner, .placeholder inner ∈ tokenize doubledTemplate ∧
            ['{', '{'] <:+: inner.toList) := by
  refine ⟨?_, ?_⟩
  · have hnever : NeverCloses "{{blatt}} \x7b\x7btitel".toList :=
      ⟨"{{blatt}} ".toList, "titel".toList, rfl, by decide⟩
    have hmem : ⟨"Offen", "{{blatt}} \x7b\x7btitel", []⟩ ∈ openDefinitions := List.mem_cons_self
    exact (unterminated_reported hmem).2.1 hnever
  · have hreopens : Reopens doubledTemplate.toList :=
      ⟨[], ['a'], "b[x]\x7d\x7d".toList, rfl, by decide⟩
    have hmem : ⟨"Doppelt", doubledTemplate, []⟩ ∈ openDefinitions := by simp [openDefinitions]
    exact (unterminated_reported hmem).2.2 hreopens

-- Braces are taken as part of a name where the name stands in a placeholder of its own.
theorem not_reported_of_reopens :
    ¬∀ (ds : List Definition) (d : Definition), d ∈ ds → Text.isBlankText d.template = false →
      Reopens d.template.toList ∨ NeverCloses d.template.toList →
        (ofDefinitions ds).warnings ≠ [] ∨ (ofDefinitions ds).problems ≠ [] := by
  intro h
  have hreopens : Reopens "\x7b\x7ba\x7b\x7bb\x7d\x7d".toList :=
    ⟨[], ['a'], ['b', '}', '}'], rfl, by decide⟩
  have hempty : ofDefinitions [⟨"X", "\x7b\x7ba\x7b\x7bb\x7d\x7d", []⟩] = {} := by
    decide +kernel
  have hreported := h [⟨"X", "\x7b\x7ba\x7b\x7bb\x7d\x7d", []⟩] _ List.mem_cons_self
    (by decide) (.inl hreopens)
  rw [hempty] at hreported
  simp at hreported

end Inspection

end PropertyTemplates
