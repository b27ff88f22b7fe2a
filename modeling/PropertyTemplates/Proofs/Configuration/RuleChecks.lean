import PropertyTemplates.Proofs.Configuration.Inspection
import PropertyTemplates.Proofs.Rule.Application
import Mathlib.Tactic.TFAE

namespace PropertyTemplates

namespace Definition

variable {property text : String} {position : Nat} {rules : List Rule} {b : BadRule} {r : Rule}
  {compiled : CompiledRule} {cause e : RuleError}

theorem checkRulesFrom_eq_ok_iff :
    checkRulesFrom property position rules = .ok () ↔
      ∀ r ∈ rules, ∃ compiled, r.compile = .ok compiled := by
  induction rules generalizing position with
  | nil => simp [checkRulesFrom]
  | cons r rules ih =>
      rw [checkRulesFrom, List.forall_mem_cons]
      cases hc : r.compile with
      | error cause => simp
      | ok compiled => simp [ih]

-- The first rule that cannot be read, with the rules before it.
def IsFirstBad (property : String) (position : Nat) (rules : List Rule) (b : BadRule) : Prop :=
  ∃ before r after, rules = before ++ r :: after ∧
    (∀ s ∈ before, ∃ compiled, s.compile = .ok compiled) ∧ r.compile = .error b.cause ∧
      b.property = property ∧ b.position = position + before.length

theorem isFirstBad_cons_of_ok (h : r.compile = .ok compiled) :
    IsFirstBad property position (r :: rules) b ↔ IsFirstBad property (position + 1) rules b := by
  constructor
  · rintro ⟨before, s, after, he, hbefore, hs, hproperty, hposition⟩
    cases before with
    | nil =>
        cases he
        rw [h] at hs
        cases hs
    | cons q before =>
        cases he
        refine ⟨before, s, after, rfl, (List.forall_mem_cons.mp hbefore).2, hs, hproperty, ?_⟩
        rw [hposition, List.length_cons]
        omega
  · rintro ⟨before, s, after, rfl, hbefore, hs, hproperty, hposition⟩
    refine ⟨r :: before, s, after, rfl, ?_, hs, hproperty, ?_⟩
    · exact List.forall_mem_cons.mpr ⟨⟨compiled, h⟩, hbefore⟩
    · rw [hposition, List.length_cons]
      omega

theorem isFirstBad_cons_of_error (h : r.compile = .error cause) :
    IsFirstBad property position (r :: rules) b ↔ b = ⟨property, position, cause⟩ := by
  constructor
  · rintro ⟨before, s, after, he, hbefore, hs, hproperty, hposition⟩
    cases before with
    | nil =>
        cases he
        rw [h] at hs
        cases hs
        cases b
        simp_all
    | cons q before =>
        cases he
        obtain ⟨compiled, hq⟩ := (List.forall_mem_cons.mp hbefore).1
        rw [h] at hq
        cases hq
  · rintro rfl
    exact ⟨[], r, rules, rfl, by simp, h, rfl, rfl⟩

theorem checkRulesFrom_eq_error_iff :
    checkRulesFrom property position rules = .error b ↔ IsFirstBad property position rules b := by
  induction rules generalizing position with
  | nil => simp [checkRulesFrom, IsFirstBad]
  | cons r rules ih =>
      rw [checkRulesFrom]
      cases hc : r.compile with
      | error cause => simp [isFirstBad_cons_of_error hc, eq_comm]
      | ok compiled => simp [isFirstBad_cons_of_ok hc, ih]

-- Which rule fails first does not depend on the text that the rules before it have made.
theorem applyAll_eq_error_iff :
    Rule.applyAll rules text = .error e ↔
      ∃ b, checkRulesFrom property position rules = .error b ∧ b.cause = e := by
  induction rules generalizing position text with
  | nil => simp [Rule.applyAll, checkRulesFrom]
  | cons r rules ih =>
      rw [Rule.applyAll, checkRulesFrom]
      cases hc : r.compile with
      | error cause => simp [Rule.apply_eq_error.mpr hc]
      | ok compiled =>
          have happly : r.apply text = .ok (compiled.apply text) :=
            Rule.apply_eq_ok.mpr ⟨compiled, hc, rfl⟩
          rw [happly, Except.ok_bind]
          exact ih

theorem head?_badRulesFrom :
    (badRulesFrom property position rules).head? = some b ↔
      checkRulesFrom property position rules = .error b := by
  induction rules generalizing position with
  | nil => simp [badRulesFrom, checkRulesFrom]
  | cons r rules ih =>
      rw [checkRulesFrom]
      cases hc : r.compile with
      | error cause => simp [badRulesFrom_cons_of_error hc]
      | ok compiled =>
          rw [badRulesFrom_cons_of_ok hc]
          exact ih

def badRules (d : Definition) : List BadRule := badRulesFrom d.name 0 d.rules

end Definition

namespace Inspection

-- The rules that cannot be read, among all problems found.
def badRules (i : Inspection) : List BadRule :=
  i.problems.filterMap fun
    | .badRule rule => some rule
    | .badPath .. => none

theorem badRules_ofDefinitions (ds : List Definition) :
    (ofDefinitions ds).badRules = ds.flatMap Definition.badRules := by
  unfold badRules ofDefinitions
  rw [List.filterMap_flatMap]
  congr 1
  funext d
  have hpaths : (pathProblems d).filterMap (fun
      | .badRule rule => some rule
      | .badPath .. => none) = [] := by
    rw [List.filterMap_eq_nil_iff]
    intro problem hproblem
    obtain ⟨inner, flaw, -, -, rfl⟩ := mem_pathProblems.mp hproblem
    rfl
  rw [List.filterMap_append, hpaths, List.nil_append, ruleProblems_eq_map, List.filterMap_map]
  exact List.filterMap_some

end Inspection

namespace Definition

-- What is said about the rules of a definition: when they are checked, when they are applied, and
-- when the definition is inspected.
structure RulesAgree (d : Definition) : Prop where
  verdict : [d.checkRules = .ok (), ∀ text, ∃ out, Rule.applyAll d.rules text = .ok out,
    ∃ text out, Rule.applyAll d.rules text = .ok out].TFAE
  checked : ∀ b, d.checkRules = .error b ↔ IsFirstBad d.name 0 d.rules b
  applied : ∀ text e, Rule.applyAll d.rules text = .error e ↔
    ∃ b, d.checkRules = .error b ∧ b.cause = e
  -- Wherever the definition stands, its bad rules are reported, and no other ones for it.
  inspected : ∀ before after, (Inspection.ofDefinitions (before ++ d :: after)).badRules =
    (Inspection.ofDefinitions before).badRules ++ d.badRules ++
      (Inspection.ofDefinitions after).badRules
  head : ∀ b, d.badRules.head? = some b ↔ d.checkRules = .error b

-- Checking, applying and inspecting agree on the rules that cannot be read, whatever the text is.
theorem checkRules_agrees (d : Definition) : d.RulesAgree where
  verdict := by
    have hcheck : d.checkRules = .ok () ↔ ∀ r ∈ d.rules, ∃ compiled, r.compile = .ok compiled :=
      checkRulesFrom_eq_ok_iff
    tfae_have 1 → 2 := by
      intro h text
      exact (Rule.applyAll_isOk_iff d.rules text).mpr (hcheck.mp h)
    tfae_have 2 → 3 := fun h => ⟨"", h ""⟩
    tfae_have 3 → 1 := by
      rintro ⟨text, hout⟩
      exact hcheck.mpr ((Rule.applyAll_isOk_iff d.rules text).mp hout)
    tfae_finish
  checked := fun _ => checkRulesFrom_eq_error_iff
  applied := fun _ _ => applyAll_eq_error_iff
  inspected := by
    intro before after
    simp only [Inspection.badRules_ofDefinitions, List.flatMap_append, List.flatMap_cons,
      List.append_assoc]
  head := fun _ => head?_badRulesFrom

end Definition

end PropertyTemplates
