import PropertyTemplates.Configuration.Inspection
import PropertyTemplates.Proofs.Except

namespace PropertyTemplates

theorem mem_of_firstBest {α : Type} {rank : α → Option Nat} {xs : List α} {best : α}
    (h : firstBest rank xs = some best) : best ∈ xs := by
  induction xs with
  | nil => simp [firstBest] at h
  | cons x xs ih =>
      unfold firstBest at h
      split at h
      · exact List.mem_cons_of_mem _ (ih h)
      · split at h
        · cases h
          exact List.mem_cons_self
        · rename_i later hl
          split at h
          · cases h
            exact List.mem_cons_of_mem _ (ih hl)
          · cases h
            exact List.mem_cons_self

theorem Configuration.mem_of_sectionFor {c : Configuration} {project step : String} {s : Section}
    (h : c.sectionFor project step = .ok s) : s ∈ c.sections := by
  unfold Configuration.sectionFor at h
  split at h
  · rename_i best hb
    cases h
    exact mem_of_firstBest hb
  · cases h

namespace Definition

variable {property : String} {position : Nat} {rules : List Rule} {b : BadRule} {r : Rule}
  {compiled : CompiledRule} {cause : RuleError}

-- All rules that cannot be read, with their positions and in their order.
def badRulesFrom (property : String) (position : Nat) (rules : List Rule) : List BadRule :=
  (rules.zipIdx position).filterMap fun (r, i) =>
    match r.compile with
    | .error cause => some ⟨property, i, cause⟩
    | .ok _ => none

theorem badRulesFrom_cons_of_ok (h : r.compile = .ok compiled) :
    badRulesFrom property position (r :: rules) = badRulesFrom property (position + 1) rules := by
  simp [badRulesFrom, List.zipIdx_cons, h]

theorem badRulesFrom_cons_of_error (h : r.compile = .error cause) :
    badRulesFrom property position (r :: rules) =
      ⟨property, position, cause⟩ :: badRulesFrom property (position + 1) rules := by
  simp [badRulesFrom, List.zipIdx_cons, h]

-- A rule that cannot be read is among them wherever it stands, and nothing else is.
theorem mem_badRulesFrom :
    b ∈ badRulesFrom property position rules ↔
      ∃ (i : Nat) (r : Rule) (cause : RuleError), rules[i]? = some r ∧ r.compile = .error cause ∧
        b = ⟨property, position + i, cause⟩ := by
  unfold badRulesFrom
  rw [List.mem_filterMap]
  constructor
  · rintro ⟨⟨r, j⟩, hmem, hb⟩
    obtain ⟨hle, hget⟩ := List.mk_mem_zipIdx_iff_le_and_getElem?_sub.mp hmem
    cases hc : r.compile with
    | ok compiled => simp [hc] at hb
    | error cause =>
        simp only [hc, Option.some.injEq] at hb
        exact ⟨j - position, r, cause, hget, hc, by rw [Nat.add_sub_cancel' hle, hb]⟩
  · rintro ⟨i, r, cause, hget, hc, rfl⟩
    refine ⟨(r, position + i), ?_, by simp [hc]⟩
    rw [List.mk_mem_zipIdx_iff_le_and_getElem?_sub, Nat.add_sub_cancel_left]
    exact ⟨Nat.le_add_right position i, hget⟩

end Definition

namespace Inspection

theorem pathFlaw?_eq_emptyAccessor_iff {p : String} :
    pathFlaw? p = some .emptyAccessor ↔
      ∃ path, Path.parse p = .ok path ∧ ∃ s ∈ path.segments, s.accessor = "" := by
  unfold pathFlaw?
  cases Path.parse p with
  | error cause => simp
  | ok path => simp

theorem pathFlaw?_eq_none_iff {p : String} :
    pathFlaw? p = none ↔ ∃ path, Path.parse p = .ok path ∧ ∀ s ∈ path.segments, s.accessor ≠ "" := by
  unfold pathFlaw?
  cases Path.parse p with
  | error cause => simp
  | ok path => simp

theorem mem_pathProblems {d : Definition} {problem : Problem} :
    problem ∈ pathProblems d ↔ ∃ inner flaw, .placeholder inner ∈ tokenize d.template ∧
      pathFlaw? inner = some flaw ∧ problem = .badPath d.name inner flaw := by
  simp only [pathProblems, List.mem_filterMap]
  constructor
  · rintro ⟨t, ht, hp⟩
    cases t with
    | literal text => cases hp
    | placeholder inner =>
        obtain ⟨flaw, hf, he⟩ := Option.map_eq_some_iff.mp hp
        exact ⟨inner, flaw, ht, hf, he.symm⟩
  · rintro ⟨inner, flaw, ht, hf, rfl⟩
    exact ⟨.placeholder inner, ht, by simp [hf]⟩

theorem ruleProblems_eq_map (property : String) (position : Nat) (rules : List Rule) :
    ruleProblems property position rules =
      (Definition.badRulesFrom property position rules).map .badRule := by
  induction rules generalizing position with
  | nil => rfl
  | cons r rules ih =>
      rw [ruleProblems]
      cases hc : r.compile with
      | error cause => simp [Definition.badRulesFrom_cons_of_error hc, ih]
      | ok compiled => simp [Definition.badRulesFrom_cons_of_ok hc, ih]

theorem mem_ruleProblems {property : String} {position : Nat} {rules : List Rule}
    {problem : Problem} :
    problem ∈ ruleProblems property position rules ↔
      ∃ (i : Nat) (r : Rule) (cause : RuleError), rules[i]? = some r ∧ r.compile = .error cause ∧
        problem = .badRule ⟨property, position + i, cause⟩ := by
  rw [ruleProblems_eq_map, List.mem_map]
  simp only [Definition.mem_badRulesFrom]
  constructor
  · rintro ⟨b, ⟨i, r, cause, hget, hc, rfl⟩, rfl⟩
    exact ⟨i, r, cause, hget, hc, rfl⟩
  · rintro ⟨i, r, cause, hget, hc, rfl⟩
    exact ⟨_, ⟨i, r, cause, hget, hc, rfl⟩, rfl⟩

theorem mem_problems {ds : List Definition} {problem : Problem} :
    problem ∈ (ofDefinitions ds).problems ↔
      ∃ d ∈ ds, problem ∈ (ofDefinitions [d]).problems := by
  simp [ofDefinitions]

-- Sections are inspected one by one, and every problem is one of a single definition.
theorem mem_problems_of_ofSections {sections : List Section} {i : Inspection}
    (h : ofSections sections = .ok i) :
    (∀ s ∈ sections, ∃ ds, s.definitions = .ok ds) ∧
      ∀ problem, problem ∈ i.problems ↔ ∃ s ∈ sections, ∃ ds, s.definitions = .ok ds ∧
        ∃ d ∈ ds, problem ∈ (ofDefinitions [d]).problems := by
  induction sections generalizing i with
  | nil =>
      cases h
      simp
  | cons s rest ih =>
      obtain ⟨ds, hds, h⟩ := Except.bind_eq_ok.mp h
      obtain ⟨j, hj, h⟩ := Except.bind_eq_ok.mp h
      cases h
      obtain ⟨hall, hmem⟩ := ih hj
      refine ⟨?_, fun problem => ?_⟩
      · intro t ht
        rcases List.mem_cons.mp ht with rfl | ht
        · exact ⟨ds, hds⟩
        · exact hall t ht
      · have happend : ((ofDefinitions ds).append j).problems =
            (ofDefinitions ds).problems ++ j.problems := rfl
        have hhead : problem ∈ (ofDefinitions ds).problems ↔ ∃ es, s.definitions = .ok es ∧
            ∃ d ∈ es, problem ∈ (ofDefinitions [d]).problems := by
          rw [mem_problems]
          simp [hds]
        rw [happend, List.mem_append, hhead, hmem]
        simp only [List.mem_cons, or_and_right, exists_or, exists_eq_left]

end Inspection

end PropertyTemplates
