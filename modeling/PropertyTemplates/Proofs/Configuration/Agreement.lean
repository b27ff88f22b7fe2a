import PropertyTemplates.Proofs.Configuration.Inspection
import PropertyTemplates.Proofs.Path.Evaluation
import PropertyTemplates.Proofs.Rule.Application
import PropertyTemplates.Proofs.Template.Attribution

namespace PropertyTemplates

theorem Definition.generate_eq_error {d : Definition} {root : Object} {replacer : String → String}
    {e : ExpansionError} :
    d.generate root replacer = .error e ↔
      (∃ cause, resolvePlaceholders root defaultRounds d.template = .error cause ∧
        .placeholder cause = e) ∨
      ∃ text, resolvePlaceholders root defaultRounds d.template = .ok text ∧
        ∃ cause, Rule.applyAll d.rules (replacer text) = .error cause ∧ .rule cause = e := by
  unfold Definition.generate expand
  rw [Except.bind_eq_error, Except.mapError_eq_error]
  simp only [Except.mapError_eq_ok, Except.mapError_eq_error]

-- A malformed path fails in the first round, unless another placeholder fails before it.
theorem resolvePlaceholders_fails {root : Object} {template p piece : String}
    (hp : .placeholder p ∈ tokenize template)
    (hparse : Path.parse p = .error (.malformedIndex piece)) :
    ∃ e, resolvePlaceholders root defaultRounds template = .error e := by
  have hsub : substitute root p = .error (.unresolved p (.malformedIndex piece)) :=
    substitute_eq_error.mpr (.inl (resolve_eq_error.mpr
      ⟨_, (root.evaluate_malformed_iff p piece).mpr hparse, rfl⟩))
  obtain ⟨e, hround⟩ := Token.fill_fails hp hsub
  have hhas : hasPlaceholders template = true := (hasPlaceholders_iff template).mpr ⟨p, hp⟩
  refine ⟨e, ?_⟩
  change resolveRounds root 16 template = .error e
  unfold resolveRounds
  rw [if_pos hhas, substituteRound_eq_fill, hround]
  rfl

namespace Definition

-- Whatever the root and the replacer are, a definition does not fail at a rule that cannot be read,
-- or at an index that its own template spells wrongly. A value put in may still bring such an index.
structure Sound (d : Definition) : Prop where
  rules : ∀ root replacer cause, d.generate root replacer ≠ .error (.rule cause)
  paths : ∀ root replacer p piece, .placeholder p ∈ tokenize d.template →
    d.generate root replacer ≠ .error (.placeholder (.unresolved p (.malformedIndex piece)))

def Doomed (d : Definition) : Prop :=
  ∀ root replacer, ∃ e, d.generate root replacer = .error e

variable {d : Definition}

theorem generate_ne_rule (h : ∀ r ∈ d.rules, ∃ compiled, r.compile = .ok compiled) (root : Object)
    (replacer : String → String) (cause : RuleError) :
    d.generate root replacer ≠ .error (.rule cause) := by
  intro he
  rcases generate_eq_error.mp he with ⟨_, _, he⟩ | ⟨text, _, cause', happly, _⟩
  · cases he
  · obtain ⟨out, hout⟩ := (Rule.applyAll_isOk_iff d.rules (replacer text)).mpr h
    rw [hout] at happly
    cases happly

theorem generate_ne_malformed {p : String} {path : Path} (h : Path.parse p = .ok path)
    (root : Object) (replacer : String → String) (piece : String) :
    d.generate root replacer ≠ .error (.placeholder (.unresolved p (.malformedIndex piece))) := by
  intro he
  rcases generate_eq_error.mp he with ⟨cause, hcause, he⟩ | ⟨_, _, _, _, he⟩
  · cases he
    have hroot := evaluate_of_resolveRounds hcause
    rw [Object.evaluate_malformed_iff, h] at hroot
    cases hroot
  · cases he

theorem doomed_of_rule {r : Rule} {cause : RuleError} (hr : r ∈ d.rules)
    (hcause : r.compile = .error cause) : d.Doomed := by
  intro root replacer
  cases hg : d.generate root replacer with
  | error e => exact ⟨e, rfl⟩
  | ok out =>
      obtain ⟨text, _, hall⟩ := Except.bind_eq_ok.mp hg
      have happly := (Rule.applyAll_isOk_iff d.rules _).mp ⟨out, Except.mapError_eq_ok.mp hall⟩
      obtain ⟨compiled, hok⟩ := happly r hr
      rw [hcause] at hok
      cases hok

theorem doomed_of_path {p piece : String} (hp : .placeholder p ∈ tokenize d.template)
    (hparse : Path.parse p = .error (.malformedIndex piece)) : d.Doomed := by
  intro root replacer
  obtain ⟨e, he⟩ := resolvePlaceholders_fails hp hparse
  exact ⟨_, generate_eq_error.mpr (.inl ⟨e, he, rfl⟩)⟩

end Definition

-- The problems that no root makes good. An accessor without a name is not among them: a table may
-- have a key without a letter.
def Problem.IsFatal : Problem → Prop
  | .badPath _ _ (.unreadable _) => True
  | .badPath _ _ .emptyAccessor => False
  | .badRule _ => True

namespace Inspection

theorem mem_problems_singleton {d : Definition} {problem : Problem} :
    problem ∈ (ofDefinitions [d]).problems ↔
      problem ∈ pathProblems d ∨ problem ∈ ruleProblems d.name 0 d.rules := by
  simp [ofDefinitions]

theorem compile_of_no_problems {d : Definition} (h : (ofDefinitions [d]).problems = []) :
    ∀ r ∈ d.rules, ∃ compiled, r.compile = .ok compiled := by
  intro r hr
  cases hc : r.compile with
  | ok compiled => exact ⟨compiled, rfl⟩
  | error cause =>
      obtain ⟨i, hi⟩ := List.mem_iff_getElem?.mp hr
      have hmem : Problem.badRule ⟨d.name, 0 + i, cause⟩ ∈ (ofDefinitions [d]).problems :=
        mem_problems_singleton.mpr (.inr (mem_ruleProblems.mpr ⟨i, r, cause, hi, hc, rfl⟩))
      rw [h] at hmem
      exact absurd hmem List.not_mem_nil

theorem parse_of_no_problems {d : Definition} (h : (ofDefinitions [d]).problems = []) {p : String}
    (hp : .placeholder p ∈ tokenize d.template) : ∃ path, Path.parse p = .ok path := by
  cases hc : Path.parse p with
  | ok path => exact ⟨path, rfl⟩
  | error cause =>
      have hflaw : pathFlaw? p = some (.unreadable cause) := by simp [pathFlaw?, hc]
      have hmem : Problem.badPath d.name p (.unreadable cause) ∈ (ofDefinitions [d]).problems :=
        mem_problems_singleton.mpr (.inl (mem_pathProblems.mpr ⟨p, _, hp, hflaw, rfl⟩))
      rw [h] at hmem
      exact absurd hmem List.not_mem_nil

theorem sound_of_no_problems {d : Definition} (h : (ofDefinitions [d]).problems = []) :
    d.Sound where
  rules := Definition.generate_ne_rule (compile_of_no_problems h)
  paths := fun root replacer p piece hp => by
    obtain ⟨path, hpath⟩ := parse_of_no_problems h hp
    exact Definition.generate_ne_malformed hpath root replacer piece

theorem parse_of_pathFlaw? {p : String} {cause : PathError}
    (h : pathFlaw? p = some (.unreadable cause)) : Path.parse p = .error cause := by
  unfold pathFlaw? at h
  split at h
  · rename_i e he
    cases h
    exact he
  · split at h <;> cases h

theorem doomed_of_problem {d : Definition} {problem : Problem}
    (h : problem ∈ (ofDefinitions [d]).problems) (hfatal : problem.IsFatal) : d.Doomed := by
  rcases mem_problems_singleton.mp h with h | h
  · obtain ⟨p, flaw, hp, hflaw, rfl⟩ := mem_pathProblems.mp h
    cases flaw with
    | emptyAccessor => exact hfatal.elim
    | unreadable cause =>
        have hparse := parse_of_pathFlaw? hflaw
        obtain ⟨piece, rfl⟩ := Path.malformed_of_parse hparse
        exact Definition.doomed_of_path hp hparse
  · obtain ⟨i, r, cause, hi, hc, rfl⟩ := mem_ruleProblems.mp h
    exact Definition.doomed_of_rule (List.mem_of_getElem? hi) hc

-- What an inspection says about the definitions of a configuration, root or no root.
structure Agrees (c : Configuration) (i : Inspection) : Prop where
  -- Without problems, the section that is chosen has definitions, and they are sound.
  sound : i.problems = [] → ∀ project step s, c.sectionFor project step = .ok s →
    ∃ ds, s.definitions = .ok ds ∧ ∀ d ∈ ds, d.Sound
  -- Every problem is the problem of a definition.
  located : ∀ problem ∈ i.problems, ∃ s ∈ c.sections, ∃ ds, s.definitions = .ok ds ∧
    ∃ d ∈ ds, problem ∈ (ofDefinitions [d]).problems
  -- Every problem of a definition is reported, and a fatal one dooms it.
  doomed : ∀ s ∈ c.sections, ∀ ds, s.definitions = .ok ds → ∀ d ∈ ds,
    ∀ problem ∈ (ofDefinitions [d]).problems, problem ∈ i.problems ∧ (problem.IsFatal → d.Doomed)

end Inspection

-- A configuration of one section that applies everywhere.
def Configuration.anywhere (entries : List Entry) : Configuration :=
  ⟨[⟨[wildcard], [wildcard], entries⟩]⟩

-- Inspecting a configuration agrees with generating from it.
theorem Configuration.inspect_agrees {c : Configuration} {i : Inspection}
    (h : c.inspect = .ok i) : i.Agrees c := by
  obtain ⟨hall, hmem⟩ := Inspection.mem_problems_of_ofSections h
  refine ⟨?_, ?_, ?_⟩
  · intro hnone project step s hs
    have hin : s ∈ c.sections := mem_of_sectionFor hs
    obtain ⟨ds, hds⟩ := hall s hin
    refine ⟨ds, hds, fun d hd => Inspection.sound_of_no_problems ?_⟩
    rw [List.eq_nil_iff_forall_not_mem]
    intro problem hp
    have hreported : problem ∈ i.problems := (hmem problem).mpr ⟨s, hin, ds, hds, d, hd, hp⟩
    rw [hnone] at hreported
    exact absurd hreported List.not_mem_nil
  · intro problem hp
    exact (hmem problem).mp hp
  · intro s hs ds hds d hd problem hp
    exact ⟨(hmem problem).mpr ⟨s, hs, ds, hds, d, hd, hp⟩, Inspection.doomed_of_problem hp⟩

-- Nothing is wrong with the first configuration. The second has an index that is not a number, and
-- a group that is not closed.
theorem Configuration.inspect_agrees_ort :
    let readable := anywhere [⟨some "Ort", some "{{schritte[0].titel}}", [⟨"a+", "b"⟩]⟩]
    let flawed := anywhere [⟨some "Ort", some "{{schritte[x].titel}}", []⟩,
      ⟨some "Datum", some "(date)", [⟨"(", ""⟩]⟩]
    (readable.inspect = .ok ⟨[], []⟩ ∧ Inspection.Agrees readable ⟨[], []⟩) ∧
      ∃ i, flawed.inspect = .ok i ∧ i.Agrees flawed ∧ i.problems =
        [.badPath "Ort" "schritte[x].titel" (.unreadable (.malformedIndex "schritte[x]")),
          .badRule ⟨"Datum", 0, .badPattern "(" .unclosedGroup⟩] := by
  intro readable flawed
  have hreadable : readable.inspect = .ok ⟨[], []⟩ :=
    Except.toOption_eq_some.mp (by decide +kernel)
  have hflawed : flawed.inspect = .ok
      ⟨[.badPath "Ort" "schritte[x].titel" (.unreadable (.malformedIndex "schritte[x]")),
        .badRule ⟨"Datum", 0, .badPattern "(" .unclosedGroup⟩], []⟩ :=
    Except.toOption_eq_some.mp (by decide +kernel)
  exact ⟨⟨hreadable, inspect_agrees hreadable⟩, _, hflawed, inspect_agrees hflawed, rfl⟩

end PropertyTemplates
