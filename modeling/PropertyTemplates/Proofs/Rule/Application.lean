import PropertyTemplates.Proofs.Except
import PropertyTemplates.Rule.Basic

namespace PropertyTemplates.Rule

-- A rule that can be read can be applied to every text.
theorem apply_eq_ok {r : Rule} {text out : String} :
    r.apply text = .ok out ↔ ∃ compiled, r.compile = .ok compiled ∧ compiled.apply text = out := by
  unfold Rule.apply
  rw [Except.bind_eq_ok]
  simp

theorem apply_eq_error {r : Rule} {text : String} {e : RuleError} :
    r.apply text = .error e ↔ r.compile = .error e := by
  unfold Rule.apply
  rw [Except.bind_eq_error]
  simp

theorem applyAll_isOk_iff (rules : List Rule) (text : String) :
    (∃ out, applyAll rules text = .ok out) ↔ ∀ r ∈ rules, ∃ compiled, r.compile = .ok compiled := by
  induction rules generalizing text with
  | nil => simp [applyAll]
  | cons r rules ih =>
      rw [List.forall_mem_cons]
      cases hc : r.compile with
      | error e => simp [applyAll, apply_eq_error.mpr hc]
      | ok compiled =>
          have ha : r.apply text = .ok (compiled.apply text) := apply_eq_ok.mpr ⟨compiled, hc, rfl⟩
          simp only [applyAll, ha, Except.ok_bind, ih]
          simp

end PropertyTemplates.Rule
