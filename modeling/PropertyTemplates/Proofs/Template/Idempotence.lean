import PropertyTemplates.Proofs.Template.NormalForm

namespace PropertyTemplates

variable {root : Object} {bound : Nat} {replacer : String → String} {template value : String}

theorem expand_nil_eq_ok_iff :
    expand root bound replacer [] template = .ok value ↔
      ∃ resolved, resolvePlaceholders root bound template = .ok resolved ∧
        replacer resolved = value := by
  unfold expand
  simp only [Except.bind_eq_ok, Except.mapError_eq_ok, Rule.applyAll, Except.ok.injEq]

theorem expand_nil_of_not_holds (h : ¬HoldsPlaceholder template) :
    expand root bound replacer [] template = .ok (replacer template) := by
  rw [expand_of_not_holds root bound replacer [] h]
  rfl

-- The replacer sees no placeholder, but it may put one in, and expanding again looks that one up.
theorem not_idempotent_of_missing :
    ¬∀ (root : Object) (replacer : String → String) (template : String),
      (∀ text, replacer (replacer text) = replacer text) → ¬HoldsPlaceholder template →
        ∀ value, expand root defaultRounds replacer [] template = .ok value →
          expand root defaultRounds replacer [] value = .ok value := by
  intro h
  have hplain : ¬HoldsPlaceholder "Maps" := by decide +kernel
  have hagain := h (.table []) (fun _ => "{{missing}}") "Maps" (fun _ => rfl) hplain _
    (expand_nil_of_not_holds hplain)
  have hfails : (expand (.table []) defaultRounds (fun _ => "{{missing}}") []
      "{{missing}}").toOption = none := by decide +kernel
  rw [hagain] at hfails
  cases hfails

-- A template without placeholders yields a value that stays the same when it is expanded again,
-- unless the value has placeholders of its own. It then stays the same exactly where the replacer
-- makes it again of what they lead to.
theorem expand_again (root : Object) (bound : Nat)
    (hreplacer : ∀ text, replacer (replacer text) = replacer text)
    (htemplate : ¬HoldsPlaceholder template) :
    ∃ value, expand root bound replacer [] template = .ok value ∧
      (¬HoldsPlaceholder value → expand root bound replacer [] value = .ok value) ∧
        (expand root bound replacer [] value = .ok value ↔
          ∃ resolved, resolvePlaceholders root bound value = .ok resolved ∧
            replacer resolved = value) := by
  refine ⟨replacer template, expand_nil_of_not_holds htemplate, ?_, expand_nil_eq_ok_iff⟩
  intro hvalue
  rw [expand_nil_of_not_holds hvalue, hreplacer]

-- A value of digits, and a value with a placeholder that is put in again for what it leads to.
theorem expand_again_catalogue :
    (¬HoldsPlaceholder "{meta.CatalogIDDigital}" ∧
      expand openTable defaultRounds (fun _ => "12345678") [] "{meta.CatalogIDDigital}" =
          .ok "12345678" ∧
        expand openTable defaultRounds (fun _ => "12345678") [] "12345678" = .ok "12345678") ∧
      ¬HoldsPlaceholder "Maps" ∧
        expand openTable defaultRounds (fun _ => "{{titel}}") [] "Maps" = .ok "{{titel}}" ∧
          expand openTable defaultRounds (fun _ => "{{titel}}") [] "{{titel}}" =
            .ok "{{titel}}" := by
  have hcatalogue : ¬HoldsPlaceholder "{meta.CatalogIDDigital}" := by decide +kernel
  have hdigits : ¬HoldsPlaceholder "12345678" := by decide +kernel
  have hmaps : ¬HoldsPlaceholder "Maps" := by decide +kernel
  have hresolve : resolvePlaceholders openTable defaultRounds "{{titel}}" =
      .ok "Maps \x7d\x7d" := Except.toOption_eq_some.mp (by decide +kernel)
  obtain ⟨digits, hfirst, hsame, -⟩ :=
    @expand_again (fun _ => "12345678") _ openTable defaultRounds (fun _ => rfl) hcatalogue
  obtain ⟨titel, hfirst', -, hsame'⟩ :=
    @expand_again (fun _ => "{{titel}}") _ openTable defaultRounds (fun _ => rfl) hmaps
  obtain rfl : "12345678" = digits :=
    Except.ok.inj ((expand_nil_of_not_holds hcatalogue).symm.trans hfirst)
  obtain rfl : "{{titel}}" = titel :=
    Except.ok.inj ((expand_nil_of_not_holds hmaps).symm.trans hfirst')
  exact ⟨⟨hcatalogue, hfirst, hsame hdigits⟩, hmaps, hfirst', hsame'.mpr ⟨_, hresolve, rfl⟩⟩

end PropertyTemplates
