import PropertyTemplates.Proofs.Template.NormalForm

namespace PropertyTemplates

-- What so many rounds make of a text that holds a placeholder before each of them.
inductive AfterRounds (root : Object) : Nat → String → String → Prop where
  | start (text : String) : AfterRounds root 0 text text
  | round {rounds : Nat} {text next last : String} (hholds : HoldsPlaceholder text)
      (hround : substituteRound root text = .ok next) (h : AfterRounds root rounds next last) :
      AfterRounds root (rounds + 1) text last

variable {root : Object} {rounds : Nat} {text next last placeholder : String}

theorem AfterRounds.resolveRounds_add (h : AfterRounds root rounds text last) (more : Nat) :
    resolveRounds root (rounds + more) text = resolveRounds root more last := by
  induction h with
  | start text => rw [Nat.zero_add]
  | round hholds hround _ ih =>
      rw [Nat.succ_add, resolveRounds_of_holds hholds, hround, Except.ok_bind]
      exact ih

theorem AfterRounds.exhausted (h : AfterRounds root rounds text last)
    (hfirst : firstPlaceholder? last = some placeholder) :
    resolveRounds root rounds text = .error (.loop placeholder) := by
  have hlast := h.resolveRounds_add 0
  rw [Nat.add_zero] at hlast
  rw [hlast, resolveRounds, hfirst]

-- Either the rounds come to an end by themselves, and then more of them change nothing, or all of
-- them are used up and a placeholder is left.
theorem settles_or_exhausted (root : Object) (rounds : Nat) (text : String) :
    (∀ more, resolveRounds root (rounds + more) text = resolveRounds root rounds text) ∨
      ∃ last placeholder, AfterRounds root rounds text last ∧
        firstPlaceholder? last = some placeholder := by
  induction rounds generalizing text with
  | zero =>
      cases hfirst : firstPlaceholder? text with
      | some placeholder => exact .inr ⟨text, placeholder, .start text, hfirst⟩
      | none =>
          have hnone := firstPlaceholder?_eq_none_iff.mp hfirst
          refine .inl fun more => ?_
          rw [resolveRounds_of_not_holds hnone, resolveRounds_of_not_holds hnone]
  | succ rounds ih =>
      by_cases hholds : HoldsPlaceholder text
      · cases hround : substituteRound root text with
        | error e =>
            refine .inl fun more => ?_
            rw [Nat.succ_add, resolveRounds_of_holds hholds, resolveRounds_of_holds hholds, hround]
            rfl
        | ok next =>
            rcases ih next with hsettles | ⟨last, placeholder, hafter, hfirst⟩
            · refine .inl fun more => ?_
              rw [Nat.succ_add, resolveRounds_of_holds hholds, resolveRounds_of_holds hholds,
                hround]
              exact hsettles more
            · exact .inr ⟨last, placeholder, .round hholds hround hafter, hfirst⟩
      · refine .inl fun more => ?_
        rw [resolveRounds_of_not_holds hholds, resolveRounds_of_not_holds hholds]

theorem resolvePlaceholders_of_pos (root : Object) {bound : Nat} (h : 1 ≤ bound)
    (template : String) :
    resolvePlaceholders root bound template = resolveRounds root bound template := by
  rw [resolvePlaceholders, Nat.max_eq_left h]

theorem resolvePlaceholders_of_le (root : Object) (template : String) {n m : Nat} (hn : 1 ≤ n)
    (hle : n ≤ m) :
    resolvePlaceholders root n template = resolvePlaceholders root m template ∨
      ∃ last placeholder, AfterRounds root n template last ∧
        firstPlaceholder? last = some placeholder ∧
        resolvePlaceholders root n template = .error (.loop placeholder) := by
  obtain ⟨more, rfl⟩ := Nat.exists_eq_add_of_le hle
  rw [resolvePlaceholders_of_pos root hn, resolvePlaceholders_of_pos root (Nat.le_trans hn hle)]
  rcases settles_or_exhausted root n template with hsettles | ⟨last, placeholder, hafter, hfirst⟩
  · exact .inl (hsettles more).symm
  · exact .inr ⟨last, placeholder, hafter, hfirst, hafter.exhausted hfirst⟩

-- The bound only ever turns a result into a loop: that of the first placeholder which is left when
-- all its rounds are used up. What comes out within a bound comes out within every greater one.
theorem resolvePlaceholders_bounded (root : Object) (template : String) :
    (∀ n m, 1 ≤ n → n ≤ m →
      resolvePlaceholders root n template = resolvePlaceholders root m template ∨
        ∃ last placeholder, AfterRounds root n template last ∧
          firstPlaceholder? last = some placeholder ∧
          resolvePlaceholders root n template = .error (.loop placeholder)) ∧
    (∀ n m resolved, 1 ≤ n → n ≤ m → resolvePlaceholders root n template = .ok resolved →
      resolvePlaceholders root m template = .ok resolved) ∧
    resolvePlaceholders root 0 template = resolvePlaceholders root 1 template := by
  refine ⟨?_, ?_, rfl⟩
  · intro n m hn hle
    exact resolvePlaceholders_of_le root template hn hle
  · intro n m resolved hn hle h
    rcases resolvePlaceholders_of_le root template hn hle with heq | ⟨_, _, _, _, hloop⟩
    · exact heq ▸ h
    · rw [h] at hloop
      cases hloop

theorem resolvePlaceholders_bounded_openTable :
    (resolvePlaceholders openTable 1 "{{open}}titel\x7d\x7d" = .error (.loop "titel") ∧
      ∃ last, AfterRounds openTable 1 "{{open}}titel\x7d\x7d" last ∧
        firstPlaceholder? last = some "titel") ∧
    ∀ m, 2 ≤ m →
      resolvePlaceholders openTable m "{{open}}titel\x7d\x7d" = .ok "Maps \x7d\x7d" := by
  have hone : resolvePlaceholders openTable 1 "{{open}}titel\x7d\x7d" = .error (.loop "titel") := by
    decide +kernel
  have htwo : resolvePlaceholders openTable 2 "{{open}}titel\x7d\x7d" = .ok "Maps \x7d\x7d" := by
    decide +kernel
  obtain ⟨hbound, hok, -⟩ := resolvePlaceholders_bounded openTable "{{open}}titel\x7d\x7d"
  refine ⟨⟨hone, ?_⟩, fun m hm => hok 2 m _ (by decide) hm htwo⟩
  rcases hbound 1 2 (by decide) (by decide) with heq | ⟨last, placeholder, hafter, hfirst, hloop⟩
  · rw [hone, htwo] at heq
    cases heq
  · cases hone.symm.trans hloop
    exact ⟨last, hafter, hfirst⟩

end PropertyTemplates
