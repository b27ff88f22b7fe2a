import PropertyTemplates.Proofs.Template.Rounds
import PropertyTemplates.Template.Expansion

namespace PropertyTemplates

namespace Token

-- Somewhere two braces are opened, and later on the same line two are closed.
def Encloses (cs : List Char) : Prop :=
  ∃ before inner after, cs = before ++ '{' :: '{' :: inner ++ '}' :: '}' :: after ∧ '\n' ∉ inner

variable {cs inner rest : List Char}

theorem eq_of_closing? (h : closing? cs = some (inner, rest)) :
    cs = inner ++ '}' :: '}' :: rest ∧ '\n' ∉ inner := by
  induction cs generalizing inner with
  | nil => simp [closing?] at h
  | cons c cs ih =>
      by_cases hc : c = '\n'
      · subst hc
        simp [closing?_newline] at h
      by_cases hb : c = '}' ∧ cs.head? = some '}'
      · obtain ⟨rfl, hd⟩ := hb
        obtain ⟨tail, rfl⟩ := List.head?_eq_some_iff.mp hd
        rw [closing?_braces] at h
        cases h
        exact ⟨rfl, List.not_mem_nil⟩
      · rw [closing?_inner hc hb] at h
        obtain ⟨⟨i, r⟩, hr, he⟩ := Option.map_eq_some_iff.mp h
        cases he
        obtain ⟨rfl, hi⟩ := ih hr
        refine ⟨rfl, ?_⟩
        simp [hi, Ne.symm hc]

-- What is closed on its line is found to be closed, there or before.
theorem closing?_isSome (rest : List Char) (h : '\n' ∉ inner) :
    (closing? (inner ++ '}' :: '}' :: rest)).isSome := by
  induction inner with
  | nil => rfl
  | cons c inner ih =>
      obtain ⟨hc, hinner⟩ : '\n' ≠ c ∧ '\n' ∉ inner := by simpa using h
      by_cases hb : c = '}' ∧ (inner ++ '}' :: '}' :: rest).head? = some '}'
      · obtain ⟨rfl, hd⟩ := hb
        obtain ⟨tail, ht⟩ := List.head?_eq_some_iff.mp hd
        rw [List.cons_append, ht, closing?_braces]
        rfl
      · rw [List.cons_append, closing?_inner (Ne.symm hc) hb, Option.isSome_map]
        exact ih hinner

theorem front?_isSome_iff :
    (front? cs).isSome ↔
      ∃ inner after, cs = '{' :: '{' :: inner ++ '}' :: '}' :: after ∧ '\n' ∉ inner := by
  constructor
  · intro h
    obtain ⟨⟨inner, after⟩, hf⟩ := Option.isSome_iff_exists.mp h
    unfold front? at hf
    split at hf
    · obtain ⟨rfl, hi⟩ := eq_of_closing? hf
      exact ⟨inner, after, rfl, hi⟩
    · simp at hf
  · rintro ⟨inner, after, rfl, hi⟩
    exact closing?_isSome after hi

theorem hasPlaceholderIn_iff_encloses : hasPlaceholderIn cs = true ↔ Encloses cs := by
  induction cs with
  | nil => simp [hasPlaceholderIn, Encloses]
  | cons c cs ih =>
      rw [hasPlaceholderIn, Bool.or_eq_true, front?_isSome_iff, ih]
      constructor
      · rintro (⟨inner, after, he, hi⟩ | ⟨before, inner, after, rfl, hi⟩)
        · exact ⟨[], inner, after, he, hi⟩
        · exact ⟨c :: before, inner, after, rfl, hi⟩
      · rintro ⟨before, inner, after, he, hi⟩
        cases before with
        | nil => exact .inl ⟨inner, after, he, hi⟩
        | cons d before =>
            obtain ⟨rfl, rfl⟩ := List.cons_eq_cons.mp he
            exact .inr ⟨before, inner, after, rfl, hi⟩

end Token

-- A text with opening braces that are closed on their line.
def HoldsPlaceholder (text : String) : Prop := Token.Encloses text.toList

theorem hasPlaceholders_iff_holds (text : String) :
    hasPlaceholders text = true ↔ HoldsPlaceholder text :=
  Token.hasPlaceholderIn_iff_encloses

instance (text : String) : Decidable (HoldsPlaceholder text) :=
  decidable_of_iff _ (hasPlaceholders_iff_holds text)

variable {root : Object} {rounds : Nat} {text resolved : String}

theorem firstPlaceholder?_eq_none_iff : firstPlaceholder? text = none ↔ ¬HoldsPlaceholder text := by
  rw [firstPlaceholder?_eq_none, ← hasPlaceholders_iff_holds, hasPlaceholders_iff, not_exists]

theorem resolveRounds_of_holds (h : HoldsPlaceholder text) :
    resolveRounds root (rounds + 1) text =
      substituteRound root text >>= resolveRounds root rounds := by
  rw [resolveRounds, if_pos ((hasPlaceholders_iff_holds text).mpr h)]

theorem resolveRounds_of_not_holds (h : ¬HoldsPlaceholder text) :
    resolveRounds root rounds text = .ok text := by
  cases rounds with
  | zero => rw [resolveRounds, firstPlaceholder?_eq_none_iff.mpr h]
  | succ rounds => rw [resolveRounds, if_neg (mt (hasPlaceholders_iff_holds text).mp h)]

-- Both ways out of the rounds lead to a text without placeholders.
theorem not_holds_of_resolveRounds (h : resolveRounds root rounds text = .ok resolved) :
    ¬HoldsPlaceholder resolved := by
  induction rounds generalizing text with
  | zero =>
      simp only [resolveRounds] at h
      split at h
      · cases h
      · rename_i hnone
        cases h
        exact firstPlaceholder?_eq_none_iff.mp hnone
  | succ rounds ih =>
      by_cases hholds : HoldsPlaceholder text
      · rw [resolveRounds_of_holds hholds] at h
        obtain ⟨next, -, hnext⟩ := Except.bind_eq_ok.mp h
        exact ih hnext
      · rw [resolveRounds_of_not_holds hholds] at h
        cases h
        exact hholds

theorem expand_of_not_holds (root : Object) (bound : Nat) (replacer : String → String)
    (rules : List Rule) (h : ¬HoldsPlaceholder text) :
    expand root bound replacer rules text =
      (Rule.applyAll rules (replacer text)).mapError .rule := by
  rw [expand, resolvePlaceholders, resolveRounds_of_not_holds h]
  rfl

-- What resolving yields has no placeholder, so that resolving it again changes nothing, and what
-- has no placeholder does not depend on the root.
theorem resolvePlaceholders_normal :
    (∀ root bound template resolved, resolvePlaceholders root bound template = .ok resolved →
      ¬HoldsPlaceholder resolved ∧
        ∀ root' bound', resolvePlaceholders root' bound' resolved = .ok resolved) ∧
    (∀ template, ¬HoldsPlaceholder template → ∀ root root' bound bound' replacer rules,
      expand root bound replacer rules template = expand root' bound' replacer rules template ∧
        expand root bound replacer rules template =
          (Rule.applyAll rules (replacer template)).mapError .rule) := by
  constructor
  · intro root bound template resolved h
    have hnone := not_holds_of_resolveRounds h
    exact ⟨hnone, fun root' bound' => resolveRounds_of_not_holds hnone⟩
  · intro template h root root' bound bound' replacer rules
    have hexpand := expand_of_not_holds root bound replacer rules h
    have hexpand' := expand_of_not_holds root' bound' replacer rules h
    exact ⟨hexpand.trans hexpand'.symm, hexpand⟩

-- A value that opens braces in front of text that closes them.
def openTable : Object :=
  .table [(.text "open", .text "\x7b\x7b"), (.text "titel", .text "Maps \x7d\x7d")]

theorem resolvePlaceholders_openTable :
    resolvePlaceholders openTable 2 "{{open}}titel\x7d\x7d" = .ok "Maps \x7d\x7d" ∧
      ¬HoldsPlaceholder "Maps \x7d\x7d" ∧
      (∀ root' bound', resolvePlaceholders root' bound' "Maps \x7d\x7d" = .ok "Maps \x7d\x7d") ∧
      ¬HoldsPlaceholder "\x7b\x7b Office" ∧
      (∀ root root' bound bound' replacer rules,
        expand root bound replacer rules "\x7b\x7b Office" =
            expand root' bound' replacer rules "\x7b\x7b Office" ∧
          expand root bound replacer rules "\x7b\x7b Office" =
            (Rule.applyAll rules (replacer "\x7b\x7b Office")).mapError .rule) := by
  have hresolve : resolvePlaceholders openTable 2 "{{open}}titel\x7d\x7d" = .ok "Maps \x7d\x7d" :=
    Except.toOption_eq_some.mp (by decide +kernel)
  have hplain : ¬HoldsPlaceholder "\x7b\x7b Office" := by decide +kernel
  obtain ⟨hnone, hagain⟩ := resolvePlaceholders_normal.1 _ _ _ _ hresolve
  exact ⟨hresolve, hnone, hagain, hplain, resolvePlaceholders_normal.2 _ hplain⟩

end PropertyTemplates
