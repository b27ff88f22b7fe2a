import PropertyTemplates.Proofs.Except
import PropertyTemplates.Proofs.Template.Tokens
import PropertyTemplates.Template.Placeholder

namespace PropertyTemplates

namespace Token

section Parts

variable {ε : Type} {put : String → Except ε String} {tokens : List Token} {p : String} {e : ε}

-- What is put in for a token.
def part (put : String → Except ε String) : Token → Except ε String
  | .literal text => .ok text
  | .placeholder inner => put inner

-- A text is filled by what is put in for each of its tokens, one after the other.
theorem fill_eq_join_mapM (put : String → Except ε String) (tokens : List Token) :
    fill put tokens = (tokens.mapM (part put)).map String.join := by
  induction tokens with
  | nil => rfl
  | cons t tokens ih =>
      rw [List.mapM_cons]
      cases t with
      | literal text =>
          rw [fill, ih]
          cases tokens.mapM (part put) <;> simp [part, Except.map]
      | placeholder inner =>
          rw [fill, ih]
          cases hi : put inner <;> cases tokens.mapM (part put) <;> simp [part, hi, Except.map]

theorem forall_part_eq_ok_iff :
    (∀ t ∈ tokens, ∃ text, part put t = .ok text) ↔
      ∀ p, .placeholder p ∈ tokens → ∃ text, put p = .ok text := by
  constructor
  · intro h p hp
    exact h _ hp
  · intro h t ht
    cases t with
    | literal text => exact ⟨text, rfl⟩
    | placeholder p => exact h p ht

theorem exists_fill_eq_ok_iff :
    (∃ filled, fill put tokens = .ok filled) ↔
      ∀ p, .placeholder p ∈ tokens → ∃ text, put p = .ok text := by
  rw [← forall_part_eq_ok_iff, ← Except.exists_mapM_eq_ok, fill_eq_join_mapM]
  simp [Except.map_eq_ok]

-- The leftmost placeholder that fails decides.
theorem fill_eq_error_iff :
    fill put tokens = .error e ↔
      ∃ before p after, tokens = before ++ .placeholder p :: after ∧
        (∀ q, .placeholder q ∈ before → ∃ text, put q = .ok text) ∧ put p = .error e := by
  rw [fill_eq_join_mapM, Except.map_eq_error, Except.mapM_eq_error_iff]
  simp only [forall_part_eq_ok_iff]
  constructor
  · rintro ⟨before, t, after, htokens, hbefore, ht⟩
    cases t with
    | literal text => cases ht
    | placeholder p => exact ⟨before, p, after, htokens, hbefore, ht⟩
  · rintro ⟨before, p, after, htokens, hbefore, hp⟩
    exact ⟨before, .placeholder p, after, htokens, hbefore, hp⟩

theorem exists_of_fill_eq_error (h : fill put tokens = .error e) :
    ∃ p, .placeholder p ∈ tokens ∧ put p = .error e := by
  obtain ⟨before, p, after, rfl, -, hp⟩ := fill_eq_error_iff.mp h
  exact ⟨p, by simp, hp⟩

theorem fill_fails (hp : .placeholder p ∈ tokens) (he : put p = .error e) :
    ∃ e', fill put tokens = .error e' := by
  by_contra hn
  obtain ⟨text, ht⟩ := exists_fill_eq_ok_iff.mp (Except.exists_eq_ok_iff.mpr hn) p hp
  cases he.symm.trans ht

end Parts

end Token

-- Looking each placeholder up only once gives the same text, and the same error, as looking it up
-- wherever it stands.
theorem substituteTokens_eq_fill (root : Object) (found : Resolved) (tokens : List Token)
    (h : ∀ inner text, found.lookup inner = some text → substitute root inner = .ok text) :
    substituteTokens root found tokens = Token.fill (substitute root) tokens := by
  induction tokens generalizing found with
  | nil => rfl
  | cons t tokens ih =>
      cases t with
      | literal text => simp only [substituteTokens, Token.fill, ih found h]
      | placeholder inner =>
          cases hl : found.lookup inner with
          | some text =>
              simp only [substituteTokens, hl, Token.fill, h inner text hl, Except.ok_bind,
                ih found h]
          | none =>
              cases hs : substitute root inner with
              | error e =>
                  simp only [substituteTokens, hl, Token.fill, hs, Except.error_bind]
              | ok text =>
                  have hfound : ∀ inner' text', ((inner, text) :: found).lookup inner' = some text' →
                      substitute root inner' = .ok text' := by
                    intro inner' text' hlookup
                    by_cases he : inner' = inner
                    · subst he
                      simp only [List.lookup_cons_self, Option.some.injEq] at hlookup
                      rw [hs, hlookup]
                    · rw [List.lookup_cons, beq_false_of_ne he] at hlookup
                      exact h inner' text' hlookup
                  simp only [substituteTokens, hl, Token.fill, hs, Except.ok_bind,
                    ih _ hfound]

theorem substituteRound_eq_fill (root : Object) (text : String) :
    substituteRound root text = Token.fill (substitute root) (tokenize text) :=
  substituteTokens_eq_fill root [] (tokenize text) (by simp)

theorem resolve_eq_ok {root : Object} {p text : String} :
    resolve root p = .ok text ↔
      ∃ found, root.evaluate p = .ok found ∧ found.getD absentText = text := by
  unfold resolve
  split <;> simp_all

theorem resolve_eq_error {root : Object} {p : String} {e : PlaceholderError} :
    resolve root p = .error e ↔ ∃ cause, root.evaluate p = .error cause ∧ .unresolved p cause = e := by
  unfold resolve
  split <;> simp_all

theorem substitute_eq_ok {root : Object} {p text : String} :
    substitute root p = .ok text ↔ resolve root p = .ok text ∧ .placeholder p ∉ tokenize text := by
  unfold substitute
  cases resolve root p with
  | error e => simp
  | ok found =>
      simp only [Except.ok_bind, Except.ok.injEq]
      split
      · rename_i h
        simp only [reduceCtorEq, false_iff, not_and]
        rintro rfl hn
        exact hn h
      · rename_i h
        simp only [Except.ok.injEq, iff_self_and]
        rintro rfl
        exact h

theorem substitute_eq_error {root : Object} {p : String} {e : PlaceholderError} :
    substitute root p = .error e ↔ resolve root p = .error e ∨
      ∃ text, resolve root p = .ok text ∧ .placeholder p ∈ tokenize text ∧ .loop p = e := by
  unfold substitute
  cases resolve root p with
  | error e => simp
  | ok found => by_cases h : .placeholder p ∈ tokenize found <;> simp [h]

theorem hasPlaceholders_iff (text : String) :
    hasPlaceholders text = true ↔ ∃ p, .placeholder p ∈ tokenize text :=
  Token.hasPlaceholderIn_iff text.toList

theorem firstPlaceholder?_eq_none {text : String} :
    firstPlaceholder? text = none ↔ ∀ p, .placeholder p ∉ tokenize text := by
  simp only [firstPlaceholder?, List.findSome?_eq_none_iff]
  constructor
  · intro h p hp
    exact absurd (h _ hp) (by simp)
  · intro h t ht
    cases t with
    | literal text => rfl
    | placeholder inner => exact absurd ht (h inner)

end PropertyTemplates
