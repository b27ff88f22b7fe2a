import PropertyTemplates.Proofs.Template.Bound

namespace PropertyTemplates

-- The text that takes the place of a token when it is looked up on its own, whatever stands around
-- it.
inductive Token.Yields (root : Object) : Token → String → Prop where
  | literal (text : String) : Yields root (.literal text) text
  | placeholder {p : String} {found : Option String} (h : root.evaluate p = .ok found) :
      Yields root (.placeholder p) (found.getD absentText)

-- What is wrong with a placeholder when it is looked up on its own: its path cannot be evaluated, or
-- leads to a text that holds the placeholder again.
inductive Culprit (root : Object) (p : String) : PlaceholderError → Prop where
  | unresolved {cause : PathError} (h : root.evaluate p = .error cause) :
      Culprit root p (.unresolved p cause)
  | loop {value : String} (h : Token.Yields root (.placeholder p) value)
      (hself : .placeholder p ∈ tokenize value) : Culprit root p (.loop p)

-- What comes of a text in which every token is looked up on its own: the texts in their places, or
-- the error of the leftmost culprit.
inductive SeparateRound (root : Object) (text : String) : Except PlaceholderError String → Prop where
  | replaced {parts : List String}
      (hnone : ∀ p, .placeholder p ∈ tokenize text → ∀ e, ¬Culprit root p e)
      (hparts : List.Forall₂ (Token.Yields root) (tokenize text) parts) :
      SeparateRound root text (.ok (String.join parts))
  | refused {before after : List Token} {p : String} {e : PlaceholderError}
      (htokens : tokenize text = before ++ .placeholder p :: after)
      (hbefore : ∀ q, .placeholder q ∈ before → ∀ e', ¬Culprit root q e')
      (hculprit : Culprit root p e) : SeparateRound root text (.error e)

section Round

variable {root : Object} {text p : String} {e : PlaceholderError}

theorem Token.Yields.unique {t : Token} {a b : String} (ha : Yields root t a)
    (hb : Yields root t b) : a = b := by
  cases ha with
  | literal => cases hb; rfl
  | placeholder ha =>
      cases hb with
      | placeholder hb => cases ha.symm.trans hb; rfl

theorem Token.yields_placeholder_iff {value : String} :
    Yields root (.placeholder p) value ↔ resolve root p = .ok value := by
  rw [resolve_eq_ok]
  constructor
  · intro h
    cases h with
    | placeholder he => exact ⟨_, he, rfl⟩
  · rintro ⟨found, he, rfl⟩
    exact .placeholder he

theorem Token.yields_of_part {t : Token} {value : String}
    (h : part (substitute root) t = .ok value) : Yields root t value := by
  cases t with
  | literal text => cases h; exact .literal _
  | placeholder p => exact yields_placeholder_iff.mpr (substitute_eq_ok.mp h).1

theorem culprit_iff : Culprit root p e ↔ substitute root p = .error e := by
  rw [substitute_eq_error]
  constructor
  · intro h
    cases h with
    | unresolved h => exact .inl (resolve_eq_error.mpr ⟨_, h, rfl⟩)
    | loop h hself => exact .inr ⟨_, Token.yields_placeholder_iff.mp h, hself, rfl⟩
  · rintro (h | ⟨value, h, hself, rfl⟩)
    · obtain ⟨cause, hcause, rfl⟩ := resolve_eq_error.mp h
      exact .unresolved hcause
    · exact .loop (Token.yields_placeholder_iff.mpr h) hself

theorem not_culprit_iff : (∀ e, ¬Culprit root p e) ↔ ∃ value, substitute root p = .ok value := by
  rw [Except.exists_eq_ok_iff, not_exists]
  exact forall_congr' fun e => not_congr culprit_iff

theorem Culprit.rootCause_eq (h : Culprit root p e) :
    (∃ cause, root.evaluate p = .error cause ∧ e = .unresolved p cause ∧
        e.rootCause = .path cause) ∨
      e = .loop p ∧ e.rootCause = .loop p := by
  cases h with
  | unresolved h => exact .inl ⟨_, h, rfl, rfl⟩
  | loop _ _ => exact .inr ⟨rfl, rfl⟩

theorem separateRound_substituteRound (root : Object) (text : String) :
    SeparateRound root text (substituteRound root text) := by
  rw [substituteRound_eq_fill]
  cases h : Token.fill (substitute root) (tokenize text) with
  | ok filled =>
      have hok := Token.exists_fill_eq_ok_iff.mp ⟨filled, h⟩
      rw [Token.fill_eq_join_mapM, Except.map_eq_ok] at h
      obtain ⟨parts, hparts, rfl⟩ := h
      exact .replaced (fun p hp => not_culprit_iff.mpr (hok p hp))
        ((Except.mapM_eq_ok.mp hparts).imp fun _ _ => Token.yields_of_part)
  | error e =>
      obtain ⟨before, p, after, htokens, hbefore, hp⟩ := Token.fill_eq_error_iff.mp h
      exact .refused htokens (fun q hq => not_culprit_iff.mpr (hbefore q hq)) (culprit_iff.mpr hp)

theorem SeparateRound.substituteRound_eq {outcome : Except PlaceholderError String}
    (h : SeparateRound root text outcome) : substituteRound root text = outcome := by
  rw [substituteRound_eq_fill]
  cases h with
  | replaced hnone hparts =>
      have hok := Token.forall_part_eq_ok_iff.mpr fun p hp => not_culprit_iff.mp (hnone p hp)
      have hall := (List.forall₂_and_left _ _).mpr ⟨hok, hparts⟩
      rw [Token.fill_eq_join_mapM, Except.map_eq_ok]
      refine ⟨_, Except.mapM_eq_ok.mpr (hall.imp ?_), rfl⟩
      rintro t value ⟨⟨value', hvalue'⟩, hvalue⟩
      rw [hvalue', hvalue.unique (Token.yields_of_part hvalue')]
  | refused htokens hbefore hculprit =>
      exact Token.fill_eq_error_iff.mpr ⟨_, _, _, htokens,
        fun q hq => not_culprit_iff.mp (hbefore q hq), culprit_iff.mp hculprit⟩

-- The texts that a round remembers make no difference, whether it succeeds or fails.
theorem substituteRound_eq_iff {outcome : Except PlaceholderError String} :
    substituteRound root text = outcome ↔ SeparateRound root text outcome := by
  constructor
  · rintro rfl
    exact separateRound_substituteRound root text
  · exact SeparateRound.substituteRound_eq

theorem SeparateRound.exists_culprit (h : SeparateRound root text (.error e)) :
    ∃ p, .placeholder p ∈ tokenize text ∧ Culprit root p e := by
  cases h with
  | refused htokens _ hculprit => exact ⟨_, by simp [htokens], hculprit⟩

theorem holds_of_mem (h : .placeholder p ∈ tokenize text) : HoldsPlaceholder text :=
  (hasPlaceholders_iff_holds text).mp ((hasPlaceholders_iff text).mpr ⟨p, h⟩)

theorem mem_of_firstPlaceholder? (h : firstPlaceholder? text = some p) :
    .placeholder p ∈ tokenize text := by
  obtain ⟨t, ht, hp⟩ := List.exists_of_findSome?_eq_some h
  cases t with
  | literal text => cases hp
  | placeholder q => cases hp; exact ht

end Round

section Run

variable {root : Object} {rounds : Nat} {template : String} {e : PlaceholderError}

-- By induction on the rounds that are left. Each one fails with its leftmost culprit, or hands its
-- text on to those after it.
theorem exists_failure_of_resolveRounds (h : resolveRounds root rounds template = .error e) :
    ∃ used text, AfterRounds root used template text ∧
      (used < rounds ∧ SeparateRound root text (.error e) ∨
        used = rounds ∧ ∃ p, firstPlaceholder? text = some p ∧ e = .loop p) := by
  induction rounds generalizing template with
  | zero =>
      cases hfirst : firstPlaceholder? template with
      | some p =>
          rw [resolveRounds, hfirst] at h
          cases h
          exact ⟨0, template, .start template, .inr ⟨rfl, p, hfirst, rfl⟩⟩
      | none =>
          rw [resolveRounds, hfirst] at h
          cases h
  | succ rounds ih =>
      by_cases hholds : HoldsPlaceholder template
      · rw [resolveRounds_of_holds hholds] at h
        rcases Except.bind_eq_error.mp h with h | ⟨next, hround, h⟩
        · exact ⟨0, template, .start template, .inl ⟨rounds.succ_pos, substituteRound_eq_iff.mp h⟩⟩
        · obtain ⟨used, text, hafter, hend⟩ := ih h
          refine ⟨used + 1, text, .round hholds hround hafter, ?_⟩
          simpa only [Nat.add_lt_add_iff_right, Nat.add_right_cancel_iff] using hend
      · rw [resolveRounds_of_not_holds hholds] at h
        cases h

-- A run fails in the round that meets a culprit, or at the first placeholder that its last round
-- leaves.
theorem resolveRounds_eq_error_iff :
    resolveRounds root rounds template = .error e ↔
      ∃ used text, AfterRounds root used template text ∧
        (used < rounds ∧ SeparateRound root text (.error e) ∨
          used = rounds ∧ ∃ p, firstPlaceholder? text = some p ∧ e = .loop p) := by
  refine ⟨exists_failure_of_resolveRounds, ?_⟩
  rintro ⟨used, text, hafter, ⟨hlt, hround⟩ | ⟨rfl, p, hfirst, rfl⟩⟩
  · obtain ⟨more, rfl⟩ := Nat.exists_eq_add_of_lt hlt
    obtain ⟨p, hp, -⟩ := hround.exists_culprit
    rw [Nat.add_assoc, hafter.resolveRounds_add, resolveRounds_of_holds (holds_of_mem hp),
      hround.substituteRound_eq, Except.error_bind]
  · exact hafter.exhausted hfirst

-- What is put in for a placeholder is found, or refused, by its path alone.
theorem evaluate_of_resolveRounds {p : String} {cause : PathError}
    (h : resolveRounds root rounds template = .error (.unresolved p cause)) :
    root.evaluate p = .error cause := by
  obtain ⟨used, text, -, ⟨-, hround⟩ | ⟨-, q, -, he⟩⟩ := resolveRounds_eq_error_iff.mp h
  · obtain ⟨q, -, hculprit⟩ := hround.exists_culprit
    cases hculprit with
    | unresolved hcause => exact hcause
  · cases he

end Run

-- A round does what looking up every token on its own would do, with the error of the leftmost
-- culprit. So an error of the whole names a placeholder of the text before or after one of the
-- rounds, and has at its bottom the error of that placeholder's path or the loop.
theorem resolvePlaceholders_attributed (root : Object) :
    (∀ text outcome, substituteRound root text = outcome ↔ SeparateRound root text outcome) ∧
    (∀ bound template e, resolvePlaceholders root bound template = .error e ↔
      ∃ rounds text, AfterRounds root rounds template text ∧
        (rounds < max bound 1 ∧ SeparateRound root text (.error e) ∨
          rounds = max bound 1 ∧ ∃ p, firstPlaceholder? text = some p ∧ e = .loop p)) ∧
    ∀ bound template e, resolvePlaceholders root bound template = .error e →
      ∃ rounds text p, rounds ≤ max bound 1 ∧ AfterRounds root rounds template text ∧
        .placeholder p ∈ tokenize text ∧
          ((∃ cause, root.evaluate p = .error cause ∧ e = .unresolved p cause ∧
              e.rootCause = .path cause) ∨
            e = .loop p ∧ e.rootCause = .loop p) := by
  refine ⟨fun text outcome => substituteRound_eq_iff,
    fun bound template e => resolveRounds_eq_error_iff, ?_⟩
  intro bound template e h
  obtain ⟨rounds, text, hafter, hend⟩ := resolveRounds_eq_error_iff.mp h
  rcases hend with ⟨hlt, hround⟩ | ⟨rfl, p, hfirst, rfl⟩
  · obtain ⟨p, hp, hculprit⟩ := hround.exists_culprit
    exact ⟨rounds, text, p, Nat.le_of_lt hlt, hafter, hp, hculprit.rootCause_eq⟩
  · exact ⟨_, text, p, Nat.le_refl _, hafter, mem_of_firstPlaceholder? hfirst, .inr ⟨rfl, rfl⟩⟩

-- A volume that names its series, an entry that holds itself, and a note on one that is missing.
def errataTable : Object :=
  .table [(.text "volume", .text "{{series}} 7"), (.text "series", .text "Maps"),
    (.text "echo", .text "again {{echo}}"), (.text "note", .text "see {{errata}}")]

theorem resolvePlaceholders_attributed_errataTable :
    SeparateRound errataTable "{{series}}, {{volume}}, {{series}}"
        (.ok "Maps, {{series}} 7, Maps") ∧
      SeparateRound errataTable "{{series}} {{echo}} {{errata}} {{echo}}" (.error (.loop "echo")) ∧
      SeparateRound errataTable "{{series}} {{errata}} {{echo}} {{errata}}"
        (.error (.unresolved "errata" (.noAccessor "errata" "mapping"))) ∧
      resolvePlaceholders errataTable defaultRounds "{{series}}: {{note}}" =
        .error (.unresolved "errata" (.noAccessor "errata" "mapping")) ∧
      ∃ rounds text, rounds ≤ defaultRounds ∧
        AfterRounds errataTable rounds "{{series}}: {{note}}" text ∧
          .placeholder "errata" ∈ tokenize text ∧
            errataTable.evaluate "errata" = .error (.noAccessor "errata" "mapping") := by
  obtain ⟨hround, -, hnamed⟩ := resolvePlaceholders_attributed errataTable
  have hresolve : resolvePlaceholders errataTable defaultRounds "{{series}}: {{note}}" =
      .error (.unresolved "errata" (.noAccessor "errata" "mapping")) := by decide +kernel
  refine ⟨(hround _ _).mp (by decide +kernel), (hround _ _).mp (by decide +kernel),
    (hround _ _).mp (by decide +kernel), hresolve, ?_⟩
  obtain ⟨rounds, text, p, hle, hafter, hp, ⟨cause, hcause, he, -⟩ | ⟨he, -⟩⟩ :=
    hnamed _ _ _ hresolve
  · cases he
    exact ⟨rounds, text, hle, hafter, hp, hcause⟩
  · cases he

end PropertyTemplates
