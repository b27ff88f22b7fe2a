import PropertyTemplates.Proofs.Template.Canonical

namespace PropertyTemplates.Token

-- What follows two opening braces closes them on their line.
def ClosedOnLine (after : List Char) : Prop :=
  ∃ inner rest, after = inner ++ '}' :: '}' :: rest ∧ '\n' ∉ inner

-- Two braces are opened somewhere and not closed on their line.
def HasUnclosed (cs : List Char) : Prop :=
  ∃ before after, cs = before ++ '{' :: '{' :: after ∧ ¬ClosedOnLine after

-- Two braces are opened somewhere and closed nowhere after that.
def NeverCloses (cs : List Char) : Prop :=
  ∃ before after, cs = before ++ '{' :: '{' :: after ∧ ¬['}', '}'] <:+: after

-- Two braces are opened, and two more before any are closed.
def Reopens (cs : List Char) : Prop :=
  ∃ before between rest, cs = before ++ '{' :: '{' :: (between ++ '{' :: '{' :: rest) ∧
    ¬['}', '}'] <:+: between

-- A literal among the tokens has opening braces in it.
def OpensLiteral (tokens : List Token) : Prop :=
  ∃ text, .literal text ∈ tokens ∧ ['{', '{'] <:+: text.toList

section Braces

variable {a b x y : List Char}

-- Opening braces and closing braces do not overlap.
theorem split_at_braces (h : a ++ '}' :: '}' :: b = x ++ '{' :: '{' :: y) :
    (∃ t, a = x ++ '{' :: '{' :: t ∧ y = t ++ '}' :: '}' :: b) ∨
      ∃ t, x = a ++ '}' :: '}' :: t ∧ b = t ++ '{' :: '{' :: y := by
  rcases List.append_eq_append_iff.mp h with ⟨m, rfl, hb⟩ | ⟨m, rfl, hy⟩
  · rcases m with _ | ⟨c, _ | ⟨d, m⟩⟩
    · simp at hb
    · simp at hb
    · simp only [List.cons_append, List.cons.injEq] at hb
      obtain ⟨rfl, rfl, rfl⟩ := hb
      exact .inr ⟨m, rfl, rfl⟩
  · rcases m with _ | ⟨c, _ | ⟨d, m⟩⟩
    · simp at hy
    · simp at hy
    · simp only [List.cons_append, List.cons.injEq] at hy
      obtain ⟨rfl, rfl, rfl⟩ := hy
      exact .inl ⟨m, rfl, rfl⟩

theorem front?_braces_isSome_iff : (front? ('{' :: '{' :: x)).isSome ↔ ClosedOnLine x := by
  rw [front?_isSome_iff]
  simp [ClosedOnLine]

theorem NeverCloses.hasUnclosed (h : NeverCloses x) : HasUnclosed x := by
  obtain ⟨before, after, rfl, hafter⟩ := h
  refine ⟨before, after, rfl, ?_⟩
  rintro ⟨inner, rest, rfl, -⟩
  exact hafter ⟨inner, rest, by simp⟩

end Braces

section Unclosed

variable {c : Char} {inner rest : List Char}

theorem not_hasUnclosed_nil : ¬HasUnclosed [] := by
  simp [HasUnclosed]

-- Braces that open no placeholder where they stand are not closed on their line.
theorem hasUnclosed_cons (h : front? (c :: rest) = none) :
    HasUnclosed (c :: rest) ↔ ['{', '{'] <+: c :: rest ∨ HasUnclosed rest := by
  constructor
  · rintro ⟨before, after, he, hafter⟩
    cases before with
    | nil => exact .inl ⟨after, he.symm⟩
    | cons d before =>
        obtain ⟨-, rfl⟩ := List.cons_eq_cons.mp he
        exact .inr ⟨before, after, rfl, hafter⟩
  · rintro (⟨after, he⟩ | ⟨before, after, rfl, hafter⟩)
    · refine ⟨[], after, he.symm, fun hclosed => ?_⟩
      have hfront := front?_braces_isSome_iff.mpr hclosed
      have hafter : '{' :: '{' :: after = c :: rest := he
      rw [hafter, h] at hfront
      cases hfront
    · exact ⟨c :: before, after, rfl, hafter⟩

-- Nothing is left open on a line up to closing braces.
theorem hasUnclosed_append_braces (hline : '\n' ∉ inner) :
    HasUnclosed (inner ++ '}' :: '}' :: rest) ↔ HasUnclosed rest := by
  constructor
  · rintro ⟨before, after, he, hafter⟩
    rcases split_at_braces he with ⟨t, rfl, rfl⟩ | ⟨t, -, rfl⟩
    · refine absurd ⟨t, rest, rfl, ?_⟩ hafter
      simpa using fun hmem => hline (by simp [hmem])
    · exact ⟨t, after, rfl, hafter⟩
  · rintro ⟨before, after, rfl, hafter⟩
    exact ⟨inner ++ '}' :: '}' :: before, after, by simp, hafter⟩

theorem hasUnclosed_placeholder (hinner : IsInner inner) :
    HasUnclosed ('{' :: '{' :: (inner ++ '}' :: '}' :: rest)) ↔ HasUnclosed rest := by
  have hline : '\n' ∉ '{' :: '{' :: inner := by simpa using hinner.1
  exact hasUnclosed_append_braces hline

end Unclosed

section Literals

variable {c : Char}

theorem opensLiteral_cons (t : Token) (tokens : List Token) :
    OpensLiteral (t :: tokens) ↔
      (∃ text, t = .literal text ∧ ['{', '{'] <:+: text.toList) ∨ OpensLiteral tokens := by
  simp only [OpensLiteral, List.mem_cons, or_and_right, exists_or, eq_comm]

theorem opensLiteral_literal (text : String) (tokens : List Token) :
    OpensLiteral (.literal text :: tokens) ↔ ['{', '{'] <:+: text.toList ∨ OpensLiteral tokens := by
  simp [opensLiteral_cons]

-- A character that opens no placeholder opens braces together with the literal after it, if at all.
theorem opensLiteral_push {tokens : List Token} (htokens : Canonical tokens)
    (hfront : front? (c :: (printAll tokens).toList) = none) :
    OpensLiteral (push (.literal (String.ofList [c])) tokens) ↔
      ['{', '{'] <+: c :: (printAll tokens).toList ∨ OpensLiteral tokens := by
  have hsingle : ¬['{', '{'] <:+: [c] := fun h => by simpa using h.length_le
  have hprefix : ¬['{', '{'] <+: [c] := mt List.IsPrefix.isInfix hsingle
  match tokens, htokens with
  | [], _ =>
      have hnil : (printAll []).toList = [] := rfl
      change OpensLiteral [.literal (String.ofList [c])] ↔ _
      rw [opensLiteral_literal, String.toList_ofList, hnil, or_iff_right hsingle,
        or_iff_right hprefix]
  | .placeholder inner :: tokens, htokens =>
      have hinner : IsInner inner.toList := ((canonical_cons _ _).mp htokens).1
      rw [toList_printAll_placeholder] at hfront ⊢
      have hbraces : ¬['{', '{'] <+:
          c :: '{' :: '{' :: (inner.toList ++ '}' :: '}' :: (printAll tokens).toList) := by
        intro h
        obtain rfl : c = '{' := (List.cons_prefix_cons.mp h).1.symm
        have hclosed : ClosedOnLine
            ('{' :: (inner.toList ++ '}' :: '}' :: (printAll tokens).toList)) :=
          ⟨'{' :: inner.toList, _, rfl, by simp [hinner.1]⟩
        have hsome := front?_braces_isSome_iff.mpr hclosed
        rw [hfront] at hsome
        cases hsome
      change OpensLiteral (.literal (String.ofList [c]) :: .placeholder inner :: tokens) ↔ _
      rw [opensLiteral_literal, String.toList_ofList, or_iff_right hsingle, or_iff_right hbraces]
  | .literal text :: tokens, htokens =>
      obtain ⟨⟨hne, -⟩, -, -⟩ := (canonical_cons _ _).mp htokens
      obtain ⟨d, rest, htext⟩ := List.exists_cons_of_ne_nil (mt String.toList_eq_nil_iff.mp hne)
      have hpush : (String.ofList [c] ++ text).toList = c :: text.toList := by simp
      change OpensLiteral (.literal (String.ofList [c] ++ text) :: tokens) ↔ _
      rw [opensLiteral_literal, opensLiteral_literal, hpush, List.infix_cons_iff, or_assoc,
        toList_printAll_literal, htext]
      simp

theorem opensLiteral_scan (cs : List Char) : OpensLiteral (scan [] cs) ↔ HasUnclosed cs := by
  induction cs using front_induction with
  | nil =>
      rw [scan_nil]
      simp [OpensLiteral, withLiteral, not_hasUnclosed_nil]
  | placeholder cs inner rest h ih =>
      obtain ⟨rfl, hinner⟩ := front?_eq_some_iff.mp h
      rw [scan_of_placeholder h, hasUnclosed_placeholder hinner, ← ih]
      change OpensLiteral (.placeholder (String.ofList inner) :: scan [] rest) ↔ _
      simp [opensLiteral_cons]
  | literal c rest h ih =>
      rw [scan_of_literal h, hasUnclosed_cons h, ← ih]
      have hprint := printAll_scan rest
      rw [← hprint] at h
      rw [opensLiteral_push (canonical_scan rest) h, hprint]

end Literals

section Reopened

variable {cs before between inner more rest : List Char}

-- Braces that open a second time before the first closing ones do so within the placeholder.
theorem infix_of_reopened
    (h : ('{' :: '{' :: inner) ++ '}' :: '}' :: rest =
      before ++ '{' :: '{' :: (between ++ '{' :: '{' :: more))
    (hbetween : ¬['}', '}'] <:+: between) :
    ['{', '{'] <:+: inner ∨ ∃ t, rest = t ++ '{' :: '{' :: (between ++ '{' :: '{' :: more) := by
  rcases split_at_braces h with ⟨t, hopen, ht⟩ | ⟨t, -, hrest⟩
  · left
    rcases split_at_braces ht.symm with ⟨y, rfl, -⟩ | ⟨y, rfl, -⟩
    · have hlength : 2 ≤ (before ++ '{' :: '{' :: between).length := by
        simp only [List.length_append, List.length_cons]
        omega
      have hinner : inner = (before ++ '{' :: '{' :: between).drop 2 ++ '{' :: '{' :: y := by
        rw [← List.drop_append_of_le_length hlength]
        simpa using congrArg (List.drop 2) hopen
      rw [hinner]
      exact ⟨(before ++ '{' :: '{' :: between).drop 2, y, by simp⟩
    · exact absurd ⟨t, y, by simp⟩ hbetween
  · exact .inr ⟨t, hrest⟩

theorem exists_of_reopens (h : Reopens cs) :
    HasUnclosed cs ∨
      ∃ inner, .placeholder inner ∈ scan [] cs ∧ ['{', '{'] <:+: inner.toList := by
  induction cs using front_induction with
  | nil =>
      obtain ⟨before, between, rest, he, -⟩ := h
      simp at he
  | placeholder cs inner rest hfront ih =>
      obtain ⟨rfl, hinner⟩ := front?_eq_some_iff.mp hfront
      obtain ⟨before, between, more, he, hbetween⟩ := h
      rw [hasUnclosed_placeholder hinner, scan_of_placeholder hfront]
      rcases infix_of_reopened he hbetween with hinfix | ⟨t, rfl⟩
      · exact .inr ⟨String.ofList inner, by simp, by simpa using hinfix⟩
      · refine (ih ⟨t, between, more, rfl, hbetween⟩).imp_right ?_
        rintro ⟨p, hp, hinfix⟩
        exact ⟨p, (mem_push _ _ _).mpr (.inr hp), hinfix⟩
  | literal c rest hfront ih =>
      obtain ⟨before, between, more, he, hbetween⟩ := h
      rw [hasUnclosed_cons hfront, scan_of_literal hfront]
      cases before with
      | nil => exact .inl (.inl ⟨_, he.symm⟩)
      | cons d before =>
          obtain ⟨-, rfl⟩ := List.cons_eq_cons.mp he
          refine (ih ⟨before, between, more, rfl, hbetween⟩).imp .inr ?_
          rintro ⟨p, hp, hinfix⟩
          exact ⟨p, (mem_push _ _ _).mpr (.inr hp), hinfix⟩

end Reopened

end PropertyTemplates.Token
