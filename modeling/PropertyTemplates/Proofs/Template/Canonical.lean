import PropertyTemplates.Proofs.Template.NormalForm
import Mathlib.Data.List.Chain

namespace PropertyTemplates

namespace Token

-- What can stand between the braces of a placeholder.
def IsInner (inner : List Char) : Prop :=
  '\n' ∉ inner ∧ ¬['}', '}'] <:+: inner ∧ inner.getLast? ≠ some '}'

-- Two braces are opened on the last line of a text.
def LeavesOpen (cs : List Char) : Prop :=
  ∃ before after, cs = before ++ '{' :: '{' :: after ∧ '\n' ∉ after

-- A text that leaves the braces of a placeholder after it to the placeholder.
def EndsClosed (cs : List Char) : Prop := cs.getLast? ≠ some '{' ∧ ¬LeavesOpen cs

def IsCanonical : Token → Prop
  | .literal text => text ≠ "" ∧ ¬Encloses text.toList
  | .placeholder inner => IsInner inner.toList

-- Which token may stand in front of which.
def MayPrecede : Token → Token → Prop
  | .literal _, .literal _ => False
  | .literal text, .placeholder _ => EndsClosed text.toList
  | .placeholder _, _ => True

-- The tokens of a text, described without the text.
structure Canonical (tokens : List Token) : Prop where
  each : ∀ t ∈ tokens, t.IsCanonical
  neighbours : tokens.IsChain MayPrecede

section Inner

variable {cs inner rest : List Char}

theorem isInner_nil : IsInner [] := by
  simp [IsInner]

-- One character more is fine unless it ends the line or the placeholder.
theorem isInner_cons (c : Char) (inner rest : List Char) :
    IsInner (c :: inner) ↔
      c ≠ '\n' ∧ ¬(c = '}' ∧ (inner ++ '}' :: '}' :: rest).head? = some '}') ∧ IsInner inner := by
  cases inner with
  | nil =>
      have hshort : ¬['}', '}'] <:+: [c] := fun h => absurd h.length_le (by simp)
      simp [IsInner, hshort, @eq_comm _ '\n' c]
  | cons d inner =>
      have hpair : ['}', '}'] <:+: c :: d :: inner ↔
          (c = '}' ∧ d = '}') ∨ ['}', '}'] <:+: d :: inner := by
        rw [List.infix_cons_iff, List.cons_prefix_cons, List.cons_prefix_cons]
        simp [eq_comm]
      unfold IsInner
      rw [hpair, List.mem_cons, not_or, not_or, List.getLast?_cons_cons, List.cons_append,
        List.head?_cons, Option.some.injEq, @eq_comm _ '\n' c]
      tauto

theorem closing?_eq_some_iff :
    closing? cs = some (inner, rest) ↔ cs = inner ++ '}' :: '}' :: rest ∧ IsInner inner := by
  constructor
  · intro h
    obtain ⟨rfl, -⟩ := eq_of_closing? h
    refine ⟨rfl, ?_⟩
    induction inner with
    | nil => exact isInner_nil
    | cons c inner ih =>
        by_cases hc : c = '\n'
        · subst hc
          simp [closing?_newline] at h
        by_cases hb : c = '}' ∧ (inner ++ '}' :: '}' :: rest).head? = some '}'
        · obtain ⟨rfl, hd⟩ := hb
          obtain ⟨tail, ht⟩ := List.head?_eq_some_iff.mp hd
          rw [List.cons_append, ht, closing?_braces] at h
          cases h
        · rw [List.cons_append, closing?_inner hc hb] at h
          obtain ⟨⟨i, r⟩, hr, he⟩ := Option.map_eq_some_iff.mp h
          cases he
          exact (isInner_cons c inner rest).mpr ⟨hc, hb, ih hr⟩
  · rintro ⟨rfl, hinner⟩
    induction inner with
    | nil => exact closing?_braces rest
    | cons c inner ih =>
        obtain ⟨hc, hb, htail⟩ := (isInner_cons c inner rest).mp hinner
        rw [List.cons_append, closing?_inner hc hb, ih htail]
        rfl

theorem front?_eq_some_iff :
    front? cs = some (inner, rest) ↔
      cs = '{' :: '{' :: (inner ++ '}' :: '}' :: rest) ∧ IsInner inner := by
  constructor
  · intro h
    unfold front? at h
    split at h
    · obtain ⟨rfl, hinner⟩ := closing?_eq_some_iff.mp h
      exact ⟨rfl, hinner⟩
    · cases h
  · rintro ⟨rfl, hinner⟩
    exact closing?_eq_some_iff.mpr ⟨rfl, hinner⟩

end Inner

section Border

variable {c : Char} {cs rest : List Char}

theorem encloses_cons (c : Char) (cs : List Char) :
    Encloses (c :: cs) ↔ (front? (c :: cs)).isSome ∨ Encloses cs := by
  rw [← hasPlaceholderIn_iff_encloses, ← hasPlaceholderIn_iff_encloses, hasPlaceholderIn,
    Bool.or_eq_true]

theorem leavesOpen_cons (c : Char) (cs : List Char) :
    LeavesOpen (c :: cs) ↔
      LeavesOpen cs ∨ ∃ after, c :: cs = '{' :: '{' :: after ∧ '\n' ∉ after := by
  constructor
  · rintro ⟨before, after, he, hafter⟩
    cases before with
    | nil => exact .inr ⟨after, he, hafter⟩
    | cons d before =>
        obtain ⟨-, rfl⟩ := List.cons_eq_cons.mp he
        exact .inl ⟨before, after, rfl, hafter⟩
  · rintro (⟨before, after, rfl, hafter⟩ | ⟨after, he, hafter⟩)
    · exact ⟨c :: before, after, rfl, hafter⟩
    · exact ⟨[], after, he, hafter⟩

theorem not_encloses_singleton (c : Char) : ¬Encloses [c] := by
  rintro ⟨before, inner, after, he, -⟩
  have hlength := congrArg List.length he
  simp only [List.length_cons, List.length_append, List.length_nil] at hlength
  omega

theorem endsClosed_nil : EndsClosed [] := by
  simp [EndsClosed, LeavesOpen]

theorem EndsClosed.tail (h : EndsClosed (c :: cs)) : EndsClosed cs := by
  obtain ⟨hlast, hopen⟩ := h
  refine ⟨?_, fun hcs => hopen ((leavesOpen_cons c cs).mpr (.inl hcs))⟩
  cases cs with
  | nil => simp
  | cons d cs => rwa [List.getLast?_cons_cons] at hlast

-- A character that opens no placeholder does not take the braces of the next one either: with them
-- it would open a longer placeholder on the same line.
theorem EndsClosed.cons {inner : List Char} (h : EndsClosed cs) (hinner : IsInner inner)
    (hfront : ¬(front? (c :: (cs ++ '{' :: '{' :: (inner ++ '}' :: '}' :: rest)))).isSome) :
    EndsClosed (c :: cs) := by
  constructor
  · intro hlast
    cases cs with
    | nil =>
        obtain rfl : c = '{' := by simpa using hlast
        apply hfront
        refine front?_isSome_iff.mpr ⟨'{' :: inner, rest, rfl, ?_⟩
        simp [hinner.1]
    | cons d cs =>
        rw [List.getLast?_cons_cons] at hlast
        exact h.1 hlast
  · rw [leavesOpen_cons]
    rintro (hcs | ⟨after, he, hafter⟩)
    · exact h.2 hcs
    · rw [← List.cons_append, he] at hfront
      apply hfront
      refine front?_isSome_iff.mpr ⟨after ++ '{' :: '{' :: inner, rest, by simp, ?_⟩
      simp [hafter, hinner.1]

-- A placeholder that starts within a text and ends after it would leave the text open.
theorem front?_append_eq_none (hne : cs ≠ []) (hclosed : ¬Encloses cs)
    (hborder : rest = [] ∨ EndsClosed cs) : front? (cs ++ rest) = none := by
  rw [← Option.not_isSome_iff_eq_none, front?_isSome_iff]
  rintro ⟨inner, after, he, hinner⟩
  rcases hborder with rfl | ⟨hlast, hopen⟩
  · rw [List.append_nil] at he
    exact hclosed ⟨[], inner, after, he, hinner⟩
  · have hsplit : cs ++ rest = ('{' :: '{' :: inner ++ ['}', '}']) ++ after := by
      rw [he]
      simp
    rcases List.append_eq_append_iff.mp hsplit with ⟨more, hcs, -⟩ | ⟨more, rfl, -⟩
    · rcases cs with _ | ⟨c, _ | ⟨d, cs⟩⟩
      · exact hne rfl
      · simp only [List.cons_append, List.cons_eq_cons] at hcs
        exact hlast (by simp [← hcs.1])
      · simp only [List.cons_append, List.cons_eq_cons] at hcs
        obtain ⟨rfl, rfl, hcs⟩ := hcs
        refine hopen ⟨[], cs, rfl, fun hmem => ?_⟩
        have hline : '\n' ∈ inner ++ ['}', '}'] := by
          rw [hcs]
          exact List.mem_append_left more hmem
        simp [hinner] at hline
    · exact hclosed ⟨[], inner, more, by simp, hinner⟩

theorem scan_literal_append (hne : cs ≠ []) (hclosed : ¬Encloses cs)
    (hborder : rest = [] ∨ EndsClosed cs) :
    scan [] (cs ++ rest) = push (.literal (String.ofList cs)) (scan [] rest) := by
  induction cs with
  | nil => exact absurd rfl hne
  | cons c cs ih =>
      have hfront := front?_append_eq_none hne hclosed hborder
      rw [List.cons_append] at hfront ⊢
      rw [scan_of_literal hfront]
      cases cs with
      | nil => rfl
      | cons d cs =>
          have hclosed' : ¬Encloses (d :: cs) :=
            fun h => hclosed ((encloses_cons c (d :: cs)).mpr (.inr h))
          have hborder' : rest = [] ∨ EndsClosed (d :: cs) := hborder.imp_right EndsClosed.tail
          rw [ih (List.cons_ne_nil d cs) hclosed' hborder', push_push, ← String.ofList_append,
            List.singleton_append]

end Border

theorem canonical_nil : Canonical [] := ⟨by simp, .nil⟩

theorem canonical_cons (t : Token) (tokens : List Token) :
    Canonical (t :: tokens) ↔
      t.IsCanonical ∧ (∀ s ∈ tokens.head?, MayPrecede t s) ∧ Canonical tokens := by
  constructor
  · rintro ⟨heach, hchain⟩
    obtain ⟨ht, htokens⟩ := List.forall_mem_cons.mp heach
    obtain ⟨hhead, htail⟩ := List.isChain_cons.mp hchain
    exact ⟨ht, hhead, htokens, htail⟩
  · rintro ⟨ht, hhead, htokens, htail⟩
    exact ⟨List.forall_mem_cons.mpr ⟨ht, htokens⟩, List.isChain_cons.mpr ⟨hhead, htail⟩⟩

theorem printAll_cons (t : Token) (tokens : List Token) :
    printAll (t :: tokens) = t.print ++ printAll tokens := by
  rw [printAll, List.map_cons, String.join_cons]
  rfl

theorem toList_printAll_literal (text : String) (tokens : List Token) :
    (printAll (.literal text :: tokens)).toList = text.toList ++ (printAll tokens).toList := by
  rw [printAll_cons, String.toList_append]
  rfl

theorem toList_printAll_placeholder (inner : String) (tokens : List Token) :
    (printAll (.placeholder inner :: tokens)).toList =
      '{' :: '{' :: (inner.toList ++ '}' :: '}' :: (printAll tokens).toList) := by
  rw [printAll_cons, print]
  simp

theorem printAll_push (t : Token) (tokens : List Token) :
    printAll (push t tokens) = printAll (t :: tokens) := by
  unfold push
  split
  · simp only [printAll_cons, print, String.append_assoc]
  · rfl

theorem printAll_scan (cs : List Char) : (printAll (scan [] cs)).toList = cs := by
  induction cs using front_induction with
  | nil => rw [scan_nil]; rfl
  | placeholder cs inner rest h ih =>
      obtain ⟨rfl, -⟩ := front?_eq_some_iff.mp h
      rw [scan_of_placeholder h, printAll_push, toList_printAll_placeholder, ih,
        String.toList_ofList]
  | literal c rest h ih =>
      rw [scan_of_literal h, printAll_push, toList_printAll_literal, ih, String.toList_ofList]
      rfl

-- A character that opens no placeholder joins the literal after it, if there is one.
theorem Canonical.push_literal {c : Char} {tokens : List Token} (htokens : Canonical tokens)
    (hfront : ¬(front? (c :: (printAll tokens).toList)).isSome) :
    Canonical (push (.literal (String.ofList [c])) tokens) := by
  have hsingle : (Token.literal (String.ofList [c])).IsCanonical := by
    refine ⟨by simp, ?_⟩
    rw [String.toList_ofList]
    exact not_encloses_singleton c
  match tokens, htokens with
  | [], _ => exact (canonical_cons _ _).mpr ⟨hsingle, by simp, canonical_nil⟩
  | .placeholder inner :: tokens, htokens =>
      have hinner : IsInner inner.toList := ((canonical_cons _ _).mp htokens).1
      rw [toList_printAll_placeholder] at hfront
      refine (canonical_cons _ _).mpr ⟨hsingle, ?_, htokens⟩
      rintro s ⟨rfl⟩
      have hends : EndsClosed [c] := endsClosed_nil.cons hinner hfront
      simpa [MayPrecede] using hends
  | .literal text :: tokens, htokens =>
      obtain ⟨⟨-, hclosed⟩, hhead, htail⟩ := (canonical_cons _ _).mp htokens
      have htext : (String.ofList [c] ++ text).toList = c :: text.toList := by simp
      rw [toList_printAll_literal] at hfront
      refine (canonical_cons _ _).mpr ⟨⟨by simp, ?_⟩, ?_, htail⟩
      · rw [htext, encloses_cons]
        rintro (hsome | h)
        · obtain ⟨⟨inner, rest⟩, hf⟩ := Option.isSome_iff_exists.mp hsome
          have happend := front?_append (printAll tokens).toList hf
          exact hfront (Option.isSome_iff_exists.mpr ⟨_, happend⟩)
        · exact hclosed h
      · intro s hs
        cases s with
        | literal other => exact (hhead _ hs).elim
        | placeholder inner =>
            have hends : EndsClosed text.toList := hhead _ hs
            obtain ⟨tokens, rfl⟩ := List.head?_eq_some_iff.mp hs
            have hinner : IsInner inner.toList := ((canonical_cons _ _).mp htail).1
            rw [toList_printAll_placeholder] at hfront
            have hends' : EndsClosed (c :: text.toList) := hends.cons hinner hfront
            rwa [← htext] at hends'

theorem canonical_scan (cs : List Char) : Canonical (scan [] cs) := by
  induction cs using front_induction with
  | nil => rw [scan_nil]; exact canonical_nil
  | placeholder cs inner rest h ih =>
      obtain ⟨-, hinner⟩ := front?_eq_some_iff.mp h
      rw [scan_of_placeholder h]
      refine (canonical_cons _ _).mpr ⟨?_, fun _ _ => trivial, ih⟩
      simpa [IsCanonical] using hinner
  | literal c rest h ih =>
      rw [scan_of_literal h]
      apply ih.push_literal
      rw [printAll_scan, h]
      exact Bool.false_ne_true

-- No literal of the list can be read differently together with what follows it.
theorem Canonical.scan_printAll {tokens : List Token} (h : Canonical tokens) :
    scan [] (printAll tokens).toList = tokens := by
  induction tokens with
  | nil => exact scan_nil []
  | cons t tokens ih =>
      obtain ⟨ht, hhead, htail⟩ := (canonical_cons _ _).mp h
      cases t with
      | placeholder inner =>
          rw [toList_printAll_placeholder, scan_of_placeholder (front?_eq_some_iff.mpr ⟨rfl, ht⟩),
            ih htail, String.ofList_toList]
          rfl
      | literal text =>
          have hne : text.toList ≠ [] := mt String.toList_eq_nil_iff.mp ht.1
          match tokens, hhead with
          | [], _ =>
              have hnil : (printAll []).toList = [] := rfl
              rw [toList_printAll_literal, scan_literal_append hne ht.2 (.inl hnil), ih htail,
                String.ofList_toList]
              rfl
          | .literal other :: _, hhead => exact (hhead _ rfl).elim
          | .placeholder inner :: _, hhead =>
              rw [toList_printAll_literal, scan_literal_append hne ht.2 (.inr (hhead _ rfl)),
                ih htail, String.ofList_toList]
              rfl

end Token

-- Texts and canonical lists of tokens correspond: each text has one such list, which prints as the
-- text, and each such list is that of the text it prints as.
theorem tokenize_eq_iff_canonical (template : String) (tokens : List Token) :
    (tokenize template = tokens ↔ Token.Canonical tokens ∧ Token.printAll tokens = template) ∧
      (hasPlaceholders template = true ↔ ∃ inner, .placeholder inner ∈ tokenize template) := by
  refine ⟨⟨?_, ?_⟩, hasPlaceholders_iff template⟩
  · rintro rfl
    refine ⟨Token.canonical_scan _, ?_⟩
    rw [← String.toList_inj]
    exact Token.printAll_scan _
  · rintro ⟨hcanonical, rfl⟩
    exact hcanonical.scan_printAll

end PropertyTemplates
