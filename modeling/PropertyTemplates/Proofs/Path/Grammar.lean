import PropertyTemplates.Proofs.Decimal.Numeral
import PropertyTemplates.Proofs.Path.Evaluation
import Mathlib.Data.List.TakeWhile

namespace PropertyTemplates

open Decimal

namespace Segment

-- How a step is written: a name, and after it an index in brackets if there is one.
inductive Written : List Char → Segment → Prop where
  | plain {name : List Char} (hname : '[' ∉ name) : Written name ⟨String.ofList name, none⟩
  | indexed {name digits : List Char} (hname : '[' ∉ name) (hne : digits ≠ [])
      (hdigits : ∀ c ∈ digits, isDigit c = true) (hle : value digits ≤ maxIndex) :
      Written (name ++ '[' :: (digits ++ [']'])) ⟨String.ofList name, some (value digits)⟩

def WellFormed (piece : List Char) : Prop := ∃ s, Written piece s

-- The steps that can be told apart in a path.
structure Printable (s : Segment) : Prop where
  point : '.' ∉ s.accessor.toList
  bracket : '[' ∉ s.accessor.toList
  index : ∀ i ∈ s.index, i ≤ maxIndex

variable {cs name : List Char} {s : Segment}

theorem index?_eq_some_iff {index : Nat} :
    index? cs = some index ↔
      ∃ digits, cs = digits ++ [']'] ∧ digits ≠ [] ∧ (∀ c ∈ digits, isDigit c = true) ∧
        value digits ≤ maxIndex ∧ value digits = index := by
  unfold index?
  simp only [Option.ite_none_right_eq_some, Option.some.injEq, List.all_eq_true]
  constructor
  · rintro ⟨⟨hlast, hne, hdigits, hle⟩, hindex⟩
    obtain ⟨digits, rfl⟩ := List.getLast?_eq_some_iff.mp hlast
    rw [List.dropLast_concat] at hne hdigits hle hindex
    exact ⟨digits, rfl, hne, hdigits, hle, hindex⟩
  · rintro ⟨digits, rfl, hne, hdigits, hle, hindex⟩
    rw [List.dropLast_concat]
    exact ⟨⟨by simp, hne, hdigits, hle⟩, hindex⟩

theorem bne_of_not_mem (h : '[' ∉ name) : ∀ c ∈ name, (c != '[') = true := by
  intro c hc
  exact bne_iff_ne.mpr fun he => h (he ▸ hc)

theorem parse_plain (h : '[' ∉ name) : parse name = .ok ⟨String.ofList name, none⟩ := by
  have hall := bne_of_not_mem h
  unfold parse
  rw [List.takeWhile_eq_self_iff.mpr hall, List.dropWhile_eq_nil_iff.mpr hall]

theorem parse_bracket (h : '[' ∉ name) (rest : List Char) :
    parse (name ++ '[' :: rest) =
      match index? rest with
      | some index => .ok ⟨String.ofList name, some index⟩
      | none => .error (.malformedIndex (String.ofList (name ++ '[' :: rest))) := by
  have hall := bne_of_not_mem h
  have htake : (name ++ '[' :: rest).takeWhile (· != '[') = name := by
    simp [List.takeWhile_append_of_pos hall]
  have hdrop : (name ++ '[' :: rest).dropWhile (· != '[') = '[' :: rest := by
    simp [List.dropWhile_append_of_pos hall]
  cases hindex : index? rest with
  | some index => simp only [parse, htake, hdrop, hindex]
  | none => simp only [parse, hdrop, hindex]

-- Where the first opening bracket of a piece is, if it has one.
theorem exists_name (cs : List Char) :
    '[' ∉ cs ∨ ∃ name rest, cs = name ++ '[' :: rest ∧ '[' ∉ name := by
  by_cases h : '[' ∈ cs
  · obtain ⟨name, rest, he, hname⟩ := List.eq_append_cons_of_mem h
    exact .inr ⟨name, rest, he, hname⟩
  · exact .inl h

theorem parse_eq_ok_iff : parse cs = .ok s ↔ Written cs s := by
  constructor
  · intro h
    rcases exists_name cs with hplain | ⟨name, rest, rfl, hname⟩
    · rw [parse_plain hplain] at h
      cases h
      exact .plain hplain
    · rw [parse_bracket hname] at h
      split at h
      · rename_i index hindex
        cases h
        obtain ⟨digits, rfl, hne, hdigits, hle, rfl⟩ := index?_eq_some_iff.mp hindex
        exact .indexed hname hne hdigits hle
      · cases h
  · intro h
    cases h with
    | plain hname => exact parse_plain hname
    | indexed hname hne hdigits hle =>
        have hindex := index?_eq_some_iff.mpr ⟨_, rfl, hne, hdigits, hle, rfl⟩
        rw [parse_bracket hname, hindex]

theorem wellFormed_iff : WellFormed cs ↔ ∃ s, parse cs = .ok s := by
  simp only [WellFormed, parse_eq_ok_iff]

theorem parse_eq_error_iff {e : PathError} :
    parse cs = .error e ↔ ¬WellFormed cs ∧ .malformedIndex (String.ofList cs) = e := by
  rw [wellFormed_iff]
  constructor
  · intro h
    refine ⟨?_, (malformed_of_parse h).symm⟩
    rintro ⟨s, hs⟩
    rw [h] at hs
    cases hs
  · rintro ⟨hnone, rfl⟩
    cases h : parse cs with
    | ok s => exact absurd ⟨s, h⟩ hnone
    | error e => rw [malformed_of_parse h]

theorem Printable.written (h : s.Printable) : Written s.print s := by
  obtain ⟨accessor, index⟩ := s
  cases index with
  | none => simpa [print] using Written.plain h.bracket
  | some index =>
      have hw := Written.indexed h.bracket (numeral_ne_nil index)
        (fun _ hc => isDigit_of_mem_numeral hc) (by simpa using h.index index rfl)
      simpa [print] using hw

theorem Printable.not_mem_print (h : s.Printable) : '.' ∉ s.print := by
  have hindex : ∀ index, '.' ∉ numeral index := by
    intro index hmem
    exact absurd (isDigit_of_mem_numeral hmem) (by decide)
  unfold print
  split
  · simp [h.point, hindex]
  · exact h.point

end Segment

namespace Path

-- Texts that differ at most in what leading zeros their indices have: the first has those of the
-- second, and may have more.
inductive UpToZeros : List Char → List Char → Prop where
  | nil : UpToZeros [] []
  | cons (c : Char) {cs ds : List Char} (h : UpToZeros cs ds) : UpToZeros (c :: cs) (c :: ds)
  | zero {c : Char} {cs ds : List Char} (hc : isDigit c = true)
      (h : UpToZeros ('[' :: c :: cs) ('[' :: ds)) :
      UpToZeros ('[' :: '0' :: c :: cs) ('[' :: ds)

namespace UpToZeros

variable {as bs cs ds digits : List Char}

theorem append_left (h : UpToZeros cs ds) (as : List Char) : UpToZeros (as ++ cs) (as ++ ds) := by
  induction as with
  | nil => exact h
  | cons a as ih => exact .cons a ih

theorem append (h : UpToZeros as bs) (h' : UpToZeros cs ds) :
    UpToZeros (as ++ cs) (bs ++ ds) := by
  induction h with
  | nil => exact h'
  | cons c _ ih => exact .cons c ih
  | zero hc _ ih => exact .zero hc ih

theorem refl (cs : List Char) : UpToZeros cs cs := by
  simpa using nil.append_left cs

-- Leading zeros can be taken away until the numeral is left.
theorem of_digits (hne : digits ≠ []) (hdigits : ∀ c ∈ digits, isDigit c = true)
    (rest : List Char) :
    UpToZeros ('[' :: (digits ++ rest)) ('[' :: (numeral (Decimal.value digits) ++ rest)) := by
  induction digits with
  | nil => exact absurd rfl hne
  | cons c digits ih =>
      obtain ⟨hc, htail⟩ := List.forall_mem_cons.mp hdigits
      by_cases hzero : c = '0' ∧ digits ≠ []
      · obtain ⟨rfl, hne'⟩ := hzero
        obtain ⟨d, more, rfl⟩ := List.exists_cons_of_ne_nil hne'
        have hvalue : Decimal.value ('0' :: d :: more) = Decimal.value (d :: more) := rfl
        rw [hvalue]
        exact .zero (htail d List.mem_cons_self) (ih hne' htail)
      · have hnumeral : numeral (Decimal.value (c :: digits)) = c :: digits := by
          by_cases hempty : digits = []
          · subst hempty
            rw [value_singleton, numeral_digitValue hc]
          · exact numeral_value hne hdigits (by simpa [hempty] using hzero)
        rw [hnumeral]
        exact refl _

theorem of_written {s : Segment} (h : Segment.Written cs s) : UpToZeros cs s.print := by
  cases h with
  | plain hname =>
      unfold Segment.print
      rw [String.toList_ofList]
      exact refl cs
  | @indexed name digits hname hne hdigits hle =>
      unfold Segment.print
      rw [String.toList_ofList]
      have hzeros := (of_digits hne hdigits [']']).append_left name
      simpa using hzeros

theorem intercalate {pieces printed : List (List Char)}
    (h : List.Forall₂ UpToZeros pieces printed) :
    UpToZeros (['.'].intercalate pieces) (['.'].intercalate printed) := by
  induction h with
  | nil => exact refl _
  | cons hpiece hrest ih =>
      cases hrest with
      | nil => simpa using hpiece
      | cons hnext hrest =>
          rw [List.intercalate_cons_cons, List.intercalate_cons_cons]
          exact (hpiece.append (refl ['.'])).append ih

end UpToZeros

theorem pieces_eq_splitOn (cs : List Char) : pieces cs = cs.splitOn '.' := by
  induction cs with
  | nil => rfl
  | cons c cs ih =>
      have hne := List.splitOn_ne_nil '.' cs
      rw [pieces, ih, List.splitOn_cons_eq_if_modifyHead]
      cases h : cs.splitOn '.' with
      | nil => exact absurd h hne
      | cons piece rest => by_cases hc : c = '.' <;> simp [hc]

theorem print_eq_intercalate (segments : List Segment) :
    print segments = ['.'].intercalate (segments.map Segment.print) := by
  induction segments with
  | nil => rfl
  | cons s rest ih =>
      cases rest with
      | nil => simp [print]
      | cons t rest =>
          rw [print, ih, List.map_cons, List.map_cons, List.map_cons, List.intercalate_cons_cons,
            List.append_assoc]
          · rfl
          · simp

-- A piece that is not well-formed, with only well-formed ones before it.
def FirstMalformed (pieces : List (List Char)) (piece : List Char) : Prop :=
  ∃ before after, pieces = before ++ piece :: after ∧
    (∀ cs ∈ before, Segment.WellFormed cs) ∧ ¬Segment.WellFormed piece

variable {text : String} {path : Path}

theorem parse_eq_ok_iff :
    parse text = .ok path ↔
      path.text = text ∧ List.Forall₂ Segment.Written (text.toList.splitOn '.') path.segments := by
  unfold parse
  rw [Except.bind_eq_ok, pieces_eq_splitOn]
  simp only [Except.mapM_eq_ok, Segment.parse_eq_ok_iff, Except.pure_eq_ok, Except.ok.injEq]
  constructor
  · rintro ⟨segments, hsegments, rfl⟩
    exact ⟨rfl, hsegments⟩
  · rintro ⟨rfl, hsegments⟩
    exact ⟨path.segments, hsegments, rfl⟩

theorem parse_eq_error_iff {e : PathError} :
    parse text = .error e ↔
      ∃ piece, FirstMalformed (text.toList.splitOn '.') piece ∧
        .malformedIndex (String.ofList piece) = e := by
  unfold parse FirstMalformed
  rw [Except.bind_eq_error, pieces_eq_splitOn]
  simp only [Except.mapM_eq_error_iff, Segment.parse_eq_error_iff, ← Segment.wellFormed_iff,
    Except.pure_eq_ok, reduceCtorEq, and_false, exists_false, or_false]
  constructor
  · rintro ⟨before, piece, after, he, hbefore, hpiece, rfl⟩
    exact ⟨piece, ⟨before, after, he, hbefore, hpiece⟩, rfl⟩
  · rintro ⟨piece, ⟨before, after, he, hbefore, hpiece⟩, rfl⟩
    exact ⟨before, piece, after, he, hbefore, hpiece, rfl⟩

theorem exists_parse_iff :
    (∃ path, parse text = .ok path) ↔
      ∀ piece ∈ text.toList.splitOn '.', Segment.WellFormed piece := by
  simp only [Segment.wellFormed_iff, ← Except.exists_mapM_eq_ok, ← pieces_eq_splitOn]
  constructor
  · rintro ⟨path, h⟩
    obtain ⟨segments, hsegments, -⟩ := Except.bind_eq_ok.mp h
    exact ⟨segments, hsegments⟩
  · rintro ⟨segments, hsegments⟩
    exact ⟨_, Except.bind_eq_ok.mpr ⟨segments, hsegments, rfl⟩⟩

theorem upToZeros_of_parse (h : parse text = .ok path) :
    UpToZeros text.toList (print path.segments) := by
  obtain ⟨-, hsegments⟩ := parse_eq_ok_iff.mp h
  have hpieces : ['.'].intercalate (text.toList.splitOn '.') = text.toList :=
    List.intercalate_splitOn '.'
  rw [print_eq_intercalate, ← hpieces]
  apply UpToZeros.intercalate
  rw [List.forall₂_map_right_iff]
  exact hsegments.imp fun _ _ hs => .of_written hs

theorem parse_print {segments : List Segment} (hne : segments ≠ [])
    (h : ∀ s ∈ segments, s.Printable) :
    parse (String.ofList (print segments)) = .ok ⟨String.ofList (print segments), segments⟩ := by
  have hpoint : ∀ piece ∈ segments.map Segment.print, '.' ∉ piece := by
    intro piece hpiece
    obtain ⟨s, hs, rfl⟩ := List.mem_map.mp hpiece
    exact (h s hs).not_mem_print
  have hne' : segments.map Segment.print ≠ [] := by simpa using hne
  refine parse_eq_ok_iff.mpr ⟨rfl, ?_⟩
  rw [String.toList_ofList, print_eq_intercalate, List.splitOn_intercalate '.' hpoint hne',
    List.forall₂_map_left_iff, List.forall₂_same]
  intro s hs
  exact (h s hs).written

-- A text is read by the grammar of its pieces.
structure FollowsGrammar (text : String) : Prop where
  accepted : (∃ path, parse text = .ok path) ↔
    ∀ piece ∈ text.toList.splitOn '.', Segment.WellFormed piece
  refused : ∀ e, parse text = .error e ↔ ∃ piece,
    FirstMalformed (text.toList.splitOn '.') piece ∧ .malformedIndex (String.ofList piece) = e
  printed : ∀ path, parse text = .ok path →
    path.text = text ∧ UpToZeros text.toList (print path.segments)

-- Reading accepts what can be written as steps with points between them, and takes back what
-- printing does.
theorem parse_inverts_print :
    (∀ text, FollowsGrammar text) ∧
      ∀ segments, segments ≠ [] → (∀ s ∈ segments, s.Printable) →
        parse (String.ofList (print segments)) =
          .ok ⟨String.ofList (print segments), segments⟩ := by
  refine ⟨fun text => ⟨exists_parse_iff, fun e => parse_eq_error_iff, ?_⟩, ?_⟩
  · intro path h
    exact ⟨(parse_eq_ok_iff.mp h).1, upToZeros_of_parse h⟩
  · intro segments hne h
    exact parse_print hne h

theorem parse_inverts_print_maxIndex :
    (parse "schritte[007].titel" = .ok ⟨"schritte[007].titel",
        [⟨"schritte", some 7⟩, ⟨"titel", none⟩]⟩ ∧
      UpToZeros "schritte[007].titel".toList "schritte[7].titel".toList) ∧
    parse "][18446744073709551615]." =
      .ok ⟨"][18446744073709551615].", [⟨"]", some Segment.maxIndex⟩, ⟨"", none⟩]⟩ := by
  have hparse : parse "schritte[007].titel" = .ok ⟨"schritte[007].titel",
      [⟨"schritte", some 7⟩, ⟨"titel", none⟩]⟩ := Except.toOption_eq_some.mp (by decide +kernel)
  have hprintable : ∀ s ∈ [⟨"]", some Segment.maxIndex⟩, ⟨"", none⟩], Segment.Printable s := by
    rintro s (_ | ⟨_, _ | ⟨_, ⟨⟩⟩⟩)
    · exact ⟨by decide, by decide, by simp⟩
    · exact ⟨by decide, by decide, by simp⟩
  have hprint : String.ofList (print [⟨"]", some Segment.maxIndex⟩, ⟨"", none⟩]) =
      "][18446744073709551615]." := by decide +kernel
  refine ⟨⟨hparse, ?_⟩, ?_⟩
  · exact ((parse_inverts_print.1 _).printed _ hparse).2
  · have hread := parse_inverts_print.2 _ (List.cons_ne_nil _ _) hprintable
    rwa [hprint] at hread

end Path

end PropertyTemplates
