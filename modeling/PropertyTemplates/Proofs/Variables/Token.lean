import PropertyTemplates.Variables
import Mathlib.Data.List.TakeWhile

namespace PropertyTemplates.Variables

-- What can stand between the braces of a token.
structure IsName (name : List Char) : Prop where
  ne_nil : name ≠ []
  chars : ∀ c ∈ name, c ≠ '{' ∧ c ≠ '}' ∧ Text.isBlank c = false

-- The token of a name.
def written (name : List Char) : List Char := '{' :: (name ++ ['}'])

-- A token stands in a text after so many characters.
def TokenAt (text : List Char) (start : Nat) (name : List Char) : Prop :=
  IsName name ∧ written name <+: text.drop start

theorem length_written (name : List Char) : (written name).length = name.length + 2 := by
  simp [written]

theorem written_append (name rest : List Char) :
    written name ++ rest = '{' :: (name ++ '}' :: rest) := by
  simp [written]

theorem isNameChar_iff {c : Char} :
    isNameChar c = true ↔ c ≠ '{' ∧ c ≠ '}' ∧ Text.isBlank c = false := by
  simp [isNameChar, and_assoc]

theorem isName_iff {name : List Char} :
    IsName name ↔ name ≠ [] ∧ name.all isNameChar = true := by
  simp only [List.all_eq_true, isNameChar_iff]
  exact ⟨fun h => ⟨h.ne_nil, h.chars⟩, fun h => ⟨h.1, h.2⟩⟩

instance (name : List Char) : Decidable (IsName name) := decidable_of_iff' _ isName_iff

theorem token?_eq_some_iff {cs name rest : List Char} :
    token? cs = some (name, rest) ↔ cs = written name ++ rest ∧ IsName name := by
  rw [written_append]
  constructor
  · intro h
    unfold token? at h
    split at h
    · rename_i tail
      split at h
      · rename_i c run after hrun hafter
        cases h
        have htail := List.takeWhile_append_dropWhile (p := isNameChar) (l := tail)
        rw [hrun, hafter] at htail
        refine ⟨by rw [← htail], List.cons_ne_nil _ _, fun d hd => ?_⟩
        rw [← hrun] at hd
        exact isNameChar_iff.mp (List.mem_takeWhile_imp hd)
      · cases h
    · cases h
  · rintro ⟨rfl, hne, hchars⟩
    have hname : ∀ c ∈ name, isNameChar c = true := fun c hc => isNameChar_iff.mpr (hchars c hc)
    have hclose : isNameChar '}' = false := by decide
    obtain ⟨c, run, rfl⟩ := List.exists_cons_of_ne_nil hne
    have htake : ((c :: run) ++ '}' :: rest).takeWhile isNameChar = c :: run := by
      rw [List.takeWhile_append_of_pos hname, List.takeWhile_cons_of_neg (by simp [hclose]),
        List.append_nil]
    have hdrop : ((c :: run) ++ '}' :: rest).dropWhile isNameChar = '}' :: rest := by
      rw [List.dropWhile_append_of_pos hname, List.dropWhile_cons_of_neg (by simp [hclose])]
    rw [token?, htake, hdrop]
    rfl

section TokenAt

variable {name other rest text : List Char} {start i j : Nat}

theorem tokenAt_zero : TokenAt text 0 name ↔ ∃ rest, token? text = some (name, rest) := by
  simp only [token?_eq_some_iff, exists_and_right]
  rw [TokenAt, List.drop_zero, and_comm]
  exact and_congr_left fun _ => ⟨fun ⟨rest, h⟩ => ⟨rest, h.symm⟩, fun ⟨rest, h⟩ => ⟨rest, h.symm⟩⟩

theorem tokenAt_add : TokenAt text (i + j) name ↔ TokenAt (text.drop i) j name := by
  rw [TokenAt, TokenAt, List.drop_drop]

theorem tokenAt_append : TokenAt (text ++ rest) (text.length + j) name ↔ TokenAt rest j name := by
  rw [tokenAt_add, List.drop_left]

theorem TokenAt.name_eq (h : TokenAt text i name) (h' : TokenAt text i other) : name = other := by
  rw [← Nat.add_zero i, tokenAt_add, tokenAt_zero] at h h'
  obtain ⟨_, hname⟩ := h
  obtain ⟨_, hother⟩ := h'
  rw [hname] at hother
  cases hother
  rfl

-- No token starts inside another: what follows the first brace is not an opening brace.
theorem not_tokenAt_inside (hname : IsName name) (hpos : 0 < start)
    (hlt : start < (written name).length) : ¬TokenAt (written name ++ rest) start other := by
  rintro ⟨-, hprefix⟩
  obtain ⟨k, rfl⟩ := Nat.exists_eq_add_of_lt hpos
  rw [length_written] at hlt
  rw [written_append, Nat.zero_add, List.drop_succ_cons,
    List.drop_append_of_le_length (by omega)] at hprefix
  obtain ⟨more, hmore⟩ := hprefix
  rw [written_append] at hmore
  cases hdrop : name.drop k with
  | nil =>
      rw [hdrop] at hmore
      simp at hmore
  | cons d tail =>
      rw [hdrop, List.cons_append] at hmore
      have hd : d ∈ name := List.mem_of_mem_drop (hdrop ▸ List.mem_cons_self)
      exact (hname.chars d hd).1 (List.cons_eq_cons.mp hmore).1.symm

theorem TokenAt.le_of_lt (h : TokenAt text i name) (h' : TokenAt text j other) (hlt : i < j) :
    i + (written name).length ≤ j := by
  obtain ⟨k, rfl⟩ := Nat.exists_eq_add_of_lt hlt
  obtain ⟨hname, rest, hrest⟩ := h
  rw [Nat.add_assoc, tokenAt_add, ← hrest] at h'
  by_contra hinside
  exact not_tokenAt_inside hname (Nat.succ_pos k) (by omega) h'

theorem TokenAt.disjoint (h : TokenAt text i name) (h' : TokenAt text j other) :
    (i = j ∧ name = other) ∨ i + (written name).length ≤ j ∨ j + (written other).length ≤ i := by
  rcases Nat.lt_trichotomy i j with hlt | rfl | hgt
  · exact .inr (.inl (h.le_of_lt h' hlt))
  · exact .inl ⟨rfl, h.name_eq h'⟩
  · exact .inr (.inr (h'.le_of_lt h hgt))

end TokenAt

end PropertyTemplates.Variables
