import PropertyTemplates.Proofs.Variables.Token

namespace PropertyTemplates.Variables

-- A piece of a text: a character that stands for itself, or a token.
inductive Piece where
  | plain (c : Char)
  | token (name : List Char)

namespace Piece

def print : Piece → List Char
  | .plain c => [c]
  | .token name => written name

def printAll (pieces : List Piece) : List Char := pieces.flatMap print

-- What is put for a piece: the value of a name that is known, just as it is.
def fill (v : Variables) : Piece → List Char
  | .plain c => [c]
  | .token name =>
    match v.get? (String.ofList name) with
    | some value => value.toList
    | none => written name

def fillAll (v : Variables) (pieces : List Piece) : List Char := pieces.flatMap (fill v)

-- A token is among the pieces after so many characters.
def TokenAt (pieces : List Piece) (start : Nat) (name : List Char) : Prop :=
  ∃ before after, pieces = before ++ .token name :: after ∧ (printAll before).length = start

-- A piece that is read as such in front of a text.
def Leads (rest : List Char) : Piece → Prop
  | .plain c => token? (c :: rest) = none
  | .token name => IsName name

variable {p : Piece} {pieces : List Piece} {start : Nat} {name rest : List Char}

theorem length_print_add_ne_zero (p : Piece) (k : Nat) : p.print.length + k ≠ 0 := by
  cases p <;> simp [print, written]

theorem printAll_cons (p : Piece) (pieces : List Piece) :
    printAll (p :: pieces) = p.print ++ printAll pieces := List.flatMap_cons

theorem tokenAt_cons :
    TokenAt (p :: pieces) start name ↔
      (start = 0 ∧ p = .token name) ∨ ∃ k, start = p.print.length + k ∧ TokenAt pieces k name := by
  constructor
  · rintro ⟨before, after, he, rfl⟩
    cases before with
    | nil =>
        cases he
        exact .inl ⟨rfl, rfl⟩
    | cons q before =>
        cases he
        rw [printAll_cons, List.length_append]
        exact .inr ⟨_, rfl, before, after, rfl, rfl⟩
  · rintro (⟨rfl, rfl⟩ | ⟨k, rfl, before, after, rfl, rfl⟩)
    · exact ⟨[], pieces, rfl, rfl⟩
    · exact ⟨p :: before, after, rfl, by rw [printAll_cons, List.length_append]⟩

-- The tokens of a text are its first piece, if that is one, and the tokens after it.
theorem Leads.tokenAt_iff (h : p.Leads rest) :
    Variables.TokenAt (p.print ++ rest) start name ↔
      (start = 0 ∧ p = .token name) ∨
        ∃ k, start = p.print.length + k ∧ Variables.TokenAt rest k name := by
  have hinside : 0 < start → start < p.print.length →
      ¬Variables.TokenAt (p.print ++ rest) start name := by
    intro hpos hlt
    cases p with
    | plain c => exact absurd hlt (Nat.not_lt.mpr hpos)
    | token first => exact not_tokenAt_inside h hpos hlt
  have hfront : Variables.TokenAt (p.print ++ rest) 0 name ↔ p = .token name := by
    rw [tokenAt_zero]
    cases p with
    | plain c =>
        have hnone : token? ((plain c).print ++ rest) = none := h
        simp [hnone]
    | token first =>
        have hsome : token? ((token first).print ++ rest) = some (first, rest) :=
          token?_eq_some_iff.mpr ⟨rfl, h⟩
        simp [hsome]
  rcases Nat.lt_or_ge start p.print.length with hlt | hge
  · rcases Nat.eq_zero_or_pos start with rfl | hpos
    · rw [hfront]
      simp [(p.length_print_add_ne_zero _).symm]
    · simp only [hinside hpos hlt, false_iff]
      omega
  · obtain ⟨k, rfl⟩ := Nat.exists_eq_add_of_le hge
    rw [tokenAt_append]
    simp only [p.length_print_add_ne_zero, false_and, false_or, Nat.add_left_cancel_iff,
      exists_eq_left']

end Piece

-- Follows a text piece by piece.
@[elab_as_elim]
theorem piece_induction {motive : List Char → Prop} (nil : motive [])
    (piece : ∀ (p : Piece) (rest : List Char), p.Leads rest → motive rest →
      motive (p.print ++ rest))
    (cs : List Char) : motive cs := by
  induction hn : cs.length using Nat.strongRecOn generalizing cs with
  | ind n ih =>
      cases ht : token? cs with
      | some found =>
          obtain ⟨name, rest⟩ := found
          have hrest : motive rest := ih _ (hn ▸ length_of_token? ht) rest rfl
          obtain ⟨rfl, hname⟩ := token?_eq_some_iff.mp ht
          exact piece (.token name) rest hname hrest
      | none =>
          cases cs with
          | nil => exact nil
          | cons c rest => exact piece (.plain c) rest ht (ih _ (by simp [← hn]) rest rfl)

theorem replaceIn_nil (v : Variables) : v.replaceIn [] = [] := by
  rw [replaceIn]
  rfl

theorem replaceIn_token (v : Variables) {cs name rest : List Char}
    (h : token? cs = some (name, rest)) :
    v.replaceIn cs = (Piece.token name).fill v ++ v.replaceIn rest := by
  rw [replaceIn]
  split
  · rename_i n r ht
    rw [h] at ht
    cases ht
    cases hv : v.get? (String.ofList name) with
    | some value => simp [Piece.fill, hv]
    | none => simp [Piece.fill, hv, written]
  · simp_all

theorem replaceIn_plain (v : Variables) {c : Char} {rest : List Char}
    (h : token? (c :: rest) = none) : v.replaceIn (c :: rest) = c :: v.replaceIn rest := by
  rw [replaceIn]
  split
  · simp_all
  · rfl

-- A text without an opening brace has nothing to replace.
theorem replaceIn_of_not_mem (v : Variables) {text : List Char} (h : '{' ∉ text) :
    v.replaceIn text = text := by
  induction text with
  | nil => exact replaceIn_nil v
  | cons c rest ih =>
      have hc : '{' ≠ c := List.ne_of_not_mem_cons h
      have hrest : '{' ∉ rest := List.not_mem_of_not_mem_cons h
      have hnone : token? (c :: rest) = none := by
        rw [token?]
        rintro _ ⟨⟩
        exact hc rfl
      rw [replaceIn_plain v hnone, ih hrest]

theorem replace_of_not_mem (v : Variables) {text : String} (h : '{' ∉ text.toList) :
    v.replace text = text := by
  rw [replace, replaceIn_of_not_mem v h, String.ofList_toList]

theorem replaceIn_print (v : Variables) {p : Piece} {rest : List Char} (h : p.Leads rest) :
    v.replaceIn (p.print ++ rest) = p.fill v ++ v.replaceIn rest := by
  cases p with
  | plain c => exact replaceIn_plain v h
  | token name => exact replaceIn_token v (token?_eq_some_iff.mpr ⟨rfl, h⟩)

-- A text in pieces, among which are all of its tokens.
structure IsCut (text : List Char) (pieces : List Piece) : Prop where
  print : Piece.printAll pieces = text
  tokens : ∀ start name, TokenAt text start name ↔ Piece.TokenAt pieces start name

section Cut

variable {rest text : List Char} {p : Piece} {pieces : List Piece}

theorem isCut_nil : IsCut [] [] := by
  refine ⟨rfl, fun start name => ⟨?_, ?_⟩⟩
  · rintro ⟨-, hprefix⟩
    simp [written] at hprefix
  · rintro ⟨before, after, he, -⟩
    simp at he

theorem IsCut.leads (h : IsCut text (p :: pieces)) : p.Leads (Piece.printAll pieces) := by
  have hzero : ∀ name, TokenAt text 0 name ↔ p = .token name := by
    intro name
    rw [h.tokens, Piece.tokenAt_cons]
    simp [(p.length_print_add_ne_zero _).symm]
  cases p with
  | token name => exact ((hzero name).mpr rfl).1
  | plain c =>
      have htext : text = c :: Piece.printAll pieces := h.print.symm
      cases hfront : token? (c :: Piece.printAll pieces) with
      | none => exact hfront
      | some found =>
          rw [← htext] at hfront
          have htoken := (hzero found.1).mp (tokenAt_zero.mpr ⟨found.2, hfront⟩)
          cases htoken

theorem isCut_cons (h : p.Leads rest) :
    IsCut (p.print ++ rest) (p :: pieces) ↔ IsCut rest pieces := by
  constructor
  · rintro ⟨htext, htokens⟩
    rw [Piece.printAll_cons] at htext
    refine ⟨List.append_cancel_left htext, fun start name => ?_⟩
    have hmore := htokens (p.print.length + start) name
    rw [h.tokenAt_iff, Piece.tokenAt_cons] at hmore
    simpa only [p.length_print_add_ne_zero, false_and, false_or, Nat.add_left_cancel_iff,
      exists_eq_left'] using hmore
  · rintro ⟨rfl, htokens⟩
    refine ⟨rfl, fun start name => ?_⟩
    rw [h.tokenAt_iff, Piece.tokenAt_cons]
    simp only [htokens]

theorem exists_isCut (text : List Char) : ∃ pieces, IsCut text pieces := by
  induction text using piece_induction with
  | nil => exact ⟨[], isCut_nil⟩
  | piece p rest h ih =>
      obtain ⟨pieces, hpieces⟩ := ih
      exact ⟨p :: pieces, (isCut_cons h).mpr hpieces⟩

theorem IsCut.replaceIn_eq (v : Variables) (h : IsCut text pieces) :
    v.replaceIn text = Piece.fillAll v pieces := by
  induction pieces generalizing text with
  | nil =>
      obtain rfl : [] = text := h.print
      exact replaceIn_nil v
  | cons p pieces ih =>
      have hleads := h.leads
      obtain rfl : p.print ++ Piece.printAll pieces = text := h.print
      rw [replaceIn_print v hleads, ih ((isCut_cons hleads).mp h)]
      rfl

end Cut

-- No token of the text goes across the place after so many characters.
def Uncut (text : List Char) (place : Nat) : Prop :=
  ∀ start name, TokenAt text start name →
    start + (written name).length ≤ place ∨ place ≤ start

-- Where no token goes across, what follows does not make a character the start of one.
theorem Piece.Leads.append {p : Piece} {rest back : List Char} (h : p.Leads rest)
    (huncut : Uncut (p.print ++ rest ++ back) (p.print ++ rest).length) :
    p.Leads (rest ++ back) := by
  cases p with
  | token name => exact h
  | plain c =>
      have hnone : token? (c :: rest) = none := h
      change Uncut (c :: rest ++ back) (c :: rest).length at huncut
      change token? (c :: rest ++ back) = none
      by_contra hsome
      obtain ⟨⟨name, more⟩, hfront⟩ := Option.ne_none_iff_exists'.mp hsome
      obtain ⟨he, hname⟩ := token?_eq_some_iff.mp hfront
      have hat : Variables.TokenAt (c :: rest ++ back) 0 name := tokenAt_zero.mpr ⟨more, hfront⟩
      have hle : (written name).length ≤ (c :: rest).length := by
        rcases huncut 0 name hat with hle | hle
        · rwa [Nat.zero_add] at hle
        · simp at hle
      obtain ⟨tail, htail⟩ : written name <+: c :: rest :=
        List.prefix_of_prefix_length_le ⟨more, he.symm⟩ ⟨back, rfl⟩ hle
      have hfound := token?_eq_some_iff.mpr ⟨htail.symm, hname⟩
      rw [hnone] at hfound
      cases hfound

theorem Uncut.of_append {front rest back : List Char}
    (h : Uncut (front ++ rest ++ back) (front ++ rest).length) :
    Uncut (rest ++ back) rest.length := by
  intro start name hat
  rw [List.append_assoc] at h
  have hmore := h (front.length + start) name (tokenAt_append.mpr hat)
  rw [List.length_append] at hmore
  omega

theorem replaceIn_append (v : Variables) {front back : List Char}
    (h : Uncut (front ++ back) front.length) :
    v.replaceIn (front ++ back) = v.replaceIn front ++ v.replaceIn back := by
  induction front using piece_induction with
  | nil => rw [replaceIn_nil, List.nil_append, List.nil_append]
  | piece p rest hleads ih =>
      rw [List.append_assoc, replaceIn_print v (hleads.append h), ih h.of_append,
        replaceIn_print v hleads, List.append_assoc]

-- Replacing puts in all values at once.
structure ReplacesAtOnce (v : Variables) (text : String) : Prop where
  -- Tokens do not overlap.
  disjoint : ∀ i j name other, TokenAt text.toList i name → TokenAt text.toList j other →
    (i = j ∧ name = other) ∨ i + (written name).length ≤ j ∨ j + (written other).length ≤ i
  -- The text can be cut at its tokens, and what is put for each is put between what is kept.
  cut : ∃ pieces, IsCut text.toList pieces
  filled : ∀ pieces, IsCut text.toList pieces →
    v.replace text = String.ofList (Piece.fillAll v pieces)
  -- Where no token goes across, both sides are replaced on their own.
  append : ∀ front back, front ++ back = text → Uncut text.toList front.length →
    v.replace text = v.replace front ++ v.replace back

theorem replace_atOnce (v : Variables) (text : String) : v.ReplacesAtOnce text where
  disjoint := fun _ _ _ _ h h' => h.disjoint h'
  cut := exists_isCut text.toList
  filled := fun _ h => congrArg String.ofList (h.replaceIn_eq v)
  append := by
    rintro front back rfl huncut
    rw [String.toList_append, ← String.length_toList] at huncut
    unfold replace
    rw [String.toList_append, replaceIn_append v huncut, String.ofList_append]

-- A token inside braces, and values that look like a token and like a reference to a group.
example :
    (ofList [("a", "{b}$1"), ("b", "x")]).replace "{a{b}}{a}{c}" = "{ax}{b}$1{c}" := by
  decide +kernel

end PropertyTemplates.Variables
