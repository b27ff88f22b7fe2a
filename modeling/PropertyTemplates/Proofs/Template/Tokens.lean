import PropertyTemplates.Template.Token

namespace PropertyTemplates.Token

-- Follows a text the way it is scanned: past a placeholder at its front, or past one character.
@[elab_as_elim]
theorem front_induction {motive : List Char → Prop} (nil : motive [])
    (placeholder : ∀ cs inner rest, front? cs = some (inner, rest) → motive rest → motive cs)
    (literal : ∀ c rest, front? (c :: rest) = none → motive rest → motive (c :: rest))
    (cs : List Char) : motive cs := by
  induction hn : cs.length using Nat.strongRecOn generalizing cs with
  | ind n ih =>
      cases hf : front? cs with
      | some found =>
          obtain ⟨inner, rest⟩ := found
          exact placeholder cs inner rest hf (ih _ (hn ▸ length_of_front? hf) rest rfl)
      | none =>
          cases cs with
          | nil => exact nil
          | cons c rest => exact literal c rest hf (ih _ (by simp [← hn]) rest rfl)

theorem scan_nil (before : List Char) : scan before [] = withLiteral before.reverse [] := by
  rw [scan]
  simp [front?]

theorem scan_placeholder {cs inner rest : List Char} (before : List Char)
    (h : front? cs = some (inner, rest)) :
    scan before cs =
      withLiteral before.reverse (.placeholder (String.ofList inner) :: scan [] rest) := by
  rw [scan]
  split
  · rename_i i r hf
    rw [h] at hf
    cases hf
    rfl
  · simp_all

theorem scan_literal {c : Char} {rest : List Char} (before : List Char)
    (h : front? (c :: rest) = none) : scan before (c :: rest) = scan (c :: before) rest := by
  rw [scan]
  split
  · simp_all
  · rfl

-- A token in front of tokens; two literals that meet become one.
def push : Token → List Token → List Token
  | .literal a, .literal b :: tokens => .literal (a ++ b) :: tokens
  | token, tokens => token :: tokens

-- Token lists one after the other, as the tokens of one text.
def glue (front back : List Token) : List Token := front.foldr push back

theorem push_push (a b : String) (tokens : List Token) :
    push (.literal a) (push (.literal b) tokens) = push (.literal (a ++ b)) tokens := by
  cases tokens with
  | nil => rfl
  | cons t tokens => cases t <;> simp [push, String.append_assoc]

theorem glue_push (t : Token) (front back : List Token) :
    glue (push t front) back = push t (glue front back) := by
  cases t with
  | placeholder inner => rfl
  | literal a =>
      cases front with
      | nil => rfl
      | cons s front =>
          cases s with
          | placeholder inner => rfl
          | literal b => exact (push_push a b _).symm

-- The literal characters read so far are a literal in front of the tokens still to come.
theorem scan_cons (c : Char) (before cs : List Char) :
    scan (c :: before) cs =
      push (.literal (String.ofList (before.reverse ++ [c]))) (scan [] cs) := by
  induction cs using front_induction generalizing c before with
  | nil => simp [scan_nil, withLiteral, push]
  | placeholder cs inner rest h _ => simp [scan_placeholder _ h, withLiteral, push]
  | literal d rest h ih =>
      rw [scan_literal _ h, scan_literal _ h, ih d (c :: before), ih d [], push_push,
        ← String.ofList_append]
      simp only [List.reverse_cons, List.reverse_nil, List.nil_append]

theorem scan_of_literal {c : Char} {rest : List Char} (h : front? (c :: rest) = none) :
    scan [] (c :: rest) = push (.literal (String.ofList [c])) (scan [] rest) := by
  rw [scan_literal [] h, scan_cons]
  rfl

theorem scan_of_placeholder {cs inner rest : List Char} (h : front? cs = some (inner, rest)) :
    scan [] cs = push (.placeholder (String.ofList inner)) (scan [] rest) := by
  rw [scan_placeholder [] h]
  rfl

@[simp] theorem mem_push (p : String) (t : Token) (tokens : List Token) :
    .placeholder p ∈ push t tokens ↔ .placeholder p = t ∨ .placeholder p ∈ tokens := by
  unfold push
  split <;> simp

@[simp] theorem mem_glue (p : String) (front back : List Token) :
    .placeholder p ∈ glue front back ↔ .placeholder p ∈ front ∨ .placeholder p ∈ back := by
  induction front with
  | nil => simp [glue]
  | cons t front ih =>
      have ih' : .placeholder p ∈ front.foldr push back ↔ _ := ih
      simp [glue, ih', or_assoc]

-- No literal among the tokens holds an opening brace.
def BraceFree (tokens : List Token) : Prop := ∀ text, .literal text ∈ tokens → '{' ∉ text.toList

theorem braceFree_cons (t : Token) (tokens : List Token) :
    BraceFree (t :: tokens) ↔ BraceFree [t] ∧ BraceFree tokens := by
  simp only [BraceFree, List.mem_cons, List.not_mem_nil, or_false]
  constructor
  · exact fun h => ⟨fun text he => h text (.inl he), fun text he => h text (.inr he)⟩
  · rintro ⟨hh, ht⟩ text (he | he)
    · exact hh text he
    · exact ht text he

theorem braceFree_literal (text : String) : BraceFree [.literal text] ↔ '{' ∉ text.toList := by
  simp [BraceFree]

theorem braceFree_push (t : Token) (tokens : List Token) :
    BraceFree (push t tokens) ↔ BraceFree [t] ∧ BraceFree tokens := by
  unfold push
  split
  · rename_i a b tokens
    rw [braceFree_cons, braceFree_cons (.literal b), braceFree_literal, braceFree_literal,
      braceFree_literal, String.toList_append, List.mem_append, not_or, and_assoc]
  · exact braceFree_cons _ _

theorem braceFree_glue (front back : List Token) :
    BraceFree (glue front back) ↔ BraceFree front ∧ BraceFree back := by
  induction front with
  | nil => simp [glue, BraceFree]
  | cons t front ih =>
      change BraceFree (push t (glue front back)) ↔ _
      rw [braceFree_push, ih, braceFree_cons t front, and_assoc]

theorem closing?_newline (cs : List Char) : closing? ('\n' :: cs) = none := by simp [closing?]

theorem closing?_braces (cs : List Char) : closing? ('}' :: '}' :: cs) = some ([], cs) := by
  simp [closing?]

theorem closing?_inner {c : Char} {cs : List Char} (hc : c ≠ '\n')
    (hb : ¬(c = '}' ∧ cs.head? = some '}')) :
    closing? (c :: cs) = (closing? cs).map fun (inner, rest) => (c :: inner, rest) := by
  rw [closing?.eq_def]
  simp only [hc, ite_false]
  split
  · exact absurd ⟨rfl, rfl⟩ hb
  · rfl

-- A placeholder ends at its own closing braces, whatever comes after them.
theorem closing?_append {cs inner rest : List Char} (more : List Char)
    (h : closing? cs = some (inner, rest)) : closing? (cs ++ more) = some (inner, rest ++ more) := by
  induction cs generalizing inner with
  | nil => simp [closing?] at h
  | cons c cs ih =>
      by_cases hc : c = '\n'
      · subst hc
        simp [closing?_newline] at h
      by_cases hb : c = '}' ∧ cs.head? = some '}'
      · obtain ⟨rfl, hd⟩ := hb
        obtain ⟨tail, rfl⟩ := List.head?_eq_some_iff.mp hd
        rw [closing?_braces] at h
        cases h
        exact closing?_braces _
      · rw [closing?_inner hc hb] at h
        obtain ⟨⟨i, r⟩, hr, he⟩ := Option.map_eq_some_iff.mp h
        cases he
        have hne : cs ≠ [] := by
          rintro rfl
          simp [closing?] at hr
        have hb' : ¬(c = '}' ∧ (cs ++ more).head? = some '}') := by
          cases cs with
          | nil => exact absurd rfl hne
          | cons d cs => exact hb
        rw [List.cons_append, closing?_inner hc hb', ih hr]
        rfl

theorem front?_append {cs inner rest : List Char} (more : List Char)
    (h : front? cs = some (inner, rest)) : front? (cs ++ more) = some (inner, rest ++ more) := by
  unfold front? at h
  split at h
  · exact closing?_append more h
  · simp at h

theorem front?_of_ne {c : Char} (cs : List Char) (h : c ≠ '{') : front? (c :: cs) = none := by
  unfold front?
  split
  · simp_all
  · rfl

-- Where no literal of the first text holds an opening brace, no placeholder spans the border.
theorem scan_append {front : List Char} (back : List Char) (h : BraceFree (scan [] front)) :
    scan [] (front ++ back) = glue (scan [] front) (scan [] back) := by
  induction front using front_induction with
  | nil => simp [scan_nil, withLiteral, glue]
  | placeholder cs inner rest hf ih =>
      rw [scan_of_placeholder hf, braceFree_push] at h
      rw [scan_of_placeholder hf, scan_of_placeholder (front?_append back hf), ih h.2, glue_push]
  | literal c rest hf ih =>
      rw [scan_of_literal hf, braceFree_push, braceFree_literal] at h
      have hc : c ≠ '{' := by
        rintro rfl
        simp at h
      rw [scan_of_literal hf, List.cons_append, scan_of_literal (front?_of_ne _ hc), ih h.2,
        glue_push]

theorem scan_of_not_mem {cs : List Char} (h : '{' ∉ cs) : scan [] cs = withLiteral cs [] := by
  induction cs with
  | nil => simp [scan_nil, withLiteral]
  | cons c rest ih =>
      simp only [List.mem_cons, not_or] at h
      rw [scan_of_literal (front?_of_ne rest (Ne.symm h.1)), ih h.2]
      cases rest with
      | nil => rfl
      | cons d rest =>
          simp only [withLiteral, push, List.isEmpty_cons, Bool.false_eq_true, ite_false,
            ← String.ofList_append, List.singleton_append]

theorem hasPlaceholderIn_iff (cs : List Char) :
    hasPlaceholderIn cs = true ↔ ∃ p, .placeholder p ∈ scan [] cs := by
  induction cs using front_induction with
  | nil => simp [hasPlaceholderIn, scan_nil, withLiteral]
  | placeholder cs inner rest h _ =>
      have hp : hasPlaceholderIn cs = true := by
        cases cs with
        | nil => simp [front?] at h
        | cons c cs => simp [hasPlaceholderIn, h]
      simp [hp, scan_of_placeholder h]
  | literal c rest h ih => simp [hasPlaceholderIn, h, ih, scan_of_literal h]

section Fill

variable {m : Type → Type} [Monad m]

-- The text in which every placeholder is replaced by what `put` makes of it.
def fill (put : String → m String) : List Token → m String
  | [] => pure ""
  | .literal text :: tokens => do return text ++ (← fill put tokens)
  | .placeholder inner :: tokens => do
    let text ← put inner
    return text ++ (← fill put tokens)

variable [LawfulMonad m] (put : String → m String)

theorem fill_push (t : Token) (tokens : List Token) :
    fill put (push t tokens) = fill put (t :: tokens) := by
  unfold push
  split
  · simp [fill, String.append_assoc]
  · rfl

theorem fill_glue (front back : List Token) :
    fill put (glue front back) = do return (← fill put front) ++ (← fill put back) := by
  induction front with
  | nil => simp only [glue, List.foldr_nil, fill, pure_bind, String.empty_append, bind_pure]
  | cons t front ih =>
      change fill put (push t (glue front back)) = _
      rw [fill_push]
      cases t <;> simp only [fill, ih, bind_assoc, pure_bind, String.append_assoc]

-- A text without placeholders stays as it is.
theorem fill_scan_of_none {cs : List Char} (h : ∀ p, .placeholder p ∉ scan [] cs) :
    fill put (scan [] cs) = pure (String.ofList cs) := by
  induction cs using front_induction with
  | nil => simp [scan_nil, withLiteral, fill]
  | placeholder cs inner rest hf _ =>
      exact absurd (by simp [scan_of_placeholder hf]) (h (String.ofList inner))
  | literal c rest hf ih =>
      have hrest : ∀ p, .placeholder p ∉ scan [] rest := by
        intro p hp
        exact h p (by simp [scan_of_literal hf, hp])
      rw [scan_of_literal hf, fill_push]
      simp only [fill, ih hrest, pure_bind, ← String.ofList_append, List.singleton_append]

end Fill

end PropertyTemplates.Token
