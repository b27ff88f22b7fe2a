import PropertyTemplates.Json.Reading
import PropertyTemplates.Proofs.Decimal.Numeral

namespace PropertyTemplates.JsonValue

open Decimal

variable {c : Char} {cs cs' rest : List Char}

section Gaps

theorem skipGap_cons (h : isGap c = false) (cs : List Char) : skipGap (c :: cs) = c :: cs := by
  simp [skipGap, h]

theorem skipGap_newLine (depth : Nat) (cs : List Char) :
    skipGap (newLine depth ++ cs) = skipGap cs := by
  have hgap : ∀ c ∈ newLine depth, isGap c = true := by
    intro c hc
    rcases List.mem_cons.mp hc with rfl | hc
    · rfl
    · rw [List.eq_of_mem_replicate hc]
      rfl
  exact List.dropWhile_append_of_pos hgap

theorem isGap_of_isDigit (h : isDigit c = true) : isGap c = false := by
  obtain ⟨hlow, -⟩ := toNat_of_isDigit h
  simp only [isGap, Bool.or_eq_false_iff, beq_eq_false_iff_ne, ← Char.toNat_inj, ne_eq]
  simp
  omega

end Gaps

section Text

theorem hexValue?_digitChar : ∀ n < 16, Text.hexValue? (Nat.digitChar n) = some n := by
  decide

-- The four digits of a control character give the character back.
theorem hexChar?_digits (h : c.toNat < 32) :
    Text.hexChar? ['0', '0', Nat.digitChar (c.toNat / 16), Nat.digitChar (c.toNat % 16)] =
      some c := by
  have hzero : Text.hexValue? '0' = some 0 := rfl
  have hhigh := hexValue?_digitChar (c.toNat / 16) (by omega)
  have hlow := hexValue?_digitChar (c.toNat % 16) (by omega)
  have hsum : 16 * (c.toNat / 16) + c.toNat % 16 = c.toNat := by omega
  have hvalid : c.toNat.isValidChar := c.valid
  simp [Text.hexChar?, hzero, hhigh, hlow, hsum, hvalid, Char.ofNat_toNat]

theorem textBody?_letter (h : c ≠ 'u') (cs : List Char) :
    textBody? ('\\' :: c :: cs) = prepend? (shortEscape? c) (textBody? cs) := by
  rw [textBody?]
  rintro _ _ _ _ _ ⟨⟩
  exact absurd rfl h

theorem textBody?_plain (hquote : c ≠ '"') (hslash : c ≠ '\\') (h : ¬c.toNat < 32)
    (cs : List Char) : textBody? (c :: cs) = prepend? (some c) (textBody? cs) := by
  have hplain : plain? c = some c := by simp [plain?, h, hslash]
  rw [textBody?, hplain] <;> simp [hquote, hslash]

-- What is written for a character is read as the character.
theorem textBody?_escaped (c : Char) (cs : List Char) :
    textBody? (escaped c ++ cs) = prepend? (some c) (textBody? cs) := by
  unfold escaped
  split_ifs with hquote hslash _ _ _ _ _ hcontrol
  case neg => exact textBody?_plain hquote hslash hcontrol cs
  on_goal 8 =>
    rw [← hexChar?_digits hcontrol]
    rfl
  -- the short escapes
  all_goals
    subst c
    exact textBody?_letter (by decide) cs

theorem textBody?_written (s rest : List Char) :
    textBody? (s.flatMap escaped ++ '"' :: rest) = some (s, rest) := by
  induction s with
  | nil => rfl
  | cons c s ih =>
      rw [List.flatMap_cons, List.append_assoc, textBody?_escaped, ih]
      rfl

theorem skipGap_quote (s : String) (rest : List Char) :
    skipGap (quote s ++ rest) = '"' :: (s.toList.flatMap escaped ++ '"' :: rest) := by
  rw [quote, List.append_assoc]
  exact skipGap_cons rfl _

theorem quoted?_quote (s : String) (rest : List Char) :
    quoted? (quote s ++ rest) = some (s, rest) := by
  simp only [quoted?, skipGap_quote, textBody?_written, Option.map_some, String.ofList_toList]

end Text

theorem exists_numeral_eq_cons (n : Nat) :
    ∃ c cs, numeral n = c :: cs ∧ isDigit c = true := by
  obtain ⟨c, cs, hn⟩ := List.exists_cons_of_ne_nil (numeral_ne_nil n)
  exact ⟨c, cs, hn, isDigit_of_mem_numeral (n := n) (by simp [hn])⟩

theorem number?_numeral (n : Nat) (h : EndsNumber rest) :
    number? (numeral n ++ rest) = some (n, rest) := by
  obtain ⟨hrun, hrest⟩ := takeWhile_isDigit (fun _ hc => isDigit_of_mem_numeral (n := n) hc) h
  simp only [number?, hrun, hrest, value_numeral, if_true]

section Blocks

variable {α : Type} {read : List Char → Option (α × List Char)} {write : α → List Char}
  {closing : Char} {x : α} {xs : List α} {texts : List (List Char)} {text : List Char} {depth : Nat}

theorem length_le_intercalate (h : text ∈ texts) :
    text.length ≤ (List.intercalate [','] texts).length := by
  induction texts with
  | nil => cases h
  | cons first rest ih =>
      cases rest with
      | nil =>
          have hfirst : text = first := List.mem_singleton.mp h
          exact Nat.le_of_eq (by rw [hfirst, List.intercalate_singleton])
      | cons next rest =>
          rw [List.intercalate_cons_cons, List.length_append, List.length_append]
          rcases List.mem_cons.mp h with rfl | h
          · omega
          · have hnext := ih h
            omega

theorem length_lt_block (h : text ∈ texts) (opening closing : Char) (depth : Nat) :
    text.length < (block opening closing depth texts).length := by
  have hne : texts.isEmpty = false := List.isEmpty_eq_false_iff.mpr (List.ne_nil_of_mem h)
  have hmem : newLine (depth + 1) ++ text ∈ texts.map (newLine (depth + 1) ++ ·) :=
    List.mem_map_of_mem h
  have hle := length_le_intercalate hmem
  rw [List.length_append] at hle
  simp only [block, hne, Bool.false_eq_true, if_false, List.length_append, List.length_cons]
  omega

-- What stands behind an opening bracket when there are members.
def membersText (write : α → List Char) (closing : Char) (depth : Nat) (xs : List α) : List Char :=
  List.intercalate [','] ((xs.map write).map (newLine (depth + 1) ++ ·)) ++
    newLine depth ++ [closing]

theorem membersText_singleton : membersText write closing depth [x] =
    newLine (depth + 1) ++ write x ++ (newLine depth ++ [closing]) := by
  simp [membersText]

theorem membersText_cons {y : α} : membersText write closing depth (x :: y :: xs) =
    newLine (depth + 1) ++ write x ++ ',' :: membersText write closing depth (y :: xs) := by
  simp [membersText, List.intercalate_cons_cons]

-- Reading undoes writing behind a gap, and what is written does not look like the end.
structure Undoes (read : List Char → Option (α × List Char)) (closing : Char)
    (write : α → List Char) (x : α) : Prop where
  start : ∃ c cs, write x = c :: cs ∧ isGap c = false ∧ c ≠ closing
  written : ∀ depth rest, EndsNumber rest →
    read (newLine depth ++ write x ++ rest) = some (x, rest)

theorem members?_written (hcomma : ',' ≠ closing) (hgap : isGap closing = false)
    (h : ∀ y ∈ x :: xs, Undoes read closing write y) {most : Nat}
    (hmost : (membersText write closing depth (x :: xs)).length ≤ most) (rest : List Char) :
    members? read closing most (membersText write closing depth (x :: xs) ++ rest) =
      some (x :: xs, rest) := by
  have hx := (h x List.mem_cons_self).written (depth + 1)
  induction xs generalizing x most with
  | nil =>
      rw [membersText_singleton] at hmost ⊢
      cases most with
      | zero => simp at hmost
      | succ most =>
          have hend : EndsNumber (newLine depth ++ [closing] ++ rest) := endsNumber_cons _ rfl
          rw [List.append_assoc, members?, hx _ hend]
          simp [skipGap_newLine, skipGap_cons hgap]
  | cons y ys ih =>
      have hrest : ∀ z ∈ y :: ys, Undoes read closing write z :=
        fun z hz => h z (List.mem_cons_of_mem _ hz)
      have hy := (hrest y List.mem_cons_self).written (depth + 1)
      rw [membersText_cons] at hmost ⊢
      cases most with
      | zero => simp at hmost
      | succ most =>
          have hlen : (membersText write closing depth (y :: ys)).length ≤ most := by
            simp only [List.length_append, List.length_cons] at hmost
            omega
          have hend (cs : List Char) : EndsNumber (',' :: cs) := endsNumber_cons cs rfl
          have hskip (cs : List Char) : skipGap (',' :: cs) = ',' :: cs := skipGap_cons rfl cs
          rw [List.append_assoc, members?, List.cons_append, hx _ (hend _)]
          simp only [Option.bind_eq_bind, Option.bind_some, hskip, if_neg hcomma, if_true,
            ih hrest hlen hy, Option.map_some]

-- The members of a block are read back in order.
theorem block?_block (opening : Char) (hcomma : ',' ≠ closing) (hgap : isGap closing = false)
    (h : ∀ x ∈ xs, Undoes read closing write x) (depth : Nat) (rest : List Char) :
    ∃ body, block opening closing depth (xs.map write) = opening :: body ∧
      block? read closing (body ++ rest) = some (xs, rest) := by
  cases xs with
  | nil =>
      refine ⟨[closing], rfl, ?_⟩
      rw [block?, List.singleton_append, skipGap_cons hgap]
      exact if_pos rfl
  | cons x xs =>
      obtain ⟨c, cs, hwrite, hc, hne⟩ := (h x List.mem_cons_self).start
      have hstart : ∃ tail,
          skipGap (membersText write closing depth (x :: xs) ++ rest) = c :: tail := by
        cases xs with
        | nil =>
            rw [membersText_singleton, List.append_assoc, List.append_assoc, skipGap_newLine,
              hwrite]
            exact ⟨_, skipGap_cons hc _⟩
        | cons y ys =>
            rw [membersText_cons, List.append_assoc, List.append_assoc, skipGap_newLine, hwrite]
            exact ⟨_, skipGap_cons hc _⟩
      obtain ⟨tail, hstart⟩ := hstart
      refine ⟨membersText write closing depth (x :: xs), rfl, ?_⟩
      rw [block?, hstart]
      dsimp only
      rw [if_neg hne]
      exact members?_written hcomma hgap h (by simp) rest

end Blocks

section Documents

theorem printItems_eq (depth : Nat) (items : List JsonValue) :
    printItems depth items = items.map (print depth) := by
  induction items with
  | nil => rw [printItems, List.map_nil]
  | cons item items ih => rw [printItems, ih, List.map_cons]

-- A field between braces.
def printField (depth : Nat) (field : String × JsonValue) : List Char :=
  quote field.1 ++ ':' :: ' ' :: print depth field.2

theorem printFields_eq (depth : Nat) (fields : List (String × JsonValue)) :
    printFields depth fields = fields.map (printField depth) := by
  induction fields with
  | nil => rw [printFields, List.map_nil]
  | cons field fields ih =>
      rw [printFields, ih, List.map_cons]
      rfl

-- No document starts with a gap or a closing bracket.
theorem exists_print_eq_cons (depth : Nat) (v : JsonValue) :
    ∃ c cs, print depth v = c :: cs ∧ isGap c = false ∧ c ≠ ']' := by
  cases v with
  | null => exact ⟨'n', _, by rw [print]; rfl, rfl, by decide⟩
  | number n =>
      obtain ⟨c, cs, hn, hc⟩ := exists_numeral_eq_cons n
      refine ⟨c, cs, by rw [print, hn], isGap_of_isDigit hc, ?_⟩
      rintro rfl
      cases hc
  | text s => exact ⟨'"', _, by rw [print]; rfl, rfl, by decide⟩
  | list items =>
      refine ⟨'[', (print depth (.list items)).tail, ?_, rfl, by decide⟩
      rw [print, block]
      split <;> rfl
  | object fields =>
      refine ⟨'{', (print depth (.object fields)).tail, ?_, rfl, by decide⟩
      rw [print, block]
      split <;> rfl

theorem read?_congr {fuel : Nat} (h : skipGap cs = skipGap cs') :
    read? fuel cs = read? fuel cs' := by
  cases fuel with
  | zero => rw [read?, read?]
  | succ fuel => rw [read?, h, ← read?]

section Fields

variable {α : Type} (read : List Char → Option (α × List Char))

theorem field?_newLine (depth : Nat) (cs : List Char) :
    field? read (newLine depth ++ cs) = field? read cs := by
  simp only [field?, quoted?, skipGap_newLine]

theorem field?_quote (name : String) (cs : List Char) :
    field? read (quote name ++ ':' :: cs) =
      (read cs).map fun (value, rest) => ((name, value), rest) := by
  have hcolon : skipGap (':' :: cs) = ':' :: cs := skipGap_cons rfl cs
  simp only [field?, quoted?_quote, Option.bind_eq_bind, Option.bind_some, hcolon]

end Fields

theorem read?_numeral (fuel n : Nat) (hrest : EndsNumber rest) :
    read? (fuel + 1) (numeral n ++ rest) = some (.number n, rest) := by
  have hread := number?_numeral n hrest
  obtain ⟨c, cs, hn, hc⟩ := exists_numeral_eq_cons n
  rw [hn, List.cons_append] at hread ⊢
  rw [read?, skipGap_cons (isGap_of_isDigit hc)]
  split
  case h_5 => rw [hread, Option.map_some]
  -- no other kind of document starts with a digit
  all_goals
    rename_i h
    obtain ⟨rfl, -⟩ := List.cons_eq_cons.mp h
    cases hc

section Members

variable {fuel depth : Nat}

theorem undoes_print {item : JsonValue}
    (h : ∀ rest, EndsNumber rest → read? fuel (print depth item ++ rest) = some (item, rest)) :
    Undoes (read? fuel) ']' (print depth) item where
  start := exists_print_eq_cons depth item
  written d rest hrest := by
    rw [List.append_assoc, read?_congr (skipGap_newLine d _)]
    exact h rest hrest

theorem undoes_printField {field : String × JsonValue}
    (h : ∀ rest, EndsNumber rest →
      read? fuel (print depth field.2 ++ rest) = some (field.2, rest)) :
    Undoes (field? (read? fuel)) '}' (printField depth) field where
  start := ⟨'"', _, rfl, rfl, by decide⟩
  written d rest hrest := by
    have hblank : skipGap (' ' :: (print depth field.2 ++ rest)) =
        skipGap (print depth field.2 ++ rest) := rfl
    rw [List.append_assoc, field?_newLine, printField, List.append_assoc, List.cons_append,
      field?_quote, List.cons_append, read?_congr hblank, h rest hrest, Option.map_some]

end Members

-- Reading a document undoes writing it. The induction is on the depth that is allowed, which the
-- length of the text bounds from below.
theorem read?_print (fuel : Nat) (v : JsonValue) (depth : Nat)
    (hfuel : (print depth v).length ≤ fuel) (hrest : EndsNumber rest) :
    read? fuel (print depth v ++ rest) = some (v, rest) := by
  induction fuel generalizing v depth rest with
  | zero =>
      obtain ⟨c, cs, hv, -⟩ := exists_print_eq_cons depth v
      simp [hv] at hfuel
  | succ fuel ih =>
      cases v with
      | null =>
          rw [print]
          rfl
      | number n =>
          rw [print]
          exact read?_numeral fuel n hrest
      | text s =>
          rw [print, read?, skipGap_quote]
          simp only [textBody?_written, Option.map_some, String.ofList_toList]
      | list items =>
          rw [print, printItems_eq] at hfuel ⊢
          have hitems : ∀ item ∈ items, Undoes (read? fuel) ']' (print (depth + 1)) item := by
            intro item hitem
            have hlt := length_lt_block
              (List.mem_map_of_mem (f := print (depth + 1)) hitem) '[' ']' depth
            exact undoes_print fun rest hrest => ih item (depth + 1) (by omega) hrest
          obtain ⟨body, hblock, hread⟩ := block?_block '[' (by decide) rfl hitems depth rest
          rw [hblock, List.cons_append, read?, skipGap_cons rfl]
          simp only [hread, Option.map_some]
      | object fields =>
          rw [print, printFields_eq] at hfuel ⊢
          have hfields : ∀ field ∈ fields,
              Undoes (field? (read? fuel)) '}' (printField (depth + 1)) field := by
            intro field hfield
            have hlt := length_lt_block
              (List.mem_map_of_mem (f := printField (depth + 1)) hfield) '{' '}' depth
            have hlen : (print (depth + 1) field.2).length ≤ fuel := by
              simp only [printField, List.length_append, List.length_cons] at hlt
              omega
            exact undoes_printField fun rest hrest => ih field.2 (depth + 1) hlen hrest
          obtain ⟨body, hblock, hread⟩ := block?_block '{' (by decide) rfl hfields depth rest
          rw [hblock, List.cons_append, read?, skipGap_cons rfl]
          simp only [hread, Option.map_some]

-- The text of a document is read as the document.
theorem ofText?_toText (v : JsonValue) : ofText? v.toText = some v := by
  have hend : EndsNumber [] := nofun
  have hread := read?_print (print 0 v).length v 0 (Nat.le_refl _) hend
  rw [List.append_nil] at hread
  have hlength : v.toText.length = (print 0 v).length := by
    rw [toText, String.length_ofList]
  rw [ofText?, hlength, toText, String.toList_ofList, hread]
  rfl

end Documents

end PropertyTemplates.JsonValue
