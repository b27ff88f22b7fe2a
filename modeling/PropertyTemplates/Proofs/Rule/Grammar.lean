import PropertyTemplates.Proofs.Decimal.Numeral
import PropertyTemplates.Proofs.Except
import PropertyTemplates.Proofs.Pattern.GroupNames
import PropertyTemplates.Proofs.Rule.Application

namespace PropertyTemplates

open Decimal

namespace Replacement

variable {count : Nat} {names : List String} {cs digits digits' inner rest rest' : List Char}
  {items : List ReplacementItem}

theorem braced?_append (h : '}' ∉ inner) : braced? (inner ++ '}' :: rest) = some (inner, rest) := by
  have hinner : ∀ c ∈ inner, (c != '}') = true := by
    intro c hc
    exact bne_iff_ne.mpr (fun heq => h (heq ▸ hc))
  unfold braced?
  rw [List.dropWhile_append_of_pos hinner, List.takeWhile_append_of_pos hinner]
  simp

theorem eq_of_braced? (h : braced? cs = some (inner, rest)) :
    cs = inner ++ '}' :: rest ∧ '}' ∉ inner := by
  unfold braced? at h
  split at h
  · rename_i c tail hdrop
    cases h
    have hclose : c = '}' := by
      have hc := List.head?_dropWhile_not (· != '}') cs
      rw [hdrop] at hc
      simpa using hc
    have hinner := List.all_takeWhile (p := (· != '}')) (l := cs)
    subst hclose
    refine ⟨?_, fun hmem => ?_⟩
    · rw [← hdrop, List.takeWhile_append_dropWhile]
    · simpa using List.all_eq_true.mp hinner '}' hmem
  · cases h

-- The digits of a group's number and the text after them: with more of the digits that follow, the
-- number would be too big.
structure GroupNumber (count : Nat) (digits rest : List Char) : Prop where
  nonempty : digits ≠ []
  digit : ∀ c ∈ digits, isDigit c = true
  le : value digits ≤ count
  longest : ∀ more, more ≠ [] → more <+: rest → (∀ c ∈ more, isDigit c = true) →
    count < value (digits ++ more)

-- How a text says which pieces a replacement is made of.
inductive Written (count : Nat) (names : List String) : List Char → List ReplacementItem → Prop where
  | nil : Written count names [] []
  | literal (c : Char) {rest : List Char} {items : List ReplacementItem} (hdollar : c ≠ '$')
      (hescape : c ≠ '\\') (hrest : Written count names rest items) :
      Written count names (c :: rest) (.literal c :: items)
  | escaped (c : Char) {rest : List Char} {items : List ReplacementItem}
      (hrest : Written count names rest items) :
      Written count names ('\\' :: c :: rest) (.literal c :: items)
  | named {inner rest : List Char} {items : List ReplacementItem} (hclose : '}' ∉ inner)
      (hname : String.ofList inner ∈ names) (hrest : Written count names rest items) :
      Written count names ('$' :: '{' :: (inner ++ '}' :: rest))
        (.named (String.ofList inner) :: items)
  | group {digits rest : List Char} {items : List ReplacementItem}
      (hnumber : GroupNumber count digits rest) (hrest : Written count names rest items) :
      Written count names ('$' :: (digits ++ rest)) (.group (value digits) :: items)

-- The invariant is that the digits so far denote a group.
theorem groupNumber_extendIndex (hne : digits ≠ []) (hdigit : ∀ c ∈ digits, isDigit c = true)
    (hle : value digits ≤ count) (cs : List Char) :
    ∃ more rest, cs = more ++ rest ∧ GroupNumber count (digits ++ more) rest ∧
      extendIndex count (value digits) cs = (value (digits ++ more), rest) := by
  induction cs generalizing digits with
  | nil =>
      refine ⟨[], [], rfl, ?_, by simp [extendIndex]⟩
      rw [List.append_nil]
      refine ⟨hne, hdigit, hle, ?_⟩
      intro more hmore hprefix
      exact absurd (List.prefix_nil.mp hprefix) hmore
  | cons c cs ih =>
      unfold extendIndex
      split
      · rename_i hnext
        rw [← value_concat] at hnext ⊢
        have hdigit' : ∀ d ∈ digits ++ [c], isDigit d = true := by
          intro d hd
          rcases List.mem_append.mp hd with hd | hd
          · exact hdigit d hd
          · rw [List.mem_singleton.mp hd]
            exact hnext.1
        obtain ⟨more, rest, hcs, hnumber, hextend⟩ := ih (by simp) hdigit' hnext.2
        rw [List.append_assoc] at hnumber hextend
        exact ⟨c :: more, rest, by rw [hcs]; rfl, hnumber, hextend⟩
      · rename_i hstop
        refine ⟨[], c :: cs, rfl, ?_, by simp⟩
        rw [List.append_nil]
        refine ⟨hne, hdigit, hle, ?_⟩
        rintro (_ | ⟨d, more⟩) hmore hprefix hdigits
        · exact absurd rfl hmore
        · obtain ⟨rfl, -⟩ := List.cons_prefix_cons.mp hprefix
          have hover : count < value (digits ++ [d]) := by
            rw [value_concat]
            exact Nat.lt_of_not_le fun hle' =>
              hstop ⟨hdigits d List.mem_cons_self, hle'⟩
          have hmono := value_le_append (digits ++ [d]) more
          rw [← List.singleton_append, ← List.append_assoc]
          exact Nat.lt_of_lt_of_le hover hmono

theorem groupNumber_of_digit {c : Char} (hc : isDigit c = true) (hle : digitValue c ≤ count)
    (cs : List Char) :
    ∃ more rest, cs = more ++ rest ∧ GroupNumber count (c :: more) rest ∧
      extendIndex count (digitValue c) cs = (value (c :: more), rest) := by
  rw [← value_singleton] at hle ⊢
  exact groupNumber_extendIndex (List.cons_ne_nil c []) (by simpa using hc) hle cs

-- Of two numbers in front of one text the shorter one could be extended.
theorem GroupNumber.not_longer {more : List Char} (h : GroupNumber count digits (more ++ rest))
    (h' : GroupNumber count (digits ++ more) rest) : more = [] := by
  by_cases hmore : more = []
  · exact hmore
  · have hdigit : ∀ c ∈ more, isDigit c = true :=
      fun c hc => h'.digit c (List.mem_append_right digits hc)
    have hover := h.longest more hmore (List.prefix_append more rest) hdigit
    exact absurd h'.le (Nat.not_le.mpr hover)

theorem GroupNumber.unique (h : GroupNumber count digits rest)
    (h' : GroupNumber count digits' rest') (heq : digits ++ rest = digits' ++ rest') :
    digits = digits' ∧ rest = rest' := by
  rcases List.append_eq_append_iff.mp heq with ⟨more, rfl, rfl⟩ | ⟨more, rfl, rfl⟩
  · obtain rfl := h.not_longer h'
    simp
  · obtain rfl := h'.not_longer h
    simp

theorem read_literal {c : Char} (hdollar : c ≠ '$') (hescape : c ≠ '\\') (rest : List Char) :
    read count names (c :: rest) = (do return .literal c :: (← read count names rest)) :=
  read.eq_7 count names c rest (fun h => absurd h hescape) (fun _ _ h => absurd h hescape)
    (fun _ h => absurd h hdollar) (fun _ _ h => absurd h hdollar) (fun h => absurd h hdollar)

theorem read_named (hclose : '}' ∉ inner) (hname : String.ofList inner ∈ names)
    (rest : List Char) :
    read count names ('$' :: '{' :: (inner ++ '}' :: rest)) =
      (do return .named (String.ofList inner) :: (← read count names rest)) := by
  rw [read]
  split
  · rename_i hnone
    rw [braced?_append hclose] at hnone
    cases hnone
  · rename_i inner' after hsome
    rw [braced?_append hclose] at hsome
    cases hsome
    simp [hname]

theorem read_group (hnumber : GroupNumber count digits rest) :
    read count names ('$' :: (digits ++ rest)) =
      (do return .group (value digits) :: (← read count names rest)) := by
  obtain ⟨c, more, rfl⟩ := List.exists_cons_of_ne_nil hnumber.nonempty
  have hc : isDigit c = true := hnumber.digit c List.mem_cons_self
  have hle : digitValue c ≤ count := by
    have hmono := Nat.le_trans (value_le_append [c] more) hnumber.le
    rwa [value_singleton] at hmono
  have hbrace : c ≠ '{' := by
    rintro rfl
    exact absurd hc (by decide)
  obtain ⟨more', rest', hsplit, hnumber', hextend⟩ := groupNumber_of_digit hc hle (more ++ rest)
  obtain ⟨hmore, rfl⟩ := hnumber.unique hnumber' (by rw [List.cons_append, hsplit, List.cons_append])
  rw [← hmore] at hextend
  rw [List.cons_append, read.eq_5 count names c (more ++ rest) hbrace]
  simp [hc, hle, hextend]

-- Every piece that is read has been written.
theorem written_of_read (h : read count names cs = .ok items) : Written count names cs items := by
  fun_induction read count names cs generalizing items with
  | case1 =>
      cases h
      exact .nil
  | case3 c rest ih =>
      obtain ⟨following, hread, h⟩ := Except.bind_eq_ok.mp h
      cases h
      exact .escaped c (ih hread)
  | case5 rest inner after hsome name hname =>
      rename_i ih
      obtain ⟨rfl, hclose⟩ := eq_of_braced? hsome
      obtain ⟨following, hread, h⟩ := Except.bind_eq_ok.mp h
      cases h
      exact .named hclose hname (ih hread)
  | case7 c rest hbrace hc hle index =>
      rename_i ih
      obtain ⟨more, after, hrest, hnumber, hextend⟩ := groupNumber_of_digit hc hle rest
      obtain ⟨following, hread, h⟩ := Except.bind_eq_ok.mp h
      cases h
      simp only [index, hextend] at ih hread ⊢
      rw [hrest, ← List.cons_append]
      exact .group hnumber (ih hread)
  | case11 c rest hlast hescape hnamed hgroup hdollar ih =>
      have hc : c ≠ '$' := by
        rintro rfl
        cases rest with
        | nil => exact hdollar rfl rfl
        | cons d rest => exact hgroup d rest rfl rfl
      have hc' : c ≠ '\\' := by
        rintro rfl
        cases rest with
        | nil => exact hlast rfl rfl
        | cons d rest => exact hescape d rest rfl rfl
      obtain ⟨following, hread, h⟩ := Except.bind_eq_ok.mp h
      cases h
      exact .literal c hc hc' (ih hread)
  | case2 | case4 | case6 | case8 | case9 | case10 => cases h

theorem Written.read (h : Written count names cs items) : read count names cs = .ok items := by
  induction h with
  | nil => rw [Replacement.read]
  | literal c hdollar hescape hrest ih =>
      rw [read_literal hdollar hescape, ih]
      rfl
  | escaped c hrest ih =>
      rw [Replacement.read, ih]
      rfl
  | named hclose hname hrest ih =>
      rw [read_named hclose hname, ih]
      rfl
  | group hnumber hrest ih =>
      rw [read_group hnumber, ih]
      rfl

theorem read_eq_ok_iff : read count names cs = .ok items ↔ Written count names cs items :=
  ⟨written_of_read, Written.read⟩

section Expansion

variable (group : Nat → List Char) (named : String → List Char)

theorem expand_literal (c : Char) (rest : List Char) :
    expand group named (printItem (.literal c) ++ rest) = c :: expand group named rest := by
  by_cases hc : c = '$'
  · subst hc
    exact expand.eq_2 group named rest
  · rw [printItem, if_neg hc]
    exact expand.eq_4 group named c rest (fun _ h => absurd h hc) (fun _ h => absurd h hc)

theorem expand_braced (hclose : '}' ∉ inner) (rest : List Char) :
    expand group named ('$' :: '{' :: (inner ++ '}' :: rest)) =
      (if inner ≠ [] ∧ inner.all isDigit then group (value inner)
        else named (String.ofList inner)) ++ expand group named rest := by
  rw [expand]
  split
  · rename_i inner' after hsome
    rw [braced?_append hclose] at hsome
    cases hsome
    rfl
  · rename_i hnone
    rw [braced?_append hclose] at hnone
    cases hnone

theorem expand_group (index : Nat) (rest : List Char) :
    expand group named (printItem (.group index) ++ rest) =
      group index ++ expand group named rest := by
  have hclose : '}' ∉ numeral index := by
    intro hmem
    exact absurd (isDigit_of_mem_numeral hmem) (by decide)
  have hdigits : (numeral index).all isDigit = true :=
    List.all_eq_true.mpr fun _ hc => isDigit_of_mem_numeral hc
  have hexpand := expand_braced group named hclose rest
  rw [if_pos ⟨numeral_ne_nil index, hdigits⟩, value_numeral] at hexpand
  simpa [printItem] using hexpand

theorem expand_named (hclose : '}' ∉ inner) (hdigits : inner.all isDigit = false)
    (rest : List Char) :
    expand group named (printItem (.named (String.ofList inner)) ++ rest) =
      named (String.ofList inner) ++ expand group named rest := by
  have hexpand := expand_braced group named hclose rest
  rw [if_neg (by simp [hdigits])] at hexpand
  simpa [printItem] using hexpand

end Expansion

end Replacement

-- What a piece puts in place of a match, given what the groups have matched.
def ReplacementItem.text (group : Nat → List Char) (named : String → List Char) :
    ReplacementItem → List Char
  | .literal c => [c]
  | .group index => group index
  | .named name => named name

namespace Replacement

variable {count : Nat} {names : List String} {cs : List Char} {items : List ReplacementItem}

-- Printing a replacement keeps its meaning, for no name of a group looks like a number.
theorem Written.expand_print (h : Written count names cs items)
    (hnames : ∀ name ∈ names, name.toList.all isDigit = false) (group : Nat → List Char)
    (named : String → List Char) :
    expand group named (print items) = items.flatMap (·.text group named) := by
  unfold print
  induction h with
  | nil => exact expand.eq_1 group named
  | literal c _ _ _ ih | escaped c _ ih =>
      rw [List.flatMap_cons, List.flatMap_cons, expand_literal, ih]
      rfl
  | named hclose hname _ ih =>
      have hdigits := hnames _ hname
      rw [String.toList_ofList] at hdigits
      rw [List.flatMap_cons, List.flatMap_cons, expand_named group named hclose hdigits, ih]
      rfl
  | group _ _ ih =>
      rw [List.flatMap_cons, List.flatMap_cons, expand_group, ih]
      rfl

end Replacement

namespace Rule

open Replacement (Written)

variable {r : Rule} {p : Pattern} {items : List ReplacementItem}

theorem compile_eq_ok (hp : Pattern.parse r.pattern = .ok p) {compiled : CompiledRule} :
    r.compile = .ok compiled ↔
      ∃ items, Written p.groupCount p.groupNames r.replacement.toList items ∧
        ⟨p, Replacement.print items⟩ = compiled := by
  have hpattern : r.readPattern = .ok p := Except.mapError_eq_ok.mpr hp
  unfold compile readReplacement
  rw [hpattern, Except.ok_bind, Except.bind_eq_ok]
  simp only [Except.mapError_eq_ok, Replacement.read_eq_ok_iff, Except.pure_eq_ok, Except.ok.injEq]

theorem compile_eq_error (hp : Pattern.parse r.pattern = .ok p) {e : RuleError} :
    r.compile = .error e ↔
      ∃ cause, Replacement.read p.groupCount p.groupNames r.replacement.toList = .error cause ∧
        .badReplacement r.replacement cause = e := by
  have hpattern : r.readPattern = .ok p := Except.mapError_eq_ok.mpr hp
  unfold compile readReplacement
  rw [hpattern, Except.ok_bind, Except.bind_eq_error, Except.mapError_eq_error]
  simp

-- A replacement is refused if and only if it cannot be written, and the printed form of one that
-- is accepted means what was written.
theorem compile_replacement (hp : Pattern.parse r.pattern = .ok p) :
    ((∃ cause, r.compile = .error (.badReplacement r.replacement cause)) ↔
      ¬∃ items, Written p.groupCount p.groupNames r.replacement.toList items) ∧
    ∀ items, Written p.groupCount p.groupNames r.replacement.toList items →
      ∃ compiled, r.compile = .ok compiled ∧ compiled.pattern = p ∧
        ∀ group named, Replacement.expand group named compiled.template =
          items.flatMap (·.text group named) := by
  refine ⟨⟨?_, ?_⟩, ?_⟩
  · rintro ⟨cause, herror⟩ ⟨items, hw⟩
    rw [(compile_eq_ok hp).mpr ⟨items, hw, rfl⟩] at herror
    cases herror
  · intro hnone
    cases hc : r.compile with
    | ok compiled =>
        obtain ⟨items, hw, -⟩ := (compile_eq_ok hp).mp hc
        exact absurd ⟨items, hw⟩ hnone
    | error e =>
        obtain ⟨cause, -, rfl⟩ := (compile_eq_error hp).mp hc
        exact ⟨cause, rfl⟩
  · intro items hw
    refine ⟨_, (compile_eq_ok hp).mpr ⟨items, hw, rfl⟩, rfl, ?_⟩
    exact hw.expand_print fun name hname => (Pattern.isGroupName_of_parse hp hname).not_digits

def yearRule (replacement : String) : Rule := ⟨"(?P<year>a)(b)", replacement⟩

def yearPattern : Pattern :=
  ⟨.seq (.group 1 (some "year") (.char (.range 97 97))) (.group 2 none (.char (.range 98 98)))⟩

-- There is no third group, and the ten after the name means the first group and a zero.
theorem compile_replacement_year :
    (∃ cause, (yearRule "$3").compile = .error (.badReplacement "$3" cause)) ∧
    ∃ compiled, (yearRule "\\$$2$\x7byear\x7d$10x").compile = .ok compiled ∧
      compiled.pattern = yearPattern ∧
      ∀ group named, Replacement.expand group named compiled.template =
        ['$'] ++ group 2 ++ named "year" ++ group 1 ++ ['0', 'x'] := by
  have hp : Pattern.parse "(?P<year>a)(b)" = .ok yearPattern :=
    Except.toOption_eq_some.mp (by decide +kernel)
  refine ⟨(compile_replacement hp).1.mpr ?_, ?_⟩
  · rintro ⟨items, hw⟩
    have hread : (Replacement.read yearPattern.groupCount yearPattern.groupNames
        (yearRule "$3").replacement.toList).toOption = none := by decide +kernel
    rw [hw.read] at hread
    cases hread
  · have hw : Written yearPattern.groupCount yearPattern.groupNames
        (yearRule "\\$$2$\x7byear\x7d$10x").replacement.toList
        [.literal '$', .group 2, .named "year", .group 1, .literal '0', .literal 'x'] :=
      Replacement.read_eq_ok_iff.mp (Except.toOption_eq_some.mp (by decide +kernel))
    obtain ⟨compiled, hcompile, hpattern, hexpand⟩ := (compile_replacement hp).2 _ hw
    refine ⟨compiled, hcompile, hpattern, fun group named => ?_⟩
    rw [hexpand]
    simp [ReplacementItem.text]

-- What a rule puts for its matches is what its replacement says.
theorem apply_of_written (hp : Pattern.parse r.pattern = .ok p)
    (hw : Written p.groupCount p.groupNames r.replacement.toList items) (text : String) :
    r.apply text = .ok (String.ofList (p.replaceAll (fun m after =>
      items.flatMap (·.text (m.group after)
        (CompiledRule.namedGroup ⟨p, Replacement.print items⟩ m after))) text.toList)) := by
  refine apply_eq_ok.mpr ⟨_, (compile_eq_ok hp).mpr ⟨items, hw, rfl⟩, ?_⟩
  unfold CompiledRule.apply CompiledRule.put
  simp only [hw.expand_print fun name hname => (Pattern.isGroupName_of_parse hp hname).not_digits]

end Rule

end PropertyTemplates
