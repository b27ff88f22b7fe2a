import PropertyTemplates.Proofs.Template.Rounds
import Mathlib.Data.List.Chain
import Mathlib.Logic.Relation

namespace PropertyTemplates

-- The text that stands for a placeholder, if its path can be evaluated.
def replacement? (root : Object) (p : String) : Option String :=
  match root.evaluate p with
  | .ok text => some (text.getD absentText)
  | .error _ => none

-- The meaning of a text by recursion instead of rounds: a placeholder means what the text that
-- stands for it means. Placeholders may nest only as deep as the number says.
def expansion? (root : Object) : Nat → String → Option String
  | 0, text => if (tokenize text).any Token.isPlaceholder then none else some text
  | depth + 1, text =>
    Token.fill (fun p => do expansion? root depth (← replacement? root p)) (tokenize text)

-- The text that stands for the first placeholder holds the second one.
def Brings (root : Object) (p q : String) : Prop :=
  ∃ text, replacement? root p = some text ∧ .placeholder q ∈ tokenize text

def Reaches (root : Object) (text p : String) : Prop :=
  ∃ first, .placeholder first ∈ tokenize text ∧ Relation.ReflTransGen (Brings root) first p

-- The placeholders that a text reaches form a cycle.
def Cyclic (root : Object) (text : String) : Prop :=
  ∃ p, Reaches root text p ∧ Relation.TransGen (Brings root) p p

-- More placeholders than the depth follow one another, each brought in by the one before.
def NestsBeyond (root : Object) (depth : Nat) (text : String) : Prop :=
  ∃ ps : List String, ps.length = depth + 1 ∧ ps.IsChain (Brings root) ∧
    ∀ p ∈ ps.head?, .placeholder p ∈ tokenize text

-- Neither the text nor anything put into it can open a placeholder that it does not close.
def PlainLiterals (root : Object) (text : String) : Prop :=
  Token.BraceFree (tokenize text) ∧
    ∀ p, Reaches root text p → ∀ value, replacement? root p = some value →
      Token.BraceFree (tokenize value)

theorem Token.fill_isSome {put : String → Option String} {tokens : List Token} :
    (fill put tokens).isSome ↔ ∀ p, .placeholder p ∈ tokens → (put p).isSome := by
  induction tokens with
  | nil => simp [fill]
  | cons t tokens ih =>
      cases t with
      | literal text =>
          have hs : (fill put (.literal text :: tokens)).isSome = (fill put tokens).isSome := by
            cases h : fill put tokens <;> simp [fill, h]
          simp [hs, ih]
      | placeholder inner =>
          have hs : (fill put (.placeholder inner :: tokens)).isSome =
              ((put inner).isSome && (fill put tokens).isSome) := by
            cases hi : put inner <;> cases h : fill put tokens <;> simp [fill, hi, h]
          simp [hs, ih]

theorem Token.fill_of_ok {ε : Type} {put : String → Except ε String} {put' : String → Option String}
    (h : ∀ p text, put p = .ok text → put' p = some text) {tokens : List Token} {filled : String}
    (hf : fill put tokens = .ok filled) : fill put' tokens = some filled := by
  induction tokens generalizing filled with
  | nil => simpa [fill] using hf
  | cons t tokens ih =>
      cases t with
      | literal text =>
          obtain ⟨rest, hr, he⟩ := Except.bind_eq_ok.mp hf
          cases he
          simp [fill, ih hr]
      | placeholder inner =>
          obtain ⟨text, ht, hf⟩ := Except.bind_eq_ok.mp hf
          obtain ⟨rest, hr, he⟩ := Except.bind_eq_ok.mp hf
          cases he
          simp [fill, h inner text ht, ih hr]

theorem tokenize_append {a : String} (b : String) (h : Token.BraceFree (tokenize a)) :
    tokenize (a ++ b) = Token.glue (tokenize a) (tokenize b) := by
  simp only [tokenize, String.toList_append] at h ⊢
  exact Token.scan_append b.toList h

theorem tokenize_of_not_mem {text : String} (h : '{' ∉ text.toList) :
    Token.BraceFree (tokenize text) ∧ ∀ p, .placeholder p ∉ tokenize text := by
  rw [tokenize, Token.scan_of_not_mem h]
  unfold Token.withLiteral
  split
  · simp [Token.BraceFree]
  · simpa [Token.BraceFree] using h

theorem any_isPlaceholder {tokens : List Token} :
    tokens.any Token.isPlaceholder = true ↔ ∃ p, .placeholder p ∈ tokens := by
  rw [List.any_eq_true]
  constructor
  · rintro ⟨t, ht, hp⟩
    cases t with
    | literal text => simp [Token.isPlaceholder] at hp
    | placeholder p => exact ⟨p, ht⟩
  · rintro ⟨p, hp⟩
    exact ⟨_, hp, rfl⟩

section Meaning

variable {root : Object} {n : Nat} {text : String}

theorem expansion?_isSome_zero :
    (expansion? root 0 text).isSome ↔ ∀ p, .placeholder p ∉ tokenize text := by
  rw [expansion?]
  split
  · rename_i h
    obtain ⟨p, hp⟩ := any_isPlaceholder.mp h
    simp only [Option.isSome_none, Bool.false_eq_true, false_iff, not_forall, not_not]
    exact ⟨p, hp⟩
  · rename_i h
    rw [any_isPlaceholder, not_exists] at h
    simpa using h

theorem expansion?_isSome_succ :
    (expansion? root (n + 1) text).isSome ↔
      ∀ p, .placeholder p ∈ tokenize text →
        ∃ value, replacement? root p = some value ∧ (expansion? root n value).isSome := by
  rw [expansion?, Token.fill_isSome]
  refine forall₂_congr fun p _ => ?_
  cases replacement? root p <;> simp

theorem expansion?_of_none (h : ∀ p, .placeholder p ∉ tokenize text) :
    expansion? root n text = some text := by
  cases n with
  | zero =>
      have ha : (tokenize text).any Token.isPlaceholder = false := by
        rw [← Bool.not_eq_true, any_isPlaceholder]
        exact fun ⟨p, hp⟩ => h p hp
      simp [expansion?, ha]
  | succ n =>
      rw [expansion?, tokenize, Token.fill_scan_of_none _ h, String.ofList_toList]
      rfl

-- A text that keeps bringing itself in has no meaning.
theorem expansion?_of_self {p value : String} (hv : replacement? root p = some value)
    (hp : .placeholder p ∈ tokenize value) : expansion? root n value = none := by
  rw [← Option.isNone_iff_eq_none, ← Option.not_isSome]
  induction n with
  | zero =>
      rw [Bool.not_eq_true', ← Bool.not_eq_true, expansion?_isSome_zero]
      exact fun h => h p hp
  | succ n ih =>
      rw [Bool.not_eq_true', ← Bool.not_eq_true, expansion?_isSome_succ]
      intro h
      obtain ⟨value', hv', hs⟩ := h p hp
      cases hv.symm.trans hv'
      simp [hs] at ih

-- The meaning of a text is made of the meanings of its parts.
theorem expansion?_append (a b : String) (h : Token.BraceFree (tokenize a)) :
    expansion? root n (a ++ b) = do return (← expansion? root n a) ++ (← expansion? root n b) := by
  cases n with
  | zero =>
      have hany : (tokenize (a ++ b)).any Token.isPlaceholder =
          ((tokenize a).any Token.isPlaceholder || (tokenize b).any Token.isPlaceholder) := by
        rw [Bool.eq_iff_iff, Bool.or_eq_true, any_isPlaceholder, any_isPlaceholder,
          any_isPlaceholder, tokenize_append b h]
        simp [exists_or]
      simp only [expansion?, hany]
      cases (tokenize a).any Token.isPlaceholder <;>
        cases (tokenize b).any Token.isPlaceholder <;> rfl
  | succ n => rw [expansion?, tokenize_append b h, Token.fill_glue, expansion?, expansion?]

end Meaning

section Substitution

variable {root : Object} {n : Nat} {text next : String} {tokens : List Token}

-- After a round the placeholders of a text are those of the texts put in, and no others.
theorem tokenize_filled (hb : Token.BraceFree tokens)
    (hv : ∀ p value, .placeholder p ∈ tokens → replacement? root p = some value →
      Token.BraceFree (tokenize value))
    (hf : Token.fill (replacement? root) tokens = some next) :
    Token.BraceFree (tokenize next) ∧ ∀ q, .placeholder q ∈ tokenize next →
      ∃ p, .placeholder p ∈ tokens ∧ Brings root p q := by
  induction tokens generalizing next with
  | nil =>
      cases hf
      obtain ⟨he, hn⟩ : Token.BraceFree (tokenize "") ∧ _ := tokenize_of_not_mem (by simp)
      exact ⟨he, fun q hq => absurd hq (hn q)⟩
  | cons t tokens ih =>
      obtain ⟨ht, htail⟩ := (Token.braceFree_cons t tokens).mp hb
      have hv' : ∀ p value, .placeholder p ∈ tokens → replacement? root p = some value →
          Token.BraceFree (tokenize value) :=
        fun p value hp => hv p value (List.mem_cons_of_mem _ hp)
      cases t with
      | literal front =>
          obtain ⟨rest, hr, he⟩ := Option.bind_eq_some_iff.mp hf
          cases he
          obtain ⟨hfree, hbrings⟩ := ih htail hv' hr
          obtain ⟨hfront, hnone⟩ := tokenize_of_not_mem ((Token.braceFree_literal front).mp ht)
          rw [tokenize_append rest hfront, Token.braceFree_glue]
          refine ⟨⟨hfront, hfree⟩, fun q hq => ?_⟩
          rcases (Token.mem_glue _ _ _).mp hq with hq | hq
          · exact absurd hq (hnone q)
          · obtain ⟨p, hp, hpq⟩ := hbrings q hq
            exact ⟨p, List.mem_cons_of_mem _ hp, hpq⟩
      | placeholder inner =>
          obtain ⟨front, hi, hf⟩ := Option.bind_eq_some_iff.mp hf
          obtain ⟨rest, hr, he⟩ := Option.bind_eq_some_iff.mp hf
          cases he
          obtain ⟨hfree, hbrings⟩ := ih htail hv' hr
          have hfront := hv inner front List.mem_cons_self hi
          rw [tokenize_append rest hfront, Token.braceFree_glue]
          refine ⟨⟨hfront, hfree⟩, fun q hq => ?_⟩
          rcases (Token.mem_glue _ _ _).mp hq with hq | hq
          · exact ⟨inner, List.mem_cons_self, front, hi, hq⟩
          · obtain ⟨p, hp, hpq⟩ := hbrings q hq
            exact ⟨p, List.mem_cons_of_mem _ hp, hpq⟩

-- A round leaves one level of nesting less, and the same meaning.
theorem expansion?_filled (hb : Token.BraceFree tokens)
    (hv : ∀ p value, .placeholder p ∈ tokens → replacement? root p = some value →
      Token.BraceFree (tokenize value))
    (hf : Token.fill (replacement? root) tokens = some next) :
    Token.fill (fun p => do expansion? root n (← replacement? root p)) tokens =
      expansion? root n next := by
  induction tokens generalizing next with
  | nil =>
      cases hf
      exact (expansion?_of_none (tokenize_of_not_mem (by simp)).2).symm
  | cons t tokens ih =>
      obtain ⟨ht, htail⟩ := (Token.braceFree_cons t tokens).mp hb
      have hv' : ∀ p value, .placeholder p ∈ tokens → replacement? root p = some value →
          Token.BraceFree (tokenize value) :=
        fun p value hp => hv p value (List.mem_cons_of_mem _ hp)
      cases t with
      | literal front =>
          obtain ⟨rest, hr, he⟩ := Option.bind_eq_some_iff.mp hf
          cases he
          obtain ⟨hfront, hnone⟩ := tokenize_of_not_mem ((Token.braceFree_literal front).mp ht)
          rw [expansion?_append front rest hfront, expansion?_of_none hnone, ← ih htail hv' hr]
          rfl
      | placeholder inner =>
          obtain ⟨front, hi, hf⟩ := Option.bind_eq_some_iff.mp hf
          obtain ⟨rest, hr, he⟩ := Option.bind_eq_some_iff.mp hf
          cases he
          rw [expansion?_append front rest (hv inner front List.mem_cons_self hi), ← ih htail hv' hr]
          simp only [Token.fill, hi]
          rfl

theorem replacement?_of_resolve {p : String} (h : resolve root p = .ok text) :
    replacement? root p = some text := by
  obtain ⟨found, he, rfl⟩ := resolve_eq_ok.mp h
  simp [replacement?, he]

theorem replacement?_of_substitute {p : String} (h : substitute root p = .ok text) :
    replacement? root p = some text :=
  replacement?_of_resolve (substitute_eq_ok.mp h).1

-- Where a round refuses a placeholder, it has no meaning at any depth.
theorem no_meaning_of_substitute {p : String} {e : PlaceholderError}
    (h : substitute root p = .error e) :
    (do expansion? root n (← replacement? root p)) = none := by
  rcases substitute_eq_error.mp h with h | ⟨value, hv, hp, _⟩
  · obtain ⟨cause, he, _⟩ := resolve_eq_error.mp h
    simp [replacement?, he]
  · rw [replacement?_of_resolve hv]
    exact expansion?_of_self (replacement?_of_resolve hv) hp

theorem Reaches.of_filled (hb : Token.BraceFree (tokenize text))
    (hv : ∀ p, Reaches root text p → ∀ value, replacement? root p = some value →
      Token.BraceFree (tokenize value))
    (hf : Token.fill (replacement? root) (tokenize text) = some next) {p : String}
    (hp : Reaches root next p) : Reaches root text p := by
  obtain ⟨first, hfirst, hsteps⟩ := hp
  have hv' : ∀ q value, .placeholder q ∈ tokenize text → replacement? root q = some value →
      Token.BraceFree (tokenize value) :=
    fun q value hq => hv q ⟨q, hq, .refl⟩ value
  obtain ⟨origin, ho, hbrings⟩ := (tokenize_filled hb hv' hf).2 first hfirst
  exact ⟨origin, ho, hsteps.head hbrings⟩

-- Substituting in rounds computes the recursive meaning. Each round keeps the literals free of
-- braces, so that every placeholder of the next text lies within one of the texts put in.
theorem toOption_resolveRounds (h : PlainLiterals root text) :
    (resolveRounds root n text).toOption = expansion? root n text := by
  induction n generalizing text with
  | zero =>
      cases hf : firstPlaceholder? text with
      | none =>
          rw [expansion?_of_none (firstPlaceholder?_eq_none.mp hf)]
          simp [resolveRounds, hf]
      | some p =>
          have hany : (tokenize text).any Token.isPlaceholder = true := by
            rw [any_isPlaceholder]
            by_contra hn
            simp [firstPlaceholder?_eq_none.mpr (not_exists.mp hn)] at hf
          simp [resolveRounds, hf, expansion?, hany]
  | succ n ih =>
      by_cases hp : hasPlaceholders text = true
      · obtain ⟨hb, hv⟩ := h
        have hv' : ∀ p value, .placeholder p ∈ tokenize text → replacement? root p = some value →
            Token.BraceFree (tokenize value) :=
          fun p value hm => hv p ⟨p, hm, .refl⟩ value
        simp only [resolveRounds, hp, ite_true, substituteRound_eq_fill, expansion?]
        cases hf : Token.fill (substitute root) (tokenize text) with
        | ok next =>
            have hr := Token.fill_of_ok (fun _ _ => replacement?_of_substitute) hf
            have hplain : PlainLiterals root next :=
              ⟨(tokenize_filled hb hv' hr).1,
                fun p hp => hv p (Reaches.of_filled hb hv hr hp)⟩
            rw [Except.ok_bind, ih hplain, expansion?_filled hb hv' hr]
        | error e =>
            obtain ⟨p, hm, he⟩ := Token.exists_of_fill_eq_error hf
            rw [Except.error_bind, Except.toOption_error, eq_comm, ← Option.not_isSome_iff_eq_none,
              Token.fill_isSome]
            intro hall
            have := hall p hm
            rw [no_meaning_of_substitute he] at this
            simp at this
      · have hnone : ∀ p, .placeholder p ∉ tokenize text := by
          rwa [hasPlaceholders_iff, not_exists] at hp
        rw [expansion?_of_none hnone]
        simp [resolveRounds, hp]

end Substitution

section Success

variable {root : Object} {n : Nat} {text : String}

theorem Reaches.through {p q value : String} (hp : .placeholder p ∈ tokenize text)
    (hv : replacement? root p = some value) (hq : Reaches root value q) : Reaches root text q := by
  obtain ⟨first, hf, hsteps⟩ := hq
  exact ⟨p, hp, hsteps.head ⟨value, hv, hf⟩⟩

theorem NestsBeyond.through {p value : String} (hp : .placeholder p ∈ tokenize text)
    (hv : replacement? root p = some value) (h : NestsBeyond root n value) :
    NestsBeyond root (n + 1) text := by
  obtain ⟨ps, hl, hc, hh⟩ := h
  refine ⟨p :: ps, by simp [hl], ?_, by simpa using hp⟩
  cases ps with
  | nil => exact .singleton p
  | cons q ps => exact .cons_cons ⟨value, hv, hh q rfl⟩ hc

-- From a placeholder that leads into a cycle the chains have no end.
theorem exists_chain_of_cycle {p q : String} (hq : Relation.ReflTransGen (Brings root) q p)
    (hp : Relation.TransGen (Brings root) p p) (length : Nat) :
    ∃ ps : List String, ps.length = length + 1 ∧ ps.IsChain (Brings root) ∧ ps.head? = some q := by
  induction length generalizing q with
  | zero => exact ⟨[q], rfl, .singleton q, rfl⟩
  | succ length ih =>
      have hnext : ∃ next, Brings root q next ∧ Relation.ReflTransGen (Brings root) next p := by
        rcases Relation.ReflTransGen.cases_head hq with rfl | h
        · exact Relation.TransGen.head'_iff.mp hp
        · exact h
      obtain ⟨next, hqn, hnp⟩ := hnext
      obtain ⟨ps, hl, hc, hh⟩ := ih hnp
      obtain ⟨rest, rfl⟩ := List.head?_eq_some_iff.mp hh
      exact ⟨q :: next :: rest, by simpa using hl, .cons_cons hqn hc, rfl⟩

theorem Cyclic.nestsBeyond (h : Cyclic root text) : NestsBeyond root n text := by
  obtain ⟨p, ⟨first, hf, hfp⟩, hp⟩ := h
  obtain ⟨ps, hl, hc, hh⟩ := exists_chain_of_cycle hfp hp n
  refine ⟨ps, hl, hc, ?_⟩
  rw [hh]
  rintro q ⟨⟩
  exact hf

-- A text has a meaning exactly when all it reaches can be evaluated and nests no deeper than
-- allowed.
theorem expansion?_isSome_iff :
    (expansion? root n text).isSome ↔
      (∀ p, Reaches root text p → (replacement? root p).isSome) ∧ ¬NestsBeyond root n text := by
  induction n generalizing text with
  | zero =>
      rw [expansion?_isSome_zero]
      constructor
      · intro h
        refine ⟨fun p ⟨first, hf, _⟩ => absurd hf (h first), ?_⟩
        rintro ⟨ps, hl, _, hh⟩
        obtain ⟨p, rfl⟩ := List.length_eq_one_iff.mp hl
        exact h p (hh p rfl)
      · rintro ⟨_, hn⟩ p hp
        exact hn ⟨[p], rfl, .singleton p, by simpa using hp⟩
  | succ n ih =>
      rw [expansion?_isSome_succ]
      constructor
      · intro h
        constructor
        · rintro p ⟨first, hf, hsteps⟩
          obtain ⟨value, hv, hs⟩ := h first hf
          rcases Relation.ReflTransGen.cases_head hsteps with rfl | ⟨q, ⟨value', hv', hq⟩, hrest⟩
          · simp [hv]
          · cases hv.symm.trans hv'
            exact (ih.mp hs).1 p ⟨q, hq, hrest⟩
        · rintro ⟨ps, hl, hc, hh⟩
          match ps, hc with
          | [p], _ => simp at hl
          | p :: q :: ps, .cons_cons ⟨value, hv, hq⟩ hc =>
              obtain ⟨value', hv', hs⟩ := h p (hh p rfl)
              cases hv.symm.trans hv'
              exact (ih.mp hs).2 ⟨q :: ps, by simpa using hl, hc, by simpa using hq⟩
      · rintro ⟨hall, hn⟩ p hp
        obtain ⟨value, hv⟩ := Option.isSome_iff_exists.mp (hall p ⟨p, hp, .refl⟩)
        refine ⟨value, hv, ih.mpr ⟨fun q hq => hall q (hq.through hp hv), fun hd => ?_⟩⟩
        exact hn (hd.through hp hv)

end Success

-- A set of placeholders that no value leads out of shows that all literals are plain.
theorem PlainLiterals.of_closed {root : Object} {text : String} (known : String → Prop)
    (hb : Token.BraceFree (tokenize text)) (hstart : ∀ p, .placeholder p ∈ tokenize text → known p)
    (hstep : ∀ p value, known p → replacement? root p = some value →
      Token.BraceFree (tokenize value) ∧ ∀ q, .placeholder q ∈ tokenize value → known q) :
    PlainLiterals root text := by
  have hknown : ∀ p, Reaches root text p → known p := by
    rintro p ⟨first, hf, hsteps⟩
    induction hsteps with
    | refl => exact hstart first hf
    | tail _ hlast ih =>
        obtain ⟨value, hv, hq⟩ := hlast
        exact (hstep _ value ih hv).2 _ hq
  exact ⟨hb, fun p hp value hv => (hstep p value (hknown p hp) hv).1⟩

-- Rounds and recursion agree: resolving succeeds with a text exactly when the text is the meaning
-- of the template. It fails exactly on templates whose placeholders form a cycle, nest too deep, or
-- reach a path that cannot be evaluated.
theorem resolvePlaceholders_iff_expansion (root : Object) (bound : Nat) (template : String)
    (hbound : 1 ≤ bound) (hplain : PlainLiterals root template) :
    (∀ x, resolvePlaceholders root bound template = .ok x ↔
        expansion? root bound template = some x) ∧
      (Cyclic root template ∨ NestsBeyond root bound template →
        ∃ e, resolvePlaceholders root bound template = .error e) ∧
      (¬Cyclic root template → ¬NestsBeyond root bound template →
        (∀ p, Reaches root template p → ∃ text, root.evaluate p = .ok text) →
        ∃ x, resolvePlaceholders root bound template = .ok x) := by
  have heq : (resolvePlaceholders root bound template).toOption =
      expansion? root bound template := by
    rw [resolvePlaceholders, Nat.max_eq_left hbound]
    exact toOption_resolveRounds hplain
  refine ⟨fun x => by rw [← heq, Except.toOption_eq_some], fun h => ?_, fun _ hn hall => ?_⟩
  · have hbeyond : NestsBeyond root bound template := h.elim Cyclic.nestsBeyond id
    rw [← Except.toOption_eq_none, heq, ← Option.not_isSome_iff_eq_none]
    exact fun hs => (expansion?_isSome_iff.mp hs).2 hbeyond
  · have hs : (expansion? root bound template).isSome := by
      refine expansion?_isSome_iff.mpr ⟨fun p hp => ?_, hn⟩
      obtain ⟨text, he⟩ := hall p hp
      simp [replacement?, he]
    obtain ⟨x, hx⟩ := Option.isSome_iff_exists.mp hs
    exact ⟨x, Except.toOption_eq_some.mp (heq.trans hx)⟩

-- A title that is put together from a volume and the name of its series, two levels deep.
def seriesTable : Object :=
  .table [(.text "volume", .text "{{series}} 7"), (.text "series", .text "Maps")]

theorem seriesTable_plain : PlainLiterals seriesTable "{{volume}}, {{series}}" := by
  have ht : tokenize "{{volume}}, {{series}}" =
      [.placeholder "volume", .literal ", ", .placeholder "series"] := by decide +kernel
  have hv : tokenize "{{series}} 7" = [.placeholder "series", .literal " 7"] := by decide +kernel
  have hs : tokenize "Maps" = [.literal "Maps"] := by decide +kernel
  have hvolume : replacement? seriesTable "volume" = some "{{series}} 7" := by decide +kernel
  have hseries : replacement? seriesTable "series" = some "Maps" := by decide +kernel
  apply PlainLiterals.of_closed fun p => p = "volume" ∨ p = "series"
  · simp [ht, Token.BraceFree]
  · simp [ht]
  · rintro p value (rfl | rfl) hp
    · cases hvolume.symm.trans hp
      simp [hv, Token.BraceFree]
    · cases hseries.symm.trans hp
      simp [hs, Token.BraceFree]

theorem resolvePlaceholders_seriesTable :
    1 ≤ 2 ∧ PlainLiterals seriesTable "{{volume}}, {{series}}" ∧
      resolvePlaceholders seriesTable 2 "{{volume}}, {{series}}" = .ok "Maps 7, Maps" :=
  ⟨by decide, seriesTable_plain,
    ((resolvePlaceholders_iff_expansion seriesTable 2 "{{volume}}, {{series}}" (by decide)
      seriesTable_plain).1 _).mpr (by decide +kernel)⟩

end PropertyTemplates
