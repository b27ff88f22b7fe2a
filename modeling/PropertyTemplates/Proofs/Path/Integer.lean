import PropertyTemplates.Proofs.Decimal.Shortest
import PropertyTemplates.Proofs.Path.Accessor
import PropertyTemplates.Proofs.Work.Untyped

namespace PropertyTemplates

open Decimal

-- A step picks a node itself, or the element of a list at its index. Tags do not matter.
inductive Segment.Picks (s : Segment) (value : Data) : Data → Prop
  | itself (hindex : s.index = none) : Picks s value value
  | element {items : List Data} {item : Data} {index : Nat} (hindex : s.index = some index)
      (hitems : value.untagged = .list items) (hitem : items[index]? = some item) :
      Picks s value item

-- A step takes a table to what it picks of the first entry that its accessor may mean.
def Segment.TakesTo (s : Segment) (d next : Data) : Prop :=
  ∃ entries value, d.untagged = .table entries ∧ Data.FirstNamed entries s.accessor value ∧
    s.Picks value next

-- Steps lead from a node to another.
def Data.LeadsTo (d : Data) : List Segment → Data → Prop
  | [], last => d = last
  | s :: rest, last => ∃ next, s.TakesTo d next ∧ next.LeadsTo rest last

-- What is shown for an integer. One that fits into a word is shown by its numeral. Beyond the words
-- it is some number of at most 17 digits that is near, so most integers are not shown as they are.
structure ShowsInteger (n : Int) (text : String) : Prop where
  word : n < 2 ^ 63 → text = toString n
  beyond : 2 ^ 63 ≤ n → ∃ shown : Nat, HasDigits 17 shown ∧ 2 ^ 63 ≤ shown ∧
    (n - shown).natAbs ≤ 2 ^ 11 ∧ text = toString shown
  inexact : 2 ^ 63 ≤ n → ¬(100 : Int) ∣ n → text ≠ toString n

-- Integers beyond the words that are near enough to have one text.
structure NearBeyond (m n : Int) : Prop where
  left : 2 ^ 63 ≤ m
  right : 2 ^ 63 ≤ n
  near : (m - n).natAbs ≤ 2 ^ 12

-- Integers beyond the words that do have one text: one multiple of 2 ^ 11 is the nearest to both.
structure SameUnits (units : Nat) (m n : Int) : Prop where
  left : 2 ^ 63 ≤ m
  right : 2 ^ 63 ≤ n
  nearLeft : (m - 2 ^ 11 * units).natAbs < 2 ^ 10
  nearRight : (n - 2 ^ 11 * units).natAbs < 2 ^ 10

section Text

theorem integerText_eq_toString (n : Int) : integerText n = toString n := by
  cases n with
  | ofNat n =>
      rw [integerText, if_neg (by simp)]
      exact String.ofList_toList
  | negSucc n =>
      rw [integerText, if_pos (Int.negSucc_lt_zero n)]
      change String.ofList ('-' :: (Nat.repr (n + 1)).toList) = "-" ++ Nat.repr (n + 1)
      rw [← String.toList_inj]
      simp

theorem numeral_inj {m n : Nat} (h : numeral m = numeral n) : m = n := by
  rw [← value_numeral m, h, value_numeral]

theorem integerText_inj {m n : Int} (h : integerText m = integerText n) : m = n := by
  have hsign : ∀ k : Nat, ∀ cs, numeral k ≠ '-' :: cs := by
    intro k cs hk
    have hmem : '-' ∈ numeral k := by
      rw [hk]
      exact List.mem_cons_self
    cases isDigit_of_mem_numeral hmem
  have h := String.ofList_injective h
  split at h <;> split at h
  · have habs := numeral_inj (List.cons.inj h).2
    omega
  · exact absurd h.symm (hsign _ _)
  · exact absurd h (hsign _ _)
  · have habs := numeral_inj h
    omega

-- Different integers have different texts.
theorem toString_inj {m n : Int} (h : toString m = toString n) : m = n := by
  rw [← integerText_eq_toString, ← integerText_eq_toString] at h
  exact integerText_inj h

-- Integers with the same text are the same, or both of them are beyond the words and near.
theorem ShowsInteger.same_or_near {m n : Int} {text : String} (hm : ShowsInteger m text)
    (hn : ShowsInteger n text) : m = n ∨ NearBeyond m n := by
  have hshown {k : Int} (h : ShowsInteger k text) : ∃ shown : Int, text = toString shown ∧
      (shown = k ∧ k < 2 ^ 63 ∨ 2 ^ 63 ≤ k ∧ 2 ^ 63 ≤ shown ∧ (k - shown).natAbs ≤ 2 ^ 11) := by
    by_cases hword : k < 2 ^ 63
    · exact ⟨k, h.word hword, .inl ⟨rfl, hword⟩⟩
    · obtain ⟨shown, -, hleast, hnear, htext⟩ := h.beyond (by omega)
      exact ⟨shown, htext, .inr ⟨by omega, by omega, hnear⟩⟩
  obtain ⟨mshown, hmtext, hm⟩ := hshown hm
  obtain ⟨nshown, hntext, hn⟩ := hshown hn
  have hsame : mshown = nshown := toString_inj (hmtext.symm.trans hntext)
  by_cases hmn : m = n
  · exact .inl hmn
  · exact .inr ⟨by omega, by omega, by omega⟩

end Text

theorem Data.untagged_ne_tagged : ∀ (d : Data) (tag : String) (value : Data),
    d.untagged ≠ .tagged tag value
  | .tagged _ d => d.untagged_ne_tagged
  | .null | .boolean _ | .integer _ | .float _ | .text _ | .list _ | .table _ => fun _ _ => nofun

namespace Value

variable {d : Data}

theorem ofData_untagged : ∀ d : Data, ofData d.untagged = ofData d
  | .tagged _ d => ofData_untagged d
  | .null | .boolean _ | .integer _ | .float _ | .text _ | .list _ | .table _ => rfl

theorem ofData_eq_object_iff {o : Object} :
    ofData d = .object o ↔ ∃ entries, d.untagged = .table entries ∧ o = .table entries := by
  rw [← ofData_untagged]
  cases hd : d.untagged with
  | table entries => simp [ofData, eq_comm]
  | tagged tag value => exact absurd hd (d.untagged_ne_tagged tag value)
  | integer n =>
      simp only [ofData, ofInteger]
      split <;> simp
  | null | boolean _ | float _ | text _ | list _ => simp [ofData]

theorem ofData_eq_list_iff {values : List Value} :
    ofData d = .list values ↔ ∃ items, d.untagged = .list items ∧ values = items.map ofData := by
  rw [← ofData_untagged]
  cases hd : d.untagged with
  | list items => simp [ofData, ofItems_eq_map, eq_comm]
  | tagged tag value => exact absurd hd (d.untagged_ne_tagged tag value)
  | integer n =>
      simp only [ofData, ofInteger]
      split <;> simp
  | null | boolean _ | float _ | text _ | table _ => simp [ofData]

end Value

open Value

namespace Segment

variable {s : Segment} {d value : Data} {v : Value}

theorem pick_ofData_iff (hv : v.isNull = false) :
    s.pick (ofData value) = .ok v ↔ ∃ next, s.Picks value next ∧ ofData next = v := by
  constructor
  · intro h
    cases hindex : s.index with
    | none =>
        simp only [pick, hindex, Except.ok.injEq] at h
        exact ⟨value, .itself hindex, h⟩
    | some index =>
        cases hyielded : ofData value with
        | null =>
            simp only [pick, hindex, hyielded, Except.ok.injEq] at h
            cases h
            cases hv
        | list values =>
            obtain ⟨items, hitems, rfl⟩ := ofData_eq_list_iff.mp hyielded
            cases hitem : items[index]? with
            | none => simp [pick, hindex, hyielded, hitem] at h
            | some item =>
                simp only [pick, hindex, hyielded, List.getElem?_map, hitem, Option.map_some,
                  Except.ok.injEq] at h
                exact ⟨item, .element hindex hitems hitem, h⟩
        | text _ | integer _ | float _ | boolean _ | object _ =>
            simp [pick, hindex, hyielded] at h
  · rintro ⟨next, hnext, rfl⟩
    cases hnext with
    | itself hindex => simp only [pick, hindex]
    | element hindex hitems hitem =>
        rw [ofData_eq_list_iff.mpr ⟨_, hitems, rfl⟩]
        simp only [pick, hindex, List.getElem?_map, hitem, Option.map_some]

-- A step that ends on a value has gone to the node of the value.
theorem step_ofData_iff (hv : v.isNull = false) :
    s.step (ofData d) = .ok v ↔ ∃ next, s.TakesTo d next ∧ ofData next = v := by
  constructor
  · intro h
    by_cases hobject : ∃ o, ofData d = .object o
    · obtain ⟨o, ho⟩ := hobject
      obtain ⟨entries, hd, rfl⟩ := ofData_eq_object_iff.mp ho
      rw [ho] at h
      cases haccess : (Object.table entries).access (Text.lowerFirst s.accessor) with
      | none =>
          rw [step_of_no_access haccess] at h
          cases h
      | some yielded =>
          rw [step_of_access haccess] at h
          obtain ⟨value, hvalue, rfl⟩ := Object.access_table_eq_some_iff.mp haccess
          obtain ⟨next, hpicks, hnext⟩ := (pick_ofData_iff hv).mp h
          exact ⟨next, ⟨entries, value, hd, hvalue, hpicks⟩, hnext⟩
    · rw [s.step_of_not_object (by simpa using hobject)] at h
      cases h
  · rintro ⟨next, ⟨entries, value, hd, hvalue, hpicks⟩, hnext⟩
    rw [ofData_eq_object_iff.mpr ⟨entries, hd, rfl⟩,
      step_of_access (Object.access_table_eq_some_iff.mpr ⟨value, hvalue, rfl⟩)]
    exact (pick_ofData_iff hv).mpr ⟨next, hpicks, hnext⟩

end Segment

theorem Data.LeadsTo.isNull {segments : List Segment} {d last : Data} (h : d.LeadsTo segments last)
    (hlast : (ofData last).isNull = false) : (ofData d).isNull = false := by
  cases segments with
  | nil =>
      cases h
      exact hlast
  | cons s rest =>
      obtain ⟨next, ⟨entries, value, hd, -, -⟩, -⟩ := h
      rw [ofData_eq_object_iff.mpr ⟨entries, hd, rfl⟩]
      rfl

-- A walk ends on a value exactly where the steps lead to its node.
theorem Path.walk_ofData_iff {segments : List Segment} {d : Data} {v : Value}
    (hv : v.isNull = false) :
    walk segments (ofData d) = .ok v ↔ ∃ last, d.LeadsTo segments last ∧ ofData last = v := by
  induction segments generalizing d with
  | nil => simp [walk, Data.LeadsTo]
  | cons s rest ih =>
      rw [walk_cons]
      constructor
      · intro h
        obtain ⟨next, hnext, h⟩ := Except.bind_eq_ok.mp h
        cases hnull : next.isNull with
        | true =>
            rw [hnull, if_pos rfl] at h
            cases h
            cases hv
        | false =>
            rw [hnull, if_neg Bool.false_ne_true] at h
            obtain ⟨node, hstep, rfl⟩ := (Segment.step_ofData_iff hnull).mp hnext
            obtain ⟨last, hrest, hlast⟩ := ih.mp h
            exact ⟨last, ⟨node, hstep, hrest⟩, hlast⟩
      · rintro ⟨last, ⟨next, hstep, hrest⟩, rfl⟩
        have hnull : (ofData next).isNull = false := hrest.isNull hv
        rw [(Segment.step_ofData_iff hnull).mpr ⟨next, hstep, rfl⟩, Except.ok_bind, hnull,
          if_neg Bool.false_ne_true]
        exact ih.mpr ⟨last, hrest, rfl⟩

theorem Value.showsInteger_render {n : Int} (hlow : -2 ^ 63 ≤ n) (hhigh : n < 2 ^ 64) :
    ShowsInteger n (ofInteger n).render := by
  by_cases hword : n < 2 ^ 63
  · have hfits : FitsWord n := ⟨hlow, hword⟩
    refine ⟨fun _ => ?_, by omega, by omega⟩
    rw [ofInteger, if_pos hfits, render, integerText_eq_toString]
  · have hlarge : ¬FitsWord n := fun h => hword h.2
    obtain ⟨k, rfl⟩ := Int.eq_ofNat_of_zero_le (show 0 ≤ n by omega)
    obtain ⟨shown, hdigits, hleast, hdown, hup, htext⟩ :=
      float_ofInt (n := k) (by omega) (by omega)
    have hrender : (ofInteger k).render = toString shown := by
      rw [ofInteger, if_neg hlarge, render, floatText, htext]
      exact String.ofList_toList
    refine ⟨by omega, fun _ => ⟨shown, hdigits, hleast, by omega, hrender⟩, ?_⟩
    intro _ hzeros hexact
    have hsame : shown = k := by
      have hint : toString (shown : Int) = toString (k : Int) := hrender.symm.trans hexact
      exact Int.ofNat.inj (toString_inj hint)
    rw [hsame] at hdigits
    have hdvd : 10 ^ (1 + 1) ∣ k := hdigits.dvd (by omega)
    omega

theorem SameUnits.render_eq {units : Nat} {m n : Int} (h : SameUnits units m n) (hm : m < 2 ^ 64)
    (hn : n < 2 ^ 64) : (ofInteger m).render = (ofInteger n).render := by
  obtain ⟨hmlow, hnlow, hmnear, hnnear⟩ := h
  have hlarge {k : Int} (hk : 2 ^ 63 ≤ k) : (ofInteger k).render = floatText (Float.ofInt k) := by
    have hfits : ¬FitsWord k := fun h => absurd hk (Int.not_le.mpr h.2)
    rw [ofInteger, if_neg hfits, render]
  rw [hlarge hmlow, hlarge hnlow]
  obtain ⟨j, rfl⟩ := Int.eq_ofNat_of_zero_le (show 0 ≤ m by omega)
  obtain ⟨k, rfl⟩ := Int.eq_ofNat_of_zero_le (show 0 ≤ n by omega)
  exact float_ofInt_eq units (by omega) (by omega) (by omega) (by omega) .plain

namespace Object

-- A path leads from a table to an integer.
def EndsOnInteger (entries : List (Data × Data)) (p : String) (n : Int) : Prop :=
  ∃ path last, Path.parse p = .ok path ∧ (Data.table entries).LeadsTo path.segments last ∧
    last.untagged = .integer n

variable {entries entries' : List (Data × Data)} {p q : String} {m n : Int}

theorem EndsOnInteger.evaluate (h : EndsOnInteger entries p n) :
    (table entries).evaluate p = .ok (some (ofInteger n).render) := by
  obtain ⟨path, last, hp, hleads, hlast⟩ := h
  have hvalue : ofData last = ofInteger n := by
    rw [← ofData_untagged, hlast, ofData]
  have hnull : (ofInteger n).isNull = false := by
    unfold ofInteger
    split <;> rfl
  have hwalk : path.value (table entries) = .ok (ofInteger n) :=
    (Path.walk_ofData_iff hnull).mpr ⟨last, hleads, hvalue⟩
  rw [evaluate_of_parse hp, hwalk, Except.ok_bind, hnull]
  rfl

-- An integer at the end of a path is shown by its numeral if it fits into a word, and different words
-- differ in their texts. Beyond the words the text is rounded, and integers that are near look alike.
theorem evaluate_endsOnInteger (h : EndsOnInteger entries p n) (hlow : -2 ^ 63 ≤ n)
    (hhigh : n < 2 ^ 64) :
    (∃ text, (table entries).evaluate p = .ok (some text) ∧ ShowsInteger n text) ∧
    ∀ (entries' : List (Data × Data)) (q : String) (m : Int), EndsOnInteger entries' q m →
      -2 ^ 63 ≤ m → m < 2 ^ 64 →
        ((table entries').evaluate q = (table entries).evaluate p → m = n ∨ NearBeyond m n) ∧
        ∀ units, SameUnits units m n →
          (table entries').evaluate q = (table entries).evaluate p := by
  have hn : ShowsInteger n (ofInteger n).render := showsInteger_render hlow hhigh
  refine ⟨⟨_, h.evaluate, hn⟩, ?_⟩
  intro entries' q m h' hlow' hhigh'
  rw [h.evaluate, h'.evaluate]
  constructor
  · intro hsame
    have hm : ShowsInteger m (ofInteger m).render := showsInteger_render hlow' hhigh'
    rw [Option.some.inj (Except.ok.inj hsame)] at hm
    exact hm.same_or_near hn
  · intro units hunits
    rw [hunits.render_eq hhigh' hhigh]

-- A part of a volume with a number too long for a float, and two too long for a word.
def numberedPart : Data :=
  .tagged "!karte" (.table [(.text "id", .tagged "!kennung" (.integer 9007199254740993)),
    (.text "nummer", .integer 9223372036854775809), (.text "blatt", .integer 9223372036854775810)])

def numberedEntries : List (Data × Data) := [(.text "teile", .list [.null, numberedPart])]

theorem evaluate_endsOnInteger_numberedEntries :
    (table numberedEntries).evaluate "teile[1].id" = .ok (some "9007199254740993") ∧
      (table numberedEntries).evaluate "teile[1].nummer" ≠ .ok (some "9223372036854775809") ∧
      (table numberedEntries).evaluate "teile[1].blatt" =
        (table numberedEntries).evaluate "teile[1].nummer" ∧
      (table numberedEntries).evaluate "teile[1].id" ≠
        (table numberedEntries).evaluate "teile[1].nummer" := by
  have hpart {last : Data} {s : Segment} (h : s.TakesTo numberedPart last) :
      (Data.table numberedEntries).LeadsTo [⟨"teile", some 1⟩, s] last :=
    ⟨_, ⟨_, _, rfl, Data.entryNamed?_eq_some_iff.mp rfl, .element rfl rfl rfl⟩, _, h, rfl⟩
  have hid : EndsOnInteger numberedEntries "teile[1].id" 9007199254740993 :=
    ⟨⟨_, [⟨"teile", some 1⟩, ⟨"id", none⟩]⟩, _, rfl,
      hpart ⟨_, _, rfl, Data.entryNamed?_eq_some_iff.mp rfl, .itself rfl⟩, rfl⟩
  have hnumber : EndsOnInteger numberedEntries "teile[1].nummer" 9223372036854775809 :=
    ⟨⟨_, [⟨"teile", some 1⟩, ⟨"nummer", none⟩]⟩, _, rfl,
      hpart ⟨_, _, rfl, Data.entryNamed?_eq_some_iff.mp rfl, .itself rfl⟩, rfl⟩
  have hsheet : EndsOnInteger numberedEntries "teile[1].blatt" 9223372036854775810 :=
    ⟨⟨_, [⟨"teile", some 1⟩, ⟨"blatt", none⟩]⟩, _, rfl,
      hpart ⟨_, _, rfl, Data.entryNamed?_eq_some_iff.mp rfl, .itself rfl⟩, rfl⟩
  obtain ⟨⟨text, htext, hshows⟩, hothers⟩ :=
    evaluate_endsOnInteger hnumber (by decide) (by decide)
  refine ⟨?_, ?_, ?_, ?_⟩
  · obtain ⟨⟨text, htext, hshows⟩, -⟩ := evaluate_endsOnInteger hid (by decide) (by decide)
    rw [htext, hshows.word (by decide)]
    rfl
  · intro hexact
    rw [htext] at hexact
    exact hshows.inexact (by decide) (by decide) (Option.some.inj (Except.ok.inj hexact))
  · exact (hothers _ _ _ hsheet (by decide) (by decide)).2 (2 ^ 52)
      ⟨by decide, by decide, by decide, by decide⟩
  · intro hsame
    rcases (hothers _ _ _ hid (by decide) (by decide)).1 hsame with heq | hnear
    · exact absurd heq (by decide)
    · exact absurd hnear.left (by decide)

-- The number after the greatest word is shown as another one.
theorem not_exact_of_unsigned :
    ¬∀ (entries : List (Data × Data)) (p : String) (n : Int), EndsOnInteger entries p n →
      -2 ^ 63 ≤ n → n < 2 ^ 64 → (table entries).evaluate p = .ok (some (toString n)) := by
  intro h
  have hends : EndsOnInteger
      [(.text "id", .integer 9223372036854775808), (.text "nummer", .integer 9223372036854775809)]
      "id" 9223372036854775808 :=
    ⟨⟨_, [⟨"id", none⟩]⟩, _, rfl,
      ⟨_, ⟨_, _, rfl, Data.entryNamed?_eq_some_iff.mp rfl, .itself rfl⟩, rfl⟩, rfl⟩
  have hexact := h _ _ _ hends (by decide) (by decide)
  rw [hends.evaluate] at hexact
  have hother : (ofInteger 9223372036854775808).render = "9223372036854776000" := by
    decide +kernel
  rw [hother] at hexact
  exact absurd (Option.some.inj (Except.ok.inj hexact)) (by decide)

end Object

end PropertyTemplates
