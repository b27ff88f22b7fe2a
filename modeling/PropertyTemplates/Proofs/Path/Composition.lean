import PropertyTemplates.Proofs.Path.Grammar

namespace PropertyTemplates

-- The accessor of a step yields nothing at an object, or a list with nothing at the index.
inductive Segment.FindsNothing (s : Segment) (o : Object) : Prop where
  | accessor (h : o.access (Text.lowerFirst s.accessor) = some .null)
  | element {items : List Value} {index : Nat}
      (h : o.access (Text.lowerFirst s.accessor) = some (.list items))
      (hindex : s.index = some index) (hitem : items[index]? = some .null)

theorem Segment.step_of_access {s : Segment} {o : Object} {yielded : Value}
    (h : o.access (Text.lowerFirst s.accessor) = some yielded) :
    s.step (.object o) = s.pick yielded := by
  simp only [Segment.step, h]

theorem Segment.FindsNothing.step {s : Segment} {o : Object} (h : s.FindsNothing o) :
    s.step (.object o) = .ok .null := by
  cases h with
  | accessor h =>
      rw [Segment.step_of_access h]
      unfold Segment.pick
      cases s.index <;> rfl
  | element h hindex hitem =>
      rw [Segment.step_of_access h]
      simp only [Segment.pick, hindex, hitem]

theorem Segment.step_of_not_object (s : Segment) {v : Value} (h : ∀ o, v ≠ .object o) :
    s.step v = .error (.noAccessor s.accessor v.kind) := by
  unfold Segment.step
  cases v with
  | object o => exact absurd rfl (h o)
  | null | text _ | integer _ | float _ | boolean _ | list _ => rfl

namespace Path

-- A path comes from the root to an object where its next step finds nothing.
def MeetsNothing (path : Path) (root : Object) : Prop :=
  ∃ before s after o, path.segments = before ++ s :: after ∧
    walk before (.object root) = .ok (.object o) ∧ s.FindsNothing o

variable {p q : String} {path path' : Path} {root : Object}

-- A walk goes on from where its first part ends, unless there is nothing there.
theorem walk_append (segments more : List Segment) {current : Value}
    (h : current.isNull = false) :
    walk (segments ++ more) current =
      walk segments current >>= fun v => if v.isNull then .ok .null else walk more v := by
  induction segments generalizing current with
  | nil =>
      rw [List.nil_append, walk, Except.ok_bind, h]
      rfl
  | cons s rest ih =>
      rw [List.cons_append, walk_cons, walk_cons, bind_assoc]
      congr 1
      funext next
      by_cases hnext : next.isNull = true
      · rw [if_pos hnext, if_pos hnext]
        rfl
      · rw [if_neg hnext, if_neg hnext]
        exact ih (by simpa using hnext)

theorem splitOn_dot (p q : String) :
    (p ++ "." ++ q).toList.splitOn '.' = p.toList.splitOn '.' ++ q.toList.splitOn '.' := by
  have htext : (p ++ "." ++ q).toList = p.toList ++ '.' :: q.toList := by simp
  rw [htext, List.splitOn_append_cons_self]

theorem parse_dot (hp : parse p = .ok path) (hq : parse q = .ok path') :
    parse (p ++ "." ++ q) = .ok ⟨p ++ "." ++ q, path.segments ++ path'.segments⟩ := by
  obtain ⟨-, hsegments⟩ := parse_eq_ok_iff.mp hp
  obtain ⟨-, hsegments'⟩ := parse_eq_ok_iff.mp hq
  refine parse_eq_ok_iff.mpr ⟨rfl, ?_⟩
  rw [splitOn_dot]
  exact List.rel_append hsegments hsegments'

theorem exists_segment (h : parse p = .ok path) : ∃ s rest, path.segments = s :: rest := by
  obtain ⟨-, hsegments⟩ := parse_eq_ok_iff.mp h
  refine List.exists_cons_of_ne_nil fun hnil => ?_
  rw [hnil, List.forall₂_nil_right_iff] at hsegments
  exact List.splitOn_ne_nil '.' p.toList hsegments

theorem MeetsNothing.value (h : path.MeetsNothing root) : path.value root = .ok .null := by
  obtain ⟨before, s, after, o, hsegments, hwalk, hnothing⟩ := h
  unfold Path.value
  rw [hsegments, walk_append before (s :: after) rfl, hwalk, Except.ok_bind, walk_cons,
    hnothing.step]
  rfl

end Path

namespace Object

def LeadsTo (root : Object) (p : String) (v : Value) : Prop :=
  ∃ path, Path.parse p = .ok path ∧ path.value root = .ok v

-- What a path comes to when a second one is put after it.
structure Continues (root : Object) (p q : String) : Prop where
  refused : ∀ e, root.evaluate p = .error e → root.evaluate (p ++ "." ++ q) = .error e
  absent : root.evaluate p = .ok none → root.evaluate (p ++ "." ++ q) = .ok none
  object : ∀ o, root.LeadsTo p (.object o) → root.evaluate (p ++ "." ++ q) = o.evaluate q
  other : ∀ v, root.LeadsTo p v → v.isNull = false → (∀ o, v ≠ .object o) →
    ∃ path s rest, Path.parse q = .ok path ∧ path.segments = s :: rest ∧
      root.evaluate (p ++ "." ++ q) = .error (.noAccessor s.accessor v.kind)

variable {p q : String} {path path' : Path}

theorem value_dot (root : Object) (path path' : Path) (text : String) :
    Path.value ⟨text, path.segments ++ path'.segments⟩ root =
      path.value root >>= fun v =>
        if v.isNull then .ok .null else Path.walk path'.segments v :=
  Path.walk_append path.segments path'.segments rfl

theorem evaluate_eq_error (hp : Path.parse p = .ok path) {root : Object} {e : PathError} :
    root.evaluate p = .error e ↔ path.value root = .error e := by
  rw [evaluate_of_parse hp, Except.bind_eq_error]
  simp

theorem evaluate_eq_none (hp : Path.parse p = .ok path) {root : Object} :
    root.evaluate p = .ok none ↔ path.value root = .ok .null := by
  rw [evaluate_of_parse hp, Except.bind_eq_ok]
  constructor
  · rintro ⟨v, hv, h⟩
    cases v with
    | null => exact hv
    | text _ | integer _ | float _ | boolean _ | object _ | list _ => cases h
  · intro h
    exact ⟨.null, h, rfl⟩

theorem continues (hp : Path.parse p = .ok path) (hq : Path.parse q = .ok path') (root : Object) :
    root.Continues p q := by
  have hdot := Path.parse_dot hp hq
  refine ⟨?_, ?_, ?_, ?_⟩
  · intro e h
    rw [evaluate_eq_error hp] at h
    rw [evaluate_eq_error hdot, value_dot, h]
    rfl
  · intro h
    rw [evaluate_eq_none hp] at h
    rw [evaluate_eq_none hdot, value_dot, h]
    rfl
  · rintro o ⟨path, hpath, hvalue⟩
    cases hp.symm.trans hpath
    rw [evaluate_of_parse hdot, evaluate_of_parse hq, value_dot, hvalue]
    rfl
  · rintro v ⟨path, hpath, hvalue⟩ hnull hobject
    cases hp.symm.trans hpath
    obtain ⟨s, rest, hsegments⟩ := Path.exists_segment hq
    refine ⟨path', s, rest, hq, hsegments, ?_⟩
    rw [evaluate_eq_error hdot, value_dot, hvalue, Except.ok_bind, hsegments, hnull,
      if_neg Bool.false_ne_true, Path.walk_cons, s.step_of_not_object hobject]
    rfl

-- Evaluating a path composes along its points. A piece that is spelled wrongly is found before the
-- root is looked at, and where something is absent the rest of the path does not matter.
theorem evaluate_composes (p q : String) :
    ((∃ piece ∈ p.toList.splitOn '.' ++ q.toList.splitOn '.', ¬Segment.WellFormed piece) →
      ∃ piece, Path.FirstMalformed (p.toList.splitOn '.' ++ q.toList.splitOn '.') piece ∧
        ∀ root : Object,
          root.evaluate (p ++ "." ++ q) = .error (.malformedIndex (String.ofList piece))) ∧
    ((∀ piece ∈ p.toList.splitOn '.' ++ q.toList.splitOn '.', Segment.WellFormed piece) →
      ∀ root : Object, root.Continues p q) ∧
    ∀ (root : Object) (path : Path), Path.parse p = .ok path → path.MeetsNothing root →
      root.evaluate p = .ok none := by
  refine ⟨?_, ?_, ?_⟩
  · rintro ⟨bad, hbad, hmalformed⟩
    rw [← Path.splitOn_dot] at hbad ⊢
    cases h : Path.parse (p ++ "." ++ q) with
    | ok path => exact absurd (Path.exists_parse_iff.mp ⟨path, h⟩ bad hbad) hmalformed
    | error e =>
        obtain ⟨piece, hfirst, rfl⟩ := Path.parse_eq_error_iff.mp h
        refine ⟨piece, hfirst, fun root => ?_⟩
        exact (root.evaluate_malformed_iff _ _).mpr h
  · intro hall root
    obtain ⟨hpieces, hpieces'⟩ := List.forall_mem_append.mp hall
    obtain ⟨path, hp⟩ := Path.exists_parse_iff.mpr hpieces
    obtain ⟨path', hq⟩ := Path.exists_parse_iff.mpr hpieces'
    exact continues hp hq root
  · intro root path hp hnothing
    exact (evaluate_eq_none hp).mpr hnothing.value

-- A part with a title, and a list with nothing in it.
def sheetTable : Object :=
  .table [(.text "teil", .table [(.text "titel", .text "Karte")]), (.text "titel", .text "Maps"),
    (.text "blatt", .list [.null])]

theorem evaluate_composes_sheetTable :
    sheetTable.evaluate ("teil" ++ "." ++ "titel") = .ok (some "Karte") ∧
      sheetTable.evaluate ("titel" ++ "." ++ "seite") = .error (.noAccessor "seite" "text") ∧
      sheetTable.evaluate "blatt[0].seite" = .ok none ∧
      ∀ root : Object, root.evaluate ("blatt[x]" ++ "." ++ "titel[") =
        .error (.malformedIndex "blatt[x]") := by
  have hpart : Path.parse "teil" = .ok ⟨"teil", [⟨"teil", none⟩]⟩ := rfl
  have htitle : Path.parse "titel" = .ok ⟨"titel", [⟨"titel", none⟩]⟩ := rfl
  have hside : Path.parse "seite" = .ok ⟨"seite", [⟨"seite", none⟩]⟩ := rfl
  have hsheet : Path.parse "blatt[0].seite" =
      .ok ⟨"blatt[0].seite", [⟨"blatt", some 0⟩, ⟨"seite", none⟩]⟩ := rfl
  have hwritten {text : String} {path : Path} (h : Path.parse text = .ok path) :
      ∀ piece ∈ text.toList.splitOn '.', Segment.WellFormed piece :=
    Path.exists_parse_iff.mp ⟨path, h⟩
  refine ⟨?_, ?_, ?_, ?_⟩
  · have hall := List.forall_mem_append.mpr ⟨hwritten hpart, hwritten htitle⟩
    exact ((evaluate_composes _ _).2.1 hall sheetTable).object _ ⟨_, hpart, rfl⟩
  · have hall := List.forall_mem_append.mpr ⟨hwritten htitle, hwritten hside⟩
    obtain ⟨path, s, rest, hpath, hsegments, herror⟩ :=
      ((evaluate_composes _ _).2.1 hall sheetTable).other (.text "Maps") ⟨_, htitle, rfl⟩ rfl
        fun o => Value.noConfusion
    cases hside.symm.trans hpath
    cases hsegments
    exact herror
  · exact (evaluate_composes _ "").2.2 sheetTable _ hsheet
      ⟨[], _, _, sheetTable, rfl, rfl, .element rfl rfl rfl⟩
  · have hpiece : ¬Segment.WellFormed "blatt[x]".toList := by
      intro h
      obtain ⟨s, hs⟩ := Segment.wellFormed_iff.mp h
      cases hs
    obtain ⟨piece, -, herror⟩ := (evaluate_composes "blatt[x]" "titel[").1
      ⟨_, List.mem_append_left _ List.mem_cons_self, hpiece⟩
    have hroot : sheetTable.evaluate ("blatt[x]" ++ "." ++ "titel[") =
        .error (.malformedIndex "blatt[x]") := rfl
    have hfirst := (herror sheetTable).symm.trans hroot
    intro root
    rw [herror root]
    simpa using hfirst

end Object

end PropertyTemplates
