import PropertyTemplates.Proofs.Path.Composition
import PropertyTemplates.Proofs.Text.Case

namespace PropertyTemplates

open Text

-- A node is a text, perhaps under tags.
inductive Data.Carries : Data → String → Prop
  | text (s : String) : Carries (.text s) s
  | tagged (tag : String) {value : Data} {s : String} (h : Carries value s) :
      Carries (.tagged tag value) s

-- A key of a table stands for a name, whatever the case of the first character of either.
def Data.Names (key : Data) (name : String) : Prop :=
  ∃ text, key.Carries text ∧ lowerFirst text = lowerFirst name

-- The first entry of a table whose key stands for a name has a given value.
def Data.FirstNamed (entries : List (Data × Data)) (name : String) (value : Data) : Prop :=
  ∃ before key after, entries = before ++ (key, value) :: after ∧
    key.Names name ∧ ∀ e ∈ before, ¬e.1.Names name

-- Two steps that differ at most in the case of the first character of their accessors.
structure Segment.SameUpToCase (s t : Segment) : Prop where
  accessor : lowerFirst s.accessor = lowerFirst t.accessor
  index : s.index = t.index

-- An error with its accessor's first character made small.
def PathError.lowered : PathError → PathError
  | .malformedIndex segment => .malformedIndex segment
  | .noAccessor accessor kind => .noAccessor (lowerFirst accessor) kind
  | .notAList accessor kind => .notAList (lowerFirst accessor) kind
  | .outOfRange accessor index length => .outOfRange (lowerFirst accessor) index length

namespace Data

variable {key : Data} {name text : String} {entries : List (Data × Data)}

theorem Carries.text? (h : key.Carries text) : key.text? = some text := by
  induction h with
  | text s => rfl
  | tagged tag h ih => exact ih

theorem carries_of_text? : ∀ {key : Data}, key.text? = some text → key.Carries text
  | .text s, h => by
      obtain rfl : s = text := Option.some.inj h
      exact .text s
  | .tagged tag _, h => .tagged tag (carries_of_text? h)
  | .null, h | .boolean _, h | .integer _, h | .float _, h | .list _, h | .table _, h => nomatch h

theorem text?_eq_some_iff : key.text? = some text ↔ key.Carries text :=
  ⟨carries_of_text?, Carries.text?⟩

theorem names_iff :
    key.Names name ↔ ∃ text, key.text? = some text ∧ lowerFirst text = lowerFirst name :=
  exists_congr fun _ => and_congr_left fun _ => text?_eq_some_iff.symm

instance : Decidable (key.Names name) :=
  decidable_of_iff (∃ text ∈ key.text?, lowerFirst text = lowerFirst name) names_iff.symm

theorem entryNamed?_eq (entries : List (Data × Data)) (name : String) :
    Object.entryNamed? entries (lowerFirst name) =
      entries.findSome? fun e => if e.1.Names name then some e.2 else none := by
  unfold Object.entryNamed?
  congr 1
  funext ⟨key, value⟩
  cases htext : key.text? <;> simp [names_iff, htext]

theorem entryNamed?_eq_some_iff {value : Data} :
    Object.entryNamed? entries (lowerFirst name) = some value ↔ FirstNamed entries name value := by
  rw [entryNamed?_eq, List.findSome?_eq_some_iff]
  simp [FirstNamed]

theorem entryNamed?_eq_none_iff :
    Object.entryNamed? entries (lowerFirst name) = none ↔ ∀ e ∈ entries, ¬e.1.Names name := by
  rw [entryNamed?_eq, List.findSome?_eq_none_iff]
  simp

end Data

namespace Segment

variable {s t : Segment}

theorem step_of_no_access {o : Object} (h : o.access (lowerFirst s.accessor) = none) :
    s.step (.object o) = .error (.noAccessor s.accessor o.typeName) := by
  simp only [step, h]

theorem pick_ne_noAccessor (s : Segment) (yielded : Value) (accessor kind : String) :
    s.pick yielded ≠ .error (.noAccessor accessor kind) := by
  intro h
  rcases error_of_pick h with he | ⟨_, _, he⟩ <;> cases he

theorem step_eq_noAccessor_iff {o : Object} :
    s.step (.object o) = .error (.noAccessor s.accessor o.typeName) ↔
      o.access (lowerFirst s.accessor) = none := by
  constructor
  · intro h
    cases haccess : o.access (lowerFirst s.accessor) with
    | none => rfl
    | some yielded =>
        rw [step_of_access haccess] at h
        exact absurd h (s.pick_ne_noAccessor yielded _ _)
  · exact step_of_no_access

theorem SameUpToCase.pick (h : s.SameUpToCase t) (yielded : Value) :
    (s.pick yielded).mapError PathError.lowered = (t.pick yielded).mapError PathError.lowered := by
  unfold Segment.pick
  rw [h.index]
  cases t.index with
  | none => rfl
  | some index =>
      cases yielded with
      | null => rfl
      | list items => cases hitem : items[index]? <;> simp [hitem, PathError.lowered, h.accessor]
      | text _ | integer _ | float _ | boolean _ | object _ =>
          simp [PathError.lowered, h.accessor]

theorem SameUpToCase.step (h : s.SameUpToCase t) (current : Value) :
    (s.step current).mapError PathError.lowered = (t.step current).mapError PathError.lowered := by
  cases current with
  | object o =>
      cases haccess : o.access (lowerFirst t.accessor) with
      | none =>
          have haccess' : o.access (lowerFirst s.accessor) = none := by rw [h.accessor, haccess]
          simp [step_of_no_access haccess, step_of_no_access haccess', PathError.lowered, h.accessor]
      | some yielded =>
          have haccess' : o.access (lowerFirst s.accessor) = some yielded := by
            rw [h.accessor, haccess]
          rw [step_of_access haccess, step_of_access haccess']
          exact h.pick yielded
  | null | text _ | integer _ | float _ | boolean _ | list _ =>
      simp [Segment.step, PathError.lowered, h.accessor]

end Segment

theorem Path.walk_lowered {segments segments' : List Segment}
    (h : List.Forall₂ Segment.SameUpToCase segments segments') (current : Value) :
    (walk segments current).mapError PathError.lowered =
      (walk segments' current).mapError PathError.lowered := by
  induction h generalizing current with
  | nil => rfl
  | cons hstep hrest ih =>
      rw [walk_cons, walk_cons, Except.mapError_bind, Except.mapError_bind, hstep.step current]
      congr 1
      funext next
      split
      · rfl
      · exact ih next

namespace Object

-- What a table yields for a name is decided by its keys alone: the first that stands for the name
-- is taken, even if it has null beside it or a later one is spelled like the name.
structure LooksUp (entries : List (Data × Data)) (name : String) : Prop where
  yields : ∀ value, (table entries).access (lowerFirst name) = some value ↔
    ∃ d, Data.FirstNamed entries name d ∧ Value.ofData d = value
  missing : (table entries).access (lowerFirst name) = none ↔ ∀ e ∈ entries, ¬e.1.Names name
  taken : ∀ d, Data.FirstNamed entries name d → ∀ index,
    Segment.step ⟨name, index⟩ (.object (table entries)) =
      Segment.pick ⟨name, index⟩ (Value.ofData d)
  refused : ∀ index,
    Segment.step ⟨name, index⟩ (.object (table entries)) = .error (.noAccessor name "mapping") ↔
      ∀ e ∈ entries, ¬e.1.Names name

variable {entries : List (Data × Data)} {name : String}

theorem access_table_eq_some_iff {value : Value} :
    (table entries).access (lowerFirst name) = some value ↔
      ∃ d, Data.FirstNamed entries name d ∧ Value.ofData d = value := by
  simp only [access, Option.map_eq_some_iff, Data.entryNamed?_eq_some_iff]

theorem access_table_eq_none_iff :
    (table entries).access (lowerFirst name) = none ↔ ∀ e ∈ entries, ¬e.1.Names name := by
  simp only [access, Option.map_eq_none_iff, Data.entryNamed?_eq_none_iff]

theorem looksUp (entries : List (Data × Data)) (name : String) : LooksUp entries name where
  yields _ := access_table_eq_some_iff
  missing := access_table_eq_none_iff
  taken _ hd _ := Segment.step_of_access (access_table_eq_some_iff.mpr ⟨_, hd, rfl⟩)
  refused index :=
    (Segment.step_eq_noAccessor_iff (s := ⟨name, index⟩)).trans access_table_eq_none_iff

theorem evaluate_lowered {p q : String} {path path' : Path} (hp : Path.parse p = .ok path)
    (hq : Path.parse q = .ok path')
    (h : List.Forall₂ Segment.SameUpToCase path.segments path'.segments) (root : Object) :
    (root.evaluate p).mapError PathError.lowered = (root.evaluate q).mapError PathError.lowered := by
  rw [evaluate_of_parse hp, evaluate_of_parse hq, Except.mapError_bind, Except.mapError_bind]
  unfold Path.value
  rw [Path.walk_lowered h]

-- Accessors go by their names up to the case of the first character, and the first entry of a
-- table that a name may mean is the one it means.
theorem accessors_up_to_case :
    (∀ name, lowerFirst (lowerFirst name) = lowerFirst name) ∧
      (∀ (p q : String) (path path' : Path), Path.parse p = .ok path → Path.parse q = .ok path' →
        List.Forall₂ Segment.SameUpToCase path.segments path'.segments → ∀ root : Object,
          (root.evaluate p).mapError PathError.lowered =
            (root.evaluate q).mapError PathError.lowered) ∧
      ∀ (entries : List (Data × Data)) (name : String), LooksUp entries name :=
  ⟨lowerFirst_lowerFirst, fun _ _ _ _ hp hq h => evaluate_lowered hp hq h, looksUp⟩

-- A title that is null before one that is spelled as it is asked for, and a key that is no text.
def titlesTable : Object :=
  .table [(.integer 4, .text "vier"), (.tagged "!alt" (.text "Titel"), .null),
    (.text "titel", .text "Band"), (.text "teile", .list [.text "Karte"])]

theorem accessors_up_to_case_titlesTable :
    lowerFirst (lowerFirst "\u0130nhalt") = lowerFirst "\u0130nhalt" ∧
      (titlesTable.evaluate "Teile[0].\u0130nhalt").mapError PathError.lowered =
        (titlesTable.evaluate "teile[0].i\u0307nhalt").mapError PathError.lowered ∧
      titlesTable.access (lowerFirst "titel") = some .null := by
  have hwritten : Path.parse "Teile[0].\u0130nhalt" =
      .ok ⟨"Teile[0].\u0130nhalt", [⟨"Teile", some 0⟩, ⟨"\u0130nhalt", none⟩]⟩ := rfl
  have hsmall : Path.parse "teile[0].i\u0307nhalt" =
      .ok ⟨"teile[0].i\u0307nhalt", [⟨"teile", some 0⟩, ⟨"i\u0307nhalt", none⟩]⟩ := rfl
  have hparts : Segment.SameUpToCase ⟨"Teile", some 0⟩ ⟨"teile", some 0⟩ :=
    ⟨by decide +kernel, rfl⟩
  have hcontent : Segment.SameUpToCase ⟨"\u0130nhalt", none⟩ ⟨"i\u0307nhalt", none⟩ :=
    ⟨by decide +kernel, rfl⟩
  refine ⟨accessors_up_to_case.1 _, ?_, ?_⟩
  · exact accessors_up_to_case.2.1 _ _ _ _ hwritten hsmall
      (.cons hparts (.cons hcontent .nil)) titlesTable
  · refine ((accessors_up_to_case.2.2 _ "titel").yields _).mpr ⟨.null, ?_, rfl⟩
    refine ⟨[(.integer 4, .text "vier")], .tagged "!alt" (.text "Titel"), _, rfl, ?_, ?_⟩
    · exact ⟨"Titel", .tagged _ (.text _), by decide +kernel⟩
    · decide +kernel

end Object

end PropertyTemplates
