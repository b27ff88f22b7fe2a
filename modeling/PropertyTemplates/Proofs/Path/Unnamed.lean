import PropertyTemplates.Proofs.Configuration.Inspection
import PropertyTemplates.Proofs.Path.Accessor

namespace PropertyTemplates

open Text

-- A table in which an entry has the empty text as its key.
def Value.HasUnnamed (v : Value) : Prop :=
  ∃ entries, v = .object (.table entries) ∧ ∃ e ∈ entries, e.1.Carries ""

-- No part of a value is a table; the parts of a typed snapshot are like that.
inductive Value.IsTyped : Value → Prop
  | null : IsTyped .null
  | text (s : String) : IsTyped (.text s)
  | integer (n : Int) : IsTyped (.integer n)
  | float (x : Float) : IsTyped (.float x)
  | boolean (b : Bool) : IsTyped (.boolean b)
  | object {o : Object} (h : ∀ entries, o ≠ .table entries) : IsTyped (.object o)
  | list {items : List Value} (h : ∀ item ∈ items, IsTyped item) : IsTyped (.list items)

-- A path comes from the root to a value at which the name of its next accessor is empty.
def Path.ReachesUnnamed (path : Path) (root : Object) (v : Value) : Prop :=
  ∃ before s after, path.segments = before ++ s :: after ∧ s.accessor = "" ∧
    walk before (.object root) = .ok v ∧ v.isNull = false

theorem Data.names_empty_iff {key : Data} : key.Names "" ↔ key.Carries "" := by
  simp only [Names, lowerFirst_eq_empty_iff.mpr, lowerFirst_eq_empty_iff]
  simp

namespace Value

theorem isTyped_ofOption {α : Type} {wrap : α → Value} (h : ∀ a, (wrap a).IsTyped)
    (o : Option α) : (ofOption wrap o).IsTyped := by
  cases o with
  | none => exact .null
  | some a => exact h a

theorem isTyped_map {α : Type} {wrap : α → Value} (h : ∀ a, (wrap a).IsTyped) (items : List α) :
    (Value.list (items.map wrap)).IsTyped := by
  refine .list fun item hitem => ?_
  obtain ⟨a, -, rfl⟩ := List.mem_map.mp hitem
  exact h a

theorem IsTyped.not_hasUnnamed {v : Value} (h : v.IsTyped) : ¬v.HasUnnamed := by
  rintro ⟨entries, rfl, -⟩
  cases h with
  | object h => exact h entries rfl

end Value

open Value

theorem Object.isTyped_of_access {o : Object} {name : String} {v : Value}
    (ho : ∀ entries, o ≠ .table entries) (h : o.access name = some v) : v.IsTyped := by
  have hobject {α : Type} (wrap : α → Object) (hwrap : ∀ a entries, wrap a ≠ .table entries) :
      ∀ a, ((Value.object ∘ wrap) a).IsTyped := fun a => .object (hwrap a)
  have hinstant : ∀ i : Option Instant, (instantValue i).IsTyped :=
    isTyped_ofOption fun i => .text i.display
  cases o with
  | table entries => exact absurd rfl (ho entries)
  | process p =>
      have hproject := isTyped_ofOption (hobject project (by simp)) p.project
      have hsteps := isTyped_map (hobject step (by simp)) p.steps
      have hproperties := isTyped_map (hobject property (by simp)) p.properties
      have hcreated := hinstant p.createdAt
      simp only [access] at h
      split at h <;> cases h <;> first | assumption | constructor
  | project p | property p =>
      simp only [access] at h
      split at h <;> cases h <;> constructor
  | step s =>
      have heditor := isTyped_ofOption (hobject user (by simp)) s.editor
      have hstarted := hinstant s.startedAt
      have hfinished := hinstant s.finishedAt
      simp only [access] at h
      split at h <;> cases h <;> first | assumption | constructor
  | user u =>
      have hlocation := isTyped_ofOption .text u.location
      have hemail := isTyped_ofOption .text u.email
      simp only [access] at h
      split at h <;> cases h <;> first | assumption | constructor

namespace Segment

variable {s : Segment} {v yielded : Value}

theorem isTyped_of_pick (hyielded : yielded.IsTyped) (h : s.pick yielded = .ok v) : v.IsTyped := by
  unfold pick at h
  split at h
  · cases h
    exact hyielded
  · cases h
    exact .null
  · split at h
    · rename_i items item hitem
      cases h
      cases hyielded with
      | list hitems => exact hitems _ (List.mem_of_getElem? hitem)
    · cases h
  · cases h

theorem isTyped_of_step {current : Value} (hcurrent : current.IsTyped) (h : s.step current = .ok v) :
    v.IsTyped := by
  cases hcurrent with
  | object ho =>
      rename_i o
      cases haccess : o.access (lowerFirst s.accessor) with
      | none =>
          rw [step_of_no_access haccess] at h
          cases h
      | some yielded =>
          rw [step_of_access haccess] at h
          exact isTyped_of_pick (Object.isTyped_of_access ho haccess) h
  | null | text _ | integer _ | float _ | boolean _ | list _ => cases h

-- No typed object has an accessor without a name.
theorem access_empty_eq_none_iff {o : Object} :
    o.access "" = none ↔ ¬(Value.object o).HasUnnamed := by
  cases o with
  | table entries =>
      have hlookup : (Object.table entries).access (lowerFirst "") = none ↔ _ :=
        Object.access_table_eq_none_iff
      rw [lowerFirst_eq_empty_iff.mpr rfl] at hlookup
      rw [hlookup]
      simp [HasUnnamed, Data.names_empty_iff]
  | process p | project p | step p | user p | property p => simp [HasUnnamed, Object.access]

theorem step_unnamed_iff (h : s.accessor = "") :
    s.step v = .error (.noAccessor "" v.kind) ↔ ¬v.HasUnnamed := by
  cases v with
  | object o =>
      have hstep := step_eq_noAccessor_iff (s := s) (o := o)
      rw [h, lowerFirst_eq_empty_iff.mpr rfl] at hstep
      exact hstep.trans access_empty_eq_none_iff
  | null | text _ | integer _ | float _ | boolean _ | list _ =>
      simp [step, HasUnnamed, h]

end Segment

namespace Path

theorem isTyped_of_walk {segments : List Segment} {current v : Value} (hcurrent : current.IsTyped)
    (h : walk segments current = .ok v) : v.IsTyped := by
  induction segments generalizing current with
  | nil =>
      cases h
      exact hcurrent
  | cons s rest ih =>
      rw [walk_cons] at h
      obtain ⟨next, hstep, h⟩ := Except.bind_eq_ok.mp h
      split at h
      · cases h
        exact .null
      · exact ih (Segment.isTyped_of_step hcurrent hstep) h

variable {path : Path} {root : Object} {v : Value}

theorem ReachesUnnamed.value (h : path.ReachesUnnamed root v) (hv : ¬v.HasUnnamed) :
    path.value root = .error (.noAccessor "" v.kind) := by
  obtain ⟨before, s, after, hsegments, hname, hwalk, hnull⟩ := h
  unfold Path.value
  rw [hsegments, walk_append before (s :: after) rfl, hwalk, Except.ok_bind, hnull,
    if_neg Bool.false_ne_true, walk_cons, (Segment.step_unnamed_iff hname).mpr hv,
    Except.error_bind]

theorem ReachesUnnamed.isTyped (h : path.ReachesUnnamed root v)
    (hroot : ∀ entries, root ≠ .table entries) : v.IsTyped := by
  obtain ⟨_, _, _, -, -, hwalk, -⟩ := h
  exact isTyped_of_walk (.object hroot) hwalk

-- A path that ends on a value has come to each of its steps, and the step has led somewhere.
theorem step_of_value (hvalue : path.value root = .ok v) (hnull : v.isNull = false)
    {before after : List Segment} {s : Segment} (hsegments : path.segments = before ++ s :: after) :
    ∃ u w, walk before (.object root) = .ok u ∧ u.isNull = false ∧ s.step u = .ok w := by
  unfold Path.value at hvalue
  rw [hsegments, walk_append before (s :: after) rfl] at hvalue
  obtain ⟨u, hwalk, hvalue⟩ := Except.bind_eq_ok.mp hvalue
  cases hu : u.isNull with
  | true =>
      rw [hu, if_pos rfl] at hvalue
      cases hvalue
      cases hnull
  | false =>
      rw [hu, if_neg Bool.false_ne_true, walk_cons] at hvalue
      obtain ⟨w, hstep, -⟩ := Except.bind_eq_ok.mp hvalue
      exact ⟨u, w, hwalk, hu, hstep⟩

end Path

namespace Object

variable {p : String} {path : Path} {root : Object}

theorem exists_unnamed_of_evaluate (hp : Path.parse p = .ok path) {text : String}
    (hflaw : Inspection.pathFlaw? p = some .emptyAccessor)
    (h : root.evaluate p = .ok (some text)) : ∃ v, path.ReachesUnnamed root v ∧ v.HasUnnamed := by
  obtain ⟨path', hp', s, hs, hname⟩ := Inspection.pathFlaw?_eq_emptyAccessor_iff.mp hflaw
  cases hp.symm.trans hp'
  obtain ⟨before, after, hsegments⟩ := List.append_of_mem hs
  rw [evaluate_of_parse hp] at h
  obtain ⟨v, hvalue, h⟩ := Except.bind_eq_ok.mp h
  have hnull : v.isNull = false := by
    cases hv : v.isNull with
    | true => simp [hv] at h
    | false => rfl
  obtain ⟨u, w, hwalk, hu, hstep⟩ := Path.step_of_value hvalue hnull hsegments
  refine ⟨u, ⟨before, s, after, hsegments, hname, hwalk, hu⟩, ?_⟩
  by_contra hunnamed
  rw [(Segment.step_unnamed_iff hname).mpr hunnamed] at hstep
  cases hstep

-- An accessor without a name fails unless a table has an entry without a name: always in a typed
-- snapshot, and where a path of a rejected placeholder leads to a text there is such an entry.
theorem evaluate_unnamed (hp : Path.parse p = .ok path) (root : Object) :
    (∀ v, path.ReachesUnnamed root v → ¬v.HasUnnamed →
      root.evaluate p = .error (.noAccessor "" v.kind)) ∧
    (∀ v, path.ReachesUnnamed root v → (∀ entries, root ≠ .table entries) →
      root.evaluate p = .error (.noAccessor "" v.kind)) ∧
    (Inspection.pathFlaw? p = some .emptyAccessor → ∀ text, root.evaluate p = .ok (some text) →
      ∃ v, path.ReachesUnnamed root v ∧ v.HasUnnamed) := by
  have hfails (v : Value) (hreaches : path.ReachesUnnamed root v) (hunnamed : ¬v.HasUnnamed) :
      root.evaluate p = .error (.noAccessor "" v.kind) :=
    (evaluate_eq_error hp).mpr (hreaches.value hunnamed)
  refine ⟨hfails, ?_, ?_⟩
  · intro v hreaches hroot
    exact hfails v hreaches (hreaches.isTyped hroot).not_hasUnnamed
  · intro hflaw text h
    exact exists_unnamed_of_evaluate hp hflaw h

-- A part with a title, and an entry without a name.
def unnamedTable : Object :=
  .table [(.text "teil", .table [(.text "titel", .text "Karte")]),
    (.tagged "!leer" (.text ""), .text "x")]

def untitledProcess : Object := .process ⟨7, "", none, [], [], none, false⟩

theorem evaluate_unnamed_unnamedTable :
    unnamedTable.evaluate "teil." = .error (.noAccessor "" "mapping") ∧
      untitledProcess.evaluate "titel." = .error (.noAccessor "" "text") ∧
      unnamedTable.evaluate "" = .ok (some "x") ∧
      ∃ v, Path.ReachesUnnamed ⟨"", [⟨"", none⟩]⟩ unnamedTable v ∧ v.HasUnnamed := by
  have hpart : Path.parse "teil." = .ok ⟨"teil.", [⟨"teil", none⟩, ⟨"", none⟩]⟩ := rfl
  have htitle : Path.parse "titel." = .ok ⟨"titel.", [⟨"titel", none⟩, ⟨"", none⟩]⟩ := rfl
  have hnone : Path.parse "" = .ok ⟨"", [⟨"", none⟩]⟩ := rfl
  have hempty : unnamedTable.evaluate "" = .ok (some "x") := rfl
  refine ⟨?_, ?_, hempty, ?_⟩
  · have hreaches : Path.ReachesUnnamed ⟨"teil.", [⟨"teil", none⟩, ⟨"", none⟩]⟩ unnamedTable
        (.object (.table [(.text "titel", .text "Karte")])) :=
      ⟨[⟨"teil", none⟩], _, _, rfl, rfl, rfl, rfl⟩
    refine (evaluate_unnamed hpart unnamedTable).1 _ hreaches ?_
    rintro ⟨entries, he, e, hmem, hcarries⟩
    cases he
    cases List.mem_singleton.mp hmem
    have hkey := hcarries.text?
    simp [Data.text?, Data.untagged] at hkey
  · have hreaches : Path.ReachesUnnamed ⟨"titel.", [⟨"titel", none⟩, ⟨"", none⟩]⟩
        untitledProcess (.text "") := ⟨[⟨"titel", none⟩], _, _, rfl, rfl, rfl, rfl⟩
    exact (evaluate_unnamed htitle untitledProcess).2.1 _ hreaches fun _ => Object.noConfusion
  · exact (evaluate_unnamed hnone unnamedTable).2.2 rfl "x" hempty

-- A table may have the empty text as a key, and then an accessor without a name leads somewhere.
theorem not_refused_of_unnamed :
    ¬∀ (p : String) (path : Path) (root : Object) (v : Value), Path.parse p = .ok path →
      path.ReachesUnnamed root v →
        ∃ accessor kind, root.evaluate p = .error (.noAccessor accessor kind) := by
  intro h
  have hparse : Path.parse "" = .ok ⟨"", [⟨"", none⟩]⟩ := rfl
  have hreaches : Path.ReachesUnnamed ⟨"", [⟨"", none⟩]⟩ (.table [(.text "", .text "x")])
      (.object (.table [(.text "", .text "x")])) := ⟨[], _, _, rfl, rfl, rfl, rfl⟩
  obtain ⟨accessor, kind, herror⟩ := h _ _ _ _ hparse hreaches
  cases herror

end Object

end PropertyTemplates
