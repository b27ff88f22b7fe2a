import PropertyTemplates.Proofs.Path.Evaluation
import PropertyTemplates.Proofs.Work.Untyped

namespace PropertyTemplates

-- Errors that differ at most in the kind of value that they name.
inductive PathError.Alike : PathError → PathError → Prop
  | malformedIndex (segment : String) : Alike (.malformedIndex segment) (.malformedIndex segment)
  | noAccessor (accessor kind kind' : String) :
      Alike (.noAccessor accessor kind) (.noAccessor accessor kind')
  | notAList (accessor kind kind' : String) :
      Alike (.notAList accessor kind) (.notAList accessor kind')
  | outOfRange (accessor : String) (index length : Nat) :
      Alike (.outOfRange accessor index length) (.outOfRange accessor index length)

theorem PathError.Alike.refl (e : PathError) : e.Alike e := by
  cases e <;> constructor

-- What a way through typed objects yields, and what the same way yields through their tables.
inductive Value.Mirrored : Except PathError Value → Except PathError Value → Prop
  | ok (value : Value) : Mirrored (.ok value) (.ok value.untyped)
  | error {e e' : PathError} (h : e.Alike e') : Mirrored (.error e) (.error e')

namespace Value

@[simp] theorem isNull_untyped (value : Value) : value.untyped.isNull = value.isNull := by
  cases value <;> rfl

theorem getElem?_untypedItems (items : List Value) (i : Nat) :
    (untypedItems items)[i]? = items[i]?.map untyped := by
  rw [untypedItems_eq_map, List.getElem?_map]

theorem length_untypedItems (items : List Value) : (untypedItems items).length = items.length := by
  rw [untypedItems_eq_map, List.length_map]

end Value

open Value

theorem Segment.pick_mirrored (s : Segment) (yielded : Value) :
    Mirrored (s.pick yielded) (s.pick yielded.untyped) := by
  unfold Segment.pick
  cases s.index with
  | none => exact .ok yielded
  | some index =>
      cases yielded with
      | null => exact .ok .null
      | list items =>
          simp only [untyped, getElem?_untypedItems, length_untypedItems]
          cases items[index]? with
          | none => exact .error (.outOfRange _ _ _)
          | some item => exact .ok item
      | text _ | integer _ | float _ | boolean _ | object _ => exact .error (.notAList _ _ _)

-- A path keeps to the fields as they are written if no accessor on it is one of the typed ones.
def Segment.IsWritten (s : Segment) : Prop :=
  Text.lowerFirst s.accessor ∉ Object.typedAccessors

instance (s : Segment) : Decidable s.IsWritten := inferInstanceAs (Decidable (_ ∉ _))

theorem Segment.step_mirrored {s : Segment} (h : s.IsWritten) (current : Value) :
    Mirrored (s.step current) (s.step current.untyped) := by
  cases current with
  | object o =>
      simp only [Segment.step, untyped, Object.access_untyped o h]
      cases o.access (Text.lowerFirst s.accessor) with
      | none => exact .error (.noAccessor _ _ _)
      | some yielded => exact s.pick_mirrored yielded
  | null | text _ | integer _ | float _ | boolean _ | list _ =>
      exact .error (.noAccessor _ _ _)

namespace Path

-- Each step leads from a value and its mirror to a value and its mirror, so a whole walk does.
theorem walk_mirrored {segments : List Segment} (h : ∀ s ∈ segments, s.IsWritten)
    (current : Value) :
    Mirrored (walk segments current) (walk segments current.untyped) := by
  induction segments generalizing current with
  | nil => exact .ok current
  | cons s rest ih =>
      have hrest := ih fun t ht => h t (List.mem_cons_of_mem _ ht)
      have hstep := Segment.step_mirrored (h s List.mem_cons_self) current
      rw [walk_cons, walk_cons]
      generalize s.step current = typed at hstep ⊢
      generalize s.step current.untyped = written at hstep ⊢
      cases hstep with
      | error he => exact .error he
      | ok value =>
          simp only [Except.ok_bind, isNull_untyped]
          split
          · exact .ok .null
          · exact hrest value

end Path

-- The values whose text does not depend on the form of the snapshot.
def Value.IsPlain : Value → Prop
  | .text _ | .integer _ | .boolean _ => True
  | .null | .float _ | .object _ | .list _ => False

-- What a path comes to at two roots: errors of the same kind, nothing, or a text each.
inductive Path.SameEnd :
    Except PathError (Option String) → Except PathError (Option String) → Prop
  | refused {e e' : PathError} (h : e.Alike e') : SameEnd (.error e) (.error e')
  | absent : SameEnd (.ok none) (.ok none)
  | found (text text' : String) : SameEnd (.ok (some text)) (.ok (some text'))

namespace Object

-- A path comes to the same at two roots. Where it ends on a plain value, the texts are equal.
structure EvaluatesLike (o o' : Object) (path : String) : Prop where
  sameEnd : Path.SameEnd (o.evaluate path) (o'.evaluate path)
  text : ∀ p v, Path.parse path = .ok p → p.value o = .ok v → v.IsPlain →
    o.evaluate path = .ok (some v.render) ∧ o'.evaluate path = .ok (some v.render)

theorem render_untyped {v : Value} (h : v.IsPlain) :
    v.untyped.render = v.render ∧ v.isNull = false := by
  cases v <;> first | exact h.elim | exact ⟨rfl, rfl⟩

theorem evaluatesLike_untyped (o : Object) {path : String}
    (h : ∀ p, Path.parse path = .ok p → ∀ s ∈ p.segments, s.IsWritten) :
    o.EvaluatesLike o.untyped path := by
  cases hparse : Path.parse path with
  | error e =>
      have herror : ∀ root : Object, root.evaluate path = .error e :=
        fun root => Except.bind_eq_error.mpr (.inl hparse)
      refine ⟨?_, ?_⟩
      · rw [herror o, herror o.untyped]
        exact .refused (.refl e)
      · intro p v hp
        cases hparse.symm.trans hp
  | ok p =>
      have hvalue : Value.Mirrored (p.value o) (p.value o.untyped) :=
        Path.walk_mirrored (h p hparse) (.object o)
      refine ⟨?_, ?_⟩
      · rw [evaluate_of_parse hparse, evaluate_of_parse hparse]
        generalize p.value o = typed at hvalue ⊢
        generalize p.value o.untyped = written at hvalue ⊢
        cases hvalue with
        | error he => exact .refused he
        | ok v =>
            simp only [Except.ok_bind, Value.isNull_untyped]
            split
            · exact .absent
            · exact .found _ _
      · intro q v hq hv hplain
        cases hparse.symm.trans hq
        rw [evaluate_of_parse hparse, evaluate_of_parse hparse]
        obtain ⟨hrender, hnull⟩ := render_untyped hplain
        rw [hv] at hvalue ⊢
        generalize p.value o.untyped = written at hvalue ⊢
        cases hvalue
        simp only [Except.ok_bind, Value.isNull_untyped, hnull, hrender]
        exact ⟨rfl, rfl⟩

end Object

end PropertyTemplates
