import PropertyTemplates.Path.Evaluate
import PropertyTemplates.Proofs.Except

namespace PropertyTemplates

theorem Segment.malformed_of_parse {cs : List Char} {e : PathError}
    (h : Segment.parse cs = .error e) : e = .malformedIndex (String.ofList cs) := by
  unfold Segment.parse at h
  simp only at h
  split at h
  · cases h
  · split at h
    · cases h
    · cases h
      rfl

-- Reading a path fails only at an index.
theorem Path.malformed_of_parse {text : String} {e : PathError} (h : Path.parse text = .error e) :
    ∃ piece, e = .malformedIndex piece := by
  rcases Except.bind_eq_error.mp h with h | ⟨_, _, h⟩
  · obtain ⟨cs, _, hcs⟩ := Except.mapM_eq_error h
    exact ⟨_, Segment.malformed_of_parse hcs⟩
  · cases h

-- Picking an element fails where there is no list, or no element at the index.
theorem Segment.error_of_pick {s : Segment} {yielded : Value} {e : PathError}
    (h : s.pick yielded = .error e) :
    e = .notAList s.accessor yielded.kind ∨
      ∃ index length, e = .outOfRange s.accessor index length := by
  unfold Segment.pick at h
  split at h
  · cases h
  · cases h
  · split at h
    · cases h
    · cases h
      exact .inr ⟨_, _, rfl⟩
  · cases h
    exact .inl rfl

theorem Segment.pick_ne_malformed (s : Segment) (yielded : Value) (piece : String) :
    s.pick yielded ≠ .error (.malformedIndex piece) := by
  intro h
  rcases Segment.error_of_pick h with he | ⟨_, _, he⟩ <;> cases he

theorem Segment.step_ne_malformed (s : Segment) (current : Value) (piece : String) :
    s.step current ≠ .error (.malformedIndex piece) := by
  unfold Segment.step
  split
  · split
    · exact s.pick_ne_malformed _ piece
    · simp
  · simp

theorem Path.walk_cons (s : Segment) (rest : List Segment) (current : Value) :
    Path.walk (s :: rest) current =
      s.step current >>= fun next => if next.isNull then .ok .null else Path.walk rest next := by
  rw [Path.walk]
  congr 1
  funext next
  cases next <;> rfl

theorem Path.evaluate_eq (p : Path) (root : Object) :
    p.evaluate root =
      p.value root >>= fun v => .ok (if v.isNull then none else some v.render) := by
  unfold Path.evaluate
  congr 1
  funext v
  cases v <;> rfl

theorem Object.evaluate_of_parse {path : String} {p : Path} (h : Path.parse path = .ok p)
    (root : Object) : root.evaluate path =
      p.value root >>= fun v => .ok (if v.isNull then none else some v.render) := by
  unfold Object.evaluate
  rw [h, Except.ok_bind, Path.evaluate_eq]

-- Walking a path that has been read never finds fault with an index as it is written.
theorem Path.walk_ne_malformed (segments : List Segment) (current : Value) (piece : String) :
    Path.walk segments current ≠ .error (.malformedIndex piece) := by
  induction segments generalizing current with
  | nil => simp [Path.walk]
  | cons s rest ih =>
      intro h
      rcases Except.bind_eq_error.mp h with h | ⟨next, _, h⟩
      · exact s.step_ne_malformed current piece h
      · split at h
        · cases h
        · exact ih _ h

theorem Path.evaluate_ne_malformed (p : Path) (root : Object) (piece : String) :
    p.evaluate root ≠ .error (.malformedIndex piece) := by
  intro h
  rcases Except.bind_eq_error.mp h with h | ⟨value, _, h⟩
  · exact Path.walk_ne_malformed _ _ piece h
  · split at h <;> cases h

-- Whether an index is written wrongly does not depend on the root.
theorem Object.evaluate_malformed_iff (root : Object) (path piece : String) :
    root.evaluate path = .error (.malformedIndex piece) ↔
      Path.parse path = .error (.malformedIndex piece) := by
  constructor
  · intro h
    rcases Except.bind_eq_error.mp h with h | ⟨p, _, h⟩
    · exact h
    · exact absurd h (p.evaluate_ne_malformed root piece)
  · intro h
    exact Except.bind_eq_error.mpr (.inl h)

end PropertyTemplates
