import PropertyTemplates.Configuration.Basic
import PropertyTemplates.Proofs.Except

namespace PropertyTemplates

theorem firstBest_eq_none {α : Type} {rank : α → Option Nat} {xs : List α} :
    firstBest rank xs = none ↔ ∀ x ∈ xs, rank x = none := by
  induction xs with
  | nil => simp [firstBest]
  | cons x xs ih =>
      rw [List.forall_mem_cons, ← ih, firstBest]
      cases hx : rank x with
      | none => simp
      | some r =>
          cases hxs : firstBest rank xs with
          | none => simp
          | some best =>
              dsimp only
              split <;> simp

theorem Section.rank_eq_none {s : Section} {project step : String} :
    s.rank project step = none ↔ s.applies project step = false := by
  unfold Section.rank
  cases s.applies project step <;> simp

-- A project and a step are left without a section only where none applies.
theorem Configuration.sectionFor_fails {c : Configuration} {project step : String} :
    (∃ e, c.sectionFor project step = .error e) ↔
      ∀ s ∈ c.sections, s.applies project step = false := by
  simp only [← Section.rank_eq_none, ← firstBest_eq_none]
  unfold Configuration.sectionFor
  cases firstBest (·.rank project step) c.sections <;> simp

theorem Definition.ofEntry_fails {position : Nat} {entry : Entry} :
    (∃ e, ofEntry position entry = .error e) ↔ entry.name = none ∨ entry.template = none := by
  unfold ofEntry
  cases entry.name <;> cases entry.template <;> simp

-- One entry that lacks something spoils the whole list, wherever it stands.
theorem Definition.ofEntriesFrom_fails {position : Nat} {entries : List Entry} :
    (∃ e, ofEntriesFrom position entries = .error e) ↔
      ∃ entry ∈ entries, entry.name = none ∨ entry.template = none := by
  induction entries generalizing position with
  | nil => simp [ofEntriesFrom]
  | cons entry entries ih =>
      cases hd : ofEntry position entry with
      | error e =>
          have hlack := ofEntry_fails.mp ⟨e, hd⟩
          simp [ofEntriesFrom, hd, hlack]
      | ok d =>
          have hwhole : ¬(entry.name = none ∨ entry.template = none) := by
            intro hlack
            obtain ⟨e, he⟩ := ofEntry_fails.mpr hlack
            cases hd.symm.trans he
          simp [ofEntriesFrom, hd, hwhole, Except.bind_eq_error, ih]

theorem Section.definitions_fails {s : Section} :
    (∃ e, s.definitions = .error e) ↔
      ∃ entry ∈ s.entries, entry.name = none ∨ entry.template = none := by
  unfold Section.definitions
  rw [Except.exists_mapError_eq_error]
  exact Definition.ofEntriesFrom_fails

end PropertyTemplates
