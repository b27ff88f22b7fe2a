import PropertyTemplates.Proofs.Run.FailFast
import PropertyTemplates.Proofs.Run.Replay
import Mathlib.Data.List.Forall2

namespace PropertyTemplates

namespace Store

variable {refused : String → Option Refusal} {s after : Store} {q : Property}

theorem saving_eq_ok :
    saving refused s q = (.ok (), after) ↔ refused q.name = none ∧ s.save q = after := by
  unfold saving
  cases refused q.name <;> simp

theorem saving_eq_error {cause : Refusal} :
    saving refused s q = (.error cause, after) ↔ refused q.name = some cause ∧ s = after := by
  unfold saving
  cases refused q.name <;> simp

end Store

namespace Definition

variable {root : Object} {replacer : String → String} {refused : String → Option Refusal}
  {d : Definition} {ds : List Definition} {saved calls : List Property} {store last : Store}
  {e : RunError}

-- A store refuses by name, whatever it holds. What one store takes, any other takes as well.
theorem Passes.saveAll (h : Passes root replacer (Store.saving refused) store ds saved last)
    (other : Store) :
    Passes root replacer (Store.saving refused) other ds saved (other.saveAll saved) := by
  induction h generalizing other with
  | nil => exact .nil other
  | cons hgenerate hsave _ ih =>
      have htaken := (Store.saving_eq_ok.mp hsave).1
      exact .cons hgenerate (Store.saving_eq_ok.mpr ⟨htaken, rfl⟩) (ih _)

theorem Stops.saving (h : Stops root replacer (Store.saving refused) d store calls e last)
    (other : Store) : Stops root replacer (Store.saving refused) d other calls e other := by
  cases h with
  | generation h => exact .generation h
  | storage hgenerate hsave =>
      have hrefused := (Store.saving_eq_error.mp hsave).1
      exact .storage hgenerate (Store.saving_eq_error.mpr ⟨hrefused, rfl⟩)

section

variable (q : Property) (name error : String)

@[simp] theorem name_generatedEntry : (generatedEntry q).name = q.name := rfl

@[simp] theorem status_generatedEntry : (generatedEntry q).status = .generated := rfl

@[simp] theorem value_generatedEntry : (generatedEntry q).value = some q.value := rfl

@[simp] theorem error_generatedEntry : (generatedEntry q).error = none := rfl

@[simp] theorem status_skippedEntry : (skippedEntry d).status = .skipped := rfl

@[simp] theorem value_skippedEntry : (skippedEntry d).value = none := rfl

@[simp] theorem status_failed : (ReportEntry.failed name error).status = .failed := rfl

@[simp] theorem value_failed : (ReportEntry.failed name error).value = none := rfl

end

-- How the entries of a report go on after those of the properties that were generated.
inductive Remainder : List ReportEntry → Prop
  | finished : Remainder []
  | stopped (name error : String) (after : List Definition) :
      Remainder (.failed name error :: after.map skippedEntry)

variable {rest : List ReportEntry}

theorem Remainder.status_ne_generated (h : Remainder rest) :
    ∀ e ∈ rest, e.status ≠ .generated := by
  cases h <;> simp

theorem Remainder.value_eq_none (h : Remainder rest) : ∀ e ∈ rest, e.value = none := by
  cases h <;> simp

-- Neither the report of a run nor what it saves depends on what the store holds.
theorem exists_saved (ds : List Definition) (root : Object) (replacer : String → String)
    (refused : String → Option Refusal) :
    ∃ (report : Report) (saved : List Property) (rest : List ReportEntry),
      report.complete = report ∧ report.entries = saved.map generatedEntry ++ rest ∧
      Remainder rest ∧ ∀ store, execute ds root replacer (Store.saving refused) store =
        (report, store.saveAll saved) := by
  rcases exists_stop root replacer (Store.saving refused) {} ds with
    ⟨saved, reached, hp⟩ | ⟨before, d, after, saved, reached, calls, e, last, rfl, hp, hs⟩
  · refine ⟨({ process := root.render, entries := saved.map generatedEntry } : Report).complete,
      saved, [], rfl, (List.append_nil _).symm, .finished, fun store => ?_⟩
    rw [execute, (hp.saveAll store).runAll_eq]
  · refine ⟨({ process := root.render
               entries := saved.map generatedEntry ++
                 .failed d.name e.message :: after.map skippedEntry } : Report).complete,
      saved, _, rfl, rfl, .stopped d.name e.message after, fun store => ?_⟩
    rw [execute, (hs.saving (store.saveAll saved)).runAll_eq after (hp.saveAll store)]

theorem filter_generated (h : Remainder rest) (saved : List Property) :
    (saved.map generatedEntry ++ rest).filter (·.status = .generated) =
      saved.map generatedEntry := by
  have hrest : rest.filter (·.status = .generated) = [] := by
    simpa [List.filter_eq_nil_iff] using h.status_ne_generated
  have hsaved : (saved.map generatedEntry).filter (·.status = .generated) =
      saved.map generatedEntry := by
    simp [List.filter_eq_self]
  rw [List.filter_append, hrest, hsaved, List.append_nil]

theorem Passes.generate_eq (h : Passes root replacer (Store.saving refused) store ds saved last) :
    List.Forall₂ (fun d q => q.name = d.name ∧ d.generate root replacer = .ok q.value)
      ds saved := by
  induction h with
  | nil => exact .nil
  | cons hgenerate _ _ ih => exact .cons ⟨rfl, hgenerate⟩ ih

theorem generatedEntry_injective : Function.Injective generatedEntry := by
  rintro ⟨name, value⟩ ⟨name', value'⟩ h
  cases h
  rfl

-- The generated entries of a report are what the first definitions generate, in order.
theorem forall₂_of_filter_generated {generated : List Property}
    (h : (execute ds root replacer (Store.saving refused) store).1.entries.filter
      (·.status = .generated) = generated.map generatedEntry) :
    List.Forall₂ (fun d q => q.name = d.name ∧ d.generate root replacer = .ok q.value)
      (ds.take generated.length) generated := by
  have hsaved {saved rest} (hrest : Remainder rest)
      (hentries : (execute ds root replacer (Store.saving refused) store).1.entries =
        saved.map generatedEntry ++ rest) : generated = saved := by
    rw [hentries, filter_generated hrest] at h
    exact (List.map_injective_iff.mpr generatedEntry_injective h).symm
  rcases exists_stop root replacer (Store.saving refused) store ds with
    ⟨saved, reached, hp⟩ | ⟨before, d, after, saved, reached, calls, e, last, rfl, hp, hs⟩
  · have hall : (execute ds root replacer (Store.saving refused) store).1.entries =
        saved.map generatedEntry ++ [] := by
      rw [execute, hp.runAll_eq, List.append_nil]
      rfl
    rw [hsaved .finished hall, hp.length_eq, List.take_length]
    exact hp.generate_eq
  · have hall :
        (execute (before ++ d :: after) root replacer (Store.saving refused) store).1.entries =
          saved.map generatedEntry ++ .failed d.name e.message :: after.map skippedEntry := by
      rw [execute, hs.runAll_eq after hp]
      rfl
    rw [hsaved (.stopped d.name e.message after) hall, hp.length_eq, List.take_left]
    exact hp.generate_eq

theorem findSome?_generatedEntry (properties : List Property) (name : String) :
    (properties.map generatedEntry).findSome? (fun e => if e.name = name then e.value else none) =
      Store.firstValue properties name := by
  induction properties with
  | nil => rfl
  | cons p rest ih =>
      rw [List.map_cons, List.findSome?_cons, ih, Store.firstValue_cons]
      by_cases hp : p.name = name <;> simp [hp]

-- A report searched from its end finds what was saved last.
theorem valueOf_eq_lastValue {report : Report}
    (hentries : report.entries = saved.map generatedEntry ++ rest) (h : Remainder rest)
    (name : String) : report.valueOf name = Store.lastValue saved name := by
  have hrest :
      rest.reverse.findSome? (fun e => if e.name = name then e.value else none) = none := by
    rw [List.findSome?_eq_none_iff]
    intro e he
    simp [h.value_eq_none e (List.mem_reverse.mp he)]
  unfold Report.valueOf
  rw [hentries, List.reverse_append, List.findSome?_append, hrest, ← List.map_reverse,
    findSome?_generatedEntry]
  rfl

-- What a run leaves in a store is what its report says.
structure Stored (before after : Store) (report : Report) : Prop where
  generated : ∀ name value, report.valueOf name = some value → after.get? name = some value
  untouched : ∀ name, report.valueOf name = none → after.get? name = before.get? name
  history : ∃ added, after.history = before.history ++ added ∧
    report.entries.filter (·.status = .generated) = added.map generatedEntry

theorem execute_stored (ds : List Definition) (root : Object) (replacer : String → String)
    (refused : String → Option Refusal) (store : Store) :
    let result := execute ds root replacer (Store.saving refused) store
    Stored store result.2 result.1 := by
  obtain ⟨report, saved, rest, -, hentries, hrest, hall⟩ := exists_saved ds root replacer refused
  have hget : ∀ name, (store.saveAll saved).get? name =
      (report.valueOf name).or (store.get? name) := by
    intro name
    rw [valueOf_eq_lastValue hentries hrest, Store.get?_saveAll]
  rw [hall store]
  exact {
    generated := fun name value h => by rw [hget, h]; rfl
    untouched := fun name h => by rw [hget, h]; rfl
    history := ⟨saved, Store.history_saveAll store saved, by
      rw [hentries, filter_generated hrest]⟩ }

-- A second run of the same definitions finds and leaves the properties of the first.
theorem execute_twice (ds : List Definition) (root : Object) (replacer : String → String)
    (refused : String → Option Refusal) (store : Store) :
    let first := execute ds root replacer (Store.saving refused) store
    let second := execute ds root replacer (Store.saving refused) first.2
    second.2.properties = first.2.properties ∧ second.1 = first.1 ∧
      ∃ added, first.2.history = store.history ++ added ∧
        second.2.history = first.2.history ++ added := by
  obtain ⟨report, saved, rest, -, -, -, hall⟩ := exists_saved ds root replacer refused
  intro first second
  have hfirst : first = (report, store.saveAll saved) := hall store
  have hsecond : second = (report, (store.saveAll saved).saveAll saved) :=
    (hall first.2).trans (by rw [hfirst])
  refine ⟨?_, ?_, saved, ?_, ?_⟩
  · rw [hsecond, hfirst]
    simp [Store.putAll_putAll]
  · rw [hsecond, hfirst]
  · rw [hfirst, Store.history_saveAll]
  · rw [hsecond, hfirst, Store.history_saveAll]

end Definition

end PropertyTemplates
