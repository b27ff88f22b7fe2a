import PropertyTemplates.Run.Basic

namespace PropertyTemplates

-- Keeps the calls beside the store, those that are refused as well.
def Saving.recording {σ : Type} (save : Saving σ) : Saving (σ × List Property) :=
  fun (store, calls) q =>
    let (answer, store) := save store q
    (answer, (store, calls ++ [q]))

namespace Definition

variable {σ : Type} {root : Object} {replacer : String → String} {save : Saving σ}

-- Every definition is generated, and the store accepts each value in turn. The properties are the
-- saves it accepts.
inductive Passes (root : Object) (replacer : String → String) (save : Saving σ) :
    σ → List Definition → List Property → σ → Prop
  | nil (store : σ) : Passes root replacer save store [] [] store
  | cons {d : Definition} {value : String} {store next last : σ} {ds : List Definition}
      {saved : List Property} (hgenerate : d.generate root replacer = .ok value)
      (hsave : save store ⟨d.name, value⟩ = (.ok (), next))
      (hrest : Passes root replacer save next ds saved last) :
      Passes root replacer save store (d :: ds) (⟨d.name, value⟩ :: saved) last

-- A definition that cannot be generated, so that nothing is saved, or whose value is refused.
inductive Stops (root : Object) (replacer : String → String) (save : Saving σ) (d : Definition) :
    σ → List Property → RunError → σ → Prop
  | generation {store : σ} {cause : ExpansionError} (h : d.generate root replacer = .error cause) :
      Stops root replacer save d store [] (.generation d.name cause) store
  | storage {store last : σ} {value : String} {cause : Refusal}
      (hgenerate : d.generate root replacer = .ok value)
      (hsave : save store ⟨d.name, value⟩ = (.error cause, last)) :
      Stops root replacer save d store [⟨d.name, value⟩] (.storage d.name cause) last

variable {d : Definition} {ds : List Definition} {saved refused : List Property}
  {store reached last : σ} {e : RunError}

theorem Passes.length_eq (h : Passes root replacer save store ds saved last) :
    saved.length = ds.length := by
  induction h with
  | nil => rfl
  | cons _ _ _ ih => simp [ih]

theorem Passes.names_eq (h : Passes root replacer save store ds saved last) :
    saved.map (·.name) = ds.map (·.name) := by
  induction h with
  | nil => rfl
  | cons _ _ _ ih => simp [ih]

theorem Passes.recording (h : Passes root replacer save store ds saved last)
    (calls : List Property) :
    Passes root replacer save.recording (store, calls) ds saved (last, calls ++ saved) := by
  induction h generalizing calls with
  | nil store =>
      rw [List.append_nil]
      exact .nil _
  | cons hg hs _ ih =>
      rw [List.append_cons]
      refine .cons hg ?_ (ih _)
      simp [Saving.recording, hs]

theorem Stops.recording (h : Stops root replacer save d store refused e last)
    (calls : List Property) :
    Stops root replacer save.recording d (store, calls) refused e (last, calls ++ refused) := by
  cases h with
  | generation h =>
      rw [List.append_nil]
      exact .generation h
  | storage hg hs => exact .storage hg (by simp [Saving.recording, hs])

theorem Stops.property?_eq (h : Stops root replacer save d store refused e last) :
    e.property? = some d.name := by
  cases h <;> rfl

theorem Stops.generateInto_eq (h : Stops root replacer save d store refused e last) :
    d.generateInto root replacer save store = (.error e, last) := by
  cases h with
  | generation h => simp [generateInto, h]
  | storage hg hs => simp [generateInto, hg, hs]

-- A definition passes or stops the run.
theorem passes_or_stops (root : Object) (replacer : String → String) (save : Saving σ)
    (d : Definition) (store : σ) :
    (∃ value next, d.generate root replacer = .ok value ∧
      save store ⟨d.name, value⟩ = (.ok (), next)) ∨
    ∃ refused e last, Stops root replacer save d store refused e last := by
  cases hg : d.generate root replacer with
  | error cause => exact .inr ⟨_, _, _, .generation hg⟩
  | ok value =>
      cases hs : save store ⟨d.name, value⟩ with
      | mk answer next =>
          cases answer with
          | ok u => exact .inl ⟨value, next, rfl, hs⟩
          | error cause => exact .inr ⟨_, _, _, .storage hg hs⟩

-- The entry of a property that was generated.
def generatedEntry (q : Property) : ReportEntry := .generated q.name q.value

def skippedEntry (d : Definition) : ReportEntry := .skipped d.name

theorem Passes.generateAll_append (h : Passes root replacer save store ds saved reached)
    (rest : List Definition) :
    generateAll root replacer save store (ds ++ rest) =
      (saved.map generatedEntry ++ (generateAll root replacer save reached rest).1,
        (generateAll root replacer save reached rest).2) := by
  induction h with
  | nil => rfl
  | cons hg hs _ ih =>
      simp only [List.cons_append, generateAll, generateInto, hg, hs, ih]
      rfl

theorem Stops.generateAll_cons (h : Stops root replacer save d store refused e last) :
    generateAll root replacer save store (d :: ds) =
      (.failed d.name e.message :: ds.map skippedEntry, some e, last) := by
  simp only [generateAll, h.generateInto_eq]
  rfl

-- A run gets through all definitions, or stops at the first that does not pass.
theorem exists_stop (root : Object) (replacer : String → String) (save : Saving σ) (store : σ)
    (ds : List Definition) :
    (∃ saved reached, Passes root replacer save store ds saved reached) ∨
    ∃ before d after saved reached refused e last, ds = before ++ d :: after ∧
      Passes root replacer save store before saved reached ∧
      Stops root replacer save d reached refused e last := by
  induction ds generalizing store with
  | nil => exact .inl ⟨[], store, .nil store⟩
  | cons d ds ih =>
      rcases passes_or_stops root replacer save d store with
        ⟨value, next, hg, hs⟩ | ⟨refused, e, last, h⟩
      · rcases ih next with ⟨saved, reached, h⟩ | ⟨before, d', after, saved, reached, refused, e,
          last, rfl, hp, hstop⟩
        · exact .inl ⟨_, _, .cons hg hs h⟩
        · exact .inr ⟨d :: before, d', after, _, _, _, _, _, rfl, .cons hg hs hp, hstop⟩
      · exact .inr ⟨[], d, ds, [], store, refused, e, last, rfl, .nil store, h⟩

theorem summary_of_finish (saved : List Property) :
    Summary.ofEntries (saved.map generatedEntry) = ⟨saved.length, saved.length, 0, 0⟩ := by
  simp [Summary.ofEntries, generatedEntry, ReportEntry.generated, List.countP_map,
    Function.comp_def, List.countP_true, List.countP_false]

theorem summary_of_stop (saved : List Property) (name message : String)
    (after : List Definition) :
    Summary.ofEntries
        (saved.map generatedEntry ++ .failed name message :: after.map skippedEntry) =
      ⟨saved.length + (after.length + 1), saved.length, 1, after.length⟩ := by
  simp [Summary.ofEntries, generatedEntry, skippedEntry, ReportEntry.generated,
    ReportEntry.skipped, ReportEntry.failed, List.countP_map, Function.comp_def, List.countP_true,
    List.countP_false]

-- What a run does that gets through the first `k` definitions and no further.
structure FailFast (root : Object) (replacer : String → String) (save : Saving σ) (store : σ)
    (ds : List Definition) (k : Nat) (report : Report) (saved calls : List Property)
    (reached last : σ) : Prop where
  bound : k ≤ ds.length
  -- The definitions before `k` are generated and the store accepts their values, in order.
  passes : Passes root replacer save store (ds.take k) saved reached
  execute_eq : execute ds root replacer save store = (report, last)
  -- Both ways to run make the same calls to the store.
  execute_calls : execute ds root replacer save.recording (store, []) = (report, last, calls)
  run_calls : (run ds root replacer save.recording (store, [])).2 = (last, calls)
  process : report.process = root.render
  names : report.entries.map (·.name) = ds.map (·.name)
  summary : report.summary =
    ⟨ds.length, k, if k < ds.length then 1 else 0, ds.length - k - 1⟩
  outcome : report.outcome = .error ↔ k < ds.length
  finishes : k = ds.length → report.entries = saved.map generatedEntry ∧ calls = saved ∧
    last = reached ∧ run ds root replacer save store = (.ok report, last)
  stops : ∀ h : k < ds.length, ∃ refused e,
    Stops root replacer save ds[k] reached refused e last ∧
    report.entries = saved.map generatedEntry ++
      .failed ds[k].name e.message :: (ds.drop (k + 1)).map skippedEntry ∧
    calls = saved ++ refused ∧ run ds root replacer save store = (.error e, last) ∧
    e.property? = some ds[k].name
  -- Of what follows `k` only the names matter: no template is expanded, no rule is read.
  ignores : ∀ other : List Definition, other.take (k + 1) = ds.take (k + 1) →
    other.map (·.name) = ds.map (·.name) →
    execute other root replacer save store = execute ds root replacer save store ∧
      run other root replacer save store = run ds root replacer save store

theorem Passes.runAll_eq (h : Passes root replacer save store ds saved last) :
    runAll ds root replacer save store =
      ⟨({ process := root.render, entries := saved.map generatedEntry } : Report).complete, none,
        last⟩ := by
  have hall := h.generateAll_append []
  rw [List.append_nil] at hall
  simp [runAll, hall, generateAll]

theorem Passes.failFast (h : Passes root replacer save store ds saved last) :
    ∃ report, FailFast root replacer save store ds ds.length report saved saved last last := by
  have hlen := h.length_eq
  have hcalls := (h.recording []).runAll_eq
  refine ⟨({ process := root.render, entries := saved.map generatedEntry } : Report).complete,
    ?_⟩
  exact {
    bound := Nat.le_refl _
    passes := by rwa [List.take_length]
    execute_eq := by simp [execute, h.runAll_eq]
    execute_calls := by simp [execute, hcalls]
    run_calls := by simp [run, hcalls]
    process := rfl
    names := by
      simp only [Report.complete, List.map_map]
      exact h.names_eq
    summary := by simp [Report.complete, summary_of_finish, hlen]
    outcome := by
      simp [Report.complete, Report.hasFailures, generatedEntry, ReportEntry.generated]
    finishes := fun _ => ⟨rfl, rfl, rfl, by simp [run, h.runAll_eq]⟩
    stops := fun hlt => absurd hlt (Nat.lt_irrefl _)
    ignores := by
      intro other htake hnames
      have hl : other.length = ds.length := by simpa using congrArg List.length hnames
      rw [List.take_of_length_le (by omega), List.take_of_length_le (by omega)] at htake
      exact ⟨by rw [htake], by rw [htake]⟩ }

theorem Stops.runAll_eq {before : List Definition} (after : List Definition)
    (hp : Passes root replacer save store before saved reached)
    (hs : Stops root replacer save d reached refused e last) :
    runAll (before ++ d :: after) root replacer save store =
      ⟨({ process := root.render
          entries := saved.map generatedEntry ++
            .failed d.name e.message :: after.map skippedEntry } : Report).complete, some e,
        last⟩ := by
  simp [runAll, hp.generateAll_append, hs.generateAll_cons]

theorem Stops.failFast {before : List Definition} (after : List Definition)
    (hp : Passes root replacer save store before saved reached)
    (hs : Stops root replacer save d reached refused e last) :
    ∃ report, FailFast root replacer save store (before ++ d :: after) before.length report saved
      (saved ++ refused) reached last := by
  have hlen := hp.length_eq
  have hall := hs.runAll_eq after hp
  have hcalls := (hs.recording _).runAll_eq after (hp.recording [])
  have hlt : before.length < before.length + (after.length + 1) := by omega
  have hdrop : (before ++ d :: after).drop (before.length + 1) = after := by simp
  refine ⟨({ process := root.render
             entries := saved.map generatedEntry ++
               .failed d.name e.message :: after.map skippedEntry } : Report).complete, ?_⟩
  exact {
    bound := by simp
    passes := by rwa [List.take_left]
    execute_eq := by simp [execute, hall]
    execute_calls := by simp [execute, hcalls]
    run_calls := by simp [run, hcalls]
    process := rfl
    names := by
      have hnames := hp.names_eq
      simp only [Report.complete, List.map_append, List.map_cons, List.map_map]
      rw [← hnames]
      rfl
    summary := by
      simp only [Report.complete, summary_of_stop, hlen, List.length_append, List.length_cons, hlt,
        ite_true]
      congr 1
      omega
    outcome := by
      simp [Report.complete, Report.hasFailures, ReportEntry.failed]
    finishes := by simp
    stops := by
      intro h
      have hget : (before ++ d :: after)[before.length] = d := by simp
      rw [hget, hdrop]
      exact ⟨refused, e, hs, rfl, rfl, by simp [run, hall], hs.property?_eq⟩
    ignores := by
      intro other htake hnames
      have hprefix : (before ++ d :: after).take (before.length + 1) = before ++ [d] := by
        rw [List.append_cons]
        exact List.take_left' (by simp)
      have hsplit : other = before ++ d :: other.drop (before.length + 1) := calc
        other = other.take (before.length + 1) ++ other.drop (before.length + 1) :=
          (List.take_append_drop _ _).symm
        _ = before ++ d :: other.drop (before.length + 1) := by simp [htake, hprefix]
      have hafter : (other.drop (before.length + 1)).map skippedEntry = after.map skippedEntry := by
        have hrest : (other.drop (before.length + 1)).map (·.name) = after.map (·.name) := by
          rw [List.map_drop, hnames, ← List.map_drop, hdrop]
        have hskip := congrArg (List.map ReportEntry.skipped) hrest
        rwa [List.map_map, List.map_map] at hskip
      have hother := hs.runAll_eq (other.drop (before.length + 1)) hp
      rw [← hsplit, hafter, ← hall] at hother
      exact ⟨by simp only [execute, hother], by simp only [run, hother]⟩ }

-- Every run is such a prefix. It finishes if the prefix is the whole list.
theorem run_failFast (ds : List Definition) (root : Object) (replacer : String → String)
    (save : Saving σ) (store : σ) :
    ∃ k report saved calls reached last,
      FailFast root replacer save store ds k report saved calls reached last := by
  rcases exists_stop root replacer save store ds with
    ⟨saved, last, h⟩ | ⟨before, d, after, saved, reached, refused, e, last, rfl, hp, hs⟩
  · obtain ⟨report, hf⟩ := h.failFast
    exact ⟨_, report, _, _, _, _, hf⟩
  · obtain ⟨report, hf⟩ := hs.failFast after hp
    exact ⟨_, report, _, _, _, _, hf⟩

end Definition

end PropertyTemplates
