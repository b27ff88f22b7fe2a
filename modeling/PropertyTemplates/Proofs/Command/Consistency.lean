import PropertyTemplates.Proofs.Command.Effects
import PropertyTemplates.Proofs.Configuration.Selection
import PropertyTemplates.Proofs.Except
import PropertyTemplates.Proofs.Run.Record
import PropertyTemplates.Proofs.Run.Stored

namespace PropertyTemplates

-- The project for which a run looks for a section.
def RunOptions.projectFor (options : RunOptions) (settings : Settings) (subject : Subject) :
    String :=
  chosen [options.project, subject.project, settings.defaultProject]

def RunOptions.stepFor (options : RunOptions) (settings : Settings) : String :=
  chosen [options.step, settings.defaultStep]

theorem RunOptions.definitions_eq (options : RunOptions) (c : Configuration) (settings : Settings)
    (subject : Subject) :
    options.definitions c settings subject =
      ((c.sectionFor (options.projectFor settings subject)
        (options.stepFor settings)).mapError .configuration >>=
          fun s => s.definitions.mapError .unusableSection) := rfl

-- The report of executing definitions on a subject.
def Subject.execute (subject : Subject) (settings : Settings) (ds : List Definition) : Report :=
  (Definition.execute ds subject.root (runVariables settings subject.root).replace
    (Store.saving fun _ => none) subject.store).1

namespace Findings

variable {options : RunOptions} {settings : Settings} {found : Findings}

-- Both files are there and can be decoded.
structure Decoded (found : Findings) (options : RunOptions) (c : Configuration)
    (subject : Subject) : Prop where
  config : Configuration.ofFile found.config = .ok c
  snapshot : ∃ text, found.snapshot = .ok text ∧ Subject.ofYaml options.raw text = .ok subject

-- What keeps a run from generating anything.
inductive Unusable (found : Findings) (options : RunOptions) (settings : Settings) : Prop
  | config {e : ConfigurationError} (h : Configuration.ofFile found.config = .error e)
  | unreadable {cause : String} (h : found.snapshot = .error cause)
  | malformed {text : String} {e : DecodeError} (htext : found.snapshot = .ok text)
      (h : Subject.ofYaml options.raw text = .error e)
  | noSection {c : Configuration} {subject : Subject} (hdecoded : found.Decoded options c subject)
      (h : ∀ s ∈ c.sections,
        s.applies (options.projectFor settings subject) (options.stepFor settings) = false)
  | incomplete {c : Configuration} {subject : Subject} {s : Section} {entry : Entry}
      (hdecoded : found.Decoded options c subject)
      (hs : c.sectionFor (options.projectFor settings subject) (options.stepFor settings) = .ok s)
      (hentry : entry ∈ s.entries) (h : entry.name = none ∨ entry.template = none)

-- The definitions of the section that is selected for a subject.
def Selects (found : Findings) (options : RunOptions) (settings : Settings) (subject : Subject)
    (ds : List Definition) : Prop :=
  ∃ c s, found.Decoded options c subject ∧
    c.sectionFor (options.projectFor settings subject) (options.stepFor settings) = .ok s ∧
    s.definitions = .ok ds

theorem Decoded.report_eq {c : Configuration} {subject : Subject}
    (h : found.Decoded options c subject) :
    found.report options settings =
      (options.definitions c settings subject).map (subject.execute settings) := by
  obtain ⟨text, htext, hsubject⟩ := h.snapshot
  simp only [report, RunOptions.report, h.config, htext, hsubject, Except.mapError_ok,
    Except.ok_bind]
  cases options.definitions c settings subject <;> rfl

theorem Decoded.selects_iff {c : Configuration} {subject subject' : Subject}
    {ds : List Definition} (h : found.Decoded options c subject) :
    found.Selects options settings subject' ds ↔
      subject = subject' ∧ options.definitions c settings subject = .ok ds := by
  constructor
  · rintro ⟨c', s, h', hs, hds⟩
    obtain ⟨text, htext, hsubject⟩ := h.snapshot
    obtain ⟨text', htext', hsubject'⟩ := h'.snapshot
    cases h.config.symm.trans h'.config
    cases htext.symm.trans htext'
    cases hsubject.symm.trans hsubject'
    rw [RunOptions.definitions_eq, hs, Except.mapError_ok, Except.ok_bind, hds]
    exact ⟨rfl, rfl⟩
  · rintro ⟨rfl, hds⟩
    obtain ⟨s, hs, hds⟩ := Except.bind_eq_ok.mp hds
    exact ⟨c, s, h, Except.mapError_eq_ok.mp hs, Except.mapError_eq_ok.mp hds⟩

theorem report_of_unusable (h : found.Unusable options settings) :
    ∃ e, found.report options settings = .error e := by
  cases h with
  | config h => exact ⟨_, by rw [report, h]; rfl⟩
  | unreadable h =>
      unfold report
      rw [h]
      cases Configuration.ofFile found.config <;> simp
  | malformed htext h =>
      unfold report RunOptions.report
      rw [htext]
      cases Configuration.ofFile found.config <;> simp [h]
  | noSection hdecoded h =>
      obtain ⟨e, he⟩ := Configuration.sectionFor_fails.mpr h
      rw [hdecoded.report_eq, RunOptions.definitions_eq, he]
      exact ⟨_, rfl⟩
  | incomplete hdecoded hs hentry h =>
      obtain ⟨e, he⟩ := Section.definitions_fails.mpr ⟨_, hentry, h⟩
      rw [hdecoded.report_eq, RunOptions.definitions_eq, hs, Except.mapError_ok, Except.ok_bind, he]
      exact ⟨_, rfl⟩

theorem Decoded.not_unusable {c : Configuration} {subject : Subject} {ds : List Definition}
    (h : found.Decoded options c subject) (hds : options.definitions c settings subject = .ok ds) :
    ¬found.Unusable options settings := by
  intro hunusable
  obtain ⟨e, he⟩ := report_of_unusable hunusable
  rw [h.report_eq, hds] at he
  cases he

theorem unusable_of_error {e : CommandError} (h : found.report options settings = .error e) :
    found.Unusable options settings := by
  rcases Except.bind_eq_error.mp h with h | ⟨c, hconfig, h⟩
  · obtain ⟨_, h, _⟩ := Except.mapError_eq_error.mp h
    exact .config h
  rcases Except.bind_eq_error.mp h with h | ⟨text, htext, h⟩
  · obtain ⟨_, h, _⟩ := Except.mapError_eq_error.mp h
    exact .unreadable h
  rcases Except.bind_eq_error.mp h with h | ⟨subject, hsubject, h⟩
  · obtain ⟨_, h, _⟩ := Except.mapError_eq_error.mp h
    exact .malformed (Except.mapError_eq_ok.mp htext) h
  have hdecoded : found.Decoded options c subject :=
    ⟨Except.mapError_eq_ok.mp hconfig, text, Except.mapError_eq_ok.mp htext,
      Except.mapError_eq_ok.mp hsubject⟩
  rcases Except.bind_eq_error.mp h with h | ⟨_, _, h⟩
  · rcases Except.bind_eq_error.mp h with h | ⟨s, hs, h⟩
    · obtain ⟨e, h, _⟩ := Except.mapError_eq_error.mp h
      exact .noSection hdecoded (Configuration.sectionFor_fails.mp ⟨e, h⟩)
    · obtain ⟨e, h, _⟩ := Except.mapError_eq_error.mp h
      obtain ⟨entry, hentry, hlack⟩ := Section.definitions_fails.mp ⟨e, h⟩
      exact .incomplete hdecoded (Except.mapError_eq_ok.mp hs) hentry hlack
  · cases h

theorem selects_of_ok {r : Report} (h : found.report options settings = .ok r) :
    ∃ subject ds, found.Selects options settings subject ds ∧ subject.execute settings ds = r := by
  obtain ⟨c, hconfig, h⟩ := Except.bind_eq_ok.mp h
  obtain ⟨text, htext, h⟩ := Except.bind_eq_ok.mp h
  obtain ⟨subject, hsubject, h⟩ := Except.bind_eq_ok.mp h
  obtain ⟨ds, hds, h⟩ := Except.bind_eq_ok.mp h
  simp only [Except.mapError_eq_ok] at hconfig htext hsubject
  have hdecoded : found.Decoded options c subject := ⟨hconfig, text, htext, hsubject⟩
  cases h
  exact ⟨subject, ds, hdecoded.selects_iff.mpr ⟨rfl, hds⟩, rfl⟩

end Findings

namespace Report

-- An answer that says what became of the entries of a report.
structure Answers (r : Report) (answer : Except CommandError Unit) : Prop where
  success : answer = .ok () ↔ ∀ e ∈ r.entries, e.status = .generated
  outcome : answer = .ok () ↔ r.outcome = .finish
  failure : ∀ e, answer = .error e → ∃ entry text,
    r.entries.filter (·.status = .failed) = [entry] ∧ entry.error = some text ∧
    e = .generation entry.name text ∧
    e.message = "Property generation failed at '" ++ entry.name ++ "': " ++ text

open Definition

variable {r : Report} {saved : List Property} {rest : List ReportEntry}

theorem lines_eq (hentries : r.entries = saved.map generatedEntry ++ rest)
    (hrest : Remainder rest) : r.lines = saved.map fun q => q.name ++ " = " ++ q.value := by
  have hnone :
      rest.filterMap (fun e => e.value.map fun value => e.name ++ " = " ++ value) = [] := by
    rw [List.filterMap_eq_nil_iff]
    intro e he
    rw [hrest.value_eq_none e he]
    rfl
  have hsaved : (saved.map generatedEntry).filterMap
      (fun e => e.value.map fun value => e.name ++ " = " ++ value) =
      saved.map fun q => q.name ++ " = " ++ q.value := by
    rw [List.filterMap_map, ← List.filterMap_eq_map]
    rfl
  rw [lines, hentries, List.filterMap_append, hsaved, hnone, List.append_nil]

theorem answers (hcomplete : r.complete = r)
    (hentries : r.entries = saved.map generatedEntry ++ rest) (hrest : Remainder rest) :
    r.Answers r.answer := by
  have houtcome : r.outcome = if r.hasFailures then .error else .finish := by
    rw [← hcomplete]
    rfl
  have hsaved : (saved.map generatedEntry).findSome? (fun e => e.error.map (e.name, ·)) = none := by
    simp
  have hgenerated : ∀ e ∈ saved.map generatedEntry, e.status = .generated := by
    simp
  cases hrest with
  | finished =>
      rw [List.append_nil] at hentries
      have hfinish : r.outcome = .finish := by
        simp [houtcome, hasFailures, hentries]
      have hanswer : r.answer = .ok () := by
        rw [answer, hfinish]
      rw [hanswer]
      exact {
        success := iff_of_true rfl (hentries ▸ hgenerated)
        outcome := iff_of_true rfl hfinish
        failure := by simp }
  | stopped name error after =>
      have herror : r.outcome = .error := by
        simp [houtcome, hasFailures, hentries]
      have hanswer : r.answer = .error (.generation name error) := by
        rw [answer, herror, failure?, hentries, List.findSome?_append, hsaved]
        rfl
      have hfailed : r.entries.filter (·.status = .failed) = [.failed name error] := by
        have hbefore : (saved.map generatedEntry).filter (·.status = .failed) = [] := by
          simp [List.filter_eq_nil_iff]
        have hafter : (after.map skippedEntry).filter (·.status = .failed) = [] := by
          simp [List.filter_eq_nil_iff]
        rw [hentries, List.filter_append, hbefore, List.nil_append, List.filter_cons, hafter]
        rfl
      have hmem : ReportEntry.failed name error ∈ r.entries := by
        simp [hentries]
      rw [hanswer]
      exact {
        success := iff_of_false (by simp) fun hall => by cases hall _ hmem
        outcome := iff_of_false (by simp) (by simp [herror])
        failure := by
          rintro e ⟨⟩
          exact ⟨_, error, hfailed, rfl, rfl, rfl⟩ }

-- A report with an error has an entry that says why.
theorem Answers.ne_unexplained (h : r.Answers r.answer) : r.answer ≠ .error .unexplained := by
  intro hanswer
  obtain ⟨_, _, _, _, he, _⟩ := h.failure _ hanswer
  cases he

-- The last line tells whether everything was generated.
theorem Answers.outcomeLine_eq (h : r.Answers r.answer) (run : String) :
    r.outcomeLine run = "Run " ++ run ++ " finished with outcome: " ++
      if ∀ e ∈ r.entries, e.status = .generated then "finish" else "error" := by
  have hfinish : r.outcome = .finish ↔ ∀ e ∈ r.entries, e.status = .generated :=
    h.outcome.symm.trans h.success
  rw [outcomeLine]
  congr 1
  cases houtcome : r.outcome with
  | finish =>
      rw [if_pos (hfinish.mp houtcome)]
      rfl
  | error =>
      rw [if_neg (mt hfinish.mpr (by simp [houtcome]))]
      rfl

end Report

theorem Subject.execute_answers (subject : Subject) (settings : Settings) (ds : List Definition) :
    (subject.execute settings ds).Answers (subject.execute settings ds).answer := by
  obtain ⟨report, saved, rest, hcomplete, hentries, hrest, hall⟩ := Definition.exists_saved ds
    subject.root (runVariables settings subject.root).replace fun _ => none
  rw [execute, hall]
  exact Report.answers hcomplete hentries hrest

-- No run ends without saying why.
theorem Findings.answer_ne_unexplained {found : Findings} {options : RunOptions}
    {settings : Settings} {r : Report} (h : found.report options settings = .ok r) :
    r.answer ≠ .error .unexplained := by
  obtain ⟨subject, ds, -, rfl⟩ := selects_of_ok h
  exact (subject.execute_answers settings ds).ne_unexplained

-- What a run with a report has done by the time it answers. The document that it writes can be read
-- as the report.
structure Reported (options : RunOptions) (stamp : Stamp) (r : Report) (generated : List Property)
    (result : Except CommandError Unit) (effects : List Effect) : Prop where
  entries : r.entries.filter (·.status = .generated) = generated.map Definition.generatedEntry
  effects : ∃ document answer closing,
    Record.ofText? document = some (r.recorded stamp) ∧ r.Answers answer ∧
    Closes options document
      ("Run " ++ stamp.run ++ " finished with outcome: " ++
        if ∀ e ∈ r.entries, e.status = .generated then "finish" else "error")
      answer result closing ∧
    effects = generated.map (fun q => .print (q.name ++ " = " ++ q.value)) ++ closing

-- What a run does on what it finds.
structure Consistent (found : Findings) (options : RunOptions) (settings : Settings)
    (result : Except CommandError Unit) (effects : List Effect) : Prop where
  unusable : found.Unusable options settings → effects = [] ∧ ∃ e, result = .error e
  usable : ¬found.Unusable options settings → ∃ subject ds generated,
    found.Selects options settings subject ds ∧
    Reported options found.stamp (subject.execute settings ds) generated result effects

section

variable {σ : Type} {host : Host (StateM σ)} {options : RunOptions} {settings : Settings} {s : σ}

theorem Subject.execute_reported {subject : Subject} {ds : List Definition} {stamp : Stamp}
    {r : Report} {result : Except CommandError Unit} {closing : List Effect}
    (hr : subject.execute settings ds = r)
    (h : Closes options (r.toJson stamp).toText (r.outcomeLine stamp.run) r.answer result closing) :
    ∃ saved, Reported options stamp r saved result (r.lines.map .print ++ closing) := by
  obtain ⟨report, saved, rest, -, hentries, hrest, hall⟩ := Definition.exists_saved ds
    subject.root (runVariables settings subject.root).replace fun _ => none
  have hreport : report = r := by
    rw [← hr, execute, hall]
  subst hreport
  have hanswers := subject.execute_answers settings ds
  rw [hr] at hanswers
  rw [hanswers.outcomeLine_eq] at h
  refine ⟨saved, ?_, _, _, closing, Record.ofText?_toJson _ stamp, hanswers, h, ?_⟩
  · rw [hentries, Definition.filter_generated hrest]
  · rw [Report.lines_eq hentries hrest, List.map_map]
    rfl

theorem runCommand_of_unusable (h : (options.findings host s).1.Unusable options settings) :
    ∃ e last, runCommand host settings options s = (.error e, last) ∧
      runCommand host.recording settings options (s, []) = (.error e, last, []) := by
  obtain ⟨e, he⟩ := Findings.report_of_unusable h
  obtain ⟨last, hrun, hrecorded⟩ := runCommand_of_error he
  exact ⟨e, last, hrun, hrecorded []⟩

theorem runCommand_of_usable (h : ¬(options.findings host s).1.Unusable options settings) :
    ∃ result last effects subject ds generated,
      runCommand host settings options s = (result, last) ∧
      runCommand host.recording settings options (s, []) = (result, last, effects) ∧
      (options.findings host s).1.Selects options settings subject ds ∧
      Reported options (options.findings host s).1.stamp (subject.execute settings ds) generated
        result effects := by
  obtain ⟨r, hreport⟩ : ∃ r, (options.findings host s).1.report options settings = .ok r := by
    rw [Except.exists_eq_ok_iff]
    rintro ⟨e, he⟩
    exact h (Findings.unusable_of_error he)
  obtain ⟨result, last, closing, hrun, hcloses, hrecorded⟩ := runCommand_of_ok hreport
  obtain ⟨subject, ds, hselects, hr⟩ := Findings.selects_of_ok hreport
  obtain ⟨saved, hreported⟩ := Subject.execute_reported hr hcloses
  exact ⟨result, last, _, subject, ds, saved, hrun, hrecorded [], hselects, hr ▸ hreported⟩

end

-- Whatever host a run is on, what it prints, what it writes and what it answers fit together.
theorem runCommand_consistent {σ : Type} (host : Host (StateM σ)) (settings : Settings)
    (options : RunOptions) (s : σ) :
    ∃ result last effects, runCommand host settings options s = (result, last) ∧
      runCommand host.recording settings options (s, []) = (result, last, effects) ∧
      Consistent (options.findings host s).1 options settings result effects := by
  by_cases h : (options.findings host s).1.Unusable options settings
  · obtain ⟨e, last, hrun, hrecorded⟩ := runCommand_of_unusable h
    exact ⟨_, last, [], hrun, hrecorded, fun _ => ⟨rfl, e, rfl⟩, fun husable => absurd h husable⟩
  · obtain ⟨result, last, effects, subject, ds, generated, hrun, hrecorded, hselects, hreported⟩ :=
      runCommand_of_usable h
    exact ⟨result, last, effects, hrun, hrecorded, fun hunusable => absurd hunusable h,
      fun _ => ⟨subject, ds, generated, hselects, hreported⟩⟩

end PropertyTemplates
