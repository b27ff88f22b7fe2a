import PropertyTemplates.Command.Run
import PropertyTemplates.Proofs.Path.Untyped
import Mathlib.Data.List.Basic

namespace PropertyTemplates

theorem Path.SameEnd.join_eq_none {x y : Except PathError (Option String)} (h : SameEnd x y)
    (hx : x.toOption.join = none) : y.toOption.join = none := by
  cases h with
  | refused _ => rfl
  | absent => rfl
  | found text text' => cases hx

namespace Object

-- A path that ends on a plain value, or nowhere, gives the same text in either form.
theorem evaluate_join_untyped {o : Object} {path : String} {p : Path}
    (hparse : Path.parse path = .ok p) (hwritten : ∀ s ∈ p.segments, s.IsWritten)
    (hplain : ∀ v, p.value o = .ok v → v = .null ∨ v.IsPlain) :
    (o.evaluate path).toOption.join = (o.untyped.evaluate path).toOption.join := by
  have hlike : o.EvaluatesLike o.untyped path := by
    refine o.evaluatesLike_untyped fun q hq => ?_
    cases hparse.symm.trans hq
    exact hwritten
  have hnowhere : (o.evaluate path).toOption.join = none →
      (o.evaluate path).toOption.join = (o.untyped.evaluate path).toOption.join := by
    intro hnone
    rw [hnone, hlike.sameEnd.join_eq_none hnone]
  cases hv : p.value o with
  | error e =>
      apply hnowhere
      rw [evaluate_of_parse hparse, hv]
      rfl
  | ok v =>
      rcases hplain v hv with rfl | hplain
      · apply hnowhere
        rw [evaluate_of_parse hparse, hv]
        rfl
      · obtain ⟨htyped, huntyped⟩ := hlike.text p v hparse hv hplain
        rw [htyped, huntyped]

end Object

namespace WorkProcess

def titlePath : Path := ⟨"titel", [⟨"titel", none⟩]⟩

def idPath : Path := ⟨"id", [⟨"id", none⟩]⟩

def projectPath : Path := ⟨"projekt.titel", [⟨"projekt", none⟩, ⟨"titel", none⟩]⟩

theorem value_titlePath (p : WorkProcess) : titlePath.value (.process p) = .ok (.text p.title) := by
  have htitle : Text.lowerFirst "titel" = "titel" := by decide +kernel
  simp [titlePath, Path.value, Path.walk, Segment.step, htitle, Object.access, Segment.pick]

theorem value_idPath (p : WorkProcess) : idPath.value (.process p) = .ok (.integer p.id.toInt) := by
  have hid : Text.lowerFirst "id" = "id" := by decide +kernel
  simp [idPath, Path.value, Path.walk, Segment.step, hid, Object.access, Segment.pick]

theorem value_projectPath (p : WorkProcess) :
    projectPath.value (.process p) = .ok (.ofOption .text p.projectTitle) := by
  have hproject : Text.lowerFirst "projekt" = "projekt" := by decide +kernel
  have htitle : Text.lowerFirst "titel" = "titel" := by decide +kernel
  cases h : p.project with
  | none =>
      simp [projectPath, Path.value, Path.walk, Segment.step, hproject, Object.access,
        Segment.pick, h, projectTitle, Value.ofOption]
  | some project =>
      simp [projectPath, Path.value, Path.walk, Segment.step, hproject, htitle, Object.access,
        Segment.pick, h, projectTitle, Value.ofOption]

theorem parse_processPaths : Path.parse "titel" = .ok titlePath ∧ Path.parse "id" = .ok idPath ∧
    Path.parse "projekt.titel" = .ok projectPath :=
  ⟨Except.toOption_eq_some.mp (by decide +kernel), Except.toOption_eq_some.mp (by decide +kernel),
    Except.toOption_eq_some.mp (by decide +kernel)⟩

theorem evaluate_processPaths (p : WorkProcess) : ∀ entry ∈ processPaths,
    ((Object.process p).evaluate entry.2).toOption.join =
      ((Object.process p).untyped.evaluate entry.2).toOption.join := by
  obtain ⟨htitle, hid, hproject⟩ := parse_processPaths
  intro entry hentry
  simp only [processPaths, List.mem_cons, List.not_mem_nil, or_false] at hentry
  rcases hentry with rfl | rfl | rfl
  · refine Object.evaluate_join_untyped htitle (by decide +kernel) fun v hv => ?_
    cases p.value_titlePath.symm.trans hv
    exact .inr trivial
  · refine Object.evaluate_join_untyped hid (by decide +kernel) fun v hv => ?_
    cases p.value_idPath.symm.trans hv
    exact .inr trivial
  · refine Object.evaluate_join_untyped hproject (by decide +kernel) fun v hv => ?_
    cases p.value_projectPath.symm.trans hv
    cases p.projectTitle with
    | none => exact .inl rfl
    | some title => exact .inr trivial

theorem processTokens_untyped (p : WorkProcess) :
    processTokens (.process p) = processTokens (Object.process p).untyped :=
  List.filterMap_congr fun entry hentry =>
    congrArg (Option.map (entry.1, ·)) (p.evaluate_processPaths entry hentry)

-- The project that a process is in is the one that its table names.
theorem projectTitle_untyped (p : WorkProcess) :
    p.projectTitle = ((Object.process p).untyped.evaluate "projekt.titel").toOption.join := by
  have hsame := p.evaluate_processPaths ("projectname", "projekt.titel") (by simp [processPaths])
  rw [← hsame, Object.evaluate_of_parse parse_processPaths.2.2, value_projectPath]
  cases p.projectTitle <;> rfl

end WorkProcess

-- Two subjects by which a run chooses the same definitions and describes the process alike.
structure Subject.SameSetting (a b : Subject) : Prop where
  tokens : processTokens a.root = processTokens b.root
  project : a.project = b.project
  definitions : ∀ (options : RunOptions) config settings,
    options.definitions config settings a = options.definitions config settings b

theorem Subject.sameSetting_untyped (p : WorkProcess) :
    (ofProcess p).SameSetting (ofTable (Object.process p).untyped) where
  tokens := p.processTokens_untyped
  project := p.projectTitle_untyped
  definitions := fun options config settings => by
    have hproject : (ofProcess p).project = (ofTable (Object.process p).untyped).project :=
      p.projectTitle_untyped
    simp only [RunOptions.definitions, hproject]

-- A process and the table that it is written as agree on every path that keeps to the fields, and
-- a run does not tell them apart before it generates anything.
theorem WorkProcess.agrees_with_table (p : WorkProcess) :
    ∃ m, Object.tableOfData? p.toData = some m ∧
      (∀ path, (∀ q, Path.parse path = .ok q → ∀ s ∈ q.segments, s.IsWritten) →
        (Object.process p).EvaluatesLike m path) ∧
      (Subject.ofProcess p).SameSetting (Subject.ofTable m) ∧
      ∀ text, ofYaml text = .ok p → Object.tableOfYaml text = .ok m →
        ∃ typed table, Subject.ofYaml false text = .ok typed ∧
          Subject.ofYaml true text = .ok table ∧ typed.SameSetting table := by
  refine ⟨_, Object.tableOfData?_toData (.process p), ?_, Subject.sameSetting_untyped p, ?_⟩
  · intro path h
    exact Object.evaluatesLike_untyped _ h
  · intro text htyped htable
    refine ⟨Subject.ofProcess p, Subject.ofTable (Object.process p).untyped, ?_, ?_,
      Subject.sameSetting_untyped p⟩
    · unfold Subject.ofYaml
      rw [htyped]
      rfl
    · unfold Subject.ofYaml
      rw [htable]
      rfl

-- The location of an editor, and a snapshot that holds a process without steps.
theorem WorkProcess.agrees_with_table_standort :
    let editor : User := ⟨1, "mm", "Max", "Muster", some "Bern", none⟩
    let edited : WorkProcess :=
      ⟨7, "Band 1", none, [⟨3, "Scan", 1, .inWork, some editor, none, none⟩], [], none, false⟩
    let text := "id: 7\ntitel: A\nprojekt: null\nschritte: []\neigenschaften: []\n" ++
      "erstellungsdatum: null\nistTemplate: false\n"
    (∃ m, Object.tableOfData? edited.toData = some m ∧
      m.evaluate "schritte[0].Bearbeitungsbenutzer.standort" = .ok (some "Bern")) ∧
      ∃ typed table, Subject.ofYaml false text = .ok typed ∧ Subject.ofYaml true text = .ok table ∧
        typed.SameSetting table := by
  intro editor edited text
  have hparse : Path.parse "schritte[0].Bearbeitungsbenutzer.standort" =
      .ok ⟨"schritte[0].Bearbeitungsbenutzer.standort",
        [⟨"schritte", some 0⟩, ⟨"Bearbeitungsbenutzer", none⟩, ⟨"standort", none⟩]⟩ :=
    Except.toOption_eq_some.mp (by decide +kernel)
  constructor
  · obtain ⟨m, hm, hpaths, _⟩ := agrees_with_table edited
    refine ⟨m, hm, ?_⟩
    have hlike := hpaths "schritte[0].Bearbeitungsbenutzer.standort" fun q hq => by
      cases hparse.symm.trans hq
      decide +kernel
    have hvalue : (⟨"schritte[0].Bearbeitungsbenutzer.standort",
        [⟨"schritte", some 0⟩, ⟨"Bearbeitungsbenutzer", none⟩, ⟨"standort", none⟩]⟩ : Path).value
        (.process edited) = .ok (.text "Bern") := by
      rfl
    exact (hlike.text _ _ hparse hvalue trivial).2
  · obtain ⟨m, hm, _, _, htext⟩ := agrees_with_table ⟨7, "A", none, [], [], none, false⟩
    cases hm
    have htokens : Yaml.Token.ofText text = .ok [.blockTableStart,
        .key, .scalar true "id", .value, .scalar true "7",
        .key, .scalar true "titel", .value, .scalar true "A",
        .key, .scalar true "projekt", .value, .scalar true "null",
        .key, .scalar true "schritte", .value, .flowListStart, .flowListEnd,
        .key, .scalar true "eigenschaften", .value, .flowListStart, .flowListEnd,
        .key, .scalar true "erstellungsdatum", .value, .scalar true "null",
        .key, .scalar true "istTemplate", .value, .scalar true "false", .blockEnd] :=
      Except.toOption_eq_some.mp (by decide +kernel)
    refine htext text ?_ ?_
    · unfold ofYaml Yaml.decode Yaml.Node.ofText?
      rw [htokens]
      exact Except.toOption_eq_some.mp (by decide +kernel)
    · unfold Object.tableOfYaml Yaml.decode Yaml.Node.ofText?
      rw [htokens]
      rfl

end PropertyTemplates
