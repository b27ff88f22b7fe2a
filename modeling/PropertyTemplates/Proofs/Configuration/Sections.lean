import PropertyTemplates.Command.Validate
import PropertyTemplates.Proofs.Configuration.Selection

namespace PropertyTemplates

-- The definition that an entry stands for, if it lacks nothing.
structure Entry.Defines (e : Entry) (d : Definition) : Prop where
  name : e.name = some d.name
  template : e.template = some d.template
  rules : e.rules = d.rules

-- What an entry at a position lacks. The name counts before the template.
inductive Entry.Lacks (e : Entry) (position : Nat) : EntryError → Prop
  | name (h : e.name = none) : Lacks e position (.noName position)
  | template {name : String} (hname : e.name = some name) (h : e.template = none) :
      Lacks e position (.noTemplate position name)

-- What the first entry of a list that lacks something lacks.
def Entry.FirstLack (entries : List Entry) (lack : EntryError) : Prop :=
  ∃ before e after, entries = before ++ e :: after ∧ (∀ x ∈ before, ∃ d, x.Defines d) ∧
    e.Lacks before.length lack

-- What the first such entry of the first such section lacks.
def Section.FirstLack (sections : List Section) (lack : EntryError) : Prop :=
  ∃ before s after, sections = before ++ s :: after ∧
    (∀ t ∈ before, ∀ e ∈ t.entries, ∃ d, e.Defines d) ∧ Entry.FirstLack s.entries lack

namespace Definition

variable {position : Nat} {e : Entry} {entries : List Entry} {d : Definition}
  {ds : List Definition} {lack : EntryError}

theorem ofEntry_eq_ok_iff : ofEntry position e = .ok d ↔ e.Defines d := by
  constructor
  · intro h
    unfold ofEntry at h
    split at h
    · cases h
    · cases h
    · rename_i hname htemplate
      cases h
      exact ⟨hname, htemplate, rfl⟩
  · rintro ⟨hname, htemplate, hrules⟩
    simp only [ofEntry, hname, htemplate, hrules]

theorem ofEntry_eq_error_iff : ofEntry position e = .error lack ↔ e.Lacks position lack := by
  constructor
  · intro h
    unfold ofEntry at h
    split at h
    · rename_i hname
      cases h
      exact .name hname
    · rename_i hname htemplate
      cases h
      exact .template hname htemplate
    · cases h
  · rintro (hname | ⟨hname, htemplate⟩)
    · simp only [ofEntry, hname]
    · simp only [ofEntry, hname, htemplate]

theorem exists_defines_iff (position : Nat) :
    (∃ d, e.Defines d) ↔ ¬∃ lack, e.Lacks position lack := by
  simp only [← @ofEntry_eq_ok_iff position, ← ofEntry_eq_error_iff]
  exact Except.exists_eq_ok_iff

theorem ofEntriesFrom_eq_ok_iff :
    ofEntriesFrom position entries = .ok ds ↔ List.Forall₂ Entry.Defines entries ds := by
  induction entries generalizing position ds with
  | nil => simp [ofEntriesFrom, eq_comm]
  | cons e entries ih =>
      rw [ofEntriesFrom, Except.bind_eq_ok, List.forall₂_cons_left_iff]
      simp only [Except.bind_eq_ok, ofEntry_eq_ok_iff, ih, Except.pure_eq_ok, Except.ok.injEq]
      constructor
      · rintro ⟨d, hd, rest, hrest, rfl⟩
        exact ⟨d, rest, hd, hrest, rfl⟩
      · rintro ⟨d, rest, hd, hrest, rfl⟩
        exact ⟨d, hd, rest, hrest, rfl⟩

-- The first entry that lacks something decides, and its position is counted on.
theorem ofEntriesFrom_eq_error_iff :
    ofEntriesFrom position entries = .error lack ↔
      ∃ before e after, entries = before ++ e :: after ∧ (∀ x ∈ before, ∃ d, x.Defines d) ∧
        e.Lacks (position + before.length) lack := by
  induction entries generalizing position with
  | nil => simp [ofEntriesFrom]
  | cons e entries ih =>
      rw [ofEntriesFrom, Except.bind_eq_error]
      simp only [Except.bind_eq_error, ofEntry_eq_ok_iff, ofEntry_eq_error_iff, ih,
        Except.pure_eq_ok, reduceCtorEq, and_false, exists_false, or_false]
      have hposition (before : List Entry) :
          position + (e :: before).length = position + 1 + before.length := by
        rw [List.length_cons]
        omega
      constructor
      · rintro (h | ⟨d, hd, before, x, after, rfl, hbefore, hx⟩)
        · exact ⟨[], e, entries, rfl, by simp, h⟩
        · refine ⟨e :: before, x, after, rfl, List.forall_mem_cons.mpr ⟨⟨d, hd⟩, hbefore⟩, ?_⟩
          rwa [hposition]
      · rintro ⟨before, x, after, he, hbefore, hx⟩
        cases before with
        | nil =>
            obtain ⟨rfl, rfl⟩ := List.cons_eq_cons.mp he
            exact .inl hx
        | cons y before =>
            obtain ⟨rfl, rfl⟩ := List.cons_eq_cons.mp he
            obtain ⟨⟨d, hd⟩, hrest⟩ := List.forall_mem_cons.mp hbefore
            rw [hposition] at hx
            exact .inr ⟨d, hd, before, x, after, rfl, hrest, hx⟩

end Definition

namespace Section

variable {s : Section} {ds : List Definition} {sections : List Section} {e : ConfigurationError}

theorem definitions_eq_ok_iff :
    s.definitions = .ok ds ↔ List.Forall₂ Entry.Defines s.entries ds := by
  unfold definitions Definition.ofEntries
  rw [Except.mapError_eq_ok, Definition.ofEntriesFrom_eq_ok_iff]

theorem definitions_eq_error_iff :
    s.definitions = .error e ↔ ∃ lack, Entry.FirstLack s.entries lack ∧ .incomplete lack = e := by
  unfold definitions Definition.ofEntries
  rw [Except.mapError_eq_error]
  simp only [Definition.ofEntriesFrom_eq_error_iff, Nat.zero_add]
  rfl

theorem exists_definitions_iff :
    (∃ ds, s.definitions = .ok ds) ↔ ∀ e ∈ s.entries, ∃ d, e.Defines d := by
  rw [Except.exists_eq_ok_iff, definitions_fails]
  simp only [Definition.exists_defines_iff 0, ← Definition.ofEntry_eq_error_iff,
    Definition.ofEntry_fails]
  push Not
  rfl

end Section

namespace Inspection

variable {sections : List Section} {i : Inspection} {e : ConfigurationError} {names : List String}

-- What is found in lists of definitions, one after the other.
def ofParts (parts : List (List Definition)) : Inspection where
  problems := parts.flatMap fun ds => (ofDefinitions ds).problems
  warnings := parts.flatMap fun ds => (ofDefinitions ds).warnings

theorem ofSections_eq (sections : List Section) :
    ofSections sections = (sections.mapM Section.definitions).map ofParts := by
  induction sections with
  | nil => rfl
  | cons s rest ih =>
      rw [ofSections, List.mapM_cons, ih]
      cases s.definitions with
      | error e => rfl
      | ok ds => cases rest.mapM Section.definitions <;> rfl

theorem ofSections_eq_ok_iff :
    ofSections sections = .ok i ↔
      ∃ parts, List.Forall₂ (fun s ds => List.Forall₂ Entry.Defines s.entries ds) sections parts ∧
        ofParts parts = i := by
  rw [ofSections_eq]
  simp only [Except.map_eq_ok, Except.mapM_eq_ok, Section.definitions_eq_ok_iff]

theorem ofSections_eq_error_iff :
    ofSections sections = .error e ↔
      ∃ lack, Section.FirstLack sections lack ∧ .incomplete lack = e := by
  rw [ofSections_eq, Except.map_eq_error, Except.mapM_eq_error_iff]
  simp only [Section.exists_definitions_iff, Section.definitions_eq_error_iff]
  constructor
  · rintro ⟨before, s, after, he, hbefore, lack, hlack, rfl⟩
    exact ⟨lack, ⟨before, s, after, he, hbefore, hlack⟩, rfl⟩
  · rintro ⟨lack, ⟨before, s, after, he, hbefore, hlack⟩, rfl⟩
    exact ⟨before, s, after, he, hbefore, lack, hlack, rfl⟩

-- The names that occur more than once, each once, in the order in which they first occur.
structure Repeats (names repeated : List String) : Prop where
  mem : ∀ n, n ∈ repeated ↔ 2 ≤ names.count n
  ordered : repeated.Pairwise fun a b => names.idxOf a < names.idxOf b

-- What is left of a list keeps its order.
theorem idxOf_lt_of_filter {p : String → Bool} {a b : String} (hb : p b = true)
    (h : (names.filter p).idxOf a < (names.filter p).idxOf b) : names.idxOf a < names.idxOf b := by
  induction names with
  | nil => exact absurd h (Nat.lt_irrefl _)
  | cons n names ih =>
      by_cases hna : n = a
      · have hab : a ≠ b := by
          rintro rfl
          exact Nat.lt_irrefl _ h
        rw [hna, List.idxOf_cons_self, List.idxOf_cons_ne _ hab]
        omega
      · by_cases hnb : n = b
        · have hzero : ((n :: names).filter p).idxOf b = 0 := by
            rw [hnb, List.filter_cons_of_pos hb, List.idxOf_cons_self]
          omega
        · rw [List.idxOf_cons_ne _ hna, List.idxOf_cons_ne _ hnb]
          have hrest : (names.filter p).idxOf a < (names.filter p).idxOf b := by
            by_cases hn : p n = true
            · rw [List.filter_cons_of_pos hn, List.idxOf_cons_ne _ hna,
                List.idxOf_cons_ne _ hnb] at h
              omega
            · rwa [List.filter_cons_of_neg hn] at h
          have := ih hrest
          omega

theorem pairwise_eraseDups (names : List String) :
    names.eraseDups.Pairwise fun a b => names.idxOf a < names.idxOf b := by
  induction hlen : names.length using Nat.strongRecOn generalizing names with
  | ind k ih =>
      cases names with
      | nil => simp
      | cons n rest =>
          have hshorter : (rest.filter fun m => !m == n).length < k := by
            have := List.length_filter_le (fun m => !m == n) rest
            rw [List.length_cons] at hlen
            omega
          have hne : ∀ m ∈ (rest.filter fun m => !m == n).eraseDups, n ≠ m := by
            intro m hm
            rw [List.mem_eraseDups, List.mem_filter] at hm
            have hmn : m ≠ n := by simpa using hm.2
            exact hmn.symm
          rw [List.eraseDups_cons, List.pairwise_cons]
          constructor
          · intro m hm
            rw [List.idxOf_cons_self, List.idxOf_cons_ne _ (hne m hm)]
            omega
          · refine (ih _ hshorter _ rfl).imp_of_mem fun {a b} ha hb hab => ?_
            have hkept : (!b == n) = true := by
              simpa using (hne b hb).symm
            have hrest := idxOf_lt_of_filter hkept hab
            rw [List.idxOf_cons_ne _ (hne a ha), List.idxOf_cons_ne _ (hne b hb)]
            omega

theorem exists_repeats (names : List String) :
    ∃ repeated, Repeats names repeated ∧
      duplicates names = repeated.map fun n => .duplicate n (names.count n) := by
  refine ⟨names.eraseDups.filter fun n => 1 < names.count n, ⟨fun n => ?_, ?_⟩, rfl⟩
  · rw [List.mem_filter, List.mem_eraseDups, decide_eq_true_eq]
    have hmem : 2 ≤ names.count n → n ∈ names := fun h => List.count_pos_iff.mp (by omega)
    constructor
    · rintro ⟨-, hcount⟩
      exact hcount
    · intro hcount
      exact ⟨hmem hcount, hcount⟩
  · exact (pairwise_eraseDups names).filter _

-- No other check says that a name is given twice.
theorem ne_duplicate_of_mem {d : Definition} {warning : Warning}
    (h : warning ∈ templateWarnings d) (property : String) (count : Nat) :
    warning ≠ .duplicate property count := by
  rintro rfl
  unfold templateWarnings at h
  split at h
  · simp at h
  · obtain ⟨t, -, ht⟩ := List.mem_filterMap.mp h
    cases t with
    | placeholder inner => cases ht
    | literal text => simp at ht

theorem isValid_iff {strict : Bool} :
    i.isValid strict = true ↔ i.problems = [] ∧ (strict = true → i.warnings = []) := by
  cases strict <;> simp [isValid]

end Inspection

-- What an inspection of a configuration is made of.
structure Configuration.InspectsParts (c : Configuration) : Prop where
  fails : (∃ e, c.inspect = .error e) ↔
    ∃ s ∈ c.sections, ∃ e ∈ s.entries, e.name = none ∨ e.template = none
  -- The first entry of the first section that lacks something is named, whatever else is wrong.
  lack : ∀ e, c.inspect = .error e ↔ ∃ lack, Section.FirstLack c.sections lack ∧ .incomplete lack = e
  -- Otherwise the sections are inspected on their own, and what is found is put in their order.
  parts : ∀ i, c.inspect = .ok i ↔
    ∃ parts, List.Forall₂ (fun s ds => List.Forall₂ Entry.Defines s.entries ds) c.sections parts ∧
      i.problems = parts.flatMap (fun ds => (Inspection.ofDefinitions ds).problems) ∧
      i.warnings = parts.flatMap (fun ds => (Inspection.ofDefinitions ds).warnings)
  -- Names that are given more than once come first, with the number of their definitions.
  duplicates : ∀ ds : List Definition, ∃ repeated others,
    Inspection.Repeats (ds.map (·.name)) repeated ∧
      (Inspection.ofDefinitions ds).warnings =
        repeated.map (fun n => .duplicate n ((ds.map (·.name)).count n)) ++ others ∧
      ∀ property count, .duplicate property count ∉ others
  valid : ∀ (i : Inspection) strict,
    i.isValid strict = true ↔ i.problems = [] ∧ (strict = true → i.warnings = [])
  -- A strict inspection finds the same.
  strict : ∀ (options : ValidateOptions) settings strict,
    ({ options with strict } : ValidateOptions).inspect settings c = options.inspect settings c

-- A configuration is inspected section by section.
theorem Configuration.inspect_parts (c : Configuration) : c.InspectsParts where
  fails := by
    have hinspect : (∃ e, c.inspect = .error e) ↔
        ¬∃ parts, c.sections.mapM Section.definitions = .ok parts := by
      rw [Except.exists_eq_ok_iff, not_not, inspect, Inspection.ofSections_eq]
      simp only [Except.map_eq_error]
    rw [hinspect, Except.exists_mapM_eq_ok]
    simp only [Except.exists_eq_ok_iff, Section.definitions_fails]
    push Not
    rfl
  lack _ := Inspection.ofSections_eq_error_iff
  parts i := by
    have hparts : ∀ parts, Inspection.ofParts parts = i ↔
        i.problems = parts.flatMap (fun ds => (Inspection.ofDefinitions ds).problems) ∧
        i.warnings = parts.flatMap (fun ds => (Inspection.ofDefinitions ds).warnings) := by
      intro parts
      cases i
      simp [Inspection.ofParts, eq_comm]
    rw [inspect, Inspection.ofSections_eq_ok_iff]
    simp only [hparts]
  duplicates ds := by
    obtain ⟨repeated, hrepeats, hduplicates⟩ := Inspection.exists_repeats (ds.map (·.name))
    refine ⟨repeated, ds.flatMap Inspection.templateWarnings, hrepeats, ?_, ?_⟩
    · rw [← hduplicates]
      rfl
    · intro property count h
      obtain ⟨d, -, hd⟩ := List.mem_flatMap.mp h
      exact Inspection.ne_duplicate_of_mem hd property count rfl
  valid _ _ := Inspection.isValid_iff
  strict _ _ _ := rfl

end PropertyTemplates
