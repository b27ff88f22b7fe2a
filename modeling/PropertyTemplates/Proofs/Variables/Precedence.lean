import PropertyTemplates.Proofs.Except
import PropertyTemplates.Variables.Assignment
import Mathlib.Data.List.Forall2

namespace PropertyTemplates

namespace Variables

-- The value at the last place of a name in a list.
def lastOf? (entries : List (String × String)) (name : String) : Option String :=
  entries.reverse.lookup name

variable {entries : List (String × String)} {name value : String}

theorem lookup_cons_eq (e : String × String) (entries : List (String × String)) (name : String) :
    (e :: entries).lookup name = if e.1 = name then some e.2 else entries.lookup name := by
  rw [List.lookup_cons]
  by_cases h : e.1 = name
  · simp [h]
  · have hne : (name == e.1) = false := by simpa using Ne.symm h
    simp [h, hne]

theorem lastOf?_cons (e : String × String) (entries : List (String × String)) (name : String) :
    lastOf? (e :: entries) name =
      (lastOf? entries name).or (if e.1 = name then some e.2 else none) := by
  unfold lastOf?
  rw [List.reverse_cons, List.lookup_append, lookup_cons_eq, List.lookup_nil]

theorem lookup_put (name value : String) (entries : List (String × String)) (other : String) :
    (put name value entries).lookup other =
      if name = other then some value else entries.lookup other := by
  induction entries with
  | nil => rw [put, lookup_cons_eq]
  | cons e rest ih =>
      obtain ⟨first, old⟩ := e
      rw [put]
      by_cases hfirst : first = name
      · rw [if_pos hfirst, lookup_cons_eq, lookup_cons_eq, hfirst]
        by_cases hother : name = other <;> simp [hother]
      · rw [if_neg hfirst, lookup_cons_eq, lookup_cons_eq, ih]
        by_cases hother : name = other
        · have hne : first ≠ other := fun h => hfirst (h.trans hother.symm)
          simp [hother, hne]
        · simp [hother]

theorem get?_insert (v : Variables) (name value other : String) :
    (v.insert name value).get? other = if name = other then some value else v.get? other :=
  lookup_put name value v.entries other

-- After insertions a name has the value that was inserted last, or the one it had before.
theorem get?_insertAll (v : Variables) (entries : List (String × String)) (name : String) :
    (v.insertAll entries).get? name = (lastOf? entries name).or (v.get? name) := by
  induction entries generalizing v with
  | nil => rfl
  | cons e entries ih =>
      have hstep : v.insertAll (e :: entries) = (v.insert e.1 e.2).insertAll entries := rfl
      rw [hstep, ih, get?_insert, lastOf?_cons, Option.or_assoc]
      by_cases he : e.1 = name <;> simp [he]

theorem get?_ofList (entries : List (String × String)) (name : String) :
    (ofList entries).get? name = lastOf? entries name := by
  have hempty : empty.get? name = none := rfl
  rw [ofList, get?_insertAll, hempty, Option.or_none]

-- Where no name occurs twice, its last place is its only one.
theorem lookup_eq_some_iff (h : NoRepeats entries) :
    entries.lookup name = some value ↔ (name, value) ∈ entries := by
  induction entries with
  | nil => simp
  | cons e rest ih =>
      obtain ⟨hfirst, hrest⟩ := List.pairwise_cons.mp h
      rw [lookup_cons_eq, List.mem_cons]
      by_cases he : e.1 = name
      · have hnot : (name, value) ∉ rest := fun hmem => hfirst _ hmem he
        rw [if_pos he, or_iff_left hnot, Option.some.injEq, ← he, Prod.ext_iff]
        exact ⟨fun h => ⟨rfl, h.symm⟩, fun h => h.2.symm⟩
      · have hne : (name, value) ≠ e := fun h => he (by rw [← h])
        simp only [he, if_false, hne, false_or, ih hrest]

theorem lastOf?_eq_lookup (h : NoRepeats entries) (name : String) :
    lastOf? entries name = entries.lookup name := by
  have hreverse : NoRepeats entries.reverse :=
    List.pairwise_reverse.mpr (h.imp fun hne => Ne.symm hne)
  apply Option.ext
  intro value
  unfold lastOf?
  rw [lookup_eq_some_iff hreverse, lookup_eq_some_iff h, List.mem_reverse]

end Variables

-- What stands before the first equals sign of a text is a name, and what follows it is a value.
structure Assigns (text name value : String) : Prop where
  text : text = name ++ "=" ++ value
  first : '=' ∉ name.toList

-- The last of several texts that give a name a value gives it this one.
def LastAssigns (texts : List String) (name value : String) : Prop :=
  ∃ before text after, texts = before ++ text :: after ∧ Assigns text name value ∧
    ∀ t ∈ after, ∀ other, ¬Assigns t name other

theorem splitAssignment_eq_some_iff {cs name value : List Char} :
    splitAssignment cs = some (name, value) ↔ cs = name ++ '=' :: value ∧ '=' ∉ name := by
  induction cs generalizing name with
  | nil => simp [splitAssignment]
  | cons c rest ih =>
      rw [splitAssignment]
      by_cases hc : c = '='
      · rw [if_pos hc, hc]
        cases name with
        | nil => simp [eq_comm]
        | cons d name =>
            simp only [Option.some.injEq, Prod.mk.injEq, List.nil_eq, reduceCtorEq, false_and,
              List.cons_append, List.cons_eq_cons, List.mem_cons, not_or, false_iff, not_and]
            rintro ⟨rfl, -⟩ hne
            exact absurd rfl hne
      · rw [if_neg hc, Option.map_eq_some_iff]
        constructor
        · rintro ⟨⟨front, back⟩, hsplit, he⟩
          cases he
          obtain ⟨rfl, hfront⟩ := ih.mp hsplit
          exact ⟨rfl, by simp [Ne.symm hc, hfront]⟩
        · rintro ⟨he, hname⟩
          cases name with
          | nil => exact absurd (List.cons_eq_cons.mp he).1 hc
          | cons d name =>
              obtain ⟨rfl, rfl⟩ := List.cons_eq_cons.mp he
              have hrest : '=' ∉ name := fun h => hname (List.mem_cons_of_mem _ h)
              exact ⟨(name, value), ih.mpr ⟨rfl, hrest⟩, rfl⟩

theorem splitAssignment_eq_none_iff {cs : List Char} : splitAssignment cs = none ↔ '=' ∉ cs := by
  induction cs with
  | nil => simp [splitAssignment]
  | cons c rest ih =>
      rw [splitAssignment]
      by_cases hc : c = '='
      · simp [hc]
      · simp [hc, ih, Ne.symm hc]

theorem readAssignment_eq_ok_iff {text name value : String} :
    readAssignment text = .ok (name, value) ↔ Assigns text name value := by
  have hsplit : Assigns text name value ↔
      splitAssignment text.toList = some (name.toList, value.toList) := by
    have htext :
        text = name ++ "=" ++ value ↔ text.toList = name.toList ++ '=' :: value.toList := by
      rw [← String.toList_inj]
      simp
    rw [splitAssignment_eq_some_iff, ← htext]
    exact ⟨fun h => ⟨h.text, h.first⟩, fun h => ⟨h.1, h.2⟩⟩
  rw [hsplit, readAssignment]
  cases splitAssignment text.toList with
  | none => simp
  | some found =>
      simp only [Except.ok.injEq, Option.some.injEq, Prod.ext_iff, ← String.toList_inj,
        String.toList_ofList]

-- A text assigns one value to one name at most.
theorem Assigns.unique {text name value name' value' : String} (h : Assigns text name value)
    (h' : Assigns text name' value') : name = name' ∧ value = value' := by
  have hread := readAssignment_eq_ok_iff.mpr h
  rw [readAssignment_eq_ok_iff.mpr h'] at hread
  obtain ⟨hname, hvalue⟩ := Prod.mk.inj (Except.ok.inj hread)
  exact ⟨hname.symm, hvalue.symm⟩

theorem readAssignment_eq_error_iff {text : String} {e : BadAssignment} :
    readAssignment text = .error e ↔ '=' ∉ text.toList ∧ e = ⟨text⟩ := by
  rw [← splitAssignment_eq_none_iff, readAssignment]
  cases splitAssignment text.toList with
  | none => simp [eq_comm]
  | some found => simp

theorem exists_readAssignment_iff {text : String} :
    (∃ e, readAssignment text = .ok e) ↔ '=' ∈ text.toList := by
  rw [Except.exists_eq_ok_iff]
  simp [readAssignment_eq_error_iff]

section

variable {texts : List String} {entries : List (String × String)} {name value : String}

theorem lastOf?_eq_none_iff
    (h : List.Forall₂ (fun text e => Assigns text e.1 e.2) texts entries) :
    Variables.lastOf? entries name = none ↔ ∀ t ∈ texts, ∀ other, ¬Assigns t name other := by
  induction h with
  | nil => simp [Variables.lastOf?]
  | @cons text e texts entries hassigns _ ih =>
      have hnamed : (∀ other, ¬Assigns text name other) ↔ e.1 ≠ name := by
        constructor
        · rintro hnone rfl
          exact hnone _ hassigns
        · intro hne other hother
          exact hne (hassigns.unique hother).1
      rw [Variables.lastOf?_cons, Option.or_eq_none_iff, ih, List.forall_mem_cons, hnamed, and_comm]
      simp

theorem lastOf?_eq_some_iff
    (h : List.Forall₂ (fun text e => Assigns text e.1 e.2) texts entries) :
    Variables.lastOf? entries name = some value ↔ LastAssigns texts name value := by
  induction h with
  | nil => simp [Variables.lastOf?, LastAssigns]
  | @cons text e texts entries hassigns hrest ih =>
      rw [Variables.lastOf?_cons]
      constructor
      · intro hlast
        cases hlater : Variables.lastOf? entries name with
        | some later =>
            rw [hlater, Option.some_or] at hlast
            obtain ⟨before, t, after, rfl, ht, hafter⟩ := ih.mp (hlater.trans hlast)
            exact ⟨text :: before, t, after, rfl, ht, hafter⟩
        | none =>
            rw [hlater, Option.none_or] at hlast
            split at hlast
            · rename_i hname
              cases hlast
              cases hname
              exact ⟨[], text, texts, rfl, hassigns, (lastOf?_eq_none_iff hrest).mp hlater⟩
            · cases hlast
      · rintro ⟨before, t, after, he, ht, hafter⟩
        cases before with
        | nil =>
            cases he
            obtain ⟨hname, hvalue⟩ := hassigns.unique ht
            rw [(lastOf?_eq_none_iff hrest).mpr hafter, Option.none_or, if_pos hname, hvalue]
        | cons first before =>
            cases he
            rw [ih.mpr ⟨before, t, after, rfl, ht, hafter⟩, Option.some_or]

-- Where every text assigns a value, a name has the value that is assigned to it last.
theorem Variables.ofAssignments_eq_ok_iff {v : Variables} :
    ofAssignments texts = .ok v ↔ ∃ entries,
      List.Forall₂ (fun text e => Assigns text e.1 e.2) texts entries ∧ ofList entries = v := by
  have hread : ∀ text (e : String × String),
      readAssignment text = .ok e ↔ Assigns text e.1 e.2 := fun _ _ => readAssignment_eq_ok_iff
  unfold ofAssignments
  simp only [Except.map_eq_ok, Except.mapM_eq_ok, hread]

-- The first text that assigns nothing is the one that is complained about.
theorem Variables.ofAssignments_eq_error_iff {e : BadAssignment} :
    ofAssignments texts = .error e ↔ ∃ before text after, texts = before ++ text :: after ∧
      (∀ t ∈ before, '=' ∈ t.toList) ∧ '=' ∉ text.toList ∧ e = ⟨text⟩ := by
  unfold ofAssignments
  simp only [Except.map_eq_error, Except.mapM_eq_error_iff, exists_readAssignment_iff,
    readAssignment_eq_error_iff]

theorem Variables.exists_ofAssignments_iff :
    (∃ v, ofAssignments texts = .ok v) ↔ ∀ t ∈ texts, '=' ∈ t.toList := by
  rw [Except.exists_eq_ok_iff]
  unfold ofAssignments
  simp only [Except.map_eq_error]
  rw [← Except.exists_eq_ok_iff, Except.exists_mapM_eq_ok]
  simp only [exists_readAssignment_iff]

end

end PropertyTemplates
