import PropertyTemplates.Proofs.Run.Replay
import Mathlib.Data.List.Nodup

namespace PropertyTemplates.Store

-- How many properties of a list have a name.
def entriesOf (name : String) (properties : List Property) : Nat :=
  properties.countP (·.name == name)

-- No two properties have a name in common.
def OnePerName (properties : List Property) : Prop := properties.Pairwise (·.name ≠ ·.name)

variable {name : String} {q : Property} {saves properties : List Property}

theorem entriesOf_cons (p : Property) (rest : List Property) (name : String) :
    entriesOf name (p :: rest) = entriesOf name rest + if p.name = name then 1 else 0 := by
  unfold entriesOf
  rw [List.countP_cons]
  simp only [beq_iff_eq]

theorem onePerName_iff : OnePerName properties ↔ ∀ name, entriesOf name properties ≤ 1 := by
  have hnodup : OnePerName properties ↔ (properties.map (·.name)).Nodup := List.pairwise_map.symm
  have hcount : ∀ name, (properties.map (·.name)).count name = entriesOf name properties := by
    intro name
    rw [List.count, List.countP_map]
    rfl
  rw [hnodup, List.nodup_iff_count_le_one]
  simp only [hcount]

-- A save adds an entry only where its name has none.
theorem entriesOf_put (q : Property) (properties : List Property) (name : String) :
    entriesOf name (put q properties) =
      if q.name = name then max 1 (entriesOf name properties) else entriesOf name properties := by
  induction properties with
  | nil =>
      have hnil : entriesOf name [] = 0 := rfl
      rw [put, entriesOf_cons, hnil]
      by_cases hq : q.name = name <;> simp [hq]
  | cons p rest ih =>
      rw [put, entriesOf_cons]
      by_cases hp : p.name = q.name
      · rw [if_pos hp, entriesOf_cons, hp]
        by_cases hq : q.name = name
        · simp only [hq, if_true]
          omega
        · simp only [hq, if_false]
      · rw [if_neg hp, entriesOf_cons, ih]
        by_cases hq : q.name = name
        · have hpn : p.name ≠ name := fun h => hp (h.trans hq.symm)
          simp only [hq, hpn, if_true, if_false, Nat.add_zero]
        · simp only [hq, if_false]

theorem entriesOf_putAll (saves properties : List Property) (name : String) :
    entriesOf name (putAll saves properties) =
      if name ∈ saves.map (·.name) then max 1 (entriesOf name properties)
      else entriesOf name properties := by
  induction saves generalizing properties with
  | nil => rfl
  | cons q saves ih =>
      have hstep : entriesOf name (putAll (q :: saves) properties) =
          entriesOf name (putAll saves (put q properties)) := rfl
      have hmem : name ∈ (q :: saves).map (·.name) ↔
          q.name = name ∨ name ∈ saves.map (·.name) := by
        rw [List.map_cons, List.mem_cons, eq_comm]
      rw [hstep, ih, entriesOf_put]
      simp only [hmem]
      by_cases hq : q.name = name <;> by_cases hsaved : name ∈ saves.map (·.name)
      · simp only [hq, hsaved, true_or, if_true]
        omega
      · simp only [hq, hsaved, true_or, if_true, if_false]
      · simp only [hq, hsaved, or_true, if_true, if_false]
      · simp only [hq, hsaved, or_false, if_false]

-- Saves neither bring a name in twice nor remove an entry that repeats a name.
theorem onePerName_putAll : OnePerName (putAll saves properties) ↔ OnePerName properties := by
  simp only [onePerName_iff, entriesOf_putAll]
  constructor <;> intro h name <;> have hname := h name
  · split at hname <;> omega
  · split <;> omega

-- The entries of a store that has started with the properties of a process.
structure CountsEntries (p : WorkProcess) (saves : List Property) (s : Store) : Prop where
  entries : ∀ name, entriesOf name s.properties =
    if name ∈ saves.map (·.name) then max 1 (entriesOf name p.properties)
    else entriesOf name p.properties
  unique : OnePerName s.properties ↔ OnePerName p.properties
  applied : OnePerName (s.applyTo p).properties ↔ OnePerName p.properties

-- A store keeps one entry for each name if and only if the process that it has started with does,
-- whatever is saved. What it writes back repeats the same names.
theorem countsEntries_saveAll (p : WorkProcess) (saves : List Property) :
    CountsEntries p saves ((ofProcess p).saveAll saves) := by
  have hproperties : ((ofProcess p).saveAll saves).properties = putAll saves p.properties :=
    properties_saveAll (ofProcess p) saves
  have hunique : OnePerName ((ofProcess p).saveAll saves).properties ↔ OnePerName p.properties := by
    rw [hproperties]
    exact onePerName_putAll
  refine ⟨fun name => ?_, hunique, hunique⟩
  rw [hproperties]
  exact entriesOf_putAll saves p.properties name

-- A process may have a property twice, and then its store has it twice, saved or not.
theorem not_onePerName_of_repeated :
    ¬∀ (p : WorkProcess) (saves : List Property),
      OnePerName ((ofProcess p).saveAll saves).properties := by
  intro h
  have hrepeated := h ⟨7, "Band", none, [], [⟨"D", "1"⟩, ⟨"D", "2"⟩], none, false⟩ [⟨"D", "9"⟩]
  rw [onePerName_iff] at hrepeated
  exact absurd (hrepeated "D") (by decide)

end PropertyTemplates.Store
