import PropertyTemplates.Proofs.Run.Stored

namespace PropertyTemplates

namespace Store

-- Only the saves of a name matter for its last value.
theorem lastValue_filter_name (saves : List Property) (name : String) :
    lastValue (saves.filter (·.name == name)) name = lastValue saves name := by
  induction saves with
  | nil => rfl
  | cons q saves ih =>
      by_cases hq : q.name = name
      · have hkeep : (q :: saves).filter (·.name == name) =
            q :: saves.filter (·.name == name) := List.filter_cons_of_pos (by simp [hq])
        rw [hkeep, lastValue_cons, lastValue_cons, ih]
      · have hdrop : (q :: saves).filter (·.name == name) = saves.filter (·.name == name) :=
          List.filter_cons_of_neg (by simp [hq])
        rw [hdrop, lastValue_cons, ih, if_neg hq, Option.or_none]

-- Two series of saves end on the same values.
def SameValues (saves saves' : List Property) : Prop :=
  ∀ name, lastValue saves name = lastValue saves' name

variable {saves saves' properties : List Property}

theorem SameValues.firstValue_putAll (h : SameValues saves saves') (name : String) :
    firstValue (putAll saves properties) name = firstValue (putAll saves' properties) name := by
  rw [Store.firstValue_putAll, Store.firstValue_putAll, h name]

-- What was there before keeps its place and its name, and gets the same value from both.
theorem SameValues.getElem?_putAll (h : SameValues saves saves') {i : Nat}
    (hi : i < properties.length) :
    ∃ value, (putAll saves properties)[i]? = some ⟨properties[i].name, value⟩ ∧
      (putAll saves' properties)[i]? = some ⟨properties[i].name, value⟩ := by
  rw [Store.getElem?_putAll saves properties hi, Store.getElem?_putAll saves' properties hi,
    h properties[i].name]
  by_cases hmem : properties[i].name ∈ (properties.take i).map (·.name)
  · rw [if_pos hmem]
    exact ⟨properties[i].value, rfl, rfl⟩
  · rw [if_neg hmem]
    exact ⟨_, rfl, rfl⟩

-- A store that takes every save.
def accepting : Saving Store := saving fun _ => none

theorem accepting_apply (s : Store) (q : Property) : accepting s q = (.ok (), s.save q) := rfl

end Store

namespace Definition

variable {root : Object} {replacer : String → String} {ds ds' : List Definition}

def Generates (root : Object) (replacer : String → String) (d : Definition) : Prop :=
  ∃ value, d.generate root replacer = .ok value

-- The property that a definition makes. The value is empty where it cannot be generated.
def product (root : Object) (replacer : String → String) (d : Definition) : Property :=
  ⟨d.name, (d.generate root replacer).toOption.getD ""⟩

-- What is generated depends on neither the store nor the definitions before.
theorem passes_products (h : ∀ d ∈ ds, d.Generates root replacer) (store : Store) :
    Passes root replacer Store.accepting store ds (ds.map (product root replacer))
      (store.saveAll (ds.map (product root replacer))) := by
  induction ds generalizing store with
  | nil => exact .nil store
  | cons d ds ih =>
      obtain ⟨⟨value, hvalue⟩, hrest⟩ := List.forall_mem_cons.mp h
      have hproduct : product root replacer d = ⟨d.name, value⟩ := by
        unfold product
        rw [hvalue]
        rfl
      rw [List.map_cons, hproduct]
      exact .cons hvalue (Store.accepting_apply store _) (ih hrest _)

-- The same definitions in an order in which those of one name still follow one another as before.
structure Reordered (ds ds' : List Definition) : Prop where
  perm : ds.Perm ds'
  sameName : ∀ name, ds.filter (·.name == name) = ds'.filter (·.name == name)

theorem Reordered.sameValues (h : Reordered ds ds') (root : Object)
    (replacer : String → String) :
    Store.SameValues (ds.map (product root replacer)) (ds'.map (product root replacer)) := by
  intro name
  have hfilter : ∀ es : List Definition,
      (es.map (product root replacer)).filter (·.name == name) =
        (es.filter (·.name == name)).map (product root replacer) := fun es => List.filter_map
  calc Store.lastValue (ds.map (product root replacer)) name
      = Store.lastValue ((ds.filter (·.name == name)).map (product root replacer)) name := by
        rw [← hfilter, Store.lastValue_filter_name]
    _ = Store.lastValue ((ds'.filter (·.name == name)).map (product root replacer)) name := by
        rw [h.sameName]
    _ = Store.lastValue (ds'.map (product root replacer)) name := by
        rw [← hfilter, Store.lastValue_filter_name]

section Run

variable (hgenerates : ∀ d ∈ ds, d.Generates root replacer) (store : Store)

include hgenerates

theorem store_of_generates : (execute ds root replacer Store.accepting store).2 =
    store.saveAll (ds.map (product root replacer)) := by
  rw [execute, (passes_products hgenerates store).runAll_eq]

theorem valueOf_of_generates (name : String) :
    (execute ds root replacer Store.accepting store).1.valueOf name =
      Store.lastValue (ds.map (product root replacer)) name := by
  rw [execute, (passes_products hgenerates store).runAll_eq]
  exact valueOf_eq_lastValue (List.append_nil _).symm .finished name

theorem run_of_generates : run ds root replacer Store.accepting store =
    (.ok (execute ds root replacer Store.accepting store).1,
      (execute ds root replacer Store.accepting store).2) := by
  rw [run, execute, (passes_products hgenerates store).runAll_eq]

theorem outcome_of_generates :
    (execute ds root replacer Store.accepting store).1.outcome = .finish := by
  rw [execute, (passes_products hgenerates store).runAll_eq]
  simp [Report.complete, Report.hasFailures]

end Run

-- A run that finishes: its report says so, and there is no error.
structure Finishes (ds : List Definition) (root : Object) (replacer : String → String)
    (store : Store) : Prop where
  outcome : (execute ds root replacer Store.accepting store).1.outcome = .finish
  run_eq : run ds root replacer Store.accepting store =
    (.ok (execute ds root replacer Store.accepting store).1,
      (execute ds root replacer Store.accepting store).2)

-- What the reports of two runs, and the stores after them, agree on.
structure AgreeByName (before : Store) (first second : Report × Store) : Prop where
  get : ∀ name, first.2.get? name = second.2.get? name
  value : ∀ name, first.1.valueOf name = second.1.valueOf name
  -- What was in the store keeps its place.
  positions : ∀ i (_ : i < before.properties.length), ∃ value,
    first.2.properties[i]? = some ⟨before.properties[i].name, value⟩ ∧
      second.2.properties[i]? = some ⟨before.properties[i].name, value⟩

-- The order of definitions matters only among those of one name.
theorem execute_reordered (root : Object) (replacer : String → String) (store : Store)
    (hgenerates : ∀ d ∈ ds, d.Generates root replacer) (h : Reordered ds ds') :
    Finishes ds root replacer store ∧ Finishes ds' root replacer store ∧
      AgreeByName store (execute ds root replacer Store.accepting store)
        (execute ds' root replacer Store.accepting store) := by
  have hgenerates' : ∀ d ∈ ds', d.Generates root replacer :=
    fun d hd => hgenerates d (h.perm.mem_iff.mpr hd)
  have hsame := h.sameValues root replacer
  refine ⟨⟨outcome_of_generates hgenerates store, run_of_generates hgenerates store⟩,
    ⟨outcome_of_generates hgenerates' store, run_of_generates hgenerates' store⟩, ?_⟩
  exact {
    get := by
      intro name
      rw [store_of_generates hgenerates, store_of_generates hgenerates', Store.get?_saveAll,
        Store.get?_saveAll, hsame name]
    value := by
      intro name
      rw [valueOf_of_generates hgenerates, valueOf_of_generates hgenerates', hsame name]
    positions := by
      intro i hi
      rw [store_of_generates hgenerates, store_of_generates hgenerates', Store.properties_saveAll,
        Store.properties_saveAll]
      exact hsame.getElem?_putAll hi }

-- A volume that is named twice, in a store that already has its name twice.
def volume : Definition := ⟨"Volume", "{{titel}}", []⟩

def volumeNumber : Definition := ⟨"Volume", "{{titel}} 7", []⟩

def place : Definition := ⟨"Place", "Office", []⟩

def shelf : Store := ⟨[⟨"Shelf", "3"⟩, ⟨"Volume", "1"⟩, ⟨"Volume", "2"⟩], []⟩

def mapTable : Object := .table [(.text "titel", .text "Maps")]

theorem execute_reordered_volume :
    (∀ d ∈ [volume, volumeNumber, place], d.Generates mapTable id) ∧
      Reordered [volume, volumeNumber, place] [place, volume, volumeNumber] ∧
      Finishes [volume, volumeNumber, place] mapTable id shelf ∧
      Finishes [place, volume, volumeNumber] mapTable id shelf ∧
      AgreeByName shelf
        (execute [volume, volumeNumber, place] mapTable id Store.accepting shelf)
        (execute [place, volume, volumeNumber] mapTable id Store.accepting shelf) := by
  have hgenerates : ∀ d ∈ [volume, volumeNumber, place], d.Generates mapTable id := by
    intro d hd
    simp only [List.mem_cons, List.not_mem_nil, or_false] at hd
    rcases hd with rfl | rfl | rfl
    · exact ⟨"Maps", by decide +kernel⟩
    · exact ⟨"Maps 7", by decide +kernel⟩
    · exact ⟨"Office", by decide +kernel⟩
  have hreordered : Reordered [volume, volumeNumber, place] [place, volume, volumeNumber] := by
    refine ⟨by decide, fun name => ?_⟩
    by_cases hv : name = "Volume"
    · subst hv
      decide
    by_cases hp : name = "Place"
    · subst hp
      decide
    simp [volume, volumeNumber, place, Ne.symm hv, Ne.symm hp]
  exact ⟨hgenerates, hreordered, execute_reordered mapTable id shelf hgenerates hreordered⟩

end Definition

end PropertyTemplates
