import PropertyTemplates.Run.Store
import Mathlib.Data.List.Basic

namespace PropertyTemplates

namespace Store

-- Saves properties one after the other.
def saveAll (s : Store) (saves : List Property) : Store := saves.foldl save s

-- Puts properties one after the other.
def putAll (saves properties : List Property) : List Property :=
  saves.foldl (fun properties q => put q properties) properties

-- The value of the first property of a name.
def firstValue (properties : List Property) (name : String) : Option String :=
  (properties.find? (·.name == name)).map (·.value)

-- The value of the last property of a name.
def lastValue (properties : List Property) (name : String) : Option String :=
  firstValue properties.reverse name

variable {q : Property} {saves properties : List Property}

@[simp] theorem properties_saveAll (s : Store) (saves : List Property) :
    (s.saveAll saves).properties = putAll saves s.properties := by
  induction saves generalizing s with
  | nil => rfl
  | cons q saves ih => exact ih (s.save q)

@[simp] theorem history_saveAll (s : Store) (saves : List Property) :
    (s.saveAll saves).history = s.history ++ saves := by
  induction saves generalizing s with
  | nil => exact (List.append_nil _).symm
  | cons q saves ih =>
      calc ((s.save q).saveAll saves).history
          = s.history ++ [q] ++ saves := ih (s.save q)
        _ = s.history ++ q :: saves := by simp

theorem firstValue_cons (p : Property) (properties : List Property) (name : String) :
    firstValue (p :: properties) name =
      if p.name = name then some p.value else firstValue properties name := by
  by_cases h : p.name = name <;> simp [firstValue, h]

theorem firstValue_append (before after : List Property) (name : String) :
    firstValue (before ++ after) name = (firstValue before name).or (firstValue after name) := by
  unfold firstValue
  rw [List.find?_append]
  cases before.find? (·.name == name) <;> rfl

theorem lastValue_cons (q : Property) (saves : List Property) (name : String) :
    lastValue (q :: saves) name =
      (lastValue saves name).or (if q.name = name then some q.value else none) := by
  unfold lastValue
  rw [List.reverse_cons, firstValue_append, firstValue_cons]
  rfl

-- A save shadows what is there.
theorem firstValue_put (q : Property) (properties : List Property) (name : String) :
    firstValue (put q properties) name =
      if q.name = name then some q.value else firstValue properties name := by
  induction properties with
  | nil => exact firstValue_cons q [] name
  | cons p rest ih =>
      unfold put
      split
      · rename_i hp
        rw [firstValue_cons, firstValue_cons, hp]
        by_cases hq : q.name = name <;> simp [hq]
      · rename_i hp
        rw [firstValue_cons, firstValue_cons, ih]
        by_cases hq : q.name = name
        · have hpn : p.name ≠ name := fun h => hp (h.trans hq.symm)
          simp [hq, hpn]
        · simp [hq]

theorem firstValue_putAll (saves properties : List Property) (name : String) :
    firstValue (putAll saves properties) name =
      (lastValue saves name).or (firstValue properties name) := by
  induction saves generalizing properties with
  | nil => rfl
  | cons q saves ih =>
      have hstep : firstValue (putAll (q :: saves) properties) name =
          (lastValue saves name).or (firstValue (put q properties) name) := ih (put q properties)
      rw [hstep, firstValue_put, lastValue_cons, Option.or_assoc]
      by_cases hq : q.name = name <;> simp [hq]

theorem lastValue_filter_of_ne {name other : String} (h : name ≠ other) (saves : List Property) :
    lastValue (saves.filter (·.name != other)) name = lastValue saves name := by
  induction saves with
  | nil => rfl
  | cons q saves ih =>
      by_cases hq : q.name = other
      · have hqn : q.name ≠ name := fun e => h (e.symm.trans hq)
        simp [hq, ih, lastValue_cons, h.symm]
      · simp [hq, lastValue_cons, ih]

theorem lastValue_filter_self (name : String) (saves : List Property) :
    lastValue (saves.filter (·.name != name)) name = none := by
  induction saves with
  | nil => rfl
  | cons q saves ih =>
      by_cases hq : q.name = name <;> simp [hq, lastValue_cons, ih]

-- The first property takes the last value of its name, and no later property of the name is
-- reached.
theorem putAll_cons (saves : List Property) (p : Property) (rest : List Property) :
    putAll saves (p :: rest) = ⟨p.name, (lastValue saves p.name).getD p.value⟩ ::
      putAll (saves.filter (·.name != p.name)) rest := by
  induction saves generalizing p rest with
  | nil => rfl
  | cons q saves ih =>
      have hstep : putAll (q :: saves) (p :: rest) = putAll saves (put q (p :: rest)) := rfl
      rw [hstep, lastValue_cons, List.filter_cons]
      by_cases h : p.name = q.name
      · rw [put, if_pos h, ih, h]
        cases lastValue saves q.name <;> simp
      · have hq : q.name ≠ p.name := Ne.symm h
        rw [put, if_neg h, ih]
        simp [hq, putAll]

-- A save keeps the names in place. A new name comes last.
theorem names_put (q : Property) (properties : List Property) :
    (put q properties).map (·.name) =
      if q.name ∈ properties.map (·.name) then properties.map (·.name)
      else properties.map (·.name) ++ [q.name] := by
  induction properties with
  | nil => rfl
  | cons p rest ih =>
      by_cases h : p.name = q.name
      · simp [put, h]
      · have hq : q.name ≠ p.name := Ne.symm h
        rw [put, if_neg h, List.map_cons, ih]
        by_cases hrest : q.name ∈ rest.map (·.name) <;> simp [hq, hrest]

-- The names in a list that are not among some others, each where it first occurs.
def newNames (names others : List String) : List String :=
  (names.filter (· ∉ others)).eraseDups

theorem newNames_cons_of_mem {name : String} {others : List String} (h : name ∈ others)
    (names : List String) : newNames (name :: names) others = newNames names others := by
  simp [newNames, h]

theorem newNames_cons_of_not_mem {name : String} {others : List String} (h : name ∉ others)
    (names : List String) :
    newNames (name :: names) others = name :: newNames names (others ++ [name]) := by
  have hfilter : (names.filter (· ∉ others)).filter (fun n => !n == name) =
      names.filter (· ∉ others ++ [name]) := by
    rw [List.filter_filter]
    refine List.filter_congr fun n _ => ?_
    by_cases hn : n = name <;> simp [hn]
  unfold newNames
  rw [List.filter_cons, if_pos (by simpa using h), List.eraseDups_cons, hfilter]

theorem names_putAll (saves properties : List Property) :
    (putAll saves properties).map (·.name) =
      properties.map (·.name) ++ newNames (saves.map (·.name)) (properties.map (·.name)) := by
  induction saves generalizing properties with
  | nil => simp [putAll, newNames]
  | cons q saves ih =>
      have hstep : (putAll (q :: saves) properties).map (·.name) =
          (put q properties).map (·.name) ++
            newNames (saves.map (·.name)) ((put q properties).map (·.name)) :=
        ih (put q properties)
      rw [hstep, names_put, List.map_cons]
      by_cases h : q.name ∈ properties.map (·.name)
      · rw [if_pos h, newNames_cons_of_mem h]
      · rw [if_neg h, newNames_cons_of_not_mem h, List.append_assoc, List.singleton_append]

-- Where a property ends up that was there before: a later one of the same name is not touched.
theorem getElem?_putAll (saves properties : List Property) {i : Nat} (hi : i < properties.length) :
    (putAll saves properties)[i]? = some
      (if properties[i].name ∈ (properties.take i).map (·.name) then properties[i]
        else ⟨properties[i].name,
          (lastValue saves properties[i].name).getD properties[i].value⟩) := by
  induction properties generalizing saves i with
  | nil => exact absurd hi (Nat.not_lt_zero i)
  | cons p rest ih =>
      rw [putAll_cons]
      cases i with
      | zero => simp
      | succ i =>
          have hi : i < rest.length := Nat.lt_of_succ_lt_succ hi
          rw [List.getElem?_cons_succ, ih _ hi]
          simp only [List.getElem_cons_succ, List.take_succ_cons, List.map_cons, List.mem_cons]
          by_cases hp : rest[i].name = p.name
          · rw [← hp, lastValue_filter_self]
            simp
          · rw [lastValue_filter_of_ne hp]
            simp [hp]

example : putAll [⟨"A", "3"⟩, ⟨"C", "4"⟩, ⟨"A", "5"⟩] [⟨"A", "1"⟩, ⟨"B", "2"⟩, ⟨"A", "0"⟩] =
    [⟨"A", "5"⟩, ⟨"B", "2"⟩, ⟨"A", "0"⟩, ⟨"C", "4"⟩] := by
  decide

-- Saves change nothing where every name ends on the value that it has.
theorem putAll_eq_self
    (h : ∀ name value, lastValue saves name = some value →
      firstValue properties name = some value) :
    putAll saves properties = properties := by
  induction properties generalizing saves with
  | nil =>
      cases saves with
      | nil => rfl
      | cons q saves =>
          have hsome : lastValue (q :: saves) q.name =
              some ((lastValue saves q.name).getD q.value) := by
            rw [lastValue_cons]
            cases lastValue saves q.name <;> simp
          exact absurd (h _ _ hsome) nofun
  | cons p rest ih =>
      have hfirst : (lastValue saves p.name).getD p.value = p.value := by
        cases hl : lastValue saves p.name with
        | none => rfl
        | some value =>
            have hp := h p.name value hl
            rw [firstValue_cons, if_pos rfl] at hp
            exact (Option.some.inj hp).symm
      have hrest : putAll (saves.filter (·.name != p.name)) rest = rest := by
        refine ih fun name value hl => ?_
        by_cases hname : name = p.name
        · rw [hname, lastValue_filter_self] at hl
          cases hl
        · rw [lastValue_filter_of_ne hname] at hl
          have hp := h name value hl
          rwa [firstValue_cons, if_neg (Ne.symm hname)] at hp
      rw [putAll_cons, hfirst, hrest]

-- On the way through the same saves a name may take its earlier values again, but it ends where it
-- was.
theorem putAll_putAll (saves properties : List Property) :
    putAll saves (putAll saves properties) = putAll saves properties := by
  refine putAll_eq_self fun name value h => ?_
  rw [firstValue_putAll, h]
  rfl

theorem get?_saveAll (s : Store) (saves : List Property) (name : String) :
    (s.saveAll saves).get? name = (lastValue saves name).or (s.get? name) := by
  have hget : (s.saveAll saves).get? name = firstValue (s.saveAll saves).properties name := rfl
  rw [hget, properties_saveAll]
  exact firstValue_putAll saves s.properties name

-- The store that takes saves after it has started with the properties of a process, and what it
-- writes back onto the process.
structure Replays (p : WorkProcess) (saves : List Property) (s : Store) : Prop where
  history : s.history = saves
  names : s.properties.map (·.name) =
    p.properties.map (·.name) ++ newNames (saves.map (·.name)) (p.properties.map (·.name))
  get : ∀ name, s.get? name = (lastValue saves name).or ((p.property? name).map (·.value))
  -- Only the first property of a name is ever given a value.
  duplicates : ∀ i j (_ : j < i) (_ : i < p.properties.length),
    p.properties[j].name = p.properties[i].name → s.properties[i]? = some p.properties[i]
  applied : ∀ name, ((s.applyTo p).property? name).map (·.value) = s.get? name
  frame : { s.applyTo p with properties := p.properties } = p
  unchanged : saves = [] → s.applyTo p = p

-- A store is the replay of its history.
theorem replays_saveAll (p : WorkProcess) (saves : List Property) :
    Replays p saves ((ofProcess p).saveAll saves) where
  history := by
    rw [history_saveAll]
    rfl
  names := by
    rw [properties_saveAll]
    exact names_putAll saves p.properties
  get := get?_saveAll (ofProcess p) saves
  duplicates := by
    intro i j hj hi hname
    have hmem : p.properties[i].name ∈ (p.properties.take i).map (·.name) := by
      rw [← hname]
      exact List.mem_map.mpr ⟨_, List.mem_take_iff_getElem.mpr ⟨j, by omega, rfl⟩, rfl⟩
    rw [properties_saveAll]
    exact (getElem?_putAll saves p.properties hi).trans (by rw [if_pos hmem])
  applied := fun name => rfl
  frame := rfl
  unchanged := by
    rintro rfl
    rfl

end Store

end PropertyTemplates
