import PropertyTemplates.Text.Blank

namespace PropertyTemplates

namespace Variables

-- No name occurs twice.
def NoRepeats (entries : List (String × String)) : Prop := entries.Pairwise (·.1 ≠ ·.1)

-- The entries with the value of a name set; a new name goes to the end.
def put (name value : String) : List (String × String) → List (String × String)
  | [] => [(name, value)]
  | (other, old) :: rest =>
    if other = name then (name, value) :: rest else (other, old) :: put name value rest

variable {entries : List (String × String)} {name value : String}

theorem mem_names_put {other : String} :
    other ∈ (put name value entries).map Prod.fst ↔
      other = name ∨ other ∈ entries.map Prod.fst := by
  induction entries with
  | nil => simp [put]
  | cons e rest ih =>
      obtain ⟨first, old⟩ := e
      rw [put]
      by_cases hfirst : first = name
      · rw [if_pos hfirst, hfirst]
        simp
      · rw [if_neg hfirst, List.map_cons, List.mem_cons, ih, List.map_cons, List.mem_cons]
        exact or_left_comm

theorem noRepeats_put (h : NoRepeats entries) : NoRepeats (put name value entries) := by
  induction entries with
  | nil => exact List.pairwise_singleton _ _
  | cons e rest ih =>
      obtain ⟨first, old⟩ := e
      obtain ⟨hfirst, hrest⟩ := List.pairwise_cons.mp h
      rw [put]
      by_cases hname : first = name
      · rw [if_pos hname, ← hname]
        exact List.pairwise_cons.mpr ⟨hfirst, hrest⟩
      · rw [if_neg hname]
        refine List.pairwise_cons.mpr ⟨fun e he => ?_, ih hrest⟩
        have hmem : e.1 ∈ (put name value rest).map Prod.fst := List.mem_map_of_mem he
        rcases mem_names_put.mp hmem with heq | hmem
        · rw [heq]
          exact hname
        · obtain ⟨e', he', heq⟩ := List.mem_map.mp hmem
          rw [← heq]
          exact hfirst e' he'

end Variables

-- Named texts in the order in which their names first came up.
structure Variables where
  entries : List (String × String)
  noRepeats : Variables.NoRepeats entries
deriving DecidableEq, Repr

namespace Variables

def empty : Variables := ⟨[], .nil⟩

def size (v : Variables) : Nat := v.entries.length

def isEmpty (v : Variables) : Bool := v.entries.isEmpty

def get? (v : Variables) (name : String) : Option String := v.entries.lookup name

def insert (v : Variables) (name value : String) : Variables :=
  ⟨put name value v.entries, noRepeats_put v.noRepeats⟩

-- Sets names one after the other, so that the last value of a name stays.
def insertAll (v : Variables) (entries : List (String × String)) : Variables :=
  entries.foldl (fun v (name, value) => v.insert name value) v

def ofList (entries : List (String × String)) : Variables := empty.insertAll entries

-- The characters that the name of a variable may hold between its braces.
def isNameChar (c : Char) : Bool := c != '{' && c != '}' && !Text.isBlank c

-- The name in the token at the front of a text, and what follows the token.
def token? : List Char → Option (List Char × List Char)
  | '{' :: rest =>
    match rest.takeWhile isNameChar, rest.dropWhile isNameChar with
    | c :: name, '}' :: after => some (c :: name, after)
    | _, _ => none
  | _ => none

theorem length_of_token? {cs name rest : List Char} (h : token? cs = some (name, rest)) :
    rest.length < cs.length := by
  unfold token? at h
  split at h
  · rename_i tail
    split at h
    · rename_i after _ heq
      have hl := congrArg List.length heq
      have := (List.dropWhile_suffix isNameChar (l := tail)).length_le
      simp only [Option.some.injEq, Prod.mk.injEq] at h
      simp only [List.length_cons] at hl ⊢
      rw [← h.2]
      omega
    · simp at h
  · simp at h

-- Replaces the tokens of a text whose names are known. Other tokens stay as they are, and what is
-- put in is not looked at again.
def replaceIn (v : Variables) (cs : List Char) : List Char :=
  match _h : token? cs with
  | some (name, rest) =>
    match v.get? (String.ofList name) with
    | some value => value.toList ++ replaceIn v rest
    | none => '{' :: name ++ '}' :: replaceIn v rest
  | none =>
    match cs with
    | [] => []
    | c :: rest => c :: replaceIn v rest
termination_by cs.length
decreasing_by
  · exact length_of_token? ‹_›
  · exact length_of_token? ‹_›
  · simp

def replace (v : Variables) (text : String) : String := String.ofList (v.replaceIn text.toList)

end Variables

end PropertyTemplates
