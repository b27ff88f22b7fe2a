import PropertyTemplates.Work.Basic

namespace PropertyTemplates

-- The properties of a process while they are generated, and every save so far.
structure Store where
  properties : List Property := []
  history : List Property := []
deriving DecidableEq, Repr

-- Why a store does not take a property.
structure Refusal where
  reason : String
deriving DecidableEq, Repr

-- How properties are kept: whether a save is accepted, and the store after it. A store may change
-- even where it refuses a save.
def Saving (σ : Type) := σ → Property → Except Refusal Unit × σ

namespace Store

-- Starts with the properties of a process, duplicates included.
def ofProcess (p : WorkProcess) : Store := { properties := p.properties }

-- Gives the first property of a name a new value, or appends the property.
def put (q : Property) : List Property → List Property
  | [] => [q]
  | p :: rest => if p.name = q.name then q :: rest else p :: put q rest

def save (s : Store) (q : Property) : Store := ⟨put q s.properties, s.history ++ [q]⟩

def get? (s : Store) (name : String) : Option String :=
  (s.properties.find? (·.name == name)).map (·.value)

-- Writes the properties back onto a process.
def applyTo (s : Store) (p : WorkProcess) : WorkProcess := { p with properties := s.properties }

-- Saves properties unless their names are refused.
def saving (refused : String → Option Refusal) : Saving Store := fun s q =>
  match refused q.name with
  | some refusal => (.error refusal, s)
  | none => (.ok (), s.save q)

end Store

end PropertyTemplates
