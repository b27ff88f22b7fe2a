import PropertyTemplates.Template.Expansion

namespace PropertyTemplates

-- How the value of a property is made.
structure Definition where
  name : String
  template : String
  rules : List Rule
deriving DecidableEq, Repr

-- An entry of a configuration as it is written; the name or the template may be absent.
structure Entry where
  name : Option String
  template : Option String
  rules : List Rule
deriving DecidableEq, Repr

-- What an entry at a position of its list lacks.
inductive EntryError where
  | noName (position : Nat)
  | noTemplate (position : Nat) (name : String)
deriving DecidableEq, Repr

-- The field that is missing.
def EntryError.field : EntryError → String
  | .noName position => "property[" ++ String.ofList (Decimal.numeral position) ++ "].name"
  | .noTemplate position name =>
    "property[" ++ String.ofList (Decimal.numeral position) ++ "].value ('" ++ name ++ "')"

-- Rule number `position` of a definition cannot be applied.
structure BadRule where
  property : String
  position : Nat
  cause : RuleError
deriving DecidableEq, Repr

namespace Definition

def ofEntry (position : Nat) (e : Entry) : Except EntryError Definition :=
  match e.name, e.template with
  | none, _ => .error (.noName position)
  | some name, none => .error (.noTemplate position name)
  | some name, some template => .ok ⟨name, template, e.rules⟩

-- The definitions of the entries from a position on, in the same order.
def ofEntriesFrom (position : Nat) : List Entry → Except EntryError (List Definition)
  | [] => .ok []
  | e :: entries => do
    let d ← ofEntry position e
    return d :: (← ofEntriesFrom (position + 1) entries)

def ofEntries (entries : List Entry) : Except EntryError (List Definition) :=
  ofEntriesFrom 0 entries

-- Reads the rules of a property from a position on.
def checkRulesFrom (property : String) (position : Nat) : List Rule → Except BadRule Unit
  | [] => .ok ()
  | r :: rules =>
    match r.compile with
    | .error cause => .error ⟨property, position, cause⟩
    | .ok _ => checkRulesFrom property (position + 1) rules

-- Reads every rule, instead of when the property is generated.
def checkRules (d : Definition) : Except BadRule Unit := checkRulesFrom d.name 0 d.rules

-- The value of the property for a root.
def generate (d : Definition) (root : Object) (replacer : String → String) :
    Except ExpansionError String :=
  expand root defaultRounds replacer d.rules d.template

end Definition

end PropertyTemplates
