import PropertyTemplates.Instant

namespace PropertyTemplates

-- The state of a step in its workflow.
inductive StepStatus where
  | locked
  | open
  | inWork
  | done
  | error
  | deactivated
deriving DecidableEq, Repr

namespace StepStatus

def all : List StepStatus := [.locked, .open, .inWork, .done, .error, .deactivated]

-- The number that stands for a status.
def code : StepStatus → Int
  | .locked => 0
  | .open => 1
  | .inWork => 2
  | .done => 3
  | .error => 4
  | .deactivated => 5

-- The word that stands for a status.
def word : StepStatus → String
  | .locked => "LOCKED"
  | .open => "OPEN"
  | .inWork => "INWORK"
  | .done => "DONE"
  | .error => "ERROR"
  | .deactivated => "DEACTIVATED"

def ofWord? (word : String) : Option StepStatus := all.find? (·.word == word)

end StepStatus

structure Project where
  id : Int64
  title : String
deriving DecidableEq

structure User where
  id : Int64
  login : String
  firstName : String
  lastName : String
  location : Option String
  email : Option String
deriving DecidableEq

-- The last name, then the first name.
def User.fullName (u : User) : String := u.lastName ++ ", " ++ u.firstName

structure Step where
  id : Int64
  title : String
  order : Int32
  status : StepStatus
  editor : Option User
  startedAt : Option Instant
  finishedAt : Option Instant
deriving DecidableEq

-- A named value. Lists of properties may hold a name more than once.
structure Property where
  name : String
  value : String
deriving DecidableEq, Repr

-- A unit of work with its steps and the properties it has gathered.
structure WorkProcess where
  id : Int64
  title : String
  project : Option Project
  steps : List Step
  properties : List Property
  createdAt : Option Instant
  isTemplate : Bool
deriving DecidableEq

namespace WorkProcess

def projectTitle (p : WorkProcess) : Option String := p.project.map (·.title)

-- The first property of a name.
def property? (p : WorkProcess) (name : String) : Option Property :=
  p.properties.find? (·.name == name)

-- The first step of a title.
def step? (p : WorkProcess) (title : String) : Option Step := p.steps.find? (·.title == title)

end WorkProcess

end PropertyTemplates
