import PropertyTemplates.Arguments.Basic
import PropertyTemplates.Variables.Assignment

namespace PropertyTemplates

-- The options read so far at a level, and a parameter whose value is not accepted yet: it may still
-- have to come, as the next argument.
structure Given where
  switches : List Switch := []
  values : List (Parameter × String) := []
  pending : Option (Parameter × Option String) := none
deriving DecidableEq, Repr

namespace Given

def isEmpty (g : Given) : Bool := g.switches.isEmpty && g.values.isEmpty

-- The next argument is the value of a parameter, unless it looks like an option.
def isAwaiting (g : Given) : Bool :=
  match g.pending with
  | some (_, none) => true
  | _ => false

def has (g : Given) (s : Switch) : Bool := g.switches.contains s

def value? (g : Given) (p : Parameter) : Option String := g.values.lookup p

def valuesOf (g : Given) (p : Parameter) : List String :=
  g.values.filterMap fun (q, value) => if q = p then some value else none

-- Accepts the value of a parameter, which may be missing.
def accept (g : Given) (p : Parameter) : Option String → Except ArgumentError Given
  | none => .error (.noValue p)
  | some value =>
    if (g.value? p).isSome && !p.isRepeatable then .error (.repeated (.parameter p))
    else if value.isEmpty && p.isPath then .error (.emptyPath p)
    else .ok { g with values := g.values ++ [(p, value)] }

-- Accepts the pending value.
def settle (g : Given) : Except ArgumentError Given :=
  match g.pending with
  | some (p, value) => { g with pending := none }.accept p value
  | none => .ok g

-- A parameter with its value in the same argument.
def give (g : Given) (p : Parameter) (value : String) : Except ArgumentError Given := do
  (← g.settle).accept p value

-- A parameter whose value is to follow.
def await (g : Given) (p : Parameter) : Except ArgumentError Given := do
  return { (← g.settle) with pending := some (p, none) }

def turnOn (g : Given) (level : Level) (s : Switch) : Except ArgumentError Given := do
  let g ← g.settle
  match s with
  | .help => .error (.help level)
  | .version => .error .version
  | s =>
    if g.has s then .error (.repeated (.switch s))
    else return { g with switches := s :: g.switches }

-- An option after two dashes, with what follows its first equals sign as its value.
def readLong (g : Given) (level : Level) (text : List Char) : Except ArgumentError Given :=
  let (name, value) := match splitAssignment text with
    | some (name, value) => (name, some (String.ofList value))
    | none => (text, none)
  match level.optionOfLong? (String.ofList name), value with
  | none, _ => .error (.unknownArgument ("--" ++ String.ofList name))
  | some (.switch s), some value => .error (.unexpectedValue s value)
  | some (.switch s), none => g.turnOn level s
  | some (.parameter p), some value => g.give p value
  | some (.parameter p), none => g.await p

-- Options after one dash. The letters after the one of a parameter are its value, with or without
-- an equals sign in front.
def readShort (level : Level) (g : Given) : List Char → Except ArgumentError Given
  | [] => .ok g
  | letter :: rest =>
    match level.optionOfShort? letter with
    | none => .error (.unknownArgument (String.ofList ['-', letter]))
    | some (.switch s) => do readShort level (← g.turnOn level s) rest
    | some (.parameter p) =>
      match rest with
      | [] => g.await p
      | '=' :: value => g.give p (String.ofList value)
      | value => g.give p (String.ofList value)

-- An argument that is neither an option nor the value of one.
def unexpected (level : Level) (text : String) : ArgumentError :=
  match level with
  | .program => .unknownCommand text
  | .command _ => .unknownArgument text

-- Reads an argument. A dash alone is not an option.
def read (g : Given) (level : Level) (text : String) : Except ArgumentError Given :=
  match text.toList with
  | '-' :: '-' :: rest => g.readLong level rest
  | '-' :: c :: rest => readShort level g (c :: rest)
  | _ =>
    match g.pending with
    | some (p, none) => .ok { g with pending := some (p, some text) }
    | _ => .error (unexpected level text)

-- Reads the arguments after the name of a command. Nothing may follow two dashes alone.
def readCommand (name : CommandName) : Given → List String → Except ArgumentError Given
  | g, [] => do
    let g ← g.settle
    match (Level.command name).required.find? fun p => (g.value? p).isNone with
    | some p => .error (.missing p)
    | none => return g
  | g, text :: rest => do
    if text = "--" then
      match rest with
      | [] => readCommand name g []
      | extra :: _ => .error (.unknownArgument extra)
    else readCommand name (← g.read (.command name) text) rest

end Given

def commandOfWord? (word : String) : Option CommandName := commandNames.find? (·.word == word)

def helpWord : String := "help"

-- What the words after the one for help ask for. Commands have no commands of their own.
def helpOn : List String → ArgumentError
  | [] => .help .program
  | word :: rest =>
    let level? := if word = helpWord then some .program else (commandOfWord? word).map .command
    match level?, rest with
    | some level, [] => .help level
    | some _, extra :: _ => .unknownCommand extra
    | none, _ => .unknownCommand word

namespace Arguments

def commandOf (name : CommandName) (g : Given) : Command :=
  let path p := (g.value? p).getD ""
  match name with
  | .run => .run {
      snapshot := path .snapshot
      pluginConfig := path .pluginConfig
      project := g.value? .project
      step := g.value? .step
      raw := g.has .raw
      output := g.value? .output } (g.valuesOf .assignment)
  | .validate => .validate {
      pluginConfig := path .pluginConfig
      project := g.value? .project
      step := g.value? .step
      strict := g.has .strict }

-- What the options of the program and of a command ask for. Where both give a value, that of the
-- command counts.
def ofGiven (outer : Given) (name : CommandName) (inner : Given) : Arguments where
  command := commandOf name inner
  verbose := inner.has .verbose || outer.has .verbose
  noColor := inner.has .noColor || outer.has .noColor
  settingsFile := (inner.value? .settingsFile).or (outer.value? .settingsFile)

-- Reads arguments up to the name of a command, and then those of the command.
def readFrom : Given → List String → Except ArgumentError Arguments
  | g, [] => do
    let g ← g.settle
    if g.isEmpty then .error .nothingGiven else .error .noCommand
  | g, text :: rest => do
    if !g.isAwaiting && text = helpWord then .error (helpOn rest)
    match if g.isAwaiting then none else commandOfWord? text with
    | some name =>
      let inner ← Given.readCommand name {} rest
      return ofGiven (← g.settle) name inner
    | none =>
      if text = "--" then
        match rest with
        | [] => readFrom g []
        | word :: _ =>
          if (commandOfWord? word).isSome || word = helpWord then .error (.unknownArgument word)
          else .error (.unknownCommand word)
      else readFrom (← g.read .program text) rest

-- Reads the arguments of the program.
def ofList (texts : List String) : Except ArgumentError Arguments := readFrom {} texts

end Arguments

end PropertyTemplates
