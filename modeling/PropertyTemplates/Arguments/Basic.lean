namespace PropertyTemplates

-- What the run command is asked to do: the files it reads, what selects the section in place of
-- what the process says, whether the snapshot is untyped, and where the report goes.
structure RunOptions where
  snapshot : String
  pluginConfig : String
  project : Option String := none
  step : Option String := none
  raw : Bool := false
  output : Option String := none
deriving DecidableEq, Repr

structure ValidateOptions where
  pluginConfig : String
  project : Option String := none
  step : Option String := none
  strict : Bool := false
deriving DecidableEq, Repr

inductive Command where
  | run (options : RunOptions) (assignments : List String)
  | validate (options : ValidateOptions)
deriving DecidableEq, Repr

-- What the command line asks for.
structure Arguments where
  command : Command
  verbose : Bool := false
  noColor : Bool := false
  settingsFile : Option String := none
deriving DecidableEq, Repr

-- An option without a value.
inductive Switch where
  | verbose
  | noColor
  | raw
  | strict
  | help
  | version
deriving DecidableEq, Repr

-- An option with a value.
inductive Parameter where
  | settingsFile
  | snapshot
  | pluginConfig
  | project
  | step
  | assignment
  | output
deriving DecidableEq, Repr

inductive CommandOption where
  | switch (s : Switch)
  | parameter (p : Parameter)
deriving DecidableEq, Repr

inductive CommandName where
  | run
  | validate
deriving DecidableEq, Repr

-- Options before the name of a command are those of the program, later ones those of the command.
inductive Level where
  | program
  | command (name : CommandName)
deriving DecidableEq, Repr

-- An option as it is written after two dashes.
def CommandOption.long : CommandOption → String
  | .switch .verbose => "verbose"
  | .switch .noColor => "no-color"
  | .switch .raw => "raw"
  | .switch .strict => "strict"
  | .switch .help => "help"
  | .switch .version => "version"
  | .parameter .settingsFile => "config"
  | .parameter .snapshot => "process"
  | .parameter .pluginConfig => "plugin-config"
  | .parameter .project => "project"
  | .parameter .step => "step"
  | .parameter .assignment => "var"
  | .parameter .output => "output"

-- The letter that stands for an option after one dash.
def CommandOption.short : CommandOption → Option Char
  | .switch .verbose => some 'v'
  | .switch .help => some 'h'
  | .switch .version => some 'V'
  | .parameter .settingsFile => some 'c'
  | .parameter .assignment => some 'V'
  | .parameter .output => some 'o'
  | _ => none

def CommandName.word : CommandName → String
  | .run => "run"
  | .validate => "validate"

def commandNames : List CommandName := [.run, .validate]

def commonOptions : List CommandOption :=
  [.switch .verbose, .parameter .settingsFile, .switch .noColor, .switch .help]

namespace Level

-- The options that may be given at a level.
def options : Level → List CommandOption
  | .program => commonOptions ++ [.switch .version]
  | .command .run =>
    [.parameter .snapshot, .parameter .pluginConfig, .parameter .project, .parameter .step,
      .parameter .assignment, .switch .raw, .parameter .output] ++ commonOptions
  | .command .validate =>
    [.parameter .pluginConfig, .parameter .project, .parameter .step, .switch .strict] ++
      commonOptions

-- The parameters that must be given at a level.
def required : Level → List Parameter
  | .program => []
  | .command .run => [.snapshot, .pluginConfig]
  | .command .validate => [.pluginConfig]

def optionOfLong? (level : Level) (name : String) : Option CommandOption :=
  level.options.find? (·.long == name)

def optionOfShort? (level : Level) (letter : Char) : Option CommandOption :=
  level.options.find? (·.short == some letter)

end Level

-- A parameter that may be given more than once.
def Parameter.isRepeatable (p : Parameter) : Bool := p = .assignment

-- A parameter that names a file and therefore is not empty.
def Parameter.isPath (p : Parameter) : Bool :=
  [.settingsFile, .snapshot, .pluginConfig, .output].contains p

-- Why the arguments do not ask for a command. Help and version ask for a text instead.
inductive ArgumentError where
  | help (level : Level)
  | version
  | nothingGiven
  | noCommand
  | unknownCommand (word : String)
  | unknownArgument (text : String)
  | noValue (p : Parameter)
  | emptyPath (p : Parameter)
  | repeated (option : CommandOption)
  | unexpectedValue (s : Switch) (value : String)
  | missing (p : Parameter)
deriving DecidableEq, Repr

end PropertyTemplates
