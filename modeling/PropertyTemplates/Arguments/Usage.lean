import PropertyTemplates.Arguments.Basic

namespace PropertyTemplates

def programName : String := "property-generator"

def programVersion : String := "0.1.0"

-- What an option is for at a level.
def CommandOption.about (level : Level) : CommandOption → String
  | .switch .verbose => "Enable verbose output"
  | .switch .noColor => "Disable colored output"
  | .switch .raw => "Treat the snapshot as an untyped YAML mapping"
  | .switch .strict => "Treat warnings as errors"
  | .switch .help => "Print help"
  | .switch .version => "Print version"
  | .parameter .settingsFile => "Path to configuration file"
  | .parameter .snapshot => "Path to process snapshot YAML file"
  | .parameter .pluginConfig => "Path to plugin configuration YAML file"
  | .parameter .project =>
    if level = .command .validate then "Only validate the section selected for this project"
    else "Project name used to select the config section"
  | .parameter .step =>
    if level = .command .validate then "Only validate the section selected for this step"
    else "Step name used to select the config section"
  | .parameter .assignment => "Generic variables for \x7bname\x7d replacement (key=value)"
  | .parameter .output => "Write the JSON run report to this file"

-- What stands for the value of a parameter in a usage text.
def Parameter.placeholder : Parameter → String
  | .settingsFile => "<CONFIG>"
  | .snapshot => "<PROCESS>"
  | .pluginConfig => "<PLUGIN_CONFIG>"
  | .project => "<PROJECT>"
  | .step => "<STEP>"
  | .assignment => "<VARS>"
  | .output => "<OUTPUT>"

def CommandName.about : CommandName → String
  | .run => "Generate the configured properties for a process snapshot"
  | .validate => "Validate a plugin configuration without touching a process"

def CommandOption.usage (o : CommandOption) : String :=
  match o with
  | .switch _ => "--" ++ o.long
  | .parameter p => "--" ++ o.long ++ " " ++ p.placeholder

-- How an option is written, with the letter that stands for it if there is one.
def CommandOption.forms (o : CommandOption) : String :=
  match o.short with
  | some letter => String.ofList ['-', letter, ',', ' '] ++ o.usage
  | none => "    " ++ o.usage

-- Lines of two columns, the first as wide as its widest entry.
def columns (rows : List (String × String)) : List String :=
  let width := rows.foldl (fun w (left, _) => max w left.length) 0
  rows.map fun (left, right) =>
    "  " ++ left ++ String.ofList (List.replicate (width - left.length + 2) ' ') ++ right

namespace Level

def about : Level → String
  | .program => "Generate process properties from templates, object paths and regex rules"
  | .command name => name.about

def usageLine (level : Level) : String :=
  match level with
  | .program => "Usage: " ++ programName ++ " [OPTIONS] <COMMAND>"
  | .command name =>
    String.intercalate " " ("Usage:" :: programName :: name.word :: "[OPTIONS]" ::
      level.required.map fun p => (CommandOption.parameter p).usage)

def commandLines : Level → List String
  | .program =>
    "Commands:" :: columns (commandNames.map fun name => (name.word, name.about)) ++ [""]
  | .command _ => []

-- The help text of a level.
def helpLines (level : Level) : List String :=
  [level.about, "", level.usageLine, ""] ++ level.commandLines ++
    "Options:" :: columns (level.options.map fun o => (o.forms, o.about level))

end Level

def versionLine : String := programName ++ " " ++ programVersion

namespace ArgumentError

def message : ArgumentError → String
  | .help level => level.usageLine
  | .version => versionLine
  | .nothingGiven => "nothing is asked for"
  | .noCommand => "a command is required but none was given"
  | .unknownCommand word => "unrecognized command '" ++ word ++ "'"
  | .unknownArgument text => "unexpected argument '" ++ text ++ "'"
  | .noValue p => "a value is required for '" ++ (CommandOption.parameter p).usage ++ "'"
  | .emptyPath p => "the value of '" ++ (CommandOption.parameter p).usage ++ "' may not be empty"
  | .repeated option => "the argument '" ++ option.usage ++ "' cannot be used more than once"
  | .unexpectedValue s value =>
    "unexpected value '" ++ value ++ "' for '" ++ (CommandOption.switch s).usage ++ "'"
  | .missing p =>
    "the required argument '" ++ (CommandOption.parameter p).usage ++ "' was not given"

-- What the program prints, where its arguments ask for a text.
def output? : ArgumentError → Option (List String)
  | .help level => some level.helpLines
  | .version => some [versionLine]
  | _ => none

-- The exit code of the program, which has done what it was asked for if that was a text.
def exitCode (e : ArgumentError) : Nat := if e.output?.isSome then 0 else 2

end ArgumentError

end PropertyTemplates
