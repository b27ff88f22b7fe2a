import PropertyTemplates.Arguments.Reading
import PropertyTemplates.Arguments.Usage
import PropertyTemplates.Command.Run
import PropertyTemplates.Command.Validate

namespace PropertyTemplates

-- Why the program fails although its arguments ask for a command.
inductive ApplicationError where
  | settings (cause : SettingsError)
  | assignment (cause : BadAssignment)
  | command (cause : CommandError)
deriving DecidableEq, Repr

def ApplicationError.chain : ApplicationError → List String
  | .settings cause => [cause.message]
  | .assignment cause => [cause.message]
  | .command cause => cause.chain

namespace Application

variable {m : Type → Type} [Monad m]

-- The first of several files that is there.
def firstPresent (host : Host m) : List String → m (Option String)
  | [] => return none
  | path :: paths => do if ← host.isPresent path then return some path else firstPresent host paths

-- The settings in a file, or in the first of the usual files that is there. A file that is not
-- there settles nothing.
def readSettings (host : Host m) (path : Option String) : m (Except SettingsError Settings) := do
  match ← firstPresent host (path.elim settingsFiles ([·])) with
  | some path => return Settings.ofFile (← host.read path)
  | none => return .ok {}

-- The settings of the program, with the logging that the environment asks for.
def loadSettings (host : Host m) (path : Option String) : m (Except SettingsError Settings) := do
  match ← readSettings host path with
  | .error e => return .error e
  | .ok settings =>
    let level ← host.environment "PROPERTY_GENERATOR_LOG_LEVEL"
    let format ← host.environment "PROPERTY_GENERATOR_LOG_FORMAT"
    return .ok (settings.withLogging level format)

-- Carries out a command. Variables given for it override those of the settings.
def perform (host : Host m) (settings : Settings) : Command → m (Except ApplicationError Unit)
  | .run options assignments => do
    match Variables.ofAssignments assignments with
    | .error e => return .error (.assignment e)
    | .ok values =>
      return (← runCommand host (settings.withVariables values) options).mapError .command
  | .validate options => return (← validateCommand host settings options).mapError .command

-- Does what the arguments ask for.
def execute (host : Host m) (arguments : Arguments) : m (Except ApplicationError Unit) := do
  match ← loadSettings host arguments.settingsFile with
  | .error e => return .error (.settings e)
  | .ok settings => perform host settings arguments.command

-- Says what went wrong and why.
def complain (host : Host m) : List String → m Unit
  | [] => pure ()
  | text :: causes => do
    host.complain ("Error: " ++ text)
    for cause in causes do
      host.complain ("  caused by: " ++ cause)

def success : Nat := 0

def failure : Nat := 1

-- Runs the program on its arguments and gives its exit code.
def run (host : Host m) (arguments : List String) : m Nat := do
  match Arguments.ofList arguments with
  | .error e =>
    match e.output? with
    | some lines => host.printAll lines
    | none => host.complain ("error: " ++ e.message)
    return e.exitCode
  | .ok arguments =>
    match ← execute host arguments with
    | .ok () => return success
    | .error e =>
      complain host e.chain
      return failure

end Application

end PropertyTemplates
