import PropertyTemplates.Arguments.Basic
import PropertyTemplates.Command.Basic
import PropertyTemplates.Host.Basic
import PropertyTemplates.Run.Basic
import PropertyTemplates.Run.Record
import PropertyTemplates.Settings
import PropertyTemplates.Work.Document

namespace PropertyTemplates

-- What properties are generated for: a root, the project that it names, and a store that starts
-- with the properties it has.
structure Subject where
  root : Object
  project : Option String
  store : Store

namespace Subject

def ofProcess (p : WorkProcess) : Subject := ⟨.process p, p.projectTitle, Store.ofProcess p⟩

-- An untyped root brings no properties along.
def ofTable (root : Object) : Subject :=
  ⟨root, (root.evaluate "projekt.titel").toOption.join, {}⟩

-- Reads a snapshot as a process, or as an untyped table.
def ofYaml (raw : Bool) (text : String) : Except DecodeError Subject :=
  if raw then (Object.tableOfYaml text).map ofTable else (WorkProcess.ofYaml text).map ofProcess

end Subject

-- The paths of the variables that describe the process itself.
def processPaths : List (String × String) :=
  [("processtitle", "titel"), ("processid", "id"), ("projectname", "projekt.titel")]

-- The variables that describe a root. Those whose path leads nowhere are left out.
def processTokens (root : Object) : List (String × String) :=
  processPaths.filterMap fun (name, path) => (root.evaluate path).toOption.join.map (name, ·)

-- The variables of a run. Those of the settings override those of the process.
def runVariables (settings : Settings) (root : Object) : Variables :=
  (Variables.ofList (processTokens root)).insertAll settings.values.entries

-- The definitions that apply to a subject.
def RunOptions.definitions (options : RunOptions) (config : Configuration) (settings : Settings)
    (subject : Subject) : Except CommandError (List Definition) := do
  let project := chosen [options.project, subject.project, settings.defaultProject]
  let step := chosen [options.step, settings.defaultStep]
  let s ← (config.sectionFor project step).mapError .configuration
  s.definitions.mapError .unusableSection

-- The report of a run on the text of a snapshot.
def RunOptions.report (options : RunOptions) (config : Configuration) (settings : Settings)
    (snapshot : String) : Except CommandError Report := do
  let subject ← (Subject.ofYaml options.raw snapshot).mapError fun e => .malformedSnapshot e.message
  let definitions ← options.definitions config settings subject
  let values := runVariables settings subject.root
  return (Definition.execute definitions subject.root values.replace
    (Store.saving fun _ => none) subject.store).1

namespace Report

-- The lines that show what a run generated.
def lines (r : Report) : List String :=
  r.entries.filterMap fun e => e.value.map fun value => e.name ++ " = " ++ value

def outcomeLine (r : Report) (run : String) : String :=
  "Run " ++ run ++ " finished with outcome: " ++ r.outcome.word

-- What a run answers in the end. The first property with an error says why it failed.
def answer (r : Report) : Except CommandError Unit :=
  match r.outcome with
  | .finish => .ok ()
  | .error =>
    match r.failure? with
    | some (property, error) => .error (.generation property error)
    | none => .error .unexplained

end Report

section

variable {m : Type → Type} [Monad m]

-- The report of a run on the files of a host.
def RunOptions.load (options : RunOptions) (host : Host m) (settings : Settings) :
    m (Except CommandError Report) := do
  match Configuration.ofFile (← host.read options.pluginConfig) with
  | .error e => return .error (.pluginConfig options.pluginConfig e)
  | .ok config =>
    match ← host.read options.snapshot with
    | .error cause => return .error (.unreadableSnapshot options.snapshot cause)
    | .ok snapshot => return options.report config settings snapshot

-- Writes a report where the options say, if they do.
def RunOptions.writeReport (options : RunOptions) (host : Host m) (stamp : Stamp) (r : Report) :
    m (Except CommandError Unit) := do
  match options.output with
  | none => return .ok ()
  | some path => return (← host.write path (r.toJson stamp).toText).mapError (.unwrittenReport path)

-- Says how a run ended.
def Report.close (r : Report) (host : Host m) (run : String) : m (Except CommandError Unit) := do
  host.print (r.outcomeLine run)
  return r.answer

-- Prints what a run generated, writes its report and says how it ended.
def RunOptions.deliver (options : RunOptions) (host : Host m) (stamp : Stamp) (r : Report) :
    m (Except CommandError Unit) := do
  host.printAll r.lines
  match ← options.writeReport host stamp r with
  | .error e => return .error e
  | .ok () => r.close host stamp.run

-- Names a run and takes the time at its start and at its end.
def Host.stamp (host : Host m) : m Stamp := do
  let run ← host.newName
  let start ← host.now
  let finish ← host.now
  return ⟨run, start, finish⟩

-- Generates the configured properties for a snapshot, prints them and reports on them. A run that
-- cannot be loaded is given no name.
def runCommand (host : Host m) (settings : Settings) (options : RunOptions) :
    m (Except CommandError Unit) := do
  match ← options.load host settings with
  | .error e => return .error e
  | .ok r => options.deliver host (← host.stamp) r

end

end PropertyTemplates
