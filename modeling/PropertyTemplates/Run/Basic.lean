import PropertyTemplates.Configuration.Basic
import PropertyTemplates.Run.Report
import PropertyTemplates.Run.Store

namespace PropertyTemplates

-- Why a run stops.
inductive RunError where
  | generation (property : String) (cause : ExpansionError)
  | storage (property : String) (cause : Refusal)
  | configuration (cause : ConfigurationError)
deriving DecidableEq, Repr

def RunError.message : RunError → String
  | .generation property cause =>
    "Property generation failed: " ++ property ++ " - " ++ cause.message
  | .storage property cause => "Failed to store property " ++ property ++ ": " ++ cause.reason
  | .configuration cause => "Configuration error: " ++ cause.message

-- The property whose failure stopped the run.
def RunError.property? : RunError → Option String
  | .generation property _ => some property
  | .storage property _ => some property
  | .configuration _ => none

-- What a run yields: its report, the error that stopped it if there was one, and the store.
structure RunResult (σ : Type) where
  report : Report
  failure : Option RunError
  store : σ

namespace Definition

variable {σ : Type}

-- Generates a property and saves it. Nothing is saved where it cannot be generated.
def generateInto (d : Definition) (root : Object) (replacer : String → String) (save : Saving σ)
    (store : σ) : Except RunError String × σ :=
  match d.generate root replacer with
  | .error cause => (.error (.generation d.name cause), store)
  | .ok value =>
    match save store ⟨d.name, value⟩ with
    | (.ok (), store) => (.ok value, store)
    | (.error cause, store) => (.error (.storage d.name cause), store)

-- Generates properties in order up to the first failure. The rest is skipped.
def generateAll (root : Object) (replacer : String → String) (save : Saving σ) :
    σ → List Definition → List ReportEntry × Option RunError × σ
  | store, [] => ([], none, store)
  | store, d :: ds =>
    match d.generateInto root replacer save store with
    | (.ok value, store) =>
      let (entries, failure, store) := generateAll root replacer save store ds
      (.generated d.name value :: entries, failure, store)
    | (.error e, store) =>
      (.failed d.name e.message :: ds.map fun d => .skipped d.name, some e, store)

-- Runs definitions against a root.
def runAll (ds : List Definition) (root : Object) (replacer : String → String) (save : Saving σ)
    (store : σ) : RunResult σ :=
  let (entries, failure, store) := generateAll root replacer save store ds
  ⟨({ process := root.render, entries } : Report).complete, failure, store⟩

-- The report of a run, whether it finished or failed, and the store after it.
def execute (ds : List Definition) (root : Object) (replacer : String → String) (save : Saving σ)
    (store : σ) : Report × σ :=
  let result := runAll ds root replacer save store
  (result.report, result.store)

-- The report of a run that finished or the error that stopped it, and the store after it.
def run (ds : List Definition) (root : Object) (replacer : String → String) (save : Saving σ)
    (store : σ) : Except RunError Report × σ :=
  let result := runAll ds root replacer save store
  match result.failure with
  | some e => (.error e, result.store)
  | none => (.ok result.report, result.store)

end Definition

end PropertyTemplates
