import PropertyTemplates.Arguments.Basic
import PropertyTemplates.Command.Basic
import PropertyTemplates.Configuration.Inspection
import PropertyTemplates.Host.Basic
import PropertyTemplates.Settings

namespace PropertyTemplates

-- What is found in the sections that the options ask for: all of them, or the one that applies to a
-- project and a step.
def ValidateOptions.inspect (options : ValidateOptions) (settings : Settings)
    (config : Configuration) : Except ConfigurationError Inspection :=
  if options.project.isSome || options.step.isSome then do
    let project := chosen [options.project, settings.defaultProject]
    let step := chosen [options.step, settings.defaultStep]
    return .ofDefinitions (← config.definitionsFor project step)
  else config.inspect

-- The lines that show what was found.
def Inspection.lines (i : Inspection) : List String :=
  i.warnings.map (fun w => "⚠ " ++ w.message) ++ i.problems.map fun p => "✗ " ++ p.message

def validLines (path : String) (config : Configuration) : List String :=
  ["✓ Plugin config '" ++ path ++ "' is valid",
    "  Sections: " ++ String.ofList (Decimal.numeral config.sections.length)]

-- Checks a configuration without a process.
def validateCommand {m : Type → Type} [Monad m] (host : Host m) (settings : Settings)
    (options : ValidateOptions) : m (Except CommandError Unit) := do
  match Configuration.ofFile (← host.read options.pluginConfig) with
  | .error e => return .error (.rejectedConfig e)
  | .ok config =>
    match options.inspect settings config with
    | .error e => return .error (.configuration e)
    | .ok i =>
      host.printAll i.lines
      if i.isValid options.strict then
        host.printAll (validLines options.pluginConfig config)
        return .ok ()
      else return .error (.invalidConfig options.pluginConfig)

end PropertyTemplates
