import PropertyTemplates.Variables
import PropertyTemplates.Yaml.Decoding

namespace PropertyTemplates

open Yaml Reader

-- How much is logged, and in which form.
structure Logging where
  level : String := "info"
  format : String := "pretty"
deriving DecidableEq, Repr

-- What holds for every run of the program.
structure Settings where
  values : Variables := .empty
  logging : Logging := {}
  defaultProject : Option String := none
  defaultStep : Option String := none
deriving DecidableEq, Repr

-- Why settings cannot be used.
inductive SettingsError where
  -- The file cannot be read; the cause is the system's own text.
  | unreadable (cause : String)
  | malformed (cause : DecodeError)
deriving DecidableEq, Repr

def SettingsError.message : SettingsError → String
  | .unreadable cause => cause
  | .malformed cause => cause.message

-- The files in which settings are looked for, in this order.
def settingsFiles : List String :=
  ["property-generator.yaml", "property-generator.yml",
    ".property-generator.yaml", ".property-generator.yml"]

def readVariables (node : Node) : Except Mismatch Variables := do
  let fields ← Node.reader.readFields node
  return .ofList (← fields.mapM fun (name, value) => return (name, ← Node.reader.readText value))

-- Logging is given whole or not at all.
def Logging.read (node : Node) : Except Mismatch Logging := do
  let fields ← Node.reader.readFields node
  return {
    level := ← required fields ["level"] Node.reader.readText
    format := ← required fields ["format"] Node.reader.readText }

namespace Settings

def read (node : Node) : Except Mismatch Settings := do
  let fields ← Node.reader.readFields node
  let text := Node.reader.readOptional Node.reader.readText
  return {
    values := ← optional fields ["template_vars"] .empty readVariables
    logging := ← optional fields ["logging"] {} Logging.read
    defaultProject := ← optional fields ["default_project"] none text
    defaultStep := ← optional fields ["default_step"] none text }

-- Reads the settings in a file, given the file's text or why it cannot be read.
def ofFile (content : Except String String) : Except SettingsError Settings := do
  (Yaml.decode read (← content.mapError .unreadable)).mapError .malformed

-- The logging that the environment asks for takes the place of the configured one.
def withLogging (s : Settings) (level format : Option String) : Settings :=
  { s with logging := ⟨level.getD s.logging.level, format.getD s.logging.format⟩ }

-- Other variables override those of the settings.
def withVariables (s : Settings) (v : Variables) : Settings :=
  { s with values := s.values.insertAll v.entries }

end Settings

end PropertyTemplates
