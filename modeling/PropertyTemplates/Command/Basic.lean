import PropertyTemplates.Configuration.Document

namespace PropertyTemplates

-- The first of several choices that was made; where none was, everything is chosen.
def chosen (choices : List (Option String)) : String := (choices.findSome? id).getD wildcard

-- Why a command fails.
inductive CommandError where
  | pluginConfig (path : String) (cause : ConfigurationError)
  -- The cause is the system's own text.
  | unreadableSnapshot (path cause : String)
  | malformedSnapshot (cause : String)
  | configuration (cause : ConfigurationError)
  | unusableSection (cause : ConfigurationError)
  | unwrittenReport (path cause : String)
  | generation (property error : String)
  -- The run failed, but no property says why.
  | unexplained
  | rejectedConfig (cause : ConfigurationError)
  | invalidConfig (path : String)
deriving DecidableEq, Repr

-- The texts of an error and of what caused it, the outermost first.
def ConfigurationError.chain (e : ConfigurationError) : List String :=
  e.message :: match e with
    | .unreadable cause => [cause]
    | .malformed cause => [cause]
    | .badRule rule => [rule.cause.message]
    | _ => []

namespace CommandError

def message : CommandError → String
  | .pluginConfig path _ => "Failed to load plugin config '" ++ path ++ "'"
  | .unreadableSnapshot path _ => "Failed to read process snapshot '" ++ path ++ "'"
  | .malformedSnapshot _ => "Failed to parse process snapshot"
  | .configuration cause => cause.message
  | .unusableSection cause => "Configuration error: " ++ cause.message
  | .unwrittenReport path cause => "Failed to write output file '" ++ path ++ "': " ++ cause
  | .generation property error =>
    "Property generation failed at '" ++ property ++ "': " ++ error
  | .unexplained => "Property generation failed"
  | .rejectedConfig cause => "Plugin config validation failed: " ++ cause.message
  | .invalidConfig path => "Plugin config '" ++ path ++ "' is invalid"

-- The texts of a failure from the outermost to the innermost cause. Some messages have taken in
-- the text of their cause.
def chain (e : CommandError) : List String :=
  e.message :: match e with
    | .pluginConfig _ cause => cause.chain
    | .unreadableSnapshot _ cause => [cause]
    | .malformedSnapshot cause => [cause]
    | .configuration cause => cause.chain.tail
    | .unusableSection cause => cause.chain
    | _ => []

end CommandError

end PropertyTemplates
