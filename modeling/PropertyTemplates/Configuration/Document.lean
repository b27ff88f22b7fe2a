import PropertyTemplates.Configuration.Basic
import PropertyTemplates.Yaml.Decoding

namespace PropertyTemplates

open Yaml Reader

def Rule.read (node : Node) : Except Mismatch Rule := do
  let fields ← Node.reader.readFields node
  return {
    pattern := ← optional fields ["regex"] "" Node.reader.readText
    replacement := ← optional fields ["replacement"] "" Node.reader.readText }

def Entry.read (node : Node) : Except Mismatch Entry := do
  let fields ← Node.reader.readFields node
  let text := Node.reader.readOptional Node.reader.readText
  return {
    name := ← optional fields ["name"] none text
    template := ← optional fields ["value"] none text
    rules := ← optional fields ["replace"] [] (Node.reader.readList Rule.read) }

namespace Section

-- The names that a section applies to: a text or a list of texts. What looks like a number or any
-- other value is not taken for a text here.
def readNames (node : Node) : Except Mismatch (List String) := do
  match ← node.toData with
  | .text name => return [name]
  | .list items =>
    expect "a list of texts" (items.mapM fun
      | .text name => some name
      | _ => none)
  | _ => .error (.expected "a text or a list of texts")

def read (node : Node) : Except Mismatch Section := do
  let fields ← Node.reader.readFields node
  return {
    projects := ← optional fields ["project"] [wildcard] readNames
    steps := ← optional fields ["step"] [wildcard] readNames
    entries := ← optional fields ["property"] [] (Node.reader.readList Entry.read) }

end Section

namespace Configuration

def read (node : Node) : Except Mismatch Configuration := do
  let fields ← Node.reader.readFields node
  return { sections := ← optional fields ["config"] [] (Node.reader.readList Section.read) }

-- Reads a configuration, which has a section at least.
def ofYaml (text : String) : Except ConfigurationError Configuration := do
  let c ← (Yaml.decode read text).mapError fun e => .malformed e.message
  if c.sections.isEmpty then .error .noSections else return c

-- Reads the configuration in a file, given the file's text or why it cannot be read.
def ofFile (content : Except String String) : Except ConfigurationError Configuration := do
  ofYaml (← content.mapError .unreadable)

end Configuration

end PropertyTemplates
