import PropertyTemplates.Value.Basic
import PropertyTemplates.Work.Snapshot
import PropertyTemplates.Yaml.Decoding

namespace PropertyTemplates

def WorkProcess.ofYaml (text : String) : Except DecodeError WorkProcess :=
  Yaml.decode (WorkProcess.read Yaml.Node.reader) text

namespace Object

-- Reads a snapshot as a process.
def processOfYaml (text : String) : Except DecodeError Object :=
  (WorkProcess.ofYaml text).map .process

-- Reads a snapshot as an untyped table.
def tableOfYaml (text : String) : Except DecodeError Object :=
  (Yaml.decode Yaml.readTable text).map .table

-- An untyped node as a root; null stands for an empty table.
def tableOfData? (d : Data) : Option Object :=
  match d.untagged with
  | .table entries => some (.table entries)
  | .null => some (.table [])
  | _ => none

end Object

end PropertyTemplates
