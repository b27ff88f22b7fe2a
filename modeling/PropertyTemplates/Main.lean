import PropertyTemplates.Application
import Std.Time.DateTime.Timestamp

namespace PropertyTemplates

-- Sixteen random bytes as the name of a run: groups of 8, 4, 4, 4 and 12 digits in base sixteen,
-- with the two marks of a random name.
def randomName : IO String := do
  let bytes := (← IO.getRandomBytes 16).toList.map UInt8.toNat
  let marked := bytes.mapIdx fun i b =>
    if i = 6 then 64 + b % 16 else if i = 8 then 128 + b % 64 else b
  let digits (b : Nat) := [Nat.digitChar (b / 16), Nat.digitChar (b % 16)]
  let group (first count : Nat) := ((marked.drop first).take count).flatMap digits
  return String.intercalate "-"
    ([group 0 4, group 4 2, group 6 2, group 8 2, group 10 6].map String.ofList)

-- The system itself as the host.
def systemHost : Host IO where
  isPresent path := (System.mkFilePath [path]).pathExists
  read path := do
    match ← (IO.FS.readFile path).toBaseIO with
    | .ok text => return .ok text
    | .error e => return .error (toString e)
  write path text := do
    match ← (IO.FS.writeFile path text).toBaseIO with
    | .ok () => return .ok ()
    | .error e => return .error (toString e)
  print line := IO.println line
  complain line := IO.eprintln line
  environment name := IO.getEnv name
  newName := randomName
  now := return (← Std.Time.Timestamp.now).toNanosecondsSinceUnixEpoch.val.toNat

end PropertyTemplates

def main (arguments : List String) : IO UInt32 := do
  return (← PropertyTemplates.Application.run PropertyTemplates.systemHost arguments).toUInt32
