import PropertyTemplates.Host.Basic

namespace PropertyTemplates

-- A working directory with the texts of its files by their names, and the lines printed so far.
structure Folder where
  files : List (List String × String) := []
  printed : List String := []
deriving DecidableEq, Repr

namespace Folder

def notFound : String := "no such file or directory"

def notAFile : String := "is a directory"

def put (place : List String) (text : String) :
    List (List String × String) → List (List String × String)
  | [] => [(place, text)]
  | (other, old) :: rest =>
    if other = place then (place, text) :: rest else (other, old) :: put place text rest

-- A directory is there for as long as a file is below it.
def isDirectory (f : Folder) (place : List String) : Bool :=
  place.isEmpty || f.files.any fun (name, _) => place.isPrefixOf name && name != place

-- Follows the steps of a path from a directory. The last step may lead to what is not there yet.
def follow (f : Folder) (place : List String) : List String → Option (List String)
  | [] => some place
  | step :: steps =>
    if !f.isDirectory place then none
    else if step = "" ∨ step = "." then f.follow place steps
    else if step = ".." then if place.isEmpty then none else f.follow place.dropLast steps
    else f.follow (place ++ [step]) steps

-- Where a path leads within the working directory.
def place? (f : Folder) (path : String) : Option (List String) :=
  match path.splitOn "/" with
  | "" :: _ => none
  | steps => f.follow [] steps

def isPresent (f : Folder) (path : String) : Bool :=
  (f.place? path).any fun place => f.isDirectory place || (f.files.lookup place).isSome

def read (f : Folder) (path : String) : Except String String :=
  match f.place? path with
  | none => .error notFound
  | some place =>
    if f.isDirectory place then .error notAFile
    else match f.files.lookup place with
      | some text => .ok text
      | none => .error notFound

def write (f : Folder) (path text : String) : Except String Folder :=
  match f.place? path with
  | none => .error notFound
  | some place =>
    if f.isDirectory place then .error notAFile
    else .ok { f with files := put place text f.files }

def print (f : Folder) (line : String) : Folder := { f with printed := f.printed ++ [line] }

-- A folder with files of the given names.
def ofFiles (files : List (String × String)) : Folder where
  files := files.foldl (fun files (name, text) => put (name.splitOn "/") text files) []

-- The folder as the system that the program runs on. Complaints are lost, and time stands still.
def host (environment : String → Option String) (name : String) (now : Nat) :
    Host (StateM Folder) where
  isPresent path f := (f.isPresent path, f)
  read path f := (f.read path, f)
  write path text f :=
    match f.write path text with
    | .ok f => (.ok (), f)
    | .error cause => (.error cause, f)
  print line f := ((), f.print line)
  complain _ f := ((), f)
  environment name f := (environment name, f)
  newName f := (name, f)
  now f := (now, f)

end Folder

end PropertyTemplates
