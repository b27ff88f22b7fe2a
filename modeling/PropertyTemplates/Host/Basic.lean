namespace PropertyTemplates

-- What the program asks of the system that it runs on. Refusals carry the system's own text.
structure Host (m : Type → Type) where
  isPresent : String → m Bool
  read : String → m (Except String String)
  write : String → String → m (Except String Unit)
  -- A line of output.
  print : String → m Unit
  -- A line of what goes wrong, kept apart from the output.
  complain : String → m Unit
  -- A variable of the environment.
  environment : String → m (Option String)
  -- A text that names a run and no other.
  newName : m String
  -- The nanoseconds since the start of 1970 in UTC.
  now : m Nat

-- Prints lines in order.
def Host.printAll {m : Type → Type} [Monad m] (host : Host m) : List String → m Unit
  | [] => pure ()
  | line :: lines => do
    host.print line
    host.printAll lines

end PropertyTemplates
