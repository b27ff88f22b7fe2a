namespace PropertyTemplates

-- A piece of a template: text that stands for itself, or the inside of a placeholder.
inductive Token where
  | literal (text : String)
  | placeholder (inner : String)
deriving DecidableEq, Repr

namespace Token

def isPlaceholder : Token → Bool
  | .literal _ => false
  | .placeholder _ => true

-- Splits what follows an opening pair of braces at the first closing pair on the same line.
def closing? : List Char → Option (List Char × List Char)
  | [] => none
  | c :: rest =>
    if c = '\n' then none
    else match c, rest with
      | '}', '}' :: rest => some ([], rest)
      | _, _ => (closing? rest).map fun (inner, rest) => (c :: inner, rest)

-- The inside of the placeholder at the front of a text, and what follows it.
def front? : List Char → Option (List Char × List Char)
  | '{' :: '{' :: rest => closing? rest
  | _ => none

theorem length_of_closing? {cs inner rest : List Char} (h : closing? cs = some (inner, rest)) :
    rest.length < cs.length := by
  induction cs generalizing inner with
  | nil => simp [closing?] at h
  | cons c cs ih =>
    unfold closing? at h
    split at h
    · simp at h
    · split at h
      · simp only [Option.some.injEq, Prod.mk.injEq] at h
        obtain ⟨_, rfl⟩ := h
        simp only [List.length_cons]
        omega
      · obtain ⟨⟨i, r⟩, hr, he⟩ := Option.map_eq_some_iff.1 h
        simp only [Prod.mk.injEq] at he
        have := ih (he.2 ▸ hr)
        simp only [List.length_cons]
        omega

theorem length_of_front? {cs inner rest : List Char} (h : front? cs = some (inner, rest)) :
    rest.length < cs.length := by
  unfold front? at h
  split at h
  · have := length_of_closing? h
    simp only [List.length_cons]
    omega
  · simp at h

-- A literal in front of tokens; an empty one is left out.
def withLiteral (text : List Char) (tokens : List Token) : List Token :=
  if text.isEmpty then tokens else .literal (String.ofList text) :: tokens

-- The tokens of a text, after the literal characters that were read since the last placeholder, in
-- reverse. The leftmost opening braces that are closed on their line make a placeholder.
def scan (before : List Char) (cs : List Char) : List Token :=
  match _h : front? cs with
  | some (inner, rest) =>
    withLiteral before.reverse (.placeholder (String.ofList inner) :: scan [] rest)
  | none =>
    match cs with
    | [] => withLiteral before.reverse []
    | c :: rest => scan (c :: before) rest
termination_by cs.length
decreasing_by
  · exact length_of_front? ‹_›
  · simp

-- The written form of a token.
def print : Token → String
  | .literal text => text
  | .placeholder inner => "\x7b\x7b" ++ inner ++ "\x7d\x7d"

end Token

-- The tokens of a template from left to right.
def tokenize (template : String) : List Token := Token.scan [] template.toList

-- The text whose tokens these are.
def Token.printAll (tokens : List Token) : String := String.join (tokens.map Token.print)

-- The first placeholder of a text.
def firstPlaceholder? (text : String) : Option String :=
  (tokenize text).findSome? fun
    | .placeholder inner => some inner
    | .literal _ => none

-- A text holds a placeholder when opening braces somewhere are closed on the same line.
def hasPlaceholderIn : List Char → Bool
  | [] => false
  | c :: rest => (Token.front? (c :: rest)).isSome || hasPlaceholderIn rest

def hasPlaceholders (text : String) : Bool := hasPlaceholderIn text.toList

end PropertyTemplates
