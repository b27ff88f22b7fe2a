import PropertyTemplates.Yaml.Scalar

namespace PropertyTemplates.Yaml

open Glyph

-- The signs and words of a document. Indentation becomes starts and ends of block collections.
inductive Token where
  | version (major minor : Nat)
  | tagPrefix (handle path : String)
  | documentStart
  | documentEnd
  | blockListStart
  | blockTableStart
  | blockEnd
  | flowListStart
  | flowListEnd
  | flowTableStart
  | flowTableEnd
  | blockEntry
  | flowEntry
  | key
  | value
  | reference (name : String)
  | anchor (name : String)
  | tag (handle suffix : String)
  | scalar (isPlain : Bool) (text : String)
deriving DecidableEq, Repr

-- Where a key may have started that is not marked as one: the number of its first token and its
-- place. A required key is the only thing that can stand there.
structure KeyPlace where
  token : Nat
  line : Nat
  column : Nat
  required : Bool
deriving DecidableEq, Repr

-- How far a document has been split into tokens. The tokens are reversed.
structure Scan where
  rest : List Glyph
  tokens : List Token := []
  count : Nat := 0
  -- The first column inside of the innermost block collection, and of those around it.
  margin : Nat := 0
  margins : List Nat := []
  -- The key that may have started, and those outside of each open flow collection.
  key : Option KeyPlace := none
  outerKeys : List (Option KeyPlace) := []
  keyAllowed : Bool := true

namespace Scan

def inFlow (s : Scan) : Bool := !s.outerKeys.isEmpty

def push (s : Scan) (t : Token) : Scan := { s with tokens := t :: s.tokens, count := s.count + 1 }

def insertAt (s : Scan) (n : Nat) (t : Token) : Scan :=
  { s with
    tokens := s.tokens.take (s.count - n) ++ t :: s.tokens.drop (s.count - n)
    count := s.count + 1 }

-- Passes over white space, comments and line ends. Tabs do not indent; after a line end a key may
-- start.
def skipBetween (inFlow : Bool) (keyAllowed inComment : Bool) : List Glyph → Bool × List Glyph
  | [] => (keyAllowed, [])
  | g :: rest =>
    if isBreak g.char then skipBetween inFlow (keyAllowed || !inFlow) false rest
    else if inComment then skipBetween inFlow keyAllowed true rest
    else if g.char == ' ' || (g.char == '\t' && (inFlow || !keyAllowed)) then
      skipBetween inFlow keyAllowed false rest
    else if g.char == '#' then skipBetween inFlow keyAllowed true rest
    else if g.char == byteOrderMark && g.column == 0 then skipBetween inFlow keyAllowed false rest
    else (keyAllowed, g :: rest)

def skip (s : Scan) : Scan :=
  let (keyAllowed, rest) := skipBetween s.inFlow s.keyAllowed false s.rest
  { s with keyAllowed, rest }

-- The longest key that is not marked as one.
def maxKeyLength : Nat := 1024

-- A key ends on its line.
def expire (g : Glyph) : Option KeyPlace → Except YamlError (Option KeyPlace)
  | some k =>
    if k.line < g.line || k.column + maxKeyLength < g.column then
      if k.required then .error .missingColon else .ok none
    else .ok (some k)
  | none => .ok none

def expireKeys (s : Scan) (g : Glyph) : Except YamlError Scan := do
  return { s with key := ← expire g s.key, outerKeys := ← s.outerKeys.mapM (expire g) }

def removeKey (s : Scan) : Except YamlError Scan :=
  if s.key.any (·.required) then .error .missingColon else .ok { s with key := none }

-- Remembers that a key may start here.
def saveKey (s : Scan) (g : Glyph) : Except YamlError Scan :=
  if s.keyAllowed then do
    let s ← s.removeKey
    let required := !s.inFlow && s.margin == g.column + 1
    return { s with key := some ⟨s.count, g.line, g.column, required⟩ }
  else .ok s

-- Starts a block collection if the column is inside of the innermost one.
def indent (s : Scan) (column : Nat) (place : Nat) (t : Token) : Scan :=
  if !s.inFlow && s.margin ≤ column then
    { s.insertAt place t with margin := column + 1, margins := s.margin :: s.margins }
  else s

-- Ends block collections one after the other, given the margins around them.
def endBlocks (limit : Nat) (s : Scan) : List Nat → Scan
  | [] => s
  | margin :: margins =>
    if limit < s.margin then endBlocks limit { s.push .blockEnd with margin, margins } margins
    else s

-- Ends the block collections whose contents start behind the column before the limit.
def unindent (s : Scan) (limit : Nat) : Scan :=
  if s.inFlow then s else endBlocks limit s s.margins

def finish (s : Scan) : Except YamlError (List Token) := do
  let s ← (s.unindent 0).removeKey
  return s.tokens.reverse

-- A sign that closes a flow collection or goes on in one.
def fetchFlowEnd (s : Scan) (t : Token) (rest : List Glyph) : Except YamlError Scan := do
  let s ← s.removeKey
  let s := match s.outerKeys with
    | key :: outerKeys => { s with key, outerKeys }
    | [] => s
  return { s.push t with rest, keyAllowed := false }

def fetchFlowStart (s : Scan) (g : Glyph) (t : Token) (rest : List Glyph) :
    Except YamlError Scan := do
  let s ← s.saveKey g
  return { s.push t with rest, key := none, outerKeys := s.key :: s.outerKeys, keyAllowed := true }

def fetchFlowEntry (s : Scan) (rest : List Glyph) : Except YamlError Scan := do
  return { (← s.removeKey).push .flowEntry with rest, keyAllowed := true }

def fetchBlockEntry (s : Scan) (g : Glyph) (rest : List Glyph) : Except YamlError Scan :=
  if !s.inFlow && !s.keyAllowed then .error .misplacedEntry
  else do
    let s ← (s.indent g.column s.count .blockListStart).removeKey
    return { s.push .blockEntry with rest, keyAllowed := true }

def fetchKey (s : Scan) (g : Glyph) (rest : List Glyph) : Except YamlError Scan :=
  if !s.inFlow && !s.keyAllowed then .error .misplacedKey
  else do
    let s ← (s.indent g.column s.count .blockTableStart).removeKey
    return { s.push .key with rest, keyAllowed := !s.inFlow }

-- A colon. If a key may have started before it, it is one.
def fetchValue (s : Scan) (g : Glyph) (rest : List Glyph) : Except YamlError Scan :=
  match s.key with
  | some k =>
    let s := (s.insertAt k.token .key).indent k.column k.token .blockTableStart
    .ok { s.push .value with rest, key := none, keyAllowed := false }
  | none =>
    if !s.inFlow && !s.keyAllowed then .error .misplacedValue
    else
      let s := s.indent g.column s.count .blockTableStart
      .ok { s.push .value with rest, keyAllowed := !s.inFlow }

def isNameChar (c : Char) : Bool := c.isAlphanum || c == '_' || c == '-'

-- A name after `*` or `&`.
def fetchName (s : Scan) (g : Glyph) (wrap : String → Token) (rest : List Glyph) :
    Except YamlError Scan := do
  let s ← s.saveKey g
  let (name, rest) := run isNameChar rest
  let endsWell := atGap rest ||
    satisfies (fun c => c ∈ ['?', ':', ',', ']', '}', '%', '@', '\x60']) rest
  if name.isEmpty || !endsWell then .error .badAnchor
  else return { s.push (wrap (String.ofList name)) with rest, keyAllowed := false }

def isTagChar (c : Char) : Bool :=
  isNameChar c ||
    c ∈ [';', '/', '?', ':', '@', '&', '=', '+', '$', '.', '!', '~', '*', '\'', '(', ')']

def isUriChar (c : Char) : Bool := isTagChar c || c == ',' || c == '[' || c == ']'

-- Reads the two parts of a tag after its exclamation mark.
def readTag (gs : List Glyph) : Except YamlError (String × String × List Glyph) :=
  match gs with
  | ⟨'<', _, _⟩ :: gs =>
    let (uri, rest) := run isUriChar gs
    if !uri.isEmpty && satisfies (· == '>') rest then .ok ("", String.ofList uri, rest.drop 1)
    else .error .badTag
  | gs =>
    let (name, after) := run isNameChar gs
    if satisfies (· == '!') after then
      let (suffix, rest) := run isTagChar (after.drop 1)
      if suffix.isEmpty then .error .badTag
      else .ok ("!" ++ String.ofList name ++ "!", String.ofList suffix, rest)
    else
      let (suffix, rest) := run isTagChar gs
      .ok (if suffix.isEmpty then ("", "!", rest) else ("!", String.ofList suffix, rest))

def fetchTag (s : Scan) (g : Glyph) (rest : List Glyph) : Except YamlError Scan := do
  let s ← s.saveKey g
  let (handle, suffix, rest) ← readTag rest
  if atGap rest || (s.inFlow && satisfies (· == ',') rest) then
    return { s.push (.tag handle suffix) with rest, keyAllowed := false }
  else .error .badTag

def number? (digits : List Char) : Option Nat :=
  if digits.isEmpty || 9 < digits.length then none
  else some (digits.foldl (fun n c => 10 * n + (c.toNat - '0'.toNat)) 0)

-- Reads a directive after its percent sign.
def readDirective (gs : List Glyph) : Except YamlError (Token × List Glyph) :=
  let (name, rest) := run isNameChar gs
  let rest := skipSpaces rest
  match String.ofList name with
  | "YAML" =>
    let (major, rest) := run Char.isDigit rest
    let (minor, after) := run Char.isDigit (rest.drop 1)
    match number? major, number? minor with
    | some major, some minor =>
      if satisfies (· == '.') rest then .ok (.version major minor, after) else .error .badDirective
    | _, _ => .error .badDirective
  | "TAG" =>
    let (handle, rest) := run (fun c => isNameChar c || c == '!') rest
    let (path, after) := run isUriChar (skipSpaces rest)
    if handle.head? = some '!' && handle.getLast? = some '!' && atGap rest && !path.isEmpty then
      .ok (.tagPrefix (String.ofList handle) (String.ofList path), after)
    else .error .badDirective
  | _ => .error .badDirective

def fetchDirective (s : Scan) (rest : List Glyph) : Except YamlError Scan := do
  let s ← (s.unindent 0).removeKey
  let (t, rest) ← readDirective rest
  if !atGap rest then .error .badDirective
  else
    let rest := skipSpaces rest
    let rest := if satisfies (· == '#') rest then skipLine rest else rest
    if rest.isEmpty || satisfies isBreak rest then
      return { s.push t with rest := rest.drop 1, keyAllowed := false }
    else .error .badDirective

def fetchDocumentMark (s : Scan) (t : Token) (rest : List Glyph) : Except YamlError Scan := do
  let s ← (s.unindent 0).removeKey
  return { s.push t with rest := rest.drop 2, keyAllowed := false }

def fetchBlock (s : Scan) (folded : Bool) (rest : List Glyph) : Except YamlError Scan := do
  let s ← s.removeKey
  let (text, rest) ← readBlock folded s.margin rest
  return { s.push (.scalar false (String.ofList text)) with rest, keyAllowed := true }

def fetchQuoted (s : Scan) (g : Glyph) (isDouble : Bool) (rest : List Glyph) :
    Except YamlError Scan := do
  let s ← s.saveKey g
  let (text, rest) ←
    if isDouble then readDouble [] .none .none rest else readSingle [] .none false rest
  return { s.push (.scalar false (String.ofList text)) with rest, keyAllowed := false }

def fetchPlain (s : Scan) (g : Glyph) (gs : List Glyph) : Except YamlError Scan := do
  let s ← s.saveKey g
  let (text, gap, rest) ← readPlain s.inFlow s.margin [] .none gs
  return { s.push (.scalar true (String.ofList text)) with rest, keyAllowed := gap.hasLines }

-- The signs that start no plain scalar.
def isIndicator (c : Char) : Bool :=
  c ∈ ['-', '?', ':', ',', '[', ']', '{', '}', '#', '&', '*', '!', '|', '>', '\'', '"', '%',
    '@', '\x60']

def startsPlain (s : Scan) (g : Glyph) (rest : List Glyph) : Bool :=
  !(isIndicator g.char || isSpaceOrTab g.char) ||
    (g.char == '-' && !satisfies isSpaceOrTab rest) ||
    (!s.inFlow && (g.char == '?' || g.char == ':') && !atGap rest)

-- Reads the next token.
def fetch (s : Scan) (g : Glyph) (rest : List Glyph) : Except YamlError Scan :=
  if g.column == 0 && g.char == '%' then s.fetchDirective rest
  else if atTripled '-' (g :: rest) then s.fetchDocumentMark .documentStart rest
  else if atTripled '.' (g :: rest) then s.fetchDocumentMark .documentEnd rest
  else match g.char with
    | '[' => s.fetchFlowStart g .flowListStart rest
    | '{' => s.fetchFlowStart g .flowTableStart rest
    | ']' => s.fetchFlowEnd .flowListEnd rest
    | '}' => s.fetchFlowEnd .flowTableEnd rest
    | ',' => s.fetchFlowEntry rest
    | '*' => s.fetchName g .reference rest
    | '&' => s.fetchName g .anchor rest
    | '!' => s.fetchTag g rest
    | '\'' => s.fetchQuoted g false rest
    | '"' => s.fetchQuoted g true rest
    | c =>
      if c == '-' && atGap rest then s.fetchBlockEntry g rest
      else if c == '?' && (s.inFlow || atGap rest) then s.fetchKey g rest
      else if c == ':' && (s.inFlow || atGap rest) then s.fetchValue g rest
      else if c == '|' && !s.inFlow then s.fetchBlock false rest
      else if c == '>' && !s.inFlow then s.fetchBlock true rest
      else if s.startsPlain g rest then s.fetchPlain g (g :: rest)
      else .error (.badStart c)

-- Reads at most the given number of tokens. Every token takes a character or more.
def fetchAll : Nat → Scan → Except YamlError (List Token)
  | 0, s => s.finish
  | fuel + 1, s =>
    let s := s.skip
    match s.rest with
    | [] => s.finish
    | g :: rest => do
      let s ← s.expireKeys g
      fetchAll fuel (← (s.unindent (g.column + 1)).fetch g rest)

end Scan

-- The tokens of a text.
def Token.ofText (text : String) : Except YamlError (List Token) := do
  let gs ← Glyph.ofText text.toList
  Scan.fetchAll (gs.length + 1) { rest := gs }

end PropertyTemplates.Yaml
