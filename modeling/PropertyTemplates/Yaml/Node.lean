import PropertyTemplates.Yaml.Token

namespace PropertyTemplates.Yaml

-- A node of a document. Tags keep their full form. A scalar is plain if it is neither quoted nor a
-- block; what is missing is a plain scalar without text.
inductive Node where
  | scalar (tag : Option String) (isPlain : Bool) (text : String)
  | list (tag : Option String) (items : List Node)
  | table (tag : Option String) (entries : List (Node × Node))
  -- A reference to a node that contains it.
  | endless

namespace Node

def missing : Node := .scalar none true ""

-- How far the tokens of a document have been read. An anchor stands for no node as long as that is
-- not complete.
structure Reading where
  rest : List Token
  prefixes : List (String × String)
  anchors : List (String × Option Node) := []

namespace Reading

def drop (r : Reading) : Reading := { r with rest := r.rest.drop 1 }

def next? (r : Reading) : Option Token := r.rest.head?

def nextIn (r : Reading) (tokens : List Token) : Bool := r.next?.any tokens.contains

-- The full form of a tag.
def expandTag (r : Reading) (handle suffix : String) : Except YamlError String :=
  if handle.isEmpty then .ok suffix
  else match r.prefixes.lookup handle with
    | some path => .ok (path ++ suffix)
    | none => .error (.undefinedTagHandle handle)

-- Reads an anchor and a tag in front of a node, in either order.
def readMarks (r : Reading) : Except YamlError (Option String × Option String × Reading) :=
  match r.rest with
  | .anchor name :: .tag handle suffix :: rest | .tag handle suffix :: .anchor name :: rest => do
    return (some name, some (← r.expandTag handle suffix), { r with rest })
  | .anchor name :: rest => .ok (some name, none, { r with rest })
  | .tag handle suffix :: rest => do
    return (none, some (← r.expandTag handle suffix), { r with rest })
  | _ => .ok (none, none, r)

def setAnchor (r : Reading) (anchor : Option String) (node : Option Node) : Reading :=
  match anchor with
  | some name => { r with anchors := (name, node) :: r.anchors }
  | none => r

def reference (r : Reading) (name : String) : Except YamlError (Node × Reading) :=
  match r.anchors.lookup name with
  | some (some node) => .ok (node, r)
  | some none => .ok (.endless, r)
  | none => .error (.unknownAnchor name)

end Reading

open Reading

mutual

-- Reads a node. In a block table an entry of a list need not be indented.
def read (block dented : Bool) : Nat → Reading → Except YamlError (Node × Reading)
  | 0, _ => .error .unexpectedToken
  | fuel + 1, r =>
    match r.rest with
    | .reference name :: rest => ({ r with rest } : Reading).reference name
    | _ => do
      let (anchor, tag, r) ← r.readMarks
      let opened := r.drop.setAnchor anchor none
      let (node, r) ← match r.next? with
        | some .blockEntry =>
          if dented then do
            let (items, r) ← readDented fuel (r.setAnchor anchor none)
            pure (Node.list tag items, r)
          else if anchor.isSome || tag.isSome then pure (Node.scalar tag true "", r)
          else .error .missingNode
        | some (.scalar isPlain text) =>
          pure (Node.scalar (if tag = some "!" then none else tag) isPlain text, r.drop)
        | some .flowListStart => do
          let (items, r) ← readFlowList true fuel opened
          pure (Node.list tag items, r)
        | some .flowTableStart => do
          let (entries, r) ← readFlowTable true fuel opened
          pure (Node.table tag entries, r)
        | some .blockListStart =>
          if block then do
            let (items, r) ← readBlockList fuel opened
            pure (Node.list tag items, r)
          else .error .missingNode
        | some .blockTableStart =>
          if block then do
            let (entries, r) ← readBlockTable fuel opened
            pure (Node.table tag entries, r)
          else .error .missingNode
        | _ =>
          if anchor.isSome || tag.isSome then pure (Node.scalar tag true "", r)
          else .error .missingNode
      return (node, r.setAnchor anchor (some node))

-- Reads a node unless one of the given tokens shows that it is missing.
def readUnless (block dented : Bool) (ends : List Token) :
    Nat → Reading → Except YamlError (Node × Reading)
  | 0, _ => .error .unexpectedToken
  | fuel + 1, r => if r.nextIn ends then .ok (missing, r) else read block dented fuel r

def readBlockList : Nat → Reading → Except YamlError (List Node × Reading)
  | 0, _ => .error .unexpectedToken
  | fuel + 1, r =>
    match r.next? with
    | some .blockEntry => do
      let (item, r) ← readUnless true false [.blockEntry, .blockEnd] fuel r.drop
      let (items, r) ← readBlockList fuel r
      return (item :: items, r)
    | some .blockEnd => .ok ([], r.drop)
    | _ => .error .unexpectedToken

def readDented : Nat → Reading → Except YamlError (List Node × Reading)
  | 0, _ => .error .unexpectedToken
  | fuel + 1, r =>
    match r.next? with
    | some .blockEntry => do
      let (item, r) ← readUnless true false [.blockEntry, .key, .value, .blockEnd] fuel r.drop
      let (items, r) ← readDented fuel r
      return (item :: items, r)
    | _ => .ok ([], r)

def readBlockTable : Nat → Reading → Except YamlError (List (Node × Node) × Reading)
  | 0, _ => .error .unexpectedToken
  | fuel + 1, r =>
    match r.next? with
    | some .key => do
      let ends := [Token.key, .value, .blockEnd]
      let (key, r) ← readUnless true true ends fuel r.drop
      let (value, r) ←
        if r.nextIn [.value] then readUnless true true ends fuel r.drop else pure (missing, r)
      let (entries, r) ← readBlockTable fuel r
      return ((key, value) :: entries, r)
    | some .blockEnd => .ok ([], r.drop)
    | _ => .error .unexpectedToken

-- Reads a value after the key of a flow table.
def readFlowValue (close : Token) : Nat → Reading → Except YamlError (Node × Reading)
  | 0, _ => .error .unexpectedToken
  | fuel + 1, r =>
    if r.nextIn [.value] then readUnless false false [.flowEntry, close] fuel r.drop
    else .ok (missing, r)

def readFlowList (first : Bool) : Nat → Reading → Except YamlError (List Node × Reading)
  | 0, _ => .error .unexpectedToken
  | fuel + 1, r =>
    if r.nextIn [.flowListEnd] then .ok ([], r.drop)
    else if !first && !r.nextIn [.flowEntry] then .error .unexpectedToken
    else
      let r := if first then r else r.drop
      if r.nextIn [.flowListEnd] then .ok ([], r.drop)
      else if r.nextIn [.key] then do
        -- A table of one entry without braces.
        let r := r.drop
        let (key, r) ←
          if r.nextIn [.value, .flowEntry, .flowListEnd] then pure (missing, r.drop)
          else read false false fuel r
        let (value, r) ← readFlowValue .flowListEnd fuel r
        let (items, r) ← readFlowList false fuel r
        return (.table none [(key, value)] :: items, r)
      else do
        let (item, r) ← read false false fuel r
        let (items, r) ← readFlowList false fuel r
        return (item :: items, r)

def readFlowTable (first : Bool) : Nat → Reading → Except YamlError (List (Node × Node) × Reading)
  | 0, _ => .error .unexpectedToken
  | fuel + 1, r =>
    if r.nextIn [.flowTableEnd] then .ok ([], r.drop)
    else if !first && !r.nextIn [.flowEntry] then .error .unexpectedToken
    else
      let r := if first then r else r.drop
      if r.nextIn [.flowTableEnd] then .ok ([], r.drop)
      else do
        let (key, value, r) ←
          if r.nextIn [.key] then do
            let (key, r) ← readUnless false false [.value, .flowEntry, .flowTableEnd] fuel r.drop
            let (value, r) ← readFlowValue .flowTableEnd fuel r
            pure (key, value, r)
          else do
            let (key, r) ← read false false fuel r
            pure (key, missing, r)
        let (entries, r) ← readFlowTable false fuel r
        return ((key, value) :: entries, r)

end

-- The handles of tags that every document knows.
def knownPrefixes : List (String × String) := [("!", "!"), ("!!", "tag:yaml.org,2002:")]

-- Reads the directives of a document: at most one version, and each handle of a tag once.
def readDirectives (versioned : Bool) (own : List (String × String)) :
    List Token → Except YamlError (List (String × String) × List Token)
  | .version major minor :: rest =>
    if !versioned && major == 1 && (minor == 1 || minor == 2) then readDirectives true own rest
    else .error .badDirective
  | .tagPrefix handle path :: rest =>
    if (own.lookup handle).isSome then .error .badDirective
    else readDirectives versioned ((handle, path) :: own) rest
  | rest => .ok (own ++ knownPrefixes, rest)

-- Reads the only document of a stream of tokens, if there is one.
def ofTokens? (tokens : List Token) : Except YamlError (Option Node) :=
  if tokens.isEmpty then .ok none
  else do
    let (prefixes, rest) ← readDirectives false [] tokens
    let isMarked := rest.head? == some .documentStart
    if !isMarked && rest.length < tokens.length then .error .unexpectedToken
    else
      let rest := if isMarked then rest.drop 1 else rest
      let isEmpty : Bool := match rest.head? with
        | none | some .documentStart | some .documentEnd | some (.version _ _)
        | some (.tagPrefix _ _) => isMarked
        | _ => false
      let (node, r) ←
        if isEmpty then pure (missing, { rest, prefixes })
        else read true false (2 * tokens.length + 4) { rest, prefixes }
      if (r.rest.dropWhile (· == .documentEnd)).isEmpty then return some node
      else .error .moreThanOneDocument

-- The node of a text; none if there is no document in it.
def ofText? (text : String) : Except YamlError (Option Node) := do
  ofTokens? (← Token.ofText text)

end Node

end PropertyTemplates.Yaml
