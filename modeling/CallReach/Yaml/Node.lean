import CallReach.Yaml.Scalar
import CallReach.Yaml.Token

/-!
# YAML nodes

`Node.ofTokens` reads the one document of a text.  A node may be given a name, by which it can be used
again further on; what a node is depends on its tag, or on its form when it has none.
-/

namespace CallReach.Yaml

/-- A node of a document. -/
inductive Node where
  | scalar (tag : Tag) (text : String)
  | sequence (tag : Tag) (items : List Node)
  | mapping (tag : Tag) (entries : List (Node × Node))
  deriving Inhabited

namespace Node

/-- Where the reading is. -/
structure State where
  tokens : List Token
  /-- The named nodes; a node that is not finished has no value yet. -/
  anchors : List (String × Option Node) := []
  /-- The handles of tags and what they stand for. -/
  handles : List (String × String) := []

/-- A reader of tokens. -/
abbrev Build := StateT State (Except Failure)

/-- The next token, which is left where it is. -/
def peek : Build Token := do return (← get).tokens.headD .streamEnd

/-- Skips a token. -/
def skip : Build Unit := modify fun s => { s with tokens := s.tokens.tail }

/-- Whether one of some tokens comes next. -/
def isNext (ts : List Token) : Build Bool := do return ts.contains (← peek)

/-- Takes a token if it is next, and says whether it was. -/
def accept (t : Token) : Build Bool := do
  if (← peek) == t then
    skip
    return true
  else return false

/-- Takes a token that has to be next. -/
def expect (t : Token) : Build Unit := do
  if !(← accept t) then throw .malformed

/-- A scalar that is absent. -/
def absent : Node := .scalar .null ""

/-- Gives a node its name. -/
def bind (anchor : Option String) (node : Option Node) : Build Unit :=
  match anchor with
  | none => return ()
  | some name => modify fun s => { s with anchors := (name, node) :: s.anchors }

/-- What a name and a tag before a node say. -/
structure Properties where
  anchor : Option String := none
  /-- The tag in full. -/
  tag : Option String := none

namespace Properties

/-- Whether there is a name or a tag. -/
def isGiven (p : Properties) : Bool := p.anchor.isSome || p.tag.isSome

/-- Whether the kind of the node is left open. -/
def isOpen (p : Properties) : Bool := p.tag.isNone || p.tag == some "!"

/-- The kind of a collection. -/
def kind (p : Properties) (default : Tag) : Tag :=
  if p.isOpen then default else Tag.ofUri (p.tag.getD "")

/-- The kind of a scalar. -/
def scalarKind (p : Properties) (text : String) (plain : Bool) : Tag :=
  if p.tag == some "!" || (p.tag.isNone && plain) then Tag.ofPlain text
  else if p.tag.isNone then .text
  else Tag.ofUri (p.tag.getD "")

end Properties

/-- A name before a node, if there is one. -/
def anchor? : Build (Option String) := do
  match ← peek with
  | .anchor name =>
    skip
    return some name
  | _ => return none

/-- A tag before a node in full, if there is one. -/
def tag? : Build (Option String) := do
  match ← peek with
  | .tag none suffix =>
    skip
    return some suffix
  | .tag (some handle) suffix =>
    skip
    match (← get).handles.find? (·.1 == handle) with
    | some (_, expansion) => return some (expansion ++ suffix)
    | none => throw .malformed
  | _ => return none

/-- A name and a tag before a node, in either order.  A name can be given once only. -/
def properties : Build Properties := do
  let first ← anchor?
  let tag ← tag?
  let anchor ← if first.isSome || tag.isNone then pure first else anchor?
  return { anchor, tag }

/-- A name that has not been given before. -/
def checkNew (anchor : Option String) : Build Unit := do
  match anchor with
  | none => return ()
  | some name => if (← get).anchors.any (·.1 == name) then throw .malformed

/-- The node that a name was given to. -/
def named (name : String) : Build Node := do
  match ((← get).anchors.find? (·.1 == name)).map (·.2) with
  | some (some node) => return node
  | _ => throw .malformed

mutual

/-- A node.  In a block it may be a block collection; where a key or a value is expected, it may be a
sequence that is not indented. -/
def node (block indentless : Bool) : Nat → Build Node
  | 0 => throw .malformed
  | fuel + 1 => do
    if let .alias name ← peek then
      skip
      named name
    else
      let p ← properties
      let t ← peek
      let collection (items : Build Node) : Build Node := do
        checkNew p.anchor
        bind p.anchor none
        let n ← items
        bind p.anchor (some n)
        return n
      if indentless && t == .blockEntry then
        collection do return .sequence (p.kind .sequence) (← looseItems [] fuel)
      else
        match t with
        | .scalar text plain =>
          skip
          checkNew p.anchor
          let n := Node.scalar (p.scalarKind text plain) text
          bind p.anchor (some n)
          return n
        | .flowSequenceStart =>
          skip
          collection do return .sequence (p.kind .sequence) (← flowItems [] fuel)
        | .flowMappingStart =>
          skip
          collection do return .mapping (p.kind .mapping) (← flowEntries [] fuel)
        | .sequenceStart =>
          if !block then throw .malformed
          skip
          collection do return .sequence (p.kind .sequence) (← blockItems [] fuel)
        | .mappingStart =>
          if !block then throw .malformed
          skip
          collection do return .mapping (p.kind .mapping) (← blockEntries [] fuel)
        | _ =>
          if !p.isGiven then throw .malformed
          checkNew p.anchor
          let n := Node.scalar (p.scalarKind "" true) ""
          bind p.anchor (some n)
          return n

/-- A node, unless one of some tokens comes next. -/
def nodeUnless (stops : List Token) (block indentless : Bool) : Nat → Build Node
  | 0 => throw .malformed
  | fuel + 1 => do
    if ← isNext stops then return absent else node block indentless fuel

/-- The items of a block sequence, after those in `done` (backwards). -/
def blockItems (done : List Node) : Nat → Build (List Node)
  | 0 => throw .malformed
  | fuel + 1 => do
    if ← accept .blockEntry then
      let n ← nodeUnless [.blockEntry, .blockEnd] true false fuel
      blockItems (n :: done) fuel
    else
      expect .blockEnd
      return done.reverse

/-- The items of a sequence that is not indented. -/
def looseItems (done : List Node) : Nat → Build (List Node)
  | 0 => throw .malformed
  | fuel + 1 => do
    if ← accept .blockEntry then
      let n ← nodeUnless [.blockEntry, .key, .value, .blockEnd] true false fuel
      looseItems (n :: done) fuel
    else return done.reverse

/-- The entries of a block mapping. -/
def blockEntries (done : List (Node × Node)) : Nat → Build (List (Node × Node))
  | 0 => throw .malformed
  | fuel + 1 => do
    let stops := [Token.key, .value, .blockEnd]
    if ← accept .key then
      let k ← nodeUnless stops true true fuel
      let v ← if ← accept .value then nodeUnless stops true true fuel else pure absent
      blockEntries ((k, v) :: done) fuel
    else
      expect .blockEnd
      return done.reverse

/-- An entry of a flow collection after its key mark. -/
def flowEntry (stops : List Token) : Nat → Build (Node × Node)
  | 0 => throw .malformed
  | fuel + 1 => do
    let k ← nodeUnless (.value :: stops) false false fuel
    let v ← if ← accept .value then nodeUnless stops false false fuel else pure absent
    return (k, v)

/-- The items of a flow sequence: a key makes a mapping of one entry. -/
def flowItems (done : List Node) : Nat → Build (List Node)
  | 0 => throw .malformed
  | fuel + 1 => do
    if ← accept .flowSequenceEnd then return done.reverse
    if !done.isEmpty then expect .flowEntry
    if ← accept .key then
      let e ← flowEntry [.flowEntry, .flowSequenceEnd] fuel
      flowItems (.mapping .mapping [e] :: done) fuel
    else if ← accept .flowSequenceEnd then return done.reverse
    else
      let n ← node false false fuel
      flowItems (n :: done) fuel

/-- The entries of a flow mapping: a node without a key mark is a key without a value. -/
def flowEntries (done : List (Node × Node)) : Nat → Build (List (Node × Node))
  | 0 => throw .malformed
  | fuel + 1 => do
    if ← accept .flowMappingEnd then return done.reverse
    if !done.isEmpty then expect .flowEntry
    if ← accept .key then
      let e ← flowEntry [.flowEntry, .flowMappingEnd] fuel
      flowEntries (e :: done) fuel
    else if ← accept .flowMappingEnd then return done.reverse
    else
      let n ← node false false fuel
      flowEntries ((n, absent) :: done) fuel

end

/-- The handles that every document has. -/
def defaultHandles : List (String × String) := [("!", "!"), ("!!", coreTags)]

/-- Whether a token is a directive. -/
def isDirective : Token → Bool
  | .version _ _ => true
  | .handle _ _ => true
  | .directive => true
  | _ => false

/-- Reads the directives before a document: one version of the first kind, and handles that differ. -/
def directives (versioned : Bool) (handles : List (String × String)) : Nat → Build Unit
  | 0 => throw .malformed
  | fuel + 1 => do
    match ← peek with
    | .version major _ =>
      if versioned || major != 1 then throw .malformed
      skip
      directives true handles fuel
    | .handle name expansion =>
      if handles.any (·.1 == name) then throw .malformed
      skip
      directives versioned ((name, expansion) :: handles) fuel
    | .directive =>
      skip
      directives versioned handles fuel
    | _ => modify fun s => { s with handles := handles ++ defaultHandles }

/-- Skips the marks of a document's end. -/
def skipEnds : Nat → Build Unit
  | 0 => return ()
  | fuel + 1 => do
    if ← accept .documentEnd then skipEnds fuel

/-- The one document of a text, if there is any. -/
def document (fuel : Nat) : Build (Option Node) := do
  let t ← peek
  if t == .streamEnd then return none
  let root ←
    if isDirective t || t == .documentStart then
      directives false [] fuel
      expect .documentStart
      let t ← peek
      if isDirective t || [Token.documentStart, .documentEnd, .streamEnd].contains t then
        pure absent
      else node true false fuel
    else
      modify fun s => { s with handles := defaultHandles }
      node true false fuel
  skipEnds fuel
  expect .streamEnd
  return some root

/-- The one document of a list of tokens, if there is any. -/
def ofTokens (tokens : List Token) : Except Failure (Option Node) :=
  match (document (4 * tokens.length + 4)).run { tokens } with
  | .ok (n, _) => .ok n
  | .error e => .error e

end Node

end CallReach.Yaml
