import LineScript.Yaml.Layout
import LineScript.Yaml.Tag

/-! # Nodes

The tree that a document is: scalars, sequences and mappings, each with its tag. A node can be given
a name by an anchor; an alias puts the named node in its own place. An alias inside the node that it
names closes a loop.

Each reader is given a bound on the number of its steps. A token is passed in a few steps, so a
small multiple of the number of tokens is enough.
-/

namespace LineScript.Yaml

inductive Node where
  | scalar (tag : Tag) (text : Text)
  | sequence (tag : Tag) (items : List Node)
  | mapping (tag : Tag) (entries : List (Node × Node))
  | loop (mapping : Bool)

namespace Node

def empty : Node :=
  scalar .null ⟨[]⟩

/-- The state of reading: the tokens to come, what is met after them, what the handles of tags stand
for, and the nodes that have names. -/
structure State where
  tokens : List Token
  failure : ReadError
  handles : List (List Char × List Char) := []
  anchors : List (List Char × Node) := []

abbrev Reader := StateT State (Except ReadError)

namespace Reader

def refuse {α : Type} : Reader α :=
  throw .malformed

def peek : Reader Token := do
  let s ← get
  match s.tokens with
  | token :: _ => pure token
  | [] => throw s.failure

def skip : Reader Unit :=
  modify fun s => { s with tokens := s.tokens.drop 1 }

def expect (token : Token) : Reader Unit := do
  if (← peek) = token then skip else refuse

/-! ## Names and tags -/

def named (name : List Char) : Reader Node := do
  match (← get).anchors.find? (·.1 = name) with
  | some (_, node) => pure node
  | none => refuse

def setName (anchor : Option (List Char)) (node : Node) : Reader Unit :=
  match anchor with
  | none => pure ()
  | some name =>
    modify fun s => { s with anchors := (name, node) :: s.anchors.filter (·.1 ≠ name) }

def checkName (anchor : Option (List Char)) : Reader Unit := do
  let s ← get
  if (anchor.map fun name => s.anchors.any (·.1 = name)).getD false then refuse

/-- An anchor and a tag before a node, in either order. -/
def properties : Reader (Option (List Char) × Option WrittenTag) := do
  match ← peek with
  | .anchor name =>
    skip
    match ← peek with
    | .tag tag => skip; pure (some name, some tag)
    | _ => pure (some name, none)
  | .tag tag =>
    skip
    match ← peek with
    | .anchor name => skip; pure (some name, some tag)
    | _ => pure (none, some tag)
  | _ => pure (none, none)

/-- The text of a tag: its handle is replaced by what it stands for. -/
def tagText (tag : WrittenTag) : Reader (List Char) := do
  match tag.handle with
  | none => pure tag.suffix
  | some handle =>
    match (← get).handles.find? (·.1 = handle) with
    | some (_, stem) => pure (stem ++ tag.suffix)
    | none => refuse

/-- The tag of a scalar. An exclamation mark alone has the text looked at as if it were plain. -/
def scalarTag (tag : Option (List Char)) (plain : Bool) (text : Text) : Tag :=
  match tag with
  | none => if plain then .ofPlain text else .str
  | some ['!'] => .ofPlain text
  | some tag => .ofText tag

def collectionTag (tag : Option (List Char)) (usual : Tag) : Tag :=
  match tag with
  | none | some ['!'] => usual
  | some tag => .ofText tag

/-! ## Collections -/

/-- Whether the next token ends a part of an entry, so that the part is empty. -/
def ends (tokens : List Token) : Reader Bool := do
  pure (tokens.contains (← peek))

def optional (before : List Token) (reader : Reader Node) : Reader Node := do
  if ← ends before then pure empty else reader

def valueOf (before : List Token) (reader : Reader Node) : Reader Node := do
  if (← peek) = .colon then
    skip
    optional before reader
  else pure empty

def blockItems (reader : Reader Node) (before : List Token) :
    (steps : Nat) → Reader (List Node)
  | 0 => refuse
  | steps + 1 => do
    if (← peek) = .dash then
      skip
      let item ← optional before reader
      let items ← blockItems reader before steps
      pure (item :: items)
    else pure []

def blockEntries (reader : Reader Node) : (steps : Nat) → Reader (List (Node × Node))
  | 0 => refuse
  | steps + 1 => do
    if (← peek) = .key then
      skip
      let key ← optional [.key, .colon, .blockEnd] reader
      let value ← valueOf [.key, .colon, .blockEnd] reader
      let entries ← blockEntries reader steps
      pure ((key, value) :: entries)
    else pure []

/-- An item of a sequence in brackets: a node, or a single entry, which is a mapping. -/
def flowItem (reader : Reader Node) : Reader Node := do
  if (← peek) = .key then
    skip
    let key ← optional [.colon, .comma, .closeBracket] reader
    let value ← valueOf [.comma, .closeBracket] reader
    pure (mapping .map [(key, value)])
  else reader

/-- Items of a sequence in brackets, and the bracket. A comma comes before every item but the first,
and may come after the last. -/
def flowItems (reader : Reader Node) : (steps : Nat) → (first : Bool) → Reader (List Node)
  | 0, _ => refuse
  | steps + 1, first => do
    if ← ends [.closeBracket] then
      skip
      pure []
    else
      if !first then expect .comma
      if ← ends [.closeBracket] then
        skip
        pure []
      else
        let item ← flowItem reader
        let items ← flowItems reader steps false
        pure (item :: items)

/-- An entry of a mapping in braces. A node on its own is a key. -/
def flowEntry (reader : Reader Node) : Reader (Node × Node) := do
  if (← peek) = .key then
    skip
    let key ← optional [.colon, .comma, .closeBrace] reader
    let value ← valueOf [.comma, .closeBrace] reader
    pure (key, value)
  else
    let key ← reader
    pure (key, empty)

def flowEntries (reader : Reader Node) :
    (steps : Nat) → (first : Bool) → Reader (List (Node × Node))
  | 0, _ => refuse
  | steps + 1, first => do
    if ← ends [.closeBrace] then
      skip
      pure []
    else
      if !first then expect .comma
      if ← ends [.closeBrace] then
        skip
        pure []
      else
        let entry ← flowEntry reader
        let entries ← flowEntries reader steps false
        pure (entry :: entries)

/-! ## Nodes -/

/-- Where a node stands: inside brackets, in a block, or as a part of a block entry, where a
sequence need not be indented. -/
inductive Site where
  | flow
  | block
  | entry
  deriving DecidableEq, Repr

/-- Reads a collection that has a name and a tag. While it is read, its name stands for a loop. -/
def collection (anchor : Option (List Char)) (isMapping : Bool) (content : Reader Node) :
    Reader Node := do
  setName anchor (loop isMapping)
  let node ← content
  setName anchor node
  pure node

/-- Reads a node, with at most `steps` collections inside one another. -/
def node (size : Nat) : (steps : Nat) → Site → Reader Node
  | 0, _ => refuse
  | steps + 1, site => do
    match ← peek with
    | .alias name =>
      skip
      named name
    | _ =>
      let (anchor, written) ← properties
      let tag ←
        match written with
        | none => pure none
        | some written => (tagText written).map some
      let sequenceTag := collectionTag tag .seq
      let mappingTag := collectionTag tag .map
      match ← peek, site with
      | .dash, .entry =>
        checkName anchor
        collection anchor false do
          let items ← blockItems (node size steps .block) [.dash, .key, .colon, .blockEnd] size
          pure (sequence sequenceTag items)
      | .scalar text plain, _ =>
        checkName anchor
        skip
        let found := scalar (scalarTag tag plain text) text
        setName anchor found
        pure found
      | .openBracket, _ =>
        checkName anchor
        skip
        collection anchor false do
          let items ← flowItems (node size steps .flow) size true
          pure (sequence sequenceTag items)
      | .openBrace, _ =>
        checkName anchor
        skip
        collection anchor true do
          let entries ← flowEntries (node size steps .flow) size true
          pure (mapping mappingTag entries)
      | .sequenceStart, .block | .sequenceStart, .entry =>
        checkName anchor
        skip
        collection anchor false do
          let items ← blockItems (node size steps .block) [.dash, .blockEnd] size
          expect .blockEnd
          pure (sequence sequenceTag items)
      | .mappingStart, .block | .mappingStart, .entry =>
        checkName anchor
        skip
        collection anchor true do
          let entries ← blockEntries (node size steps .entry) size
          expect .blockEnd
          pure (mapping mappingTag entries)
      | _, _ =>
        if anchor.isNone && tag.isNone then refuse
        else
          checkName anchor
          let found := scalar (scalarTag tag true ⟨[]⟩) ⟨[]⟩
          setName anchor found
          pure found

/-! ## Documents -/

/-- What the handles of tags stand for if no directive says otherwise. -/
def usualHandles : List (List Char × List Char) :=
  [(['!'], ['!']), (['!', '!'], Tag.commonStem.toList)]

def isDirective : Token → Bool
  | .version _ | .handle _ _ | .directive => true
  | _ => false

/-- Reads the directives before a document. A version is given once, and so is each handle. -/
def directives : (steps : Nat) → (versioned : Bool) → Reader Unit
  | 0, _ => refuse
  | steps + 1, versioned => do
    match ← peek with
    | .version major =>
      skip
      if versioned || major ≠ 1 then refuse else directives steps true
    | .handle name stem =>
      skip
      let s ← get
      if s.handles.any (·.1 = name) then refuse
      else
        set { s with handles := (name, stem) :: s.handles }
        directives steps versioned
    | .directive =>
      skip
      directives steps versioned
    | _ => modify fun s => { s with handles := s.handles ++ usualHandles }

def skipEnds : (steps : Nat) → Reader Unit
  | 0 => refuse
  | steps + 1 => do
    if (← peek) = .documentEnd then
      skip
      skipEnds steps

def finish (size : Nat) : Reader Unit := do
  skipEnds size
  if (← peek) = .streamEnd then pure ()
  else
    modify fun s => { s with tokens := s.tokens.dropWhile isDirective }
    let _ ← peek
    refuse

def content (size : Nat) : Reader Node := do
  let next ← peek
  if isDirective next || [.documentStart, .documentEnd, .streamEnd].contains next then pure empty
  else node size size .block

/-- The root of the only document; nothing if there is none. -/
def document (size : Nat) : Reader (Option Node) := do
  let next ← peek
  if next = .streamEnd then pure none
  else
    let root ←
      if isDirective next || next = .documentStart then do
        directives size false
        expect .documentStart
        content size
      else do
        modify fun s => { s with handles := usualHandles }
        node size size .block
    finish size
    pure (some root)

end Reader

def ofTokens (tokens : Tokens) : Except ReadError (Option Node) :=
  let size := tokens.list.length + 1
  ((Reader.document size).run { tokens := tokens.list, failure := tokens.failure }).map (·.1)

end Node

end LineScript.Yaml
