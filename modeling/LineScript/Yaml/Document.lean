import LineScript.Config.Value
import LineScript.Text.Base64
import LineScript.Yaml.Node

/-! # Documents

The value of a document. In a mapping the last value of a key wins and keeps the place of the first.
The entries of mappings that are merged into another come before its own.

A document is valued level by level: the collections inside a collection are gone through only after
it is done. So of several errors, the one on the outermost level counts, and of those the first.
-/

namespace LineScript.Yaml

/-! ## Keys -/

/-- Whether two keys are one. Numbers are one if they are equal, and truth values count as zero and
one. -/
def sameKey : Value → Value → Bool
  | .null, .null => true
  | .bool a, .bool b => a = b
  | .int a, .int b => a = b
  | .bool a, .int b => (a.toNat : Int) = b
  | .int a, .bool b => a = b.toNat
  | .real a, .real b => a.same b
  | .real a, .int b => a.equalsInt b
  | .int a, .real b => b.equalsInt a
  | .real a, .bool b => a.equalsInt b.toNat
  | .bool a, .real b => b.equalsInt a.toNat
  | .str a, .str b => a = b
  | .bytes a, .bytes b => a = b
  | .date a, .date b => a = b
  | .moment a, .moment b => a.same b
  | _, _ => false

def putKey (key value : Value) : List (Value × Value) → List (Value × Value)
  | [] => [(key, value)]
  | entry :: rest =>
    if sameKey entry.1 key then (entry.1, value) :: rest else entry :: putKey key value rest

/-- Entries without the earlier ones of a key. -/
def settle (entries : List (Value × Value)) : List (Value × Value) :=
  entries.foldl (fun found entry => putKey entry.1 entry.2 found) []

/-! ## Scalars -/

def truthOf (text : Text) : Except ReadError Value :=
  let lower := text.chars?.map fun cs => cs.map Char.toLower
  match Tag.truthWords.find? fun entry => some entry.1.toList = lower with
  | some (_, b) => .ok (.bool b)
  | none => .error (.scalar (.notTruth ((lower.map Text.ofChars).getD text)))

def momentOf (cs : List Char) : Except ReadError Value :=
  match Stamp.ofChars? (Tag.trimmed cs) with
  | none => .error (.scalar .notMoment)
  | some stamp =>
    match stamp.clock with
    | none =>
      match stamp.date.check with
      | .ok _ => .ok (.date stamp.date)
      | .error error => .error (.scalar (.calendar error))
    | some clock =>
      match (stamp.moment clock).check with
      | .ok _ => .ok (.moment (stamp.moment clock))
      | .error error => .error (.scalar (.calendar error))

def bytesOf (cs : List Char) : Except ReadError Value :=
  match (if cs.all (·.toNat < 128) then Text.base64? cs else none) with
  | some bytes => .ok (.bytes bytes)
  | none => .error .malformed

def scalarValue (tag : Tag) (text : Text) : Except ReadError Value :=
  let cs := text.chars?
  match tag, cs with
  | .null, _ => .ok .null
  | .bool, _ => truthOf text
  | .int, some cs => ((Number.whole cs).map .int).mapError .scalar
  | .int, none => .error (.scalar (.notInteger 10 text))
  | .float, some cs => ((Number.decimal cs).map .real).mapError .scalar
  | .float, none => .error (.scalar (.notDecimal text))
  | .binary, some cs => bytesOf cs
  | .binary, none => .error .malformed
  | .timestamp, some cs => momentOf cs
  | .timestamp, none => .error (.scalar .notMoment)
  | .str, _ => .ok (.str text)
  | _, _ => .error .malformed

/-! ## Merging -/

namespace Node

def tag? : Node → Option Tag
  | scalar tag _ => some tag
  | sequence tag _ => some tag
  | mapping tag _ => some tag
  | loop _ => none

/-- A key that stands for a value of its own is a text in a mapping. -/
def asKey : Node → Node
  | scalar .value text => scalar .str text
  | node => node

/-- Joins the entries of mappings to merge, an earlier mapping after a later one. -/
def joinMerged : List (Option (List (Node × Node))) → Option (List (Node × Node))
  | [] => some []
  | entries :: rest => do
    let later ← joinMerged rest
    let entries ← entries
    some (later ++ entries)

mutual

/-- The entries that a node brings into a mapping that it is merged into; only a mapping, or a
sequence of mappings, can be merged. -/
def merged : Node → Option (List (Node × Node))
  | mapping _ entries => flatten entries
  | sequence _ items => joinMerged (mergedItems items)
  | loop true => some []
  | _ => none

def mergedItems : List Node → List (Option (List (Node × Node)))
  | [] => []
  | mapping _ entries :: rest => flatten entries :: mergedItems rest
  | loop true :: rest => some [] :: mergedItems rest
  | _ :: rest => none :: mergedItems rest

/-- The entries of a mapping, with those that are merged into it before its own. -/
def flatten (entries : List (Node × Node)) : Option (List (Node × Node)) := do
  let found ← mergedEntries entries
  some (found ++ ownEntries entries)

def mergedEntries : List (Node × Node) → Option (List (Node × Node))
  | [] => some []
  | (key, value) :: rest => do
    let found ← if key.tag? = some .merge then value.merged else some []
    let more ← mergedEntries rest
    some (found ++ more)

def ownEntries : List (Node × Node) → List (Node × Node)
  | [] => []
  | (key, value) :: rest =>
    if key.tag? = some .merge then ownEntries rest else (key.asKey, value) :: ownEntries rest

end

/-! ## Values -/

mutual

/-- The text of a node where a scalar is asked for. A mapping can hold one under the key that stands
for its value. -/
def scalarText? : Node → Option Text
  | scalar _ text => some text
  | mapping _ entries => entryText? entries
  | _ => none

def entryText? : List (Node × Node) → Option Text
  | [] => none
  | (key, value) :: rest =>
    if key.tag? = some .value then value.scalarText? else entryText? rest

end

/-- A value, and the errors that were met on the way to it, each with its level. -/
abbrev Valued (α : Type) := α × List (Nat × ReadError)

def failed (level : Nat) (error : ReadError) : Valued Value :=
  (.null, [(level, error)])

def valuedScalar (level : Nat) (tag : Tag) (text : Text) : Valued Value :=
  match scalarValue tag text with
  | .ok value => (value, [])
  | .error error => failed level error

def isCollectionTag (tag : Tag) : Bool :=
  [.seq, .map, .set, .omap, .pairs].contains tag

/-- What a key stands for. A collection is no key. -/
def key (level : Nat) : Node → Valued Value
  | scalar tag text =>
    if isCollectionTag tag then failed level .malformed else valuedScalar level tag text
  | mapping tag entries =>
    match isCollectionTag tag, scalarText? (mapping tag entries) with
    | false, some text => valuedScalar level tag text
    | _, _ => failed level .malformed
  | _ => failed level .malformed

def collect {α : Type} (values : List (Valued α)) : Valued (List α) :=
  (values.map (·.1), values.flatMap (·.2))

def pair (key value : Valued Value) : Valued (Value × Value) :=
  ((key.1, value.1), key.2 ++ value.2)

def valuedEntries (valued : Node → Valued Value) (level : Nat) (entries : List (Node × Node)) :
    Valued (List (Value × Value)) :=
  match flatten entries with
  | none => ([], [(level, .malformed)])
  | some entries => collect (entries.map fun entry => pair (entry.1.key level) (valued entry.2))

/-- An item of a list of pairs: a mapping with one entry. -/
def valuedPair (valued : Node → Valued Value) (level : Nat) : Node → Valued (Value × Value)
  | mapping _ [(key, value)] => pair (valued key) (valued value)
  | _ => ((.null, .null), [(level, .malformed)])

/-- What a node stands for that is met on a level. What it holds is met on the next level. -/
def valued : (steps : Nat) → (level : Nat) → Node → Valued Value
  | 0, level, _ => failed level .malformed
  | steps + 1, level, node =>
    let deeper := valued steps (level + 1)
    match node with
    | loop isMapping => (.loop isMapping, [])
    | scalar tag text =>
      if isCollectionTag tag then failed (level + 1) .malformed else valuedScalar level tag text
    | sequence tag items =>
      match tag with
      | .seq => (collect (items.map deeper)).map .list id
      | .omap | .pairs => (collect (items.map (valuedPair deeper (level + 1)))).map .pairs id
      | .map | .set => failed (level + 1) .malformed
      | _ => failed level .malformed
    | mapping tag entries =>
      let found := valuedEntries deeper (level + 1) entries
      match tag, scalarText? node with
      | .map, _ => found.map (fun entries => .map (settle entries)) id
      | .set, _ => found.map (fun entries => .set ((settle entries).map (·.1))) id
      | .seq, _ | .omap, _ | .pairs, _ => failed (level + 1) .malformed
      | tag, some text => valuedScalar level tag text
      | _, none => failed level .malformed

/-- The error on the outermost level, the first of those. -/
def outermost? : List (Nat × ReadError) → Option (Nat × ReadError)
  | [] => none
  | found :: rest =>
    match outermost? rest with
    | some other => if other.1 < found.1 then some other else some found
    | none => some found

/-- What the root of a document stands for, if it is at most `height` levels high. -/
def value (height : Nat) (root : Node) : Except ReadError Value :=
  let found := root.valued height 0
  match outermost? found.2 with
  | some (_, error) => .error error
  | none => .ok found.1

end Node

/-- The value of a text that holds at most one document. -/
def read (source : Source) : Except ReadError Value := do
  let tokens := Tokens.ofSource source
  match ← Node.ofTokens tokens with
  | none => pure .null
  | some root => root.value (tokens.list.length + 1)

end LineScript.Yaml
