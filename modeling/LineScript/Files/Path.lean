import LineScript.Encoding.Encode
import LineScript.Text.Search

/-! # Paths

A path is an anchor and the names after it. Empty names and single dots are dropped when a path is
read; double dots stay, since what they lead to depends on the files.
-/

namespace LineScript

/-- Where a path starts. Two slashes at the front are kept apart from any other number of them. -/
inductive Anchor where
  | relative
  | root
  | doubleRoot
  deriving DecidableEq, Repr

def Anchor.text : Anchor → String
  | .relative => ""
  | .root => "/"
  | .doubleRoot => "//"

structure Path where
  anchor : Anchor := .relative
  parts : List Text := []
  deriving DecidableEq, Repr

namespace Path

def anchorOf (cs : List CodePoint) : Anchor :=
  match (cs.takeWhile (· = CodePoint.char '/')).length with
  | 0 => .relative
  | 2 => .doubleRoot
  | _ => .root

def ofText (s : Text) : Path :=
  { anchor := anchorOf s.toList
    parts := ((Text.splitAt (.char '/') s.toList).map Text.ofList).filter fun part =>
      part ≠ "" && part ≠ "." }

/-- Writes a path. A path without names is a dot, or its anchor. -/
def text (path : Path) : Text :=
  match path.anchor, path.parts with
  | .relative, [] => "."
  | anchor, parts => anchor.text ++ Text.intercalate "/" parts

def quoted (path : Path) : String :=
  Text.quoted path.text

def parent (path : Path) : Path :=
  { path with parts := path.parts.dropLast }

def name (path : Path) : Text :=
  path.parts.getLastD ""

/-- Goes on from a path along another one. One with an anchor of its own starts anew. -/
def join (path next : Path) : Path :=
  match next.anchor with
  | .relative => { path with parts := path.parts ++ next.parts }
  | _ => next

/-- The part of a name from its last dot on, if there is something before and after the dot. -/
def suffixOf (name : Text) : Text :=
  match Text.beforeLast? '.' name.toList with
  | none | some [] => ""
  | some front =>
    match name.toList.drop front.length with
    | [_] => ""
    | ending => .ofList ending

/-- Halves that stand in a path for bytes that are no text. -/
def standsForByte : CodePoint → Bool
  | .char _ => false
  | .half index => 0x480 ≤ index.val && index.val < 0x500

/-- The first run of halves in a path that file names cannot have. -/
def encodeError? (path : Path) : Option EncodeError :=
  EncodeError.first? "utf-8" .surrogate (fun c => c.isHalf && !standsForByte c) CodePoint.isHalf
    path.text.toList

def hasNull (path : Path) : Bool :=
  path.parts.any fun part => part.toList.contains '\x00'

end Path

end LineScript
