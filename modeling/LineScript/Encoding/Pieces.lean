import LineScript.Encoding.Decode
import LineScript.Text.LineBreak

/-! # Decoding piece by piece

A long file is read in pieces, and each is decoded when it is read. A character that is cut at the
end of a piece is finished by the next one, and so is a line break. The reader asks for blocks of
characters, and a piece is read only when the pieces before it do not fill the block. A fault is met
with the piece that it lies in, and its positions are counted from the start of that piece.
-/

namespace LineScript.Encoding

/-- A file of UTF-8 that is being read: the bytes still to come, the start of a cut character, a
carriage return that waits for what follows it, the characters that are decoded and not yet given
out, and how many bytes and characters the last piece had. -/
structure Feed where
  bytes : List UInt8
  pending : List UInt8 := []
  returned : Bool := false
  ready : List CodePoint := []
  lastBytes : Nat := 0
  lastChars : Nat := 0

def pieceSize : Nat := 8192

namespace Feed

/-- The number of bytes in the next piece. It is larger than usual if the characters that are
missing will take more bytes, being as wide as those of the last piece. -/
def nextSize (feed : Feed) (missing : Nat) : Nat :=
  max pieceSize (feed.lastBytes * missing / feed.lastChars)

/-- Makes decoded characters ready. Unless they are the last, a carriage return at their end has to
wait. -/
def receive (feed : Feed) (final : Bool) (cs : List CodePoint) : Feed :=
  let follows := feed.returned && (final || !cs.isEmpty)
  let cs := if follows then .char '\r' :: cs else cs
  let held := !final && cs.getLast? = some (.char '\r')
  let cs := Text.unifyNewlines (if held then cs.dropLast else cs)
  { feed with
    returned := held || (feed.returned && !follows)
    ready := cs
    lastChars := cs.length }

/-- Whether bytes that cannot be decoded wait for the next piece: they are the start of a character,
or the first two bytes of a surrogate, which are refused only with what follows them. -/
def waits (reason : DecodeReason) : List UInt8 → Bool
  | [first, second] =>
    reason = .unexpectedEnd || (first = 0xED && 0xA0 ≤ second && second ≤ 0xBF)
  | _ => reason = .unexpectedEnd

/-- Reads and decodes the next piece. After the last piece the end of the file is read. -/
def readPiece (feed : Feed) (missing : Nat) : Except DecodeError Feed :=
  let size := feed.nextSize missing
  let piece := feed.bytes.take size
  let final := piece.isEmpty
  let bytes := feed.pending ++ piece
  let feed : Feed := { feed with bytes := feed.bytes.drop size, lastBytes := piece.length }
  match decodeUtf8 0 bytes with
  | .ok cs => .ok ({ feed with pending := [] }.receive final (cs.map .char))
  | .error error =>
    let pending := bytes.drop error.start
    match !final && waits error.reason pending, decodeUtf8 0 (bytes.take error.start) with
    | true, .ok cs => .ok ({ feed with pending }.receive final (cs.map .char))
    | _, _ => .error error

def isDone (feed : Feed) : Bool :=
  feed.bytes.isEmpty && feed.pending.isEmpty && !feed.returned && feed.ready.isEmpty

/-- Reads a block of `missing` characters, or what there is up to the end of the file. At most
`steps` pieces are read for it. -/
def readBlock : (steps : Nat) → (missing : Nat) → Feed → Except DecodeError (List CodePoint × Feed)
  | 0, missing, feed => .ok (feed.ready.take missing, feed)
  | steps + 1, missing, feed => do
    let taken := feed.ready.take missing
    let feed := { feed with ready := feed.ready.drop missing }
    if taken.length = missing || feed.isDone then pure (taken, feed)
    else
      let (more, feed) ← readBlock steps (missing - taken.length)
        (← feed.readPiece (missing - taken.length))
      pure (taken ++ more, feed)

def bound (feed : Feed) : Nat :=
  feed.bytes.length / pieceSize + 3

end Feed

structure Delivery where
  blocks : List (List CodePoint) := []
  fault : Option DecodeError := none
  deriving DecidableEq, Repr

namespace Delivery

def ofFeed (size : Nat) : (count : Nat) → Feed → Delivery
  | 0, _ => {}
  | count + 1, feed =>
    match feed.readBlock feed.bound size with
    | .error error => { fault := some error }
    | .ok ([], _) => {}
    | .ok (block, feed) =>
      let rest := ofFeed size count feed
      { rest with blocks := block :: rest.blocks }

end Delivery

def deliver (size : Nat) (bytes : List UInt8) : Delivery :=
  .ofFeed size (bytes.length + 1) { bytes }

end LineScript.Encoding
