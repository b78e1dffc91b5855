import LineScript.Encoding.Basic
import LineScript.Text.Quoted

/-! # Encoding texts

The bytes of a text in an encoding. No encoding has halves of surrogate pairs, and the two encodings
of a byte a character lack most characters; a failure names the first run of code points that are
lacking. An encoding is asked for by its name, which must itself be a text that can be encoded.
-/

namespace LineScript

/-- Why code points cannot be encoded: they are beyond a limit, or they are no characters. A codec
of the platform may have reasons of its own. -/
inductive EncodeReason where
  | beyond (limit : Nat)
  | surrogate
  | other (text : String)
  deriving DecidableEq, Repr

def EncodeReason.text : EncodeReason → String
  | .beyond limit => s!"ordinal not in range({limit})"
  | .surrogate => "surrogates not allowed"
  | .other text => text

/-- A run of code points that an encoding lacks: the run starts at `start` and has `count` members,
the first of which is `first`. -/
structure EncodeError where
  codec : String
  reason : EncodeReason
  start : Nat
  count : Nat
  first : Nat
  deriving DecidableEq, Repr

def EncodeError.message (e : EncodeError) : String :=
  if e.count = 1 then
    let shown := String.ofList (Text.codePointEscape e.first)
    s!"'{e.codec}' codec can't encode character '{shown}' in position {e.start}: {e.reason.text}"
  else
    let last := e.start + e.count - 1
    s!"'{e.codec}' codec can't encode characters in position {e.start}-{last}: {e.reason.text}"

/-- The first run of code points that an encoding lacks. It starts with one that `lacks` says is
lacking and goes on as long as `joins` says. -/
def EncodeError.first? (codec : String) (reason : EncodeReason) (lacks joins : CodePoint → Bool)
    (cs : List CodePoint) : Option EncodeError :=
  match cs.dropWhile (!lacks ·) with
  | [] => none
  | first :: rest =>
    some
      { codec, reason, first := first.toNat
        start := (cs.takeWhile (!lacks ·)).length
        count := (rest.takeWhile joins).length + 1 }

def EncodeError.firstHalves? (codec : String) (cs : List CodePoint) : Option EncodeError :=
  first? codec .surrogate CodePoint.isHalf CodePoint.isHalf cs

inductive EncodingNameError where
  | null
  | unencodable (error : EncodeError)
  | unknown (name : String)
  deriving DecidableEq, Repr

def EncodingNameError.message : EncodingNameError → String
  | .null => "embedded null character"
  | .unencodable error => error.message
  | .unknown name => s!"unknown encoding: {name}"

namespace Encoding

def littlePair (n : Nat) : List UInt8 :=
  [UInt8.ofNat (n % 256), UInt8.ofNat (n / 256 % 256)]

def littleQuad (n : Nat) : List UInt8 :=
  littlePair (n % 65536) ++ littlePair (n / 65536)

/-- One sixteen bit unit, or two for a character beyond the first plane. -/
def units16 (c : Char) : List Nat :=
  let n := c.toNat
  if n < 65536 then [n] else [55296 + (n - 65536) / 1024, 56320 + (n - 65536) % 1024]

def find (name : Text) : Except EncodingNameError Encoding :=
  match EncodeError.firstHalves? "utf-8" name.toList with
  | some error => .error (.unencodable error)
  | none =>
    if name.toList.contains '\x00' then .error .null
    else
      let name := String.ofList name.chars
      match ofName? name with
      | some encoding => .ok encoding
      | none => .error (.unknown name)

def encodeBelow (codec : String) (limit : Nat) (text : Text) : Except EncodeError (List UInt8) :=
  let lacks := fun c : CodePoint => decide (limit ≤ c.toNat)
  match EncodeError.first? codec (.beyond limit) lacks lacks text.toList with
  | some error => .error error
  | none => .ok (text.toList.map fun c => UInt8.ofNat c.toNat)

/-- The bytes of every character after a mark. A run of halves is refused. -/
def encodeRuns (codec : String) (mark : List UInt8) (bytes : Char → List UInt8) (text : Text) :
    Except EncodeError (List UInt8) :=
  match EncodeError.firstHalves? codec text.toList with
  | some error => .error error
  | none => .ok (mark ++ text.chars.flatMap bytes)

/-- The bytes of every character after a mark. A half is refused whatever follows it. -/
def encodeUnits (codec : String) (mark : List UInt8) (bytes : Char → List UInt8) (text : Text) :
    Except EncodeError (List UInt8) :=
  (encodeRuns codec mark bytes text).mapError fun error => { error with count := 1 }

def encode : Encoding → Text → Except EncodeError (List UInt8)
  | .utf8 => encodeRuns "utf-8" [] String.utf8EncodeChar
  | .utf8Marked => encodeRuns "utf-8" [0xEF, 0xBB, 0xBF] String.utf8EncodeChar
  | .ascii => encodeBelow "ascii" 128
  | .latin1 => encodeBelow "latin-1" 256
  | .utf16Marked => encodeUnits "utf-16" [0xFF, 0xFE] fun c => (units16 c).flatMap littlePair
  | .utf16Little => encodeUnits "utf-16-le" [] fun c => (units16 c).flatMap littlePair
  | .utf16Big =>
    encodeUnits "utf-16-be" [] fun c => (units16 c).flatMap fun unit => (littlePair unit).reverse
  | .utf32Marked => encodeUnits "utf-32" [0xFF, 0xFE, 0, 0] fun c => littleQuad c.toNat
  | .utf32Little => encodeUnits "utf-32-le" [] fun c => littleQuad c.toNat
  | .utf32Big => encodeUnits "utf-32-be" [] fun c => (littleQuad c.toNat).reverse

end Encoding

end LineScript
