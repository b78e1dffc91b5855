import LineScript.Encoding.Basic
import LineScript.Text.Quoted

/-! # Decoding bytes

The text that bytes stand for in an encoding. A failure names the bytes at fault by their positions
and says what is wrong with them.
-/

namespace LineScript

/-- What is wrong with some bytes. A codec of the platform may have reasons of its own. -/
inductive DecodeReason where
  | startByte
  | continuationByte
  | unexpectedEnd
  | ordinal (limit : Nat)
  | truncated
  | illegalEncoding
  | illegalSurrogate
  | surrogateCodePoint
  | codePointRange
  | other (text : String)
  deriving DecidableEq, Repr

def DecodeReason.text : DecodeReason → String
  | .startByte => "invalid start byte"
  | .continuationByte => "invalid continuation byte"
  | .unexpectedEnd => "unexpected end of data"
  | .ordinal limit => s!"ordinal not in range({limit})"
  | .truncated => "truncated data"
  | .illegalEncoding => "illegal encoding"
  | .illegalSurrogate => "illegal UTF-16 surrogate"
  | .surrogateCodePoint => "code point in surrogate code point range(0xd800, 0xe000)"
  | .codePointRange => "code point not in range(0x110000)"
  | .other text => text

/-- Bytes that cannot be decoded: `count` of them from `start` on, the first being `first`. -/
structure DecodeError where
  codec : String
  start : Nat
  count : Nat
  first : UInt8
  reason : DecodeReason
  deriving DecidableEq, Repr

def DecodeError.message (e : DecodeError) : String :=
  let reason := e.reason.text
  if e.count = 1 then
    let byte := String.ofList (Text.hexDigits 2 e.first.toNat)
    s!"'{e.codec}' codec can't decode byte 0x{byte} in position {e.start}: {reason}"
  else
    let last := e.start + e.count - 1
    s!"'{e.codec}' codec can't decode bytes in position {e.start}-{last}: {reason}"

/-- Why bytes give no text: they are wrong, or a required byte order mark is missing. -/
inductive DecodeFailure where
  | malformed (error : DecodeError)
  | unmarked (family : String)
  deriving DecidableEq, Repr

namespace Encoding

def prependChar (n : Nat) (rest : Except DecodeError (List Char)) :
    Except DecodeError (List Char) :=
  rest.map (Char.ofNat n :: ·)

def isContinuation (low high b : UInt8) : Bool :=
  low ≤ b && b ≤ high

/-- How a sequence goes on after its first byte: the number of further bytes and the range of the
first of them. -/
inductive Lead where
  | single
  | invalid
  | two
  | three (low high : UInt8)
  | four (low high : UInt8)

/-- The first byte of a sequence. The ranges leave out overlong forms and surrogates. -/
def lead (b : UInt8) : Lead :=
  if b < 0x80 then .single
  else if b < 0xC2 then .invalid
  else if b < 0xE0 then .two
  else if b < 0xF0 then
    .three (if b = 0xE0 then 0xA0 else 0x80) (if b = 0xED then 0x9F else 0xBF)
  else if b < 0xF5 then
    .four (if b = 0xF0 then 0x90 else 0x80) (if b = 0xF4 then 0x8F else 0xBF)
  else .invalid

def payload (b : UInt8) : Nat :=
  b.toNat % 64

def decodeUtf8 (pos : Nat) : List UInt8 → Except DecodeError (List Char)
  | [] => .ok []
  | b :: bs =>
    let fail (count : Nat) (reason : DecodeReason) : Except DecodeError (List Char) :=
      .error { codec := "utf-8", start := pos, count, first := b, reason }
    match lead b with
    | .single => prependChar b.toNat (decodeUtf8 (pos + 1) bs)
    | .invalid => fail 1 .startByte
    | .two =>
      match bs with
      | [] => fail 1 .unexpectedEnd
      | c :: rest =>
        if isContinuation 0x80 0xBF c then
          prependChar (b.toNat % 32 * 64 + payload c) (decodeUtf8 (pos + 2) rest)
        else fail 1 .continuationByte
    | .three low high =>
      match bs with
      | [] => fail 1 .unexpectedEnd
      | c :: bs =>
        if !isContinuation low high c then fail 1 .continuationByte
        else
          match bs with
          | [] => fail 2 .unexpectedEnd
          | d :: rest =>
            if isContinuation 0x80 0xBF d then
              prependChar ((b.toNat % 16 * 64 + payload c) * 64 + payload d)
                (decodeUtf8 (pos + 3) rest)
            else fail 2 .continuationByte
    | .four low high =>
      match bs with
      | [] => fail 1 .unexpectedEnd
      | c :: bs =>
        if !isContinuation low high c then fail 1 .continuationByte
        else
          match bs with
          | [] => fail 2 .unexpectedEnd
          | d :: bs =>
            if !isContinuation 0x80 0xBF d then fail 2 .continuationByte
            else
              match bs with
              | [] => fail 3 .unexpectedEnd
              | e :: rest =>
                if isContinuation 0x80 0xBF e then
                  prependChar (((b.toNat % 8 * 64 + payload c) * 64 + payload d) * 64 + payload e)
                    (decodeUtf8 (pos + 4) rest)
                else fail 3 .continuationByte

def decodeBelow (codec : String) (limit : Nat) (pos : Nat) :
    List UInt8 → Except DecodeError (List Char)
  | [] => .ok []
  | b :: bs =>
    if b.toNat < limit then prependChar b.toNat (decodeBelow codec limit (pos + 1) bs)
    else .error { codec, start := pos, count := 1, first := b, reason := .ordinal limit }

inductive ByteOrder where
  | little
  | big
  deriving DecidableEq, Repr

def ByteOrder.suffix : ByteOrder → String
  | .little => "le"
  | .big => "be"

def ByteOrder.pair (order : ByteOrder) (a b : UInt8) : Nat :=
  match order with
  | .little => b.toNat * 256 + a.toNat
  | .big => a.toNat * 256 + b.toNat

def ByteOrder.quad (order : ByteOrder) (a b c d : UInt8) : Nat :=
  match order with
  | .little => order.pair c d * 65536 + order.pair a b
  | .big => order.pair a b * 65536 + order.pair c d

def decodeUtf16 (order : ByteOrder) (pos : Nat) : List UInt8 → Except DecodeError (List Char)
  | [] => .ok []
  | [a] => .error ⟨"utf-16-" ++ order.suffix, pos, 1, a, .truncated⟩
  | a :: b :: rest =>
    let fail (count : Nat) (reason : DecodeReason) : Except DecodeError (List Char) :=
      .error ⟨"utf-16-" ++ order.suffix, pos, count, a, reason⟩
    let unit := order.pair a b
    if unit < 55296 || 57344 ≤ unit then prependChar unit (decodeUtf16 order (pos + 2) rest)
    else if 56320 ≤ unit then fail 2 .illegalEncoding
    else
      match rest with
      | [] => fail 2 .unexpectedEnd
      | [_] => fail 3 .unexpectedEnd
      | c :: d :: rest =>
        let low := order.pair c d
        if 56320 ≤ low && low < 57344 then
          prependChar (65536 + (unit - 55296) * 1024 + (low - 56320))
            (decodeUtf16 order (pos + 4) rest)
        else fail 2 .illegalSurrogate

def decodeUtf32 (order : ByteOrder) (pos : Nat) : List UInt8 → Except DecodeError (List Char)
  | [] => .ok []
  | a :: b :: c :: d :: rest =>
    let fail (reason : DecodeReason) : Except DecodeError (List Char) :=
      .error ⟨"utf-32-" ++ order.suffix, pos, 4, a, reason⟩
    let unit := order.quad a b c d
    if 1114112 ≤ unit then fail .codePointRange
    else if 55296 ≤ unit && unit < 57344 then fail .surrogateCodePoint
    else prependChar unit (decodeUtf32 order (pos + 4) rest)
  | a :: rest =>
    .error ⟨"utf-32-" ++ order.suffix, pos, rest.length + 1, a, .truncated⟩

/-- Without a mark, the bytes are checked in little order and then refused, unless there are too few
of them to hold a unit. -/
def refuseUnmarked (family : String) (size : Nat) (bytes : List UInt8)
    (checked : Except DecodeError (List Char)) : Except DecodeFailure (List Char) :=
  match checked with
  | .error e => .error (.malformed e)
  | .ok cs => if size ≤ bytes.length then .error (.unmarked family) else .ok cs

def settled (result : Except DecodeError (List Char)) : Except DecodeFailure (List Char) :=
  result.mapError .malformed

/-- The characters that bytes stand for. An unfinished mark of UTF-8 counts as no text. -/
def decodeChars (encoding : Encoding) (bytes : List UInt8) : Except DecodeFailure (List Char) :=
  match encoding with
  | .utf8 => settled (decodeUtf8 0 bytes)
  | .utf8Marked =>
    match bytes with
    | [] | [0xEF] | [0xEF, 0xBB] => .ok []
    | 0xEF :: 0xBB :: 0xBF :: rest => settled (decodeUtf8 0 rest)
    | _ => settled (decodeUtf8 0 bytes)
  | .ascii => settled (decodeBelow "ascii" 128 0 bytes)
  | .latin1 => settled (decodeBelow "latin-1" 256 0 bytes)
  | .utf16Little => settled (decodeUtf16 .little 0 bytes)
  | .utf16Big => settled (decodeUtf16 .big 0 bytes)
  | .utf16Marked =>
    match bytes with
    | 0xFF :: 0xFE :: rest => settled (decodeUtf16 .little 2 rest)
    | 0xFE :: 0xFF :: rest => settled (decodeUtf16 .big 2 rest)
    | _ => refuseUnmarked "UTF-16" 2 bytes (decodeUtf16 .little 0 bytes)
  | .utf32Little => settled (decodeUtf32 .little 0 bytes)
  | .utf32Big => settled (decodeUtf32 .big 0 bytes)
  | .utf32Marked =>
    match bytes with
    | 0xFF :: 0xFE :: 0 :: 0 :: rest => settled (decodeUtf32 .little 4 rest)
    | 0 :: 0 :: 0xFE :: 0xFF :: rest => settled (decodeUtf32 .big 4 rest)
    | _ => refuseUnmarked "UTF-32" 4 bytes (decodeUtf32 .little 0 bytes)

def decode (encoding : Encoding) (bytes : List UInt8) : Except DecodeFailure Text :=
  (decodeChars encoding bytes).map Text.ofChars

end Encoding

end LineScript
