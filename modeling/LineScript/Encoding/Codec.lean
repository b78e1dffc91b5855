import LineScript.Encoding.Decode
import LineScript.Encoding.Encode

/-! # Codecs

A codec turns texts into bytes and bytes into texts. The common encodings have one each. A platform
may know others under names of their own; which ones those are is left open.
-/

namespace LineScript

structure Codec where
  encode : Text → Except EncodeError (List UInt8)
  decode : List UInt8 → Except DecodeFailure Text

def Encoding.codec (encoding : Encoding) : Codec where
  encode := encoding.encode
  decode := encoding.decode

/-- The codecs that a platform has besides those of the common encodings. -/
abbrev Codecs := String → Option Codec

def Codec.find (platform : Codecs) (name : Text) : Except EncodingNameError Codec :=
  match Encoding.find name with
  | .ok encoding => .ok encoding.codec
  | .error (.unknown text) =>
    match platform text with
    | some codec => .ok codec
    | none => .error (.unknown text)
  | .error error => .error error

end LineScript
