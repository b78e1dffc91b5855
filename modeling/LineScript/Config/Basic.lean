import LineScript.Encoding.Codec

/-! # Configurations

The settings of an interpreter and their defaults. An application can make one with any numbers;
settings that come from outside are checked first. The codecs of the platform go with the settings,
since one of these names an encoding.
-/

namespace LineScript

structure Config where
  valueOverhead : Int := 16
  maxCallDepth : Int := 100
  trace : Bool := true
  encoding : Text := "utf-8"
  defaultWindowTitle : Text := "Window"
  scriptExtension : Text := ".jlsh"
  codecs : Codecs := fun _ => none

namespace Config

/-- The deepest nesting of activations that any configuration allows. -/
def depthCap : Int := 118

/-- The depth at which calls and external scripts are refused. -/
def depthLimit (config : Config) : Int :=
  min config.maxCallDepth depthCap

/-- The codec of the encoding that is set, in which values are measured and scripts are read. -/
def codec (config : Config) : Except EncodingNameError Codec :=
  Codec.find config.codecs config.encoding

end Config

end LineScript
