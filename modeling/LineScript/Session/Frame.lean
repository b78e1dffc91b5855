import LineScript.Files.Path

/-! # Frames

The statements of one activation share a frame: the arguments that a call bound, the directory that
external scripts are looked for in, and the depth of nesting. An application may start a call at any
depth, also below zero.
-/

namespace LineScript

structure Frame where
  arguments : List Text := []
  base : Path
  depth : Int := 0
  function : Option Text := none
  deriving DecidableEq, Repr

namespace Frame

def firstArgument? (frame : Frame) : Option Text :=
  frame.arguments.head?

/-- The frame of a call: new arguments, the same directory, one level deeper. -/
def enter (frame : Frame) (function : Text) (arguments : List Text) : Frame :=
  { arguments, base := frame.base, depth := frame.depth + 1, function := some function }

end Frame

end LineScript
