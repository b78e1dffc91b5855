import LineScript.Text.Basic

/-! # Commands

The first word of a statement names its command. Words are compared exactly, so the case counts.
-/

namespace LineScript

inductive Command where
  | print
  | string
  | value
  | maxMemory
  | free
  | remark
  | output
  | debug
  | external
  | call
  | newWindow
  | updateWindow
  | unknown
  deriving DecidableEq, Repr

namespace Command

def words : List (Text × Command) :=
  [("print", print), ("string", string), ("@VAL", value), ("MAX_MEM", maxMemory), ("@FREE", free),
   ("@REM", remark), ("@STDO", output), ("@DEBUG", debug), ("@EXTERNAL", external), ("call", call),
   ("@NEW", newWindow), ("@UPDATE", updateWindow)]

def ofWord (word : Text) : Command :=
  match words.find? fun entry => entry.1 == word with
  | some entry => entry.2
  | none => unknown

end Command

end LineScript
