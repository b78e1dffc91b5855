import LineScript.Calendar.Moment
import LineScript.Text.Numeral
import LineScript.Text.Quoted

/-! # Failures of reading

A document can be malformed, or the text that it is read from can break off. A scalar whose form is
right can still stand for nothing: a date that no calendar has, or a number with too many digits.
-/

namespace LineScript.Yaml

inductive ScalarError where
  | codePointSize
  | codePointRange
  | emptyNumber
  | tooManyDigits (count : Nat)
  | notInteger (base : Nat) (text : Text)
  | notDecimal (text : Text)
  | scaleRange
  | notTruth (text : Text)
  | notMoment
  | calendar (error : CalendarError)
  deriving DecidableEq, Repr

namespace ScalarError

/-- The longest part of a text that a message about a whole number shows. -/
def shownLength : Nat := 200

def message : ScalarError → String
  | codePointSize => "Python int too large to convert to C int"
  | codePointRange => "chr() arg not in range(0x110000)"
  | emptyNumber => "string index out of range"
  | tooManyDigits count => Text.tooLongMessage count
  | notInteger base text =>
    let shown := String.ofList (text.quoted.toList.take shownLength)
    s!"invalid literal for int() with base {base}: {shown}"
  | notDecimal text => s!"could not convert string to float: {text.quoted}"
  | scaleRange => "int too large to convert to float"
  | notTruth text => text.quoted
  | notMoment => "'NoneType' object has no attribute 'groupdict'"
  | calendar error => error.message

end ScalarError

inductive ReadError where
  | malformed
  | cut
  | scalar (error : ScalarError)
  deriving DecidableEq, Repr

end LineScript.Yaml
