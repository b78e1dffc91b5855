import LineScript.Encoding.Codec

/-! # Memory budgets

A budget is a ceiling of bytes and the bytes that are charged against it. A charge that would pass
the ceiling is refused; a release is not checked, so the charge can become negative.
-/

namespace LineScript

structure Budget where
  ceiling : Int
  used : Int := 0
  deriving DecidableEq, Repr

namespace Budget

def available (budget : Budget) : Int :=
  budget.ceiling - budget.used

def allocate? (budget : Budget) (size : Int) : Option Budget :=
  if budget.used + size > budget.ceiling then none
  else some { budget with used := budget.used + size }

def release (budget : Budget) (size : Int) : Budget :=
  { budget with used := budget.used - size }

theorem allocate?_eq_none {budget : Budget} {size : Int} :
    budget.allocate? size = none ↔ budget.ceiling < budget.used + size := by
  unfold allocate?
  split
  · simp_all
  · simp_all

theorem allocate?_eq_some {budget charged : Budget} {size : Int} :
    budget.allocate? size = some charged ↔
      budget.used + size ≤ budget.ceiling ∧
        charged = { budget with used := budget.used + size } := by
  unfold allocate?
  split
  · rename_i hover
    simp [Int.not_le.2 hover]
  · rename_i hfit
    simp [Int.not_lt.1 hfit, eq_comm]

def text (budget : Budget) : String :=
  s!"MemoryBudget(ceiling={budget.ceiling}, used={budget.used})"

end Budget

inductive SizeError where
  | encodingName (error : EncodingNameError)
  | unencodable (error : EncodeError)
  deriving DecidableEq, Repr

/-- The bytes that a value is charged: an overhead and its length in the encoding of a codec. -/
def valueSize (overhead : Int) (codec : Except EncodingNameError Codec) (value : Text) :
    Except SizeError Int :=
  match codec with
  | .error error => .error (.encodingName error)
  | .ok codec =>
    match codec.encode value with
    | .error error => .error (.unencodable error)
    | .ok bytes => .ok (overhead + bytes.length)

end LineScript
