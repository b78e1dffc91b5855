import LineScript.Config.Load
import LineScript.Encoding.Pieces
import LineScript.Yaml.Document

/-! # Settings files

The command-line program reads its settings files as documents in UTF-8. A file is read piece by
piece, and what is wrong with a document may show before a fault in its bytes is met.
-/

namespace LineScript.Yaml

def readSettings : DocumentReader := fun bytes =>
  let delivery := Encoding.deliver blockSize bytes
  match read (.ofBlocks delivery.fault.isSome delivery.blocks), delivery.fault with
  | .ok value, _ => .ok value
  | .error .cut, some error => .error (.broken (.undecodable error))
  | .error (.scalar error), _ => .error (.broken (.scalar error))
  | .error _, _ => .error .malformed

end LineScript.Yaml
