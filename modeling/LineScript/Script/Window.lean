import LineScript.Text.Search

/-! # Windows

A window block declares a title, a content and a button. Title and button are looked for in the
whole body of the block, the text of the content only up to the first closing brace of the content
block.
-/

namespace LineScript

structure Button where
  label : Text
  statement : Text
  deriving DecidableEq, Repr

structure Window where
  title : Text
  content : Text := ""
  button : Option Button := none
  deriving DecidableEq, Repr

namespace Window

/-- A keyword, an equals sign and a quoted text on one line. -/
def assigned? (keyword : Text) (cs : List CodePoint) : Option (List CodePoint) := do
  let rest ← Text.after? keyword.toList cs
  let rest ← Text.afterEquals? rest
  Text.quoted? rest

def firstAssigned? (keyword : Text) (cs : List CodePoint) : Option Text :=
  (Text.search (assigned? keyword) cs).map fun text => Text.ofList (Text.trim text)

/-- The start of the content block, and what follows it. -/
def contentStart? (cs : List CodePoint) : Option (List CodePoint) := do
  let rest ← Text.after? (Text.toList "@Content") cs
  let rest ← Text.afterEquals? rest
  Text.after? ['{'] rest

def boundStatement? (cs : List CodePoint) : Option (List CodePoint) := do
  let rest ← Text.after? [':'] (Text.trimLeft cs)
  let inner ← Text.after? ['{'] (Text.trimLeft rest)
  let (statement, rest) := Text.upTo (· == '}') inner
  let _ ← Text.after? ['}'] rest
  pure statement

/-- A label up to the first double quote that a bound statement follows, and that statement. -/
def labelled? : List CodePoint → Option (List CodePoint × List CodePoint)
  | [] => none
  | c :: cs =>
    match (if c = '"' then boundStatement? cs else none) with
    | some statement => some ([], statement)
    | none => (labelled? cs).map fun found => (c :: found.1, found.2)

def boundButton? (cs : List CodePoint) : Option (List CodePoint × List CodePoint) := do
  let rest ← Text.after? (Text.toList "BUTTON") cs
  let rest ← Text.afterEquals? rest
  let rest ← Text.after? ['"'] rest
  labelled? rest

def button? (cs : List CodePoint) : Option Button :=
  (Text.search boundButton? cs).map fun found =>
    { label := Text.ofList (Text.trim found.1), statement := Text.ofList (Text.trim found.2) }

/-- The text entry of the content block: it has to stand before the first closing brace. -/
def contentText? (inner : List CodePoint) : Option Text :=
  firstAssigned? "TEXT" (Text.trim inner)

/-- The window that the body of a block declares. Without a closed content block it has neither
content nor button; the button is looked for in the whole body. -/
def ofBody (body : List Text) (defaultTitle : Text) : Window :=
  let cs := (Text.intercalate "\n" body).toList
  let title := (firstAssigned? "@Title" cs).getD defaultTitle
  match Text.search contentStart? cs with
  | none => { title }
  | some block =>
    if block.contains '}' then
      { title
        content := (contentText? (Text.upTo (· == '}') block).1).getD ""
        button := button? cs }
    else { title }

def updateText? (text : Text) : Option Text :=
  firstAssigned? "TEXT" text.toList

end Window

end LineScript
