import RouteAtlas.Toml.Quoted
import RouteAtlas.Toml.Scalar
import RouteAtlas.Toml.Table

/-! # TOML documents

A document is a list of headers and settings, each on a line of its own. Headers say which table the
settings below them go to.
-/

namespace RouteAtlas.Toml

/-- How many names a key may have, and how many containers a value may lie in. -/
def nestingLimit : Nat := 79

def isNameChar (c : Char) : Bool :=
  c.isAlphanum || c = '_' || c = '-'

namespace Scanner

def name : Scanner String := fun cs =>
  let bare := cs.takeWhile isNameChar
  if bare.isEmpty then Quoted.scanLine cs
  else some (String.ofList bare, cs.dropWhile isNameChar)

/-- Scan a key: names with points between them. -/
def key : Scanner Key := do
  let names ← chain do
    blanks
    let part ← name
    blanks
    return (part, ← accept '.')
  match names.getLast? with
  | some last =>
    if names.length ≤ nestingLimit then return ⟨names.dropLast, last⟩ else failure
  | none => failure

/-- Scan a key and its value. -/
def setting (value : Scanner Value) : Scanner (Key × Value) := do
  let path ← key
  expect '='
  blanks
  return (path, ← value)

/-- Scan the items of an array and its closing bracket. A comma may follow the last item. -/
def items (value : Scanner Value) : Scanner Value := do
  gap
  if ← accept ']' then return .array []
  let found ← chain do
    let item ← value
    gap
    if ← accept ',' then
      gap
      return (item, !(← accept ']'))
    expect ']'
    return (item, false)
  return .array found

/-- Scan the settings of a table between braces and its closing brace. -/
def inlineTable (value : Scanner Value) : Scanner Value := do
  blanks
  if ← accept '\x7d' then return .table .inline []
  let settings ← chain do
    let found ← setting value
    blanks
    if ← accept ',' then return (found, true)
    expect '\x7d'
    return (found, false)
  match Members.ofSettings settings with
  | some members => return .table .inline members
  | none => failure

/-- Scan a value. Containers have values of the given kind in them. -/
def valueWith (inner : Option (Scanner Value)) : Scanner Value := do
  match ← peek, inner with
  | some '"', _ | some '\'', _ => return .text (← Quoted.scan)
  | some '[', some value =>
    expect '['
    items value
  | some '\x7b', some value =>
    expect '\x7b'
    inlineTable value
  | _, _ => Scalar.scan

/-- Scan a value that lies no deeper than the given number of containers. -/
def value : Nat → Scanner Value
  | 0 => valueWith none
  | depth + 1 => valueWith (value depth)

end Scanner

inductive Statement where
  /-- A header: the settings below go to this table. -/
  | header (key : Key)
  /-- A header in double brackets: the settings below go to a further table of this name. -/
  | element (key : Key)
  | setting (key : Key) (value : Value)

namespace Statement

/-- Scan the part of a header behind its first bracket. -/
def scanHeader : Scanner Statement := do
  if ← Scanner.accept '[' then
    let key ← Scanner.key
    Scanner.expect ']'
    Scanner.expect ']'
    return .element key
  let key ← Scanner.key
  Scanner.expect ']'
  return .header key

/-- Scan a statement and what stands between it and the next one. -/
def scan : Scanner (Statement × Bool) := do
  let statement ←
    if ← Scanner.accept '[' then scanHeader
    else do
      let (key, value) ← Scanner.setting (Scanner.value nestingLimit)
      pure (.setting key value)
  Scanner.lineEnd
  Scanner.gap
  return (statement, (← Scanner.peek).isSome)

def scanAll : Scanner (List Statement) := do
  Scanner.gap
  if (← Scanner.peek).isSome then Scanner.chain scan else return []

end Statement

/-- A document as far as it was read. -/
structure Draft where
  members : Members := []
  /-- The names of the table that settings go to. -/
  current : List String := []

/-- Take one more statement. -/
def Draft.add (draft : Draft) : Statement → Option Draft
  | .header key =>
    (Members.under (Members.define key.name) key.above draft.members).map (⟨·, key.names⟩)
  | .element key =>
    (Members.under (Members.append key.name) key.above draft.members).map (⟨·, key.names⟩)
  | .setting key value =>
    (Members.under (Members.assign key.name value key.above) draft.current draft.members).map
      (⟨·, draft.current⟩)

/-- A text without the mark that it may start with to show its encoding. -/
def dropByteOrderMark : List Char → List Char
  | '\ufeff' :: rest => rest
  | cs => cs

/-- The members of a document, if the text is one. -/
def parse (text : String) : Option Members := do
  let (statements, _) ← Statement.scanAll (dropByteOrderMark text.toList)
  let draft ← statements.foldlM Draft.add {}
  return draft.members

end RouteAtlas.Toml
