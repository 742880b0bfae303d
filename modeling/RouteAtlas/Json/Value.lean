import RouteAtlas.Text.Literal

/-! # JSON values and their text

Values to be written as JSON, members in the order given, either on one line or with one item a
line and two blanks for each level.
-/

namespace RouteAtlas.Json

inductive Value where
  | null
  | bool (value : Bool)
  | integer (value : Int)
  | text (content : String)
  | array (items : List Value)
  /-- An object with its members in the order to be written. -/
  | object (members : List (String × Value))

namespace Value

/-- Written form of one character inside a string. -/
def escapeChar (c : Char) : List Char :=
  if c = '"' then ['\\', '"']
  else if c = '\\' then ['\\', '\\']
  else if c = '\n' then ['\\', 'n']
  else if c = '\r' then ['\\', 'r']
  else if c = '\t' then ['\\', 't']
  else if c = '\x08' then ['\\', 'b']
  else if c = '\x0c' then ['\\', 'f']
  else if c.toNat < 0x20 then
    ['\\', 'u', '0', '0', Text.hexDigit (c.toNat / 16), Text.hexDigit (c.toNat % 16)]
  else [c]

/-- Written form of a string. -/
def quote (content : String) : List Char :=
  '"' :: content.toList.flatMap escapeChar ++ ['"']

/-- Written form of a value that holds no others. -/
def writeInteger (value : Int) : List Char :=
  (if value < 0 then ['-'] else []) ++ Nat.toDigits 10 value.natAbs

def writeBool (value : Bool) : List Char :=
  if value then ['t', 'r', 'u', 'e'] else ['f', 'a', 'l', 's', 'e']

mutual

/-- Write a value on one line, without blanks. -/
def write : Value → List Char
  | .null => ['n', 'u', 'l', 'l']
  | .bool value => writeBool value
  | .integer value => writeInteger value
  | .text content => quote content
  | .array items => '[' :: writeItems items ++ [']']
  | .object members => '\x7b' :: writeMembers members ++ ['\x7d']

/-- Write the items of an array, with commas between them. -/
def writeItems : List Value → List Char
  | [] => []
  | [item] => write item
  | item :: rest => write item ++ ',' :: writeItems rest

/-- Write the members of an object, with commas between them. -/
def writeMembers : List (String × Value) → List Char
  | [] => []
  | [(key, value)] => quote key ++ ':' :: write value
  | (key, value) :: rest => quote key ++ ':' :: write value ++ ',' :: writeMembers rest

end

/-- A line break and the blanks of a level. -/
def newLine (level : Nat) : List Char :=
  '\n' :: List.replicate (2 * level) ' '

mutual

/-- Write a value with one item a line, at the given level. -/
def layOut (level : Nat) : Value → List Char
  | .array (item :: rest) =>
    '[' :: layOutItems (level + 1) (item :: rest) ++ newLine level ++ [']']
  | .object (member :: rest) =>
    '\x7b' :: layOutMembers (level + 1) (member :: rest) ++ newLine level ++ ['\x7d']
  | .array [] => ['[', ']']
  | .object [] => ['\x7b', '\x7d']
  | .null => ['n', 'u', 'l', 'l']
  | .bool value => writeBool value
  | .integer value => writeInteger value
  | .text content => quote content

/-- Write the items of an array, each on a line of its own. -/
def layOutItems (level : Nat) : List Value → List Char
  | [] => []
  | [item] => newLine level ++ layOut level item
  | item :: rest => newLine level ++ layOut level item ++ ',' :: layOutItems level rest

/-- Write the members of an object, each on a line of its own. -/
def layOutMembers (level : Nat) : List (String × Value) → List Char
  | [] => []
  | [(key, value)] => newLine level ++ quote key ++ ':' :: ' ' :: layOut level value
  | (key, value) :: rest =>
    newLine level ++ quote key ++ ':' :: ' ' :: layOut level value
      ++ ',' :: layOutMembers level rest

end

/-- Text of a value on one line. -/
def compact (value : Value) : String :=
  String.ofList value.write

/-- Text of a value with one item a line. -/
def pretty (value : Value) : String :=
  String.ofList (value.layOut 0)

def ofText? : Option String → Value
  | some content => .text content
  | none => .null

def texts (contents : List String) : Value :=
  .array (contents.map .text)

end Value

end RouteAtlas.Json
