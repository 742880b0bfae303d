/-! # Value kinds

How a value is taken out of a parameter bundle: the eight scalars and strings by a getter of their
own, parcelable and serializable values whole, everything else as text to be parsed.
-/

namespace RouteAtlas

/-- How a value is taken out of a parameter bundle. -/
inductive ValueKind where
  | byte
  | short
  | int
  | long
  | char
  | float
  | double
  | boolean
  | string
  | parcelable
  | serializable
  | object
  deriving DecidableEq, Repr

namespace ValueKind

/-- The types whose kind is known by name, in the spellings of both languages. -/
def byTypeName : List (String × ValueKind) :=
  [("kotlin.Byte", .byte), ("java.lang.Byte", .byte), ("byte", .byte),
    ("kotlin.Short", .short), ("java.lang.Short", .short), ("short", .short),
    ("kotlin.Int", .int), ("java.lang.Integer", .int), ("int", .int),
    ("kotlin.Long", .long), ("java.lang.Long", .long), ("long", .long),
    ("kotlin.Char", .char), ("java.lang.Character", .char), ("char", .char),
    ("kotlin.Float", .float), ("java.lang.Float", .float), ("float", .float),
    ("kotlin.Double", .double), ("java.lang.Double", .double), ("double", .double),
    ("kotlin.Boolean", .boolean), ("java.lang.Boolean", .boolean), ("boolean", .boolean),
    ("kotlin.String", .string), ("java.lang.String", .string)]

/-- Kind of a primitive, boxed or string type. -/
def ofTypeName? (name : String) : Option ValueKind :=
  byTypeName.lookup name

/-- Number of the kind in the runtime. -/
def code : ValueKind → Int
  | .boolean => 0
  | .byte => 1
  | .short => 2
  | .int => 3
  | .long => 4
  | .char => 5
  | .float => 6
  | .double => 7
  | .string => 8
  | .serializable => 9
  | .parcelable => 10
  | .object => 11

/-- Whether values of the kind are primitive, hence never null. -/
def isScalar : ValueKind → Bool
  | .string | .parcelable | .serializable | .object => false
  | _ => true

/-- Name of the kind in its getter: `Int` for `getInt`. -/
def getter? : ValueKind → Option String
  | .byte => some "Byte"
  | .short => some "Short"
  | .int => some "Int"
  | .long => some "Long"
  | .char => some "Char"
  | .float => some "Float"
  | .double => some "Double"
  | .boolean => some "Boolean"
  | .string => some "String"
  | .parcelable | .serializable | .object => none

/-- Name of the kind in its getter, or that of strings. -/
def getter (kind : ValueKind) : String :=
  kind.getter?.getD "String"

def name : ValueKind → String
  | .byte => "Byte"
  | .short => "Short"
  | .int => "Int"
  | .long => "Long"
  | .char => "Char"
  | .float => "Float"
  | .double => "Double"
  | .boolean => "Boolean"
  | .string => "String"
  | .parcelable => "Parcelable"
  | .serializable => "Serializable"
  | .object => "Object"

def lowerName : ValueKind → String
  | .byte => "byte"
  | .short => "short"
  | .int => "int"
  | .long => "long"
  | .char => "char"
  | .float => "float"
  | .double => "double"
  | .boolean => "boolean"
  | .string => "string"
  | .parcelable => "parcelable"
  | .serializable => "serializable"
  | .object => "object"

end ValueKind

end RouteAtlas
