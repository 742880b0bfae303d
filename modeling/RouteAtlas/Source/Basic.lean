import RouteAtlas.QualifiedName
import RouteAtlas.SortedMap

/-! # Layout and names of sources

A source is laid out as lines. It refers to classes by simple name where it can.
-/

namespace RouteAtlas

namespace Source

/-- Move lines to the right by a margin. -/
def indent (margin : String) (lines : List String) : List String :=
  lines.map fun line => if line.isEmpty then line else margin ++ line

/-- A block in braces: its opening line, its inner lines moved to the right, its closing brace. -/
def block (margin opening : String) (inner : List String) : List String :=
  (opening ++ " \x7b") :: indent margin inner ++ ["\x7d"]

/-- The text of lines, each with a line break. -/
def unlines (lines : List String) : String :=
  String.join (lines.map (· ++ "\n"))

/-- Texts with commas between them. -/
def commas (parts : List String) : String :=
  ", ".intercalate parts

end Source

/-! ## Imports

A simple name belongs to the first class that claims it, and later claimants of the name are written
in full.
-/

/-- The simple names of one source and what they stand for. -/
structure Imports where
  package : String
  /-- Packages whose members need no import. -/
  implicit : List String
  /-- The class that each simple name stands for. -/
  holders : SortedMap String String := .empty

namespace Imports

/-- Claim the simple name of a class, if it is still free. -/
def claim (imports : Imports) (qualified : String) : Imports :=
  let simple := QualifiedName.simple qualified
  if (imports.holders.get? simple).isSome then imports
  else { imports with holders := imports.holders.insert simple qualified }

/-- Claim names one after another. -/
def claimAll (imports : Imports) (names : List String) : Imports :=
  names.foldl claim imports

/-- How a class is written: by its simple name if that stands for it, else in full. -/
def written (imports : Imports) (qualified : String) : String :=
  let simple := QualifiedName.simple qualified
  if imports.holders.get? simple = some qualified then simple else qualified

/-- Whether a class has to be imported: it lies neither in the default package, nor in that of the
    source, nor in one whose members need no import. -/
def isForeign (imports : Imports) (qualified : String) : Bool :=
  let package := QualifiedName.package qualified
  !package.isEmpty && package != imports.package && !imports.implicit.contains package

def imported (imports : Imports) : List String :=
  sortedDistinct (imports.holders.values.filter imports.isForeign)

/-- The import lines, each with a line break. -/
def lines (imports : Imports) (terminator : String) : String :=
  String.join (imports.imported.map fun name => "import " ++ name ++ terminator ++ "\n")

end Imports

end RouteAtlas
