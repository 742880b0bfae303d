import RouteAtlas.Source.Basic
import RouteAtlas.Source.Java
import RouteAtlas.Source.Kotlin

/-! # Rendered units

The source file of a unit in one of the languages: its package, its imports, a notice, and its
class.
-/

namespace RouteAtlas

inductive Language where
  | kotlin
  | java
  deriving DecidableEq, Repr

structure RenderedUnit where
  key : UnitKey
  /-- Where the file lies below the output directory. -/
  path : String
  source : String
  /-- Names of the declarations that the unit is made of. -/
  originating : List String := []
  deriving DecidableEq, Repr

/-- A name that becomes part of the name of a class is not empty and made of letters, digits,
    underscores and dollars. -/
def checkIdentifier (key : UnitKey) (name : String) : Except BuildError Unit :=
  if !name.isEmpty && name.toList.all (fun c => QualifiedName.isWordChar c || c == '$') then .ok ()
  else .error (.render key.qualifiedName ("[" ++ name ++ "] is not usable in a class name"))

/-- The groups of a unit become parts of class names. -/
def UnitBody.check (key : UnitKey) : UnitBody → Except BuildError Unit
  | .root groups => groups.forM fun group => checkIdentifier key group.1
  | .group name _ => checkIdentifier key name
  | _ => .ok ()

def sourceHeader : String :=
  "/**\n * " ++ Contract.notice ++ "\n */\n"

/-- What makes the text of the source file of a unit. -/
structure Backend where
  extension : String
  text : GeneratedUnit → Except BuildError String

/-- The source file of a unit. -/
def Backend.render (backend : Backend) (unit : GeneratedUnit) : Except BuildError RenderedUnit :=
  (backend.text unit).map fun source =>
    { key := unit.key
      path := unit.key.path backend.extension
      source
      originating := unit.originating }

namespace Language

def ofName? : String → Option Language
  | "kotlin" | "kt" => some .kotlin
  | "java" => some .java
  | _ => none

def name : Language → String
  | .kotlin => "kotlin"
  | .java => "java"

def extension : Language → String
  | .kotlin => "kt"
  | .java => "java"

/-- What ends a statement outside classes. -/
def terminator : Language → String
  | .kotlin => ""
  | .java => ";"

/-- Packages whose members need no import. -/
def implicitPackages : Language → List String
  | .kotlin => Source.Kotlin.implicitPackages
  | .java => Source.Java.implicitPackages

/-- The classes that a unit mentions, in the order of its text. -/
def mentions : Language → UnitBody → List String
  | .kotlin => Source.Kotlin.mentions
  | .java => Source.Java.mentions

/-- The lines of a unit's class. -/
def lines : Language → (String → String) → String → UnitBody → List String
  | .kotlin => Source.Kotlin.lines
  | .java => Source.Java.lines

/-- The names of the source of a unit. -/
def imports (language : Language) (unit : GeneratedUnit) : Imports :=
  Imports.claimAll ⟨unit.key.package, language.implicitPackages, .empty⟩
    (language.mentions unit.body)

/-- The line that says in which package a source lies, with a blank line. -/
def packageLine (language : Language) (package : String) : String :=
  if package.isEmpty then "" else "package " ++ package ++ language.terminator ++ "\n\n"

/-- The import lines of a source, with a blank line if there are any. -/
def importLines (language : Language) (imports : Imports) : String :=
  let lines := imports.lines language.terminator
  if lines.isEmpty then "" else lines ++ "\n"

/-- The text of the source of a unit. -/
def source (language : Language) (unit : GeneratedUnit) : String :=
  let imports := language.imports unit
  language.packageLine unit.key.package ++ language.importLines imports ++ sourceHeader ++
    Source.unlines (language.lines imports.written unit.key.name unit.body)

/-- A language makes the text of a unit, unless a name in it is not usable. -/
def backend (language : Language) : Backend where
  extension := language.extension
  text unit := (unit.body.check unit.key).map fun _ => language.source unit

/-- The source file of a unit. -/
def render (language : Language) (unit : GeneratedUnit) : Except BuildError RenderedUnit :=
  language.backend.render unit

end Language

end RouteAtlas
