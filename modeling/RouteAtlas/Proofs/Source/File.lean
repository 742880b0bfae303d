import RouteAtlas.Proofs.Source.Names
import RouteAtlas.Proofs.Source.Root

/-! # Reading a file

A source is read back as a file: its lines, what it says about names, and the lines of its one
method.
-/

namespace RouteAtlas

namespace Source

def linesOf (text : String) : List String :=
  (text.toList.splitOn '\n').map String.ofList

theorem linesOf_append (first second : String) :
    linesOf (first ++ "\n" ++ second) = linesOf first ++ linesOf second := by
  have letters : (first ++ "\n" ++ second).toList = first.toList ++ '\n' :: second.toList := by
    simp
  rw [linesOf, letters, List.splitOn_append_cons_self, List.map_append]
  rfl

theorem linesOf_line {line : String} (whole : '\n' ∉ line.toList) : linesOf line = [line] := by
  rw [linesOf, List.splitOn_eq_singleton whole, List.map_singleton, String.ofList_toList]

theorem unlines_cons (line : String) (lines : List String) :
    unlines (line :: lines) = line ++ "\n" ++ unlines lines := by
  apply String.toList_injective
  simp [toList_unlines]

/-- After the last line break nothing is left. -/
theorem linesOf_unlines (lines : List String) :
    linesOf (unlines lines) = lines.flatMap linesOf ++ [""] := by
  induction lines with
  | nil => decide
  | cons line lines ih =>
      rw [unlines_cons, linesOf_append, ih, List.flatMap_cons, List.append_assoc]

theorem flatMap_linesOf {lines : List String} (whole : ∀ line ∈ lines, '\n' ∉ line.toList) :
    lines.flatMap linesOf = lines := by
  have single := List.flatMap_congr fun line member => linesOf_line (whole line member)
  simpa using single

end Source

namespace Language

/-- The start of the line that opens a method. -/
def methodWord : Language → String
  | .kotlin => "override fun "
  | .java => "public void "

/-- The line of a statement outside classes. -/
def statement (language : Language) (keyword text : String) : String :=
  keyword ++ text ++ language.terminator

/-- What such a line states, if it has the given keyword. -/
def statement? (language : Language) (keyword line : String) : Option String := do
  let rest ← line.toList.dropPrefix? keyword.toList
  let text ← rest.dropSuffix? language.terminator.toList
  return String.ofList text

/-- What stands before the notice of a source. -/
def preamble (language : Language) (scope : Scope) : List String :=
  (if scope.package.isEmpty then [] else [language.statement "package " scope.package, ""]) ++
    if scope.imports.isEmpty then []
    else scope.imports.map (language.statement "import ") ++ [""]

/-- What the lines of a source say about names. -/
def readScope (language : Language) (lines : List String) : Scope :=
  let head := lines.takeWhile (· != "/**")
  ⟨(head.findSome? (language.statement? "package ")).getD "",
    head.filterMap (language.statement? "import ")⟩

/-- Whether a line opens a method. -/
def opensMethod (language : Language) (line : String) : Bool :=
  (language.margin ++ language.methodWord).toList.isPrefixOf line.toList

/-- The lines of the last method of a source. Two braces and the end of the text follow them. -/
def bodyOf (language : Language) (lines : List String) : List String :=
  ((lines.reverse.drop 3).takeWhile fun line => !language.opensMethod line).reverse

section Preamble

variable (language : Language)

theorem statement?_self (keyword text : String) :
    language.statement? keyword (language.statement keyword text) = some text := by
  have first : (language.statement keyword text).toList.dropPrefix? keyword.toList =
      some (text.toList ++ language.terminator.toList) := by
    rw [statement, String.toList_append, String.toList_append, List.append_assoc]
    exact List.dropPrefix?_append_of_beq _ (beq_self_eq_true _)
  have last : (text.toList ++ language.terminator.toList).dropSuffix?
      language.terminator.toList = some text.toList :=
    List.dropSuffix?_eq_some_iff.mpr ⟨_, rfl, beq_self_eq_true _⟩
  simp [statement?, first, last]

theorem statement?_import (text : String) :
    language.statement? "package " (language.statement "import " text) = none := by
  simp [statement?, statement, List.dropPrefix?]

theorem statement?_package (text : String) :
    language.statement? "import " (language.statement "package " text) = none := by
  simp [statement?, statement, List.dropPrefix?]

theorem source_eq (unit : GeneratedUnit) :
    language.source unit = Source.unlines
      (language.preamble ⟨unit.key.package, (language.imports unit).imported⟩ ++
        ["/**", " * " ++ Contract.notice, " */"] ++
        language.lines (language.imports unit).written unit.key.name unit.body) := by
  have head : language.packageLine unit.key.package = Source.unlines
      (if unit.key.package.isEmpty then []
        else [language.statement "package " unit.key.package, ""]) := by
    unfold packageLine
    split
    · rfl
    · apply String.toList_injective
      simp [Source.toList_unlines, statement]
  have imported : language.importLines (language.imports unit) = Source.unlines
      (if (language.imports unit).imported.isEmpty then []
        else (language.imports unit).imported.map (language.statement "import ") ++ [""]) := by
    have shape : (language.imports unit).lines language.terminator =
        Source.unlines ((language.imports unit).imported.map (language.statement "import ")) := by
      simp only [Imports.lines, Source.unlines, List.map_map]
      rfl
    unfold importLines
    rw [shape]
    cases (language.imports unit).imported with
    | nil => rfl
    | cons name names =>
        have filled : (Source.unlines
            ((name :: names).map (language.statement "import "))).isEmpty = false := by
          rw [List.map_cons, Source.unlines_cons]
          simp [statement]
        simp only [filled, List.isEmpty_cons, Bool.false_eq_true, if_false,
          Source.unlines_append]
        rfl
  have notice : sourceHeader = Source.unlines ["/**", " * " ++ Contract.notice, " */"] := by
    decide
  rw [source, head, imported, notice, preamble]
  simp only [Source.unlines_append]

theorem mem_preamble {scope : Scope} {line : String} (member : line ∈ language.preamble scope) :
    line = language.statement "package " scope.package ∨ line = "" ∨
      ∃ name ∈ scope.imports, line = language.statement "import " name := by
  simp only [preamble, List.mem_append] at member
  rcases member with package | imports
  · split at package
    · cases package
    · simp only [List.mem_cons, List.not_mem_nil, or_false] at package
      rcases package with first | blank
      · exact .inl first
      · exact .inr (.inl blank)
  · split at imports
    · cases imports
    · simp only [List.mem_append, List.mem_map, List.mem_singleton] at imports
      rcases imports with ⟨name, known, rfl⟩ | blank
      · exact .inr (.inr ⟨name, known, rfl⟩)
      · exact .inr (.inl blank)

theorem newline_not_mem_statement {keyword text : String} (keywordWhole : '\n' ∉ keyword.toList)
    (textWhole : '\n' ∉ text.toList) : '\n' ∉ (language.statement keyword text).toList := by
  have ended : '\n' ∉ language.terminator.toList := by
    cases language <;> decide
  simp [statement, keywordWhole, textWhole, ended]

/-- The lines of a source whose package and imports are free of line breaks. -/
theorem linesOf_source {unit : GeneratedUnit} (packageWhole : '\n' ∉ unit.key.package.toList)
    (importsWhole : ∀ name ∈ (language.imports unit).imported, '\n' ∉ name.toList) :
    Source.linesOf (language.source unit) =
      language.preamble ⟨unit.key.package, (language.imports unit).imported⟩ ++
        ["/**", " * " ++ Contract.notice, " */"] ++
        (language.lines (language.imports unit).written unit.key.name unit.body).flatMap
          Source.linesOf ++ [""] := by
  have preambleWhole : ∀ line ∈
      language.preamble ⟨unit.key.package, (language.imports unit).imported⟩,
      '\n' ∉ line.toList := by
    intro line member
    rcases language.mem_preamble member with rfl | rfl | ⟨name, known, rfl⟩
    · exact language.newline_not_mem_statement (by decide) packageWhole
    · decide
    · exact language.newline_not_mem_statement (by decide) (importsWhole name known)
  rw [source_eq, Source.linesOf_unlines, List.flatMap_append, List.flatMap_append,
    Source.flatMap_linesOf preambleWhole, Source.flatMap_linesOf (by decide)]

/-- The names of a source are read back from what stands before its notice. -/
theorem readScope_preamble (scope : Scope) (rest : List String) :
    language.readScope (language.preamble scope ++ "/**" :: rest) = scope := by
  have noNotice : ∀ line ∈ language.preamble scope, (line != "/**") = true := by
    intro line member
    rw [bne_iff_ne]
    rintro rfl
    rcases language.mem_preamble member with package | blank | ⟨name, -, imports⟩
    · simpa [statement] using congrArg String.toList package
    · exact absurd blank (by decide)
    · simpa [statement] using congrArg String.toList imports
  have head : (language.preamble scope ++ "/**" :: rest).takeWhile (· != "/**") =
      language.preamble scope := by
    rw [List.takeWhile_append_of_pos noNotice]
    simp
  have blankPackage : language.statement? "package " "" = none := by
    cases language <;> decide
  have blankImport : language.statement? "import " "" = none := by
    cases language <;> decide
  have noPackage : ∀ names : List String, (names.map (language.statement "import ")).findSome?
      (language.statement? "package ") = none := by
    intro names
    rw [List.findSome?_map, List.findSome?_eq_none_iff]
    exact fun name _ => language.statement?_import name
  have imports : ∀ names : List String, (names.map (language.statement "import ")).filterMap
      (language.statement? "import ") = names := by
    intro names
    rw [List.filterMap_map]
    exact (List.filterMap_congr fun name _ => language.statement?_self "import " name).trans
      List.filterMap_some
  obtain ⟨package, names⟩ := scope
  rw [readScope, head, preamble, Scope.mk.injEq]
  simp only [List.findSome?_append, List.filterMap_append]
  constructor
  case left =>
    have others : (if names.isEmpty then []
        else names.map (language.statement "import ") ++ [""]).findSome?
          (language.statement? "package ") = none := by
      split
      · rfl
      · simp [List.findSome?_append, noPackage, blankPackage]
    rw [others, Option.or_none]
    split
    case isTrue absent => exact (String.isEmpty_iff.mp absent).symm
    case isFalse => simp [statement?_self]
  case right =>
    have package : (if package.isEmpty then []
        else [language.statement "package " package, ""]).filterMap
          (language.statement? "import ") = [] := by
      split
      · rfl
      · simp [statement?_package, blankImport]
    rw [package, List.nil_append]
    split
    case isTrue absent => exact (List.isEmpty_iff.mp absent).symm
    case isFalse => simp [List.filterMap_append, imports, blankImport]

end Preamble

section Body

variable (language : Language)

/-- The lines of a class whose last member is a method. -/
def classBlock (language : Language) (outer : String) (before : List String) (inner : String)
    (body : List String) : List String :=
  Source.block language.margin outer
    (before ++ Source.block language.margin (language.methodWord ++ inner) body)

theorem kotlin_classLines (name contract method parameter : String) (before body : List String) :
    Source.Kotlin.classLines name contract (before ++ Source.Kotlin.method method parameter body) =
      kotlin.classBlock ("public class " ++ Source.Kotlin.className name ++ " : " ++ contract)
        before (method ++ "(" ++ parameter ++ ")") body := by
  rw [classBlock, ← String.append_assoc, ← String.append_assoc, ← String.append_assoc]
  rfl

theorem java_classLines (name contract method parameter : String) (before body : List String) :
    Source.Java.classLines name contract (before ++ Source.Java.method method parameter body) =
      java.classBlock ("public class " ++ name ++ " implements " ++ contract)
        (before ++ ["@Override"]) (method ++ "(" ++ parameter ++ ")") body := by
  rw [classBlock, ← String.append_assoc, ← String.append_assoc, ← String.append_assoc,
    List.append_assoc]
  rfl

theorem isGap_margin : Source.IsGap language.margin := by
  cases language <;> rfl

theorem opensMethod_method (inner : String) :
    language.opensMethod (language.margin ++ (language.methodWord ++ inner)) = true := by
  rw [opensMethod, List.isPrefixOf_iff_prefix]
  exact ⟨inner.toList, by simp⟩

/-- A line within a method does not open one. -/
theorem opensMethod_indent {body : List String} {line : String}
    (member : line ∈ Source.indent language.margin (Source.indent language.margin body)) :
    language.opensMethod line = false := by
  simp only [Source.indent, List.map_map, List.mem_map, Function.comp_apply] at member
  obtain ⟨inside, -, rfl⟩ := member
  by_cases blank : inside.isEmpty = true
  · rw [String.isEmpty_iff.mp blank]
    cases language <;> decide
  · cases language <;>
      simp [blank, opensMethod, methodWord, margin, Source.Kotlin.margin, Source.Java.margin,
        List.isPrefixOf]

theorem newline_not_mem_indent {lines : List String} (whole : ∀ line ∈ lines, '\n' ∉ line.toList) :
    ∀ line ∈ Source.indent language.margin lines, '\n' ∉ line.toList := by
  have marginWhole := language.isGap_margin.whole
  intro line member
  obtain ⟨inside, known, rfl⟩ := List.mem_map.mp member
  split
  · exact whole inside known
  · simp [marginWhole, whole inside known]

theorem newline_not_mem_block {opening : String} {inner : List String}
    (openingWhole : '\n' ∉ opening.toList) (innerWhole : ∀ line ∈ inner, '\n' ∉ line.toList) :
    ∀ line ∈ Source.block language.margin opening inner, '\n' ∉ line.toList := by
  simp only [Source.block, List.forall_mem_append, List.forall_mem_cons]
  exact ⟨⟨by simp [openingWhole], language.newline_not_mem_indent innerWhole⟩, by decide,
    List.forall_mem_nil _⟩

theorem newline_not_mem_classBlock {outer inner : String} {before body : List String}
    (outerWhole : '\n' ∉ outer.toList) (beforeWhole : ∀ line ∈ before, '\n' ∉ line.toList)
    (innerWhole : '\n' ∉ inner.toList) (bodyWhole : ∀ line ∈ body, '\n' ∉ line.toList) :
    ∀ line ∈ language.classBlock outer before inner body, '\n' ∉ line.toList := by
  have opening : '\n' ∉ (language.methodWord ++ inner).toList := by
    cases language <;> simp [methodWord, innerWhole]
  exact language.newline_not_mem_block outerWhole
    (List.forall_mem_append.mpr ⟨beforeWhole, language.newline_not_mem_block opening bodyWhole⟩)

/-- The lines of the method are what stands between the line that opens it and the two braces at the
    end. -/
theorem bodyOf_classBlock (front : List String) {outer inner : String} {before body : List String}
    (innerWhole : '\n' ∉ inner.toList) (bodyWhole : ∀ line ∈ body, '\n' ∉ line.toList) :
    language.bodyOf
        (front ++ (language.classBlock outer before inner body).flatMap Source.linesOf ++ [""]) =
      Source.indent language.margin (Source.indent language.margin body) := by
  have opening :
      Source.indent language.margin (before ++ [language.methodWord ++ inner ++ " \x7b"]) =
        Source.indent language.margin before ++
        [language.margin ++ (language.methodWord ++ (inner ++ " \x7b"))] := by
    simp [Source.indent, String.append_assoc]
  have openingWhole : '\n' ∉
      (language.margin ++ (language.methodWord ++ (inner ++ " \x7b"))).toList := by
    cases language <;>
      simp [innerWhole, margin, methodWord, Source.Kotlin.margin, Source.Java.margin]
  have closingWhole : (Source.indent language.margin ["\x7d"] ++ ["\x7d"]).flatMap Source.linesOf =
      [language.margin ++ "\x7d", "\x7d"] := by
    cases language <;> decide
  have placed : (Source.indent language.margin (Source.indent language.margin body)).flatMap
      Source.linesOf = Source.indent language.margin (Source.indent language.margin body) :=
    Source.flatMap_linesOf
      (language.newline_not_mem_indent (language.newline_not_mem_indent bodyWhole))
  have inside : ∀ line ∈
      (Source.indent language.margin (Source.indent language.margin body)).reverse,
      (!language.opensMethod line) = true := by
    intro line member
    rw [language.opensMethod_indent (List.mem_reverse.mp member)]
    rfl
  rw [classBlock, Source.block_block, opening]
  simp only [List.flatMap_append, List.flatMap_cons, closingWhole, placed,
    Source.linesOf_line openingWhole, bodyOf, List.reverse_append, List.reverse_cons,
    List.reverse_nil, List.nil_append, List.cons_append, List.append_assoc, List.drop_succ_cons,
    List.drop_zero]
  rw [List.takeWhile_append_of_pos inside, List.takeWhile_cons_of_neg, List.append_nil,
    List.reverse_reverse]
  simp [opensMethod_method]

/-- A unit with a package on one line, all of whose classes are named by qualified names. -/
structure Names (language : Language) (unit : GeneratedUnit) : Prop where
  package : '\n' ∉ unit.key.package.toList
  mentions : ∀ name ∈ language.mentions unit.body, IsQualified name

namespace Names

variable {language : Language} {unit : GeneratedUnit}

theorem imported (names : language.Names unit) :
    ∀ name ∈ (language.imports unit).imported, '\n' ∉ name.toList := by
  intro name member
  obtain ⟨⟨key, held⟩, -⟩ := Imports.mem_imported.mp member
  obtain ⟨-, mentioned⟩ := Imports.hold_claimAll _ _ _ key name held
  exact (names.mentions name mentioned).isWord.isCode.whole

theorem readScope (names : language.Names unit) :
    language.readScope (Source.linesOf (language.source unit)) =
      ⟨unit.key.package, (language.imports unit).imported⟩ := by
  rw [language.linesOf_source names.package names.imported, List.append_assoc, List.append_assoc]
  exact language.readScope_preamble _ _

/-- How the lines of the method in a source are read. -/
theorem map_readLine (names : language.Names unit) {outer inner : String}
    {before body : List String}
    (shape : language.lines (language.imports unit).written unit.key.name unit.body =
      language.classBlock outer before inner body)
    (innerWhole : '\n' ∉ inner.toList) (bodyWhole : ∀ line ∈ body, '\n' ∉ line.toList) :
    (language.bodyOf (Source.linesOf (language.source unit))).map Source.readLine =
      body.map Source.readLine := by
  rw [language.linesOf_source names.package names.imported, shape,
    language.bodyOf_classBlock _ innerWhole bodyWhole,
    Source.map_readLine_indent language.isGap_margin,
    Source.map_readLine_indent language.isGap_margin]

end Names

end Body

end Language

end RouteAtlas
