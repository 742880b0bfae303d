import RouteAtlas.Proofs.Classification.Ancestors
import RouteAtlas.Proofs.Ledger
import RouteAtlas.Proofs.Source.Statements

/-! # Reading injectors

The source of an injector is read back statement by statement, in either language: the items are
those of its plan, and the service that parses is there if the plan uses it.
-/

namespace RouteAtlas

/-- A plan whose fields are named by identifiers and whose types by qualified names. -/
structure InjectorPlan.IsNamed (plan : InjectorPlan) : Prop where
  target : IsQualified plan.target.name
  fields : ∀ statement ∈ plan.statements, ∀ field ∈ statement.field?, IsIdentifier field
  types : ∀ statement ∈ plan.statements, ∀ name ∈ statement.typeNames, IsQualified name

namespace Language

theorem names_of_plan (language : Language) {plan : InjectorPlan} (isNamed : plan.IsNamed) :
    language.Names plan.unit where
  package := by
    have whole := isNamed.target.isWord.isCode.whole
    rw [isNamed.target.eq_append] at whole
    exact fun newline => whole (by
      rw [String.append_assoc, String.toList_append]
      exact List.mem_append_left _ newline)
  mentions := by
    refine isQualified_of_mentions (List.forall_mem_cons.mpr ⟨isNamed.target, ?_⟩)
    intro name member
    obtain ⟨statement, known, typed⟩ := List.mem_flatMap.mp member
    exact isNamed.types statement known name typed

section Shape

variable (language : Language) (written : String → String)

/-- The member of the class for the service that parses. -/
def holderLine : String :=
  match language with
  | .kotlin => "private var serializationService: " ++ written Contract.jsonService ++ "? = null"
  | .java => "private " ++ written Contract.jsonService ++ " serializationService;"

/-- The line that looks this service up. -/
def initialiseLine : String :=
  match language with
  | .kotlin =>
    "serializationService = " ++ written Contract.launcher ++ ".getInstance().navigation(" ++
      written Contract.jsonService ++ "::class.java)"
  | .java =>
    "serializationService = " ++ written Contract.launcher ++ ".getInstance().navigation(" ++
      written Contract.jsonService ++ ".class);"

/-- The line that binds the target to a name. -/
def bindLine (target : String) : String :=
  match language with
  | .kotlin => "val substitute = target as " ++ written target
  | .java => written target ++ " substitute = (" ++ written target ++ ")target;"

/-- The lines of the method. -/
def injectorBody (plan : InjectorPlan) : List String :=
  (if plan.usesJson then [language.initialiseLine written] else []) ++
    [language.bindLine written plan.target.name] ++
    plan.statements.flatMap (language.statementLines written)

variable {written} (isWord : ∀ name, IsQualified name → Source.IsWord (written name))
include isWord

theorem yields_initialise : language.Yields (language.initialiseLine written) .initialise := by
  have isLauncher := isWord Contract.launcher (Contract.isQualified_of_runtime (by decide))
  have isService := isWord Contract.jsonService (Contract.isQualified_of_runtime (by decide))
  cases language with
  | kotlin => exact yields_kotlinInitialise isLauncher isService
  | java => exact yields_javaInitialise isLauncher isService

theorem yields_bind {target : String} (qualified : IsQualified target) :
    language.Yields (language.bindLine written target) .bind := by
  have isTarget := isWord target qualified
  cases language with
  | kotlin => exact yields_kotlinBind isTarget
  | java => exact yields_javaBind isTarget

/-- The lines of the method are read as the items of the plan, after the service if there is one. -/
theorem yields_injectorBody {plan : InjectorPlan} (isNamed : plan.IsNamed)
    (planned : ∀ statement ∈ plan.statements, statement.IsPlanned) :
    ∃ pieces, List.Forall₂ language.Yields (language.injectorBody written plan) pieces ∧
      Piece.method pieces = some (plan.usesJson, plan.statements.map Statement.item) := by
  obtain ⟨pieces, yields, items⟩ := spells_statements fun statement member =>
    spells_statement language isWord (planned statement member) (isNamed.fields statement member)
      (isNamed.types statement member)
  have bound := language.yields_bind isWord isNamed.target
  rw [injectorBody]
  cases plan.usesJson with
  | true =>
      refine ⟨.initialise :: .bind :: pieces,
        .cons (language.yields_initialise isWord) (.cons bound yields), ?_⟩
      rw [Piece.method, items, Option.map_some]
  | false =>
      refine ⟨.bind :: pieces, .cons bound yields, ?_⟩
      rw [Piece.method, items, Option.map_some]

/-- The class of an injector has one method, and before it the member for the service, if there is
    one. -/
theorem lines_injector {name : String} (nameWhole : '\n' ∉ name.toList) (plan : InjectorPlan) :
    ∃ outer overrides inner, '\n' ∉ outer.toList ∧ '\n' ∉ inner.toList ∧
      (∀ line ∈ overrides, line = "@Override") ∧
      language.lines written name (.injector plan) =
        language.classBlock ("public class " ++ outer)
          ((if plan.usesJson then [language.holderLine written, ""] else []) ++ overrides) inner
          (language.injectorBody written plan) := by
  have isSyringe := isWord Contract.syringe (Contract.isQualified_of_runtime (by decide))
  have contract := isSyringe.isCode.whole
  cases language with
  | kotlin =>
      refine ⟨Source.Kotlin.className name ++ " : " ++ written Contract.syringe, [],
        Contract.inject ++ "(" ++ "target: Any?" ++ ")", ?_, by decide, nofun, ?_⟩
      · have declared : '\n' ∉ (Source.Kotlin.className name).toList := by
          unfold Source.Kotlin.className
          split <;> simp [nameWhole]
        simp [declared, contract]
      · rw [List.append_nil, ← String.append_assoc, ← String.append_assoc]
        exact kotlin_classLines ..
  | java =>
      refine ⟨name ++ " implements " ++ written Contract.syringe, ["@Override"],
        Contract.inject ++ "(" ++ "Object target" ++ ")", ?_, by decide, by simp, ?_⟩
      · simp [nameWhole, contract]
      · rw [← String.append_assoc, ← String.append_assoc]
        exact java_classLines ..

end Shape

section Service

variable (language : Language)

theorem declaresService_margin (line : String) :
    language.declaresService (language.margin ++ line) =
      ("private ".toList.isPrefixOf line.toList &&
        Source.serviceName ∈ (Source.readLine line).head) := by
  rw [declaresService, Source.readLine_gap language.isGap_margin]
  cases language <;> simp [margin, Source.Kotlin.margin, Source.Java.margin, List.isPrefixOf]

/-- A line that starts with a letter is no member of a class. -/
theorem declaresService_of_head {line : String} (flush : line.toList.head? ≠ some ' ') :
    language.declaresService line = false := by
  cases letters : line.toList with
  | nil => cases language <;>
      simp [declaresService, letters, margin, Source.Kotlin.margin, Source.Java.margin]
  | cons c rest =>
      have other : ' ' ≠ c := by
        rintro rfl
        simp [letters] at flush
      cases language <;> simp [declaresService, letters, margin, Source.Kotlin.margin,
        Source.Java.margin, List.isPrefixOf, other]

theorem any_indent (lines : List String) :
    (Source.indent language.margin lines).any language.declaresService =
      lines.any fun line => language.declaresService (language.margin ++ line) := by
  have blank : language.declaresService "" = language.declaresService (language.margin ++ "") := by
    cases language <;> decide
  rw [Source.indent, List.any_map]
  refine List.any_congr rfl fun line => ?_
  rw [Function.comp_apply]
  split
  case isTrue absent => rw [String.isEmpty_iff.mp absent, blank]
  case isFalse => rfl

/-- Within a method no member is declared. -/
theorem any_method (body : List String) :
    (Source.indent language.margin body).any
      (fun line => language.declaresService (language.margin ++ line)) = false := by
  rw [List.any_eq_false]
  intro line member
  obtain ⟨inside, -, rfl⟩ := List.mem_map.mp member
  rw [declaresService_margin]
  split
  case isTrue absent => simp [String.isEmpty_iff.mp absent]
  case isFalse =>
    cases language <;> simp [margin, Source.Kotlin.margin, Source.Java.margin, List.isPrefixOf]

theorem any_preamble (scope : Scope) :
    (language.preamble scope).any language.declaresService = false := by
  rw [List.any_eq_false]
  intro line member
  rw [language.declaresService_of_head, Bool.not_eq_true]
  rcases language.mem_preamble member with rfl | rfl | ⟨name, -, rfl⟩ <;> simp [statement]

/-- Of a class whose name is on its first line only what stands before its method can be a member
    for the service. -/
theorem any_classBlock (outer : String) (before : List String) (inner : String)
    (body : List String) :
    (language.classBlock ("public class " ++ outer) before inner body).any
        language.declaresService =
      before.any fun line => language.declaresService (language.margin ++ line) := by
  have opening : language.declaresService ("public class " ++ outer ++ " \x7b") = false :=
    language.declaresService_of_head (by simp)
  have method : language.declaresService
      (language.margin ++ (language.methodWord ++ inner ++ " \x7b")) = false := by
    rw [declaresService_margin]
    cases language <;> simp [methodWord, List.isPrefixOf]
  have closing : (Source.indent language.margin ["\x7d"] ++ ["\x7d"]).any
      language.declaresService = false := by
    cases language <;> decide
  rw [classBlock, Source.block_block]
  simp only [List.any_append, List.any_cons, List.any_nil, any_indent, any_method, opening, method,
    closing, Bool.false_or, Bool.or_false]

/-- A source declares the service if its class does so before its method. -/
theorem any_source {unit : GeneratedUnit} (names : language.Names unit) {outer inner : String}
    {before body : List String}
    (shape : language.lines (language.imports unit).written unit.key.name unit.body =
      language.classBlock ("public class " ++ outer) before inner body)
    (whole : ∀ line ∈ language.classBlock ("public class " ++ outer) before inner body,
      '\n' ∉ line.toList) :
    (Source.linesOf (language.source unit)).any language.declaresService =
      before.any fun line => language.declaresService (language.margin ++ line) := by
  have notice : ["/**", " * " ++ Contract.notice, " */"].any language.declaresService = false := by
    cases language <;> decide
  have ending : [""].any language.declaresService = false := by
    cases language <;> decide
  rw [language.linesOf_source names.package names.imported, shape, Source.flatMap_linesOf whole]
  simp only [List.any_append, any_preamble, notice, any_classBlock, ending, Bool.false_or,
    Bool.or_false]

end Service

section Reading

variable {plan : InjectorPlan}

theorem declaresService_holderLine (language : Language) {written : String → String}
    (isWord : ∀ name, IsQualified name → Source.IsWord (written name)) :
    language.declaresService (language.margin ++ language.holderLine written) = true := by
  have isService := isWord Contract.jsonService (Contract.isQualified_of_runtime (by decide))
  rw [declaresService_margin]
  cases language with
  | kotlin =>
      have line : kotlin.holderLine written = "private var serializationService: " ++
          written Contract.jsonService ++ "? = null" := rfl
      rw [line, (Source.reads_kotlinHolder isService).readLine_eq]
      simp [List.isPrefixOf]
  | java =>
      have line : java.holderLine written =
          "private " ++ written Contract.jsonService ++ " serializationService;" := rfl
      rw [line, (Source.reads_javaHolder isService).readLine_eq]
      simp [List.isPrefixOf]

/-- The service is declared if the plan needs it. -/
theorem any_holderLine (language : Language) {written : String → String}
    (isWord : ∀ name, IsQualified name → Source.IsWord (written name)) {overrides : List String}
    (marks : ∀ line ∈ overrides, line = "@Override") (used : Bool) :
    (((if used then [language.holderLine written, ""] else []) ++ overrides).any fun line =>
      language.declaresService (language.margin ++ line)) = used := by
  have blank : language.declaresService (language.margin ++ "") = false := by
    cases language <;> decide
  have others : (overrides.any fun line =>
      language.declaresService (language.margin ++ line)) = false := by
    rw [List.any_eq_false]
    intro line member
    rw [marks line member]
    cases language <;> decide
  cases used with
  | false => exact others
  | true => simp [language.declaresService_holderLine isWord]

theorem newline_not_mem_holderLine (language : Language) {written : String → String}
    (isWord : ∀ name, IsQualified name → Source.IsWord (written name)) :
    '\n' ∉ (language.holderLine written).toList := by
  have isService := isWord Contract.jsonService (Contract.isQualified_of_runtime (by decide))
  cases language with
  | kotlin => exact (Source.reads_kotlinHolder isService).whole
  | java => exact (Source.reads_javaHolder isService).whole

theorem readPieces_of_yields {language : Language} {lines : List String} {pieces : List Piece}
    (yields : List.Forall₂ language.Yields lines pieces) :
    (lines.map Source.readLine).mapM language.piece? = some pieces := by
  induction yields with
  | nil => rfl
  | cons first _ ih =>
      obtain ⟨result, reads, read⟩ := first
      rw [List.map_cons, List.mapM_cons, reads.readLine_eq, read, ih]
      rfl

theorem Yields.whole {language : Language} {lines : List String} {pieces : List Piece}
    (yields : List.Forall₂ language.Yields lines pieces) :
    ∀ line ∈ lines, '\n' ∉ line.toList := by
  induction yields with
  | nil => exact nofun
  | cons first _ ih =>
      obtain ⟨result, reads, -⟩ := first
      exact List.forall_mem_cons.mpr ⟨reads.whole, ih⟩

/-- The source of an injector is read back as the items of its plan. -/
theorem readInjector_source (language : Language) (isNamed : plan.IsNamed)
    (planned : ∀ statement ∈ plan.statements, statement.IsPlanned) :
    language.readInjector (language.source plan.unit) =
      some ⟨plan.usesJson, plan.usesJson, plan.statements.map Statement.item⟩ := by
  have names := language.names_of_plan isNamed
  have isWord := fun name (qualified : IsQualified name) =>
    (language.imports plan.unit).isWord_written qualified
  have nameWhole : '\n' ∉ plan.unit.key.name.toList := by
    have simple := isNamed.target.simple.isWord.isCode.whole
    have ending : '\n' ∉ Contract.injectorUnit.toList := by decide
    simp [InjectorPlan.unit, UnitKey.injector, TypeRef.simpleName, simple, ending]
  obtain ⟨outer, overrides, inner, outerWhole, innerWhole, marks, shape⟩ :=
    language.lines_injector isWord nameWhole plan
  obtain ⟨pieces, yields, method⟩ := language.yields_injectorBody isWord isNamed planned
  have bodyWhole := Yields.whole yields
  have beforeWhole : ∀ line ∈ (if plan.usesJson then
      [language.holderLine (language.imports plan.unit).written, ""] else []) ++ overrides,
      '\n' ∉ line.toList := by
    rw [List.forall_mem_append]
    constructor
    case left =>
      split
      · simp [language.newline_not_mem_holderLine isWord]
      · exact nofun
    case right =>
      intro line member
      rw [marks line member]
      decide
  have declares : (Source.linesOf (language.source plan.unit)).any language.declaresService =
      plan.usesJson := by
    have opening : '\n' ∉ ("public class " ++ outer).toList := by
      simp [outerWhole]
    rw [language.any_source names shape
      (language.newline_not_mem_classBlock opening beforeWhole innerWhole bodyWhole)]
    exact language.any_holderLine isWord marks plan.usesJson
  rw [readInjector]
  simp only [names.map_readLine shape innerWhole bodyWhole, readPieces_of_yields yields, method,
    declares, Option.bind_eq_bind, Option.bind_some]
  rfl

end Reading

end Language

/-- The sources of a plan carry its statements. -/
structure InjectorPlan.ReadsBack (plan : InjectorPlan) : Prop where
  /-- The items are read back from the source in either language. The service that parses is
      declared, and looked up, if the plan uses it. -/
  read : ∀ language : Language, ∃ rendered, language.render plan.unit = .ok rendered ∧
    language.readInjector rendered.source =
      some ⟨plan.usesJson, plan.usesJson, plan.statements.map Statement.item⟩
  service : plan.usesJson = true ↔
    ∃ field key type source unavailable,
      .jsonParse field key type source unavailable ∈ plan.statements
  /-- The sources in the two languages carry the same items. -/
  agree : ∀ kotlin java, Language.kotlin.render plan.unit = .ok kotlin →
    Language.java.render plan.unit = .ok java →
    Language.kotlin.readInjector kotlin.source = Language.java.readInjector java.source

theorem InjectorPlan.usesJson_iff (plan : InjectorPlan) :
    plan.usesJson = true ↔
      ∃ field key type source unavailable,
        .jsonParse field key type source unavailable ∈ plan.statements := by
  rw [usesJson, List.any_eq_true]
  constructor
  · rintro ⟨statement, member, parses⟩
    cases statement with
    | jsonParse => exact ⟨_, _, _, _, _, member⟩
    | _ => cases parses
  · rintro ⟨field, key, type, source, unavailable, member⟩
    exact ⟨_, member, rfl⟩

/-- Whatever keys, paths and messages a plan has, both of its sources carry them. -/
theorem readsBack_of_compileInjector {table : SymbolTable} {owner : Declaration}
    {properties : List Property} {plan : InjectorPlan}
    (made : table.compileInjector owner properties = .ok plan) (isNamed : plan.IsNamed) :
    plan.ReadsBack := by
  have planned := SymbolTable.isPlanned_compileInjector made
  have read : ∀ (language : Language) {rendered}, language.render plan.unit = .ok rendered →
      language.readInjector rendered.source =
        some ⟨plan.usesJson, plan.usesJson, plan.statements.map Statement.item⟩ := by
    intro language rendered made
    obtain ⟨-, -, source⟩ := Language.render_eq_ok made
    rw [source]
    exact language.readInjector_source isNamed planned
  constructor
  case read => exact fun language => ⟨_, rfl, read language rfl⟩
  case service => exact plan.usesJson_iff
  case agree =>
    intro kotlin java kotlinMade javaMade
    rw [read .kotlin kotlinMade, read .java javaMade]

section Editor

/-- A screen with one field of each sort, some under keys with marks. -/
private def editor : Declaration where
  qualifiedName := "app.Editor"
  supertypes := [.named Contract.activity]
  properties :=
    [{ name := "count", type := .named "int", wire := some { name := "\"n\"" } },
      { name := "title", type := .named "java.lang.String", wire := some { required := true } },
      { name := "draft", type := .named Contract.parcelable, wire := some {} },
      { name := "readers", type := ⟨"java.util.List", [.named "app.User"], true⟩,
        wire := some { name := "$readers" } },
      { name := "store", type := .named Contract.provider,
        wire := some { name := "/app/store\\", required := true } }]

private theorem routeKind_editor : (SymbolTable.ofList [editor]).routeKind editor = .screen := by
  have single : editor.supertypes = [.named Contract.activity] := rfl
  rw [SymbolTable.routeKind,
    SymbolTable.firstMatch_of_unknown single (by decide) (by decide +kernel)]
  decide +kernel

private def editorItems : List InjectionItem :=
  [.scalar "count" "\"n\"" .intentExtras, .scalar "title" "title" .intentExtras,
    .nullCheck "title" .log (nullMessage "title" "Editor"), .generic "draft" "draft" .intentExtras,
    .json "readers" "$readers" .intentExtras (.log (unavailableMessage "readers" "Editor")),
    .lookup "store" (.path "/app/store\\"),
    .nullCheck "store" .throw (nullMessage "store" "Editor")]

theorem readsBack_of_editor : ∃ plan,
    (SymbolTable.ofList [editor]).compileInjector editor editor.properties = .ok plan ∧
      plan.IsNamed ∧ plan.statements.map Statement.item = editorItems ∧ plan.ReadsBack := by
  obtain ⟨plan, made, isNamed, items⟩ : ∃ plan,
      (SymbolTable.ofList [editor]).compileInjector editor editor.properties = .ok plan ∧
        plan.IsNamed ∧ plan.statements.map Statement.item = editorItems := by
    rw [SymbolTable.compileInjector, routeKind_editor]
    exact ⟨_, rfl, ⟨by decide +kernel, by decide +kernel, by decide +kernel⟩, rfl⟩
  exact ⟨plan, made, isNamed, items, readsBack_of_compileInjector made isNamed⟩

end Editor

end RouteAtlas
