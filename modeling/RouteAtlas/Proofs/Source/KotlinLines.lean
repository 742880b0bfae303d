import RouteAtlas.Proofs.Source.Pieces

/-! # Lines of Kotlin injectors

Every kind of line is read as the piece that it was written for.
-/

namespace RouteAtlas

namespace Source

/-- The words of the expression for the parameters in Kotlin. -/
def bundleWords : ParamSource → List String
  | .intentExtras => ["substitute.intent", ".extras"]
  | .arguments => ["substitute.arguments"]

theorem isCode_bundle (source : ParamSource) :
    IsCode (Kotlin.bundle source) (bundleWords source) := by
  cases source <;> decide

theorem isWord_getter (kind : ValueKind) : IsWord (".get" ++ kind.getter) := by
  cases kind <;> rfl

theorem getter_not_mem (kind : ValueKind) : ".get" ++ kind.getter ∉ wholeGetters := by
  cases kind <;> decide

theorem getter_ne_build (kind : ValueKind) : ".get" ++ kind.getter ≠ ".build" := by
  cases kind <;> decide

theorem reads_kotlinHolder {service : String} (isService : IsWord service) :
    Reads ("private var serializationService: " ++ service ++ "? = null")
      ⟨["private", "var", serviceName, service, "null"], []⟩ := by
  have isNull : IsWord "null" := rfl
  have member : IsCode "private var serializationService" ["private", "var", serviceName] := by
    decide
  have reads := (isNull.isCode.reads.word _ "? = " isService rfl).code member ": " rfl
  refine reads.of_eq ?_
  apply String.toList_injective
  simp

/-- A class is looked up, and what is found assigned. -/
theorem reads_kotlinNavigation {subject launcher type : String} (isSubject : IsWord subject)
    (isLauncher : IsWord launcher) (isType : IsWord type) :
    Reads (subject ++ " = " ++ launcher ++ ".getInstance().navigation(" ++ type ++ "::class.java)")
      ⟨[subject, launcher ++ ".getInstance", ".navigation", type, "class.java"], []⟩ := by
  have argument := (Reads.empty.word "class.java" ")" rfl rfl).word _ "::" isType rfl
  have navigation := argument.word ".navigation" "(" rfl rfl
  have located := navigation.word _ "()" (isLauncher.append ".getInstance" rfl) rfl
  have reads := located.word _ " = " isSubject rfl
  refine reads.of_eq ?_
  apply String.toList_injective
  simp

end Source

namespace Language

theorem yields_kotlinInitialise {launcher service : String} (isLauncher : Source.IsWord launcher)
    (isService : Source.IsWord service) :
    kotlin.Yields
      ("serializationService = " ++ launcher ++ ".getInstance().navigation(" ++ service ++
        "::class.java)")
      .initialise := by
  have isHolder : Source.IsWord Source.serviceName := rfl
  refine .of_reads (Source.reads_kotlinNavigation isHolder isLauncher isService) ?_ ?_
  · apply String.toList_injective
    simp [Source.serviceName]
  · simp [piece?, wordPiece?, condition?, binds, Source.serviceName]

theorem yields_kotlinBind {target : String} (isTarget : Source.IsWord target) :
    kotlin.Yields ("val substitute = target as " ++ target) .bind := by
  have bound := (isTarget.isCode.reads.word "as" " " rfl rfl).word "target" " " rfl rfl
  have reads := (bound.word "substitute" " = " rfl rfl).word "val" " " rfl rfl
  refine .of_reads reads ?_ ?_
  · apply String.toList_injective
    simp
  · simp [piece?, wordPiece?, condition?, binds]

section Kotlin

variable {field : String} (isField : Source.IsWord ("substitute." ++ field))
include isField

theorem yields_kotlinScalar (key : String) (kind : ValueKind) (source : ParamSource) :
    kotlin.Yields
      ("substitute." ++ field ++ " = " ++ Source.Kotlin.bundle source ++ "?.get" ++ kind.getter ++
        "(" ++ Source.Kotlin.literal key ++ ", substitute." ++ field ++ ") ?: substitute." ++ field)
      (.assign (.scalar field key source)) := by
  have default := (isField.isCode.reads.word _ ") ?: " isField rfl).gap ", " rfl
  have getter := (default.literal key true).word _ "(" (Source.isWord_getter kind) rfl
  have reads := (getter.code (Source.isCode_bundle source) "?" rfl).word _ " = " isField rfl
  refine .of_reads reads ?_ (piece?_access field key _ .scalar source ?_ ?_)
  · apply String.toList_injective
    simp [Source.Kotlin.literal]
  · cases source <;>
      simp [access?, Source.kotlinAccess?, Source.bundleWords, Source.getter_not_mem kind]
  · cases source <;> simp [buildsPath, Source.bundleWords, Source.getter_ne_build]

theorem yields_kotlinParcelable (key : String) (source : ParamSource) {type : String}
    {spelled : List String} (isType : Source.IsCode type spelled) :
    kotlin.Yields
      ("substitute." ++ field ++ " = " ++ (Source.Kotlin.bundle source ++ "?.getParcelable<" ++
        type ++ ">(" ++ Source.Kotlin.literal key ++ ")") ++ " ?: substitute." ++ field)
      (.assign (.generic field key source)) := by
  have default := isField.isCode.reads.gap ") ?: " rfl
  have value := (default.literal key true).code isType ">(" rfl
  have getter := value.word ".getParcelable" "<" rfl rfl
  have reads := (getter.code (Source.isCode_bundle source) "?" rfl).word _ " = " isField rfl
  refine .of_reads reads ?_ (piece?_access field key _ .whole source ?_ ?_)
  · apply String.toList_injective
    simp [Source.Kotlin.literal]
  · cases source <;> simp [access?, Source.kotlinAccess?, Source.bundleWords, Source.wholeGetters]
  · cases source <;> simp [buildsPath, Source.bundleWords]

theorem yields_kotlinSerializable (key : String) (source : ParamSource) {type : String}
    {spelled : List String} (isType : Source.IsCode type spelled) :
    kotlin.Yields
      ("substitute." ++ field ++ " = " ++ ("(" ++ Source.Kotlin.bundle source ++
        "?.getSerializable(" ++ Source.Kotlin.literal key ++ ") as? " ++ type ++ ")") ++
        " ?: substitute." ++ field)
      (.assign (.generic field key source)) := by
  have cast := (isField.isCode.reads.code isType ") ?: " rfl).word "as" "? " rfl rfl
  have getter := ((cast.gap ") " rfl).literal key true).word ".getSerializable" "(" rfl rfl
  have reads := (getter.code (Source.isCode_bundle source) "?" rfl).word _ " = (" isField rfl
  refine .of_reads reads ?_ (piece?_access field key _ .whole source ?_ ?_)
  · apply String.toList_injective
    simp [Source.Kotlin.literal]
  · cases source <;> simp [access?, Source.kotlinAccess?, Source.bundleWords, Source.wholeGetters]
  · cases source <;> simp [buildsPath, Source.bundleWords]

theorem yields_kotlinParse (key : String) (source : ParamSource) {type wrapper : String}
    {spelled : List String} (isType : Source.IsCode type spelled)
    (isWrapper : Source.IsWord wrapper) :
    kotlin.Yields
      ("substitute." ++ field ++ " = serializationService?.parseObject<" ++ type ++ ">(" ++
        Source.Kotlin.bundle source ++ "?.getString(" ++ Source.Kotlin.literal key ++
        "), (object : " ++ wrapper ++ "<" ++ type ++ ">() \x7b\x7d).type) ?: substitute." ++ field)
      (.parse field key source) := by
  have type := (isField.isCode.reads.word ".type" ") ?: " rfl rfl).code isType ">() \x7b\x7d)" rfl
  have described := ((type.word _ "<" isWrapper rfl).word "object" " : " rfl rfl).gap "), (" rfl
  have getter := (described.literal key true).word ".getString" "(" rfl rfl
  have read := getter.code (Source.isCode_bundle source) "?" rfl
  have parsed := (read.code isType ">(" rfl).word ".parseObject" "<" rfl rfl
  have reads := (parsed.word "serializationService" "?" rfl rfl).word _ " = " isField rfl
  refine .of_reads reads ?_ (piece?_access field key _ .parsed source ?_ ?_)
  · apply String.toList_injective
    simp [Source.Kotlin.literal]
  · cases source <;> simp [access?, Source.kotlinAccess?, Source.bundleWords]
  · cases source <;> simp [buildsPath, Source.bundleWords]

theorem yields_kotlinLookup {launcher type : String} (isLauncher : Source.IsWord launcher)
    (isType : Source.IsWord type) :
    kotlin.Yields
      ("substitute." ++ field ++ " = " ++
        (launcher ++ ".getInstance()" ++ ".navigation(" ++ (type ++ "::class.java") ++ ")"))
      (.assign (.lookup field .declaredType)) := by
  refine .of_reads (Source.reads_kotlinNavigation isField isLauncher isType) ?_ ?_
  · apply String.toList_injective
    simp
  · simp [piece?, wordPiece?, condition?, binds, Source.fieldOf?_field,
      Source.field_ne_serviceName]

theorem yields_kotlinPath (path : String) {launcher type : String} {spelled : List String}
    (isLauncher : Source.IsWord launcher) (isType : Source.IsCode type spelled) :
    kotlin.Yields
      ("substitute." ++ field ++ " = " ++ (launcher ++ ".getInstance()" ++ ".build(" ++
        Source.Kotlin.literal path ++ ").navigation() as? " ++ type))
      (.assign (.lookup field (.path path))) := by
  have cast := ((isType.reads.word "as" "? " rfl rfl).word ".navigation" "() " rfl rfl).gap ")" rfl
  have build := (cast.literal path true).word ".build" "(" rfl rfl
  have located := build.word _ "()" (isLauncher.append ".getInstance" rfl) rfl
  have reads := located.word _ " = " isField rfl
  refine .of_reads reads ?_ (piece?_path field path _ rfl)
  apply String.toList_injective
  simp [Source.Kotlin.literal]

theorem yields_kotlinIfNull :
    kotlin.Yields ("if (substitute." ++ field ++ " == null)" ++ " \x7b") (.ifNull field) := by
  have compared := (Source.Reads.empty.word "null" ") \x7b" rfl rfl).word _ " == " isField rfl
  have reads := compared.word "if" " (" rfl rfl
  refine .of_reads reads ?_ ?_
  · apply String.toList_injective
    simp
  · simp [piece?, wordPiece?, condition?, Source.fieldOf?_field, Source.field_ne_serviceName]

end Kotlin

end Language

end RouteAtlas
