import RouteAtlas.Proofs.Source.Pieces

/-! # Lines of Java injectors

Every kind of line is read as the piece that it was written for. A value is read by a call whose
shape tells whether it has a default.
-/

namespace RouteAtlas

namespace Source

/-- What the getters for the parameters are called on. -/
def javaReceiver : ParamSource → String
  | .intentExtras => "substitute.getIntent"
  | .arguments => "substitute.getArguments"

def javaGetter (source : ParamSource) (name : String) : String :=
  match source with
  | .intentExtras => ".get" ++ name ++ "Extra"
  | .arguments => ".get" ++ name

/-- The names of the getters that hand out a value without a default. -/
def wholeName : ValueKind → String
  | .parcelable => "Parcelable"
  | .serializable => "Serializable"
  | _ => "String"

theorem isWord_receiver (source : ParamSource) : IsWord (javaReceiver source) := by
  cases source <;> rfl

theorem isWord_scalarGetter (source : ParamSource) (kind : ValueKind) :
    IsWord (javaGetter source kind.getter) := by
  cases source <;> cases kind <;> rfl

theorem isWord_wholeGetter (source : ParamSource) (kind : ValueKind) :
    IsWord (javaGetter source (wholeName kind)) := by
  cases source <;> cases kind <;> rfl

/-- A getter is called on what stands for the parameters. -/
theorem isCode_call (source : ParamSource) {name : String}
    (isGetter : IsWord (javaGetter source name)) :
    IsCode (javaReceiver source ++ "()" ++ javaGetter source name)
      [javaReceiver source, javaGetter source name] :=
  (isWord_receiver source).isCode.append "()" isGetter.isCode rfl

theorem call_intentExtras (name : String) :
    javaReceiver .intentExtras ++ "()" ++ javaGetter .intentExtras name =
      "substitute.getIntent().get" ++ name ++ "Extra" := by
  have receiver : javaReceiver .intentExtras = "substitute.getIntent" := rfl
  have getter : javaGetter .intentExtras name = ".get" ++ name ++ "Extra" := rfl
  rw [receiver, getter]
  apply String.toList_injective
  simp

theorem call_arguments (name : String) :
    javaReceiver .arguments ++ "()" ++ javaGetter .arguments name =
      "substitute.getArguments().get" ++ name := by
  have receiver : javaReceiver .arguments = "substitute.getArguments" := rfl
  have getter : javaGetter .arguments name = ".get" ++ name := rfl
  rw [receiver, getter]
  apply String.toList_injective
  simp

/-- A value with a default is read by a call of a getter of its own. -/
theorem read_scalar (source : ParamSource) {kind : ValueKind}
    (typed : kind.getter?.isSome = true) (other : source = .intentExtras → kind ≠ .string)
    (key field : String) :
    Java.read source kind key field =
      javaReceiver source ++ "()" ++ javaGetter source kind.getter ++
        ("(" ++ Java.literal key ++ ", substitute." ++ field ++ ")") := by
  cases source with
  | intentExtras =>
      rw [call_intentExtras]
      cases kind <;>
        first
        | exact absurd typed (by decide)
        | exact absurd rfl (other rfl)
        | rfl
  | arguments =>
      rw [call_arguments]
      cases kind <;>
        first
        | exact absurd typed (by decide)
        | rfl

/-- A value without a default is read by a call that is handed the key alone. -/
theorem read_whole (source : ParamSource) {kind : ValueKind} (untyped : kind.getter? = none)
    (key field : String) :
    Java.read source kind key field =
      javaReceiver source ++ "()" ++ javaGetter source (wholeName kind) ++
        ("(" ++ Java.literal key ++ ")") := by
  cases source with
  | intentExtras =>
      rw [call_intentExtras]
      cases kind <;>
        first
        | exact absurd untyped (by decide)
        | exact congrArg (· ++ ("(" ++ Java.literal key ++ ")")) rfl
  | arguments =>
      rw [call_arguments]
      cases kind <;>
        first
        | exact absurd untyped (by decide)
        | exact congrArg (· ++ ("(" ++ Java.literal key ++ ")")) rfl

/-- Strings of an intent are read with a guard of their own. -/
theorem read_string (key field : String) :
    Java.read .intentExtras .string key field =
      "substitute.getIntent().getExtras() == null ? substitute." ++ field ++
        " : substitute.getIntent().getExtras().getString" ++
        ("(" ++ Java.literal key ++ ", substitute." ++ field ++ ")") := rfl

theorem javaSource?_receiver (source : ParamSource) :
    javaSource? (javaReceiver source) = some source := by
  cases source <;> rfl

theorem scalarGetter_not_mem (source : ParamSource) (kind : ValueKind) :
    javaGetter source kind.getter ∉ wholeGetters := by
  cases source <;> cases kind <;> decide

theorem scalarGetter_ne_build (source : ParamSource) (kind : ValueKind) :
    javaGetter source kind.getter ≠ ".build" := by
  cases source <;> cases kind <;> decide

theorem wholeGetter_ne_build (source : ParamSource) (kind : ValueKind) :
    javaGetter source (wholeName kind) ≠ ".build" := by
  cases source <;> cases kind <;> decide

theorem reads_javaHolder {service : String} (isService : IsWord service) :
    Reads ("private " ++ service ++ " serializationService;")
      ⟨["private", service, serviceName], []⟩ := by
  have name := Reads.empty.word serviceName ";" rfl rfl
  have reads := (name.word _ " " isService rfl).word "private" " " rfl rfl
  refine reads.of_eq ?_
  apply String.toList_injective
  simp [serviceName]

/-- A class is looked up, and what is found assigned. -/
theorem reads_javaNavigation {subject launcher type : String} (isSubject : IsWord subject)
    (isLauncher : IsWord launcher) (isType : IsWord type) :
    Reads (subject ++ " = " ++ launcher ++ ".getInstance().navigation(" ++ type ++ ".class);")
      ⟨[subject, launcher ++ ".getInstance", ".navigation", type ++ ".class"], []⟩ := by
  have argument := Reads.empty.word _ ");" (isType.append ".class" rfl) rfl
  have navigation := argument.word ".navigation" "(" rfl rfl
  have located := navigation.word _ "()" (isLauncher.append ".getInstance" rfl) rfl
  have reads := located.word _ " = " isSubject rfl
  refine reads.of_eq ?_
  apply String.toList_injective
  simp

/-- The name that the target is bound to has no dot. -/
theorem getInstance_ne_substitute (launcher : String) :
    launcher ++ ".getInstance" ≠ "substitute" := by
  intro same
  have dotted : '.' ∈ (launcher ++ ".getInstance").toList := by simp
  rw [same] at dotted
  exact absurd dotted (by decide)

end Source

namespace Language

theorem yields_javaInitialise {launcher service : String} (isLauncher : Source.IsWord launcher)
    (isService : Source.IsWord service) :
    java.Yields
      ("serializationService = " ++ launcher ++ ".getInstance().navigation(" ++ service ++
        ".class);")
      .initialise := by
  have isHolder : Source.IsWord Source.serviceName := rfl
  refine .of_reads (Source.reads_javaNavigation isHolder isLauncher isService) ?_ ?_
  · apply String.toList_injective
    simp [Source.serviceName]
  · simp [piece?, wordPiece?, condition?, binds, Source.serviceName,
      Source.getInstance_ne_substitute]

theorem yields_javaBind {target : String} (isTarget : Source.IsWord target) :
    java.Yields (target ++ " substitute = (" ++ target ++ ")target;") .bind := by
  have cast := (Source.Reads.empty.word "target" ";" rfl rfl).word _ ")" isTarget rfl
  have reads := (cast.word "substitute" " = (" rfl rfl).word _ " " isTarget rfl
  refine .of_reads reads ?_ ?_
  · apply String.toList_injective
    simp
  · simp [piece?, wordPiece?, condition?, binds]

section Java

variable {field : String} (isField : Source.IsWord ("substitute." ++ field))
include isField

theorem yields_javaScalar (key : String) {kind : ValueKind} (typed : kind.getter?.isSome = true)
    (source : ParamSource) :
    java.Yields ("substitute." ++ field ++ " = " ++ Source.Java.read source kind key field ++ ";")
      (.assign (.scalar field key source)) := by
  have argument := ((Source.Reads.empty.word _ ");" isField rfl).gap ", " rfl).literal key false
  by_cases guarded : source = .intentExtras ∧ kind = .string
  case pos =>
    obtain ⟨rfl, rfl⟩ := guarded
    have isCall : Source.IsCode "substitute.getIntent().getExtras().getString"
        ["substitute.getIntent", ".getExtras", ".getString"] := by decide
    have isGuard : Source.IsCode "substitute.getIntent().getExtras() == null"
        ["substitute.getIntent", ".getExtras", "null"] := by decide
    have default := (argument.code isCall "(" rfl).word _ " : " isField rfl
    have reads := (default.code isGuard " ? " rfl).word _ " = " isField rfl
    refine .of_reads reads ?_ (piece?_access field key _ .scalar .intentExtras ?_ ?_)
    · rw [Source.read_string]
      apply String.toList_injective
      simp [Source.Java.literal]
    · simp [access?, Source.javaAccess?, Source.javaSource?, Source.wholeGetters]
    · simp [buildsPath]
  case neg =>
    have other : source = .intentExtras → kind ≠ .string :=
      fun intents string => guarded ⟨intents, string⟩
    have isCall := Source.isCode_call source (Source.isWord_scalarGetter source kind)
    have reads := (argument.code isCall "(" rfl).word _ " = " isField rfl
    refine .of_reads reads ?_ (piece?_access field key _ .scalar source ?_ ?_)
    · rw [Source.read_scalar source typed other key field]
      apply String.toList_injective
      simp [Source.Java.literal]
    · simp [access?, Source.javaAccess?, Source.javaSource?_receiver,
        Source.scalarGetter_not_mem source kind]
    · simp [buildsPath, Source.scalarGetter_ne_build]

theorem yields_javaWhole (key : String) {kind : ValueKind}
    (generic : kind = .parcelable ∨ kind = .serializable) (source : ParamSource) {cast : String}
    (isCast : cast = "" ∨
      ∃ type spelled, Source.IsCode type spelled ∧ cast = "(" ++ type ++ ") ") :
    java.Yields
      ("substitute." ++ field ++ " = " ++ cast ++ Source.Java.read source kind key field ++ ";")
      (.assign (.generic field key source)) := by
  have untyped : kind.getter? = none := by
    rcases generic with rfl | rfl <;> rfl
  have whole : Source.javaGetter source (Source.wholeName kind) ∈ Source.wholeGetters := by
    rcases generic with rfl | rfl <;> cases source <;> decide
  have isCall := Source.isCode_call source (Source.isWord_wholeGetter source kind)
  have value := ((Source.Reads.empty.gap ");" rfl).literal key false).code isCall "(" rfl
  rcases isCast with rfl | ⟨type, spelled, isType, rfl⟩
  · have reads := value.word _ " = " isField rfl
    refine .of_reads reads ?_ (piece?_access field key _ .whole source ?_ ?_)
    · rw [Source.read_whole source untyped key field]
      apply String.toList_injective
      simp [Source.Java.literal]
    · simp [access?, Source.javaAccess?, Source.javaSource?_receiver, whole]
    · simp [buildsPath, Source.wholeGetter_ne_build]
  · have reads := (value.code isType ") " rfl).word _ " = (" isField rfl
    refine .of_reads reads ?_ (piece?_access field key _ .whole source ?_ ?_)
    · rw [Source.read_whole source untyped key field]
      apply String.toList_injective
      simp [Source.Java.literal]
    · simp [access?, Source.javaAccess?, Source.javaSource?_receiver, whole]
    · simp [buildsPath, Source.wholeGetter_ne_build]

theorem yields_javaParse (key : String) (source : ParamSource) {type wrapper : String}
    {spelled : List String} (isType : Source.IsCode type spelled)
    (isWrapper : Source.IsWord wrapper) :
    java.Yields
      ("substitute." ++ field ++ " = serializationService.parseObject(" ++
        Source.Java.read source .object key field ++ ", new " ++ wrapper ++ "<" ++ type ++
        ">()\x7b\x7d.getType());")
      (.parse field key source) := by
  have isCall := Source.isCode_call source (Source.isWord_wholeGetter source .object)
  have type := (Source.Reads.empty.word ".getType" "());" rfl rfl).code isType ">()\x7b\x7d" rfl
  have described := ((type.word _ "<" isWrapper rfl).word "new" " " rfl rfl).gap "), " rfl
  have value := (described.literal key false).code isCall "(" rfl
  have reads := (value.word "serializationService.parseObject" "(" rfl rfl).word _ " = " isField rfl
  have notWhole : Source.javaGetter source (Source.wholeName .object) ∉ Source.wholeGetters := by
    cases source <;> decide
  refine .of_reads reads ?_ (piece?_access field key _ .parsed source ?_ ?_)
  · rw [Source.read_whole source rfl key field]
    apply String.toList_injective
    simp [Source.Java.literal]
  · simp [access?, Source.javaAccess?, Source.javaSource?_receiver, notWhole]
  · simp [buildsPath, Source.wholeGetter_ne_build]

theorem yields_javaLookup {launcher type : String} (isLauncher : Source.IsWord launcher)
    (isType : Source.IsWord type) :
    java.Yields
      ("substitute." ++ field ++ " = " ++
        (launcher ++ ".getInstance()" ++ ".navigation(" ++ (type ++ ".class") ++ ")") ++ ";")
      (.assign (.lookup field .declaredType)) := by
  refine .of_reads (Source.reads_javaNavigation isField isLauncher isType) ?_ ?_
  · apply String.toList_injective
    simp
  · simp [piece?, wordPiece?, condition?, binds, Source.fieldOf?_field,
      Source.field_ne_serviceName, Source.getInstance_ne_substitute]

theorem yields_javaPath (path : String) {launcher type : String} {spelled : List String}
    (isLauncher : Source.IsWord launcher) (isType : Source.IsCode type spelled) :
    java.Yields
      ("substitute." ++ field ++ " = " ++ ("(" ++ type ++ ")" ++ (launcher ++ ".getInstance()") ++
        ".build(" ++ Source.Java.literal path ++ ").navigation()") ++ ";")
      (.assign (.lookup field (.path path))) := by
  have navigation := (Source.Reads.empty.word ".navigation" "();" rfl rfl).gap ")" rfl
  have build := (navigation.literal path false).word ".build" "(" rfl rfl
  have located := build.word _ "()" (isLauncher.append ".getInstance" rfl) rfl
  have reads := (located.code isType ")" rfl).word _ " = (" isField rfl
  refine .of_reads reads ?_ (piece?_path field path _ ?_)
  · apply String.toList_injective
    simp [Source.Java.literal]
  · simp [buildsPath]

theorem yields_javaIfNull :
    java.Yields ("if (null == substitute." ++ field ++ ")" ++ " \x7b") (.ifNull field) := by
  have compared := (Source.Reads.empty.word _ ") \x7b" isField rfl).word "null" " == " rfl rfl
  have reads := compared.word "if" " (" rfl rfl
  refine .of_reads reads ?_ ?_
  · apply String.toList_injective
    simp
  · simp [piece?, wordPiece?, condition?, Source.fieldOf?_field, Source.field_ne_serviceName]

end Java

end Language

end RouteAtlas
