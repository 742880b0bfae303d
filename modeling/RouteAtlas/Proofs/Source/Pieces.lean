import RouteAtlas.Proofs.Source.File

/-! # Reading the method of an injector

Every line of the method is read as a piece of a statement, in either language by its own rules. The
pieces make up items, one for each statement.
-/

namespace RouteAtlas

/-- What one statement of an injector does, without its types. -/
inductive InjectionItem where
  | scalar (field key : String) (source : ParamSource)
  | generic (field key : String) (source : ParamSource)
  | json (field key : String) (source : ParamSource) (unavailable : InjectionItem)
  | lookup (field : String) (key : LookupKey)
  | nullCheck (field : String) (action : NullAction) (message : String)
  | log (message : String)
  deriving DecidableEq, Repr

def Statement.item : Statement → InjectionItem
  | .scalarGet field key _ source => .scalar field key source
  | .genericGet field key _ _ source => .generic field key source
  | .jsonParse field key _ source unavailable => .json field key source unavailable.item
  | .serviceLookup field _ key => .lookup field key
  | .nullCheck field owner action => .nullCheck field action (nullMessage field owner)
  | .logWarn message => .log message

/-- What one line says. -/
inductive Piece where
  /-- The service that parses is looked up. -/
  | initialise
  /-- The target is bound to a name. -/
  | bind
  | assign (item : InjectionItem)
  | ifService
  | parse (field key : String) (source : ParamSource)
  | otherwise
  | ifNull (field : String)
  | raise (message : String)
  | log (message : String)
  | close
  deriving DecidableEq, Repr

/-- The items that pieces make up. -/
def Piece.items : List Piece → Option (List InjectionItem)
  | [] => some []
  | .assign item :: rest => (items rest).map (item :: ·)
  | .log message :: rest => (items rest).map (.log message :: ·)
  | .ifNull field :: .raise message :: .close :: rest =>
    (items rest).map (.nullCheck field .throw message :: ·)
  | .ifNull field :: .log message :: .close :: rest =>
    (items rest).map (.nullCheck field .log message :: ·)
  | .ifService :: .parse field key source :: .otherwise :: .log message :: .close :: rest =>
    (items rest).map (.json field key source (.log message) :: ·)
  | _ => none

namespace Source

/-- The field of the target that a word names. -/
def fieldOf? (word : String) : Option String :=
  (word.toList.dropPrefix? "substitute.".toList).map String.ofList

theorem fieldOf?_field (field : String) : fieldOf? ("substitute." ++ field) = some field := by
  have dropped : ("substitute." ++ field).toList.dropPrefix? "substitute.".toList =
      some field.toList := by
    rw [String.toList_append]
    exact List.dropPrefix?_append_of_beq _ (beq_self_eq_true _)
  rw [fieldOf?, dropped, Option.map_some, String.ofList_toList]

/-- The member of an injector for the service that parses. -/
def serviceName : String := "serializationService"

theorem field_ne_serviceName (field : String) : "substitute." ++ field ≠ serviceName := by
  intro same
  have dotted : '.' ∈ ("substitute." ++ field).toList := by simp
  rw [same] at dotted
  exact absurd dotted (by decide)

/-- How a value is taken from the parameters. -/
inductive Access where
  | scalar
  | whole
  | parsed
  deriving DecidableEq, Repr

/-- The getters that hand out a value whole. -/
def wholeGetters : List String :=
  [".getParcelable", ".getSerializable", ".getParcelableExtra", ".getSerializableExtra"]

/-- The words of a value up to its key: how it is taken, and where from. -/
def kotlinAccess? : List String → Option (Access × ParamSource)
  | "serializationService" :: value =>
    match value.reverse with
    | ".getString" :: ".extras" :: "substitute.intent" :: _ => some (.parsed, .intentExtras)
    | ".getString" :: "substitute.arguments" :: _ => some (.parsed, .arguments)
    | _ => none
  | "substitute.intent" :: ".extras" :: getter :: _ =>
    some (if getter ∈ wholeGetters then .whole else .scalar, .intentExtras)
  | "substitute.arguments" :: getter :: _ =>
    some (if getter ∈ wholeGetters then .whole else .scalar, .arguments)
  | _ => none

/-- What a getter is called on. -/
def javaSource? : String → Option ParamSource
  | "substitute.getIntent" | ".getExtras" => some .intentExtras
  | "substitute.getArguments" => some .arguments
  | _ => none

/-- The words of a value up to its key, the last of them first. A cast may stand before them. -/
def javaAccess? : List String → Option (Access × ParamSource)
  | getter :: receiver :: before => do
    let source ← javaSource? receiver
    return (if getter ∈ wholeGetters then .whole
      else if before = ["serializationService.parseObject"] then .parsed else .scalar, source)
  | _ => none

end Source

namespace Language

def access? : Language → List String → Option (Source.Access × ParamSource)
  | .kotlin, value => Source.kotlinAccess? value
  | .java, value => Source.javaAccess? value.reverse

/-- What the condition of a line is about. -/
def condition? : Language → List String → Option String
  | .kotlin, ["if", subject, "null"] => some subject
  | .java, ["if", "null", subject] => some subject
  | _, _ => none

/-- Whether words bind the target to a name. -/
def binds : Language → List String → Bool
  | .kotlin, words => words.take 4 == ["val", "substitute", "target", "as"]
  | .java, [_, name, _, target] => name == "substitute" && target == "target"
  | .java, _ => false

/-- Whether a value is looked up by a path, given its words up to this. -/
def buildsPath : Language → List String → Bool
  | .kotlin, value => value[1]? == some ".build"
  | .java, value => value.getLast? == some ".build"

/-- A line without texts. -/
def wordPiece? (language : Language) (words : List String) : Option Piece :=
  match words with
  | [] => some .close
  | [word] => if word = "else" then some .otherwise else none
  | subject :: _ :: rest =>
    match language.condition? words with
    | some holder =>
      if holder = Source.serviceName then some .ifService
      else (Source.fieldOf? holder).map .ifNull
    | none =>
      if language.binds words then some .bind
      else if rest.head? = some ".navigation" then
        if subject = Source.serviceName then some .initialise
        else (Source.fieldOf? subject).map fun field => .assign (.lookup field .declaredType)
      else none

/-- A line with one text. -/
def textPiece? (language : Language) (subject : String) (value : List String) (text : String) :
    Option Piece :=
  match Source.fieldOf? subject with
  | none => if subject = "throw" then some (.raise text) else none
  | some field =>
    if language.buildsPath value then some (.assign (.lookup field (.path text)))
    else
      (language.access? value).map fun (access, source) =>
        match access with
        | .scalar => .assign (.scalar field text source)
        | .whole => .assign (.generic field text source)
        | .parsed => .parse field text source

def piece? (language : Language) (line : Source.Line) : Option Piece :=
  match line.head, line.texts with
  | words, [] => language.wordPiece? words
  | subject :: value, [(text, _)] => language.textPiece? subject value text
  | [_], [_, (message, _)] => some (.log message)
  | _, _ => none

/-- Whether a line is the member of the class for the service that parses. -/
def declaresService (language : Language) (line : String) : Bool :=
  (language.margin ++ "private ").toList.isPrefixOf line.toList &&
    Source.serviceName ∈ (Source.readLine line).head

end Language

/-- What an injector is read as. -/
structure ReadInjector where
  /-- Whether the class has a member for the service that parses. -/
  declares : Bool
  /-- Whether the method looks this service up. -/
  initialises : Bool
  items : List InjectionItem
  deriving DecidableEq, Repr

/-- The pieces of a method: the service if it is used, the target, then the statements. -/
def Piece.method : List Piece → Option (Bool × List InjectionItem)
  | .initialise :: .bind :: rest => (items rest).map (true, ·)
  | .bind :: rest => (items rest).map (false, ·)
  | _ => none

def Language.readInjector (language : Language) (source : String) : Option ReadInjector := do
  let lines := Source.linesOf source
  let pieces ← ((language.bodyOf lines).map Source.readLine).mapM language.piece?
  let (initialises, items) ← Piece.method pieces
  return ⟨lines.any language.declaresService, initialises, items⟩

namespace Language

/-- A line and the piece it is read as. -/
def Yields (language : Language) (line : String) (piece : Piece) : Prop :=
  ∃ result, Source.Reads line result ∧ language.piece? result = some piece

section Assignments

variable {language : Language} {value : List String}

/-- The piece for a value that is taken in some way. -/
def accessPiece (field key : String) (source : ParamSource) : Source.Access → Piece
  | .scalar => .assign (.scalar field key source)
  | .whole => .assign (.generic field key source)
  | .parsed => .parse field key source

theorem piece?_access (field key : String) (after : List String) (access : Source.Access)
    (source : ParamSource) (taken : language.access? value = some (access, source))
    (other : language.buildsPath value = false) :
    language.piece? ⟨("substitute." ++ field) :: value, [(key, after)]⟩ =
      some (accessPiece field key source access) := by
  simp only [piece?, textPiece?, Source.fieldOf?_field, other, Bool.false_eq_true, if_false, taken,
    Option.map_some]
  cases access <;> rfl

theorem piece?_path (field path : String) (after : List String)
    (built : language.buildsPath value = true) :
    language.piece? ⟨("substitute." ++ field) :: value, [(path, after)]⟩ =
      some (.assign (.lookup field (.path path))) := by
  simp only [piece?, textPiece?, Source.fieldOf?_field, built, if_true]

end Assignments

theorem Yields.of_reads {language : Language} {line other : String} {piece : Piece}
    {result : Source.Line} (reads : Source.Reads line result) (same : other = line)
    (read : language.piece? result = some piece) : language.Yields other piece :=
  ⟨result, reads.of_eq same, read⟩

/-- A logged message, whatever ends the line. -/
theorem yields_log (language : Language) (escapeDollar : Bool) (tag message : String)
    {log : String} (isLog : Source.IsWord log) (closing : String)
    (isClosing : Source.IsGap closing) :
    language.Yields
      (log ++ ".e(" ++ Source.commas [Text.literal tag escapeDollar,
        Text.literal message escapeDollar] ++ closing)
      (.log message) := by
  have logged := (Source.Reads.empty.gap closing isClosing).literal message escapeDollar
  have tagged := (logged.gap ", " rfl).literal tag escapeDollar
  have reads := tagged.word _ "(" (isLog.append ".e" rfl) rfl
  refine .of_reads reads ?_ rfl
  apply String.toList_injective
  simp [Source.commas, String.intercalate_cons_cons]

/-- A thrown message. -/
theorem yields_raise (language : Language) (escapeDollar : Bool) (message : String)
    {call : String} {spelled : List String} (isCall : Source.IsCode call ("throw" :: spelled))
    (closing : String) (isClosing : Source.IsGap closing) :
    language.Yields (call ++ "(" ++ Text.literal message escapeDollar ++ closing)
      (.raise message) := by
  have thrown := (Source.Reads.empty.gap closing isClosing).literal message escapeDollar
  have reads := thrown.code isCall "(" rfl
  have other : Source.fieldOf? "throw" = none := by decide
  refine .of_reads reads ?_ ?_
  · simp only [String.append_assoc, String.append_empty]
  · simp [piece?, textPiece?, other]

end Language

end RouteAtlas
