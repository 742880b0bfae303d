import RouteAtlas.Proofs.Source.Imports
import RouteAtlas.Proofs.Source.Injectors
import RouteAtlas.Proofs.Source.Tables

/-! # Built-ins of a language

Some names stand in a source without a claim to them: those of the language itself, which are used
without an import. A class of the module that has such a name and is imported takes the place of
the built-in.
-/

namespace RouteAtlas

namespace Source

/-- The words in the code of a line. -/
def lineWords (line : String) : List String :=
  (readLine line).head ++ (readLine line).texts.flatMap Prod.snd

section LineWords

variable {code gap word : String}

theorem lineWords_gap (isGap : IsGap gap) (rest : String) :
    lineWords (gap ++ rest) = lineWords rest := by
  rw [lineWords, readLine_gap isGap]
  rfl

theorem lineWords_code (unquoted : '"' ∉ code.toList) (isGap : IsGap gap) (rest : String) :
    lineWords (code ++ (gap ++ rest)) = words code ++ lineWords rest := by
  rw [lineWords, readLine_code unquoted isGap, List.append_assoc]
  rfl

theorem lineWords_word (isWord : IsWord word) (isGap : IsGap gap) (rest : String) :
    lineWords (word ++ (gap ++ rest)) = word :: lineWords rest := by
  rw [lineWords_code isWord.isCode.unquoted isGap, words_word isWord, List.singleton_append]

theorem lineWords_literal (raw : String) (escapeDollar : Bool) (rest : String) :
    lineWords (Text.literal raw escapeDollar ++ rest) = lineWords rest := by
  rw [lineWords, lineWords, readLine_literal, List.nil_append, List.flatMap_cons]

theorem flatMap_lineWords_indent {margin : String} (isGap : IsGap margin) (lines : List String) :
    (indent margin lines).flatMap lineWords = lines.flatMap lineWords := by
  have read : ∀ lines : List String, lines.flatMap lineWords =
      (lines.map readLine).flatMap fun line => line.head ++ line.texts.flatMap Prod.snd := by
    intro lines
    rw [List.flatMap_map]
    rfl
  rw [read, read, map_readLine_indent isGap]

theorem flatMap_lineWords_block {margin : String} (isGap : IsGap margin) (opening : String)
    (inner : List String) :
    (block margin opening inner).flatMap lineWords =
      lineWords (opening ++ " \x7b") ++ inner.flatMap lineWords := by
  have closing : lineWords "\x7d" = [] := by decide
  rw [block, List.flatMap_append, List.flatMap_cons, flatMap_lineWords_indent isGap,
    List.flatMap_singleton, closing, List.append_nil]

end LineWords

section Classes

variable {parameter key map : String}

/-- The words of a Kotlin class that come from its last method. -/
theorem subset_kotlinClass (name contract method parameter : String) (before body : List String) :
    lineWords ("override fun " ++ method ++ "(" ++ parameter ++ ")" ++ " \x7b") ++
        body.flatMap lineWords ⊆
      (Kotlin.classLines name contract
        (before ++ Kotlin.method method parameter body)).flatMap lineWords := by
  have isGap : IsGap Kotlin.margin := rfl
  intro word member
  rw [Kotlin.classLines, flatMap_lineWords_block isGap, List.flatMap_append, Kotlin.method,
    flatMap_lineWords_block isGap]
  simp only [List.mem_append] at member ⊢
  exact .inr (.inr member)

theorem subset_javaClass (name contract method parameter : String) (before body : List String) :
    "Override" :: (lineWords ("public void " ++ method ++ "(" ++ parameter ++ ")" ++ " \x7b") ++
        body.flatMap lineWords) ⊆
      (Java.classLines name contract
        (before ++ Java.method method parameter body)).flatMap lineWords := by
  have isGap : IsGap Java.margin := rfl
  have override : lineWords "@Override" = ["Override"] := by decide
  intro word member
  rw [Java.classLines, flatMap_lineWords_block isGap, List.flatMap_append, Java.method,
    List.flatMap_cons, override, flatMap_lineWords_block isGap]
  simp only [List.mem_append, List.mem_cons, List.not_mem_nil, or_false] at member ⊢
  exact .inr (.inr member)

/-- The line that opens the method of a table in Kotlin. -/
theorem lineWords_kotlinMap (isParameter : IsWord parameter) (isKey : IsWord key) (value : String) :
    lineWords ("override fun " ++ Contract.loadInto ++ "(" ++
        (parameter ++ ": MutableMap<" ++ key ++ ", " ++ value) ++ ")" ++ " \x7b") =
      ["override", "fun", "loadInto", parameter, "MutableMap", key] ++
        lineWords (value ++ ") \x7b") := by
  have opened : IsCode "override fun loadInto" ["override", "fun", "loadInto"] := by decide
  have isMap : IsWord "MutableMap" := rfl
  have parts : "override fun " ++ Contract.loadInto ++ "(" ++
      (parameter ++ ": MutableMap<" ++ key ++ ", " ++ value) ++ ")" ++ " \x7b" =
        "override fun loadInto" ++ ("(" ++ (parameter ++ (": " ++ ("MutableMap" ++ ("<" ++
          (key ++ (", " ++ (value ++ ") \x7b")))))))) := by
    apply String.toList_injective
    simp [Contract.loadInto]
  rw [parts, lineWords_code opened.unquoted (rfl : IsGap "("), opened.words_eq,
    lineWords_word isParameter (rfl : IsGap ": "), lineWords_word isMap (rfl : IsGap "<"),
    lineWords_word isKey (rfl : IsGap ", ")]
  simp only [List.cons_append, List.nil_append]

/-- The line that opens the method of a table in Java. -/
theorem lineWords_javaMap (unquoted : '"' ∉ map.toList) (isKey : IsWord key) (value : String) :
    lineWords ("public void " ++ Contract.loadInto ++ "(" ++
        (map ++ "<" ++ key ++ ", " ++ value) ++ ")" ++ " \x7b") =
      ["public", "void", "loadInto"] ++ (words map ++ key :: lineWords (value ++ ") \x7b")) := by
  have opened : IsCode "public void loadInto" ["public", "void", "loadInto"] := by decide
  have parts : "public void " ++ Contract.loadInto ++ "(" ++
      (map ++ "<" ++ key ++ ", " ++ value) ++ ")" ++ " \x7b" =
        "public void loadInto" ++ ("(" ++ (map ++ ("<" ++ (key ++ (", " ++
          (value ++ ") \x7b")))))) := by
    apply String.toList_injective
    simp [Contract.loadInto]
  rw [parts, lineWords_code opened.unquoted (rfl : IsGap "("), opened.words_eq,
    lineWords_code unquoted (rfl : IsGap "<"), lineWords_word isKey (rfl : IsGap ", ")]

/-- The words of a table in Kotlin, which is a map. -/
theorem subset_kotlinTable {value opened : String} (isParameter : IsWord parameter)
    (isKey : IsWord key) (shape : opened = parameter ++ ": MutableMap<" ++ key ++ ", " ++ value)
    (name contract : String) (body : List String) {words : List String}
    (whole : (Kotlin.classLines name contract
      (Kotlin.method Contract.loadInto opened body)).flatMap lineWords = words) :
    ["MutableMap", key] ⊆ words ∧ lineWords (value ++ ") \x7b") ⊆ words ∧
      body.flatMap lineWords ⊆ words := by
  obtain ⟨opening, inner⟩ := List.append_subset.mp
    (subset_kotlinClass name contract Contract.loadInto opened [] body)
  rw [List.nil_append, whole] at opening inner
  rw [shape, lineWords_kotlinMap isParameter isKey] at opening
  obtain ⟨front, back⟩ := List.append_subset.mp opening
  exact ⟨List.Subset.trans (by simp) front, back, inner⟩

theorem subset_javaTable {value opened : String} (unquoted : '"' ∉ map.toList)
    (isKey : IsWord key) (shape : opened = map ++ "<" ++ key ++ ", " ++ value)
    (name contract : String) (body : List String) {words : List String}
    (whole : (Java.classLines name contract
      (Java.method Contract.loadInto opened body)).flatMap lineWords = words) :
    ["Override", key] ⊆ words ∧ lineWords (value ++ ") \x7b") ⊆ words ∧
      body.flatMap lineWords ⊆ words := by
  obtain ⟨override, others⟩ := List.cons_subset.mp
    (subset_javaClass name contract Contract.loadInto opened [] body)
  obtain ⟨opening, inner⟩ := List.append_subset.mp others
  rw [List.nil_append, whole] at override opening inner
  rw [shape, lineWords_javaMap unquoted isKey] at opening
  simp only [List.append_subset, List.cons_subset, List.nil_subset, and_true] at opening ⊢
  obtain ⟨-, -, keyIn, values⟩ := opening
  exact ⟨⟨override, keyIn⟩, values, inner⟩

/-- The words of a table of class objects in Kotlin. -/
theorem subset_kotlinClasses {element opened : String} (isParameter : IsWord parameter)
    (isKey : IsWord key)
    (shape : opened = parameter ++ ": MutableMap<" ++ key ++ ", Class<out " ++ element ++ ">>")
    (name contract : String) (body : List String) :
    ["MutableMap"] ++ [key, "Class"] ⊆
      (Kotlin.classLines name contract
        (Kotlin.method Contract.loadInto opened body)).flatMap lineWords := by
  have isClass : IsWord "Class" := rfl
  have isBracket : IsGap "<" := rfl
  have split : opened = parameter ++ ": MutableMap<" ++ key ++ ", " ++
      ("Class" ++ ("<" ++ ("out " ++ element ++ ">>"))) := by
    apply String.toList_injective
    simp [shape]
  obtain ⟨front, values, -⟩ := subset_kotlinTable isParameter isKey split name contract body rfl
  rw [String.append_assoc, String.append_assoc, lineWords_word isClass isBracket] at values
  simp only [List.cons_append, List.nil_append, List.cons_subset, List.nil_subset, and_true]
    at front values ⊢
  exact ⟨front.1, front.2, values.1⟩

theorem subset_javaClasses {element opened : String} (unquoted : '"' ∉ map.toList)
    (isKey : IsWord key)
    (shape : opened =
      map ++ "<" ++ key ++ ", Class<? extends " ++ element ++ ">> " ++ parameter)
    (name contract : String) (body : List String) :
    ["Override"] ++ [key, "Class"] ⊆
      (Java.classLines name contract
        (Java.method Contract.loadInto opened body)).flatMap lineWords := by
  have isClass : IsWord "Class" := rfl
  have isBracket : IsGap "<? " := rfl
  have split : opened = map ++ "<" ++ key ++ ", " ++
      ("Class" ++ ("<? " ++ ("extends " ++ element ++ ">> " ++ parameter))) := by
    apply String.toList_injective
    simp [shape]
  obtain ⟨front, values, -⟩ := subset_javaTable unquoted isKey split name contract body rfl
  rw [String.append_assoc, String.append_assoc, lineWords_word isClass isBracket] at values
  simp only [List.cons_append, List.nil_append, List.cons_subset, List.nil_subset, and_true]
    at front values ⊢
  exact ⟨front.1, front.2, values.1⟩

end Classes

section Entries

/-- A map of parameters, if there are any. -/
theorem int_mem_kotlinParams {record : RouteRecord} (filled : record.paramCodes.isEmpty = false)
    (rest : String) : "Int" ∈ lineWords (Kotlin.paramsMap record ++ rest) := by
  have opened : IsCode "hashMapOf<String" ["hashMapOf", "String"] := by decide
  have isInt : IsWord "Int" := rfl
  rw [Kotlin.paramsMap, if_neg (by rw [filled]; exact Bool.false_ne_true)]
  generalize commas _ = pairs
  have parts : "hashMapOf<String, Int>(" ++ pairs ++ ")" ++ rest =
      "hashMapOf<String" ++ (", " ++ ("Int" ++ (">(" ++ (pairs ++ (")" ++ rest))))) := by
    apply String.toList_injective
    simp
  rw [parts, lineWords_code opened.unquoted (rfl : IsGap ", "),
    lineWords_word isInt (rfl : IsGap ">(")]
  simp

theorem integer_mem_javaParams {record : RouteRecord} (filled : record.paramCodes.isEmpty = false)
    (rest : String) : "Integer" ∈ lineWords (Java.paramsMap record ++ rest) := by
  have opened : IsCode "new java.util.HashMap<String" ["new", "java.util.HashMap", "String"] := by
    decide
  have isInteger : IsWord "Integer" := rfl
  rw [Java.paramsMap, if_neg (by rw [filled]; exact Bool.false_ne_true)]
  generalize String.join _ = pairs
  have parts : "new java.util.HashMap<String, Integer>()\x7b\x7b" ++ pairs ++ "\x7d\x7d" ++ rest =
      "new java.util.HashMap<String" ++ (", " ++ ("Integer" ++ (">()\x7b\x7b" ++
        (pairs ++ ("\x7d\x7d" ++ rest))))) := by
    apply String.toList_injective
    simp
  rw [parts, lineWords_code opened.unquoted (rfl : IsGap ", "),
    lineWords_word isInteger (rfl : IsGap ">()\x7b\x7b")]
  simp

/-- What follows the group in an entry stands in its line. -/
theorem mem_lineWords_entry (key : String) (record : RouteRecord) (escapeDollar : Bool)
    {put build kind class_ tail line word : String} (putPlain : '"' ∉ put.toList)
    (buildPlain : '"' ∉ build.toList) (kindPlain : '"' ∉ kind.toList)
    (classPlain : '"' ∉ class_.toList) (member : word ∈ lineWords tail)
    (same : line = put ++ ("(" ++ (Text.literal key escapeDollar ++ (", " ++ (build ++ ("(" ++
      (kind ++ (", " ++ (class_ ++ (", " ++ (Text.literal record.path escapeDollar ++ (", " ++
        (Text.literal record.groupName escapeDollar ++ (", " ++ tail)))))))))))))) :
    word ∈ lineWords line := by
  have comma : IsGap ", " := rfl
  have bracket : IsGap "(" := rfl
  rw [same, lineWords_code putPlain bracket, lineWords_literal, lineWords_gap comma,
    lineWords_code buildPlain bracket, lineWords_code kindPlain comma,
    lineWords_code classPlain comma, lineWords_literal, lineWords_gap comma, lineWords_literal,
    lineWords_gap comma]
  simp [member]

end Entries

end Source

/-- Whether one of some routes takes parameters. -/
def takeParameters (records : List RouteRecord) : Bool :=
  records.any fun record => !record.paramCodes.isEmpty

/-- Whether an injector ends with an exception if a field is missing. -/
def InjectorPlan.throws (plan : InjectorPlan) : Bool :=
  plan.statements.any fun
    | .nullCheck _ _ .throw => true
    | _ => false

namespace Language

/-- Names of the language itself that sources may use without a claim to them. -/
def builtIns : Language → List String
  | .kotlin => ["MutableMap", "String", "Class", "Int", "Any", "RuntimeException"]
  | .java => ["String", "Class", "Integer", "Object", "Override", "RuntimeException"]

/-- The built-in that whole numbers have as their type. -/
def wholeNumber : Language → String
  | .kotlin => "Int"
  | .java => "Integer"

/-- The built-ins that every method of a table is written with. -/
def tableWords : Language → List String
  | .kotlin => ["MutableMap"]
  | .java => ["Override"]

/-- The built-ins that every method of an injector is written with. -/
def injectorWords : Language → List String
  | .kotlin => ["Any"]
  | .java => ["Override", "Object"]

/-- The built-ins that a table of routes is written with. -/
def routeWords (language : Language) (records : List RouteRecord) : List String :=
  language.tableWords ++ ["String"] ++
    if takeParameters records then [language.wholeNumber] else []

/-- The built-ins that the class of a unit is written with. -/
def builtInsOf (language : Language) : UnitBody → List String
  | .root _ => language.tableWords ++ ["String", "Class"]
  | .group _ routes => language.routeWords routes
  | .providers entries => language.routeWords (entries.map Prod.snd)
  | .interceptors _ => language.tableWords ++ [language.wholeNumber, "Class"]
  | .injector plan =>
    language.injectorWords ++ if plan.throws then ["RuntimeException"] else []

/-- The source of a unit relies on a built-in: it stands in the class, whichever way other classes
    are written. -/
def Relies (language : Language) (unit : GeneratedUnit) (word : String) : Prop :=
  word ∈ language.builtIns ∧ ∀ written : String → String, (∀ name, '"' ∉ (written name).toList) →
    word ∈ (language.lines written unit.key.name unit.body).flatMap Source.lineWords

theorem builtInsOf_subset (language : Language) (body : UnitBody) :
    language.builtInsOf body ⊆ language.builtIns := by
  have root : language.tableWords ++ ["String", "Class"] ⊆ language.builtIns := by
    cases language <;> decide
  have routes : ∀ takes : Bool, language.tableWords ++ ["String"] ++
      (if takes then [language.wholeNumber] else []) ⊆ language.builtIns := by
    cases language <;> decide
  have interceptors :
      language.tableWords ++ [language.wholeNumber, "Class"] ⊆ language.builtIns := by
    cases language <;> decide
  have injector : ∀ throws : Bool, language.injectorWords ++
      (if throws then ["RuntimeException"] else []) ⊆ language.builtIns := by
    cases language <;> decide
  cases body with
  | root => exact root
  | group => exact routes _
  | providers => exact routes _
  | interceptors => exact interceptors
  | injector => exact injector _

theorem ite_subset {condition : Bool} {word : String} {whole : List String}
    (known : condition = true → word ∈ whole) :
    (if condition then [word] else []) ⊆ whole := by
  cases condition with
  | true => exact List.cons_subset.mpr ⟨known rfl, List.nil_subset _⟩
  | false => exact List.nil_subset _

section Relies

variable {written : String → String} (unquoted : ∀ name, '"' ∉ (written name).toList)
include unquoted

theorem wholeNumber_mem_entryLine (language : Language) {parameter : String}
    (isParameter : Source.IsWord parameter) (key : String) {record : RouteRecord}
    (filled : record.paramCodes.isEmpty = false) :
    language.wholeNumber ∈ Source.lineWords (language.entryLine written parameter key record) := by
  have putPlain : '"' ∉ (parameter ++ ".put").toList := by
    simp [isParameter.isCode.unquoted]
  have buildPlain : '"' ∉ (written Contract.routeMeta ++ ".build").toList := by simp [unquoted]
  have kindPlain :
      '"' ∉ (written Contract.routeType ++ "." ++ record.kind.runtimeName).toList := by
    simp [unquoted, record.kind.isWord_runtimeName.isCode.unquoted]
  cases language with
  | kotlin =>
      have classPlain : '"' ∉ (written record.target.name ++ "::class.java").toList := by
        simp [unquoted]
      have params := Source.int_mem_kotlinParams filled
        (", " ++ toString record.priority ++ ", " ++ toString record.extra ++ "))")
      refine Source.mem_lineWords_entry key record true putPlain buildPlain kindPlain classPlain
        params ?_
      apply String.toList_injective
      simp [entryLine, Source.Kotlin.routeEntry, Source.Kotlin.routeMeta, Source.commas,
        String.intercalate_cons_cons, Source.Kotlin.classLiteral, Source.Kotlin.literal]
  | java =>
      have classPlain :
          '"' ∉ (written (Source.Java.javaName record.target.name) ++ ".class").toList := by
        simp [unquoted]
      have params := Source.integer_mem_javaParams filled
        (", " ++ toString record.priority ++ ", " ++ toString record.extra ++ "));")
      refine Source.mem_lineWords_entry key record false putPlain buildPlain kindPlain classPlain
        params ?_
      apply String.toList_injective
      simp [entryLine, Source.Java.routeEntry, Source.commas, String.intercalate_cons_cons,
        Source.Java.classLiteral, Source.Java.literal]

/-- A table of routes is a map from strings, and its entries may hold maps to numbers. -/
theorem routeWords_subset (language : Language) {parameter : String}
    (isParameter : Source.IsWord parameter) (name contract : String)
    (entries : List (String × RouteRecord)) :
    language.routeWords (entries.map Prod.snd) ⊆
      (language.routeTable written name contract parameter entries).flatMap Source.lineWords := by
  have isString : Source.IsWord "String" := rfl
  let body := entries.map fun entry => language.entryLine written parameter entry.1 entry.2
  have numbers : takeParameters (entries.map Prod.snd) = true →
      language.wholeNumber ∈ body.flatMap Source.lineWords := by
    intro takes
    obtain ⟨_, listed, filled⟩ := List.any_eq_true.mp takes
    obtain ⟨entry, member, rfl⟩ := List.mem_map.mp listed
    exact List.mem_flatMap.mpr ⟨_, List.mem_map_of_mem member,
      wholeNumber_mem_entryLine unquoted language isParameter entry.1 (by simpa using filled)⟩
  suffices whole : language.tableWords ++ ["String"] ⊆
        (language.routeTable written name contract parameter entries).flatMap Source.lineWords ∧
      body.flatMap Source.lineWords ⊆
        (language.routeTable written name contract parameter entries).flatMap Source.lineWords from
    List.append_subset.mpr ⟨whole.1, ite_subset fun takes => whole.2 (numbers takes)⟩
  cases language with
  | kotlin =>
      have shape : parameter ++ ": MutableMap<String, " ++ written Contract.routeMeta ++ ">" =
          parameter ++ ": MutableMap<" ++ "String" ++ ", " ++
            (written Contract.routeMeta ++ ">") := by
        apply String.toList_injective
        simp
      obtain ⟨front, -, inner⟩ :=
        Source.subset_kotlinTable isParameter isString shape name (written contract) body rfl
      exact ⟨front, inner⟩
  | java =>
      have shape : written Contract.javaMap ++ "<String, " ++ written Contract.routeMeta ++ "> " ++
          parameter = written Contract.javaMap ++ "<" ++ "String" ++ ", " ++
            (written Contract.routeMeta ++ "> " ++ parameter) := by
        apply String.toList_injective
        simp
      obtain ⟨front, -, inner⟩ :=
        Source.subset_javaTable (unquoted _) isString shape name (written contract) body rfl
      exact ⟨front, inner⟩

theorem rootWords_subset (language : Language) (name : String) (groups : List (String × UnitKey)) :
    language.tableWords ++ ["String", "Class"] ⊆
      (language.lines written name (.root groups)).flatMap Source.lineWords := by
  have isString : Source.IsWord "String" := rfl
  have isParameter : Source.IsWord "routes" := rfl
  cases language with
  | kotlin =>
      have shape : "routes: MutableMap<String, Class<out " ++ written Contract.routeGroup ++ ">>" =
          "routes" ++ ": MutableMap<" ++ "String" ++ ", Class<out " ++
            written Contract.routeGroup ++ ">>" := by
        simp
      exact Source.subset_kotlinClasses isParameter isString shape _ _ _
  | java =>
      have shape : written Contract.javaMap ++ "<String, Class<? extends " ++
          written Contract.routeGroup ++ ">> routes" =
            written Contract.javaMap ++ "<" ++ "String" ++ ", Class<? extends " ++
              written Contract.routeGroup ++ ">> " ++ "routes" := by
        simp [String.append_assoc]
      exact Source.subset_javaClasses (unquoted _) isString shape _ _ _

theorem interceptorWords_subset (language : Language) (name : String) (hooks : List HookRecord) :
    language.tableWords ++ [language.wholeNumber, "Class"] ⊆
      (language.lines written name (.interceptors hooks)).flatMap Source.lineWords := by
  cases language with
  | kotlin =>
      have isNumber : Source.IsWord "Int" := rfl
      have isParameter : Source.IsWord "interceptors" := rfl
      have shape : "interceptors: MutableMap<Int, Class<out " ++ written Contract.interceptor ++
          ">>" = "interceptors" ++ ": MutableMap<" ++ "Int" ++ ", Class<out " ++
            written Contract.interceptor ++ ">>" := by
        simp
      exact Source.subset_kotlinClasses isParameter isNumber shape _ _ _
  | java =>
      have isNumber : Source.IsWord "Integer" := rfl
      have shape : written Contract.javaMap ++ "<Integer, Class<? extends " ++
          written Contract.interceptor ++ ">> interceptors" =
            written Contract.javaMap ++ "<" ++ "Integer" ++ ", Class<? extends " ++
              written Contract.interceptor ++ ">> " ++ "interceptors" := by
        simp [String.append_assoc]
      exact Source.subset_javaClasses (unquoted _) isNumber shape _ _ _

omit unquoted in
/-- A check that ends the injection makes an exception. -/
theorem exception_mem_nullCheck (language : Language) (field owner : String) :
    "RuntimeException" ∈ (language.statementLines written
      (.nullCheck field owner .throw)).flatMap Source.lineWords := by
  have isException : Source.IsWord "RuntimeException" := rfl
  have isBracket : Source.IsGap "(" := rfl
  have isBlank : Source.IsGap " " := rfl
  cases language with
  | kotlin =>
      have isMargin : Source.IsGap Source.Kotlin.margin := rfl
      have opened : Source.IsCode "throw" ["throw"] := by decide
      have shape : "throw RuntimeException(" ++ Source.Kotlin.literal (nullMessage field owner) ++
          ")" = "throw" ++ (" " ++ ("RuntimeException" ++ ("(" ++
            (Source.Kotlin.literal (nullMessage field owner) ++ ")")))) := by
        simp [← String.append_assoc]
      rw [statementLines, Source.Kotlin.statementLines, Source.flatMap_lineWords_block isMargin,
        List.flatMap_singleton]
      rw [shape, Source.lineWords_code opened.unquoted isBlank,
        Source.lineWords_word isException isBracket]
      simp
  | java =>
      have isMargin : Source.IsGap Source.Java.margin := rfl
      have opened : Source.IsCode "throw new" ["throw", "new"] := by decide
      have shape : "throw new RuntimeException(" ++
          Source.Java.literal (nullMessage field owner) ++ ");" =
            "throw new" ++ (" " ++ ("RuntimeException" ++ ("(" ++
              (Source.Java.literal (nullMessage field owner) ++ ");")))) := by
        simp [← String.append_assoc]
      rw [statementLines, Source.Java.statementLines, Source.flatMap_lineWords_block isMargin,
        List.flatMap_singleton]
      rw [shape, Source.lineWords_code opened.unquoted isBlank,
        Source.lineWords_word isException isBracket]
      simp

omit unquoted in
theorem injectorWords_subset (language : Language) (name : String) (plan : InjectorPlan) :
    language.builtInsOf (.injector plan) ⊆
      (language.lines written name (.injector plan)).flatMap Source.lineWords := by
  have exception : plan.throws = true → "RuntimeException" ∈
      (plan.statements.flatMap (language.statementLines written)).flatMap Source.lineWords := by
    intro throws
    obtain ⟨statement, member, throwing⟩ := List.any_eq_true.mp throws
    split at throwing
    case h_2 => cases throwing
    case h_1 field owner =>
      rw [List.flatMap_assoc]
      exact List.mem_flatMap.mpr ⟨_, member, exception_mem_nullCheck language field owner⟩
  suffices whole : language.injectorWords ⊆
        (language.lines written name (.injector plan)).flatMap Source.lineWords ∧
      (language.injectorBody written plan).flatMap Source.lineWords ⊆
        (language.lines written name (.injector plan)).flatMap Source.lineWords by
    refine List.append_subset.mpr ⟨whole.1, ite_subset fun throws => whole.2 ?_⟩
    rw [injectorBody, List.flatMap_append]
    exact List.mem_append_right _ (exception throws)
  cases language with
  | kotlin =>
      have shape : kotlin.lines written name (.injector plan) =
          Source.Kotlin.classLines name (written Contract.syringe)
            ((if plan.usesJson then [kotlin.holderLine written, ""] else []) ++
              Source.Kotlin.method Contract.inject "target: Any?"
                (kotlin.injectorBody written plan)) := rfl
      have any : ["Any"] ⊆ Source.lineWords ("override fun " ++ Contract.inject ++ "(" ++
          "target: Any?" ++ ")" ++ " \x7b") := by
        decide
      rw [shape]
      obtain ⟨opening, body⟩ := List.append_subset.mp (Source.subset_kotlinClass ..)
      exact ⟨List.Subset.trans any opening, body⟩
  | java =>
      have shape : java.lines written name (.injector plan) =
          Source.Java.classLines name (written Contract.syringe)
            ((if plan.usesJson then [java.holderLine written, ""] else []) ++
              Source.Java.method Contract.inject "Object target"
                (java.injectorBody written plan)) := rfl
      have object : ["Object"] ⊆ Source.lineWords ("public void " ++ Contract.inject ++ "(" ++
          "Object target" ++ ")" ++ " \x7b") := by
        decide
      rw [shape]
      obtain ⟨override, others⟩ := List.cons_subset.mp (Source.subset_javaClass ..)
      obtain ⟨opening, body⟩ := List.append_subset.mp others
      exact ⟨List.cons_subset.mpr ⟨override, List.Subset.trans object opening⟩, body⟩

theorem builtInsOf_subset_lines (language : Language) (name : String) (body : UnitBody) :
    language.builtInsOf body ⊆ (language.lines written name body).flatMap Source.lineWords := by
  cases body with
  | root groups => exact rootWords_subset unquoted language name groups
  | group group routes =>
      have isParameter : Source.IsWord "atlas" := rfl
      have shape : language.lines written name (.group group routes) =
          language.routeTable written name Contract.routeGroup "atlas"
            (routes.map fun r => (r.path, r)) := by
        cases language <;> rfl
      have records : (routes.map fun r => (r.path, r)).map Prod.snd = routes := by
        simp [Function.comp_def]
      have entries := routeWords_subset unquoted language isParameter name Contract.routeGroup
        (routes.map fun r => (r.path, r))
      rw [records] at entries
      rw [shape]
      exact entries
  | providers entries =>
      have isParameter : Source.IsWord "providers" := rfl
      have shape : language.lines written name (.providers entries) =
          language.routeTable written name Contract.providerGroup "providers" entries := by
        cases language <;> rfl
      rw [shape]
      exact routeWords_subset unquoted language isParameter name Contract.providerGroup entries
  | interceptors hooks => exact interceptorWords_subset unquoted language name hooks
  | injector plan => exact injectorWords_subset language name plan

end Relies

theorem relies_of_mem {language : Language} {unit : GeneratedUnit} {word : String}
    (member : word ∈ language.builtInsOf unit.body) : language.Relies unit word :=
  ⟨language.builtInsOf_subset unit.body member, fun _ unquoted =>
    builtInsOf_subset_lines unquoted language unit.key.name unit.body member⟩

/-- An import takes the place of a built-in on which the source of a unit relies. -/
def Captures (language : Language) (unit : GeneratedUnit) (word : String) : Prop :=
  language.Relies unit word ∧
    ∃ name ∈ (language.imports unit).imported, QualifiedName.simple name = word

/-- The source of a unit has to import a class in order to use its simple name. -/
def IsForeign (language : Language) (unit : GeneratedUnit) (name : String) : Prop :=
  QualifiedName.package name ≠ "" ∧ QualifiedName.package name ≠ unit.key.package ∧
    QualifiedName.package name ∉ language.implicitPackages

section Captures

variable {language : Language} {unit : GeneratedUnit} {name word : String}

theorem mem_imported_iff : name ∈ (language.imports unit).imported ↔
    Imports.firstBearer? (language.mentions unit.body) (QualifiedName.simple name) = some name ∧
      language.IsForeign unit name := by
  have held : ∀ key, (language.imports unit).holders.get? key =
      Imports.firstBearer? (language.mentions unit.body) key := by
    intro key
    rw [imports, Imports.get?_claimAll, SortedMap.get?_empty, Option.none_or]
  have foreign : (language.imports unit).isForeign name = true ↔ language.IsForeign unit name := by
    obtain ⟨package, implicit⟩ := Imports.claimAll_eq
      ⟨unit.key.package, language.implicitPackages, .empty⟩ (language.mentions unit.body)
    simp [Imports.isForeign, imports, package, implicit, IsForeign, and_assoc]
  rw [Imports.mem_imported, foreign]
  simp only [held]
  refine and_congr_left' ⟨?_, fun first => ⟨_, first⟩⟩
  rintro ⟨key, first⟩
  have named : QualifiedName.simple name = key := by simpa using List.find?_some first
  rwa [named]

theorem bound_iff : (∃ name ∈ (language.imports unit).imported, QualifiedName.simple name = word) ↔
    ∃ name, Imports.firstBearer? (language.mentions unit.body) word = some name ∧
      language.IsForeign unit name := by
  constructor
  · rintro ⟨name, imported, rfl⟩
    exact ⟨name, mem_imported_iff.mp imported⟩
  · rintro ⟨name, first, foreign⟩
    have named : QualifiedName.simple name = word := by simpa using List.find?_some first
    exact ⟨name, mem_imported_iff.mpr ⟨named ▸ first, foreign⟩, named⟩

/-- A class with the name of a built-in that has to be imported is not one of the runtime, nor one
    that goes by another name in the language. -/
theorem mem_classes_of_builtIn (mentioned : name ∈ language.mentions unit.body)
    (builtIn : QualifiedName.simple name ∈ language.builtIns)
    (foreign : language.IsForeign unit name) : name ∈ unit.body.classes := by
  have apart : ∀ name ∈ Contract.runtimeClasses,
      QualifiedName.simple name ∉ kotlin.builtIns ++ java.builtIns := by
    decide +kernel
  have runtime : ∀ name ∈ Contract.runtimeClasses,
      QualifiedName.simple name ∉ language.builtIns := by
    simp only [List.mem_append, not_or] at apart
    cases language with
    | kotlin => exact fun name member => (apart name member).1
    | java => exact fun name member => (apart name member).2
  have library : ∀ entry ∈ Source.Java.libraryNames,
      QualifiedName.simple entry.2 ∈ java.builtIns →
        QualifiedName.package entry.2 ∈ java.implicitPackages := by
    decide +kernel
  rcases mentioned_of_unit mentioned with shared | ⟨used, known, rfl | rfl⟩
  · exact absurd builtIn (runtime name shared)
  · exact known
  · cases language with
    | kotlin => exact known
    | java =>
        simp only [libraryName, Source.Java.javaName] at builtIn foreign ⊢
        cases found : Source.Java.libraryNames.lookup used with
        | none => exact known
        | some other =>
            obtain ⟨_, _, split, _⟩ := List.lookup_eq_some_iff.mp found
            have listed : (used, other) ∈ Source.Java.libraryNames := by simp [split]
            rw [found] at builtIn foreign
            exact absurd (library _ listed builtIn) foreign.2.2

end Captures

/-- Which built-ins the source of a unit relies on, and which of them it loses to an import. -/
structure BuiltInLaw (language : Language) (unit : GeneratedUnit) : Prop where
  relied : ∀ word ∈ language.builtInsOf unit.body, language.Relies unit word
  captured_iff : ∀ word, language.Captures unit word ↔ language.Relies unit word ∧
    ∃ name, Imports.firstBearer? (language.mentions unit.body) word = some name ∧
      language.IsForeign unit name
  /-- It is a class that the unit is about that takes the place, and it is named like the
      built-in. -/
  theirs : ∀ word, language.Captures unit word →
    ∃ name ∈ unit.body.classes, QualifiedName.simple name = word ∧ language.IsForeign unit name

theorem builtInLaw_of_unit (language : Language) (unit : GeneratedUnit) :
    language.BuiltInLaw unit where
  relied := fun _ => relies_of_mem
  captured_iff := fun word => and_congr_right' bound_iff
  theirs := by
    rintro word ⟨relies, name, imported, rfl⟩
    obtain ⟨first, foreign⟩ := mem_imported_iff.mp imported
    exact ⟨name, mem_classes_of_builtIn (List.mem_of_find?_eq_some first) relies.1 foreign, rfl,
      foreign⟩

section Homonym

private def stringPage : RouteRecord :=
  { path := "/main/string"
    kind := .screen
    target := .named "app.String"
    group := some "main" }

/-- The group unit of a page that is called like the strings of the language. -/
private def stringUnit : GeneratedUnit :=
  ⟨.group "main", .group "main" [stringPage], ["app.String"]⟩

/-- The page is imported, and the table's map is from strings no more. -/
theorem string_captured :
    stringUnit ∈ (RouteTable.empty.insertAll [stringPage]).table.units "app" ∧
      ∀ language : Language, "app.String" ∈ (language.imports stringUnit).imported ∧
        language.Captures stringUnit "String" := by
  refine ⟨by decide +kernel, fun language => ?_⟩
  have imported : "app.String" ∈ (language.imports stringUnit).imported := by
    cases language <;> decide +kernel
  have relies : language.Relies stringUnit "String" :=
    relies_of_mem (by cases language <;> decide +kernel)
  exact ⟨imported, relies, "app.String", imported, by decide⟩

end Homonym

end Language

end RouteAtlas
