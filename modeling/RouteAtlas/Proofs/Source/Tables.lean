import RouteAtlas.Proofs.Except
import RouteAtlas.Proofs.Ledger
import RouteAtlas.Proofs.Source.File
import RouteAtlas.Proofs.Source.Mentions

/-! # Reading tables of routes

The source of a table of routes is read back entry by entry, in either language: neither the texts
of an entry nor the names of classes that share a simple name get in each other's way.
-/

namespace RouteAtlas

/-- What a table says about one route. -/
structure TableEntry where
  /-- The key under which the route is looked up. -/
  key : String
  kind : String
  /-- Qualified name of the class that the route leads to. -/
  target : String
  path : String
  group : String
  /-- The numbers of the kinds of the parameters, by key. -/
  params : List (String × Int)
  priority : Int
  extra : Int
  deriving DecidableEq, Repr

def TableEntry.ofRecord (key : String) (record : RouteRecord) : TableEntry where
  key := key
  kind := record.kind.runtimeName
  target := record.target.name
  path := record.path
  group := record.groupName
  params := record.paramCodes.entries
  priority := record.priority
  extra := record.extra

namespace Source

/-- Whether a word is a number. -/
def isNumeral (word : String) : Bool :=
  word.toList.all fun c => c.isDigit || c == '-'

theorem isNumeral_toString (n : Int) : isNumeral (toString n) = true := by
  have digits : ∀ m : Nat, m.repr.toList.all (fun c => c.isDigit || c == '-') = true := by
    intro m
    rw [Nat.toList_repr, List.all_eq_true]
    intro c member
    rw [Nat.isDigit_of_mem_toDigits (by decide) (by decide) member]
    rfl
  rw [Int.toString_eq_repr, Int.repr_eq_if, isNumeral]
  split
  · exact digits _
  · rw [String.toList_append, List.all_append, digits]
    rfl

theorem isWord_toString (n : Int) : IsWord (toString n) := by
  refine isWord_iff.mpr ⟨?_, ?_⟩
  · rw [Int.toString_eq_repr, Int.repr_eq_if]
    split
    · exact Nat.repr_ne_empty
    · simp
  · intro c member
    have numeral := List.all_eq_true.mp (isNumeral_toString n) c member
    simp only [Bool.or_eq_true, beq_iff_eq] at numeral
    rcases numeral with digit | sign
    · simp [isWordLetter, isNameLetter, QualifiedName.isWordChar, Char.isAlphanum, digit]
    · simp [isWordLetter, sign]

/-- The value of a number. -/
def valueOf (word : String) : Int :=
  match word.toList with
  | '-' :: digits => -(Nat.ofDigitChars 10 digits 0 : Int)
  | digits => Nat.ofDigitChars 10 digits 0

theorem valueOf_toString (n : Int) : valueOf (toString n) = n := by
  rw [Int.toString_eq_repr, Int.repr_eq_if, valueOf]
  by_cases positive : 0 ≤ n
  case pos =>
    rw [if_pos positive, Nat.toList_repr]
    split
    case h_1 digits signed =>
      have sign : '-' ∈ Nat.toDigits 10 n.toNat := signed ▸ List.mem_cons_self
      have digit := Nat.isDigit_of_mem_toDigits (by decide) (by decide) sign
      exact absurd digit (by decide)
    case h_2 =>
      rw [Nat.ofDigitChars_ten_toDigits]
      omega
  case neg =>
    have spelled : ("-" ++ (-n).toNat.repr).toList = '-' :: Nat.toDigits 10 (-n).toNat := by
      rw [String.toList_append, Nat.toList_repr]
      rfl
    rw [if_neg positive, spelled]
    simp only [Nat.ofDigitChars_ten_toDigits]
    omega

/-- The numbers among words. -/
def numbers (words : List String) : List Int :=
  (words.filter isNumeral).map valueOf

theorem numbers_append (first second : List String) :
    numbers (first ++ second) = numbers first ++ numbers second := by
  rw [numbers, List.filter_append, List.map_append]
  rfl

theorem numbers_cons_toString (n : Int) (rest : List String) :
    numbers (toString n :: rest) = n :: numbers rest := by
  rw [numbers, List.filter_cons_of_pos (isNumeral_toString n), List.map_cons, valueOf_toString]
  rfl

end Source

namespace Language

/-- The words between the key and the path of an entry: the kind, and how the class is written. -/
def classOf? : Language → List String → Option (String × String)
  | .kotlin, [_, kind, written, _] => some (QualifiedName.simple kind, written)
  | .java, [_, kind, literal] => some (QualifiedName.simple kind, QualifiedName.package literal)
  | _, _ => none

/-- The entry of a line. Its numbers are those of the parameters, the priority and the extra. -/
def readEntry (language : Language) (scope : Scope) (line : Source.Line) : Option TableEntry :=
  match line.texts with
  | (key, about) :: (path, _) :: (group, rest) :: params =>
    let numbers := Source.numbers (rest ++ params.flatMap Prod.snd)
    match language.classOf? about, numbers.drop params.length with
    | some (kind, written), [priority, extra] =>
      some ⟨key, kind, scope.resolve written, path, group, (params.map Prod.fst).zip numbers,
        priority, extra⟩
    | _, _ => none
  | _ => none

/-- The entries of the table in a source. -/
def readTable (language : Language) (source : String) : Option (List TableEntry) :=
  let lines := Source.linesOf source
  ((language.bodyOf lines).map Source.readLine).mapM (language.readEntry (language.readScope lines))

end Language

namespace Source

/-- A part of a line with the given texts, and the given numbers among its words. -/
def Carries (line : String) (keys : List String) (values : List Int) : Prop :=
  ∃ result, Reads line result ∧ result.texts.map Prod.fst = keys ∧
    numbers (result.head ++ result.texts.flatMap Prod.snd) = values

namespace Carries

variable {rest : String} {keys : List String} {values : List Int}

theorem of_eq {line other : String} (carries : Carries line keys values) (same : other = line) :
    Carries other keys values :=
  same ▸ carries

theorem code {code : String} {spelled : List String} (isCode : IsCode code spelled)
    (gap : String) (carries : Carries rest keys values) (plain : numbers spelled = [])
    (isGap : IsGap gap) :
    Carries (code ++ (gap ++ rest)) keys values := by
  obtain ⟨result, reads, texts, numbered⟩ := carries
  refine ⟨_, reads.code isCode gap isGap, texts, ?_⟩
  rw [List.append_assoc, numbers_append, plain, numbered]
  rfl

theorem gap (gap : String) (carries : Carries rest keys values)
    (isGap : IsGap gap) :
    Carries (gap ++ rest) keys values := by
  obtain ⟨result, reads, texts, numbered⟩ := carries
  exact ⟨_, reads.gap gap isGap, texts, numbered⟩

theorem number (value : Int) (gap : String) (carries : Carries rest keys values)
    (isGap : IsGap gap) :
    Carries (toString value ++ (gap ++ rest)) keys (value :: values) := by
  obtain ⟨result, reads, texts, numbered⟩ := carries
  refine ⟨_, reads.word _ gap (isWord_toString value) isGap, texts, ?_⟩
  rw [List.cons_append, numbers_cons_toString, numbered]

theorem literal (key : String) (escapeDollar : Bool) (carries : Carries rest keys values) :
    Carries (Text.literal key escapeDollar ++ rest) (key :: keys) values := by
  obtain ⟨result, reads, texts, numbered⟩ := carries
  exact ⟨_, reads.literal key escapeDollar, by simp [texts], by simpa using numbered⟩

/-- The end of an entry: its priority and its extra. -/
theorem ending (priority extra : Int) (closing : String)
    (isGap : IsGap closing) :
    Carries (toString priority ++ (", " ++ (toString extra ++ (closing ++ "")))) []
      [priority, extra] := by
  have nothing : Carries "" [] [] := ⟨_, .empty, rfl, rfl⟩
  exact (nothing.number extra closing isGap).number priority ", " rfl

end Carries

theorem carries_kotlinPair (entry : String × Int) (gap : String) {rest : String}
    {keys : List String} {values : List Int} (carries : Carries rest keys values)
    (isGap : IsGap gap) :
    Carries (Kotlin.literal entry.1 ++ " to " ++ toString entry.2 ++ (gap ++ rest))
      (entry.1 :: keys) (entry.2 :: values) := by
  have isTo : IsCode " to" ["to"] := by decide
  have read := ((carries.number entry.2 gap isGap).code isTo " " rfl rfl).literal entry.1 true
  refine read.of_eq ?_
  apply String.toList_injective
  simp [Kotlin.literal]

theorem carries_kotlinParams (record : RouteRecord) {rest : String} {values : List Int}
    (carries : Carries rest [] values) :
    Carries (Kotlin.paramsMap record ++ (", " ++ rest)) (record.paramCodes.entries.map Prod.fst)
      (record.paramCodes.entries.map Prod.snd ++ values) := by
  have isNull : IsCode "null" ["null"] := by decide
  have isMap : IsCode "hashMapOf<String, Int" ["hashMapOf", "String", "Int"] := by decide
  unfold Kotlin.paramsMap SortedMap.isEmpty
  cases record.paramCodes.entries with
  | nil => exact carries.code isNull ", " rfl rfl
  | cons first others =>
      have pairs : Carries (commas ((first :: others).map fun entry =>
          Kotlin.literal entry.1 ++ " to " ++ toString entry.2) ++ ("), " ++ rest))
          ((first :: others).map Prod.fst) ((first :: others).map Prod.snd ++ values) := by
        induction others generalizing first with
        | nil =>
            rw [List.map_singleton, commas, String.intercalate_singleton]
            exact carries_kotlinPair first "), " carries rfl
        | cons next others ih =>
            have read := carries_kotlinPair first ", " (ih next) rfl
            rw [commas, List.map_cons, List.map_cons, String.intercalate_cons_cons]
            simpa only [commas, String.append_assoc, List.map_cons, List.cons_append] using read
      refine (pairs.code isMap ">(" rfl rfl).of_eq ?_
      apply String.toList_injective
      simp

theorem carries_javaParams (record : RouteRecord) {rest : String} {values : List Int}
    (carries : Carries rest [] values) :
    Carries (Java.paramsMap record ++ (", " ++ rest)) (record.paramCodes.entries.map Prod.fst)
      (record.paramCodes.entries.map Prod.snd ++ values) := by
  have isNull : IsCode "null" ["null"] := by decide
  have isPut : IsCode "put" ["put"] := by decide
  have isMap : IsCode "new java.util.HashMap<String, Integer"
      ["new", "java.util.HashMap", "String", "Integer"] := by decide
  unfold Java.paramsMap SortedMap.isEmpty
  generalize record.paramCodes.entries = entries
  have puts : Carries (String.join (entries.map fun entry =>
      "put(" ++ Java.literal entry.1 ++ ", " ++ toString entry.2 ++ "); ") ++
        ("\x7d\x7d, " ++ rest)) (entries.map Prod.fst) (entries.map Prod.snd ++ values) := by
    induction entries with
    | nil => exact (carries.gap "\x7d\x7d, " rfl).of_eq (String.empty_append)
    | cons first others ih =>
        have pair := ((ih.number first.2 "); " rfl).gap ", " rfl).literal first.1 false
        refine (pair.code isPut "(" rfl rfl).of_eq ?_
        apply String.toList_injective
        simp [Java.literal]
  cases entries with
  | nil => exact carries.code isNull ", " rfl rfl
  | cons first others =>
      refine (puts.code isMap ">()\x7b\x7b" rfl rfl).of_eq ?_
      apply String.toList_injective
      simp

end Source

namespace RouteKind

theorem dot_not_mem_runtimeName (kind : RouteKind) : '.' ∉ kind.runtimeName.toList := by
  cases kind <;> decide

theorem isWord_runtimeName (kind : RouteKind) : Source.IsWord kind.runtimeName := by
  cases kind <;> rfl

end RouteKind

namespace Language

section Entries

variable {language : Language} {scope : Scope} {key : String} {record : RouteRecord}

/-- The parts of an entry put together. -/
theorem readEntry_of_numbers {head about : List String} {written : String} {result : Source.Line}
    (known : language.classOf? about = some (record.kind.runtimeName, written))
    (found : scope.resolve written = record.target.name)
    (texts : result.texts.map Prod.fst = record.paramCodes.entries.map Prod.fst)
    (numbered : Source.numbers (result.head ++ result.texts.flatMap Prod.snd) =
      record.paramCodes.entries.map Prod.snd ++ [record.priority, record.extra]) :
    language.readEntry scope ⟨head, (key, about) :: (record.path, []) ::
        (record.groupName, result.head) :: result.texts⟩ =
      some (.ofRecord key record) := by
  have count : result.texts.length = (record.paramCodes.entries.map Prod.snd).length := by
    simpa using congrArg List.length texts
  have pairs : ∀ (entries : List (String × Int)) (rest : List Int),
      (entries.map Prod.fst).zip (entries.map Prod.snd ++ rest) = entries := by
    intro entries rest
    induction entries with
    | nil => rfl
    | cons entry entries ih => simp [ih]
  simp only [readEntry, numbered, count, List.drop_left, known, found, texts, pairs]
  rfl

/-- The line of one entry of a table. -/
def entryLine : Language → (String → String) → String → String → RouteRecord → String
  | .kotlin => Source.Kotlin.routeEntry
  | .java => Source.Java.routeEntry

/-- The line of an entry, given the class that it is about and what follows its group. -/
theorem reads_entry (key : String) (record : RouteRecord) (escapeDollar : Bool)
    {put build kind class_ tail : String} {spelled : List String} {result : Source.Line}
    (isPut : Source.IsWord put) (isBuild : Source.IsWord build) (isKind : Source.IsWord kind)
    (isClass : Source.IsCode class_ spelled) (reads : Source.Reads tail result) :
    Source.Reads
      (put ++ ("(" ++ (Text.literal key escapeDollar ++ (", " ++ (build ++ ("(" ++ (kind ++ (", " ++
        (class_ ++ (", " ++ (Text.literal record.path escapeDollar ++ (", " ++
          (Text.literal record.groupName escapeDollar ++ (", " ++ tail))))))))))))))
      ⟨[put], (key, build :: kind :: spelled) :: (record.path, []) ::
        (record.groupName, result.head) :: result.texts⟩ := by
  have fromGroup := (reads.gap ", " rfl).literal record.groupName escapeDollar
  have fromPath := (fromGroup.gap ", " rfl).literal record.path escapeDollar
  have about := ((fromPath.code isClass ", " rfl).word _ ", " isKind rfl).word _ "(" isBuild rfl
  have whole := ((about.gap ", " rfl).literal key escapeDollar).word _ "(" isPut rfl
  simpa using whole

theorem reads_entryLine {written : String → String} {parameter : String}
    (isParameter : Source.IsWord parameter)
    (words : ∀ name, IsQualified name → Source.IsWord (written name))
    (target : IsQualified record.target.name)
    (kept : Source.Java.javaName record.target.name = record.target.name)
    (found : scope.resolve (written record.target.name) = record.target.name) :
    ∃ result, Source.Reads (language.entryLine written parameter key record) result ∧
      language.readEntry scope result = some (.ofRecord key record) := by
  have runtime : ∀ name ∈ Contract.runtimeClasses, Source.IsWord (written name) :=
    fun name known => words name (Contract.isQualified_of_runtime known)
  have isPut := isParameter.append ".put" rfl
  have isBuild := (runtime Contract.routeMeta (by decide)).append ".build" rfl
  have isKind := ((runtime Contract.routeType (by decide)).append "." rfl).append _
    record.kind.isWord_runtimeName
  have isTarget := words record.target.name target
  have kindName := QualifiedName.simple_append record.kind.dot_not_mem_runtimeName
    (written Contract.routeType)
  cases language with
  | kotlin =>
      obtain ⟨result, tail, texts, numbered⟩ := Source.carries_kotlinParams record
        (.ending record.priority record.extra "))" rfl)
      have isLiteral : Source.IsCode "class.java" ["class.java"] := Source.IsWord.isCode rfl
      have isClass := isTarget.isCode.append "::" isLiteral rfl
      have known : classOf? .kotlin [written Contract.routeMeta ++ ".build",
          written Contract.routeType ++ "." ++ record.kind.runtimeName, written record.target.name,
          "class.java"] = some (record.kind.runtimeName, written record.target.name) := by
        rw [classOf?, kindName]
      have whole := reads_entry key record true isPut isBuild isKind isClass tail
      refine ⟨_, whole.of_eq ?_, readEntry_of_numbers known found texts numbered⟩
      apply String.toList_injective
      simp [entryLine, Source.Kotlin.routeEntry, Source.Kotlin.routeMeta, Source.commas,
        String.intercalate_cons_cons, Source.Kotlin.classLiteral, Source.Kotlin.literal]
  | java =>
      obtain ⟨result, tail, texts, numbered⟩ := Source.carries_javaParams record
        (.ending record.priority record.extra "));" rfl)
      have isClass := (isTarget.append ".class" rfl).isCode
      have known : classOf? .java [written Contract.routeMeta ++ ".build",
          written Contract.routeType ++ "." ++ record.kind.runtimeName,
          written record.target.name ++ ".class"] =
            some (record.kind.runtimeName, written record.target.name) := by
        have literal := QualifiedName.package_append (by decide : '.' ∉ "class".toList)
          (written record.target.name)
        rw [String.append_assoc] at literal
        rw [classOf?, kindName]
        exact congrArg (fun name => some (record.kind.runtimeName, name)) literal
      have whole := reads_entry key record false isPut isBuild isKind isClass tail
      refine ⟨_, whole.of_eq ?_, readEntry_of_numbers known found texts numbered⟩
      apply String.toList_injective
      simp [entryLine, Source.Java.routeEntry, Source.commas, String.intercalate_cons_cons,
        Source.Java.classLiteral, Source.Java.literal, kept]

end Entries

end Language

/-- What a unit with a table of routes is made of: for a group its routes under their paths, and for
    the providers of a module any entries. -/
inductive UnitBody.IsTable : UnitBody → List (String × RouteRecord) → Prop
  | group {name : String} (routes : List RouteRecord)
      (identifier : name ≠ "" ∧ ∀ c ∈ name.toList, QualifiedName.isWordChar c = true ∨ c = '$') :
      IsTable (.group name routes) (routes.map fun record => (record.path, record))
  | providers (entries : List (String × RouteRecord)) : IsTable (.providers entries) entries

/-- The packages whose classes a source may write without an import or under another name. -/
def builtinPackages : List String :=
  ["kotlin", "kotlin.collections", "java.lang"]

/-- A unit with a table of routes that lead to classes outside the packages of the languages. The
    texts of the entries are arbitrary; the package of the unit is to fit on its line. -/
structure GeneratedUnit.IsTable (unit : GeneratedUnit) (entries : List (String × RouteRecord)) :
    Prop where
  body : unit.body.IsTable entries
  package : '\n' ∉ unit.key.package.toList
  targets : ∀ entry ∈ entries, IsQualified entry.2.target.name ∧
    QualifiedName.package entry.2.target.name ∉ builtinPackages

section Tables

variable {unit : GeneratedUnit} {entries : List (String × RouteRecord)}

theorem UnitBody.IsTable.check {body : UnitBody} (isTable : body.IsTable entries) (key : UnitKey) :
    body.check key = .ok () := by
  cases isTable with
  | group routes identifier =>
      obtain ⟨filled, letters⟩ := identifier
      exact if_pos (by simpa [filled] using letters)
  | providers => rfl

theorem javaName_of_explicit {name : String}
    (explicit : QualifiedName.package name ∉ builtinPackages) :
    Source.Java.javaName name = name := by
  have absent : Source.Java.libraryNames.lookup name = none := by
    rw [List.lookup_eq_none_iff]
    intro entry member
    have builtin : ∀ entry ∈ Source.Java.libraryNames,
        QualifiedName.package entry.1 ∈ builtinPackages := by
      decide
    rw [bne_iff_ne]
    rintro rfl
    exact explicit (builtin entry member)
  rw [Source.Java.javaName, absent]
  rfl

theorem UnitBody.IsTable.classes {body : UnitBody} (isTable : body.IsTable entries) :
    body.classes = entries.map fun entry => entry.2.target.name := by
  cases isTable with
  | group routes => simp [UnitBody.classes]
  | providers => rfl

theorem names_of_table (isTable : unit.IsTable entries) (language : Language) :
    language.Names unit where
  package := isTable.package
  mentions := by
    apply Language.isQualified_of_mentions
    rw [isTable.body.classes, List.forall_mem_map]
    exact fun entry member => (isTable.targets entry member).1

/-- The lines of a table's class. -/
def Language.routeTable : Language → (String → String) → String → String → String →
    List (String × RouteRecord) → List String
  | .kotlin => Source.Kotlin.routeTable
  | .java => Source.Java.routeTable

/-- The class of a table has one method, with one line for each entry. -/
theorem routeTable_eq (language : Language) {written : String → String} {parameter : String}
    (words : ∀ name, IsQualified name → Source.IsWord (written name))
    (isParameter : Source.IsWord parameter) (name contract : String)
    (entries : List (String × RouteRecord)) :
    ∃ outer before inner, '\n' ∉ inner.toList ∧
      language.routeTable written name contract parameter entries =
        language.classBlock outer before inner
          (entries.map fun entry => language.entryLine written parameter entry.1 entry.2) := by
  have runtime : ∀ name ∈ Contract.runtimeClasses, Source.IsWord (written name) :=
    fun name known => words name (Contract.isQualified_of_runtime known)
  have meta_ := (runtime Contract.routeMeta (by decide)).isCode.whole
  have map := (runtime Contract.javaMap (by decide)).isCode.whole
  have own := isParameter.isCode.whole
  cases language with
  | kotlin =>
      refine ⟨_, _, _, ?_, Language.kotlin_classLines _ _ _ _ [] _⟩
      simp [Contract.loadInto, meta_, own]
  | java =>
      refine ⟨_, _, _, ?_, Language.java_classLines _ _ _ _ [] _⟩
      simp [Contract.loadInto, meta_, map, own]

theorem lines_of_table {body : UnitBody} (isTable : body.IsTable entries) (language : Language)
    (written : String → String) (name : String) :
    ∃ contract parameter, Source.IsWord parameter ∧
      language.lines written name body =
        language.routeTable written name contract parameter entries := by
  cases isTable with
  | group routes =>
      refine ⟨Contract.routeGroup, "atlas", rfl, ?_⟩
      cases language <;> rfl
  | providers =>
      refine ⟨Contract.providerGroup, "providers", rfl, ?_⟩
      cases language <;> rfl

/-- The source of a table is read back as its entries. -/
theorem readTable_source (isTable : unit.IsTable entries) (language : Language) :
    language.readTable (language.source unit) =
      some (entries.map fun entry => .ofRecord entry.1 entry.2) := by
  have names := names_of_table isTable language
  have words := fun name (qualified : IsQualified name) =>
    (language.imports unit).isWord_written qualified
  obtain ⟨contract, parameter, isParameter, table⟩ := lines_of_table isTable.body language
    (language.imports unit).written unit.key.name
  obtain ⟨outer, before, inner, innerWhole, shape⟩ := routeTable_eq language words
    isParameter unit.key.name contract entries
  have each : ∀ entry ∈ entries, ∃ result,
      Source.Reads (language.entryLine (language.imports unit).written parameter entry.1 entry.2)
        result ∧
      language.readEntry ⟨unit.key.package, (language.imports unit).imported⟩ result =
        some (.ofRecord entry.1 entry.2) := by
    intro entry member
    obtain ⟨target, explicit⟩ := isTable.targets entry member
    have foreign : QualifiedName.package entry.2.target.name ∉ language.implicitPackages := by
      refine fun implicit => explicit ?_
      have builtin : ∀ package ∈ language.implicitPackages, package ∈ builtinPackages := by
        cases language <;> decide
      exact builtin _ implicit
    exact Language.reads_entryLine isParameter words target (javaName_of_explicit explicit)
      (Scope.resolve_written unit.key.package _ target foreign)
  have whole : ∀ line ∈ entries.map fun entry => language.entryLine
      (language.imports unit).written parameter entry.1 entry.2, '\n' ∉ line.toList := by
    intro line member
    obtain ⟨entry, known, rfl⟩ := List.mem_map.mp member
    obtain ⟨result, reads, -⟩ := each entry known
    exact reads.whole
  rw [Language.readTable]
  simp only [names.readScope, names.map_readLine (table.trans shape) innerWhole whole, List.map_map]
  apply mapM_map_eq_some
  intro entry member
  obtain ⟨result, reads, read⟩ := each entry member
  rw [Function.comp_apply, reads.readLine_eq, read]

/-- The table of a unit, as its sources are to carry it. -/
def tableOf (entries : List (String × RouteRecord)) : List TableEntry :=
  entries.map fun entry => .ofRecord entry.1 entry.2

/-- The sources of a unit carry its table. -/
structure GeneratedUnit.CarriesTable (unit : GeneratedUnit)
    (entries : List (String × RouteRecord)) : Prop where
  /-- The table is read back from the source in either language. -/
  read : ∀ language : Language, ∃ rendered, language.render unit = .ok rendered ∧
    language.readTable rendered.source = some (tableOf entries)
  /-- The sources in the two languages carry one table. -/
  agree : ∀ kotlin java, Language.kotlin.render unit = .ok kotlin →
    Language.java.render unit = .ok java →
    Language.kotlin.readTable kotlin.source = Language.java.readTable java.source
  /-- A unit with another table has another source. -/
  apart : ∀ (language : Language) (other : GeneratedUnit) others rendered otherRendered,
    other.IsTable others → tableOf entries ≠ tableOf others →
    language.render unit = .ok rendered → language.render other = .ok otherRendered →
    rendered.source ≠ otherRendered.source

/-- The source of a table of routes carries the table, whatever the texts of its entries are. -/
theorem carries_of_table (isTable : unit.IsTable entries) : unit.CarriesTable entries := by
  have read : ∀ {unit : GeneratedUnit} {entries} (language : Language) {rendered},
      unit.IsTable entries → language.render unit = .ok rendered →
      language.readTable rendered.source = some (tableOf entries) := by
    intro unit entries language rendered isTable made
    obtain ⟨-, -, source⟩ := Language.render_eq_ok made
    rw [source]
    exact readTable_source isTable language
  constructor
  case read =>
    intro language
    obtain ⟨rendered, made⟩ : ∃ rendered, language.render unit = .ok rendered :=
      Language.exists_render_eq_ok (isTable.body.check _)
    exact ⟨rendered, made, read language isTable made⟩
  case agree =>
    intro kotlin java kotlinMade javaMade
    rw [read .kotlin isTable kotlinMade, read .java isTable javaMade]
  case apart =>
    intro language other others rendered otherRendered otherTable different made otherMade same
    have own := read language isTable made
    rw [same, read language otherTable otherMade] at own
    exact different (Option.some.inj own).symm

end Tables

section Homonyms

private def pageRoute : RouteRecord where
  path := "/a/\"page\""
  kind := .screen
  target := .named "com.a.Page"
  group := some "a"
  fields := .ofList [("id", { field := "id", valueKind := .int })]

private def namesakeRoute : RouteRecord where
  path := "/a/$n\n"
  kind := .provider
  target := .named "com.b.Page"
  extra := 7

/-- Two classes with one simple name, behind paths with marks of their own. -/
theorem carries_of_homonyms :
    GeneratedUnit.CarriesTable ⟨.group "a", .group "a" [pageRoute, namesakeRoute], []⟩
        [(pageRoute.path, pageRoute), (namesakeRoute.path, namesakeRoute)] ∧
      tableOf [(pageRoute.path, pageRoute), (namesakeRoute.path, namesakeRoute)] =
        [⟨"/a/\"page\"", "ACTIVITY", "com.a.Page", "/a/\"page\"", "a", [("id", 3)], -1,
            -2147483648⟩,
          ⟨"/a/$n\n", "PROVIDER", "com.b.Page", "/a/$n\n", "", [], -1, 7⟩] := by
  have identifier : "a" ≠ "" ∧
      ∀ c ∈ "a".toList, QualifiedName.isWordChar c = true ∨ c = '$' := by
    refine ⟨by decide, fun c member => .inl ?_⟩
    obtain rfl : c = 'a' := by simpa using member
    decide
  refine ⟨carries_of_table ⟨.group [pageRoute, namesakeRoute] identifier, by decide, ?_⟩, ?_⟩ <;>
    decide

end Homonyms

end RouteAtlas
