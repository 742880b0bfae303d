import RouteAtlas.Proofs.Source.Imports
import RouteAtlas.Source.Kotlin

/-! # Types that are written in Kotlin

The names in a type claim their simple names one by one, those of its arguments after its own.
Whatever claimed a name before, the text of a type can be read back to the type: its signs show the
arguments and the null, and each word leads to one class.
-/

namespace RouteAtlas

open Source (commas)

namespace Imports

mutual

/-- Write a type: its name, then the types of its arguments, and a question mark if it admits
    null. -/
def writeType (imports : Imports) : TypeRef → String × Imports
  | ⟨name, arguments, nullable⟩ =>
    let claimed := imports.claim name
    let (list, last) := claimed.writeTypes arguments
    (claimed.written name ++ (if arguments.isEmpty then "" else "<" ++ commas list ++ ">") ++
      (if nullable then "?" else ""), last)

/-- Write types one after another. -/
def writeTypes (imports : Imports) : List TypeRef → List String × Imports
  | [] => ([], imports)
  | type :: rest =>
    let (text, next) := imports.writeType type
    let (texts, last) := next.writeTypes rest
    (text :: texts, last)

end

theorem claimAll_append (imports : Imports) (first second : List String) :
    imports.claimAll (first ++ second) = (imports.claimAll first).claimAll second :=
  List.foldl_append

mutual

/-- A type is written as it is once all names of the source have been claimed. -/
theorem writeType_eq (imports : Imports) (later : List String) : ∀ type : TypeRef,
    imports.writeType type =
      (Source.Kotlin.typeName (imports.claimAll (type.names ++ later)).written type,
        imports.claimAll type.names)
  | ⟨name, arguments, nullable⟩ => by
    have settled : (imports.claimAll (name :: TypeRef.namesList arguments ++ later)).written name =
        (imports.claim name).written name := by
      rw [List.cons_append, claimAll_cons, written_claimAll (imports.taken_claim name)]
    rw [writeType, writeTypes_eq (imports.claim name) later arguments, TypeRef.names,
      Source.Kotlin.typeName, settled]
    rfl

theorem writeTypes_eq (imports : Imports) (later : List String) : ∀ types : List TypeRef,
    imports.writeTypes types =
      (Source.Kotlin.typeNames (imports.claimAll (TypeRef.namesList types ++ later)).written types,
        imports.claimAll (TypeRef.namesList types))
  | [] => rfl
  | type :: rest => by
    rw [writeTypes, writeType_eq imports (TypeRef.namesList rest ++ later) type]
    simp only
    rw [writeTypes_eq (imports.claimAll type.names) later rest, TypeRef.namesList,
      Source.Kotlin.typeNames, List.append_assoc, claimAll_append imports type.names,
      claimAll_append imports type.names]

end

end Imports

/-- What the text of a type is made of. -/
inductive TypeToken where
  | word (letters : List Char)
  | opening
  | comma
  | closing
  | null
  deriving DecidableEq, Repr

namespace TypeToken

/-- Put a letter before the tokens of a text. -/
def spell (c : Char) : List TypeToken → List TypeToken
  | .word letters :: rest => .word (c :: letters) :: rest
  | tokens => .word [c] :: tokens

def scan : List Char → Option (List TypeToken)
  | [] => some []
  | '<' :: rest => (scan rest).map (.opening :: ·)
  | '>' :: rest => (scan rest).map (.closing :: ·)
  | '?' :: rest => (scan rest).map (.null :: ·)
  | ',' :: ' ' :: rest => (scan rest).map (.comma :: ·)
  | c :: rest => if Source.isWordLetter c then (scan rest).map (spell c) else none

end TypeToken

/-- A type that is being read. -/
structure TypeReading where
  /-- The lists of arguments that are open, the innermost first: the class before each, and the
      arguments read so far. -/
  frames : List (String × List TypeRef) := []
  /-- The type that was read last. -/
  last : Option TypeRef := none

section Tokens

variable (written : String → String)

mutual

/-- The tokens of a type, given how its names are written. -/
def typeTokens : TypeRef → List TypeToken
  | ⟨name, arguments, nullable⟩ =>
    .word (written name).toList :: (argumentTokens arguments ++ if nullable then [.null] else [])

/-- The tokens of a list of arguments, with what opens and closes it. -/
def argumentTokens : List TypeRef → List TypeToken
  | [] => []
  | first :: rest => .opening :: (typeTokens first ++ furtherTokens rest)

/-- The tokens of a list of arguments after one of them. -/
def furtherTokens : List TypeRef → List TypeToken
  | [] => [.closing]
  | next :: rest => .comma :: (typeTokens next ++ furtherTokens rest)

end

end Tokens

namespace Imports

/-- The class that a word of a source stands for: the one that has it for a full name, or else the
    one that claimed it. -/
def bearer? (imports : Imports) (word : String) : Option String :=
  if '.' ∈ word.toList then some word else imports.holders.get? word

/-- Read one more token. A type that has arguments takes no further ones, and one that admits null
    is complete. -/
def readToken (imports : Imports) (reading : TypeReading) : TypeToken → Option TypeReading
  | .word letters =>
    match reading.last with
    | none => (imports.bearer? (String.ofList letters)).map fun name =>
      { reading with last := some ⟨name, [], false⟩ }
    | some _ => none
  | .opening =>
    match reading.last with
    | some ⟨name, [], false⟩ => some ⟨(name, []) :: reading.frames, none⟩
    | _ => none
  | .comma =>
    match reading with
    | ⟨(name, before) :: frames, some type⟩ => some ⟨(name, before ++ [type]) :: frames, none⟩
    | _ => none
  | .closing =>
    match reading with
    | ⟨(name, before) :: frames, some type⟩ => some ⟨frames, some ⟨name, before ++ [type], false⟩⟩
    | _ => none
  | .null =>
    match reading.last with
    | some ⟨name, arguments, false⟩ => some { reading with last := some ⟨name, arguments, true⟩ }
    | _ => none

/-- The type that a text of a source is read as. -/
def readType? (imports : Imports) (text : String) : Option TypeRef := do
  let tokens ← TypeToken.scan text.toList
  match ← tokens.foldlM imports.readToken {} with
  | ⟨[], last⟩ => last
  | _ => none

end Imports

namespace TypeToken

section Scanning

variable {c : Char} {rest : List Char}

/-- A text does not go on with a letter. -/
def Ends (rest : List Char) : Prop :=
  ∀ c ∈ rest.head?, Source.isWordLetter c = false

theorem scan_letter (letter : Source.isWordLetter c = true) (rest : List Char) :
    scan (c :: rest) = (scan rest).map (spell c) := by
  have other : ∀ mark, Source.isWordLetter mark = false → c ≠ mark := by
    rintro mark plain rfl
    rw [plain] at letter
    cases letter
  have opening := other '<' (by decide)
  have closing := other '>' (by decide)
  have null := other '?' (by decide)
  have comma := other ',' (by decide)
  rw [scan, if_pos letter]
  all_goals simp [*]

/-- What does not begin with a letter has no word at its beginning. -/
theorem spell_of_ends (ends : Ends rest) {tokens : List TypeToken} (scanned : scan rest = some tokens)
    (c : Char) : spell c tokens = .word [c] :: tokens := by
  unfold scan at scanned
  split at scanned
  case h_1 =>
    cases scanned
    rfl
  case h_6 d later _ _ _ _ =>
    rw [ends d (by simp)] at scanned
    cases scanned
  all_goals
    obtain ⟨later, -, rfl⟩ := Option.map_eq_some_iff.mp scanned
    rfl

theorem scan_word {word : String} (isWord : Source.IsWord word) (ends : Ends rest) :
    scan (word.toList ++ rest) = (scan rest).map (.word word.toList :: ·) := by
  obtain ⟨filled, letters⟩ := Source.isWord_iff.mp isWord
  replace filled : word.toList ≠ [] := fun blank => filled (String.toList_eq_nil_iff.mp blank)
  generalize word.toList = spelled at filled letters
  induction spelled with
  | nil => exact absurd rfl filled
  | cons c later ih =>
      rw [List.cons_append, scan_letter (letters c List.mem_cons_self)]
      cases later with
      | nil =>
          cases scanned : scan rest with
          | none => simp [scanned]
          | some tokens => simp [scanned, spell_of_ends ends scanned]
      | cons next later =>
          rw [ih (List.cons_ne_nil _ _) fun d member => letters d (List.mem_cons_of_mem _ member),
            Option.map_map]
          rfl

end Scanning

end TypeToken

section Written

open TypeToken

variable {written : String → String}

theorem toList_commas (first : String) (rest : List String) :
    (commas (first :: rest)).toList =
      first.toList ++ rest.flatMap fun text => ',' :: ' ' :: text.toList := by
  induction rest generalizing first with
  | nil => simp [commas]
  | cons next rest ih =>
      rw [commas, String.intercalate_cons_cons, ← commas, String.toList_append,
        String.toList_append, ih]
      simp

/-- The letters of a list of arguments after one of them. -/
def furtherText (written : String → String) (types : List TypeRef) : List Char :=
  (Source.Kotlin.typeNames written types).flatMap fun text => ',' :: ' ' :: text.toList

theorem ends_further (written : String → String) (types : List TypeRef) (rest : List Char) :
    Ends (furtherText written types ++ '>' :: rest) := by
  intro c first
  cases types with
  | nil =>
      simp only [furtherText, Source.Kotlin.typeNames, List.flatMap_nil, List.nil_append,
        List.head?_cons, Option.mem_some_iff] at first
      rw [← first]
      decide
  | cons next types =>
      simp only [furtherText, Source.Kotlin.typeNames, List.flatMap_cons, List.cons_append,
        List.head?_cons, Option.mem_some_iff] at first
      rw [← first]
      decide

/-- The letters of a type after its arguments. -/
def nullText (nullable : Bool) : List Char :=
  if nullable then ['?'] else []

theorem toList_typeName_plain (name : String) (nullable : Bool) :
    (Source.Kotlin.typeName written ⟨name, [], nullable⟩).toList =
      (written name).toList ++ nullText nullable := by
  cases nullable <;> simp [Source.Kotlin.typeName, nullText]

theorem toList_typeName_applied (name : String) (first : TypeRef) (others : List TypeRef)
    (nullable : Bool) :
    (Source.Kotlin.typeName written ⟨name, first :: others, nullable⟩).toList =
      (written name).toList ++ '<' :: ((Source.Kotlin.typeName written first).toList ++
        (furtherText written others ++ '>' :: nullText nullable)) := by
  cases nullable <;>
    simp [Source.Kotlin.typeName, Source.Kotlin.typeNames, nullText, toList_commas, furtherText]

section Null

variable {rest : List Char} (ends : Ends rest) (nullable : Bool)
include ends

theorem ends_nullText : Ends (nullText nullable ++ rest) := by
  cases nullable with
  | false => exact ends
  | true =>
      intro c first
      cases first
      decide

omit ends in
theorem scan_nullText : scan (nullText nullable ++ rest) =
    (scan rest).map ((if nullable then [TypeToken.null] else []) ++ ·) := by
  cases nullable with
  | false => exact Option.map_id'.symm
  | true => rfl

end Null

mutual

theorem scan_typeName (type : TypeRef)
    (words : ∀ name ∈ type.names, Source.IsWord (written name)) (rest : List Char)
    (ends : Ends rest) :
    scan ((Source.Kotlin.typeName written type).toList ++ rest) =
      (scan rest).map (typeTokens written type ++ ·) := by
  obtain ⟨name, arguments, nullable⟩ := type
  have isWord := words name List.mem_cons_self
  cases arguments with
  | nil =>
      rw [toList_typeName_plain, List.append_assoc,
        scan_word isWord (ends_nullText ends nullable), scan_nullText, Option.map_map]
      rfl
  | cons first others =>
      have inner := fun name member => words name (List.mem_cons_of_mem _ member)
      have further := scan_further others
        (fun name member => inner name (List.mem_append_right _ member))
        (nullText nullable ++ rest)
      have argument := scan_typeName first
        (fun name member => inner name (List.mem_append_left _ member)) _
        (ends_further written others (nullText nullable ++ rest))
      have opened : Ends ('<' :: ((Source.Kotlin.typeName written first).toList ++
          (furtherText written others ++ '>' :: (nullText nullable ++ rest)))) := by
        intro c first
        cases first
        decide
      rw [toList_typeName_applied]
      simp only [List.append_assoc, List.cons_append]
      rw [scan_word isWord opened, scan, argument, further, scan_nullText]
      simp [typeTokens, argumentTokens, Function.comp_def]

theorem scan_further (types : List TypeRef)
    (words : ∀ name ∈ TypeRef.namesList types, Source.IsWord (written name)) (rest : List Char) :
    scan (furtherText written types ++ '>' :: rest) =
      (scan rest).map (furtherTokens written types ++ ·) := by
  cases types with
  | nil => rfl
  | cons next others =>
      have further := scan_further others
        (fun name member => words name (List.mem_append_right _ member)) rest
      have argument := scan_typeName next
        (fun name member => words name (List.mem_append_left _ member)) _
        (ends_further written others rest)
      rw [furtherText, Source.Kotlin.typeNames, List.flatMap_cons, ← furtherText]
      simp only [List.append_assoc, List.cons_append]
      rw [scan, argument, further]
      simp [furtherTokens, Function.comp_def]

end

end Written

namespace Imports

variable {imports : Imports} {written : String → String}

mutual

/-- The tokens of a type are read as the type, whichever lists are open. -/
theorem read_typeTokens (type : TypeRef)
    (known : ∀ name ∈ type.names, imports.bearer? (written name) = some name)
    (frames : List (String × List TypeRef)) (rest : List TypeToken) :
    (typeTokens written type ++ rest).foldlM imports.readToken ⟨frames, none⟩ =
      rest.foldlM imports.readToken ⟨frames, some type⟩ := by
  obtain ⟨name, arguments, nullable⟩ := type
  have named : imports.readToken ⟨frames, none⟩ (.word (written name).toList) =
      some ⟨frames, some ⟨name, [], false⟩⟩ := by
    rw [readToken, String.ofList_toList, known name List.mem_cons_self, Option.map_some]
  have ended : ∀ arguments,
      ((if nullable then [TypeToken.null] else []) ++ rest).foldlM imports.readToken
          ⟨frames, some ⟨name, arguments, false⟩⟩ =
        rest.foldlM imports.readToken ⟨frames, some ⟨name, arguments, nullable⟩⟩ := by
    intro arguments
    cases nullable <;> rfl
  rw [typeTokens, List.cons_append, List.foldlM_cons, named, List.append_assoc]
  cases arguments with
  | nil => exact ended []
  | cons first others =>
      have inner := fun name member => known name (List.mem_cons_of_mem _ member)
      rw [argumentTokens, List.cons_append, List.append_assoc]
      refine (read_typeTokens first (fun name member => inner name (List.mem_append_left _ member))
        ((name, []) :: frames) _).trans ?_
      refine (read_furtherTokens others
        (fun name member => inner name (List.mem_append_right _ member)) frames _ name [] first).trans
          ?_
      exact ended (first :: others)

/-- The tokens after an argument are read as the arguments that follow it. -/
theorem read_furtherTokens (types : List TypeRef)
    (known : ∀ name ∈ TypeRef.namesList types, imports.bearer? (written name) = some name)
    (frames : List (String × List TypeRef)) (rest : List TypeToken) (name : String)
    (before : List TypeRef) (last : TypeRef) :
    (furtherTokens written types ++ rest).foldlM imports.readToken
        ⟨(name, before) :: frames, some last⟩ =
      rest.foldlM imports.readToken ⟨frames, some ⟨name, before ++ last :: types, false⟩⟩ := by
  cases types with
  | nil => rfl
  | cons next others =>
      rw [furtherTokens, List.cons_append, List.append_assoc]
      refine (read_typeTokens next (fun name member => known name (List.mem_append_left _ member))
        ((name, before ++ [last]) :: frames) _).trans ?_
      rw [read_furtherTokens others (fun name member => known name (List.mem_append_right _ member)),
        List.append_assoc, List.singleton_append]

end

/-- A written type is read back if its names are words that lead to their classes. -/
theorem readType?_typeName {type : TypeRef}
    (words : ∀ name ∈ type.names, Source.IsWord (written name))
    (known : ∀ name ∈ type.names, imports.bearer? (written name) = some name) :
    imports.readType? (Source.Kotlin.typeName written type) = some type := by
  have scanned := scan_typeName type words [] (by simp [TypeToken.Ends])
  have read := read_typeTokens type known [] []
  rw [List.append_nil] at scanned read
  rw [readType?, scanned]
  simp [TypeToken.scan, read]

section Fresh

variable {package : String} {implicit names : List String} {name : String}

/-- A class with a package is the one that its word stands for. -/
theorem bearer?_written (qualified : IsQualified name) :
    ((fresh package implicit).claimAll names).bearer?
      (((fresh package implicit).claimAll names).written name) = some name := by
  unfold bearer? Imports.written
  dsimp only
  split
  case isTrue held => rw [if_neg (QualifiedName.dot_not_mem_simple name), held]
  case isFalse => rw [if_pos qualified.1]

end Fresh

theorem mem_namesList {type : TypeRef} {types : List TypeRef} (member : type ∈ types)
    {name : String} (mentioned : name ∈ type.names) : name ∈ TypeRef.namesList types := by
  induction types with
  | nil => cases member
  | cons first rest ih =>
      rcases List.mem_cons.mp member with rfl | later
      · exact List.mem_append_left _ mentioned
      · exact List.mem_append_right _ (ih later)

theorem typeNames_eq_map (written : String → String) (types : List TypeRef) :
    Source.Kotlin.typeNames written types = types.map (Source.Kotlin.typeName written) := by
  induction types with
  | nil => rfl
  | cons first rest ih => rw [Source.Kotlin.typeNames, ih, List.map_cons]

/-- Types with their texts, where they are written one after another. -/
theorem mem_zip_writeTypes {types : List TypeRef} {type : TypeRef} {text : String} :
    (type, text) ∈ types.zip (imports.writeTypes types).1 ↔ type ∈ types ∧
      Source.Kotlin.typeName (imports.claimAll (TypeRef.namesList types)).written type = text := by
  rw [writeTypes_eq imports [] types, List.append_nil, typeNames_eq_map,
    ← List.map_prod_left_eq_zip, List.mem_map]
  constructor
  · rintro ⟨listed, member, same⟩
    cases same
    exact ⟨member, rfl⟩
  · rintro ⟨member, rfl⟩
    exact ⟨type, member, rfl⟩

/-- What holds of types that are written one after another, with the names that are claimed by
    then. -/
structure WrittenLaw (types : List TypeRef) (texts : List String) (imports : Imports) : Prop where
  /-- Every type has its text. -/
  length : texts.length = types.length
  /-- A word without a dot stands for the first class that claimed it. -/
  bearer : ∀ word : String, '.' ∉ word.toList →
    imports.bearer? word = firstBearer? (TypeRef.namesList types) word
  read : ∀ {type text}, (type, text) ∈ types.zip texts → imports.readType? text = some type
  /-- Two types are written alike exactly if they are the same throughout. -/
  alike_iff : ∀ {first second text other}, (first, text) ∈ types.zip texts →
    (second, other) ∈ types.zip texts → (text = other ↔ first = second)

/-- Types whose classes have packages lose nothing in their texts, whichever names collide. -/
theorem writtenLaw_of_qualified (package : String) (implicit : List String)
    (types : List TypeRef) (qualified : ∀ name ∈ TypeRef.namesList types, IsQualified name) :
    let written := (fresh package implicit).writeTypes types
    WrittenLaw types written.1 written.2 := by
  intro written
  have claimed : written.2 = (fresh package implicit).claimAll (TypeRef.namesList types) :=
    congrArg Prod.snd (writeTypes_eq (fresh package implicit) [] types)
  have read : ∀ {type text}, (type, text) ∈ types.zip written.1 →
      written.2.readType? text = some type := by
    intro type text member
    obtain ⟨listed, rfl⟩ := mem_zip_writeTypes.mp member
    have known := fun name mentioned => qualified name (mem_namesList listed mentioned)
    rw [claimed]
    exact readType?_typeName (fun name mentioned => isWord_written _ (known name mentioned))
      fun name mentioned => bearer?_written (known name mentioned)
  constructor
  case length =>
    have texts := congrArg Prod.fst (writeTypes_eq (fresh package implicit) [] types)
    rw [typeNames_eq_map] at texts
    rw [texts, List.length_map]
  case bearer =>
    intro word plain
    rw [bearer?, if_neg plain, claimed, get?_claimAll]
    rfl
  case read => exact read
  case alike_iff =>
    intro first second text other one another
    constructor
    · rintro rfl
      have same := read one
      rw [read another, Option.some.injEq] at same
      exact same.symm
    · rintro rfl
      rw [← (mem_zip_writeTypes.mp one).2, ← (mem_zip_writeTypes.mp another).2]

/-- A map of lists, where one class has to be written in full, and that class by itself. -/
private def guestBook : List TypeRef :=
  [⟨"kotlin.collections.Map",
      [⟨"app.first.User", [], true⟩,
        ⟨"kotlin.collections.List", [⟨"app.second.User", [], false⟩], false⟩], true⟩,
    ⟨"app.second.User", [], false⟩]

theorem writtenLaw_of_guestBook :
    (∀ name ∈ TypeRef.namesList guestBook, IsQualified name) ∧
      ((fresh "app.first" ["kotlin", "kotlin.collections"]).writeTypes guestBook).1 =
        ["Map<User?, List<app.second.User>>?", "app.second.User"] ∧
      let written := (fresh "app.first" ["kotlin", "kotlin.collections"]).writeTypes guestBook
      WrittenLaw guestBook written.1 written.2 :=
  have qualified : ∀ name ∈ TypeRef.namesList guestBook, IsQualified name := by decide +kernel
  ⟨qualified, by decide +kernel, writtenLaw_of_qualified _ _ _ qualified⟩

end Imports

end RouteAtlas
