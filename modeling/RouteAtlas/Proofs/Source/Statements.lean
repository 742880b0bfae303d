import RouteAtlas.Proofs.Injection.Plan
import RouteAtlas.Proofs.Source.JavaLines
import RouteAtlas.Proofs.Source.KotlinLines
import RouteAtlas.Proofs.Source.Mentions

/-! # Reading statements

The lines of a statement are read as pieces that make up its item, in either language. Of its types
nothing is read, but their names have to be words.
-/

namespace RouteAtlas

namespace Source

/-- What the text of a type is made of. -/
def IsTypeText (text : String) : Prop :=
  ∀ c ∈ text.toList, isWordLetter c = true ∨ c ∈ ['<', '>', ',', ' ', '?']

instance (text : String) : Decidable (IsTypeText text) :=
  decidable_of_iff
    (text.toList.all (fun c => isWordLetter c || ['<', '>', ',', ' ', '?'].contains c) = true)
    (by simp [IsTypeText])

namespace IsTypeText

variable {first second : String}

theorem isCode {text : String} (isText : IsTypeText text) : IsCode text (words text) where
  unquoted := fun quote => absurd (isText _ quote) (by decide)
  whole := fun newline => absurd (isText _ newline) (by decide)
  words_eq := rfl

theorem append (isFirst : IsTypeText first) (isSecond : IsTypeText second) :
    IsTypeText (first ++ second) := by
  intro c member
  rw [String.toList_append, List.mem_append] at member
  exact member.elim (isFirst c) (isSecond c)

theorem marks : IsTypeText "<" ∧ IsTypeText ">" ∧ IsTypeText ", " ∧ IsTypeText "?" ∧
    IsTypeText "" := by
  decide

theorem commas {parts : List String} (each : ∀ part ∈ parts, IsTypeText part) :
    IsTypeText (commas parts) := by
  obtain ⟨-, -, comma, -, nothing⟩ := marks
  induction parts with
  | nil => exact nothing
  | cons part rest ih =>
      have others := ih fun later known => each later (List.mem_cons_of_mem _ known)
      cases rest with
      | nil =>
          rw [Source.commas, String.intercalate_singleton]
          exact each part List.mem_cons_self
      | cons next rest =>
          rw [Source.commas, String.intercalate_cons_cons]
          exact ((each part List.mem_cons_self).append comma).append others

end IsTypeText

theorem IsWord.isTypeText {word : String} (isWord : IsWord word) : IsTypeText word :=
  fun c member => .inl (isWord.letters c member)

section Types

variable {written : String → String}

mutual

theorem isTypeText_kotlin : ∀ type : TypeRef, (∀ name ∈ type.names, IsWord (written name)) →
    IsTypeText (Kotlin.typeName written type)
  | ⟨name, arguments, nullable⟩, words => by
    obtain ⟨opening, closing, -, query, nothing⟩ := IsTypeText.marks
    rw [TypeRef.names, List.forall_mem_cons] at words
    have base := words.1.isTypeText
    have each := isTypeText_kotlinList arguments words.2
    have ending : IsTypeText (if nullable then "?" else "") := by
      split
      · exact query
      · exact nothing
    rw [Kotlin.typeName]
    refine (base.append ?_).append ending
    split
    · exact nothing
    · exact (opening.append (.commas each)).append closing

theorem isTypeText_kotlinList : ∀ types : List TypeRef,
    (∀ name ∈ TypeRef.namesList types, IsWord (written name)) →
    ∀ text ∈ Kotlin.typeNames written types, IsTypeText text
  | [], _ => by simp [Kotlin.typeNames]
  | type :: rest, words => by
    rw [Kotlin.typeNames, List.forall_mem_cons]
    rw [TypeRef.namesList, List.forall_mem_append] at words
    exact ⟨isTypeText_kotlin type words.1, isTypeText_kotlinList rest words.2⟩

end

mutual

theorem isTypeText_java : ∀ type : TypeRef,
    (∀ name ∈ type.names, IsWord (written (Java.javaName name))) →
    IsTypeText (Java.typeName written type)
  | ⟨name, arguments, _⟩, words => by
    obtain ⟨opening, closing, -, -, -⟩ := IsTypeText.marks
    rw [TypeRef.names, List.forall_mem_cons] at words
    have base := words.1.isTypeText
    have each := isTypeText_javaList arguments words.2
    rw [Java.typeName]
    split
    · exact base
    · exact ((base.append opening).append (.commas each)).append closing

theorem isTypeText_javaList : ∀ types : List TypeRef,
    (∀ name ∈ TypeRef.namesList types, IsWord (written (Java.javaName name))) →
    ∀ text ∈ Java.typeNames written types, IsTypeText text
  | [], _ => by simp [Java.typeNames]
  | type :: rest, words => by
    rw [Java.typeNames, List.forall_mem_cons]
    rw [TypeRef.namesList, List.forall_mem_append] at words
    exact ⟨isTypeText_java type words.1, isTypeText_javaList rest words.2⟩

end

variable (isWord : ∀ name, IsQualified name → IsWord (written name)) {type : TypeRef}
  (qualified : ∀ name ∈ type.names, IsQualified name)
include isWord qualified

theorem isTypeText_nonNull : IsTypeText (Kotlin.typeName written type.nonNull) := by
  have names : type.nonNull.names = type.names := by
    cases type
    rfl
  exact isTypeText_kotlin _ fun name member => isWord name (qualified name (names ▸ member))

theorem isTypeText_javaType : IsTypeText (Java.typeName written type) :=
  isTypeText_java _ fun name member => isWord _ (isQualified_javaName (qualified name member))

end Types

end Source

namespace Statement

/-- The statements that plans are made of. -/
inductive IsPlanned : Statement → Prop
  | scalar {field key : String} {kind : ValueKind} {source : ParamSource}
      (typed : kind.getter?.isSome = true) : IsPlanned (.scalarGet field key kind source)
  | generic {field key : String} {kind : ValueKind} {type : TypeRef} {source : ParamSource}
      (whole : kind = .parcelable ∨ kind = .serializable) :
      IsPlanned (.genericGet field key kind type source)
  | json {field key : String} {type : TypeRef} {source : ParamSource} {message : String} :
      IsPlanned (.jsonParse field key type source (.logWarn message))
  | lookup {field : String} {type : TypeRef} {key : LookupKey} :
      IsPlanned (.serviceLookup field type key)
  | nullCheck {field owner : String} {action : NullAction} :
      IsPlanned (.nullCheck field owner action)

end Statement

namespace SymbolTable

theorem isPlanned_readStatement (owner : Declaration) (property : Property) (key : String)
    (kind : ValueKind) (source : ParamSource) :
    (readStatement owner property key kind source).IsPlanned := by
  cases kind
  case parcelable => exact .generic (.inl rfl)
  case serializable => exact .generic (.inr rfl)
  case object => exact .json
  all_goals exact .scalar rfl

theorem isPlanned_compileField {table : SymbolTable} {owner : Declaration} {kind : RouteKind}
    {property : Property} {statements : List Statement}
    (compiled : table.compileField owner kind property = .ok statements) :
    ∀ statement ∈ statements, statement.IsPlanned := by
  obtain ⟨-, outcome⟩ := compileField_eq_ok_iff.mp compiled
  cases directed : property.directive with
  | none =>
      simp only [directed] at outcome
      simp [← outcome]
  | some mark =>
      simp only [directed] at outcome
      split at outcome
      case isTrue =>
        rw [← outcome, lookupStatements, List.forall_mem_cons]
        refine ⟨.lookup, ?_⟩
        split <;> simp [Statement.IsPlanned.nullCheck]
      case isFalse =>
        obtain ⟨source, -, made⟩ := outcome
        rw [← made, readStatements, List.forall_mem_cons]
        refine ⟨isPlanned_readStatement .., ?_⟩
        split <;> simp [Statement.IsPlanned.nullCheck]

theorem isPlanned_compileInjector {table : SymbolTable} {owner : Declaration}
    {properties : List Property} {plan : InjectorPlan}
    (made : table.compileInjector owner properties = .ok plan) :
    ∀ statement ∈ plan.statements, statement.IsPlanned := by
  intro statement member
  obtain ⟨property, -, block, compiled, inside⟩ := (mem_compileInjector made).mp member
  exact isPlanned_compileField compiled statement inside

end SymbolTable

namespace Language

/-- The lines of a statement. -/
def statementLines : Language → (String → String) → Statement → List String
  | .kotlin => Source.Kotlin.statementLines
  | .java => Source.Java.statementLines

/-- Lines that are read as one item, whatever comes after them. -/
def Spells (language : Language) (lines : List String) (item : InjectionItem) : Prop :=
  ∃ pieces, List.Forall₂ language.Yields lines pieces ∧
    ∀ rest, Piece.items (pieces ++ rest) = (Piece.items rest).map (item :: ·)

section Spelled

variable {language : Language}

theorem Spells.single {line : String} {item : InjectionItem}
    (yields : language.Yields line (.assign item)) : language.Spells [line] item :=
  ⟨[.assign item], .cons yields .nil, fun _ => rfl⟩

theorem Yields.gap {gap line : String} {piece : Piece} (isGap : Source.IsGap gap)
    (yields : language.Yields line piece) : language.Yields (gap ++ line) piece := by
  obtain ⟨result, reads, read⟩ := yields
  exact ⟨result, reads.gap gap isGap, read⟩

theorem Yields.of_eq {line other : String} {piece : Piece} (yields : language.Yields line piece)
    (same : other = line) : language.Yields other piece :=
  same ▸ yields

theorem yields_indent {lines : List String} {pieces : List Piece}
    (yields : List.Forall₂ language.Yields lines pieces) :
    List.Forall₂ language.Yields (Source.indent language.margin lines) pieces := by
  rw [Source.indent, List.forall₂_map_left_iff]
  refine yields.imp fun line piece known => ?_
  split
  · exact known
  · exact known.gap language.isGap_margin

theorem yields_close (language : Language) : language.Yields "\x7d" .close :=
  ⟨⟨[], []⟩, Source.IsCode.reads (by decide), rfl⟩

theorem yields_block {opening : String} {first : Piece} {lines : List String}
    {pieces : List Piece} (opens : language.Yields (opening ++ " \x7b") first)
    (inner : List.Forall₂ language.Yields lines pieces) :
    List.Forall₂ language.Yields (Source.block language.margin opening lines)
      (first :: (pieces ++ [.close])) :=
  .cons opens (List.rel_append (yields_indent inner) (.cons language.yields_close .nil))

end Spelled

section Statements

variable (language : Language) {written : String → String}
  (isWord : ∀ name, IsQualified name → Source.IsWord (written name))

theorem spells_scalar {field key : String} {kind : ValueKind} {source : ParamSource}
    (isField : Source.IsWord ("substitute." ++ field)) (typed : kind.getter?.isSome = true) :
    language.Spells (language.statementLines written (.scalarGet field key kind source))
      (.scalar field key source) := by
  cases language with
  | kotlin => exact .single (yields_kotlinScalar isField key kind source)
  | java => exact .single (yields_javaScalar isField key typed source)

include isWord

theorem yields_logLines (message : String) :
    List.Forall₂ language.Yields (language.statementLines written (.logWarn message))
      [.log message] := by
  have isLog := isWord Contract.androidLog (Contract.isQualified_of_runtime (by decide))
  cases language with
  | kotlin =>
      exact .cons (yields_log kotlin true Contract.logTag message isLog ")" rfl) .nil
  | java =>
      exact .cons (yields_log java false Contract.logTag message isLog ");" rfl) .nil

theorem spells_generic {field key : String} {kind : ValueKind} {type : TypeRef}
    {source : ParamSource} (isField : Source.IsWord ("substitute." ++ field))
    (whole : kind = .parcelable ∨ kind = .serializable)
    (qualified : ∀ name ∈ type.names, IsQualified name) :
    language.Spells (language.statementLines written (.genericGet field key kind type source))
      (.generic field key source) := by
  cases language with
  | kotlin =>
      have isType := (Source.isTypeText_nonNull isWord qualified).isCode
      rcases whole with rfl | rfl
      · exact .single (yields_kotlinParcelable isField key source isType)
      · exact .single (yields_kotlinSerializable isField key source isType)
  | java =>
      have isType := (Source.isTypeText_javaType isWord qualified).isCode
      rcases whole with rfl | rfl
      · exact .single (yields_javaWhole isField key (.inl rfl) source (.inl rfl))
      · exact .single (yields_javaWhole isField key (.inr rfl) source (.inr ⟨_, _, isType, rfl⟩))

theorem spells_lookup {field : String} {type : TypeRef} {key : LookupKey}
    (isField : Source.IsWord ("substitute." ++ field))
    (qualified : ∀ name ∈ type.names, IsQualified name) :
    language.Spells (language.statementLines written (.serviceLookup field type key))
      (.lookup field key) := by
  have isLauncher := isWord Contract.launcher (Contract.isQualified_of_runtime (by decide))
  have named := qualified type.name type.name_mem_names
  cases language with
  | kotlin =>
      cases key with
      | declaredType => exact .single (yields_kotlinLookup isField isLauncher (isWord _ named))
      | path path =>
          have isType := (Source.isTypeText_nonNull isWord qualified).isCode
          exact .single (yields_kotlinPath isField path isLauncher isType)
  | java =>
      cases key with
      | declaredType =>
          exact .single (yields_javaLookup isField isLauncher
            (isWord _ (Source.isQualified_javaName named)))
      | path path =>
          have isType := (Source.isTypeText_javaType isWord qualified).isCode
          exact .single (yields_javaPath isField path isLauncher isType)

theorem spells_nullCheck {field owner : String} {action : NullAction}
    (isField : Source.IsWord ("substitute." ++ field)) :
    language.Spells (language.statementLines written (.nullCheck field owner action))
      (.nullCheck field action (nullMessage field owner)) := by
  cases action with
  | throw =>
      refine ⟨.ifNull field :: ([.raise (nullMessage field owner)] ++ [.close]), ?_,
        fun rest => rfl⟩
      cases language with
      | kotlin =>
          have isCall : Source.IsCode "throw RuntimeException" ["throw", "RuntimeException"] := by
            decide
          have raised := yields_raise kotlin true (nullMessage field owner) isCall ")" rfl
          exact yields_block (yields_kotlinIfNull isField) (.cons raised .nil)
      | java =>
          have isCall : Source.IsCode "throw new RuntimeException"
              ["throw", "new", "RuntimeException"] := by decide
          have raised := yields_raise java false (nullMessage field owner) isCall ");" rfl
          exact yields_block (yields_javaIfNull isField) (.cons raised .nil)
  | log =>
      have logged := yields_logLines language isWord (nullMessage field owner)
      refine ⟨.ifNull field :: ([.log (nullMessage field owner)] ++ [.close]), ?_,
        fun rest => rfl⟩
      cases language with
      | kotlin => exact yields_block (yields_kotlinIfNull isField) logged
      | java => exact yields_block (yields_javaIfNull isField) logged

theorem spells_json {field key : String} {type : TypeRef} {source : ParamSource} {message : String}
    (isField : Source.IsWord ("substitute." ++ field))
    (qualified : ∀ name ∈ type.names, IsQualified name) :
    language.Spells
      (language.statementLines written (.jsonParse field key type source (.logWarn message)))
      (.json field key source (.log message)) := by
  have isWrapper := isWord Contract.typeWrapper (Contract.isQualified_of_runtime (by decide))
  have unavailable : language.Yields ("\x7d else" ++ " \x7b") .otherwise :=
    ⟨⟨["else"], []⟩, Source.IsCode.reads (by decide), rfl⟩
  have logged := yields_block unavailable (yields_logLines language isWord message)
  refine ⟨[.ifService, .parse field key source] ++ .otherwise :: ([.log message] ++ [.close]), ?_,
    fun rest => rfl⟩
  cases language with
  | kotlin =>
      have checked : kotlin.Yields "if (serializationService != null) \x7b" .ifService :=
        ⟨⟨["if", Source.serviceName, "null"], []⟩, Source.IsCode.reads (by decide), by decide⟩
      have isType := (Source.isTypeText_nonNull isWord qualified).isCode
      have parsed :=
        (yields_kotlinParse isField key source isType isWrapper).gap kotlin.isGap_margin
      refine List.rel_append (.cons checked (.cons (parsed.of_eq ?_) .nil)) logged
      simp [String.append_assoc, margin]
  | java =>
      have checked : java.Yields "if (null != serializationService) \x7b" .ifService :=
        ⟨⟨["if", "null", Source.serviceName], []⟩, Source.IsCode.reads (by decide), by decide⟩
      have isType := (Source.isTypeText_javaType isWord qualified).isCode
      have parsed :=
        (yields_javaParse isField key source isType isWrapper).gap java.isGap_margin
      refine List.rel_append (.cons checked (.cons (parsed.of_eq ?_) .nil)) logged
      simp [String.append_assoc, margin]

/-- The lines of a statement are read as its item. -/
theorem spells_statement {statement : Statement} (planned : statement.IsPlanned)
    (fields : ∀ field ∈ statement.field?, IsIdentifier field)
    (types : ∀ name ∈ statement.typeNames, IsQualified name) :
    language.Spells (language.statementLines written statement) statement.item := by
  have isTarget : Source.IsWord "substitute." := rfl
  have member : ∀ {field}, statement.field? = some field →
      Source.IsWord ("substitute." ++ field) := fun known =>
    isTarget.append _ (fields _ known).isWord
  cases planned with
  | scalar typed => exact spells_scalar language (member rfl) typed
  | generic whole => exact spells_generic language isWord (member rfl) whole types
  | json =>
      exact spells_json language isWord (member rfl) fun name known =>
        types name (List.mem_append_left _ known)
  | lookup => exact spells_lookup language isWord (member rfl) types
  | nullCheck => exact spells_nullCheck language isWord (member rfl)

end Statements

/-- The lines of statements are read as their items, one for each. -/
theorem spells_statements {language : Language} {written : String → String}
    {statements : List Statement}
    (each : ∀ statement ∈ statements,
      language.Spells (language.statementLines written statement) statement.item) :
    ∃ pieces, List.Forall₂ language.Yields
        (statements.flatMap (language.statementLines written)) pieces ∧
      Piece.items pieces = some (statements.map Statement.item) := by
  induction statements with
  | nil => exact ⟨[], .nil, rfl⟩
  | cons statement rest ih =>
      rw [List.forall_mem_cons] at each
      obtain ⟨first, yields, item⟩ := each.1
      obtain ⟨others, yieldsOthers, items⟩ := ih each.2
      refine ⟨first ++ others, List.rel_append yields yieldsOthers, ?_⟩
      rw [item, items, Option.map_some, List.map_cons]

end Language

end RouteAtlas
