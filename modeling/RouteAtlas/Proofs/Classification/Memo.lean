import RouteAtlas.Classification.Memo
import RouteAtlas.Proofs.Classification.Nearest

/-! # Answers from memory

What is remembered under a name are the ancestors of the one declaration that the table has under
it. So a question about the table gets the answer that the table gives, whatever was asked before.
-/

namespace RouteAtlas

variable {α β : Type} {table : SymbolTable} {decl : Declaration}

namespace Memo

/-- Under each remembered name stand the ancestors of its declaration. -/
def Faithful (table : SymbolTable) (memo : Memo) : Prop :=
  ∀ name found, memo.lookup name = some found →
    ∃ decl ∈ table.declarations, decl.qualifiedName = name ∧ table.ancestors decl = found

/-- Whatever is faithfully remembered, a question has the given answer, and memory stays faithful. -/
def Gives (table : SymbolTable) (question : StateM Memo α) (answer : α) : Prop :=
  ∀ memo, Faithful table memo →
    (question.run memo).1 = answer ∧ Faithful table (question.run memo).2

theorem faithful_nil : Faithful table [] := by
  intro name found held
  cases held

theorem faithful_cons {memo : Memo} (faithful : Faithful table memo)
    (member : decl ∈ table.declarations) :
    Faithful table ((decl.qualifiedName, table.ancestors decl) :: memo) := by
  intro name found held
  by_cases same : name = decl.qualifiedName
  case pos =>
    rw [same, List.lookup_cons_self] at held
    exact ⟨decl, member, same.symm, Option.some.inj held⟩
  case neg =>
    rw [List.lookup_cons, beq_false_of_ne same] at held
    exact faithful name found held

theorem gives_pure (answer : α) : Gives table (pure answer) answer :=
  fun _ faithful => ⟨rfl, faithful⟩

theorem Gives.bind {question : StateM Memo α} {next : α → StateM Memo β} {answer : α} {result : β}
    (first : Gives table question answer) (second : Gives table (next answer) result) :
    Gives table (question >>= next) result := by
  intro memo faithful
  obtain ⟨rfl, kept⟩ := first memo faithful
  exact second _ kept

theorem Gives.map {question : StateM Memo α} {answer : α} (first : Gives table question answer)
    (f : α → β) : Gives table (do return f (← question)) (f answer) :=
  first.bind (gives_pure (f answer))

theorem gives_mapM {ask : α → StateM Memo β} {answer : α → β} {inputs : List α}
    (each : ∀ input ∈ inputs, Gives table (ask input) (answer input)) :
    Gives table (inputs.mapM ask) (inputs.map answer) := by
  induction inputs with
  | nil => exact gives_pure []
  | cons input rest ih =>
      rw [List.mapM_cons]
      have others := ih fun later member => each later (List.mem_cons_of_mem _ member)
      exact (each input List.mem_cons_self).bind (others.map (answer input :: ·))

/-- A known name is that of the declaration asked about, since names are distinct. -/
theorem gives_ancestors (member : decl ∈ table.declarations) :
    Gives table (ancestors table decl) (table.ancestors decl) := by
  intro memo faithful
  cases known : memo.lookup decl.qualifiedName with
  | some found =>
      obtain ⟨other, otherIn, names, rfl⟩ := faithful _ _ known
      obtain rfl := List.inj_on_of_nodup_map table.distinct otherIn member names
      have asked : (ancestors table other).run memo = pure (table.ancestors other, memo) := by
        simp [ancestors, known]
      rw [asked]
      exact ⟨rfl, faithful⟩
  | none =>
      have asked : (ancestors table decl).run memo =
          pure (table.ancestors decl, (decl.qualifiedName, table.ancestors decl) :: memo) := by
        simp [ancestors, known]
      rw [asked]
      exact ⟨rfl, faithful_cons faithful member⟩

theorem gives_firstMatch (member : decl ∈ table.declarations) (candidates : List String) :
    Gives table (firstMatch table decl candidates) (table.firstMatch decl candidates) :=
  (gives_ancestors member).map _

theorem gives_implements (member : decl ∈ table.declarations) (contract : String) :
    Gives table (implements table decl contract) (table.implements decl contract) :=
  (gives_firstMatch member [contract]).map _

/-- The own name of a type comes first in its lineage, so it can be looked at alone. -/
theorem gives_typeFirstMatch (type : TypeRef) (candidates : List String) :
    Gives table (typeFirstMatch table type candidates) (table.typeFirstMatch type candidates) := by
  unfold typeFirstMatch
  rw [SymbolTable.typeFirstMatch, SymbolTable.lineage, RouteAtlas.firstMatch, List.findSome?_cons]
  cases candidates.findIdx? (· == type.name) with
  | some place => exact gives_pure (some place)
  | none =>
      cases found : table.resolve type.name with
      | some decl => exact gives_firstMatch (SymbolTable.mem_of_resolve found) candidates
      | none => exact gives_pure none

theorem gives_typeImplements (type : TypeRef) (contract : String) :
    Gives table (typeImplements table type contract) (table.typeImplements type contract) :=
  (gives_typeFirstMatch type [contract]).map _

theorem gives_routeKind (member : decl ∈ table.declarations) :
    Gives table (routeKind table decl) (table.routeKind decl) :=
  (gives_firstMatch member _).map _

theorem gives_valueKind (type : TypeRef) :
    Gives table (valueKind table type) (table.valueKind type) := by
  unfold valueKind SymbolTable.valueKind
  cases ValueKind.ofTypeName? type.name with
  | some kind => exact gives_pure kind
  | none =>
      refine (gives_typeImplements type Contract.parcelable).bind ?_
      cases table.typeImplements type Contract.parcelable with
      | true => exact gives_pure ValueKind.parcelable
      | false => exact (gives_typeImplements type Contract.serializable).map _

theorem gives_isProvider (type : TypeRef) :
    Gives table (isProvider table type) (table.isProvider type) :=
  gives_typeImplements type Contract.provider

theorem gives_providerKeys (decl : Declaration) :
    Gives table (providerKeys table decl) (table.providerKeys decl) := by
  have keys : Gives table
      (decl.supertypes.mapM fun supertype => do
        if supertype.name = Contract.provider then pure (some decl.qualifiedName)
        else return providerKey? decl supertype (← isProvider table supertype))
      (decl.supertypes.map fun supertype =>
        providerKey? decl supertype (table.isProvider supertype)) := by
    refine gives_mapM fun supertype _ => ?_
    split
    case isTrue bare =>
      rw [providerKey?, if_pos bare]
      exact gives_pure (some decl.qualifiedName)
    case isFalse => exact (gives_isProvider supertype).map _
  have distinct := keys.map fun keys => firstOccurrences (keys.filterMap id)
  rwa [List.filterMap_map] at distinct

end Memo

namespace Query

/-- The declarations that a question is about are those of the table; its types and candidates may
    be any. -/
def About (table : SymbolTable) : Query → Prop
  | .ancestors decl | .firstMatch decl _ | .implements decl _ | .routeKind decl
  | .providerKeys decl => decl ∈ table.declarations
  | .typeFirstMatch .. | .typeImplements .. | .valueKind _ | .isProvider _ => True

theorem gives_answer {query : Query} (about : query.About table) :
    Memo.Gives table (query.answerFromMemo table) (query.answer table) := by
  cases query with
  | ancestors decl => exact (Memo.gives_ancestors about).map _
  | firstMatch decl candidates => exact (Memo.gives_firstMatch about candidates).map _
  | implements decl contract => exact (Memo.gives_implements about contract).map _
  | typeFirstMatch type candidates => exact (Memo.gives_typeFirstMatch type candidates).map _
  | typeImplements type contract => exact (Memo.gives_typeImplements type contract).map _
  | routeKind decl => exact (Memo.gives_routeKind about).map _
  | valueKind type => exact (Memo.gives_valueKind type).map _
  | isProvider type => exact (Memo.gives_isProvider type).map _
  | providerKeys decl => exact (Memo.gives_providerKeys decl).map _

/-- Questions that share a memory have the answers that each has with a memory of its own, which are
    those of the table. -/
theorem sharedAnswers_of_about {queries : List Query}
    (about : ∀ query ∈ queries, query.About table) :
    ((queries.mapM (answerFromMemo table)).run []).1 =
        queries.map (fun query => ((query.answerFromMemo table).run []).1) ∧
      ∀ query ∈ queries, ((query.answerFromMemo table).run []).1 = query.answer table := by
  have alone : ∀ query ∈ queries, ((query.answerFromMemo table).run []).1 = query.answer table :=
    fun query member => (gives_answer (about query member) [] Memo.faithful_nil).1
  have shared : ((queries.mapM (answerFromMemo table)).run []).1 = queries.map (answer table) :=
    (Memo.gives_mapM (fun query member => gives_answer (about query member)) []
      Memo.faithful_nil).1
  refine ⟨?_, alone⟩
  rw [shared]
  exact (List.map_congr_left alone).symm

section Greeting

private def greeter : Declaration :=
  { qualifiedName := "app.Greeter", supertypes := [.named Contract.provider] }

private def hello : Declaration :=
  { qualifiedName := "app.Hello", supertypes := [.named "app.Greeter", .named "app.Hello"] }

private def greeting : SymbolTable :=
  .ofList [hello, greeter]

/-- The ancestors that one question leaves in memory serve the next ones about the same class. -/
private def greetingQueries : List Query :=
  [.typeFirstMatch (.named "app.Hello") [Contract.parcelable, Contract.provider],
    .ancestors hello, .providerKeys hello, .routeKind hello, .valueKind (.named "app.Greeter"),
    .implements greeter Contract.provider, .ancestors hello]

theorem sharedAnswers_of_greeting :
    (∀ query ∈ greetingQueries, query.About greeting) ∧
      ((greetingQueries.mapM (answerFromMemo greeting)).run []).1 =
        greetingQueries.map (fun query => ((query.answerFromMemo greeting).run []).1) ∧
      (((Query.ancestors hello).answerFromMemo greeting).run []).1 =
        .names ["app.Greeter", Contract.provider] := by
  have about : ∀ query ∈ greetingQueries, query.About greeting := by
    have members : greeting.declarations = [hello, greeter] := by decide +kernel
    simp [greetingQueries, About, members]
  obtain ⟨shared, alone⟩ := sharedAnswers_of_about about
  refine ⟨about, shared, ?_⟩
  have base : greeting.supertypeNames "app.Greeter" = [Contract.provider] := by decide +kernel
  have bare : greeting.supertypeNames Contract.provider = [] := by decide +kernel
  have walked : greeting.ancestors hello = ["app.Greeter", Contract.provider] := by
    change greeting.walk ["app.Hello"] ["app.Greeter", "app.Hello"] = _
    rw [Contract.provider] at base bare ⊢
    simp [SymbolTable.walk_fresh, SymbolTable.walk_seen, base, bare]
  rw [alone _ (by simp [greetingQueries]), answer, walked]

end Greeting

end Query

end RouteAtlas
