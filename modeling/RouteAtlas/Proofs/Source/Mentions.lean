import RouteAtlas.Proofs.Source.Names
import RouteAtlas.Source.Render

/-! # The classes that a source mentions

A source mentions the classes that its unit is about, and besides them only classes of the runtime.
Classes of the Kotlin library go by their Java names in Java.
-/

namespace RouteAtlas

theorem TypeRef.name_mem_names (type : TypeRef) : type.name ∈ type.names := by
  cases type
  exact List.mem_cons_self

/-- The names of the types in a statement. -/
def Statement.typeNames : Statement → List String
  | .genericGet _ _ _ type _ | .serviceLookup _ type _ => type.names
  | .jsonParse _ _ type _ unavailable => type.names ++ unavailable.typeNames
  | .scalarGet .. | .nullCheck .. | .logWarn _ => []

/-- The classes that a unit is about: those that its routes and interceptors lead to, and for an
    injector its target and the types of its fields. -/
def UnitBody.classes : UnitBody → List String
  | .root _ => []
  | .group _ routes => routes.map fun record => record.target.name
  | .providers entries => entries.map fun entry => entry.2.target.name
  | .interceptors hooks => hooks.map fun hook => hook.target.name
  | .injector plan => plan.target.name :: plan.statements.flatMap Statement.typeNames

theorem Source.isQualified_javaName {name : String} (qualified : IsQualified name) :
    IsQualified (Java.javaName name) := by
  have library : ∀ entry ∈ Java.libraryNames, IsQualified entry.2 := by
    decide
  rw [Java.javaName]
  cases found : Java.libraryNames.lookup name with
  | none => exact qualified
  | some other =>
      obtain ⟨_, _, spelled, _⟩ := List.lookup_eq_some_iff.mp found
      exact library (name, other) (by simp [spelled])

namespace Language

/-- The classes that a statement mentions. -/
def statementMentions : Language → Statement → List String
  | .kotlin => Source.Kotlin.statementMentions
  | .java => Source.Java.statementMentions

/-- What a class is called in a language. -/
def libraryName : Language → String → String
  | .kotlin, name => name
  | .java, name => Source.Java.javaName name

/-- A class of the runtime, or one of the given classes. -/
def Mentioned (language : Language) (classes : List String) (name : String) : Prop :=
  name ∈ Contract.runtimeClasses ∨
    ∃ used ∈ classes, name = used ∨ name = language.libraryName used

section Mentioned

variable {language : Language} {classes others runtime : List String} {name : String}

theorem Mentioned.mono (mentioned : language.Mentioned classes name) (subset : classes ⊆ others) :
    language.Mentioned others name :=
  mentioned.imp_right fun ⟨used, member, same⟩ => ⟨used, subset member, same⟩

theorem mentioned_of_cases (known : runtime ⊆ Contract.runtimeClasses)
    (member : name ∈ runtime ∨ name ∈ classes ∨ name ∈ classes.map language.libraryName) :
    language.Mentioned classes name := by
  rcases member with shared | own | library
  · exact .inl (known shared)
  · exact .inr ⟨name, own, .inl rfl⟩
  · obtain ⟨used, member, rfl⟩ := List.mem_map.mp library
    exact .inr ⟨used, member, .inr rfl⟩

theorem mentioned_of_statement {statement : Statement}
    (member : name ∈ language.statementMentions statement) :
    language.Mentioned statement.typeNames name := by
  have launcher : [Contract.launcher] ⊆ Contract.runtimeClasses := by decide
  have typeWrapper : [Contract.typeWrapper] ⊆ Contract.runtimeClasses := by decide
  have androidLog : [Contract.androidLog] ⊆ Contract.runtimeClasses := by decide
  induction statement with
  | scalarGet => cases language <;> cases member
  | genericGet field key kind type source =>
      refine mentioned_of_cases (List.nil_subset _) (.inr ?_)
      cases language with
      | kotlin => exact .inl member
      | java =>
          simp only [statementMentions, Source.Java.statementMentions] at member
          split at member
          case isTrue => exact .inr member
          case isFalse => cases member
  | jsonParse field key type source unavailable ih =>
      suffices split : (name ∈ [Contract.typeWrapper] ∨ name ∈ type.names ∨
          name ∈ type.names.map language.libraryName) ∨
            name ∈ language.statementMentions unavailable by
        rcases split with here | later
        · exact (mentioned_of_cases typeWrapper here).mono (List.subset_append_left _ _)
        · exact (ih later).mono (List.subset_append_right _ _)
      cases language with
      | kotlin =>
          simp only [statementMentions, Source.Kotlin.statementMentions, List.cons_append,
            List.mem_cons, List.mem_append] at member
          simp only [statementMentions, List.mem_singleton]
          tauto
      | java =>
          simp only [statementMentions, Source.Java.statementMentions, List.cons_append,
            List.mem_cons, List.mem_append] at member
          change _ ∨ name ∈ type.names.map java.libraryName ∨ _ at member
          simp only [statementMentions, List.mem_singleton]
          tauto
  | serviceLookup field type key =>
      refine mentioned_of_cases launcher ?_
      have named := type.name_mem_names
      cases language with
      | kotlin =>
          cases key with
          | declaredType =>
              rcases List.mem_cons.mp member with located | own
              · exact .inl (List.mem_singleton.mpr located)
              · exact .inr (.inl (List.mem_singleton.mp own ▸ named))
          | path =>
              exact (List.mem_cons.mp member).imp List.mem_singleton.mpr .inl
      | java =>
          cases key with
          | declaredType =>
              rcases List.mem_cons.mp member with located | own
              · exact .inl (List.mem_singleton.mpr located)
              · exact .inr (.inr (List.mem_singleton.mp own ▸ List.mem_map_of_mem named))
          | path =>
              exact (List.mem_cons.mp member).imp List.mem_singleton.mpr .inr
  | nullCheck field owner action =>
      cases action with
      | throw => cases language <;> cases member
      | log => cases language <;> exact mentioned_of_cases androidLog (.inl member)
  | logWarn => cases language <;> exact mentioned_of_cases androidLog (.inl member)

/-- A source is made of the classes of its unit and those of the runtime. -/
theorem mentioned_of_unit {body : UnitBody} (member : name ∈ language.mentions body) :
    language.Mentioned body.classes name := by
  have tables : [Contract.routeGroup, Contract.providerGroup, Contract.javaMap, Contract.routeMeta,
      Contract.routeType] ⊆ Contract.runtimeClasses := by decide
  cases body with
  | root groups =>
      have known : [Contract.routeRoot, Contract.routeGroup, Contract.javaMap] ⊆
          Contract.runtimeClasses := by decide
      refine mentioned_of_cases known (.inl ?_)
      cases language with
      | kotlin => exact List.mem_append_left [Contract.javaMap] member
      | java => exact member
  | group group routes =>
      refine mentioned_of_cases tables ?_
      cases language with
      | kotlin =>
          simp only [mentions, Source.Kotlin.mentions, Source.Kotlin.routeMentions,
            List.mem_append, List.mem_flatMap, List.mem_cons, List.not_mem_nil, or_false] at member
          simp only [UnitBody.classes, List.mem_map, List.mem_cons, List.not_mem_nil, or_false]
          grind
      | java =>
          simp only [mentions, Source.Java.mentions, Source.Java.tableMentions, List.mem_append,
            List.mem_map, List.mem_cons, List.not_mem_nil, or_false] at member
          simp only [UnitBody.classes, List.map_map, List.mem_map, List.mem_cons, List.not_mem_nil,
            or_false, Function.comp_apply, libraryName]
          grind
  | providers entries =>
      refine mentioned_of_cases tables ?_
      cases language with
      | kotlin =>
          simp only [mentions, Source.Kotlin.mentions, Source.Kotlin.routeMentions,
            List.mem_append, List.mem_flatMap, List.mem_cons, List.not_mem_nil, or_false] at member
          simp only [UnitBody.classes, List.mem_map, List.mem_cons, List.not_mem_nil, or_false]
          grind
      | java =>
          simp only [mentions, Source.Java.mentions, Source.Java.tableMentions, List.mem_append,
            List.mem_map, List.mem_cons, List.not_mem_nil, or_false] at member
          simp only [UnitBody.classes, List.map_map, List.mem_map, List.mem_cons, List.not_mem_nil,
            or_false, Function.comp_apply, libraryName]
          grind
  | interceptors hooks =>
      have known : [Contract.interceptorGroup, Contract.interceptor, Contract.javaMap] ⊆
          Contract.runtimeClasses := by decide
      refine mentioned_of_cases known ?_
      cases language with
      | kotlin =>
          rcases List.mem_append.mp member with shared | own
          · exact .inl (List.mem_append_left [Contract.javaMap] shared)
          · exact .inr (.inl own)
      | java =>
          rcases List.mem_append.mp member with shared | own
          · exact .inl shared
          · refine .inr (.inr ?_)
            rw [UnitBody.classes, List.map_map]
            exact own
  | injector plan =>
      have known : [Contract.syringe, Contract.launcher, Contract.jsonService] ⊆
          Contract.runtimeClasses := by decide
      suffices split : (name ∈ [Contract.syringe, Contract.launcher, Contract.jsonService] ∨
          name = plan.target.name) ∨
            name ∈ plan.statements.flatMap language.statementMentions by
        rcases split with (shared | owner) | later
        · exact mentioned_of_cases known (.inl shared)
        · exact mentioned_of_cases (List.nil_subset _) (.inr (.inl (owner ▸ List.mem_cons_self)))
        · obtain ⟨statement, planned, mentioned⟩ := List.mem_flatMap.mp later
          refine (mentioned_of_statement mentioned).mono fun used typed => ?_
          exact List.mem_cons_of_mem _ (List.mem_flatMap.mpr ⟨statement, planned, typed⟩)
      cases language with
      | kotlin =>
          rcases List.mem_append.mp member with front | later
          · left
            simp only [List.mem_append, List.mem_cons, List.not_mem_nil, or_false] at front ⊢
            grind
          · exact .inr later
      | java =>
          rcases List.mem_append.mp member with front | later
          · left
            simp only [List.mem_append, List.mem_cons, List.not_mem_nil, or_false] at front ⊢
            grind
          · exact .inr later

/-- If the classes of a unit have qualified names, all classes that its source mentions have. -/
theorem isQualified_of_mentions {body : UnitBody} (qualified : ∀ name ∈ body.classes, IsQualified name) :
    ∀ name ∈ language.mentions body, IsQualified name := by
  intro name member
  rcases mentioned_of_unit member with shared | ⟨used, known, rfl | rfl⟩
  · exact Contract.isQualified_of_runtime shared
  · exact qualified name known
  · cases language with
    | kotlin => exact qualified used known
    | java => exact Source.isQualified_javaName (qualified used known)

end Mentioned

end Language

end RouteAtlas
