import RouteAtlas.Host.Inspect
import RouteAtlas.Proofs.Injection.Plan
import RouteAtlas.Proofs.Route.Extract
import RouteAtlas.Proofs.SortedMap
import RouteAtlas.Round.Injectors

/-! # Routes and injectors agree

A parameter is written under the key and kind that the record of its route names, and read under
those that the injector of its class names. Both come from the same fields by different ways, and a
listing of the fields by a third; all three say the same.
-/

namespace RouteAtlas

/-- A parameter that an injector reads into a field. -/
structure ParamRead where
  field : String
  key : String
  kind : ValueKind
  deriving DecidableEq, Repr

/-- The parameter that a statement reads. A text that is parsed counts as an object. -/
def Statement.read? : Statement → Option ParamRead
  | .scalarGet field key kind _ | .genericGet field key kind _ _ => some ⟨field, key, kind⟩
  | .jsonParse field key _ _ _ => some ⟨field, key, .object⟩
  | .serviceLookup .. | .nullCheck .. | .logWarn _ => none

/-- The parameters that an injector reads, in order. -/
def InjectorPlan.reads (plan : InjectorPlan) : List ParamRead :=
  plan.statements.filterMap Statement.read?

/-- What an injector has to read for a field of a route. -/
def FieldDirective.read (directive : FieldDirective) : ParamRead :=
  ⟨directive.field, directive.key, directive.valueKind⟩

/-- The field may be null and may not stay so. -/
def FieldDirective.isChecked (directive : FieldDirective) : Bool :=
  directive.required && !directive.valueKind.isScalar

namespace SymbolTable

variable {table : SymbolTable} {owner : Declaration} {property : Property}
  {statements : List Statement}

theorem field_of_fieldDirective {directive : FieldDirective}
    (made : table.fieldDirective property = some directive) : directive.field = property.name := by
  obtain ⟨mark, _, made⟩ := Option.bind_eq_some_iff.mp made
  split at made
  · cases made
  · cases made
    rfl

theorem fieldDirective_unmarked (unmarked : ¬ property.isMarked = true) :
    table.fieldDirective property = none := by
  have undirected : property.directive = none := by
    simpa [← property.isSome_directive] using unmarked
  rw [fieldDirective, undirected, Option.bind_none]

theorem compileField_unmarked {kind : RouteKind} (unmarked : ¬ property.isMarked = true)
    (compiled : table.compileField owner kind property = .ok statements) : statements = [] := by
  have undirected : property.directive = none := by
    simpa [← property.isSome_directive] using unmarked
  obtain ⟨_, cases⟩ := compileField_eq_ok_iff.mp compiled
  simp only [undirected] at cases
  exact cases.symm

/-- The statements of an annotated field look it up if no parameter fills it in, and else read the
    parameter that the route names. -/
theorem compileField_marked {kind : RouteKind} (marked : property.isMarked = true)
    (compiled : table.compileField owner kind property = .ok statements) :
    ∃ mark, property.directive = some mark ∧
      match table.fieldDirective property with
      | none => statements = lookupStatements owner property mark
      | some directive => ∃ source, kind.paramSource? = some source ∧
          directive.isChecked = (mark.required && !(table.valueKind property.type).isScalar) ∧
          directive.read =
            ⟨property.name, (given? mark.name).getD property.name,
              table.valueKind property.type⟩ ∧
          statements =
            readStatements owner property mark (table.valueKind property.type) source := by
  have known := property.isSome_directive ▸ marked
  obtain ⟨mark, same⟩ := Option.isSome_iff_exists.mp known
  obtain ⟨_, cases⟩ := compileField_eq_ok_iff.mp compiled
  refine ⟨mark, same, ?_⟩
  simp only [same] at cases
  simp only [fieldDirective, same, Option.bind_some]
  split at cases
  · rename_i provider
    simp [provider, cases]
  · rename_i value
    obtain ⟨source, kept, rfl⟩ := cases
    simp [value, kept, FieldDirective.isChecked, FieldDirective.read, FieldDirective.key]

theorem read?_readStatement (property : Property) (key : String) (kind : ValueKind)
    (source : ParamSource) :
    (readStatement owner property key kind source).read? = some ⟨property.name, key, kind⟩ := by
  cases kind <;> rfl

/-- What a field is read from is what its route says. -/
theorem reads_compileField {kind : RouteKind}
    (compiled : table.compileField owner kind property = .ok statements) :
    statements.filterMap Statement.read? =
      ((table.fieldDirective property).map FieldDirective.read).toList := by
  by_cases marked : property.isMarked = true
  · obtain ⟨mark, _, cases⟩ := compileField_marked marked compiled
    cases directed : table.fieldDirective property with
    | none =>
        simp only [directed] at cases
        subst cases
        cases required : mark.required <;> simp [lookupStatements, required, Statement.read?]
    | some directive =>
        simp only [directed] at cases
        obtain ⟨source, _, _, read, rfl⟩ := cases
        rw [readStatements, List.filterMap_cons_some (read?_readStatement ..), Option.map_some, read]
        split <;> rfl
  · simp [fieldDirective_unmarked marked, compileField_unmarked marked compiled]

/-- A field is checked with a line in the log if the parameter of its route is to be checked. -/
theorem log_mem_compileField {kind : RouteKind}
    (compiled : table.compileField owner kind property = .ok statements) {field : String} :
    (∃ name, .nullCheck field name .log ∈ statements) ↔
      ∃ directive, table.fieldDirective property = some directive ∧ directive.field = field ∧
        directive.isChecked = true := by
  by_cases marked : property.isMarked = true
  · obtain ⟨mark, _, cases⟩ := compileField_marked marked compiled
    cases directed : table.fieldDirective property with
    | none =>
        simp only [directed] at cases
        subst cases
        cases required : mark.required <;> simp [lookupStatements, required]
    | some directive =>
        simp only [directed] at cases
        obtain ⟨source, _, checked, _, rfl⟩ := cases
        have notRead : ∀ name key, .nullCheck field name .log ≠
            readStatement owner property key (table.valueKind property.type) source := by
          intro name key
          cases table.valueKind property.type <;> simp [readStatement]
        have named := field_of_fieldDirective directed
        cases needed : mark.required && !(table.valueKind property.type).isScalar <;>
          simp [readStatements, needed, notRead, checked, named, @eq_comm _ field]
  · simp [fieldDirective_unmarked marked, compileField_unmarked marked compiled]

theorem lookup_mem_compileField {kind : RouteKind}
    (compiled : table.compileField owner kind property = .ok statements) {field : String} :
    (∃ type key, .serviceLookup field type key ∈ statements) ↔
      field = property.name ∧ property.isMarked = true ∧ table.fieldDirective property = none := by
  by_cases marked : property.isMarked = true
  · obtain ⟨mark, _, cases⟩ := compileField_marked marked compiled
    cases directed : table.fieldDirective property with
    | none =>
        simp only [directed] at cases
        subst cases
        cases required : mark.required <;> simp [lookupStatements, required, marked]
    | some directive =>
        simp only [directed] at cases
        obtain ⟨source, _, _, _, rfl⟩ := cases
        have notRead : ∀ type lookup key, .serviceLookup field type lookup ≠
            readStatement owner property key (table.valueKind property.type) source := by
          intro type lookup key
          cases table.valueKind property.type <;> simp [readStatement]
        cases needed : mark.required && !(table.valueKind property.type).isScalar <;>
          simp [readStatements, needed, notRead]
  · simp [compileField_unmarked marked compiled, marked]

section Fields

variable {decl : Declaration}

theorem nodup_directives (distinct : (decl.properties.map Property.name).Nodup) :
    ((decl.properties.filterMap table.fieldDirective).map FieldDirective.field).Nodup := by
  refine distinct.sublist ?_
  generalize decl.properties = properties
  induction properties with
  | nil => exact .slnil
  | cons property rest ih =>
      cases made : table.fieldDirective property with
      | none =>
          rw [List.filterMap_cons_none made]
          exact ih.cons _
      | some directive =>
          rw [List.filterMap_cons_some made, List.map_cons, List.map_cons,
            field_of_fieldDirective made]
          exact ih.cons_cons _

theorem keyed_directives (distinct : (decl.properties.map Property.name).Nodup) :
    (((decl.properties.filterMap table.fieldDirective).map fun directive =>
      (directive.field, directive)).map Prod.fst).Nodup := by
  rw [List.map_map]
  exact nodup_directives distinct

theorem values_fieldDirectives (distinct : (decl.properties.map Property.name).Nodup) :
    (table.fieldDirectives decl).values.Perm (decl.properties.filterMap table.fieldDirective) := by
  have kept : (table.fieldDirectives decl).entries.Perm _ :=
    SortedMap.entries_ofList_perm (keyed_directives distinct)
  simpa [fieldDirectives, SortedMap.values, Function.comp_def] using kept.map Prod.snd

theorem get?_fieldDirectives (distinct : (decl.properties.map Property.name).Nodup)
    {field : String} {directive : FieldDirective} :
    (table.fieldDirectives decl).get? field = some directive ↔
      ∃ property ∈ decl.properties,
        table.fieldDirective property = some directive ∧ directive.field = field := by
  rw [fieldDirectives, SortedMap.get?_ofList_eq_some_iff (keyed_directives distinct)]
  simp only [List.mem_map, List.mem_filterMap, Prod.mk.injEq]
  constructor
  · rintro ⟨_, ⟨property, member, made⟩, named, rfl⟩
    exact ⟨property, member, made, named⟩
  · rintro ⟨property, member, made, named⟩
    exact ⟨_, ⟨property, member, made⟩, named, rfl⟩

theorem get?_fieldDirectives_eq_none (distinct : (decl.properties.map Property.name).Nodup)
    (member : property ∈ decl.properties) :
    (table.fieldDirectives decl).get? property.name = none ↔
      table.fieldDirective property = none := by
  constructor
  · intro absent
    cases made : table.fieldDirective property with
    | none => rfl
    | some directive =>
        have held := (get?_fieldDirectives distinct).mpr
          ⟨property, member, made, field_of_fieldDirective made⟩
        simp [absent] at held
  · intro unread
    cases held : (table.fieldDirectives decl).get? property.name with
    | none => rfl
    | some directive =>
        obtain ⟨other, otherIn, made, named⟩ := (get?_fieldDirectives distinct).mp held
        have same := List.inj_on_of_nodup_map distinct otherIn member
          ((field_of_fieldDirective made).symm.trans named)
        simp [same, unread] at made

end Fields

section Plans

variable {decl : Declaration} {record : RouteRecord} {plan : InjectorPlan}

theorem mem_statements (made : table.injectorOf decl = .ok plan) {statement : Statement} :
    statement ∈ plan.statements ↔
      ∃ property ∈ decl.injected, ∃ block,
        table.compileField decl (table.routeKind decl) property = .ok block ∧
          statement ∈ block :=
  mem_compileInjector made

theorem compiled_of_mem (made : table.injectorOf decl = .ok plan)
    (member : property ∈ decl.injected) :
    ∃ block, table.compileField decl (table.routeKind decl) property = .ok block := by
  obtain ⟨blocks, compiled, -⟩ := compileInjector_eq_ok_iff.mp made
  generalize decl.injected = properties at compiled member
  induction compiled with
  | nil => simp at member
  | cons first _ ih =>
      rcases List.mem_cons.mp member with rfl | later
      · exact ⟨_, first⟩
      · exact ih later

theorem filterMap_injected (decl : Declaration) :
    decl.injected.filterMap table.fieldDirective =
      decl.properties.filterMap table.fieldDirective := by
  rw [Declaration.injected, List.filterMap_filter]
  refine List.filterMap_congr fun property _ => ?_
  split
  · rfl
  · rename_i unmarked
    exact (fieldDirective_unmarked unmarked).symm

/-- An injector reads what the directives of the fields say, in the order of the fields. -/
theorem reads_injectorOf (made : table.injectorOf decl = .ok plan) :
    plan.reads = (decl.properties.filterMap table.fieldDirective).map FieldDirective.read := by
  obtain ⟨blocks, compiled, rfl⟩ := compileInjector_eq_ok_iff.mp made
  rw [← filterMap_injected, InjectorPlan.reads]
  generalize decl.injected = properties at compiled
  clear made
  induction compiled with
  | nil => rfl
  | @cons property block rest blocks first _ ih =>
      rw [List.flatten_cons, List.filterMap_append, ih, reads_compileField first]
      cases made : table.fieldDirective property with
      | none => rw [List.filterMap_cons_none made]; rfl
      | some directive => rw [List.filterMap_cons_some made]; rfl

theorem takesParameters_of_compiled {kind : RouteKind} {directive : FieldDirective}
    (compiled : table.compileField owner kind property = .ok statements)
    (directed : table.fieldDirective property = some directive) : kind.takesParameters = true := by
  by_cases marked : property.isMarked = true
  · obtain ⟨mark, _, cases⟩ := compileField_marked marked compiled
    simp only [directed] at cases
    obtain ⟨source, kept, _⟩ := cases
    rw [RouteKind.takesParameters, kept]
    rfl
  · rw [fieldDirective_unmarked marked] at directed
    cases directed

/-- If the fields of a class can be filled in, its route brings them all. -/
theorem fields_of_compiled (extracted : table.extractRoute decl = .ok record)
    (made : table.injectorOf decl = .ok plan) : record.fields = table.fieldDirectives decl := by
  have fields : record.fields =
      if (table.routeKind decl).takesParameters then table.fieldDirectives decl else .empty := by
    obtain ⟨mark, -, -, rfl⟩ := extractRoute_eq_ok_iff.mp extracted
    rfl
  rw [fields]
  split
  · rfl
  · rename_i bare
    have none : decl.injected.filterMap table.fieldDirective = [] := by
      refine List.filterMap_eq_nil_iff.mpr fun property member => ?_
      obtain ⟨block, compiled⟩ := compiled_of_mem made member
      cases directed : table.fieldDirective property with
      | none => rfl
      | some => exact absurd (takesParameters_of_compiled compiled directed) bare
    rw [fieldDirectives, ← filterMap_injected, none]
    rfl

end Plans

end SymbolTable

/-- The line of a field that a parameter fills in shows its key and kind. -/
theorem FieldLine.ofProperty_of_fieldDirective {table : SymbolTable} {property : Property}
    {directive : FieldDirective} (made : table.fieldDirective property = some directive) :
    (ofProperty table property).key = some directive.key ∧
      (ofProperty table property).kind = directive.valueKind := by
  obtain ⟨mark, marked, made⟩ := Option.bind_eq_some_iff.mp made
  split at made
  · cases made
  · cases made
    simp [ofProperty, marked, FieldDirective.key]

namespace RouteRecord

variable {record : RouteRecord}

theorem mem_keys_paramCodes {key : String} :
    key ∈ record.paramCodes.keys ↔ key ∈ record.fields.values.map FieldDirective.key := by
  rw [paramCodes, SortedMap.mem_keys_ofList, List.map_map]
  rfl

/-- Under different keys every parameter keeps its own number. -/
theorem get?_paramCodes (distinct : (record.fields.values.map FieldDirective.key).Nodup)
    {directive : FieldDirective} (member : directive ∈ record.fields.values) :
    record.paramCodes.get? directive.key = some directive.valueKind.code := by
  refine (SortedMap.get?_ofList_eq_some_iff ?_).mpr (List.mem_map_of_mem member)
  rw [List.map_map]
  exact distinct

end RouteRecord

/-- What the record of a route, the injector of its class and the listing of its fields have in
    common. -/
structure ParamsAgree (table : SymbolTable) (decl : Declaration) (record : RouteRecord)
    (plan : InjectorPlan) : Prop where
  reads : plan.reads.Perm (record.fields.values.map FieldDirective.read)
  logs : ∀ field, (∃ owner, .nullCheck field owner .log ∈ plan.statements) ↔
    ∃ directive, record.fields.get? field = some directive ∧ directive.required = true ∧
      directive.valueKind.isScalar = false
  lookups : ∀ property ∈ decl.injected, record.fields.get? property.name = none ↔
    ∃ type key, .serviceLookup property.name type key ∈ plan.statements
  keys : ∀ key, key ∈ record.paramCodes.keys ↔ key ∈ plan.reads.map ParamRead.key
  codes : (plan.reads.map ParamRead.key).Nodup → ∀ read ∈ plan.reads,
    record.paramCodes.get? read.key = some read.kind.code
  listed : ∀ read ∈ plan.reads, ∃ line ∈ (Detail.ofDeclaration table decl).fields,
    line.name = read.field
  shown : ∀ read ∈ plan.reads, ∀ line ∈ (Detail.ofDeclaration table decl).fields,
    line.name = read.field → line.key = some read.key ∧ line.kind = read.kind

namespace SymbolTable

section Agreement

variable {table : SymbolTable} {decl : Declaration} {plan : InjectorPlan}

theorem mem_injected {property : Property} :
    property ∈ decl.injected ↔ property ∈ decl.properties ∧ property.isMarked = true :=
  List.mem_filter

theorem log_mem_statements (distinct : (decl.properties.map Property.name).Nodup)
    (made : table.injectorOf decl = .ok plan) {field : String} :
    (∃ owner, .nullCheck field owner .log ∈ plan.statements) ↔
      ∃ directive, (table.fieldDirectives decl).get? field = some directive ∧
        directive.isChecked = true := by
  simp only [mem_statements made, get?_fieldDirectives distinct]
  constructor
  · rintro ⟨owner, property, member, block, compiled, held⟩
    obtain ⟨directive, directed, named, checked⟩ :=
      (log_mem_compileField compiled).mp ⟨owner, held⟩
    exact ⟨directive, ⟨property, (mem_injected.mp member).1, directed, named⟩, checked⟩
  · rintro ⟨directive, ⟨property, member, directed, named⟩, checked⟩
    have marked : property.isMarked = true := by
      by_contra unmarked
      simp [fieldDirective_unmarked unmarked] at directed
    have injected := mem_injected.mpr ⟨member, marked⟩
    obtain ⟨block, compiled⟩ := compiled_of_mem made injected
    obtain ⟨owner, held⟩ :=
      (log_mem_compileField compiled).mpr ⟨directive, directed, named, checked⟩
    exact ⟨owner, property, injected, block, compiled, held⟩

theorem lookup_mem_statements (distinct : (decl.properties.map Property.name).Nodup)
    (made : table.injectorOf decl = .ok plan) {property : Property}
    (member : property ∈ decl.injected) :
    (∃ type key, .serviceLookup property.name type key ∈ plan.statements) ↔
      table.fieldDirective property = none := by
  simp only [mem_statements made]
  constructor
  · rintro ⟨type, key, other, otherIn, block, compiled, held⟩
    obtain ⟨named, _, undirected⟩ := (lookup_mem_compileField compiled).mp ⟨type, key, held⟩
    obtain rfl : property = other :=
      List.inj_on_of_nodup_map distinct (mem_injected.mp member).1 (mem_injected.mp otherIn).1 named
    exact undirected
  · intro undirected
    obtain ⟨block, compiled⟩ := compiled_of_mem made member
    obtain ⟨type, key, held⟩ := (lookup_mem_compileField compiled).mpr
      ⟨rfl, (mem_injected.mp member).2, undirected⟩
    exact ⟨type, key, property, member, block, compiled, held⟩

theorem mem_reads (made : table.injectorOf decl = .ok plan) {read : ParamRead} :
    read ∈ plan.reads ↔ ∃ property ∈ decl.properties, ∃ directive,
      table.fieldDirective property = some directive ∧ directive.read = read := by
  rw [reads_injectorOf made]
  simp only [List.mem_map, List.mem_filterMap]
  constructor
  · rintro ⟨directive, ⟨property, member, directed⟩, same⟩
    exact ⟨property, member, directive, directed, same⟩
  · rintro ⟨property, member, directive, directed, same⟩
    exact ⟨directive, ⟨property, member, directed⟩, same⟩

end Agreement

/-- The record of a route and the injector of its class agree, if both can be made. -/
theorem paramsAgree_of_made {table : SymbolTable} {decl : Declaration} {record : RouteRecord}
    {plan : InjectorPlan} (distinct : (decl.properties.map Property.name).Nodup)
    (extracted : table.extractRoute decl = .ok record)
    (made : table.injectorOf decl = .ok plan) : ParamsAgree table decl record plan := by
  have fields := fields_of_compiled extracted made
  -- The plan reads in the order of the fields, the record lists them by name.
  have reads : plan.reads.Perm (record.fields.values.map FieldDirective.read) := by
    rw [reads_injectorOf made, fields]
    exact ((values_fieldDirectives distinct).map _).symm
  have keys : (plan.reads.map ParamRead.key).Perm (record.fields.values.map FieldDirective.key) := by
    have mapped := reads.map ParamRead.key
    rwa [List.map_map] at mapped
  constructor
  case reads => exact reads
  case logs =>
    intro field
    rw [log_mem_statements distinct made, fields]
    simp [FieldDirective.isChecked]
  case lookups =>
    intro property member
    rw [lookup_mem_statements distinct made member, fields,
      get?_fieldDirectives_eq_none distinct (mem_injected.mp member).1]
  case keys =>
    intro key
    rw [RouteRecord.mem_keys_paramCodes]
    exact keys.mem_iff.symm
  case codes =>
    intro different read member
    obtain ⟨directive, held, rfl⟩ := List.mem_map.mp (reads.mem_iff.mp member)
    exact RouteRecord.get?_paramCodes (keys.nodup_iff.mp different) held
  case listed =>
    intro read member
    obtain ⟨property, held, directive, directed, rfl⟩ := (mem_reads made).mp member
    exact ⟨.ofProperty table property, List.mem_map_of_mem held,
      (field_of_fieldDirective directed).symm⟩
  case shown =>
    intro read member line lineIn named
    obtain ⟨property, held, directive, directed, rfl⟩ := (mem_reads made).mp member
    obtain ⟨other, otherIn, rfl⟩ := List.mem_map.mp lineIn
    obtain rfl : other = property :=
      List.inj_on_of_nodup_map distinct otherIn held
        (named.trans (field_of_fieldDirective directed))
    exact FieldLine.ofProperty_of_fieldDirective directed

/-- A screen with a renamed number, a text that has to be there and a capability. -/
private def page : Declaration :=
  { qualifiedName := "app.Page"
    supertypes := [.named Contract.activity]
    properties :=
      [{ name := "count", type := .named "int", wire := some { name := "total", required := true } },
        { name := "title", type := .named "java.lang.String", wire := some { required := true } },
        { name := "owner", type := .named "app.User", param := some { name := "by" } },
        { name := "store", type := .named Contract.provider, wire := some {} }]
    marks := { route := some { path := "/app/page" } } }

private theorem routeKind_page : (ofList [page]).routeKind page = .screen := by
  have single : page.supertypes = [.named Contract.activity] := rfl
  rw [routeKind, firstMatch_of_unknown single (by decide) (by decide +kernel)]
  decide +kernel

theorem paramsAgree_of_page : ∃ record plan,
    (page.properties.map Property.name).Nodup ∧
      (ofList [page]).extractRoute page = .ok record ∧
      (ofList [page]).injectorOf page = .ok plan ∧
      ParamsAgree (ofList [page]) page record plan ∧
      plan.reads = [⟨"count", "total", .int⟩, ⟨"title", "title", .string⟩,
        ⟨"owner", "by", .object⟩] := by
  have distinct : (page.properties.map Property.name).Nodup := by decide
  obtain ⟨record, extracted⟩ : ∃ record, (ofList [page]).extractRoute page = .ok record := by
    rw [extractRoute, routeKind_page]
    exact ⟨_, rfl⟩
  obtain ⟨plan, made, reads⟩ : ∃ plan, (ofList [page]).injectorOf page = .ok plan ∧
      plan.reads = [⟨"count", "total", .int⟩, ⟨"title", "title", .string⟩,
        ⟨"owner", "by", .object⟩] := by
    rw [injectorOf, compileInjector, routeKind_page]
    exact ⟨_, rfl, by decide +kernel⟩
  exact ⟨record, plan, distinct, extracted, made, paramsAgree_of_made distinct extracted made, reads⟩

end SymbolTable

end RouteAtlas
