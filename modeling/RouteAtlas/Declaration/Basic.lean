import RouteAtlas.QualifiedName

/-! # Declarations

The classes of a module as a symbol resolver delivers them: their types, supertypes and properties,
and the annotations that make a class a route or an interceptor and a property an injected field.
-/

namespace RouteAtlas

/-- A use of a type, such as `kotlin.collections.List<com.example.User>`. -/
structure TypeRef where
  name : String
  arguments : List TypeRef := []
  /-- Whether the type admits null. -/
  nullable : Bool := false
  deriving Inhabited, Repr

namespace TypeRef

mutual

/-- Two types are equal if their names, arguments and nullability are. -/
def decEq : (a b : TypeRef) → Decidable (a = b)
  | ⟨name, arguments, nullable⟩, ⟨name', arguments', nullable'⟩ =>
    if names : name = name' then
      if nulls : nullable = nullable' then
        match decEqList arguments arguments' with
        | isTrue same => isTrue (by rw [names, nulls, same])
        | isFalse different => isFalse fun equal => different (TypeRef.mk.inj equal).2.1
      else isFalse fun equal => nulls (TypeRef.mk.inj equal).2.2
    else isFalse fun equal => names (TypeRef.mk.inj equal).1

/-- Two lists of types are equal if they are so place by place. -/
def decEqList : (as bs : List TypeRef) → Decidable (as = bs)
  | [], [] => isTrue rfl
  | [], _ :: _ => isFalse (by simp)
  | _ :: _, [] => isFalse (by simp)
  | a :: as, b :: bs =>
    match decEq a b, decEqList as bs with
    | isTrue heads, isTrue tails => isTrue (by rw [heads, tails])
    | isFalse heads, _ => isFalse fun equal => heads (List.cons.inj equal).1
    | _, isFalse tails => isFalse fun equal => tails (List.cons.inj equal).2

end

instance : DecidableEq TypeRef := decEq

/-- The plain use of a type without arguments. -/
def named (name : String) : TypeRef := ⟨name, [], false⟩

/-- The same type without null among its values. -/
def nonNull (type : TypeRef) : TypeRef := { type with nullable := false }

/-- Last segment of the type's name. -/
def simpleName (type : TypeRef) : String := QualifiedName.simple type.name

def package (type : TypeRef) : String := QualifiedName.package type.name

mutual

/-- The names in a type, its own before those of its arguments. -/
def names : TypeRef → List String
  | ⟨name, arguments, _⟩ => name :: namesList arguments

/-- The names in types, one type after another. -/
def namesList : List TypeRef → List String
  | [] => []
  | type :: rest => names type ++ namesList rest

end

end TypeRef

/-- Who may use a declaration. -/
inductive Visibility where
  | publicScope
  | internalScope
  | protectedScope
  | privateScope
  deriving DecidableEq, Repr

/-- A text of an annotation, unless it was left empty. -/
def given? (text : String) : Option String :=
  if text.isEmpty then none else some text

/-- The annotation of a class that can be navigated to. -/
structure RouteMark where
  /-- Path under which the class is found. -/
  path : String
  /-- Group of the path; empty if it is to be taken from the path. -/
  group : String := ""
  name : String := ""
  /-- Bits handed over to the navigation runtime. -/
  extras : Int := -2147483648
  /-- Order among the targets of the runtime. -/
  priority : Int := -1
  deriving DecidableEq, Repr

/-- The annotation of a class that is called on each navigation. -/
structure HookMark where
  /-- Place in the order of calls. -/
  priority : Int
  name : String := ""
  deriving DecidableEq, Repr

/-- The annotation of a property that is filled in from outside. -/
structure WireMark where
  /-- Key or path of the value; empty if the property's own name is meant. -/
  name : String := ""
  /-- Whether the value may not be null. -/
  required : Bool := false
  description : String := ""
  deriving DecidableEq, Repr

/-- The older annotation of a property that is filled in from outside. -/
structure ParamMark where
  /-- Key of the value; empty if the property's own name is meant. -/
  name : String := ""
  description : String := ""
  deriving DecidableEq, Repr

structure Property where
  name : String
  visibility : Visibility := .publicScope
  type : TypeRef
  wire : Option WireMark := none
  param : Option ParamMark := none
  deriving DecidableEq, Repr

namespace Property

/-- Whether the property carries one of the annotations of injected fields. -/
def isMarked (property : Property) : Bool :=
  property.wire.isSome || property.param.isSome

/-- How the property is to be filled in. The older annotation counts as one that requires
    nothing. -/
def directive (property : Property) : Option WireMark :=
  match property.wire with
  | some mark => some mark
  | none => property.param.map fun mark => ⟨mark.name, false, mark.description⟩

theorem isSome_directive (property : Property) : property.directive.isSome = property.isMarked := by
  unfold directive isMarked
  cases property.wire <;> simp

end Property

structure ClassMarks where
  route : Option RouteMark := none
  hook : Option HookMark := none
  deriving DecidableEq, Repr

/-- A class of the module or of a library that it uses. -/
structure Declaration where
  qualifiedName : String
  visibility : Visibility := .publicScope
  supertypes : List TypeRef := []
  properties : List Property := []
  marks : ClassMarks := {}
  /-- Whether every type that the class mentions is known; if not, it is for a later round. -/
  resolved : Bool := true
  deriving DecidableEq, Repr

namespace Declaration

/-- Last segment of the class's name. -/
def simpleName (decl : Declaration) : String := QualifiedName.simple decl.qualifiedName

def package (decl : Declaration) : String := QualifiedName.package decl.qualifiedName

def asType (decl : Declaration) : TypeRef := .named decl.qualifiedName

/-- The properties with an annotation of injected fields. -/
def injected (decl : Declaration) : List Property := decl.properties.filter Property.isMarked

/-- Whether the class or one of its properties carries an annotation. -/
def isMarked (decl : Declaration) : Bool :=
  decl.marks.route.isSome || decl.marks.hook.isSome || decl.properties.any Property.isMarked

end Declaration

/-- The declarations that a resolver delivers at one time. -/
structure Snapshot where
  declarations : List Declaration := []
  deriving DecidableEq, Repr

end RouteAtlas
