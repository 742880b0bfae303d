import RouteAtlas.BuildOptions
import RouteAtlas.Emission

/-! # Reports of a round

A round is worked on by three processors, one for routes, one for interceptors and one for injected
fields. Each reports what it found, dropped, put off and emitted, and whether it had to give up.
-/

namespace RouteAtlas

inductive Processor where
  | route
  | interceptor
  | autowired
  deriving DecidableEq, Repr

def Processor.name : Processor → String
  | .route => "route"
  | .interceptor => "interceptor"
  | .autowired => "autowired"

/-- What a processor did in a round. -/
structure Report where
  processor : Processor
  /-- How many annotated elements there were, without those put off. -/
  found : Nat := 0
  /-- How many of them were dropped with an error. -/
  dropped : Nat := 0
  emitted : EmitReport := {}
  /-- The error that ended the work. -/
  fatal : Option BuildError := none
  /-- Names of the declarations put off to a later round. -/
  deferred : List String := []
  deriving DecidableEq, Repr

/-- What is said of an error that ends the work of a processor. -/
def failureLog (error : BuildError) : Diagnostics :=
  Diagnostics.report error none ++
    if error = .missingModuleName then Diagnostics.error Contract.moduleAdvice else []

def declarationNames (decls : List Declaration) : List String :=
  decls.map Declaration.qualifiedName

/-- The declarations whose types are all known. -/
def resolvedOnes (decls : List Declaration) : List Declaration :=
  decls.filter fun decl => decl.resolved

/-- The declarations that are for a later round. -/
def pendingOnes (decls : List Declaration) : List Declaration :=
  decls.filter fun decl => !decl.resolved

/-- What a host asks for: the options of the build and the language of the sources. -/
structure Pipeline where
  options : BuildOptions
  language : Language := .kotlin
  deriving DecidableEq, Repr

end RouteAtlas
