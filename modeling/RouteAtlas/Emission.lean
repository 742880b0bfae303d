import RouteAtlas.Diagnostic
import RouteAtlas.Sink

/-! # Emission

Units are rendered and written one by one. One that fails is reported, and the others go on.
-/

namespace RouteAtlas

/-- What became of the units of one emission, in order. -/
structure EmitReport where
  written : List UnitKey := []
  /-- Units that were written before with the same content. -/
  unchanged : List UnitKey := []
  failed : List (UnitKey × BuildError) := []
  deriving DecidableEq, Repr

namespace EmitReport

/-- The reports of two emissions as one. -/
def append (first second : EmitReport) : EmitReport where
  written := first.written ++ second.written
  unchanged := first.unchanged ++ second.unchanged
  failed := first.failed ++ second.failed

instance : Append EmitReport := ⟨append⟩

/-- Whether no unit failed. -/
def isClean (report : EmitReport) : Bool :=
  report.failed.isEmpty

def ofResult (key : UnitKey) : Except BuildError WriteStatus → EmitReport
  | .ok .written => { written := [key] }
  | .ok .unchanged => { unchanged := [key] }
  | .error error => { failed := [(key, error)] }

end EmitReport

/-- What is said of one unit. -/
def GeneratedUnit.log (unit : GeneratedUnit) : Except BuildError WriteStatus → Diagnostics
  | .ok .written =>
    Diagnostics.info
      (progress (unit.body.label ++ " " ++ unit.key.qualifiedName ++ " has been generated."))
  | .ok .unchanged => []
  | .error error => Diagnostics.report error unit.key.qualifiedName

/-- What came of emitting units: the report, the state of the sink, and what was said. -/
structure Emission (σ : Type) where
  report : EmitReport := {}
  state : σ
  log : Diagnostics := []

variable {σ : Type}

namespace Backend

def emitUnit (backend : Backend) (sink : Sink σ) (state : σ) (unit : GeneratedUnit) :
    Except BuildError WriteStatus × σ :=
  match backend.render unit with
  | .ok rendered => sink.write state rendered
  | .error error => (.error error, state)

/-- Emit units one after another. -/
def emit (backend : Backend) (sink : Sink σ) (state : σ) : List GeneratedUnit → Emission σ
  | [] => { state }
  | unit :: rest =>
    let (result, after) := backend.emitUnit sink state unit
    let others := backend.emit sink after rest
    { report := .ofResult unit.key result ++ others.report
      state := others.state
      log := unit.log result ++ others.log }

end Backend

namespace Language

def emitUnit (language : Language) (sink : Sink σ) (state : σ) (unit : GeneratedUnit) :
    Except BuildError WriteStatus × σ :=
  language.backend.emitUnit sink state unit

/-- Emit units one after another. -/
def emit (language : Language) (sink : Sink σ) (state : σ) (units : List GeneratedUnit) :
    Emission σ :=
  language.backend.emit sink state units

end Language

end RouteAtlas
