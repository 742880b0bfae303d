import RouteAtlas.Build

/-! # Deliveries

A build may be given its declarations in several snapshots, with a round for each. What one round
saw and did not use up is offered again in the next.
-/

namespace RouteAtlas

/-- The declarations of earlier rounds that the next one sees too. -/
structure Carry where
  /-- Declarations without annotations, to which later ones may refer. -/
  library : List Declaration := []
  /-- Declarations that the last round put off. -/
  deferred : List Declaration := []
  deriving DecidableEq, Repr

namespace Carry

/-- The table of a round: what is carried, and what is delivered in place of it. -/
def table (carry : Carry) (delivered : List Declaration) : SymbolTable :=
  ((SymbolTable.ofList carry.library).extend carry.deferred).extend delivered

/-- Whether a name is that of a declaration of the library. -/
def knows (carry : Carry) (name : String) : Bool :=
  carry.library.any fun decl => decide (decl.qualifiedName = name)

/-- What is carried on from a round over the given table, which put off the declarations with the
    given names. -/
def advance (carry : Carry) (table : SymbolTable) (deferred : List String) : Carry where
  library := carry.library ++ table.declarations.filter fun decl =>
    !decl.isMarked && !carry.knows decl.qualifiedName
  deferred := table.declarations.filter fun decl => deferred.contains decl.qualifiedName

end Carry

/-- A build between two deliveries, with the state of the sink that it writes to. -/
structure Session (σ : Type) where
  build : BuildState := {}
  carry : Carry := {}
  state : σ

namespace Pipeline

variable {σ : Type}

def deliver (pipeline : Pipeline) (sink : Sink σ) (session : Session σ)
    (delivered : List Declaration) : RoundOutcome × Session σ :=
  let table := session.carry.table delivered
  let (outcome, state) := pipeline.runRound sink session.build table session.state
  (outcome, ⟨outcome.state, session.carry.advance table outcome.deferred, state⟩)

/-- Run the rounds of several deliveries. -/
def deliverAll (pipeline : Pipeline) (sink : Sink σ) (session : Session σ) :
    List (List Declaration) → List RoundOutcome × Session σ
  | [] => ([], session)
  | delivered :: rest =>
    let (outcome, after) := pipeline.deliver sink session delivered
    let (outcomes, last) := pipeline.deliverAll sink after rest
    (outcome :: outcomes, last)

/-- Write the tables after the last delivery. -/
def conclude (pipeline : Pipeline) (sink : Sink σ) (session : Session σ) :
    RoundOutcome × Session σ :=
  let (outcome, state) := pipeline.finish sink session.build session.state
  (outcome, { session with build := outcome.state, state })

end Pipeline

end RouteAtlas
