import RouteAtlas.Source.Render
import RouteAtlas.Text.Digest

/-! # Sinks

Where rendered units go. A sink says how a write changes its state and whether the unit was new; a
write that is refused leaves an error. Sinks are built upon each other: one that refuses some units,
one that writes each unit once.
-/

namespace RouteAtlas

/-- What became of a unit that was not refused. -/
inductive WriteStatus where
  | written
  /-- A unit that was written before with the same content. -/
  | unchanged
  deriving DecidableEq, Repr

/-- How units are written to a state. -/
structure Sink (σ : Type) where
  write : σ → RenderedUnit → Except BuildError WriteStatus × σ

abbrev Store := SortedMap String RenderedUnit

namespace Store

/-- The first unit with the given simple name, in order of paths. -/
def find (store : Store) (name : String) : Option RenderedUnit :=
  store.values.find? fun unit => decide (unit.key.name = name)

end Store

/-- A state together with the digests of the units that were written to it. -/
structure WriteOnce (σ : Type) where
  inner : σ
  /-- Digests of the sources written, by key. -/
  digests : List (UnitKey × String) := []

namespace Sink

variable {σ : Type}

/-- Units are kept by path, later ones in place of earlier ones. -/
def memory : Sink Store where
  write store unit := (.ok .written, store.insert unit.path unit)

/-- Some units are refused, with a reason; the others go on to another sink. -/
def refusing (reason? : UnitKey → Option String) (inner : Sink σ) : Sink σ where
  write state unit :=
    match reason? unit.key with
    | some reason => (.error (.sink unit.key.qualifiedName reason), state)
    | none => inner.write state unit

/-- Each unit is written once. The same content again changes nothing, other content is refused,
    and a unit that the inner sink refused may be tried again. -/
def writeOnce (inner : Sink σ) : Sink (WriteOnce σ) where
  write state unit :=
    let digest := Text.Digest.ofText unit.source
    match state.digests.lookup unit.key with
    | some known =>
      if known = digest then (.ok .unchanged, state)
      else (.error (.alreadyEmitted unit.key.qualifiedName), state)
    | none =>
      match inner.write state.inner unit with
      | (.ok status, after) => (.ok status, ⟨after, (unit.key, digest) :: state.digests⟩)
      | (.error error, after) => (.error error, { state with inner := after })

end Sink

end RouteAtlas
