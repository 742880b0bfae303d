import RouteAtlas.Toml.Value

/-! # TOML tables

How the lines of a document build its tables. A table is defined once: what was written as a whole
cannot be added to from elsewhere, and no name is given two values.
-/

namespace RouteAtlas.Toml.Members

/-- Change the table that the names of a header lead to, making those on the way that are missing.
    Of tables with headers in double brackets the latest is meant. -/
def under (change : Members → Option Members) : List String → Members → Option Members
  | [], members => change members
  | name :: rest, members =>
    match members.lookup name with
    | none => (under change rest []).map fun inner => members.put name (.table .implied inner)
    | some (.table .inline _) => none
    | some (.table origin inner) =>
      (under change rest inner).map fun changed => members.put name (.table origin changed)
    | some (.tables latest earlier) =>
      (under change rest latest).map fun changed => members.put name (.tables changed earlier)
    | some _ => none

/-- Start a table with a header. One that was only implied so far gets its header now. -/
def define (name : String) (members : Members) : Option Members :=
  match members.lookup name with
  | none => some (members.put name (.table .header []))
  | some (.table .implied inner) => some (members.put name (.table .header inner))
  | some _ => none

/-- Start a table with a header in double brackets. -/
def append (name : String) (members : Members) : Option Members :=
  match members.lookup name with
  | none => some (members.put name (.tables [] []))
  | some (.tables latest earlier) => some (members.put name (.tables [] (latest :: earlier)))
  | some _ => none

/-- Give a value to a new name, below the tables that lead to it. The innermost of them must come
    from dotted keys alone. -/
def assign (name : String) (value : Value) : List String → Members → Option Members
  | [], members =>
    match members.lookup name with
    | none => some (members.put name value)
    | some _ => none
  | first :: rest, members =>
    match members.lookup first with
    | none =>
      (assign name value rest []).map fun inner => members.put first (.table .dotted inner)
    | some (.table .dotted inner) =>
      (assign name value rest inner).map fun changed => members.put first (.table .dotted changed)
    | some (.table .implied inner) =>
      if rest.isEmpty then none
      else
        (assign name value rest inner).map fun changed =>
          members.put first (.table .implied changed)
    | some (.tables latest earlier) =>
      if rest.isEmpty then none
      else
        (assign name value rest latest).map fun changed =>
          members.put first (.tables changed earlier)
    | some _ => none

/-- The members that settings make, one after another. -/
def ofSettings (settings : List (Key × Value)) : Option Members :=
  settings.foldlM (fun members (key, value) => members.assign key.name value key.above) []

end RouteAtlas.Toml.Members
