/-! # TOML values

What a TOML document can hold. A table remembers how it came to be, since that decides what a later
line may add to it.
-/

namespace RouteAtlas.Toml

/-- How a table came to be. -/
inductive Origin where
  /-- Written between braces. -/
  | inline
  /-- Named only on the way to a table with a header. -/
  | implied
  /-- Named only on the way to a dotted key. -/
  | dotted
  /-- Named by a header of its own. -/
  | header
  deriving DecidableEq, Repr

inductive Value where
  | text (content : String)
  /-- A number or a truth value. No setting is of these types, so which one it is and what it
      amounts to is not kept. -/
  | scalar
  /-- A date, a time or both, in normal form. -/
  | moment (shown : String)
  | array (items : List Value)
  | table (origin : Origin) (members : List (String × Value))
  /-- The tables of headers in double brackets. -/
  | tables (latest : List (String × Value)) (earlier : List (List (String × Value)))

/-- The members of a table, in the order in which they were first named. -/
abbrev Members := List (String × Value)

/-- Put a value under a name, in place of what the name held. -/
def Members.put (name : String) (value : Value) : Members → Members
  | [] => [(name, value)]
  | member :: rest =>
    if member.1 = name then (name, value) :: rest else member :: put name value rest

/-- Name under which a date or a time is found where a table is looked for. -/
def momentName : String := "$__toml_private_datetime"

/-- The members of a value that is a table. A date or a time counts as a table with one text. -/
def Value.members? : Value → Option Members
  | .table _ members => some members
  | .moment shown => some [(momentName, .text shown)]
  | _ => none

/-- A key: the names of the tables that it leads through, and the last name. -/
structure Key where
  above : List String
  name : String
  deriving DecidableEq, Repr

def Key.names (key : Key) : List String :=
  key.above ++ [key.name]

end RouteAtlas.Toml
