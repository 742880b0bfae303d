import RouteAtlas.BuildError
import RouteAtlas.Text.Similarity

/-! # Diagnostics

What a round tells the host build, in the order in which it happened.
-/

namespace RouteAtlas

/-- How much a diagnostic matters. -/
inductive Severity where
  | info
  | warn
  | error
  deriving DecidableEq, Repr

/-- One message to the host build. -/
structure Diagnostic where
  severity : Severity
  message : String
  /-- The declaration that the message is about. -/
  symbol : Option String := none
  deriving DecidableEq, Repr

/-- Messages to the host build, in order. -/
abbrev Diagnostics := List Diagnostic

namespace Diagnostics

/-- One diagnostic, or none for an empty message. -/
def entry (severity : Severity) (message : String) (symbol : Option String) : Diagnostics :=
  if message.isEmpty then [] else [⟨severity, message, symbol⟩]

def info (message : String) : Diagnostics := entry .info message none

def warn (message : String) : Diagnostics := entry .warn message none

def warnAt (symbol message : String) : Diagnostics := entry .warn message (some symbol)

def error (message : String) : Diagnostics := entry .error message none

def report (error : BuildError) (symbol : Option String) : Diagnostics :=
  entry .error error.message symbol

def withSeverity (entries : Diagnostics) (severity : Severity) : Diagnostics :=
  entries.filter fun entry => entry.severity == severity

def hasErrors (entries : Diagnostics) : Bool :=
  !(entries.withSeverity .error).isEmpty

/-- Whether a message of the given severity holds a text. -/
def holds (entries : Diagnostics) (severity : Severity) (part : String) : Bool :=
  (entries.withSeverity severity).any fun entry => Text.contains entry.message part

end Diagnostics

/-- A message about the progress of a round, between arrows. -/
def progress (message : String) : String :=
  ">>> " ++ message ++ " <<<"

end RouteAtlas
