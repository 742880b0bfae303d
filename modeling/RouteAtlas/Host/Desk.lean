import RouteAtlas.Host.Failure

/-! # The work of a command

A command works on files and prints lines. Should it fail, what it has done and printed so far
stays.
-/

namespace RouteAtlas

/-- What a command works with: the files, and what was printed. -/
structure Desk where
  tree : FileTree
  printed : String := ""

abbrev Work := ExceptT Failure (StateM Desk)

namespace Work

def line (text : String) : Work Unit :=
  modify fun desk => { desk with printed := desk.printed ++ text ++ "\n" }

def lines (texts : List String) : Work Unit :=
  texts.forM line

def tree : Work FileTree :=
  return (← get).tree

/-- Put changed files in place. -/
def setTree (tree : FileTree) : Work Unit :=
  modify fun desk => { desk with tree }

end Work

/-! ## Lines by what they tell -/

namespace Notice

def step (text : String) : String := "→ " ++ text

def success (text : String) : String := "✓ " ++ text

def error (text : String) : String := "✗ " ++ text

def warning (text : String) : String := "! " ++ text

def detail (text : String) : String := "  " ++ text

/-- A file that was written. -/
def added (text : String) : String := detail ("+ " ++ text)

/-- A file that was written before with the same content. -/
def kept (text : String) : String := detail ("= " ++ text)

def bullet (text : String) : String := detail ("• " ++ text)

end Notice

def counted (count : Nat) (noun : String) : String :=
  toString count ++ " " ++ noun ++ if count = 1 then "" else "s"

end RouteAtlas
