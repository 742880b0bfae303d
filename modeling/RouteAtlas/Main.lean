import RouteAtlas.Host.Command

/-! # The program

Reads the files that a command line names, does what is asked for, and writes what came of it.
-/

namespace RouteAtlas

/-- The number that the system gives the error of reading a directory as a file. -/
def directoryCode : UInt32 := 21

/-- What stands where a path leads. -/
def lookAt (path : String) : IO (Option Node) := do
  try
    return some (.file (← IO.FS.readFile path))
  catch
    | .inappropriateType _ code _ => return if code = directoryCode then some .directory else none
    | _ => return none

/-- Add what stands where paths lead, and on the way there, to a tree. -/
def gather (tree : FileTree) (paths : List String) : IO FileTree :=
  (paths.flatMap FileTree.leading).foldlM (fun sofar path => do
    match ← lookAt path with
    | some node => return sofar.note path node
    | none => return sofar) tree

/-- Write the files that are new or changed. -/
def putInPlace (before after : FileTree) : IO Unit :=
  after.nodes.entries.forM fun (path, node) => do
    match node with
    | .file content =>
      if before.nodes.get? path ≠ some node then
        let above := "/".intercalate (FileTree.segments path).dropLast
        if !above.isEmpty then IO.FS.createDirAll above
        IO.FS.writeFile path content
    | .directory => return ()

/-- Do what is asked for with the files of the system. -/
def perform (invocation : Invocation) : IO UInt32 := do
  let inputs ← gather {} invocation.inputs
  let tree ← gather inputs (invocation.outputs inputs)
  let (failure, desk) := invocation.run tree
  IO.print desk.printed
  putInPlace tree desk.tree
  match failure with
  | none => return 0
  | some reason =>
    IO.eprintln ("Error: " ++ reason.message)
    return 1

end RouteAtlas

open RouteAtlas in
/-- Run the command that the words ask for. -/
def main (words : List String) : IO UInt32 := do
  match Invocation.ofWords words with
  | .ok invocation => perform invocation
  | .error stop =>
    if stop.isRequest then
      IO.println stop.message
      return 0
    IO.eprintln stop.message
    return 2
