import RouteAtlas.Emission

/-! # File trees

The files and directories that a command works on, as a value. Paths are relative to the working
directory; operations fail the way an operating system lets them fail.
-/

namespace RouteAtlas

/-- Why an operation on files fails. -/
inductive OsError where
  | noEntry
  | fileExists
  | notDirectory
  | isDirectory
  | nameTooLong
  /-- A path with a zero character, which no system takes. -/
  | zeroInPath
  deriving DecidableEq, Repr

/-- Wording of a failed operation. -/
def OsError.message : OsError → String
  | .noEntry => "No such file or directory (os error 2)"
  | .fileExists => "File exists (os error 17)"
  | .notDirectory => "Not a directory (os error 20)"
  | .isDirectory => "Is a directory (os error 21)"
  | .nameTooLong => "File name too long (os error 36)"
  | .zeroInPath => "file name contained an unexpected NUL byte"

/-- What stands at a place of a tree. -/
inductive Node where
  | file (content : String)
  | directory
  deriving DecidableEq, Repr

/-- A place of a tree: the names that lead to it, the innermost first. The working directory is the
    empty list, those above it are made of `..` alone, and the root of all absolute paths has the
    name `/`. -/
abbrev Place := List String

namespace Place

/-- Whether a place is the working directory or one above it. -/
def isAbove (place : Place) : Bool :=
  place.all (· == "..")

/-- Whether a place is there in every tree, as a directory. -/
def isRoot (place : Place) : Bool :=
  place.isAbove || place == ["/"]

def path (place : Place) : String :=
  "/".intercalate place.reverse

/-- The place above; the root of absolute paths has none but itself. -/
def above (place : Place) : Place :=
  if place == ["/"] then place
  else if place.isAbove then ".." :: place
  else place.tail

end Place

structure FileTree where
  nodes : SortedMap String Node := .empty

namespace FileTree

/-- What stands at a place. -/
def node? (tree : FileTree) (place : Place) : Option Node :=
  if place.isRoot then some .directory else tree.nodes.get? place.path

/-- Put a file or directory at a place. -/
def put (tree : FileTree) (place : Place) (node : Node) : FileTree :=
  ⟨tree.nodes.insert place.path node⟩

/-- Where a path starts. -/
def start (path : String) : Place :=
  if path.toList.head? == some '/' then ["/"] else []

/-- The parts of a path between slashes. -/
def segments (path : String) : List String :=
  (path.toList.splitOn '/').map String.ofList

/-- Bytes that one name of a path may have. -/
def nameLimit : Nat := 255

/-- Bytes that a path may have. -/
def pathLimit : Nat := 4095

/-- What is wrong with a path before it is followed. -/
def checkPath (path : String) : Except OsError Unit :=
  if '\x00' ∈ path.toList then .error .zeroInPath
  else if path.isEmpty then .error .noEntry
  else if pathLimit < path.utf8ByteSize then .error .nameTooLong
  else .ok ()

/-- Go one step from a place, which is to be a directory. -/
def enter (tree : FileTree) (place : Place) (segment : String) : Except OsError Place :=
  match tree.node? place with
  | none => .error .noEntry
  | some (.file _) => .error .notDirectory
  | some .directory =>
    if segment = "" || segment = "." then .ok place
    else if segment = ".." then .ok place.above
    else if nameLimit < segment.utf8ByteSize then .error .nameTooLong
    else .ok (segment :: place)

/-- The place that a path leads to; nothing need stand there. -/
def locate (tree : FileTree) (path : String) : Except OsError Place := do
  checkPath path
  (segments path).foldlM tree.enter (start path)

/-- Whether something stands where a path leads. -/
def exists? (tree : FileTree) (path : String) : Bool :=
  match tree.locate path with
  | .ok place => (tree.node? place).isSome
  | .error _ => false

def read (tree : FileTree) (path : String) : Except OsError String := do
  match tree.node? (← tree.locate path) with
  | some (.file content) => .ok content
  | some .directory => .error .isDirectory
  | none => .error .noEntry

/-- Write a file, in place of what it held. -/
def write (tree : FileTree) (path content : String) : Except OsError FileTree := do
  let place ← tree.locate path
  match tree.node? place with
  | some .directory => .error .isDirectory
  | _ => .ok (tree.put place (.file content))

/-- Make one directory, where nothing may stand yet. -/
def makeDirectory (tree : FileTree) (root : Place) (names : List String) :
    Except OsError FileTree := do
  checkPath ("/".intercalate (if root.isEmpty then names else "" :: names))
  let place ← names.foldlM tree.enter root
  if (tree.node? place).isSome then .error .fileExists else .ok (tree.put place .directory)

/-- Whether a directory stands where names lead. -/
def isDirectory (tree : FileTree) (root : Place) (names : List String) : Bool :=
  match names.foldlM tree.enter root with
  | .ok place => tree.node? place == some .directory
  | .error _ => false

/-- Make a directory, unless it is there. -/
def ensureDirectory (tree : FileTree) (root : Place) (names : List String) :
    Except OsError Unit × FileTree :=
  match tree.makeDirectory root names with
  | .ok made => (.ok (), made)
  | .error error => (if tree.isDirectory root names then .ok () else .error error, tree)

/-- Make a directory and those above it that are missing. Those that could be made stay, also if
    others could not. The names are given innermost first. -/
def ensureDirectories (tree : FileTree) (root : Place) :
    List String → Except OsError Unit × FileTree
  | [] => (.ok (), tree)
  | name :: above =>
    match tree.makeDirectory root (name :: above).reverse with
    | .error .noEntry =>
      match tree.ensureDirectories root above with
      | (.ok (), ready) => ready.ensureDirectory root (name :: above).reverse
      | failed => failed
    | _ => tree.ensureDirectory root (name :: above).reverse

/-- The names of the directory that a path lies in, outermost first. -/
def directoryOf (path : String) : List String :=
  (segments path).dropLast.filter fun segment => segment != "" && segment != "."

/-- Write a file, making the directories above it. -/
def writeDeep (tree : FileTree) (path content : String) : Except OsError Unit × FileTree :=
  match tree.ensureDirectories (start path) (directoryOf path).reverse with
  | (.ok (), ready) =>
    match ready.write path content with
    | .ok written => (.ok (), written)
    | .error error => (.error error, ready)
  | failed => failed

/-- The paths on the way to a path, itself the last. -/
def leading (path : String) : List String :=
  let parts := segments path
  ((List.range parts.length).map fun count => "/".intercalate (parts.take (count + 1))).filter
    fun part => !part.isEmpty

/-- Note what was found where a path leads. -/
def note (tree : FileTree) (path : String) (node : Node) : FileTree :=
  match tree.locate path with
  | .ok place => tree.put place node
  | .error _ => tree

/-- Whether a path leads to a place outside the working directory, where it is that of a place. -/
def isOutside (path : String) : Bool :=
  path.toList.head? == some '/' || (segments path).head? == some ".."

/-- The files of the working directory, by path. -/
def files (tree : FileTree) : List (String × String) :=
  tree.nodes.entries.filterMap fun (path, node) =>
    match node with
    | .file content => if isOutside path then none else some (path, content)
    | .directory => none

end FileTree

/-- A path below a directory. An absolute path stays as it is. -/
def joinPath (directory path : String) : String :=
  if directory.isEmpty || path.toList.head? == some '/' then path
  else if directory.toList.getLast? == some '/' then directory ++ path
  else directory ++ "/" ++ path

/-- Units are written to files below a directory. -/
def Sink.files (directory : String) : Sink FileTree where
  write tree unit :=
    let path := joinPath directory unit.path
    match tree.writeDeep path unit.source with
    | (.ok _, after) => (.ok .written, after)
    | (.error error, after) =>
      (.error (.sink unit.key.qualifiedName (path ++ ": " ++ error.message)), after)

end RouteAtlas
