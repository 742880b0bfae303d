import RouteAtlas.Host.FileTree
import RouteAtlas.Proofs.Except
import RouteAtlas.Proofs.SortedMap
import RouteAtlas.Proofs.Sink.Respect

/-! # Trees that differ in one file

Two trees that hold the same but for the text of one file. Paths lead to the same places in both,
and what is written to both leaves them so: no write looks at the text of a file.
-/

namespace RouteAtlas

namespace FileTree

/-- Two trees hold the same, but that one file may have a text of its own in each. -/
def Twins (key firstText secondText : String) (first second : FileTree) : Prop :=
  ∀ path, first.nodes.get? path = second.nodes.get? path ∨
    path = key ∧ first.nodes.get? path = some (.file firstText) ∧
      second.nodes.get? path = some (.file secondText)

namespace Twins

variable {key firstText secondText : String} {first second : FileTree}

/-- A tree with one text or another at a place. -/
theorem of_put (tree : FileTree) (place : Place) (firstText secondText : String) :
    Twins place.path firstText secondText (tree.put place (.file firstText))
      (tree.put place (.file secondText)) := by
  intro path
  rw [put, put, SortedMap.get?_insert, SortedMap.get?_insert]
  split
  · next here => exact .inr ⟨here, rfl, rfl⟩
  · exact .inl rfl

variable (twins : Twins key firstText secondText first second)
include twins

theorem node? (place : Place) :
    first.node? place = second.node? place ∨
      place.path = key ∧ first.node? place = some (.file firstText) ∧
        second.node? place = some (.file secondText) := by
  unfold FileTree.node?
  split
  · exact .inl rfl
  · exact twins place.path

theorem isSome_node? (place : Place) :
    (first.node? place).isSome = (second.node? place).isSome := by
  rcases twins.node? place with same | ⟨-, left, right⟩
  · rw [same]
  · rw [left, right]; rfl

theorem node?_directory (place : Place) :
    first.node? place = some .directory ↔ second.node? place = some .directory := by
  rcases twins.node? place with same | ⟨-, left, right⟩
  · rw [same]
  · rw [left, right]; simp

theorem enter : first.enter = second.enter := by
  funext place segment
  unfold FileTree.enter
  rcases twins.node? place with same | ⟨-, left, right⟩
  · rw [same]
  · rw [left, right]

theorem locate : first.locate = second.locate := by
  funext path
  unfold FileTree.locate
  rw [twins.enter]

/-- A path leads to the same text in both trees, or to the one file that they differ in. -/
theorem read (path : String) :
    first.read path = second.read path ∨
      ∃ place, first.locate path = .ok place ∧ place.path = key ∧
        first.read path = .ok firstText ∧ second.read path = .ok secondText := by
  unfold FileTree.read
  rw [twins.locate]
  simp only [bind, Except.bind]
  cases second.locate path with
  | error => exact .inl rfl
  | ok place =>
      dsimp only
      rcases twins.node? place with same | ⟨there, left, right⟩
      · rw [same]
        exact .inl rfl
      · rw [left, right]
        exact .inr ⟨place, rfl, there, rfl, rfl⟩

theorem put (place : Place) (node : Node) :
    Twins key firstText secondText (first.put place node) (second.put place node) := by
  intro path
  rw [FileTree.put, FileTree.put, SortedMap.get?_insert, SortedMap.get?_insert]
  split
  · exact .inl rfl
  · exact twins path

theorem write (path content : String) :
    Matched (Twins key firstText secondText) (first.write path content)
      (second.write path content) := by
  unfold FileTree.write
  rw [twins.locate]
  apply Matched.bind
  intro place
  have written := twins.put place (.file content)
  rcases twins.node? place with same | ⟨-, left, right⟩
  · rw [same]
    split
    · exact .error _
    · exact .ok written
  · rw [left, right]
    exact .ok written

theorem makeDirectory (root : Place) (names : List String) :
    Matched (Twins key firstText secondText) (first.makeDirectory root names)
      (second.makeDirectory root names) := by
  unfold FileTree.makeDirectory
  rw [twins.enter]
  apply Matched.bind
  intro _
  apply Matched.bind
  intro place
  rw [twins.isSome_node?]
  split
  · exact .error _
  · exact .ok (twins.put place .directory)

theorem isDirectory (root : Place) (names : List String) :
    first.isDirectory root names = second.isDirectory root names := by
  unfold FileTree.isDirectory
  rw [twins.enter]
  cases names.foldlM second.enter root with
  | error => rfl
  | ok place =>
      rw [Bool.eq_iff_iff, beq_iff_eq, beq_iff_eq]
      exact twins.node?_directory place

theorem ensureDirectory (root : Place) (names : List String) :
    (first.ensureDirectory root names).1 = (second.ensureDirectory root names).1 ∧
      Twins key firstText secondText (first.ensureDirectory root names).2
        (second.ensureDirectory root names).2 := by
  unfold FileTree.ensureDirectory
  have made := twins.makeDirectory root names
  generalize first.makeDirectory root names = left, second.makeDirectory root names = right
    at made
  cases made with
  | ok made => exact ⟨rfl, made⟩
  | error => exact ⟨by rw [twins.isDirectory], twins⟩

theorem ensureDirectories (root : Place) (names : List String) :
    (first.ensureDirectories root names).1 = (second.ensureDirectories root names).1 ∧
      Twins key firstText secondText (first.ensureDirectories root names).2
        (second.ensureDirectories root names).2 := by
  induction names with
  | nil => exact ⟨rfl, twins⟩
  | cons name above ih =>
      unfold FileTree.ensureDirectories
      -- Only a missing directory above leads on; then both trees may be others by now.
      have here := twins.ensureDirectory root (name :: above).reverse
      have made := twins.makeDirectory root (name :: above).reverse
      generalize first.makeDirectory root (name :: above).reverse = left,
        second.makeDirectory root (name :: above).reverse = right at made
      cases made with
      | ok => exact here
      | error error =>
          cases error with
          | noEntry =>
              dsimp only
              generalize first.ensureDirectories root above = left,
                second.ensureDirectories root above = right at ih
              obtain ⟨result, left⟩ := left
              obtain ⟨_, right⟩ := right
              obtain ⟨rfl, ready⟩ := ih
              cases result with
              | ok => exact ensureDirectory ready root (name :: above).reverse
              | error => exact ⟨rfl, ready⟩
          | _ => exact here

theorem writeDeep (path content : String) :
    (first.writeDeep path content).1 = (second.writeDeep path content).1 ∧
      Twins key firstText secondText (first.writeDeep path content).2
        (second.writeDeep path content).2 := by
  unfold FileTree.writeDeep
  have above := twins.ensureDirectories (start path) (directoryOf path).reverse
  generalize first.ensureDirectories (start path) (directoryOf path).reverse = left,
    second.ensureDirectories (start path) (directoryOf path).reverse = right at above
  obtain ⟨result, left⟩ := left
  obtain ⟨_, right⟩ := right
  obtain ⟨rfl, ready⟩ := above
  cases result with
  | error => exact ⟨rfl, ready⟩
  | ok =>
      dsimp only
      have written := ready.write path content
      generalize left.write path content = one, right.write path content = other at written
      cases written with
      | ok written => exact ⟨rfl, written⟩
      | error => exact ⟨rfl, ready⟩

end Twins

section

variable {tree : FileTree} {place : Place} {text : String}
  (held : tree.node? place = some (.file text))
include held

theorem get?_of_file : tree.nodes.get? place.path = some (.file text) := by
  unfold node? at held
  split at held
  · cases held
  · exact held

theorem put_held : tree.put place (.file text) = tree := by
  have same : tree.nodes.insert place.path (.file text) = tree.nodes := by
    apply SortedMap.ext_get?
    intro path
    rw [SortedMap.get?_insert]
    split
    · next here => rw [here, get?_of_file held]
    · rfl
  rw [put, same]

theorem node?_put_file (node : Node) : (tree.put place node).node? place = some node := by
  unfold node? at held ⊢
  split at held
  · cases held
  · next inside => rw [if_neg inside, put, SortedMap.get?_insert_self]

/-- The text of a file does not matter to where paths lead. -/
theorem locate_put_file (other : String) : (tree.put place (.file other)).locate = tree.locate := by
  have twins := Twins.of_put tree place other text
  rw [put_held held] at twins
  exact twins.locate

end

/-- A path that is one plain name leads to that name in every tree. -/
theorem locate_name (tree : FileTree) {name : String} (sound : checkPath name = .ok ())
    (single : segments name = [name]) (relative : start name = [])
    (plain : name ≠ "" ∧ name ≠ "." ∧ name ≠ "..") (short : name.utf8ByteSize ≤ nameLimit) :
    tree.locate name = .ok [name] := by
  obtain ⟨filled, notHere, notAbove⟩ := plain
  have root : tree.node? [] = some .directory := rfl
  have entered : tree.enter [] name = .ok [name] := by
    rw [enter, root]
    simp [filled, notHere, notAbove, short]
  rw [locate, sound, single, relative]
  exact foldlM_cons_eq_ok_iff.mpr ⟨[name], entered, rfl⟩

/-- Units that are written below a directory meet the same fate in both trees. -/
theorem respects_files (directory key firstText secondText : String) :
    (Sink.files directory).Respects (Twins key firstText secondText) := by
  intro first second unit twins
  simp only [Sink.files]
  have written := twins.writeDeep (joinPath directory unit.path) unit.source
  generalize first.writeDeep (joinPath directory unit.path) unit.source = left,
    second.writeDeep (joinPath directory unit.path) unit.source = right at written
  obtain ⟨result, left⟩ := left
  obtain ⟨_, right⟩ := right
  obtain ⟨rfl, written⟩ := written
  cases result <;> exact ⟨rfl, written⟩

end FileTree

end RouteAtlas
