import RouteAtlas.Diagnostic
import RouteAtlas.Route.Validation

/-! # Route tables

The routes of a module by group and path. A class holds at most one route, wherever it was inserted
last; several classes may share a path, which is reported, and they keep the order of arrival.
-/

namespace RouteAtlas

/-- The records of one path, in order of arrival. -/
abbrev RouteSlot := List RouteRecord

namespace RouteSlot

/-- Put a record in the place of the one with its target, or at the end. -/
def place (record : RouteRecord) : RouteSlot → RouteSlot
  | [] => [record]
  | r :: rest => if r.target = record.target then record :: rest else r :: place record rest

/-- Whether a class holds a record of the slot. -/
def holds (slot : RouteSlot) (target : TypeRef) : Bool :=
  slot.any fun r => decide (r.target = target)

end RouteSlot

structure RouteTable where
  groups : SortedMap String (SortedMap String RouteSlot)
  deriving DecidableEq

namespace RouteTable

/-- The table without routes. -/
def empty : RouteTable := ⟨.empty⟩

instance : Inhabited RouteTable := ⟨empty⟩

def paths (table : RouteTable) (group : String) : SortedMap String RouteSlot :=
  (table.groups.get? group).getD .empty

/-- The records of a path in a group. -/
def slot (table : RouteTable) (group path : String) : RouteSlot :=
  ((table.paths group).get? path).getD []

/-- All records, by group, path and arrival. -/
def records (table : RouteTable) : List RouteRecord :=
  table.groups.values.flatMap fun paths => paths.values.flatMap fun slot => slot

/-- Drop the records of a class everywhere but under one group and path. Slots and groups that
    become empty go too. -/
def withoutTarget (table : RouteTable) (group path : String) (target : TypeRef) : RouteTable where
  groups := table.groups.filterMap fun g paths =>
    let kept := paths.filterMap fun p slot =>
      let others :=
        if g = group ∧ p = path then slot else slot.filter fun r => decide (r.target ≠ target)
      if others.isEmpty then none else some others
    if kept.isEmpty then none else some kept

/-- File a record under its group and path. -/
def put (table : RouteTable) (record : RouteRecord) : RouteTable where
  groups :=
    let slot := RouteSlot.place record (table.slot record.groupName record.path)
    table.groups.insert record.groupName ((table.paths record.groupName).insert record.path slot)

/-- The warning that the path of a record is another class's already. -/
def clash (table : RouteTable) (record : RouteRecord) : Diagnostics :=
  let slot := table.slot record.groupName record.path
  match slot with
  | [] => []
  | first :: _ =>
    if slot.holds record.target then []
    else
      Diagnostics.warnAt record.target.name
        (BuildError.duplicatePath record.groupName record.path first.target.name
          record.target.name).message

/-- What came of inserting one record. -/
structure Insertion where
  table : RouteTable
  /-- Whether the record was valid, hence filed. -/
  accepted : Bool
  log : Diagnostics

/-- Validate a record and file it in place of its class's earlier one. -/
def insert (table : RouteTable) (record : RouteRecord) : Insertion :=
  match record.validate with
  | .error error =>
    ⟨table, false, Diagnostics.warn (progress ("Route meta verify error, " ++ error.message))⟩
  | .ok record =>
    let moved := table.withoutTarget record.groupName record.path record.target
    ⟨moved.put record, true,
      Diagnostics.info (progress
        ("Start categories, group = " ++ record.groupName ++ ", path = " ++ record.path))
        ++ moved.clash record⟩

/-- What came of inserting several records. -/
structure Batch where
  table : RouteTable
  /-- How many records were invalid. -/
  refused : Nat := 0
  log : Diagnostics := []

def Batch.insert (batch : Batch) (record : RouteRecord) : Batch :=
  let next := batch.table.insert record
  ⟨next.table, if next.accepted then batch.refused else batch.refused + 1, batch.log ++ next.log⟩

/-- Insert records one after another. -/
def insertAll (table : RouteTable) (records : List RouteRecord) : Batch :=
  records.foldl Batch.insert { table }

/-- Insert the records of another table, in its order. -/
def merge (table other : RouteTable) : Batch :=
  table.insertAll other.records

/-- Whether there is no group. -/
def isEmpty (table : RouteTable) : Bool :=
  table.groups.isEmpty

def size (table : RouteTable) : Nat :=
  table.records.length

def groupNames (table : RouteTable) : List String :=
  table.groups.keys

/-- The records of a group, ascending by path. -/
def group (table : RouteTable) (name : String) : List RouteRecord :=
  (table.paths name).values.flatMap fun slot => slot

/-- The groups with their records, ascending by name and path. -/
def listing (table : RouteTable) : List (String × List RouteRecord) :=
  table.groups.entries.map fun (name, paths) => (name, paths.values.flatMap fun slot => slot)

/-- Providers go by path, those of one path by the name of the class. -/
def providerOrder (a b : RouteRecord) : Bool :=
  a.path < b.path || (a.path == b.path && a.target.name ≤ b.target.name)

/-- The providers of all groups, by path and name. -/
def providers (table : RouteTable) : List RouteRecord :=
  (table.records.filter fun r => decide (r.kind = .provider)).mergeSort providerOrder

end RouteTable

end RouteAtlas
