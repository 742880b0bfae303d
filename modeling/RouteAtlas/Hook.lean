import RouteAtlas.BuildError
import RouteAtlas.Declaration.Basic
import RouteAtlas.SortedMap

/-! # Interceptors

The interceptors of a module by priority. No two of them share a priority, and a class that is
inserted with a new priority moves there.
-/

namespace RouteAtlas

/-- What is known of one interceptor. -/
structure HookRecord where
  /-- Place in the order of calls. -/
  priority : Int
  target : TypeRef
  name : Option String := none
  deriving DecidableEq, Repr

structure HookTable where
  byPriority : SortedMap Int HookRecord
  deriving DecidableEq

namespace HookTable

/-- The table without interceptors. -/
def empty : HookTable := ⟨.empty⟩

instance : Inhabited HookTable := ⟨empty⟩

/-- Insert an interceptor. One that holds its priority already stays as it is; a priority that
    another class holds is refused. -/
def insert (table : HookTable) (hook : HookRecord) : Except BuildError HookTable :=
  match table.byPriority.get? hook.priority with
  | some holder =>
    if holder.target = hook.target then .ok table
    else .error (.duplicatePriority hook.priority holder.target.name hook.target.name)
  | none =>
    let others := table.byPriority.filter fun _ other => decide (other.target ≠ hook.target)
    .ok ⟨others.insert hook.priority hook⟩

/-- The interceptors, ascending by priority. -/
def hooks (table : HookTable) : List HookRecord :=
  table.byPriority.values

def size (table : HookTable) : Nat :=
  table.byPriority.size

/-- Whether there is no interceptor. -/
def isEmpty (table : HookTable) : Bool :=
  table.byPriority.isEmpty

end HookTable

end RouteAtlas
