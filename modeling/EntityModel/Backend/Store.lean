import EntityModel.Backend.Basic

/-!
# The store in memory

A backend that keeps every call: the tables that were declared, the associations and the
synchronizations, each in the order of the calls. A table's handle is the number of tables before
it, as far as 32 bits go.
-/

namespace EntityModel

structure Table where
  handle : Handle
  name : String
  columns : ColumnMap
  deriving Repr

def Table.toJson (t : Table) : Json :=
  .object [("handle", t.handle.toJson), ("name", .string t.name), ("columns", t.columns.toJson)]

/-- An association as it was asked for. -/
structure RecordedAssociation where
  owner : Handle
  target : Handle
  association : Association
  deriving DecidableEq, Repr

def RecordedAssociation.toJson (r : RecordedAssociation) : Json :=
  .object [("owner", r.owner.toJson), ("target", r.target.toJson),
    ("association", r.association.toJson)]

/-- Everything a store was asked for. -/
structure Store where
  tables : List Table := []
  associations : List RecordedAssociation := []
  /-- All synchronizations, also those that failed. -/
  syncs : List SyncOptions := []
  /-- With a message, every synchronization fails. -/
  failure : Option String := none
  deriving Repr

namespace Store

/-- The first table with a name. -/
def table? (s : Store) (name : String) : Option Table := s.tables.find? (·.name == name)

/-- The name of the first table with a handle. -/
def nameOf? (s : Store) (handle : Handle) : Option String :=
  (s.tables.find? (·.handle == handle)).map Table.name

/-- The handle of the next table. -/
def nextHandle (s : Store) : Handle := ⟨UInt32.ofNat s.tables.length⟩

def declare (s : Store) (name : String) (columns : ColumnMap) : Handle × Store :=
  (s.nextHandle, { s with tables := s.tables ++ [⟨s.nextHandle, name, columns⟩] })

def relate (s : Store) (owner target : Handle) (association : Association) : Store :=
  { s with associations := s.associations ++ [⟨owner, target, association⟩] }

def synchronize (s : Store) (options : SyncOptions) : Except BackendError Unit × Store :=
  (match s.failure with
    | some message => .error (.sync message)
    | none => .ok (),
    { s with syncs := s.syncs ++ [options] })

def backend : Backend Store := ⟨declare, relate, synchronize⟩

end Store

end EntityModel
