import EntityModel.Backend.Basic

/-!
# The recorder

A backend that writes down its calls, a line each. Its handles start at a number and grow by a
stride, modulo 32 bits, so that they may also repeat.
-/

namespace EntityModel

structure Recorder where
  next : UInt32 := 0
  stride : UInt32 := 1
  /-- With a message, every synchronization fails. -/
  failure : Option String := none
  log : List String := []
  deriving Repr

namespace Recorder

def add (r : Recorder) (line : String) : Recorder := { r with log := r.log ++ [line] }

def numberText (h : Handle) : String := toString h.id.toNat

def declare (r : Recorder) (name : String) (columns : ColumnMap) : Handle × Recorder :=
  let handle : Handle := ⟨r.next⟩
  (handle, { r with next := r.next + r.stride }.add
    ("declare " ++ numberText handle ++ " " ++ name ++
      " [" ++ ",".intercalate columns.names ++ "]"))

def relate (r : Recorder) (owner target : Handle) (association : Association) : Recorder :=
  r.add ("relate " ++ numberText owner ++ " " ++ numberText target ++ " " ++
    association.toJson.render)

def synchronize (r : Recorder) (options : SyncOptions) : Except BackendError Unit × Recorder :=
  (match r.failure with
    | some message => .error (.backend message)
    | none => .ok (),
    r.add ("synchronize " ++ (if options.force then "true" else "false")))

def backend : Backend Recorder := ⟨declare, relate, synchronize⟩

end Recorder

end EntityModel
