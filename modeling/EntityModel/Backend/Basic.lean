import EntityModel.Column
import EntityModel.Options

/-!
# Backends

A registry owns no storage. It declares the shapes of entities, relates them and finally asks a
backend to synchronize. A backend is what it does with a state of its own: only synchronization can
fail, and what a handle is for is known to the backend alone.
-/

namespace EntityModel

/-- What a backend calls a declared entity. -/
structure Handle where
  id : UInt32
  deriving DecidableEq, Repr

def Handle.toJson (h : Handle) : Json := .number (.int h.id.toNat)

/-- Why a backend did not synchronize. -/
inductive BackendError where
  | sync (message : String)
  | backend (message : String)
  deriving DecidableEq, Repr

namespace BackendError

def message : BackendError → String
  | .sync message => "synchronize failed: " ++ message
  | .backend message => "backend error: " ++ message

def exitCode : BackendError → Nat
  | .sync _ => 4
  | .backend _ => 4

end BackendError

/-- A backend with states of type `σ`. -/
structure Backend (σ : Type) where
  declare : σ → String → ColumnMap → Handle × σ
  relate : σ → (owner target : Handle) → Association → σ
  /-- Creates or updates what was declared; the state changes also on failure. -/
  synchronize : σ → SyncOptions → Except BackendError Unit × σ

/-- Two backends as one, whose state tells which of them it is. -/
def Backend.either {σ τ : Type} (b : Backend σ) (c : Backend τ) : Backend (σ ⊕ τ) where
  declare
    | .inl s, name, columns =>
      let (handle, s) := b.declare s name columns
      (handle, .inl s)
    | .inr s, name, columns =>
      let (handle, s) := c.declare s name columns
      (handle, .inr s)
  relate
    | .inl s, owner, target, association => .inl (b.relate s owner target association)
    | .inr s, owner, target, association => .inr (c.relate s owner target association)
  synchronize
    | .inl s, options =>
      let (result, s) := b.synchronize s options
      (result, .inl s)
    | .inr s, options =>
      let (result, s) := c.synchronize s options
      (result, .inr s)

end EntityModel
