import ThreeAddress.Event

/-!
# States with a record of events

A computation that can fail and records events works on a state together with the events
so far. Neither is lost when it fails.
-/

namespace ThreeAddress

/-- A state and what happened on the way to it. -/
structure Logged (σ : Type) where
  state : σ
  events : Array Event
deriving DecidableEq

namespace Logged

/-- A state without a history. -/
def fresh {σ : Type} (state : σ) : Logged σ :=
  ⟨state, #[]⟩

/-- Take a register from a pool. -/
def acquire : EStateM PoolError (Logged Pool) Register := fun logged =>
  match Pool.acquire logged.state with
  | .ok register pool => .ok register ⟨pool, logged.events.push (.acquired register pool.inUse)⟩
  | .error cause pool => .error cause ⟨pool, logged.events⟩

/-- Give a register back to a pool. -/
def release (register : Register) : EStateM PoolError (Logged Pool) Unit := fun logged =>
  match Pool.release register logged.state with
  | .ok _ pool => .ok () ⟨pool, logged.events.push (.released register pool.inUse)⟩
  | .error cause pool => .error cause ⟨pool, logged.events⟩

end Logged

end ThreeAddress
