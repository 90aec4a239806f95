import ThreeAddress.Instr.Basic

/-!
# The register pool

A pool hands out registers in stack order: the registers in use are those below a bound,
and the latest to be acquired is the first to be released. A refused request changes
nothing.
-/

namespace ThreeAddress

/-- What a pool has done so far. -/
structure PoolStats where
  acquired : Nat
  released : Nat
  /-- The largest number of registers that were in use at once. -/
  peak : Nat
deriving DecidableEq

/-- A bounded stack of registers. The registers in use are those with an index below `inUse`. -/
structure Pool where
  capacity : Nat
  inUse : Nat
  stats : PoolStats
deriving DecidableEq

/-- Why a pool refuses a request. -/
inductive PoolError where
  /-- All registers are in use. -/
  | exhausted (capacity : Nat)
  /-- No register is in use. -/
  | underflow (register : Register)
  /-- Another register was acquired later. -/
  | outOfOrder (expected found : Register)
deriving DecidableEq

/-- The wording of the error. -/
def PoolError.message : PoolError → String
  | exhausted capacity =>
      "[internal] register pool exhausted (" ++ toString capacity ++ " registers)"
  | underflow register => "[internal] register stack underflow releasing " ++ register.text
  | outOfOrder expected found =>
      "[internal] unexpected register release: " ++ found.text ++ " (expected " ++ expected.text ++ ")"

namespace Pool

/-- A pool with no register in use. -/
def ofCapacity (capacity : Nat) : Pool :=
  ⟨capacity, 0, ⟨0, 0, 0⟩⟩

/-- Take the lowest register that is not in use. -/
def acquire : EStateM PoolError Pool Register := do
  let pool ← get
  if pool.capacity < pool.inUse + 1 then
    throw (.exhausted pool.capacity)
  let register : Register := ⟨pool.inUse⟩
  modify fun pool => { pool with inUse := pool.inUse + 1 }
  modify fun pool => { pool with stats.acquired := pool.stats.acquired + 1 }
  modify fun pool => { pool with stats.peak := max pool.stats.peak pool.inUse }
  return register

/-- Give back a register. It has to be the latest acquired of those in use. -/
def release (register : Register) : EStateM PoolError Pool Unit := do
  let pool ← get
  if pool.inUse = 0 then
    throw (.underflow register)
  let top : Register := ⟨pool.inUse - 1⟩
  if top ≠ register then
    throw (.outOfOrder top register)
  modify fun pool => { pool with inUse := pool.inUse - 1 }
  modify fun pool => { pool with stats.released := pool.stats.released + 1 }

end Pool

end ThreeAddress
