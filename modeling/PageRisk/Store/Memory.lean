import PageRisk.Services

set_option autoImplicit false

/-! # Stores in memory

A store in memory is a table; its operations never fail. A store that can only be read refuses every
change. -/

namespace PageRisk.Store

/-- The answer of a store in memory, and its contents afterwards. -/
def memory : (op : StoreOp) → StateM (Table Json) op.Answer
  | .get keys => return .ok ((← get).select keys)
  | .set entries => do
    modify fun t => t.insertAll entries.toList
    return .ok ()
  | .remove keys => do
    modify fun t => t.eraseAll keys
    return .ok ()
  | .keys => return .ok (← get).keys

/-- The error of a store that is `readOnly`, for every change. -/
def quotaExceeded : GuardError :=
  .storage "quota exceeded"

/-- The answer of a store with these contents that can only be read. -/
def readOnly (contents : Table Json) : (op : StoreOp) → op.Answer
  | .get keys => .ok (contents.select keys)
  | .set _ => .error quotaExceeded
  | .remove _ => .error quotaExceeded
  | .keys => .ok contents.keys

end PageRisk.Store
