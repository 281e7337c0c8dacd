/-
The audit log's one writer (`infra/audit/store.py`).

Every row is stamped with a fresh id and the clock's reading; the services
only ever append. Details are pairs of texts, in the order the caller gives
them.
-/
import Warehouse.Infra.Db

namespace Warehouse

/-- Append an audit row, stamped with a fresh id and the clock. -/
def writeAudit (env : Env) (store : Store)
    (actorId action resourceType resourceId : String)
    (householdId : Option String := none)
    (details : List (String × String) := []) : Store :=
  { store with
    auditLog := store.auditLog ++
      [{ entryId := env.freshId "audit" store
         actorId := actorId
         action := action
         resourceType := resourceType
         resourceId := resourceId
         householdId := householdId
         occurredAt := env.clock store
         details := details }]
    draws := store.draws + 1
    ticks := store.ticks + 1 }

end Warehouse
