/-
Database sessions (`infra/db/base.py`).

A body's writes stay when it returns and are taken back when it raises. Ids,
clock readings and the log of events are outside the database, so a rollback
leaves them as they are.
-/
import Warehouse.Infra.Audit
import Warehouse.Lib.Work

namespace Warehouse

open Lib

/-- Code that runs in a session: what it has written is the session's
whether it returns or raises. -/
abbrev Session (α : Type) := Work Store Exc α

/-- What a rollback leaves: the tables as they were. The ids and clock
readings drawn stay drawn, and the event log is not the database's. -/
def Store.rolledBack (found left : Store) : Store :=
  { found with
    events := left.events
    draws := left.draws
    ticks := left.ticks }

/-- `with session_scope() as session:` commit, or roll back and
re-raise. -/
def sessionScope {α : Type} (body : Session α) (store : Store) :
    Except Exc α × Store :=
  Work.scope Store.rolledBack body store

/-- `uuid4` behind a label. -/
def Session.freshId (env : Env) (label : String) : Session String :=
  Work.call fun store => (.ok (env.freshId label store), store.drawn)

/-- `datetime.now(UTC)`. -/
def Session.clock (env : Env) : Session DateTime :=
  Work.call fun store => (.ok (env.clock store), store.ticked)

@[simp] theorem Session.exec_freshId (env : Env) (label : String)
    (store : Store) : (Session.freshId env label).exec store
      = (.ok (env.freshId label store), store.drawn) := rfl

@[simp] theorem Session.exec_clock (env : Env) (store : Store) :
    (Session.clock env).exec store
      = (.ok (env.clock store), store.ticked) := rfl

/-- `write_audit(session, ...)`. -/
def Session.writeAudit (env : Env) (actorId action resourceType
    resourceId : String) (householdId : Option String)
    (details : List (String × String)) : Session Unit :=
  modify fun store => Warehouse.writeAudit env store actorId action
    resourceType resourceId householdId details

end Warehouse
