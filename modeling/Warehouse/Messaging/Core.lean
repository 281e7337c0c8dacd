/-
Fire-and-forget events (`messaging/core.py`).

An event is in the log before anybody hears of it. What a subscriber does to
the store is the environment's to say; its exception is swallowed, so the
emitter goes on. Requests and commands are routed in `Messaging.Handlers`
and `Messaging.Catalog`.
-/
import Warehouse.Infra.Db

namespace Warehouse

/-- Fan a past-tense EVENT to its subscribers: it is recorded first, and a
subscriber's exception never reaches the emitter. -/
def emitEvent (env : Env) (store : Store) (event : Event) : Store :=
  (env.subscribers event.op).foldl (fun store subscriber =>
    subscriber.react store event)
    { store with events := store.events ++ [event] }

end Warehouse
