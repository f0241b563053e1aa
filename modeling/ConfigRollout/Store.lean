import ConfigRollout.Object.Workload
import ConfigRollout.Object.Config
import ConfigRollout.Error

/-!
# Where objects are kept

The reconciler reads and writes objects through `ObjectStore` and tells what it did through
`EventSink`. Both are classes over the monad in which the store lives: an in-memory store with
injected failures, or an API server spoken to by requests. Every operation answers with its
result or a `RollError`; a failure to publish an event is never reported.

Reading a missing object answers `none`, not an error. A write names the object by the
metadata of the object written.

A store may refuse a read or a list before it sends anything, when the request cannot be
made at all. `refusesGet` and `refusesList` tell that failure in advance, without running the
monad, so that the reconciler can tell which of its concurrent reads finish at once; the
in-memory store refuses nothing.
-/

set_option autoImplicit false

namespace ConfigRollout

/-- The operations on stored workloads and config objects. -/
class ObjectStore (m : Type → Type) where
  /-- The workload of a kind, namespace and name. -/
  getWorkload : WorkloadKind → String → String → m (Except RollError (Option Workload))
  /-- Replaces a stored workload, answering the stored result. -/
  updateWorkload : Workload → m (Except RollError Workload)
  /-- The config object of a kind, namespace and name. -/
  getConfig : ConfigKind → String → String → m (Except RollError (Option ConfigObject))
  /-- Every config object of a kind in a namespace. -/
  listConfigs : ConfigKind → String → m (Except RollError (List ConfigObject))
  /-- Replaces a stored config object, answering the stored result. -/
  updateConfig : ConfigObject → m (Except RollError ConfigObject)
  /-- The failure a read of a config object meets before anything is sent, if any. -/
  refusesGet : ConfigKind → String → String → Option RollError := fun _ _ _ => none
  /-- The failure a list of config objects meets before anything is sent, if any. -/
  refusesList : ConfigKind → String → Option RollError := fun _ _ => none

/-- Where the reconciler reports the links it adds and removes. -/
class EventSink (m : Type → Type) where
  /-- Publishes an event about an object: the object, a reason and a note. -/
  publish : ObjectRef → String → String → m Unit

end ConfigRollout
