import ConfigRollout.Store
import ConfigRollout.Fingerprint
import ConfigRollout.Ownership.Link

/-!
# The children of a workload

A workload's *current* children are the objects its pod template uses, fetched one by one in
reference order (ConfigMaps by name, then Secrets by name). Fetching is all or nothing: every
use is fetched, and the result is the list of found objects with their uses unless some fetch
failed or a required object is missing; then every such failure is reported, in order. A
missing object that is not required is left out silently.

Its *existing* children are the objects of its namespace that carry a link it owns, listed
ConfigMaps first, then Secrets. Both lists are made; a failed list is reported under the
namespace.

The two are gathered concurrently, the lists first, and the first to fail ends both. A store
may refuse a request before sending it (`ObjectStore.refusesGet`, `ObjectStore.refusesList`);
the lists fail at once when every list is refused (`listsRefused`), and the fetches when there
is a use and every fetch is refused (`fetchesRefused`). Otherwise the lists are answered first.

Main statement: `collect` finds no failure exactly when every fetch succeeded
(`collect_fst_nil_iff`).
-/

set_option autoImplicit false

namespace ConfigRollout.Reconcile

/-- The failures and the found bindings of a list of fetch results, each in order. -/
def collect : List (Except ChildError (Option Binding)) → List ChildError × List Binding
  | [] => ([], [])
  | .error e :: rest => (e :: (collect rest).1, (collect rest).2)
  | .ok (some b) :: rest => ((collect rest).1, b :: (collect rest).2)
  | .ok none :: rest => collect rest

/-- The failures and the lists of the successful ones, each in order. -/
def splitResults {α : Type} : List (Except ChildError α) → List ChildError × List α
  | [] => ([], [])
  | .error e :: rest => (e :: (splitResults rest).1, (splitResults rest).2)
  | .ok a :: rest => ((splitResults rest).1, a :: (splitResults rest).2)

variable {m : Type → Type} [Monad m] [ObjectStore m]

/-- Fetches one used object: the binding when found, nothing when missing and not required,
and a child failure otherwise. -/
def fetchChild (ns : String) (use : ConfigKind × String × RefSpec) :
    m (Except ChildError (Option Binding)) := do
  let (kind, name, spec) := use
  match ← ObjectStore.getConfig kind ns name with
  | .ok (some o) => pure (.ok (some { object := o, spec := spec }))
  | .ok none =>
    pure (if spec.required then .error (.mk kind.name name (.notFound kind.name ns name)) else .ok none)
  | .error e => pure (.error (.mk kind.name name e))

/-- The current children: every used object that exists, with its use, in reference order. -/
def currentChildren (ns : String) (refs : References) : m (Except RollError (List Binding)) := do
  let results ← refs.toList.mapM (fetchChild ns)
  let (errors, found) := collect results
  pure (if errors.isEmpty then .ok found else .error (.fetchChildren errors))

/-- The objects of one kind in a namespace whose link a workload owns. -/
def ownedOfKind (ns owner : String) (kind : WorkloadKind) (k : ConfigKind) :
    m (Except ChildError (List ConfigObject)) := do
  match ← ObjectStore.listConfigs k ns with
  | .ok objects => pure (.ok (objects.filter (fun o => o.ownsLink owner kind.name)))
  | .error e => pure (.error (.mk k.name ns e))

/-- The existing children: the objects of the namespace whose link the workload owns,
ConfigMaps first. -/
def existingChildren (ns owner : String) (kind : WorkloadKind) :
    m (Except RollError (List ConfigObject)) := do
  let results ← ConfigKind.all.mapM (ownedOfKind ns owner kind)
  let (errors, lists) := splitResults results
  pure (if errors.isEmpty then .ok lists.flatten else .error (.listChildren errors))

/-- The failure of listing the existing children at once: every list refused before it is
sent, each reported under the namespace. -/
def listsRefused (m : Type → Type) [ObjectStore m] (ns : String) : Option RollError :=
  (ConfigKind.all.mapM (fun k =>
    (@ObjectStore.refusesList m _ k ns).map (ChildError.mk k.name ns))).map .listChildren

/-- The failure of fetching the current children at once: a use, and every fetch refused
before it is sent, each reported under its object. -/
def fetchesRefused (m : Type → Type) [ObjectStore m] (ns : String) (refs : References) :
    Option RollError :=
  match refs.toList with
  | [] => none
  | uses =>
    (uses.mapM (fun (use : ConfigKind × String × RefSpec) =>
      (@ObjectStore.refusesGet m _ use.1 ns use.2.1).map (ChildError.mk use.1.name use.2.1))).map
        .fetchChildren

/-- Collecting answers gives no failure exactly when every answer is a success. -/
theorem collect_fst_nil_iff (rs : List (Except ChildError (Option Binding))) :
    (collect rs).1 = [] ↔ ∀ r ∈ rs, ∃ v, r = .ok v := by
  induction rs with
  | nil => simp [collect]
  | cons r rest ih =>
    rcases r with e | (_ | b) <;> simp [collect, ih]

end ConfigRollout.Reconcile
