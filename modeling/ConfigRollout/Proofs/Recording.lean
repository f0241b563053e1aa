import Mathlib.Control.Monad.Writer
import Mathlib.Algebra.FreeMonoid.Basic
import ConfigRollout.Proofs.Naturality
import ConfigRollout.Proofs.Children

/-!
# The in-memory store with its write requests recorded

`Recording` runs a computation over the in-memory store and notes, in order, every write request
the store receives: the key of the config object or workload it replaces. Reads and events pass
through and are noted by nothing. The notes are a writer beside the store's state, so forgetting
them is a map of monads that keeps every operation of the store (`Recording.erase_keepsStore`),
and a reconcile run under the recorder answers and changes the store exactly as it does without
(`Recording.erase_handleWorkload`).

`requestsFrom x s` is what `x` sends from the store `s`. `SendsWithin x L` bounds it for every
store: `x` sends some of the requests of `L`, in their order. Bounds add up along `bind` and
`mapM`, as costs do for a charged computation.
-/

set_option autoImplicit false

namespace ConfigRollout

open Reconcile
open scoped List

/-- A write request as the store receives it: the key of the object it replaces. -/
inductive WriteRequest where
  | config (key : ConfigKey)
  | workload (key : WorkloadKey)
  deriving DecidableEq, Repr

namespace WriteRequest

/-- The config object a request writes, if it writes one. -/
def configKey? : WriteRequest → Option ConfigKey
  | config k => some k
  | workload _ => none

/-- The workload a request writes, if it writes one. -/
def workloadKey? : WriteRequest → Option WorkloadKey
  | config _ => none
  | workload k => some k

@[simp] theorem configKey?_config (k : ConfigKey) : (config k).configKey? = some k := rfl

@[simp] theorem configKey?_workload (k : WorkloadKey) : (workload k).configKey? = none := rfl

@[simp] theorem workloadKey?_config (k : ConfigKey) : (config k).workloadKey? = none := rfl

@[simp] theorem workloadKey?_workload (k : WorkloadKey) : (workload k).workloadKey? = some k := rfl

/-- The config keys of writes of config objects are the objects' keys. -/
theorem filterMap_configKey?_map_config (cs : List ConfigObject) :
    (cs.map fun c => config c.key).filterMap configKey? = cs.map ConfigObject.key := by
  simp [List.filterMap_map, Function.comp_def]

/-- Writes of config objects write no workload. -/
theorem filterMap_workloadKey?_map_config (cs : List ConfigObject) :
    (cs.map fun c => config c.key).filterMap workloadKey? = [] := by
  simp [List.filterMap_map, Function.comp_def]

end WriteRequest

/-- The in-memory store, with every write request it receives noted in order. -/
abbrev Recording := WriterT (FreeMonoid WriteRequest) (StateM MemoryStore)

namespace Recording

variable {α β : Type}

/-- A computation of the store that sends no write request. -/
def quiet (x : StateM MemoryStore α) : Recording α :=
  WriterT.mk ((·, 1) <$> x)

/-- A computation of the store that sends one write request. -/
def sends (r : WriteRequest) (x : StateM MemoryStore α) : Recording α :=
  WriterT.mk ((·, FreeMonoid.of r) <$> x)

end Recording

/-- The store under the recorder: reads pass through unnoted, and each write is noted by its key. -/
instance : ObjectStore Recording where
  getWorkload kind ns name := Recording.quiet (ObjectStore.getWorkload kind ns name)
  updateWorkload w := Recording.sends (.workload w.key) (ObjectStore.updateWorkload w)
  getConfig kind ns name := Recording.quiet (ObjectStore.getConfig kind ns name)
  listConfigs kind ns := Recording.quiet (ObjectStore.listConfigs kind ns)
  updateConfig o := Recording.sends (.config o.key) (ObjectStore.updateConfig o)

/-- Events under the recorder pass through unnoted. -/
instance : EventSink Recording where
  publish ref reason note := Recording.quiet (EventSink.publish ref reason note)

namespace Recording

variable {α β : Type}

/-- Forgetting the notes. -/
def erase : MonadMap Recording (StateM MemoryStore) where
  map x := Prod.fst <$> x.run
  map_pure a := by simp [WriterT.run_pure]
  map_bind x f := by simp [WriterT.run_bind]

/-- Running a computation of the store with nothing noted. -/
def quietly : MonadMap (StateM MemoryStore) Recording where
  map := quiet
  map_pure a := by
    apply WriterT.ext
    simp [quiet]
  map_bind x f := by
    apply WriterT.ext
    simp [quiet, WriterT.run_bind]

/-- Forgetting the notes of a computation that sends nothing gives the computation. -/
theorem erase_quiet (x : StateM MemoryStore α) : erase.map (quiet x) = x := by
  simp [erase, quiet]

/-- Forgetting the notes of a computation that sends one request gives the computation. -/
theorem erase_sends (r : WriteRequest) (x : StateM MemoryStore α) : erase.map (sends r x) = x := by
  simp [erase, sends]

/-- Forgetting the notes keeps every operation of the store, its events and its refusals. -/
theorem erase_keepsStore : erase.KeepsStore where
  getConfig _ _ _ := erase_quiet _
  listConfigs _ _ := erase_quiet _
  updateConfig _ := erase_sends _ _
  updateWorkload _ := erase_sends _ _
  publish _ _ _ := erase_quiet _
  refusesGet _ _ _ := rfl
  refusesList _ _ := rfl

/-- Under the recorder a reconcile answers, and leaves the store, as it does without. -/
theorem erase_handleWorkload (w : Workload) :
    Prod.fst <$> (handleWorkload w : Recording _).run = handleWorkload w :=
  erase_keepsStore.map_handleWorkload w

/-- Gathering the existing children sends nothing. -/
theorem quiet_existingChildren (ns owner : String) (kind : WorkloadKind) :
    quiet (existingChildren ns owner kind) = (existingChildren ns owner kind : Recording _) :=
  quietly.map_existingChildren (fun _ _ => rfl) ns owner kind

/-- Fetching the current children sends nothing. -/
theorem quiet_currentChildren (ns : String) (refs : References) :
    quiet (currentChildren ns refs) = (currentChildren ns refs : Recording _) :=
  quietly.map_currentChildren (fun _ _ _ => rfl) ns refs

/-- The recorder refuses no namespace in advance, as the in-memory store does not. -/
@[simp] theorem listsRefused_recording (ns : String) : listsRefused Recording ns = none :=
  (erase_keepsStore.listsRefused_eq ns).trans (listsRefused_memory ns)

/-- The recorder refuses no fetch of children in advance, as the in-memory store does not. -/
@[simp] theorem fetchesRefused_recording (ns : String) (refs : References) :
    fetchesRefused Recording ns refs = none :=
  (erase_keepsStore.fetchesRefused_eq ns refs).trans (fetchesRefused_memory ns refs)

/-! ## What a computation sends -/

/-- The write requests a recorded computation sends from a store, in order. -/
def requestsFrom (x : Recording α) (s : MemoryStore) : List WriteRequest :=
  FreeMonoid.toList (x.run.run s).1.2

/-- A sequence sends what its first part sends, then what the rest sends from the store and answer
the first part leaves. -/
theorem requestsFrom_bind (x : Recording α) (f : α → Recording β) (s : MemoryStore) :
    requestsFrom (x >>= f) s = requestsFrom x s ++ requestsFrom (f (x.run.run s).1.1) (x.run.run s).2 :=
  rfl

/-- A computation that sends nothing adds nothing before the rest. -/
theorem requestsFrom_quiet_bind (x : StateM MemoryStore α) (f : α → Recording β) (s : MemoryStore) :
    requestsFrom (quiet x >>= f) s = requestsFrom (f (x.run s).1) (x.run s).2 :=
  rfl

/-- A read that leaves the store as it was sends nothing, and the rest goes on from its answer. -/
theorem requestsFrom_read_bind {x : StateM MemoryStore α} {a : α} {s : MemoryStore} (hx : x.run s = pure (a, s))
    (f : α → Recording β) : requestsFrom (quiet x >>= f) s = requestsFrom (f a) s := by
  rw [requestsFrom_quiet_bind, hx]
  rfl

/-- A recorded computation sends, from every store, some of the listed requests, in their
order. -/
def SendsWithin (x : Recording α) (L : List WriteRequest) : Prop :=
  ∀ s, requestsFrom x s <+ L

/-- An answer with no computation sends nothing. -/
theorem sendsWithin_pure (a : α) (L : List WriteRequest) : SendsWithin (pure a : Recording α) L :=
  fun _ => List.nil_sublist L

/-- A computation of the store with nothing noted sends nothing. -/
theorem sendsWithin_quiet (x : StateM MemoryStore α) (L : List WriteRequest) : SendsWithin (quiet x) L :=
  fun _ => List.nil_sublist L

/-- A computation that sends one request sends at most that one. -/
theorem sendsWithin_sends (r : WriteRequest) (x : StateM MemoryStore α) : SendsWithin (sends r x) [r] :=
  fun _ => List.Sublist.refl _

/-- A bound on the requests holds for every longer list that keeps it in order. -/
theorem SendsWithin.mono {x : Recording α} {L L' : List WriteRequest} (h : SendsWithin x L) (hL : L <+ L') :
    SendsWithin x L' :=
  fun s => (h s).trans hL

/-- The bounds of the two parts of a sequence add up, in order. -/
theorem SendsWithin.bind {x : Recording α} {f : α → Recording β} {L₁ L₂ : List WriteRequest}
    (hx : SendsWithin x L₁) (hf : ∀ a, SendsWithin (f a) L₂) : SendsWithin (x >>= f) (L₁ ++ L₂) := by
  intro s
  rw [requestsFrom_bind]
  exact (hx s).append (hf _ _)

/-- A fan-out of computations that each send at most their one request sends at most those, in
the order of the inputs. -/
theorem sendsWithin_mapM (f : α → Recording β) (g : α → WriteRequest) (hf : ∀ a, SendsWithin (f a) [g a])
    (l : List α) : SendsWithin (l.mapM f) (l.map g) := by
  induction l with
  | nil => exact sendsWithin_pure [] []
  | cons a l ih =>
      have h := (hf a).bind fun b => ih.bind fun bs => sendsWithin_pure (b :: bs) []
      rw [List.mapM_cons, List.map_cons]
      simpa using h

end Recording

end ConfigRollout
