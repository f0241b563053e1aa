import ConfigRollout.Proofs.LinkRequests
import ConfigRollout.Reconcile.Handler

/-!
# A reconcile reaches the store only through its operations

The reconciler is written once, for every monad with a store and an event sink. A map between
two such monads that keeps `pure` and `bind` (`MonadMap`) therefore carries each of its
functions in one monad to the same function in the other, as soon as it keeps the operations
that function uses: the reads for the children (`map_existingChildren`, `map_currentChildren`),
the config writes and events for the links (`map_updateLinks`), and all of them, with the
refusals made in advance, for a whole reconcile (`map_handleWorkload`).

A store that watches another and forgets what it saw is compared with that other store this way.
-/

set_option autoImplicit false

namespace ConfigRollout.Reconcile

/-- A map from the computations of one monad to those of another that keeps `pure` and `bind`. -/
structure MonadMap (m n : Type → Type) [Monad m] [Monad n] where
  map : {α : Type} → m α → n α
  map_pure : ∀ {α : Type} (a : α), map (pure a) = pure a
  map_bind : ∀ {α β : Type} (x : m α) (f : α → m β), map (x >>= f) = map x >>= fun a => map (f a)

namespace MonadMap

variable {m n : Type → Type} [Monad m] [Monad n] (F : MonadMap m n)

/-- A map of monads goes inside a branch on a decided condition. -/
@[simp] theorem map_ite {α : Type} (c : Prop) [Decidable c] (x y : m α) :
    F.map (if c then x else y) = if c then F.map x else F.map y := by
  split <;> rfl

/-- The map on computations that may fail, applied to what they answer. -/
def except (ε : Type) : MonadMap (ExceptT ε m) (ExceptT ε n) where
  map x := ExceptT.mk (F.map x.run)
  map_pure a := congrArg ExceptT.mk (F.map_pure (Except.ok a))
  map_bind x f := by
    apply ExceptT.ext
    simp only [ExceptT.run_bind, ExceptT.run_mk, F.map_bind]
    congr 1
    funext r
    cases r with
    | ok a => rfl
    | error e => exact F.map_pure _

@[simp] theorem except_map_mk {ε α : Type} (x : m (Except ε α)) :
    (F.except ε).map (ExceptT.mk x) = ExceptT.mk (F.map x) := rfl

/-- Lifted to computations that may fail, a map of monads keeps a failure. -/
@[simp] theorem except_map_throw {ε α : Type} (e : ε) : (F.except ε).map (throw e : ExceptT ε m α) = throw e :=
  congrArg ExceptT.mk (F.map_pure (Except.error e))

section Store

variable [ObjectStore m] [ObjectStore n]

/-- A map that keeps the lists of config objects keeps the search for a workload's children of one
kind. -/
theorem map_ownedOfKind (hlist : ∀ k ns, F.map (ObjectStore.listConfigs k ns) = ObjectStore.listConfigs k ns)
    (ns owner : String) (kind : WorkloadKind) (k : ConfigKind) :
    F.map (ownedOfKind ns owner kind k) = ownedOfKind ns owner kind k := by
  simp only [ownedOfKind, F.map_bind, hlist]
  congr 1
  funext r
  cases r <;> exact F.map_pure _

/-- A map that keeps the gets of config objects keeps the fetch of one child. -/
theorem map_fetchChild (hget : ∀ k ns name, F.map (ObjectStore.getConfig k ns name) = ObjectStore.getConfig k ns name)
    (ns : String) (use : ConfigKind × String × RefSpec) :
    F.map (fetchChild ns use) = fetchChild ns use := by
  simp only [fetchChild, F.map_bind, hget]
  congr 1
  funext r
  rcases r with e | _ | o <;> exact F.map_pure _

/-- A map that keeps the workload writes keeps the write of a workload's desired state. -/
theorem map_writeWorkload (hupdate : ∀ w, F.map (ObjectStore.updateWorkload w) = ObjectStore.updateWorkload w)
    (d : Workload) : F.map (writeWorkload d) = writeWorkload d := by
  simp only [writeWorkload, F.map_bind, hupdate]
  congr 1
  funext r
  cases r <;> exact F.map_pure _

variable [EventSink m] [EventSink n]

/-- A map that keeps the config writes and the events keeps the edit of one child and the event that
follows it. -/
theorem map_sendEdit (hupdate : ∀ o, F.map (ObjectStore.updateConfig o) = ObjectStore.updateConfig o)
    (hpublish : ∀ ref reason note, F.map (EventSink.publish ref reason note) = EventSink.publish ref reason note)
    (edit : ConfigObject → ConfigObject) (reason note : String) (c : ConfigObject) :
    F.map (sendEdit edit reason note c) = sendEdit edit reason note c := by
  simp only [sendEdit, F.map_bind, hupdate]
  congr 1
  funext r
  cases r <;> simp only [F.map_bind, F.map_pure, hpublish]

/-- The map keeps every operation a reconcile of a workload uses, and every refusal made in
advance. -/
structure KeepsStore (F : MonadMap m n) : Prop where
  getConfig : ∀ k ns name, F.map (ObjectStore.getConfig k ns name) = ObjectStore.getConfig k ns name
  listConfigs : ∀ k ns, F.map (ObjectStore.listConfigs k ns) = ObjectStore.listConfigs k ns
  updateConfig : ∀ o, F.map (ObjectStore.updateConfig o) = ObjectStore.updateConfig o
  updateWorkload : ∀ w, F.map (ObjectStore.updateWorkload w) = ObjectStore.updateWorkload w
  publish : ∀ ref reason note, F.map (EventSink.publish ref reason note) = EventSink.publish ref reason note
  refusesGet : ∀ k ns name, ObjectStore.refusesGet m k ns name = ObjectStore.refusesGet n k ns name
  refusesList : ∀ k ns, ObjectStore.refusesList m k ns = ObjectStore.refusesList n k ns

variable {F} in
/-- Two monads that refuse the same lists refuse the same namespaces in advance. -/
theorem KeepsStore.listsRefused_eq (hF : F.KeepsStore) (ns : String) : listsRefused m ns = listsRefused n ns := by
  simp only [listsRefused, hF.refusesList]

variable {F} in
/-- Two monads that refuse the same gets refuse the same fetches of children in advance. -/
theorem KeepsStore.fetchesRefused_eq (hF : F.KeepsStore) (ns : String) (refs : References) :
    fetchesRefused m ns refs = fetchesRefused n ns refs := by
  simp only [fetchesRefused, hF.refusesGet]

end Store

variable [LawfulMonad m] [LawfulMonad n]

/-- A map of monads goes inside `mapM`: mapping a fan-out maps each of its computations. -/
theorem map_mapM {α β : Type} (f : α → m β) (l : List α) :
    F.map (l.mapM f) = l.mapM (fun a => F.map (f a)) := by
  induction l with
  | nil => exact F.map_pure []
  | cons a l ih =>
      rw [List.mapM_cons, List.mapM_cons, F.map_bind]
      congr 1
      funext b
      rw [F.map_bind, ih]
      congr 1
      funext bs
      exact F.map_pure _

variable [ObjectStore m] [ObjectStore n]

/-- A map that keeps the lists keeps the gathering of the existing children. -/
theorem map_existingChildren (hlist : ∀ k ns, F.map (ObjectStore.listConfigs k ns) = ObjectStore.listConfigs k ns)
    (ns owner : String) (kind : WorkloadKind) :
    F.map (existingChildren ns owner kind) = existingChildren ns owner kind := by
  simp only [existingChildren, F.map_bind, F.map_mapM, F.map_ownedOfKind hlist, F.map_pure]

/-- A map that keeps the gets keeps the gathering of the current children. -/
theorem map_currentChildren (hget : ∀ k ns name, F.map (ObjectStore.getConfig k ns name) = ObjectStore.getConfig k ns name)
    (ns : String) (refs : References) :
    F.map (currentChildren ns refs) = currentChildren ns refs := by
  simp only [currentChildren, F.map_bind, F.map_mapM, F.map_fetchChild hget, F.map_pure]

variable [EventSink m] [EventSink n]

section Writes

variable (hupdate : ∀ o, F.map (ObjectStore.updateConfig o) = ObjectStore.updateConfig o)
  (hpublish : ∀ ref reason note, F.map (EventSink.publish ref reason note) = EventSink.publish ref reason note)

include hupdate hpublish

/-- A map that keeps the config writes and the events keeps the unlinking of children. -/
theorem map_removeLinks (owner : String) (children : List ConfigObject) :
    F.map (removeLinks owner children) = removeLinks owner children := by
  simp only [removeLinks_eq_unlinkRequests, unlinkRequests, sendUnlink, F.map_bind, F.map_mapM,
    F.map_sendEdit hupdate hpublish, F.map_pure]

/-- A map that keeps the config writes and the events keeps the link phase of an active reconcile,
the unlinking of the orphans included. -/
theorem map_updateLinks (owner : String) (kind : WorkloadKind) (existing : List ConfigObject)
    (current : List Binding) :
    F.map (updateLinks owner kind existing current) = updateLinks owner kind existing current := by
  simp only [updateLinks_eq_linkRequests, linkRequests, sendLink, F.map_bind, F.map_mapM,
    F.map_sendEdit hupdate hpublish]
  congr 1
  funext answers
  split
  · simp only [← removeLinks_eq_unlinkRequests, F.map_removeLinks hupdate hpublish]
  · exact F.map_pure _

end Writes

variable {F}

/-- A map that keeps the store's operations, its events and its refusals in advance keeps an active
reconcile. -/
theorem KeepsStore.map_handleActive (hF : F.KeepsStore) (w : Workload) :
    (F.except RollError).map (handleActive w) = handleActive w := by
  simp only [handleActive, (F.except RollError).map_bind, except_map_mk, F.map_pure]
  congr 1
  funext ns
  rw [← hF.listsRefused_eq ns, ← hF.fetchesRefused_eq ns w.references]
  -- with the refusals made in advance the same on both sides, every step maps to itself
  cases listsRefused m ns <;> cases fetchesRefused m ns w.references <;>
    simp only [(F.except RollError).map_bind, (F.except RollError).map_pure, except_map_throw, except_map_mk,
      map_ite, F.map_existingChildren hF.listConfigs, F.map_currentChildren hF.getConfig,
      F.map_updateLinks hF.updateConfig hF.publish, F.map_writeWorkload hF.updateWorkload]

/-- A map that keeps the store's operations, its events and its refusals in advance keeps a deleting
reconcile. -/
theorem KeepsStore.map_handleDeleting (hF : F.KeepsStore) (w : Workload) :
    (F.except RollError).map (handleDeleting w) = handleDeleting w := by
  simp only [handleDeleting, (F.except RollError).map_bind, (F.except RollError).map_pure, except_map_mk,
    F.map_pure, map_ite, F.map_existingChildren hF.listConfigs, F.map_removeLinks hF.updateConfig hF.publish,
    F.map_writeWorkload hF.updateWorkload]

/-- A map of monads that keeps the store's operations, its events and its refusals in advance
carries a reconcile of any workload in one monad to the same reconcile in the other. -/
theorem KeepsStore.map_handleWorkload (hF : F.KeepsStore) (w : Workload) :
    F.map (handleWorkload w) = handleWorkload w := by
  unfold handleWorkload
  split
  · exact F.map_pure _
  · exact congrArg ExceptT.run (hF.map_handleActive w)
  · exact congrArg ExceptT.run (hF.map_handleDeleting w)

end MonadMap

end ConfigRollout.Reconcile
