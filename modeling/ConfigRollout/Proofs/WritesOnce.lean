import ConfigRollout.Proofs.Recording
import ConfigRollout.Proofs.Outcomes

/-!
# One reconcile writes each object at most once

Run under the recorder of `Recording`, a reconcile sends its writes in two phases and then the
workload: a link for each current child without a valid link, an unlink for each orphan that
carries the owner's link key (`MemoryStore.activeWrites`); or, for a deleting workload, an
unlink for each owned object with the key (`MemoryStore.deletingWrites`). Each phase writes a
child at most once, and on a well-formed store no orphan is a current child: the store keeps
one object under a key, and an orphan has the identity of no current child
(`WellFormed.key_ne_of_current_of_orphan`).

So no write of a run meets an object that the run itself wrote before. The only refusals of
child writes are then the store's injected failures (`InjectedRefusals`), never a conflict.

Main statement: `handleWorkload_writes_once`.
-/

set_option autoImplicit false

namespace ConfigRollout

open Reconcile Recording
open scoped List

/-! ## The writes of each part of a reconcile -/

section Parts

/-- An edit of one child sends at most its one write; the event after an accepted write sends
nothing. -/
theorem sendsWithin_sendEdit (edit : ConfigObject → ConfigObject) (reason note : String) (c : ConfigObject) :
    SendsWithin (sendEdit edit reason note c : Recording _) [.config (edit c).key] := by
  unfold sendEdit
  refine ((sendsWithin_sends _ _).bind fun r => (?_ : SendsWithin _ [])).mono (by simp)
  -- the event that follows an accepted write sends nothing
  cases r with
  | error e =>
      dsimp only
      exact sendsWithin_pure _ _
  | ok o =>
      dsimp only
      exact ((sendsWithin_quiet _ []).bind fun _ => sendsWithin_pure _ []).mono (by simp)

/-- Unlinking sends at most one write per child that carries the owner's link key, in order. -/
theorem sendsWithin_unlinkRequests (owner : String) (children : List ConfigObject) :
    SendsWithin (unlinkRequests owner children : Recording _)
      ((unlinkTargets owner children).map fun c => .config c.key) := by
  have hsend : ∀ c, SendsWithin (sendUnlink owner c : Recording _) [.config c.key] := by
    intro c
    simpa [sendUnlink] using sendsWithin_sendEdit (·.removeOwnerLink owner) removeWatchReason "Removing watch for " c
  unfold unlinkRequests
  exact ((sendsWithin_mapM _ _ hsend _).bind fun _ => sendsWithin_pure _ []).mono (by simp)

/-- Linking sends at most one write per current child without a valid link, then, when every such
write was accepted, at most one per orphan with the link key, in order. -/
theorem sendsWithin_linkRequests (owner : String) (kind : WorkloadKind) (existing : List ConfigObject)
    (current : List Binding) :
    SendsWithin (linkRequests owner kind existing current : Recording _)
      ((linkTargets owner current ++ unlinkTargets owner (orphans existing current)).map fun c => .config c.key) := by
  have hsend : ∀ c, SendsWithin (sendLink owner kind c : Recording _) [.config c.key] := by
    intro c
    simpa [sendLink] using sendsWithin_sendEdit (·.setOwnerLink owner kind.name) addWatchReason "Adding watch for " c
  unfold linkRequests
  rw [List.map_append]
  refine (sendsWithin_mapM _ _ hsend _).bind fun answers => ?_
  dsimp only
  split
  · exact sendsWithin_unlinkRequests owner _
  · exact sendsWithin_pure _ _

/-- The link phase of an active reconcile sends at most the writes of `linkRequests`, in order. -/
theorem sendsWithin_updateLinks (owner : String) (kind : WorkloadKind) (existing : List ConfigObject)
    (current : List Binding) :
    SendsWithin (updateLinks owner kind existing current : Recording _)
      ((linkTargets owner current ++ unlinkTargets owner (orphans existing current)).map fun c => .config c.key) := by
  rw [updateLinks_eq_linkRequests]
  exact sendsWithin_linkRequests owner kind existing current

/-- The unlink phase of a deleting reconcile sends at most one write per owned child with the link
key, in order. -/
theorem sendsWithin_removeLinks (owner : String) (children : List ConfigObject) :
    SendsWithin (removeLinks owner children : Recording _)
      ((unlinkTargets owner children).map fun c => .config c.key) := by
  rw [removeLinks_eq_unlinkRequests]
  exact sendsWithin_unlinkRequests owner children

/-- Writing a workload sends at most its one write. -/
theorem sendsWithin_writeWorkload (d : Workload) :
    SendsWithin (writeWorkload d : Recording _) [.workload d.key] := by
  unfold writeWorkload
  refine ((sendsWithin_sends _ _).bind fun r => (?_ : SendsWithin _ [])).mono (by simp)
  cases r with
  | error e => exact sendsWithin_pure _ _
  | ok o => exact sendsWithin_pure _ _

end Parts

/-! ## The writes of a reconcile -/

namespace MemoryStore

/-- The writes an active reconcile may send from a store, in order: a link for each current
child without a valid link of the workload, an unlink for each orphan with its link key, then
the workload. -/
def activeWrites (s : MemoryStore) (w : Workload) : List WriteRequest :=
  ((s.currentOf w).filter (!·.hasOwnerLink w.metadata.nameAny) ++
      (s.orphansOf w).filter (·.hasLinkKey w.metadata.nameAny)).map (fun c => .config c.key) ++
    [.workload w.key]

/-- The writes a deleting reconcile may send from a store, in order: an unlink for each owned
object with the workload's link key, then the workload. -/
def deletingWrites (s : MemoryStore) (w : Workload) : List WriteRequest :=
  ((s.ownedOf w).filter (·.hasLinkKey w.metadata.nameAny)).map (fun c => .config c.key) ++ [.workload w.key]

end MemoryStore

/-- From every store, an active reconcile sends some of `activeWrites`, in their order. -/
theorem requestsFrom_handleActive (s : MemoryStore) (w : Workload) :
    requestsFrom (handleActive w).run s <+ s.activeWrites w := by
  cases hns : w.metadata.ns with
  | none =>
      simp only [handleActive, requireNamespace, hns, ExceptT.run_bind, ExceptT.run_mk, pure_bind]
      exact List.nil_sublist _
  | some ns =>
      have hnsE := nsOrEmpty_of_ns hns
      subst hnsE
      simp only [handleActive, requireNamespace, hns, ExceptT.run_bind, ExceptT.run_mk, listsRefused_recording,
        fetchesRefused_recording, ← quiet_existingChildren, ← quiet_currentChildren, pure_bind]
      -- the reads send nothing and leave the store as it was
      rw [requestsFrom_read_bind (existingChildren_run s _ _ _)]
      cases he : s.existingAnswer w.metadata.nsOrEmpty w.metadata.nameAny w.kind with
      | error e => exact List.nil_sublist _
      | ok existing =>
          dsimp only
          rw [requestsFrom_read_bind (currentChildren_run s _ _)]
          cases hc : s.currentAnswer w.metadata.nsOrEmpty w.references with
          | error e => exact List.nil_sublist _
          | ok current =>
              obtain ⟨-, rfl⟩ := (MemoryStore.existingAnswer_eq_ok_iff _ _ _ _).mp he
              obtain ⟨-, rfl⟩ := (MemoryStore.currentAnswer_eq_ok_iff _ _ _).mp hc
              dsimp only
              refine ((sendsWithin_updateLinks _ _ _ _).bind fun r => (?_ : SendsWithin _ [.workload w.key]) :) s
              cases r with
              | error e => exact sendsWithin_pure _ _
              | ok u =>
                  dsimp only
                  split
                  · exact sendsWithin_pure _ _
                  · simpa using sendsWithin_writeWorkload (Workload.desired w _)

/-- From every store, a deleting reconcile sends some of `deletingWrites`, in their order. -/
theorem requestsFrom_handleDeleting (s : MemoryStore) (w : Workload) :
    requestsFrom (handleDeleting w).run s <+ s.deletingWrites w := by
  cases hns : w.metadata.ns with
  | none =>
      simp only [handleDeleting, requireNamespace, hns, ExceptT.run_bind, ExceptT.run_mk, pure_bind]
      exact List.nil_sublist _
  | some ns =>
      have hnsE := nsOrEmpty_of_ns hns
      subst hnsE
      simp only [handleDeleting, requireNamespace, hns, ExceptT.run_bind, ExceptT.run_mk,
        ← quiet_existingChildren, pure_bind]
      rw [requestsFrom_read_bind (existingChildren_run s _ _ _)]
      cases he : s.existingAnswer w.metadata.nsOrEmpty w.metadata.nameAny w.kind with
      | error e => exact List.nil_sublist _
      | ok existing =>
          obtain ⟨-, rfl⟩ := (MemoryStore.existingAnswer_eq_ok_iff _ _ _ _).mp he
          dsimp only
          refine ((sendsWithin_removeLinks _ _).bind fun r => (?_ : SendsWithin _ [.workload w.key]) :) s
          cases r with
          | error e => exact sendsWithin_pure _ _
          | ok u =>
              dsimp only
              split
              · exact sendsWithin_pure _ _
              · simpa using sendsWithin_writeWorkload w.removeFinalizer

namespace MemoryStore

variable {s : MemoryStore} {w : Workload}

/-- A current child and an orphan are distinct stored objects. -/
theorem WellFormed.key_ne_of_current_of_orphan (hwf : s.WellFormed) {c e : ConfigObject} (hc : c ∈ s.currentOf w)
    (he : e ∈ s.orphansOf w) : c.key ≠ e.key := by
  intro hk
  have hnot := orphan_key_not_mem (fun e he => (hwf.mem_ownedBy_iff.mp he).1)
    (fun b hb => hwf.config?_of_mem_bindingsAt hb) he
  exact hnot (hk ▸ List.mem_map_of_mem hc)

/-- On a well-formed store the config writes an active reconcile may send have distinct keys: no
orphan is a current child. -/
theorem WellFormed.nodup_configKeys_activeWrites (hwf : s.WellFormed) :
    ((s.activeWrites w).filterMap WriteRequest.configKey?).Nodup := by
  simp only [activeWrites, List.map_append, List.filterMap_append, WriteRequest.filterMap_configKey?_map_config,
    List.filterMap_cons, WriteRequest.configKey?_workload, List.filterMap_nil, List.append_nil]
  rw [List.nodup_append]
  refine ⟨hwf.nodup_currentOf_keys.sublist (List.filter_sublist.map _),
    hwf.nodup_orphansOf_keys.sublist (List.filter_sublist.map _), ?_⟩
  intro a ha b hb
  obtain ⟨c, hc, rfl⟩ := List.mem_map.mp ha
  obtain ⟨e, he, rfl⟩ := List.mem_map.mp hb
  exact hwf.key_ne_of_current_of_orphan (List.mem_of_mem_filter hc) (List.mem_of_mem_filter he)

/-- On a well-formed store the config writes a deleting reconcile may send have distinct keys. -/
theorem WellFormed.nodup_configKeys_deletingWrites (hwf : s.WellFormed) :
    ((s.deletingWrites w).filterMap WriteRequest.configKey?).Nodup := by
  simp only [deletingWrites, List.filterMap_append, WriteRequest.filterMap_configKey?_map_config,
    List.filterMap_cons, WriteRequest.configKey?_workload, List.filterMap_nil, List.append_nil]
  exact (hwf.nodup_ownedBy_keys _ _ _).sublist (List.filter_sublist.map _)

/-- The only workload an active reconcile may write is its own. -/
theorem workloadKeys_activeWrites : (s.activeWrites w).filterMap WriteRequest.workloadKey? = [w.key] := by
  simp only [activeWrites, List.filterMap_append, WriteRequest.filterMap_workloadKey?_map_config, List.filterMap_cons,
    WriteRequest.workloadKey?_workload, List.filterMap_nil, List.nil_append]

/-- The only workload a deleting reconcile may write is its own. -/
theorem workloadKeys_deletingWrites : (s.deletingWrites w).filterMap WriteRequest.workloadKey? = [w.key] := by
  simp only [deletingWrites, List.filterMap_append, WriteRequest.filterMap_workloadKey?_map_config,
    List.filterMap_cons, WriteRequest.workloadKey?_workload, List.filterMap_nil, List.nil_append]

/-- Over a well-formed store, a reconcile sends no two writes of one config object, and no write
of a workload but one of its own. -/
theorem WellFormed.requests_handleWorkload (hwf : s.WellFormed) (w : Workload) :
    ((requestsFrom (handleWorkload w : Recording _) s).filterMap WriteRequest.configKey?).Nodup ∧
      (requestsFrom (handleWorkload w : Recording _) s).filterMap WriteRequest.workloadKey? <+ [w.key] := by
  cases hlc : w.lifecycle with
  | ignored =>
      rw [handleWorkload_of_ignored hlc]
      exact ⟨List.nodup_nil, List.nil_sublist _⟩
  | active =>
      rw [handleWorkload_of_active hlc]
      have h := requestsFrom_handleActive s w
      refine ⟨hwf.nodup_configKeys_activeWrites.sublist (h.filterMap _), ?_⟩
      rw [← workloadKeys_activeWrites (s := s)]
      exact h.filterMap _
  | deleting =>
      rw [handleWorkload_of_deleting hlc]
      have h := requestsFrom_handleDeleting s w
      refine ⟨hwf.nodup_configKeys_deletingWrites.sublist (h.filterMap _), ?_⟩
      rw [← workloadKeys_deletingWrites (s := s)]
      exact h.filterMap _

end MemoryStore

/-! ## Refused writes -/

/-- Every refused write of a child that an answer reports was refused by an injected failure of
the store. -/
def InjectedRefusals (r : Except RollError Unit) : Prop :=
  ∀ l, (r = .error (.updateChildren l) ∨ r = .error (.removeReferences l)) →
    ∀ ce ∈ l, ∃ c, ce = MemoryStore.injectedChildError c

/-- A successful answer reports no refused write. -/
theorem injectedRefusals_ok : InjectedRefusals (.ok ()) := by
  unfold InjectedRefusals
  intro l h
  simp at h

/-- An error that reports no refused child writes holds no refusal to account for. -/
theorem injectedRefusals_error {e : RollError} (hu : ∀ l, e ≠ .updateChildren l) (hr : ∀ l, e ≠ .removeReferences l) :
    InjectedRefusals (.error e) := by
  unfold InjectedRefusals
  rintro l (h | h)
  · exact absurd (Except.error.inj h) (hu l)
  · exact absurd (Except.error.inj h) (hr l)

/-- A list of refusals made by the store's injected failure is made of injected refusals only. -/
theorem injectedRefusals_injected {cs : List ConfigObject} {l : List ChildError}
    (h : l = cs.map MemoryStore.injectedChildError) : ∀ ce ∈ l, ∃ c, ce = MemoryStore.injectedChildError c := by
  intro ce hce
  rw [h] at hce
  obtain ⟨c, -, rfl⟩ := List.mem_map.mp hce
  exact ⟨c, rfl⟩

/-- A failure to link the children, reported from injected refusals, reports only those. -/
theorem injectedRefusals_updateChildren (cs : List ConfigObject) :
    InjectedRefusals (.error (.updateChildren (cs.map MemoryStore.injectedChildError))) := by
  unfold InjectedRefusals
  rintro l (h | h)
  · exact injectedRefusals_injected (by cases h; rfl)
  · cases h

/-- A failure to unlink the orphans, reported from injected refusals, reports only those. -/
theorem injectedRefusals_removeReferences (cs : List ConfigObject) :
    InjectedRefusals (.error (.removeReferences (cs.map MemoryStore.injectedChildError))) := by
  unfold InjectedRefusals
  rintro l (h | h)
  · cases h
  · exact injectedRefusals_injected (by cases h; rfl)

/-- A refused workload write is reported as a failed workload update. -/
theorem injectedRefusals_writeWorkload (s : MemoryStore) (d : Workload) :
    InjectedRefusals ((writeWorkload d : StateM MemoryStore _).run s).1 := by
  rcases writeWorkload_cases s d with hw | ⟨e, hw⟩ <;> rw [hw]
  · exact injectedRefusals_ok
  · exact injectedRefusals_error (fun _ => by simp) (fun _ => by simp)

namespace MemoryStore

variable {s : MemoryStore} {w : Workload}

/-- On a well-formed store, every refused child write an active reconcile reports was refused by an
injected failure. -/
theorem WellFormed.injectedRefusals_handleActive (hwf : s.WellFormed) :
    InjectedRefusals (((handleActive w).run : StateM MemoryStore _).run s).1 := by
  cases hns : w.metadata.ns with
  | none =>
      rw [handleActive_of_no_namespace w hns s]
      exact injectedRefusals_error (fun _ => by simp) (fun _ => by simp)
  | some ns =>
      by_cases hL : ∀ k, k ∉ s.failingLists
      · by_cases hF : s.Fetchable ns w.references
        · -- both reads answer: a refused link or unlink is an injected failure of its update
          rw [hwf.handleActive_run_of_reads hns hL hF]
          split_ifs
          · exact injectedRefusals_updateChildren _
          · exact injectedRefusals_removeReferences _
          · exact injectedRefusals_ok
          · exact injectedRefusals_writeWorkload _ _
        · obtain ⟨l, hl⟩ := handleActive_of_failed_fetch hns hL hF
          rw [hl]
          exact injectedRefusals_error (fun _ => by simp) (fun _ => by simp)
      · obtain ⟨k, hk⟩ := not_forall.mp hL
        obtain ⟨l, hl⟩ := handleActive_of_failed_list hns (not_not.mp hk)
        rw [hl]
        exact injectedRefusals_error (fun _ => by simp) (fun _ => by simp)

/-- On a well-formed store, every refused child write a deleting reconcile reports was refused by an
injected failure. -/
theorem WellFormed.injectedRefusals_handleDeleting (hwf : s.WellFormed) :
    InjectedRefusals (((handleDeleting w).run : StateM MemoryStore _).run s).1 := by
  cases hns : w.metadata.ns with
  | none =>
      rw [handleDeleting_of_no_namespace w hns s]
      exact injectedRefusals_error (fun _ => by simp) (fun _ => by simp)
  | some ns =>
      by_cases hL : ∀ k, k ∉ s.failingLists
      · rw [hwf.handleDeleting_run_of_lists hns hL]
        split_ifs
        · exact injectedRefusals_removeReferences _
        · exact injectedRefusals_ok
        · exact injectedRefusals_writeWorkload _ _
      · obtain ⟨k, hk⟩ := not_forall.mp hL
        obtain ⟨l, hl⟩ := handleDeleting_of_failed_list hns (not_not.mp hk)
        rw [hl]
        exact injectedRefusals_error (fun _ => by simp) (fun _ => by simp)

/-- On a well-formed store, every refused child write a reconcile reports was refused by an injected
failure, never by a conflict. -/
theorem WellFormed.injectedRefusals_handleWorkload (hwf : s.WellFormed) (w : Workload) :
    InjectedRefusals ((handleWorkload w : StateM MemoryStore _).run s).1 := by
  cases hlc : w.lifecycle with
  | ignored =>
      rw [handleWorkload_of_ignored hlc]
      exact injectedRefusals_ok
  | active =>
      rw [handleWorkload_of_active hlc]
      exact hwf.injectedRefusals_handleActive
  | deleting =>
      rw [handleWorkload_of_deleting hlc]
      exact hwf.injectedRefusals_handleDeleting

end MemoryStore

/-- One reconcile of any workload over a well-formed in-memory store writes no config object
twice and the workload at most once. Under the recorder the reconcile answers and changes the
store as it does without; the write requests it sends name each config object at most once, and
no workload but its own, at most once. The current children it links and the orphans it unlinks
are distinct stored objects, so no write meets an object the run wrote before: every write of a
child that the run reports refused was refused by an injected failure of the store, not by a
conflict. -/
theorem handleWorkload_writes_once (s : MemoryStore) (hwf : s.WellFormed) (w : Workload) :
    Prod.fst <$> (handleWorkload w : Recording _).run = handleWorkload w ∧
      ((requestsFrom (handleWorkload w : Recording _) s).filterMap WriteRequest.configKey?).Nodup ∧
      (requestsFrom (handleWorkload w : Recording _) s).filterMap WriteRequest.workloadKey? <+ [w.key] ∧
      (∀ c ∈ s.currentOf w, ∀ e ∈ s.orphansOf w, c.key ≠ e.key) ∧
      ∀ l, (((handleWorkload w : StateM MemoryStore _).run s).1 = .error (.updateChildren l) ∨
          ((handleWorkload w : StateM MemoryStore _).run s).1 = .error (.removeReferences l)) →
        ∀ ce ∈ l, ∃ c, ce = MemoryStore.injectedChildError c :=
  ⟨erase_handleWorkload w, (hwf.requests_handleWorkload w).1, (hwf.requests_handleWorkload w).2,
    fun _ hc _ he => hwf.key_ne_of_current_of_orphan hc he, hwf.injectedRefusals_handleWorkload w⟩

/-- A deployment with a current child to link and an orphan to unlink. -/
theorem handleWorkload_writes_once_relink :
    let app : ConfigObject := .configMap { name := some "app", ns := some "prod" } none
    let old : ConfigObject :=
      .configMap { name := some "old", ns := some "prod",
                   annotations := some (Dict.empty.insert (Ownership.ownerKey "web") "Deployment") } none
    let w : Workload :=
      { kind := .deployment,
        metadata := { name := some "web", ns := some "prod",
                      annotations := some (Dict.empty.insert Workload.optInKey "true") },
        template := some { spec := some { volumes := [{ configMap := some "app" }] } } }
    let s : MemoryStore :=
      { workloads := [(⟨.deployment, "prod", "web"⟩, w)],
        configs := [(⟨.configMap, "prod", "app"⟩, app), (⟨.configMap, "prod", "old"⟩, old)] }
    s.WellFormed ∧
      Prod.fst <$> (handleWorkload w : Recording _).run = handleWorkload w ∧
      ((requestsFrom (handleWorkload w : Recording _) s).filterMap WriteRequest.configKey?).Nodup ∧
      (requestsFrom (handleWorkload w : Recording _) s).filterMap WriteRequest.workloadKey? <+ [w.key] ∧
      (∀ c ∈ s.currentOf w, ∀ e ∈ s.orphansOf w, c.key ≠ e.key) ∧
      ∀ l, (((handleWorkload w : StateM MemoryStore _).run s).1 = .error (.updateChildren l) ∨
          ((handleWorkload w : StateM MemoryStore _).run s).1 = .error (.removeReferences l)) →
        ∀ ce ∈ l, ∃ c, ce = MemoryStore.injectedChildError c := by
  intro app old w s
  have hwf : s.WellFormed := ⟨⟨by decide, by decide⟩, ⟨by decide, by decide⟩⟩
  exact ⟨hwf, handleWorkload_writes_once s hwf w⟩

end ConfigRollout
