import ConfigRollout.Proofs.Handler
import ConfigRollout.Proofs.FingerprintContent

/-!
# What a successful active reconcile leaves

Over a well-formed store, a successful active reconcile of a workload `w` leaves each stored
config object as `MemoryStore.afterActive` says (`config?_handleActive`):

* an object that `w` uses is linked to it, and written only where its link was missing or not
  valid;
* an object of `w`'s namespace whose link `w` owns, and that no used object matches by
  identity (an orphan), has lost that link and nothing else;
* any other object is as it was.

The stored workload then carries the fingerprint of the used objects and the finalizer, and is
written only where that changed it (`workload?_handleActive`). The fingerprint is the same
whether it is read before or after the links are written (`fingerprint_bindingsAt_handleActive`):
links and versions are metadata, which no fingerprint reads.
-/

set_option autoImplicit false

namespace ConfigRollout

open Reconcile

/-- Whether one of a workload's uses names a key. -/
def Workload.usesKey (w : Workload) (k : ConfigKey) : Bool :=
  w.references.toList.any (fun u => k == ⟨u.1, w.metadata.nsOrEmpty, u.2.1⟩)

namespace MemoryStore

/-- Whether an active reconcile of a workload unlinks a stored object: the object is of the
workload's namespace, the workload owns its link, and no used object has its identity. -/
def orphaned (s : MemoryStore) (w : Workload) (o : ConfigObject) : Bool :=
  o.key.ns == w.metadata.nsOrEmpty && o.ownsLink w.metadata.nameAny w.kind.name &&
    (s.bindingsAt w.metadata.nsOrEmpty w.references).all (fun b => b.object.identity != o.identity)

/-- A stored object as a successful active reconcile of a workload leaves it: a used object
linked, an orphan unlinked, any other object as it was. -/
def afterActive (s : MemoryStore) (w : Workload) (o : ConfigObject) : ConfigObject :=
  if w.usesKey o.key then
    if o.hasOwnerLink w.metadata.nameAny then o else (o.setOwnerLink w.metadata.nameAny w.kind.name).written
  else if s.orphaned w o then (o.removeOwnerLink w.metadata.nameAny).written
  else o

variable {s : MemoryStore} {w : Workload}

/-- A used object is a current child, and a current child is a used object. -/
theorem WellFormed.usesKey_iff (hwf : s.WellFormed) {o : ConfigObject} (ho : s.config? o.key = some o) :
    w.usesKey o.key = true ↔ o ∈ (s.bindingsAt w.metadata.nsOrEmpty w.references).map (·.object) := by
  simp only [Workload.usesKey, List.any_eq_true, beq_iff_eq, List.mem_map]
  constructor
  · rintro ⟨u, hu, hk⟩
    exact ⟨⟨o, u.2.2⟩, mem_bindingsAt.mpr ⟨u, hu, hk ▸ ho, rfl⟩, rfl⟩
  · rintro ⟨b, hb, rfl⟩
    obtain ⟨u, hu, hub, -⟩ := mem_bindingsAt.mp hb
    exact ⟨u, hu, hwf.key_of_config? hub⟩

/-- An object marked as orphaned is one of the orphans that the reconcile computes. -/
theorem WellFormed.orphaned_iff (hwf : s.WellFormed) {o : ConfigObject} (ho : s.config? o.key = some o) :
    s.orphaned w o = true ↔
      o ∈ orphans (s.ownedBy w.metadata.nsOrEmpty w.metadata.nameAny w.kind)
        (s.bindingsAt w.metadata.nsOrEmpty w.references) := by
  rw [mem_orphans, hwf.mem_ownedBy_iff]
  simp only [orphaned, Owns, Bool.and_eq_true, beq_iff_eq, List.all_eq_true, bne_iff_ne, ne_eq, ho,
    true_and]

/-- The current children sit under their keys. -/
theorem WellFormed.config?_of_mem_bindingsAt (hwf : s.WellFormed) {ns : String} {refs : References}
    {b : Binding} (hb : b ∈ s.bindingsAt ns refs) : s.config? b.object.key = some b.object := by
  obtain ⟨u, -, hu, -⟩ := mem_bindingsAt.mp hb
  rw [hwf.key_of_config? hu]
  exact hu

/-- Stores that differ by a change of each stored object bind the same uses to the changed
objects. -/
theorem bindingsAt_of_config? {s t : MemoryStore} {f : ConfigObject → ConfigObject}
    (h : ∀ k, t.config? k = (s.config? k).map f) (ns : String) (refs : References) :
    t.bindingsAt ns refs = (s.bindingsAt ns refs).map (fun b => ⟨f b.object, b.spec⟩) := by
  simp only [bindingsAt, h, List.map_filterMap, Option.map_map]
  rfl

/-- Linking and unlinking keep an object's identity. -/
@[simp] theorem identity_afterActive (o : ConfigObject) : (s.afterActive w o).identity = o.identity := by
  unfold afterActive
  split
  · split <;> simp
  · split <;> simp

/-- Linking and unlinking leave the content of every binding alone. -/
theorem content_afterActive (o : ConfigObject) (spec : RefSpec) :
    Binding.content ⟨s.afterActive w o, spec⟩ = Binding.content ⟨o, spec⟩ := by
  unfold afterActive
  split
  · split
    · rfl
    · rw [Binding.content_written]
      exact Binding.content_setMetadata o _ spec rfl
  · split
    · rw [Binding.content_written]
      exact Binding.content_setMetadata o _ spec rfl
    · rfl

end MemoryStore

open MemoryStore

section Active

variable {s : MemoryStore} {w : Workload}

/-- A successful active reconcile had a namespace to work in. -/
theorem ns_of_handleActive_ok (hok : (((handleActive w).run : StateM MemoryStore _).run s).1 = .ok ()) :
    ∃ ns, w.metadata.ns = some ns := by
  cases hns : w.metadata.ns with
  | none =>
      rw [handleActive_of_no_namespace w hns s] at hok
      cases hok
  | some ns => exact ⟨ns, rfl⟩

/-- A successful active reconcile, as two folds: no current child's link was refused, no
orphan's unlink was refused, and the store is the one that linking the current children and
then unlinking the orphans leaves, with the desired workload committed when it differed. -/
theorem handleActive_ok_folds (hwf : s.WellFormed)
    (hok : (((handleActive w).run : StateM MemoryStore _).run s).1 = .ok ()) :
    let ns := w.metadata.nsOrEmpty
    let n := w.metadata.nameAny
    let current := s.bindingsAt ns w.references
    let os := orphans (s.ownedBy ns n w.kind) current
    (current.map (·.object)).any (s.linkFails n) = false ∧ os.any (s.unlinkFails n) = false ∧
      (((handleActive w).run : StateM MemoryStore _).run s).2 =
        let t := os.foldl (unlinkStep n) ((current.map (·.object)).foldl (linkStep n w.kind) s)
        if Workload.desired w current = w then t else t.commitWorkload (Workload.desired w current) := by
  obtain ⟨ns, hns⟩ := ns_of_handleActive_ok hok
  obtain ⟨existing, current, hE, hC, hlinks, hstate⟩ := handleActive_ok w hns s hok
  obtain ⟨-, rfl⟩ := (existingAnswer_eq_ok_iff ns _ _ existing).mp hE
  obtain ⟨-, rfl⟩ := (currentAnswer_eq_ok_iff ns _ current).mp hC
  rw [updateLinks_run _ _ s _ _ (fun e he => (hwf.mem_ownedBy_iff.mp he).1) (hwf.nodup_ownedBy_keys _ _ _)
    (fun b hb => hwf.config?_of_mem_bindingsAt hb) (hwf.nodup_bindingsAt_keys ns w)] at hlinks hstate
  rw [nsOrEmpty_of_ns hns]
  -- a refused link or unlink would have failed the run
  cases hl : ((s.bindingsAt ns w.references).map (·.object)).any (s.linkFails w.metadata.nameAny)
  · cases hu : (orphans (s.ownedBy ns w.metadata.nameAny w.kind) (s.bindingsAt ns w.references)).any
        (s.unlinkFails w.metadata.nameAny)
    · simp only [hl, hu, Bool.false_eq_true, if_false] at hstate
      exact ⟨hl, hu, hstate⟩
    · simp only [hl, hu, Bool.false_eq_true, if_false, if_true] at hlinks
      cases hlinks
  · simp only [hl, if_true] at hlinks
    cases hlinks

/-- Linking the current children and unlinking the orphans, after a run in which none was
refused, leaves each stored object as `afterActive` says. -/
theorem config?_link_unlink (hwf : s.WellFormed)
    (hl : ((s.bindingsAt w.metadata.nsOrEmpty w.references).map (·.object)).any
      (s.linkFails w.metadata.nameAny) = false)
    (hu : (orphans (s.ownedBy w.metadata.nsOrEmpty w.metadata.nameAny w.kind)
      (s.bindingsAt w.metadata.nsOrEmpty w.references)).any (s.unlinkFails w.metadata.nameAny) = false)
    (k : ConfigKey) :
    ((orphans (s.ownedBy w.metadata.nsOrEmpty w.metadata.nameAny w.kind)
        (s.bindingsAt w.metadata.nsOrEmpty w.references)).foldl (unlinkStep w.metadata.nameAny)
      (((s.bindingsAt w.metadata.nsOrEmpty w.references).map (·.object)).foldl
        (linkStep w.metadata.nameAny w.kind) s)).config? k =
      (s.config? k).map (s.afterActive w) := by
  set n := w.metadata.nameAny with hn
  set current := s.bindingsAt w.metadata.nsOrEmpty w.references
  set cs := current.map (·.object)
  set os := orphans (s.ownedBy w.metadata.nsOrEmpty n w.kind) current
  have hex : ∀ e ∈ s.ownedBy w.metadata.nsOrEmpty n w.kind, s.config? e.key = some e :=
    fun e he => (hwf.mem_ownedBy_iff.mp he).1
  have hcur : ∀ b ∈ current, s.config? b.object.key = some b.object :=
    fun b hb => hwf.config?_of_mem_bindingsAt hb
  have hcs : ∀ c ∈ cs, s.config? c.key = some c := by
    intro c hc
    obtain ⟨b, hb, rfl⟩ := List.mem_map.mp hc
    exact hcur b hb
  have hos : ∀ e ∈ os, s.config? e.key = some e :=
    fun e he => hex e ((mem_orphans e _ _).mp he).1
  have hcsk : (cs.map ConfigObject.key).Nodup := by
    rw [List.map_map]
    exact hwf.nodup_bindingsAt_keys w.metadata.nsOrEmpty w
  have hosk : (os.map ConfigObject.key).Nodup :=
    (hwf.nodup_ownedBy_keys _ _ _).sublist ((List.filter_sublist).map _)
  rcases hk : s.config? k with _ | o
  · -- nothing stored: neither fold touches the key
    have hnc : k ∉ cs.map ConfigObject.key := key_not_mem_of_none hcs hk
    have hno : k ∉ os.map ConfigObject.key := key_not_mem_of_none hos hk
    rw [unlinkStep, config?_foldl_editStep_of_not_mem _ _ _ (keepsKey_removeOwnerLink n) _ _ hno,
      linkStep, config?_foldl_editStep_of_not_mem _ _ _ (keepsKey_setOwnerLink n w.kind.name) _ _ hnc, hk]
    rfl
  · obtain rfl : o.key = k := hwf.key_of_config? hk
    simp only [Option.map_some, afterActive]
    rw [← hn]
    by_cases huse : w.usesKey o.key = true
    · -- a used object is linked when it needs a link; no orphan shares its key
      have hmem : o ∈ cs := (hwf.usesKey_iff hk).mp huse
      have hno : o.key ∉ os.map ConfigObject.key := by
        intro hmem'
        obtain ⟨e, he, hek⟩ := List.mem_map.mp hmem'
        exact orphan_key_not_mem hex hcur he (by rw [hek]; exact List.mem_map.mpr ⟨o, hmem, rfl⟩)
      have hnf : s.linkFails n o = false := by
        simpa using (List.any_eq_false.mp hl) o hmem
      rw [unlinkStep, config?_foldl_editStep_of_not_mem _ _ _ (keepsKey_removeOwnerLink n) _ _ hno,
        linkStep, config?_foldl_editStep_of_mem _ _ _ (keepsKey_setOwnerLink n w.kind.name) _ _ hcsk hmem,
        if_pos huse]
      by_cases hlink : o.hasOwnerLink n = true
      · simp [writes, hlink, hk]
      · have hup : s.updateFails o = false := by simpa [linkFails, hlink] using hnf
        simp [writes, hlink, hup]
    · have hnc : o.key ∉ cs.map ConfigObject.key :=
        fun hmem => huse ((hwf.usesKey_iff hk).mpr (mem_of_key_mem hcs hk hmem))
      rw [if_neg huse, unlinkStep, linkStep]
      by_cases horph : s.orphaned w o = true
      · -- an orphan has the link key, and its unlink was not refused
        have hmem : o ∈ os := (hwf.orphaned_iff hk).mp horph
        have hnf : s.unlinkFails n o = false := by
          simpa using (List.any_eq_false.mp hu) o hmem
        have hkey : o.hasLinkKey n = true := by
          simp only [orphaned, Bool.and_eq_true] at horph
          exact ConfigObject.hasLinkKey_of_ownsLink horph.1.2
        have hup : s.updateFails o = false := by simpa [unlinkFails, hkey] using hnf
        rw [config?_foldl_editStep_of_mem _ _ _ (keepsKey_removeOwnerLink n) _ _ hosk hmem,
          config?_foldl_editStep_of_not_mem _ _ _ (keepsKey_setOwnerLink n w.kind.name) _ _ hnc]
        simp [writes, hkey, hup, horph]
      · have hno : o.key ∉ os.map ConfigObject.key :=
          fun hmem => horph ((hwf.orphaned_iff hk).mpr (mem_of_key_mem hos hk hmem))
        rw [config?_foldl_editStep_of_not_mem _ _ _ (keepsKey_removeOwnerLink n) _ _ hno,
          config?_foldl_editStep_of_not_mem _ _ _ (keepsKey_setOwnerLink n w.kind.name) _ _ hnc, hk]
        simp [horph]

/-- After a successful active reconcile every stored object is as `afterActive` says. -/
theorem config?_handleActive (hwf : s.WellFormed)
    (hok : (((handleActive w).run : StateM MemoryStore _).run s).1 = .ok ()) (k : ConfigKey) :
    (((handleActive w).run : StateM MemoryStore _).run s).2.config? k = (s.config? k).map (s.afterActive w) := by
  obtain ⟨hl, hu, hstate⟩ := handleActive_ok_folds hwf hok
  rw [hstate]
  dsimp only
  split <;> exact config?_link_unlink hwf hl hu k

/-- The fingerprint of the used objects is the same before and after a successful active
reconcile. -/
theorem fingerprint_bindingsAt_handleActive (hwf : s.WellFormed)
    (hok : (((handleActive w).run : StateM MemoryStore _).run s).1 = .ok ()) (ns : String) :
    fingerprint ((((handleActive w).run : StateM MemoryStore _).run s).2.bindingsAt ns w.references) =
      fingerprint (s.bindingsAt ns w.references) := by
  rw [bindingsAt_of_config? (config?_handleActive hwf hok)]
  apply fingerprint_congr
  rw [List.map_map]
  exact List.map_congr_left (fun b _ => content_afterActive b.object b.spec)

/-- After a successful active reconcile of a stored workload, its key holds it with the
fingerprint of the used objects and the finalizer: written when that changed it, else as it
was. -/
theorem workload?_handleActive (hwf : s.WellFormed) (hstored : Table.lookup w.key s.workloads = some w)
    (hok : (((handleActive w).run : StateM MemoryStore _).run s).1 = .ok ()) :
    let d := Workload.desired w (s.bindingsAt w.metadata.nsOrEmpty w.references)
    (((handleActive w).run : StateM MemoryStore _).run s).2.workload? w.kind w.metadata.nsOrEmpty
      w.metadata.nameAny = some (if d = w then w else d.written) := by
  obtain ⟨-, -, hstate⟩ := handleActive_ok_folds hwf hok
  rw [hstate]
  dsimp only
  split
  · simpa [workload?, unlinkStep, linkStep, Workload.key] using hstored
  · simp [Workload.key]

/-- When an active reconcile of a stored workload succeeds: it has a namespace, no list fails,
every use can be fetched, no link or unlink that is needed is refused, and the workload needs
no write or workload writes are accepted. -/
theorem handleActive_ok_iff (hwf : s.WellFormed) {ns : String} (hns : w.metadata.ns = some ns)
    (hstored : Table.lookup w.key s.workloads = some w) :
    let n := w.metadata.nameAny
    let current := s.bindingsAt ns w.references
    (((handleActive w).run : StateM MemoryStore _).run s).1 = .ok () ↔
      (∀ k, k ∉ s.failingLists) ∧ s.Fetchable ns w.references ∧
      (current.map (·.object)).any (s.linkFails n) = false ∧
      (orphans (s.ownedBy ns n w.kind) current).any (s.unlinkFails n) = false ∧
      (Workload.desired w current = w ∨ s.failWorkloadUpdates = false) := by
  dsimp only
  rw [handleActive_run w hns s]
  by_cases hL : ∀ k, k ∉ s.failingLists
  · rw [existingAnswer_of_lists ns _ _ hL]
    by_cases hF : s.Fetchable ns w.references
    · rw [(currentAnswer_eq_ok_iff ns _ _).mpr ⟨hF, rfl⟩]
      dsimp only
      rw [updateLinks_run _ _ s _ _ (fun e he => (hwf.mem_ownedBy_iff.mp he).1) (hwf.nodup_ownedBy_keys _ _ _)
        (fun b hb => hwf.config?_of_mem_bindingsAt hb) (hwf.nodup_bindingsAt_keys ns w)]
      dsimp only
      cases hl : ((s.bindingsAt ns w.references).map (·.object)).any (s.linkFails w.metadata.nameAny)
      · cases hu : (orphans (s.ownedBy ns w.metadata.nameAny w.kind) (s.bindingsAt ns w.references)).any
            (s.unlinkFails w.metadata.nameAny)
        · simp only [Bool.false_eq_true, if_false]
          -- the links were accepted; what is left is the workload write
          split
          · rename_i heq
            cases heq
          · rename_i t heq
            cases heq
            by_cases hd : Workload.desired w (s.bindingsAt ns w.references) = w
            · rw [if_pos hd]
              exact iff_of_true rfl (by simp [hd, hL, hF])
            · -- the workload is written at the version it was read at
              have hkey : Table.lookup (Workload.desired w (s.bindingsAt ns w.references)).key
                  ((orphans (s.ownedBy ns w.metadata.nameAny w.kind) (s.bindingsAt ns w.references)).foldl
                    (unlinkStep w.metadata.nameAny) (((s.bindingsAt ns w.references).map (·.object)).foldl
                      (linkStep w.metadata.nameAny w.kind) s)).workloads = some w := by
                simpa [unlinkStep, linkStep] using hstored
              rw [if_neg hd, writeWorkload_of_stored _ hkey (Workload.version_desired w _).symm]
              simp only [unlinkStep, linkStep, failWorkloadUpdates_foldl_editStep]
              cases hw : s.failWorkloadUpdates
              · exact iff_of_true rfl (by simp [hL, hF])
              · exact iff_of_false (fun h => by cases h) (by simp [hd])
        · simp [hL, hF]
      · simp [hL, hF]
    · cases hC : s.currentAnswer ns w.references with
      | error e => simp [hF]
      | ok bs => exact absurd ((currentAnswer_eq_ok_iff ns _ _).mp hC).1 hF
  · cases hE : s.existingAnswer ns w.metadata.nameAny w.kind with
    | error e => simp [hL]
    | ok l => exact absurd ((existingAnswer_eq_ok_iff ns _ _ _).mp hE).1 hL

/-- In a store without injected failures every read answers and every write is accepted, so an
active reconcile of a stored workload succeeds once its required objects are stored. -/
theorem handleActive_ok_of_no_failures (hwf : s.WellFormed) {ns : String} (hns : w.metadata.ns = some ns)
    (hstored : Table.lookup w.key s.workloads = some w)
    (hclean : s.failingLists = [] ∧ s.failingGets = [] ∧ s.failingUpdates = [] ∧ s.failWorkloadUpdates = false)
    (hreq : ∀ u ∈ w.references.toList, u.2.2.required = true → (s.config? ⟨u.1, ns, u.2.1⟩).isSome) :
    (((handleActive w).run : StateM MemoryStore _).run s).1 = .ok () := by
  obtain ⟨hlists, hgets, hupdates, hwrites⟩ := hclean
  have hupd : ∀ o, s.updateFails o = false := fun o => by simp [updateFails, hupdates]
  refine (handleActive_ok_iff hwf hns hstored).mpr
    ⟨by simp [hlists], fun u hu => ⟨by simp [getFails, hgets], hreq u hu⟩, ?_, ?_, .inr hwrites⟩
  · exact List.any_eq_false.mpr (fun c _ => by simp [linkFails, hupd])
  · exact List.any_eq_false.mpr (fun c _ => by simp [unlinkFails, hupd])

end Active

/-! ## The postcondition -/

/-- The postcondition of an active reconcile. Over a well-formed store, let `w` be the stored
workload of its key, active, and let its reconcile succeed. Then, in the store it leaves:

* every object under the key of one of `w`'s uses is linked to `w`; it is as it was when it was
  linked already, and otherwise it was written with the link;
* every object of `w`'s namespace whose link `w` owned, with the identity of none of those
  used objects, has lost that link and nothing else (its version moved on with the write);
* the stored workload is `w` with the fingerprint of the used objects, in use order, on its pod
  template and with the finalizer: `w` itself when that is `w`, else written. -/
theorem handleWorkload_active_postcondition (s : MemoryStore) (hwf : s.WellFormed) (w : Workload)
    (hstored : Table.lookup w.key s.workloads = some w) (hactive : w.lifecycle = .active)
    (hok : ((handleWorkload w : StateM MemoryStore _).run s).1 = .ok ()) :
    let s' := ((handleWorkload w : StateM MemoryStore _).run s).2
    let ns := w.metadata.nsOrEmpty
    let n := w.metadata.nameAny
    (∀ u ∈ w.references.toList,
      (∀ o, s'.config? ⟨u.1, ns, u.2.1⟩ = some o → o.hasOwnerLink n = true) ∧
      s'.config? ⟨u.1, ns, u.2.1⟩ = (s.config? ⟨u.1, ns, u.2.1⟩).map
        (fun o => if o.hasOwnerLink n then o else (o.setOwnerLink n w.kind.name).written)) ∧
    (∀ e, s.config? e.key = some e → e.key.ns = ns → e.ownsLink n w.kind.name = true →
      (∀ u ∈ w.references.toList, ∀ o, s'.config? ⟨u.1, ns, u.2.1⟩ = some o → o.identity ≠ e.identity) →
      s'.config? e.key = some (e.removeOwnerLink n).written) ∧
    (let d := (w.setConfigHash (fingerprint (s'.bindingsAt ns w.references))).addFinalizer
     s'.workload? w.kind ns n = some (if d = w then w else d.written)) := by
  rw [handleWorkload_of_active hactive] at hok ⊢
  dsimp only
  have hconf := config?_handleActive hwf hok
  -- a used key holds a used object, which the run linked when it needed a link
  have hused : ∀ u ∈ w.references.toList,
      (((handleActive w).run : StateM MemoryStore _).run s).2.config? ⟨u.1, w.metadata.nsOrEmpty, u.2.1⟩ =
        (s.config? ⟨u.1, w.metadata.nsOrEmpty, u.2.1⟩).map (fun o => if o.hasOwnerLink w.metadata.nameAny then o
          else (o.setOwnerLink w.metadata.nameAny w.kind.name).written) := by
    intro u hu
    rw [hconf]
    rcases ho : s.config? ⟨u.1, w.metadata.nsOrEmpty, u.2.1⟩ with _ | o
    · rfl
    · have huse : w.usesKey o.key = true := by
        rw [hwf.key_of_config? ho]
        exact List.any_eq_true.mpr ⟨u, hu, beq_self_eq_true _⟩
      simp [afterActive, huse]
  refine ⟨fun u hu => ⟨?_, hused u hu⟩, ?_, ?_⟩
  · intro o ho
    rw [hused u hu] at ho
    obtain ⟨o₀, -, rfl⟩ := Option.map_eq_some_iff.mp ho
    split
    · assumption
    · rw [ConfigObject.hasOwnerLink_written]
      exact ConfigObject.hasOwnerLink_setOwnerLink o₀ _ w.kind
  · intro e he hns hown hid
    -- no used object has the identity of `e`: each keeps its identity through the run
    have hnot : ∀ b ∈ s.bindingsAt w.metadata.nsOrEmpty w.references, b.object.identity ≠ e.identity := by
      intro b hb
      obtain ⟨u, hu, hub, -⟩ := mem_bindingsAt.mp hb
      have hne := hid u hu (s.afterActive w b.object) (by rw [hconf, hub]; rfl)
      rwa [identity_afterActive] at hne
    have huse : w.usesKey e.key = false := by
      rw [← Bool.not_eq_true]
      intro h
      obtain ⟨b, hb, hbe⟩ := List.mem_map.mp ((hwf.usesKey_iff he).mp h)
      exact hnot b hb (by rw [hbe])
    have horph : s.orphaned w e = true := by
      simpa [orphaned, hns, hown] using hnot
    rw [hconf, he]
    simp [afterActive, huse, horph]
  · rw [fingerprint_bindingsAt_handleActive hwf hok]
    exact workload?_handleActive hwf hstored hok

/-- An active workload that uses one ConfigMap and whose link another carries: the run links
the first and unlinks the second. -/
theorem handleWorkload_active_postcondition_relinks :
    let app : ConfigObject := .configMap { name := some "app", ns := some "prod" } none
    let old : ConfigObject :=
      .configMap { name := some "old", ns := some "prod",
                   annotations := some (Dict.empty.insert (Ownership.ownerKey "web") "Deployment") } none
    let w : Workload :=
      { kind := .deployment,
        metadata := { name := some "web", ns := some "prod",
                      annotations := some (Dict.empty.insert Workload.optInKey "true") },
        template := some { spec := some { volumes := [{ configMap := some "app" }] } } }
    let s : MemoryStore :=
      { workloads := [(⟨.deployment, "prod", "web"⟩, w)],
        configs := [(⟨.configMap, "prod", "app"⟩, app), (⟨.configMap, "prod", "old"⟩, old)] }
    let s' := ((handleWorkload w : StateM MemoryStore _).run s).2
    let ns := w.metadata.nsOrEmpty
    let n := w.metadata.nameAny
    s.WellFormed ∧ Table.lookup w.key s.workloads = some w ∧ w.lifecycle = .active ∧
    ((handleWorkload w : StateM MemoryStore _).run s).1 = .ok () ∧
    (∀ u ∈ w.references.toList,
      (∀ o, s'.config? ⟨u.1, ns, u.2.1⟩ = some o → o.hasOwnerLink n = true) ∧
      s'.config? ⟨u.1, ns, u.2.1⟩ = (s.config? ⟨u.1, ns, u.2.1⟩).map
        (fun o => if o.hasOwnerLink n then o else (o.setOwnerLink n w.kind.name).written)) ∧
    (∀ e, s.config? e.key = some e → e.key.ns = ns → e.ownsLink n w.kind.name = true →
      (∀ u ∈ w.references.toList, ∀ o, s'.config? ⟨u.1, ns, u.2.1⟩ = some o → o.identity ≠ e.identity) →
      s'.config? e.key = some (e.removeOwnerLink n).written) ∧
    (let d := (w.setConfigHash (fingerprint (s'.bindingsAt ns w.references))).addFinalizer
     s'.workload? w.kind ns n = some (if d = w then w else d.written)) := by
  intro app old w s s' ns n
  have hwf : s.WellFormed := ⟨⟨by decide, by decide⟩, ⟨by decide, by decide⟩⟩
  have hstored : Table.lookup w.key s.workloads = some w := by decide
  have hactive : w.lifecycle = .active := by decide
  have hok : ((handleWorkload w : StateM MemoryStore _).run s).1 = .ok () := by
    rw [handleWorkload_of_active hactive]
    exact handleActive_ok_of_no_failures hwf (show w.metadata.ns = some "prod" from rfl) hstored
      ⟨rfl, rfl, rfl, rfl⟩ (by decide)
  exact ⟨hwf, hstored, hactive, hok, handleWorkload_active_postcondition s hwf w hstored hactive hok⟩

end ConfigRollout
