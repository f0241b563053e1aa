import ConfigRollout.Proofs.Outcomes
import ConfigRollout.Proofs.Idempotence

/-!
# A failed reconcile and its retry

A reconcile that fails part-way keeps the writes it made before the failure. With the injected
failures switched off (`MemoryStore.withoutFailures`), a retry from the store it left does the
rest of the work and nothing twice: it ends with the config objects and the workloads that one
run from the first store ends with, and the events of the failed run and of the retry are those
of the one run, in another order.

The argument follows the stages of a run (`Outcomes`). A failed run stops at one of them
(`handleWorkload_error_stages`). Each stage did part of the work of a successful run, and a
successful run applied to its own result changes nothing (`afterActive_afterActive`,
`afterDeleting_afterDeleting`), so the retry leaves every key as the one run does. For the
events, a write is skipped in the retry exactly where the failed run made it: an object left
to do after a stage is an object that the stage's fold skipped or failed to write
(`config?_foldl_editStep_residue`).
-/

set_option autoImplicit false

namespace ConfigRollout

open Reconcile Ownership

/-- The event a write of the reconciler publishes for an object: its kind, its name and the
reason. -/
def ConfigObject.eventFor (reason : String) (c : ConfigObject) : String × String × String :=
  (c.objectRef.kind, c.objectRef.name.getD "", reason)

namespace MemoryStore

/-- The store with every injected failure switched off. -/
def withoutFailures (s : MemoryStore) : MemoryStore :=
  { s with failWorkloadUpdates := false, failingUpdates := [], failingGets := [], failingLists := [] }

section Clean

variable (s : MemoryStore) (w : Workload)

@[simp] theorem config?_withoutFailures (k : ConfigKey) : s.withoutFailures.config? k = s.config? k := rfl

@[simp] theorem workloads_withoutFailures : s.withoutFailures.workloads = s.workloads := rfl

@[simp] theorem events_withoutFailures : s.withoutFailures.events = s.events := rfl

@[simp] theorem workload?_withoutFailures (kind : WorkloadKind) (ns name : String) :
    s.withoutFailures.workload? kind ns name = s.workload? kind ns name := rfl

@[simp] theorem writes_withoutFailures (skip : ConfigObject → Bool) :
    s.withoutFailures.writes skip = fun c => !skip c := by
  funext c
  simp [writes, updateFails, withoutFailures]

@[simp] theorem currentOf_withoutFailures : s.withoutFailures.currentOf w = s.currentOf w := rfl

@[simp] theorem orphansOf_withoutFailures : s.withoutFailures.orphansOf w = s.orphansOf w := rfl

@[simp] theorem ownedOf_withoutFailures : s.withoutFailures.ownedOf w = s.ownedOf w := rfl

@[simp] theorem afterActive_withoutFailures : s.withoutFailures.afterActive w = s.afterActive w := rfl

@[simp] theorem bindingsAt_withoutFailures (ns : String) (refs : References) :
    s.withoutFailures.bindingsAt ns refs = s.bindingsAt ns refs := rfl

/-- Switching the injected failures off keeps a store well formed. -/
theorem WellFormed.withoutFailures {s : MemoryStore} (hwf : s.WellFormed) : s.withoutFailures.WellFormed :=
  ⟨hwf.configs, hwf.workloads⟩

end Clean

/-! ## What a fold leaves to do -/

/-- After a fold over stored children with distinct keys, where a predicate rejects every
edited copy, the objects stored under their keys that satisfy it are those of the store before
that the fold did not write. -/
theorem config?_foldl_editStep_residue (skip : ConfigObject → Bool) (edit : ConfigObject → ConfigObject)
    (reason : String) (hedit : KeepsKey edit) (cs : List ConfigObject) (s : MemoryStore)
    (hcs : ∀ c ∈ cs, s.config? c.key = some c) (hkeys : (cs.map ConfigObject.key).Nodup)
    (P : ConfigObject → Prop) (hP : ∀ c ∈ cs, ¬ P (edit c).written) (o : ConfigObject) :
    (cs.foldl (editStep skip edit reason) s).config? o.key = some o ∧ P o ↔
      s.config? o.key = some o ∧ P o ∧ (o ∈ cs → s.writes skip o = false) := by
  by_cases hk : o.key ∈ cs.map ConfigObject.key
  · obtain ⟨c, hc, hck⟩ := List.mem_map.mp hk
    have hfold := config?_foldl_editStep_of_mem skip edit reason hedit cs s hkeys hc
    have hsc := hcs c hc
    rw [hck] at hfold hsc
    rw [hfold, hsc]
    constructor
    · rintro ⟨h, hp⟩
      by_cases hw : s.writes skip c = true
      · -- the fold wrote the edited copy, which the predicate rejects
        rw [if_pos hw] at h
        cases h
        exact absurd hp (hP c hc)
      · rw [if_neg hw] at h
        cases h
        exact ⟨rfl, hp, fun _ => by simpa using hw⟩
    · rintro ⟨h, hp, hw⟩
      cases h
      rw [if_neg (by simp [hw hc])]
      exact ⟨rfl, hp⟩
  · rw [config?_foldl_editStep_of_not_mem skip edit reason hedit cs s hk]
    constructor
    · rintro ⟨h, hp⟩
      exact ⟨h, hp, fun ho => absurd (List.mem_map_of_mem ho) hk⟩
    · rintro ⟨h, hp, -⟩
      exact ⟨h, hp⟩

/-- The objects a fold writes, then those whose write it was refused, are together the objects
it does not skip. -/
theorem perm_filter_writes_append (s : MemoryStore) (skip : ConfigObject → Bool) (l : List ConfigObject) :
    (l.filter (s.writes skip) ++ (l.filter (!skip ·)).filter s.updateFails).Perm (l.filter (!skip ·)) := by
  have hw : l.filter (s.writes skip) = (l.filter (!skip ·)).filter (fun c => !s.updateFails c) := by
    rw [List.filter_filter]
    exact List.filter_congr (fun c _ => Bool.and_comm _ _)
  rw [hw]
  simpa using List.filter_append_perm (fun c => !s.updateFails c) (l.filter (!skip ·))

/-- When a fold skips none of its objects, the objects it writes, then those whose write it was
refused, are the objects themselves. -/
theorem perm_filter_writes_append_of_not_skip (s : MemoryStore) {skip : ConfigObject → Bool} {l : List ConfigObject}
    (hl : ∀ c ∈ l, skip c = false) : (l.filter (s.writes skip) ++ l.filter s.updateFails).Perm l := by
  have hself : l.filter (!skip ·) = l := List.filter_eq_self.mpr (fun c hc => by simp [hl c hc])
  have h := perm_filter_writes_append s skip l
  rwa [hself] at h

/-! ## What a stage keeps of the bindings -/

/-- A store that did part of the work of `f` binds the same keys, and every feature of a binding
that `f` keeps is the same. -/
theorem Progress.map_bindingsAt {s t : MemoryStore} {f : ConfigObject → ConfigObject} (h : s.Progress t f)
    {β : Type} (g : Binding → β) (hg : ∀ o spec, g ⟨f o, spec⟩ = g ⟨o, spec⟩) (ns : String) (refs : References) :
    (t.bindingsAt ns refs).map g = (s.bindingsAt ns refs).map g := by
  simp only [bindingsAt, List.map_filterMap]
  refine List.filterMap_congr (fun u _ => ?_)
  rcases h ⟨u.1, ns, u.2.1⟩ with hu | hu <;> rw [hu]
  cases s.config? ⟨u.1, ns, u.2.1⟩ <;> simp [hg]

/-- A store that did part of the work of `f` holds an object under exactly the keys the first store
does. -/
theorem Progress.isSome_config? {s t : MemoryStore} {f : ConfigObject → ConfigObject} (h : s.Progress t f)
    (k : ConfigKey) : (t.config? k).isSome = (s.config? k).isSome := by
  rcases h k with hk | hk <;> rw [hk]
  simp

/-- Whether an object is an orphan depends on the store only through the identities of the
current children. -/
theorem orphaned_congr {s t : MemoryStore} {w : Workload}
    (h : (t.bindingsAt w.metadata.nsOrEmpty w.references).map (·.object.identity) =
      (s.bindingsAt w.metadata.nsOrEmpty w.references).map (·.object.identity)) :
    t.orphaned w = s.orphaned w := by
  funext o
  have hall : ∀ u : MemoryStore, (u.bindingsAt w.metadata.nsOrEmpty w.references).all
      (fun b => b.object.identity != o.identity) =
      ((u.bindingsAt w.metadata.nsOrEmpty w.references).map (·.object.identity)).all (· != o.identity) := by
    intro u
    rw [List.all_map]
    rfl
  simp only [orphaned, hall, h]

/-! ## A successful run applied to its own result -/

@[simp] theorem key_afterActive {s : MemoryStore} {w : Workload} (o : ConfigObject) :
    (s.afterActive w o).key = o.key := by
  unfold afterActive
  split
  · split <;> simp
  · split <;> simp

/-- A linked object stays linked and an unlinked orphan owns its link no more: a successful
active run leaves what it wrote as it is. -/
theorem afterActive_afterActive {s : MemoryStore} {w : Workload} {o : ConfigObject} :
    s.afterActive w (s.afterActive w o) = s.afterActive w o := by
  set o' := s.afterActive w o with ho'
  by_cases hu : w.usesKey o.key = true
  · -- a used object is linked after the run, and a linked used object is left alone
    have hlinked : o'.hasOwnerLink w.metadata.nameAny = true := hasOwnerLink_afterActive hu
    have hu' : w.usesKey o'.key = true := by rw [key_afterActive]; exact hu
    simp [afterActive, hu', hlinked]
  · by_cases horph : s.orphaned w o = true
    · -- the orphan lost its link, so it is an orphan no more
      have hafter : o' = (o.removeOwnerLink w.metadata.nameAny).written := by
        rw [ho', afterActive, if_neg hu, if_pos horph]
      have hown : o'.ownsLink w.metadata.nameAny w.kind.name = false := by
        rw [hafter, ConfigObject.ownsLink_written, ConfigObject.ownsLink_removeOwnerLink _]
      have hu' : w.usesKey o'.key = false := by rw [key_afterActive]; simpa using hu
      simp [afterActive, hu', orphaned, hown]
    · have hafter : o' = o := by
        rw [ho', afterActive, if_neg hu, if_neg horph]
      rw [hafter]
      exact hafter

/-- A successful deleting run leaves what it wrote as it is: an object stripped of its link owns it
no more. -/
theorem afterDeleting_afterDeleting (w : Workload) {o : ConfigObject} :
    afterDeleting w (afterDeleting w o) = afterDeleting w o := by
  by_cases h : o.key.ns = w.metadata.nsOrEmpty ∧ o.ownsLink w.metadata.nameAny w.kind.name = true
  · have hafter : afterDeleting w o = (o.removeOwnerLink w.metadata.nameAny).written := by
      rw [afterDeleting, if_pos h]
    have hown : (o.removeOwnerLink w.metadata.nameAny).written.ownsLink w.metadata.nameAny w.kind.name = false := by
      rw [ConfigObject.ownsLink_written, ConfigObject.ownsLink_removeOwnerLink _]
    rw [hafter]
    simp [afterDeleting, hown]
  · have hafter : afterDeleting w o = o := by
      rw [afterDeleting, if_neg h]
    rw [hafter, hafter]

/-! ## Where a failed run stops -/

/-- A failed reconcile stops before its first write, after handling the current children, after
handling the orphans too, or after stripping every owned object; none of these writes the
workload. -/
theorem WellFormed.handleWorkload_error_stages {s : MemoryStore} (hwf : s.WellFormed) {w : Workload}
    {e : RollError} (herr : ((handleWorkload w : StateM MemoryStore _).run s).1 = .error e) :
    ((handleWorkload w : StateM MemoryStore _).run s).2 = s ∨
      (w.lifecycle = .active ∧ (((handleWorkload w : StateM MemoryStore _).run s).2 = s.linkedFor w ∨
        ((handleWorkload w : StateM MemoryStore _).run s).2 = s.unlinkedFor w)) ∨
      (w.lifecycle = .deleting ∧ ((handleWorkload w : StateM MemoryStore _).run s).2 = s.strippedFor w) := by
  cases hlc : w.lifecycle with
  | ignored =>
      rw [handleWorkload_of_ignored hlc] at herr
      cases herr
  | active =>
      rw [handleWorkload_of_active hlc] at herr ⊢
      rcases hwf.handleActive_error_cases herr with h | ⟨-, h⟩ | ⟨-, h⟩
      · exact .inl h
      · exact .inr (.inl ⟨rfl, .inl h⟩)
      · exact .inr (.inl ⟨rfl, .inr h⟩)
  | deleting =>
      rw [handleWorkload_of_deleting hlc] at herr ⊢
      rcases hwf.handleDeleting_error_cases herr with h | h
      · exact .inl h
      · exact .inr (.inr ⟨rfl, h⟩)

/-- Whatever its outcome, a reconcile only appends events to those the store had. -/
theorem events_handleWorkload_prefix {s : MemoryStore} (hwf : s.WellFormed) (w : Workload) :
    ∃ e, ((handleWorkload w : StateM MemoryStore _).run s).2.events = s.events ++ e := by
  -- each stage is a fold of writes, each of which appends its event
  have hstage : ∀ u ∈ [s, s.linkedFor w, s.unlinkedFor w, s.strippedFor w], ∃ e, u.events = s.events ++ e := by
    simp only [List.mem_cons, List.not_mem_nil, or_false]
    rintro u (rfl | rfl | rfl | rfl)
    · exact ⟨[], by simp⟩
    · exact ⟨_, events_foldl_editStep _ _ _ _ _⟩
    · exact ⟨_, by rw [unlinkedFor, unlinkStep, events_foldl_editStep, linkedFor, linkStep,
        events_foldl_editStep, List.append_assoc]⟩
    · exact ⟨_, events_foldl_editStep _ _ _ _ _⟩
  obtain ⟨u, hu, h | ⟨d, -, h⟩⟩ := hwf.handleWorkload_stages w <;> rw [h]
  · exact hstage u hu
  · exact hstage u hu


/-! ## What is left to do after a stage of an active run -/

section ActiveStages

variable {s : MemoryStore} {w : Workload}

/-- The current children of a workload are the stored objects under the keys it uses. -/
theorem WellFormed.mem_currentOf_iff (hwf : s.WellFormed) {c : ConfigObject} :
    c ∈ s.currentOf w ↔ s.config? c.key = some c ∧ w.usesKey c.key = true := by
  constructor
  · intro hc
    have hs := hwf.config?_of_mem_currentOf hc
    exact ⟨hs, (hwf.usesKey_iff hs).mpr hc⟩
  · rintro ⟨hs, hu⟩
    exact (hwf.usesKey_iff hs).mp hu

/-- The orphans of a workload are the stored objects that it has orphaned. -/
theorem WellFormed.mem_orphansOf_iff (hwf : s.WellFormed) {e : ConfigObject} :
    e ∈ s.orphansOf w ↔ s.config? e.key = some e ∧ s.orphaned w e = true := by
  constructor
  · intro he
    have hs := hwf.config?_of_mem_orphansOf he
    exact ⟨hs, (hwf.orphaned_iff hs).mpr he⟩
  · rintro ⟨hs, ho⟩
    exact (hwf.orphaned_iff hs).mp ho

/-- An orphan's key is no used key: the object there would be a current child with its
identity. -/
theorem WellFormed.usesKey_of_mem_orphansOf (hwf : s.WellFormed) {e : ConfigObject} (he : e ∈ s.orphansOf w) :
    w.usesKey e.key = false := by
  rw [← Bool.not_eq_true]
  intro h
  obtain ⟨b, hb, hbe⟩ := List.mem_map.mp ((hwf.usesKey_iff (hwf.config?_of_mem_orphansOf he)).mp h)
  exact ((mem_orphans e _ _).mp he).2 b hb (by rw [hbe])

/-- An orphan carries a link that the workload owns. -/
theorem WellFormed.ownsLink_of_mem_orphansOf (hwf : s.WellFormed) {e : ConfigObject} (he : e ∈ s.orphansOf w) :
    e.ownsLink w.metadata.nameAny w.kind.name = true := by
  have ho := (hwf.mem_orphansOf_iff.mp he).2
  simp only [orphaned, Bool.and_eq_true] at ho
  exact ho.1.2

/-- An orphan carries the link key of the workload's name. -/
theorem WellFormed.hasLinkKey_of_mem_orphansOf (hwf : s.WellFormed) {e : ConfigObject} (he : e ∈ s.orphansOf w) :
    e.hasLinkKey w.metadata.nameAny = true :=
  ConfigObject.hasLinkKey_of_ownsLink (hwf.ownsLink_of_mem_orphansOf he)

/-- An object with the identity of a current child is no orphan. -/
theorem orphaned_of_identity {c o : ConfigObject} (hc : c ∈ s.currentOf w) (hid : o.identity = c.identity) :
    s.orphaned w o = false := by
  obtain ⟨b, hb, rfl⟩ := List.mem_map.mp hc
  have hall : (s.bindingsAt w.metadata.nsOrEmpty w.references).all (fun b => b.object.identity != o.identity) = false :=
    List.all_eq_false.mpr ⟨b, hb, by simp [hid]⟩
  simp [orphaned, hall]

/-- Linking the current children leaves every orphan as it was stored. -/
theorem WellFormed.config?_linkedFor_of_mem_orphansOf (hwf : s.WellFormed) {e : ConfigObject} (he : e ∈ s.orphansOf w) :
    (s.linkedFor w).config? e.key = some e := by
  have hex : ∀ e ∈ s.ownedBy w.metadata.nsOrEmpty w.metadata.nameAny w.kind, s.config? e.key = some e :=
    fun e he => (hwf.mem_ownedBy_iff.mp he).1
  unfold MemoryStore.linkedFor linkStep
  have hkey : e.key ∉ (s.currentOf w).map ConfigObject.key :=
    orphan_key_not_mem hex (fun b hb => hwf.config?_of_mem_bindingsAt hb) he
  rw [config?_foldl_editStep_of_not_mem _ _ _ (keepsKey_setOwnerLink _ _) _ _ hkey]
  exact hwf.config?_of_mem_orphansOf he

@[simp] theorem updateFails_linkedFor (o : ConfigObject) : (s.linkedFor w).updateFails o = s.updateFails o := by
  simp [linkedFor, linkStep]

@[simp] theorem updateFails_unlinkedFor (o : ConfigObject) : (s.unlinkedFor w).updateFails o = s.updateFails o := by
  simp [unlinkedFor, unlinkStep]

/-- After the links, a used object that still needs a link is one whose link was refused. -/
theorem WellFormed.needsLink_linkedFor_iff (hwf : s.WellFormed) (o : ConfigObject) :
    (s.linkedFor w).config? o.key = some o ∧ (o.hasOwnerLink w.metadata.nameAny = false ∧ w.usesKey o.key = true) ↔
      s.config? o.key = some o ∧ (o.hasOwnerLink w.metadata.nameAny = false ∧ w.usesKey o.key = true) ∧
        s.updateFails o = true := by
  refine (config?_foldl_editStep_residue _ _ _ (keepsKey_setOwnerLink _ _) _ _
    (fun c hc => hwf.config?_of_mem_currentOf hc) hwf.nodup_currentOf_keys
    (fun o => o.hasOwnerLink w.metadata.nameAny = false ∧ w.usesKey o.key = true)
    (fun c _ h => by simp [ConfigObject.hasOwnerLink_setOwnerLink] at h) o).trans ?_
  refine and_congr_right (fun hs => and_congr_right (fun hp => ?_))
  have hc : o ∈ s.currentOf w := hwf.mem_currentOf_iff.mpr ⟨hs, hp.2⟩
  simp [hc, writes, hp.1]

/-- The unlinks touch no used object. -/
theorem WellFormed.needsLink_unlinkedFor_iff (hwf : s.WellFormed) (o : ConfigObject) :
    (s.unlinkedFor w).config? o.key = some o ∧ (o.hasOwnerLink w.metadata.nameAny = false ∧ w.usesKey o.key = true) ↔
      s.config? o.key = some o ∧ (o.hasOwnerLink w.metadata.nameAny = false ∧ w.usesKey o.key = true) ∧
        s.updateFails o = true := by
  rw [← hwf.needsLink_linkedFor_iff o]
  refine (config?_foldl_editStep_residue _ _ _ (keepsKey_removeOwnerLink _) _ _
    (fun e he => hwf.config?_linkedFor_of_mem_orphansOf he) hwf.nodup_orphansOf_keys
    (fun o => o.hasOwnerLink w.metadata.nameAny = false ∧ w.usesKey o.key = true)
    (fun e he h => by simp [hwf.usesKey_of_mem_orphansOf he] at h) o).trans ?_
  refine and_congr_right (fun _ => ⟨fun h => h.1, fun hp => ⟨hp, fun he => ?_⟩⟩)
  have := hp.2
  rw [hwf.usesKey_of_mem_orphansOf he] at this
  cases this

/-- The links make no new orphan and keep every orphan. -/
theorem WellFormed.orphan_linkedFor_iff (hwf : s.WellFormed) (o : ConfigObject) :
    (s.linkedFor w).config? o.key = some o ∧ s.orphaned w o = true ↔
      s.config? o.key = some o ∧ s.orphaned w o = true := by
  refine (config?_foldl_editStep_residue _ _ _ (keepsKey_setOwnerLink _ _) _ _
    (fun c hc => hwf.config?_of_mem_currentOf hc) hwf.nodup_currentOf_keys (fun o => s.orphaned w o = true)
    (fun c hc h => by rw [orphaned_of_identity hc (by simp)] at h; cases h) o).trans ?_
  refine and_congr_right (fun _ => ⟨fun h => h.1, fun hp => ⟨hp, fun hc => ?_⟩⟩)
  rw [orphaned_of_identity hc rfl] at hp
  cases hp

/-- After the unlinks, an orphan left is one whose unlink was refused. -/
theorem WellFormed.orphan_unlinkedFor_iff (hwf : s.WellFormed) (o : ConfigObject) :
    (s.unlinkedFor w).config? o.key = some o ∧ s.orphaned w o = true ↔
      s.config? o.key = some o ∧ s.orphaned w o = true ∧ s.updateFails o = true := by
  refine (config?_foldl_editStep_residue _ _ _ (keepsKey_removeOwnerLink _) _ _
    (fun e he => hwf.config?_linkedFor_of_mem_orphansOf he) hwf.nodup_orphansOf_keys (fun o => s.orphaned w o = true)
    (fun e he h => ?_) o).trans ?_
  rotate_left
  · rw [← and_assoc, hwf.orphan_linkedFor_iff o, and_assoc]
    refine and_congr_right (fun hs => and_congr_right (fun hp => ?_))
    have he : o ∈ s.orphansOf w := hwf.mem_orphansOf_iff.mpr ⟨hs, hp⟩
    simp [he, writes, hwf.hasLinkKey_of_mem_orphansOf he]
  · -- an unlinked orphan owns its link no more
    simp [orphaned, ConfigObject.ownsLink_removeOwnerLink] at h

end ActiveStages


/-! ## The work left after a stage, as lists -/

section Left

variable {s t : MemoryStore} {w : Workload}

/-- The current children left without a link after a stage are, up to order, those the first store
left unlinked and whose write was refused, as soon as the two stores agree on which stored objects
those are. -/
theorem WellFormed.perm_needsLink (hwf : s.WellFormed) (hwft : t.WellFormed)
    (ht : ∀ o, t.config? o.key = some o ∧ (o.hasOwnerLink w.metadata.nameAny = false ∧ w.usesKey o.key = true) ↔
      s.config? o.key = some o ∧ (o.hasOwnerLink w.metadata.nameAny = false ∧ w.usesKey o.key = true) ∧
        s.updateFails o = true) :
    ((t.currentOf w).filter (!·.hasOwnerLink w.metadata.nameAny)).Perm
      (((s.currentOf w).filter (!·.hasOwnerLink w.metadata.nameAny)).filter s.updateFails) := by
  refine (List.perm_ext_iff_of_nodup ((hwft.nodup_currentOf_keys.of_map _).filter _)
    (((hwf.nodup_currentOf_keys.of_map _).filter _).filter _)).mpr (fun o => ?_)
  simp only [List.mem_filter, hwft.mem_currentOf_iff, hwf.mem_currentOf_iff, Bool.not_eq_true']
  constructor
  · rintro ⟨⟨hs, hu⟩, hl⟩
    obtain ⟨hs', ⟨hl', hu'⟩, hf⟩ := (ht o).mp ⟨hs, hl, hu⟩
    exact ⟨⟨⟨hs', hu'⟩, hl'⟩, hf⟩
  · rintro ⟨⟨⟨hs, hu⟩, hl⟩, hf⟩
    obtain ⟨hs', hl', hu'⟩ := (ht o).mpr ⟨hs, ⟨hl, hu⟩, hf⟩
    exact ⟨⟨hs', hu'⟩, hl'⟩

/-- The orphans left after a stage are, up to order, the first store's orphans that pass `q`, as
soon as the stored orphans of the later store are those that pass `q`. -/
theorem WellFormed.perm_orphansOf (hwf : s.WellFormed) (hwft : t.WellFormed) (hid : t.orphaned w = s.orphaned w)
    (q : ConfigObject → Bool)
    (ht : ∀ o, t.config? o.key = some o ∧ s.orphaned w o = true ↔
      s.config? o.key = some o ∧ s.orphaned w o = true ∧ q o = true) :
    (t.orphansOf w).Perm ((s.orphansOf w).filter q) := by
  refine (List.perm_ext_iff_of_nodup (hwft.nodup_orphansOf_keys.of_map _)
    ((hwf.nodup_orphansOf_keys.of_map _).filter _)).mpr (fun o => ?_)
  rw [List.mem_filter, hwft.mem_orphansOf_iff, hwf.mem_orphansOf_iff, hid, ht o, and_assoc]

/-- The objects a workload owns are the stored objects of its namespace whose link it owns. -/
theorem WellFormed.mem_ownedOf_iff (hwf : s.WellFormed) {e : ConfigObject} :
    e ∈ s.ownedOf w ↔
      s.config? e.key = some e ∧ (e.key.ns = w.metadata.nsOrEmpty ∧ e.ownsLink w.metadata.nameAny w.kind.name = true) :=
  hwf.mem_ownedBy_iff

/-- After the strip, an owned object left is one whose unlink was refused. -/
theorem WellFormed.owned_strippedFor_iff (hwf : s.WellFormed) (o : ConfigObject) :
    (s.strippedFor w).config? o.key = some o ∧
        (o.key.ns = w.metadata.nsOrEmpty ∧ o.ownsLink w.metadata.nameAny w.kind.name = true) ↔
      s.config? o.key = some o ∧ (o.key.ns = w.metadata.nsOrEmpty ∧ o.ownsLink w.metadata.nameAny w.kind.name = true) ∧
        s.updateFails o = true := by
  refine (config?_foldl_editStep_residue _ _ _ (keepsKey_removeOwnerLink _) _ _
    (fun e he => (hwf.mem_ownedOf_iff.mp he).1) (hwf.nodup_ownedBy_keys _ _ _)
    (fun o => o.key.ns = w.metadata.nsOrEmpty ∧ o.ownsLink w.metadata.nameAny w.kind.name = true)
    (fun e he h => ?_) o).trans ?_
  · -- a stripped object owns its link no more
    simp [ConfigObject.ownsLink_removeOwnerLink] at h
  · refine and_congr_right (fun hs => and_congr_right (fun hp => ?_))
    have he : o ∈ s.ownedOf w := hwf.mem_ownedOf_iff.mpr ⟨hs, hp⟩
    have hkey : o.hasLinkKey w.metadata.nameAny = true := ConfigObject.hasLinkKey_of_ownsLink hp.2
    simp [he, writes, hkey]

/-- After the strip writes a workload still owns, up to order, exactly the objects whose write was
refused. -/
theorem WellFormed.perm_ownedOf_strippedFor (hwf : s.WellFormed) :
    ((s.strippedFor w).ownedOf w).Perm ((s.ownedOf w).filter s.updateFails) := by
  have hwft : (s.strippedFor w).WellFormed := hwf.strippedFor
  have hnodup : ∀ u : MemoryStore, u.WellFormed → (u.ownedOf w).Nodup :=
    fun u hu => (hu.nodup_ownedBy_keys _ _ _).of_map _
  refine (List.perm_ext_iff_of_nodup (hnodup _ hwft) ((hnodup _ hwf).filter _)).mpr (fun o => ?_)
  rw [List.mem_filter, hwft.mem_ownedOf_iff, hwf.mem_ownedOf_iff, hwf.owned_strippedFor_iff o]
  exact and_assoc.symm

end Left

/-! ## The events of the stages -/

section Events

variable (s : MemoryStore) (w : Workload)

/-- Linking publishes one `AddWatch` event per current child it writes, in order. -/
theorem events_linkedFor :
    (s.linkedFor w).events = s.events ++ ((s.currentOf w).filter
      (s.writes (·.hasOwnerLink w.metadata.nameAny))).map (ConfigObject.eventFor addWatchReason) := by
  unfold MemoryStore.linkedFor linkStep
  rw [events_foldl_editStep]
  rfl

/-- Unlinking publishes one `RemoveWatch` event per orphan it writes, in order, after the events of
linking. -/
theorem events_unlinkedFor :
    (s.unlinkedFor w).events = (s.linkedFor w).events ++ ((s.orphansOf w).filter
      (s.writes (!·.hasLinkKey w.metadata.nameAny))).map (ConfigObject.eventFor removeWatchReason) := by
  have hw : (s.linkedFor w).writes (!·.hasLinkKey w.metadata.nameAny) = s.writes (!·.hasLinkKey w.metadata.nameAny) := by
    funext c
    simp [writes]
  unfold MemoryStore.unlinkedFor unlinkStep
  rw [events_foldl_editStep, hw]
  rfl

/-- Stripping publishes one `RemoveWatch` event per owned object it writes, in order. -/
theorem events_strippedFor :
    (s.strippedFor w).events = s.events ++ ((s.ownedOf w).filter
      (s.writes (!·.hasLinkKey w.metadata.nameAny))).map (ConfigObject.eventFor removeWatchReason) := by
  unfold MemoryStore.strippedFor unlinkStep
  rw [events_foldl_editStep]
  rfl

variable {s w}

/-- A successful active run publishes the events of its link and unlink writes and no other. -/
theorem events_handleActive_ok (hwf : s.WellFormed)
    (hok : (((handleActive w).run : StateM MemoryStore _).run s).1 = .ok ()) :
    (((handleActive w).run : StateM MemoryStore _).run s).2.events = (s.unlinkedFor w).events := by
  obtain ⟨-, -, h⟩ := handleActive_ok_folds hwf hok
  rw [h]
  dsimp only
  split <;> rfl

/-- A successful deleting run publishes the events of its strip writes and no other. -/
theorem events_handleDeleting_ok (hwf : s.WellFormed)
    (hok : (((handleDeleting w).run : StateM MemoryStore _).run s).1 = .ok ()) :
    (((handleDeleting w).run : StateM MemoryStore _).run s).2.events = (s.strippedFor w).events := by
  obtain ⟨-, h⟩ := handleDeleting_ok_folds hwf hok
  rw [h]
  dsimp only
  split <;> rfl

end Events

/-! ## The workloads a successful run leaves -/

/-- A successful active run writes the workload's desired state exactly when it differs from the
stored workload. -/
theorem workloads_handleActive_ok {s : MemoryStore} {w : Workload} (hwf : s.WellFormed)
    (hok : (((handleActive w).run : StateM MemoryStore _).run s).1 = .ok ()) :
    (((handleActive w).run : StateM MemoryStore _).run s).2.workloads =
      (if Workload.desired w (s.bindingsAt w.metadata.nsOrEmpty w.references) = w then s
        else s.commitWorkload (Workload.desired w (s.bindingsAt w.metadata.nsOrEmpty w.references))).workloads := by
  obtain ⟨-, -, h⟩ := handleActive_ok_folds hwf hok
  rw [h]
  dsimp only
  split <;> simp [commitWorkload, linkStep, unlinkStep]

/-- A successful deleting run writes the workload without its finalizer exactly when that removes
something. -/
theorem workloads_handleDeleting_ok {s : MemoryStore} {w : Workload} (hwf : s.WellFormed)
    (hok : (((handleDeleting w).run : StateM MemoryStore _).run s).1 = .ok ()) :
    (((handleDeleting w).run : StateM MemoryStore _).run s).2.workloads =
      (if w.removeFinalizer = w then s else s.commitWorkload w.removeFinalizer).workloads := by
  obtain ⟨-, h⟩ := handleDeleting_ok_folds hwf hok
  rw [h]
  dsimp only
  split <;> simp [commitWorkload, unlinkStep]


/-! ## The retry of an active run -/

section ActiveRetry

variable {s t : MemoryStore} {w : Workload}

/-- From a store that did part of the work of a successful active run, a run without failures
succeeds when one from the first store does, and leaves the same config objects and workloads:
it sees the same orphans and the same content, and redoing what is done changes nothing. -/
theorem WellFormed.handleActive_retry_state (hwf : s.WellFormed) (hwft : t.WellFormed)
    (hP : s.Progress t (s.afterActive w)) (hW : t.workloads = s.workloads)
    (hstored : Table.lookup w.key s.workloads = some w)
    (hok : (((handleActive w).run : StateM MemoryStore _).run s.withoutFailures).1 = .ok ()) :
    (((handleActive w).run : StateM MemoryStore _).run t.withoutFailures).1 = .ok () ∧
      (∀ k, (((handleActive w).run : StateM MemoryStore _).run t.withoutFailures).2.config? k =
        (((handleActive w).run : StateM MemoryStore _).run s.withoutFailures).2.config? k) ∧
      (((handleActive w).run : StateM MemoryStore _).run t.withoutFailures).2.workloads =
        (((handleActive w).run : StateM MemoryStore _).run s.withoutFailures).2.workloads := by
  obtain ⟨ns, hns⟩ := ns_of_handleActive_ok hok
  have hwf₀ := hwf.withoutFailures
  have hwft₀ := hwft.withoutFailures
  -- the run from `s` could fetch every required object, and `t` stores the same keys
  obtain ⟨-, hF, -⟩ := (handleActive_ok_iff hwf₀ hns hstored).mp hok
  have hok' : (((handleActive w).run : StateM MemoryStore _).run t.withoutFailures).1 = .ok () := by
    refine handleActive_ok_of_no_failures hwft₀ hns (by rw [workloads_withoutFailures, hW]; exact hstored)
      ⟨rfl, rfl, rfl, rfl⟩ (fun u hu hr => ?_)
    rw [config?_withoutFailures, hP.isSome_config?]
    exact (hF u hu).2 hr
  -- the run from `t` tells the same orphans and hashes the same content
  have hafter : t.afterActive w = s.afterActive w := by
    have hid := hP.map_bindingsAt (·.object.identity) (fun o _ => identity_afterActive o)
      w.metadata.nsOrEmpty w.references
    funext o
    unfold afterActive
    rw [orphaned_congr hid]
  have hfp : fingerprint (t.bindingsAt w.metadata.nsOrEmpty w.references) =
      fingerprint (s.bindingsAt w.metadata.nsOrEmpty w.references) :=
    fingerprint_congr (hP.map_bindingsAt Binding.content (fun o spec => content_afterActive o spec) _ _)
  refine ⟨hok', fun k => ?_, ?_⟩
  · rw [config?_handleActive hwft₀ hok' k, config?_handleActive hwf₀ hok k, config?_withoutFailures,
      config?_withoutFailures, afterActive_withoutFailures, afterActive_withoutFailures, hafter]
    rcases hP k with h | h <;> rw [h]
    rcases hk : s.config? k with _ | o
    · rfl
    · rw [Option.map_some, Option.map_some, afterActive_afterActive]
  · rw [workloads_handleActive_ok hwft₀ hok', workloads_handleActive_ok hwf₀ hok, bindingsAt_withoutFailures,
      bindingsAt_withoutFailures, Workload.desired_congr w hfp]
    split
    · exact hW
    · simp [MemoryStore.commitWorkload, hW]

/-- A successful active run without failures links every current child that needs it and
unlinks every orphan, one event each. -/
theorem WellFormed.events_handleActive_clean (hwf : s.WellFormed)
    (hok : (((handleActive w).run : StateM MemoryStore _).run s.withoutFailures).1 = .ok ()) :
    (((handleActive w).run : StateM MemoryStore _).run s.withoutFailures).2.events =
      s.events ++ (((s.currentOf w).filter (!·.hasOwnerLink w.metadata.nameAny)).map
        (ConfigObject.eventFor addWatchReason) ++ (s.orphansOf w).map (ConfigObject.eventFor removeWatchReason)) := by
  rw [events_handleActive_ok hwf.withoutFailures hok, events_unlinkedFor, events_linkedFor]
  simp only [events_withoutFailures, currentOf_withoutFailures, orphansOf_withoutFailures,
    writes_withoutFailures, Bool.not_not, List.append_assoc]
  rw [List.filter_eq_self.mpr (fun e he => hwf.hasLinkKey_of_mem_orphansOf he)]

/-- The link writes and the unlink writes of a failed active run, and those of its retry, are
those of one run without failures. -/
theorem WellFormed.handleActive_retry_events (hwf : s.WellFormed) (ht : t = s.linkedFor w ∨ t = s.unlinkedFor w)
    (hok₀ : (((handleActive w).run : StateM MemoryStore _).run s.withoutFailures).1 = .ok ())
    (hok : (((handleActive w).run : StateM MemoryStore _).run t.withoutFailures).1 = .ok ()) :
    ∃ e₁ e₂ e₀, t.events = s.events ++ e₁ ∧
      (((handleActive w).run : StateM MemoryStore _).run t.withoutFailures).2.events = t.events ++ e₂ ∧
      (((handleActive w).run : StateM MemoryStore _).run s.withoutFailures).2.events = s.events ++ e₀ ∧
      (e₁ ++ e₂).Perm e₀ := by
  have hwft : t.WellFormed := by
    rcases ht with rfl | rfl
    exacts [hwf.linkedFor, hwf.unlinkedFor]
  have hP : s.Progress t (s.afterActive w) := by
    rcases ht with rfl | rfl
    exacts [hwf.progress_linkedFor, hwf.progress_unlinkedFor]
  have hid : t.orphaned w = s.orphaned w :=
    orphaned_congr (hP.map_bindingsAt (·.object.identity) (fun o _ => identity_afterActive o) _ _)
  have hres : ∀ o, t.config? o.key = some o ∧
      (o.hasOwnerLink w.metadata.nameAny = false ∧ w.usesKey o.key = true) ↔
        s.config? o.key = some o ∧ (o.hasOwnerLink w.metadata.nameAny = false ∧ w.usesKey o.key = true) ∧
          s.updateFails o = true := by
    rcases ht with rfl | rfl
    exacts [hwf.needsLink_linkedFor_iff, hwf.needsLink_unlinkedFor_iff]
  -- the link writes: made by the failed run where not refused, by the retry where refused
  have hlinks : (((s.currentOf w).filter (s.writes (·.hasOwnerLink w.metadata.nameAny))) ++
      ((t.currentOf w).filter (!·.hasOwnerLink w.metadata.nameAny))).Perm
        ((s.currentOf w).filter (!·.hasOwnerLink w.metadata.nameAny)) :=
    ((hwf.perm_needsLink hwft hres).append_left _).trans (perm_filter_writes_append s _ _)
  have hT := hwf.events_handleActive_clean hok₀
  rcases ht with rfl | rfl
  · -- stopped after the links: the retry unlinks every orphan
    have horph : ((s.linkedFor w).orphansOf w).Perm (s.orphansOf w) := by
      have h := hwf.perm_orphansOf hwft hid (fun _ => true) (fun o => by rw [hwf.orphan_linkedFor_iff o]; simp)
      rwa [List.filter_true] at h
    refine ⟨_, _, _, events_linkedFor s w, hwft.events_handleActive_clean hok, hT, ?_⟩
    rw [← List.append_assoc, ← List.map_append]
    exact (hlinks.map _).append (horph.map _)
  · -- stopped after the unlinks: the retry unlinks the orphans whose unlink was refused
    have hunlinks : (((s.orphansOf w).filter (s.writes (!·.hasLinkKey w.metadata.nameAny))) ++
        (s.unlinkedFor w).orphansOf w).Perm (s.orphansOf w) :=
      ((hwf.perm_orphansOf hwft hid s.updateFails hwf.orphan_unlinkedFor_iff).append_left _).trans
        (perm_filter_writes_append_of_not_skip s (fun e he => by simp [hwf.hasLinkKey_of_mem_orphansOf he]))
    refine ⟨_, _, _, by rw [events_unlinkedFor, events_linkedFor, List.append_assoc],
      hwft.events_handleActive_clean hok, hT, ?_⟩
    -- regroup: the link writes of both runs, then their unlink writes
    rw [List.append_assoc]
    refine (List.Perm.append_left _ (List.perm_append_comm_assoc _ _ _)).trans ?_
    rw [← List.append_assoc, ← List.map_append, ← List.map_append]
    exact (hlinks.map _).append (hunlinks.map _)

end ActiveRetry


/-! ## The retry of a deleting run -/

/-- A successful deleting run without failures strips every owned object, one event each. -/
theorem WellFormed.events_handleDeleting_clean {s : MemoryStore} {w : Workload} (hwf : s.WellFormed)
    (hok : (((handleDeleting w).run : StateM MemoryStore _).run s.withoutFailures).1 = .ok ()) :
    (((handleDeleting w).run : StateM MemoryStore _).run s.withoutFailures).2.events =
      s.events ++ (s.ownedOf w).map (ConfigObject.eventFor removeWatchReason) := by
  rw [events_handleDeleting_ok hwf.withoutFailures hok, events_strippedFor]
  simp only [events_withoutFailures, ownedOf_withoutFailures, writes_withoutFailures, Bool.not_not]
  rw [List.filter_eq_self.mpr (fun e he => ConfigObject.hasLinkKey_of_ownsLink (hwf.mem_ownedOf_iff.mp he).2.2)]

/-- After a failed deleting run, a run without failures strips what is left, and the two strip
every owned object once, as one run without failures does. -/
theorem WellFormed.handleDeleting_retry {s : MemoryStore} {w : Workload} (hwf : s.WellFormed)
    (hstored : Table.lookup w.key s.workloads = some w)
    (hok₀ : (((handleDeleting w).run : StateM MemoryStore _).run s.withoutFailures).1 = .ok ()) :
    (((handleDeleting w).run : StateM MemoryStore _).run (s.strippedFor w).withoutFailures).1 = .ok () ∧
      (∀ k, (((handleDeleting w).run : StateM MemoryStore _).run (s.strippedFor w).withoutFailures).2.config? k =
        (((handleDeleting w).run : StateM MemoryStore _).run s.withoutFailures).2.config? k) ∧
      (((handleDeleting w).run : StateM MemoryStore _).run (s.strippedFor w).withoutFailures).2.workloads =
        (((handleDeleting w).run : StateM MemoryStore _).run s.withoutFailures).2.workloads ∧
      ∃ e₁ e₂ e₀, (s.strippedFor w).events = s.events ++ e₁ ∧
        (((handleDeleting w).run : StateM MemoryStore _).run (s.strippedFor w).withoutFailures).2.events =
          (s.strippedFor w).events ++ e₂ ∧
        (((handleDeleting w).run : StateM MemoryStore _).run s.withoutFailures).2.events = s.events ++ e₀ ∧
        (e₁ ++ e₂).Perm e₀ := by
  obtain ⟨ns, hns⟩ := ns_of_handleDeleting_ok hok₀
  have hwft : (s.strippedFor w).WellFormed := hwf.strippedFor
  have hwf₀ := hwf.withoutFailures
  have hwft₀ := hwft.withoutFailures
  have hWt : (s.strippedFor w).workloads = s.workloads := by simp [MemoryStore.strippedFor, unlinkStep]
  have hok : (((handleDeleting w).run : StateM MemoryStore _).run (s.strippedFor w).withoutFailures).1 = .ok () :=
    (handleDeleting_ok_iff hwft₀ hns (by rw [workloads_withoutFailures, hWt]; exact hstored)).mpr
      ⟨by simp [MemoryStore.withoutFailures],
        List.any_eq_false.mpr (fun c _ => by simp [unlinkFails, updateFails, MemoryStore.withoutFailures]),
        .inr rfl⟩
  refine ⟨hok, fun k => ?_, ?_, ?_⟩
  · rw [config?_handleDeleting hwft₀ hok k, config?_handleDeleting hwf₀ hok₀ k, config?_withoutFailures,
      config?_withoutFailures]
    rcases hwf.progress_strippedFor k with h | h <;> rw [h]
    rcases hk : s.config? k with _ | o
    · rfl
    · rw [Option.map_some, Option.map_some, afterDeleting_afterDeleting w]
  · rw [workloads_handleDeleting_ok hwft₀ hok, workloads_handleDeleting_ok hwf₀ hok₀]
    split
    · exact hWt
    · simp [MemoryStore.commitWorkload, hWt]
  · -- the strip writes: made by the failed run where not refused, by the retry where refused
    have hstrip : (((s.ownedOf w).filter (s.writes (!·.hasLinkKey w.metadata.nameAny))) ++
        (s.strippedFor w).ownedOf w).Perm (s.ownedOf w) :=
      (hwf.perm_ownedOf_strippedFor.append_left _).trans (perm_filter_writes_append_of_not_skip s
        (fun e he => by simp [ConfigObject.hasLinkKey_of_ownsLink (hwf.mem_ownedOf_iff.mp he).2.2]))
    refine ⟨_, _, _, events_strippedFor s w, hwft.events_handleDeleting_clean hok,
      hwf.events_handleDeleting_clean hok₀, ?_⟩
    rw [← List.map_append]
    exact hstrip.map _

/-! ## The retry of any run -/

/-- A failed reconcile writes no workload: the workload write is its last step, and a refused one
changes nothing. -/
theorem WellFormed.workloads_of_error {s : MemoryStore} (hwf : s.WellFormed) {w : Workload} {e : RollError}
    (herr : ((handleWorkload w : StateM MemoryStore _).run s).1 = .error e) :
    ((handleWorkload w : StateM MemoryStore _).run s).2.workloads = s.workloads := by
  rcases hwf.handleWorkload_error_stages herr with h | ⟨-, h | h⟩ | ⟨-, h⟩ <;> rw [h] <;>
    simp [MemoryStore.linkedFor, MemoryStore.unlinkedFor, MemoryStore.strippedFor, linkStep, unlinkStep]

/-- A failed reconcile of a stored workload, then a retry without failures from the store it
left, end as one run without failures does: same config objects, same workloads, and the events
of the two runs are those of the one. -/
theorem WellFormed.handleWorkload_retry {s s₁ : MemoryStore} (hwf : s.WellFormed) {w : Workload}
    (hstored : Table.lookup w.key s.workloads = some w) {e : RollError}
    (hfail : (handleWorkload w : StateM MemoryStore _).run s = (.error e, s₁))
    (hone : ((handleWorkload w : StateM MemoryStore _).run s.withoutFailures).1 = .ok ()) :
    ((handleWorkload w : StateM MemoryStore _).run s₁.withoutFailures).1 = .ok () ∧
      (∀ k, ((handleWorkload w : StateM MemoryStore _).run s₁.withoutFailures).2.config? k =
        ((handleWorkload w : StateM MemoryStore _).run s.withoutFailures).2.config? k) ∧
      ((handleWorkload w : StateM MemoryStore _).run s₁.withoutFailures).2.workloads =
        ((handleWorkload w : StateM MemoryStore _).run s.withoutFailures).2.workloads ∧
      ∃ e₁ e₂ e₀, s₁.events = s.events ++ e₁ ∧
        ((handleWorkload w : StateM MemoryStore _).run s₁.withoutFailures).2.events = s₁.events ++ e₂ ∧
        ((handleWorkload w : StateM MemoryStore _).run s.withoutFailures).2.events = s.events ++ e₀ ∧
        (e₁ ++ e₂).Perm e₀ := by
  have herr : ((handleWorkload w : StateM MemoryStore _).run s).1 = .error e := by rw [hfail]
  have hs₁ : ((handleWorkload w : StateM MemoryStore _).run s).2 = s₁ := by rw [hfail]
  rcases hwf.handleWorkload_error_stages herr with h | ⟨hlc, h | h⟩ | ⟨hlc, h⟩ <;> rw [hs₁] at h <;> subst h
  · -- nothing was written: the retry is the one run
    obtain ⟨e₀, he₀⟩ := events_handleWorkload_prefix hwf.withoutFailures w
    exact ⟨hone, fun _ => rfl, rfl, [], e₀, e₀, by simp, he₀, he₀, List.Perm.refl _⟩
  · rw [handleWorkload_of_active hlc] at hone ⊢
    have hW : (s.linkedFor w).workloads = s.workloads := by simp [MemoryStore.linkedFor, linkStep]
    obtain ⟨hok, hconf, hwl⟩ := hwf.handleActive_retry_state hwf.linkedFor hwf.progress_linkedFor hW hstored hone
    exact ⟨hok, hconf, hwl, hwf.handleActive_retry_events (.inl rfl) hone hok⟩
  · rw [handleWorkload_of_active hlc] at hone ⊢
    have hW : (s.unlinkedFor w).workloads = s.workloads := by
      simp [MemoryStore.unlinkedFor, MemoryStore.linkedFor, linkStep, unlinkStep]
    obtain ⟨hok, hconf, hwl⟩ := hwf.handleActive_retry_state hwf.unlinkedFor hwf.progress_unlinkedFor hW hstored hone
    exact ⟨hok, hconf, hwl, hwf.handleActive_retry_events (.inr rfl) hone hok⟩
  · rw [handleWorkload_of_deleting hlc] at hone ⊢
    exact hwf.handleDeleting_retry hstored hone


end MemoryStore

/-- A reconcile that fails, because some call to the store was refused, followed by a reconcile
of the same workload without failures, ends as one reconcile without failures from the start:
the same config objects, the same workloads, and the events published by the two runs are,
as a multiset, those published by the one. -/
theorem reconcile_retry_converges (s : MemoryStore) (hwf : s.WellFormed) (kind : WorkloadKind) (ns name : String)
    (hfail : ((reconcile kind ns name : StateM MemoryStore _).run s).1 ≠ .ok ())
    (hone : ((reconcile kind ns name : StateM MemoryStore _).run s.withoutFailures).1 = .ok ()) :
    let s₁ := ((reconcile kind ns name : StateM MemoryStore _).run s).2
    let r := (reconcile kind ns name : StateM MemoryStore _).run s₁.withoutFailures
    let t := (reconcile kind ns name : StateM MemoryStore _).run s.withoutFailures
    r.1 = .ok () ∧ (∀ k, r.2.config? k = t.2.config? k) ∧ r.2.workloads = t.2.workloads ∧
      ∃ e₁ e₂ e₀, s₁.events = s.events ++ e₁ ∧ r.2.events = s₁.events ++ e₂ ∧
        t.2.events = s.events ++ e₀ ∧ (e₁ ++ e₂).Perm e₀ := by
  intro s₁ r t
  obtain ⟨e, hpair⟩ : ∃ e, (reconcile kind ns name : StateM MemoryStore _).run s = (.error e, s₁) := by
    rcases h : ((reconcile kind ns name : StateM MemoryStore _).run s).1 with e | ⟨⟩
    · exact ⟨e, Prod.ext h rfl⟩
    · exact absurd h hfail
  simp only [r, t, reconcile_run] at hpair hone ⊢
  -- an absent workload is a successful no-op, so the failed run found one
  cases hw : s.workload? kind ns name with
  | none =>
    simp only [hw] at hpair
    nomatch congrArg Prod.fst hpair
  | some w =>
    simp only [hw] at hpair
    have herr : ((handleWorkload w : StateM MemoryStore _).run s).1 = .error e := by rw [hpair]
    have hw₁ : s₁.workload? kind ns name = some w := by
      have hs₁ : ((handleWorkload w : StateM MemoryStore _).run s).2 = s₁ := by rw [hpair]
      rw [← hw, MemoryStore.workload?, MemoryStore.workload?, ← hs₁, hwf.workloads_of_error herr]
    simp only [MemoryStore.workload?_withoutFailures, hw, hw₁] at hone ⊢
    have hstored : Table.lookup w.key s.workloads = some w := by
      rw [hwf.key_of_workload? hw]
      exact hw
    exact hwf.handleWorkload_retry hstored hpair hone

/-- A deployment that uses two config maps, where the link write to the second is refused. -/
theorem reconcile_retry_converges_refused_link :
    let optIn : Option (Dict String) := some (Dict.empty.insert Workload.optInKey "true")
    let a : ConfigObject := .configMap { name := some "a", ns := some "default" } none
    let b : ConfigObject := .configMap { name := some "b", ns := some "default" } none
    let w : Workload :=
      { kind := .deployment, metadata := { name := some "web", ns := some "default", annotations := optIn },
        template := some { spec := some { volumes := [{ configMap := some "a" }, { configMap := some "b" }] } } }
    let s : MemoryStore :=
      { workloads := [(⟨.deployment, "default", "web"⟩, w)],
        configs := [(⟨.configMap, "default", "a"⟩, a), (⟨.configMap, "default", "b"⟩, b)],
        failingUpdates := [(.configMap, "b")] }
    let s₁ := ((reconcile .deployment "default" "web" : StateM MemoryStore _).run s).2
    let r := (reconcile .deployment "default" "web" : StateM MemoryStore _).run s₁.withoutFailures
    let t := (reconcile .deployment "default" "web" : StateM MemoryStore _).run s.withoutFailures
    s.WellFormed ∧ ((reconcile .deployment "default" "web" : StateM MemoryStore _).run s).1 ≠ .ok () ∧
      t.1 = .ok () ∧
      (r.1 = .ok () ∧ (∀ k, r.2.config? k = t.2.config? k) ∧ r.2.workloads = t.2.workloads ∧
        ∃ e₁ e₂ e₀, s₁.events = s.events ++ e₁ ∧ r.2.events = s₁.events ++ e₂ ∧
          t.2.events = s.events ++ e₀ ∧ (e₁ ++ e₂).Perm e₀) := by
  intro optIn a b w s s₁ r t
  have hwf : s.WellFormed := ⟨⟨by decide, by decide⟩, ⟨by decide, by decide⟩⟩
  have hw : s.workload? .deployment "default" "web" = some w := by decide
  have hh : (handleWorkload w : StateM MemoryStore _) = (handleActive w).run := handleWorkload_of_active (by decide)
  -- the link write to b is refused, so the run stops after the link writes
  have hfail : ((reconcile .deployment "default" "web" : StateM MemoryStore _).run s).1 ≠ .ok () := by
    have hF : s.Fetchable "default" w.references := by
      unfold MemoryStore.Fetchable
      decide
    rw [reconcile_run, hw]
    dsimp only
    rw [hh, hwf.handleActive_run_of_reads rfl (fun k => by simp [s]) hF, if_pos (by decide)]
    nofun
  have hone : t.1 = .ok () := by
    show ((reconcile .deployment "default" "web" : StateM MemoryStore _).run s.withoutFailures).1 = _
    rw [reconcile_run, MemoryStore.workload?_withoutFailures, hw]
    dsimp only
    rw [hh]
    exact handleActive_ok_of_no_failures hwf.withoutFailures rfl hw ⟨rfl, rfl, rfl, rfl⟩ (by decide)
  exact ⟨hwf, hfail, hone, reconcile_retry_converges s hwf _ _ _ hfail hone⟩

end ConfigRollout
