import ConfigRollout.Proofs.Outcomes
import ConfigRollout.Proofs.Idempotence

/-!
# Links shared by workloads of one name

Workloads of one name and different kinds share the link key of that name on a config object.
A valid link of the name counts as linked for each of them, whatever kind it names, so the
workload that comes second reuses the link the first one wrote and never overwrites it. Only
the workload of the kind the link names owns it: when that workload no longer uses the object,
or is deleted, it removes the link, even while a workload of the same name and another kind
still uses the object and relies on the link to be triggered by its changes.

* One reconcile keeps the value of every valid link of a name `n`, unless the reconciled
  workload is named `n`, lives in the object's namespace and is of the kind the link names
  (`MemoryStore.LinkWrite.keeps_ownerLink`, `MemoryStore.WellFormed.linkWrite_reconcile`).
* Hence so does every sequence of reconciles in which no such workload is reconciled
  (`reconcileAll_keeps_link_not_owned`).
* A deployment that reuses the link of the stateful set of its name loses it when the stateful
  set, which does not use the object, is reconciled (`reconcile_same_name_strips_shared_link`).
-/

set_option autoImplicit false

namespace ConfigRollout

open Reconcile Ownership

/-- Different owner names have different link keys. -/
theorem Ownership.ownerKey_inj {a b : String} : ownerKey a = ownerKey b ↔ a = b := by
  simp [ownerKey]

namespace ConfigObject

/-- An edit of the annotation of one owner keeps the link of every other owner. -/
theorem ownerLink?_of_editsAnnotation {o o' : ConfigObject} {n' n : String} {v : Option String}
    (h : o.EditsAnnotation (ownerKey n') v o') (hne : n' ≠ n) : o'.ownerLink? n = o.ownerLink? n := by
  obtain ⟨a, rfl, ha⟩ := h
  have hk : ownerKey n ≠ ownerKey n' := fun hk => hne (ownerKey_inj.mp hk).symm
  simpa [ownerLink?, hk] using ha (ownerKey n)

/-- A workload owns a valid link only when the link names its kind. -/
theorem ownerLink?_of_ownsLink {o : ConfigObject} {n kind : String} (hl : o.hasOwnerLink n = true)
    (h : o.ownsLink n kind = true) : o.ownerLink? n = some kind := by
  unfold hasOwnerLink at hl
  unfold ownsLink at h
  cases hv : o.ownerLink? n with
  | none =>
      rw [hv] at hl
      cases hl
  | some v =>
      rw [hv] at hl h
      simp_all

/-- Whether an object has a valid link of a name depends only on that link. -/
theorem hasOwnerLink_congr {o o' : ConfigObject} {n : String} (h : o'.ownerLink? n = o.ownerLink? n) :
    o'.hasOwnerLink n = o.hasOwnerLink n := by
  simp only [hasOwnerLink, h]

end ConfigObject

namespace MemoryStore

/-- One link write by a workload named `n'` of kind `kind` keeps a valid link of `n` with its
value, unless the workload lives in the object's namespace, is named `n` and the link names
`kind`: a link is set only where there is no valid one, and removed only by its owner. -/
theorem LinkWrite.keeps_ownerLink {ns n' kind : String} {o : ConfigObject} {after : Option ConfigObject}
    (h : LinkWrite ns n' kind (some o) after) {n : String} (hl : o.hasOwnerLink n = true)
    (hown : o.key.ns = ns → n' = n → o.ownerLink? n ≠ some kind) :
    ∃ o', after = some o' ∧ o'.ownerLink? n = o.ownerLink? n := by
  rcases h with rfl | ⟨o₀, o', ho, hns, rfl, hedit⟩
  · exact ⟨o, rfl, rfl⟩
  · obtain rfl : o = o₀ := Option.some.inj ho
    refine ⟨o'.written, rfl, ?_⟩
    rw [ConfigObject.ownerLink?_written]
    by_cases hn : n' = n
    · subst hn
      rcases hedit with ⟨hnone, -⟩ | ⟨howns, -⟩
      · rw [hl] at hnone
        cases hnone
      · exact absurd (ConfigObject.ownerLink?_of_ownsLink hl howns) (hown hns rfl)
    · rcases hedit with ⟨-, he⟩ | ⟨-, he⟩ <;> exact ConfigObject.ownerLink?_of_editsAnnotation he hn

variable {s : MemoryStore}

/-- A reconcile of the stored workload of a key is at most one link write of that key's name and
kind under every config key, whatever its outcome. -/
theorem WellFormed.linkWrite_reconcile (hwf : s.WellFormed) (kind : WorkloadKind) (ns name : String)
    (k : ConfigKey) :
    LinkWrite ns name kind.name (s.config? k) (((reconcile kind ns name : StateM MemoryStore _).run s).2.config? k) := by
  rw [reconcile_run]
  cases hw : s.workload? kind ns name with
  | none => exact .inl rfl
  | some w =>
      -- the stored workload sits under its own key, so it has the key's kind, namespace and name
      have hkey := hwf.key_of_workload? hw
      simp only [Workload.key, WorkloadKey.mk.injEq] at hkey
      obtain ⟨rfl, rfl, rfl⟩ := hkey
      exact hwf.progress_handleWorkload.linkWrite hwf (fun o _ => MemoryStore.linkWrite_afterRun o) k

/-- A reconcile, whatever its outcome, keeps the store well formed. -/
theorem wellFormed_reconcile (hwf : s.WellFormed) (kind : WorkloadKind) (ns name : String) :
    ((reconcile kind ns name : StateM MemoryStore _).run s).2.WellFormed := by
  rw [reconcile_run]
  cases s.workload? kind ns name with
  | none => exact hwf
  | some w => exact wellFormed_handleWorkload hwf w

/-- The store after the stored workloads of the given keys (kind, namespace, name) are reconciled
one after another, with nothing else written in between; the outcome of each run is dropped, so
the failed runs of the sequence count as well. -/
def reconcileAll (s : MemoryStore) : List (WorkloadKind × String × String) → MemoryStore
  | [] => s
  | (kind, ns, name) :: rest => ((reconcile kind ns name : StateM MemoryStore _).run s).2.reconcileAll rest

end MemoryStore

open MemoryStore

/-- A valid link survives every reconcile of a workload that does not own it. Let the object
under a key of a well-formed store carry a valid link of the name `n`, naming a workload kind.
Reconcile any sequence of stored workloads, with any outcomes, none of which is the workload of
the object's namespace named `n` whose kind the link names. Then the object under the key still
carries the link, with the same value. So once a workload of name `n` and kind `K` has linked the
objects it uses, reconciles of workloads of other names, and of workloads of its name and other
kinds, keep every link naming `K`; a link naming another kind `K'`, which the workload reused,
survives them all except a reconcile of the workload of kind `K'` and name `n`, which may
remove it. -/
theorem reconcileAll_keeps_link_not_owned (s : MemoryStore) (hwf : s.WellFormed)
    (steps : List (WorkloadKind × String × String)) {k : ConfigKey} {o : ConfigObject} {n : String}
    (ho : s.config? k = some o) (hl : o.hasOwnerLink n = true)
    (hsteps : ∀ st ∈ steps, st.2.1 = k.ns → st.2.2 = n → o.ownerLink? n ≠ some st.1.name) :
    ∃ o', (s.reconcileAll steps).config? k = some o' ∧ o'.ownerLink? n = o.ownerLink? n ∧
      o'.hasOwnerLink n = true := by
  induction steps generalizing s o with
  | nil => exact ⟨o, ho, rfl, hl⟩
  | cons st rest ih =>
      obtain ⟨kind, ns, name⟩ := st
      have hk : o.key = k := hwf.key_of_config? ho
      -- the first reconcile keeps the link; the rest of the sequence starts from its store
      have hstep := hwf.linkWrite_reconcile kind ns name k
      rw [ho] at hstep
      obtain ⟨o₁, ho₁, hv⟩ := hstep.keeps_ownerLink hl
        (fun hns hn => hsteps _ List.mem_cons_self (by rw [← hk]; exact hns.symm) hn)
      have hl₁ : o₁.hasOwnerLink n = true := (ConfigObject.hasOwnerLink_congr hv).trans hl
      obtain ⟨o', ho', hv', hl'⟩ := ih _ (wellFormed_reconcile hwf kind ns name) ho₁ hl₁
        (fun st hst => by rw [hv]; exact hsteps st (List.mem_cons_of_mem _ hst))
      exact ⟨o', ho', hv'.trans hv, hl'⟩

/-- A ConfigMap linked by the deployment `web`: a reconcile of the stateful set `web`, which
does not use it, keeps the link. -/
theorem reconcileAll_keeps_link_not_owned_deployment :
    let optIn : Option (Dict String) := some (Dict.empty.insert Workload.optInKey "true")
    let a : ConfigObject :=
      .configMap { name := some "a", ns := some "default",
                   annotations := some (Dict.empty.insert (ownerKey "web") "Deployment") } none
    let dep : Workload :=
      { kind := .deployment, metadata := { name := some "web", ns := some "default", annotations := optIn },
        template := some { spec := some { volumes := [{ configMap := some "a" }] } } }
    let sts : Workload :=
      { kind := .statefulSet, metadata := { name := some "web", ns := some "default", annotations := optIn },
        template := some { spec := some {} } }
    let s : MemoryStore :=
      { workloads := [(⟨.deployment, "default", "web"⟩, dep), (⟨.statefulSet, "default", "web"⟩, sts)],
        configs := [(⟨.configMap, "default", "a"⟩, a)] }
    let steps : List (WorkloadKind × String × String) := [(.statefulSet, "default", "web")]
    s.WellFormed ∧ s.config? a.key = some a ∧ a.hasOwnerLink "web" = true ∧
      (∀ st ∈ steps, st.2.1 = a.key.ns → st.2.2 = "web" → a.ownerLink? "web" ≠ some st.1.name) ∧
      ∃ o', (s.reconcileAll steps).config? a.key = some o' ∧ o'.ownerLink? "web" = a.ownerLink? "web" ∧
        o'.hasOwnerLink "web" = true := by
  intro optIn a dep sts s steps
  have hwf : s.WellFormed := ⟨⟨by decide, by decide⟩, ⟨by decide, by decide⟩⟩
  have ha : s.config? a.key = some a := by decide
  have hl : a.hasOwnerLink "web" = true := by decide
  have hsteps : ∀ st ∈ steps, st.2.1 = a.key.ns → st.2.2 = "web" → a.ownerLink? "web" ≠ some st.1.name := by
    decide
  exact ⟨hwf, ha, hl, hsteps, reconcileAll_keeps_link_not_owned s hwf steps ha hl hsteps⟩

/-- The deployment `web` uses the ConfigMap `a`, whose link of `web` names the stateful set
`web`. The deployment's reconcile succeeds and reuses that link, so `a` is linked for it. The
stateful set uses nothing, owns the link and removes it in a successful reconcile of its own: a
reconcile of a workload of the deployment's name and another kind leaves `a` without a valid
link of `web`. -/
theorem reconcile_same_name_strips_shared_link :
    let optIn : Option (Dict String) := some (Dict.empty.insert Workload.optInKey "true")
    let a : ConfigObject :=
      .configMap { name := some "a", ns := some "default",
                   annotations := some (Dict.empty.insert (ownerKey "web") "StatefulSet") }
        (some (Dict.empty.insert "k" "v"))
    let dep : Workload :=
      { kind := .deployment, metadata := { name := some "web", ns := some "default", annotations := optIn },
        template := some { spec := some { volumes := [{ configMap := some "a" }] } } }
    let sts : Workload :=
      { kind := .statefulSet, metadata := { name := some "web", ns := some "default", annotations := optIn },
        template := some { spec := some {} } }
    let s₀ : MemoryStore :=
      { workloads := [(⟨.deployment, "default", "web"⟩, dep), (⟨.statefulSet, "default", "web"⟩, sts)],
        configs := [(⟨.configMap, "default", "a"⟩, a)] }
    let r₁ := (reconcile .deployment "default" "web" : StateM MemoryStore _).run s₀
    let r₂ := (reconcile .statefulSet "default" "web" : StateM MemoryStore _).run r₁.2
    s₀.WellFormed ∧ dep.usesKey a.key = true ∧
      r₁.1 = .ok () ∧ (r₁.2.config? a.key).map (·.hasOwnerLink "web") = some true ∧
      r₂.1 = .ok () ∧ (r₂.2.config? a.key).map (·.hasOwnerLink "web") = some false := by
  intro optIn a dep sts s₀ r₁ r₂
  have hwf₀ : s₀.WellFormed := ⟨⟨by decide, by decide⟩, ⟨by decide, by decide⟩⟩
  have ha₀ : s₀.config? a.key = some a := by decide
  -- the deployment's reconcile: nothing fails, and `a` already has a valid link
  have hdep : s₀.workload? .deployment "default" "web" = some dep := by decide
  have hr₁ : r₁ = (handleWorkload dep : StateM MemoryStore _).run s₀ := by
    show (reconcile .deployment "default" "web" : StateM MemoryStore _).run s₀ = _
    rw [reconcile_run, hdep]
  have hh₁ : (handleWorkload dep : StateM MemoryStore _) = (handleActive dep).run :=
    handleWorkload_of_active (by decide)
  have hok₁ : (((handleActive dep).run : StateM MemoryStore _).run s₀).1 = .ok () :=
    handleActive_ok_of_no_failures hwf₀ rfl hdep ⟨rfl, rfl, rfl, rfl⟩ (by decide)
  have ha₁ : r₁.2.config? a.key = some a := by
    rw [hr₁, hh₁, config?_handleActive hwf₀ hok₁, ha₀, Option.map_some, afterActive,
      if_pos (by decide), if_pos (by decide)]
  -- the stateful set is still stored as it was, and no failure is switched on
  have hwf₁ : r₁.2.WellFormed := hr₁ ▸ wellFormed_handleWorkload hwf₀ dep
  obtain ⟨hL₁, hG₁, hU₁, hW₁⟩ := failures_handleWorkload hwf₀ dep
  rw [← hr₁] at hL₁ hG₁ hU₁ hW₁
  have hsts : r₁.2.workload? .statefulSet "default" "web" = some sts := by
    rw [hr₁, workload?_handleWorkload_of_ne hwf₀ dep (by decide)]
    decide
  -- the stateful set's reconcile: it uses nothing, and `a` is an orphan whose link it owns
  have hr₂ : r₂ = (handleWorkload sts : StateM MemoryStore _).run r₁.2 := by
    show (reconcile .statefulSet "default" "web" : StateM MemoryStore _).run r₁.2 = _
    rw [reconcile_run, hsts]
  have hh₂ : (handleWorkload sts : StateM MemoryStore _) = (handleActive sts).run :=
    handleWorkload_of_active (by decide)
  have hrefs : sts.references.toList = [] := by decide
  have hok₂ : (((handleActive sts).run : StateM MemoryStore _).run r₁.2).1 = .ok () :=
    handleActive_ok_of_no_failures hwf₁ rfl hsts ⟨hL₁, hG₁, hU₁, hW₁⟩ (by simp [hrefs])
  have horph : r₁.2.orphaned sts a = true := by
    simp only [orphaned, bindingsAt, hrefs, List.filterMap_nil, List.all_nil, Bool.and_true]
    decide
  have ha₂ : r₂.2.config? a.key = some (a.removeOwnerLink "web").written := by
    rw [hr₂, hh₂, config?_handleActive hwf₁ hok₂, ha₁, Option.map_some, afterActive,
      if_neg (by decide), if_pos horph]
    rfl
  refine ⟨hwf₀, by decide, by rw [hr₁, hh₁]; exact hok₁, by rw [ha₁]; decide, ?_, by rw [ha₂]; decide⟩
  rw [hr₂, hh₂]
  exact hok₂

end ConfigRollout
