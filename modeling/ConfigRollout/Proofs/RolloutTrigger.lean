import ConfigRollout.Proofs.ActiveReconcile
import ConfigRollout.Proofs.FingerprintText

/-!
# What rolls a workload

A workload rolls when the config hash on its pod template changes. After a successful active
reconcile that hash is the fingerprint of the current children (`configHash_handleActive`),
and the fingerprint reads the hash source and nothing else. The source records, for each use
of the workload, the in-scope data of its object, and nothing for a missing one
(`WellFormed.entry_ofBindings_bindingsAt`). So two stores give one source exactly when they
agree on the presence and in-scope data of every used object
(`ofBindings_bindingsAt_eq_iff`).

Main statement (`configHash_eq_iff_sameInScope`): for two stores in which an active reconcile
succeeds, agreement on the used objects' in-scope data gives the same hash; conversely the same
hash means agreement, unless SHA-256 collides on the two texts it digests. Labels, annotations,
links, uids, versions, binary or string data, keys outside a partial use and unused objects
never roll a workload.
-/

set_option autoImplicit false

namespace ConfigRollout

open Reconcile MemoryStore

/-! ## The config hash a reconcile leaves -/

namespace Workload

variable (w : Workload)

/-- Adding the finalizer keeps the config hash. -/
@[simp] theorem configHash_addFinalizer : w.addFinalizer.configHash = w.configHash := by
  unfold addFinalizer
  split <;> rfl

@[simp] theorem configHash_written : w.written.configHash = w.configHash := rfl

/-- The desired form of a workload carries the fingerprint of its current children. -/
@[simp] theorem configHash_desired (current : List Binding) :
    (Workload.desired w current).configHash = some (fingerprint current) := by
  simp [Workload.desired]

end Workload

/-- After a successful active reconcile of a stored workload, the stored workload's config
hash is the fingerprint of its current children. -/
theorem configHash_handleActive {s : MemoryStore} {w : Workload} (hwf : s.WellFormed)
    (hstored : Table.lookup w.key s.workloads = some w)
    (hok : (((handleActive w).run : StateM MemoryStore _).run s).1 = .ok ()) :
    ((((handleActive w).run : StateM MemoryStore _).run s).2.workload? w.kind w.metadata.nsOrEmpty
      w.metadata.nameAny).bind Workload.configHash =
      some (fingerprint (s.bindingsAt w.metadata.nsOrEmpty w.references)) := by
  rw [workload?_handleActive hwf hstored hok, Option.bind_some]
  split
  · -- no write: the workload already carried the fingerprint
    rename_i hd
    have h := Workload.configHash_desired w (s.bindingsAt w.metadata.nsOrEmpty w.references)
    rwa [hd] at h
  · rw [Workload.configHash_written, Workload.configHash_desired]

/-! ## What the hash source records -/

namespace HashSource

/-- What a source records for an object of a kind and name: its in-scope data, on the side
of its kind. -/
def entry (src : HashSource) : ConfigKind → String → Option (Dict String ⊕ Dict (List UInt8))
  | .configMap, name => (src.configMaps.get? name).map .inl
  | .secret, name => (src.secrets.get? name).map .inr

/-- The empty hash source records nothing. -/
@[simp] theorem entry_empty (k : ConfigKind) (name : String) : ({} : HashSource).entry k name = none := by
  cases k <;> rfl

/-- Adding a binding records its in-scope data under its kind and name, and nothing else. -/
theorem entry_add (src : HashSource) (b : Binding) (k : ConfigKind) (name : String) :
    (src.add b).entry k name =
      if b.object.kind = k ∧ b.object.name = name then some (b.object.scopedData b.spec) else src.entry k name := by
  obtain ⟨o, spec⟩ := b
  cases o <;> cases k <;>
    simp only [add, entry, ConfigObject.kind, ConfigObject.name, ConfigObject.scopedData, ConfigObject.metadata,
      Dict.get?_insert, reduceCtorEq, true_and, false_and, if_false]
  all_goals split <;> rfl

/-- Bindings of other kinds or names leave what a source records under a kind and name. -/
theorem entry_foldl_of_not_mem (k : ConfigKind) (name : String) :
    ∀ {bs : List Binding} (src : HashSource), (∀ b ∈ bs, ¬(b.object.kind = k ∧ b.object.name = name)) →
      (bs.foldl add src).entry k name = src.entry k name
  | [], _, _ => rfl
  | b :: bs, src, h => by
      rw [List.foldl_cons, entry_foldl_of_not_mem k name _ (fun b' hb' => h b' (List.mem_cons_of_mem _ hb')),
        entry_add, if_neg (h b List.mem_cons_self)]

/-- Of bindings with distinct kinds and names, each is recorded with its in-scope data. -/
theorem entry_foldl_of_mem :
    ∀ {bs : List Binding} (src : HashSource), (bs.map (fun b => (b.object.kind, b.object.name))).Nodup →
      ∀ b ∈ bs, (bs.foldl add src).entry b.object.kind b.object.name = some (b.object.scopedData b.spec)
  | [], _, _, _, hb => absurd hb List.not_mem_nil
  | b' :: bs, src, hnd, b, hb => by
      rw [List.map_cons, List.nodup_cons] at hnd
      rw [List.foldl_cons]
      rcases List.mem_cons.mp hb with rfl | hb
      · -- the binding is the first: no later one shares its kind and name
        have hlater : ∀ b'' ∈ bs, ¬(b''.object.kind = b.object.kind ∧ b''.object.name = b.object.name) := by
          rintro b'' hb'' ⟨hk, hn⟩
          exact hnd.1 (List.mem_map.mpr ⟨b'', hb'', by rw [hk, hn]⟩)
        rw [entry_foldl_of_not_mem _ _ _ hlater, entry_add, if_pos ⟨rfl, rfl⟩]
      · exact entry_foldl_of_mem _ hnd.2 b hb

end HashSource

section Source

variable {s s₁ s₂ : MemoryStore}

/-- In a well-formed store the current children have distinct kinds and names. -/
theorem MemoryStore.WellFormed.nodup_bindingsAt_kindName (hwf : s.WellFormed) (ns : String) (w : Workload) :
    ((s.bindingsAt ns w.references).map (fun b => (b.object.kind, b.object.name))).Nodup := by
  -- a child's key is its kind and name in the namespace of the workload
  have hkeys : (s.bindingsAt ns w.references).map (fun b => b.object.key) =
      ((s.bindingsAt ns w.references).map (fun b => (b.object.kind, b.object.name))).map
        (fun p => (⟨p.1, ns, p.2⟩ : ConfigKey)) := by
    rw [List.map_map]
    refine List.map_congr_left (fun b hb => ?_)
    obtain ⟨u, -, hu, -⟩ := mem_bindingsAt.mp hb
    simp only [Function.comp, ConfigObject.key, (hwf.kind_ns_name_of_config? hu).2.1]
  have hnd := hwf.nodup_bindingsAt_keys ns w
  rw [hkeys] at hnd
  exact hnd.of_map _

/-- The source of the current children records, for each use, the in-scope data of its object,
and nothing for a missing one. -/
theorem MemoryStore.WellFormed.entry_ofBindings_bindingsAt (hwf : s.WellFormed) (ns : String) (w : Workload)
    {u : ConfigKind × String × RefSpec} (hu : u ∈ w.references.toList) :
    (HashSource.ofBindings (s.bindingsAt ns w.references)).entry u.1 u.2.1 =
      (s.config? ⟨u.1, ns, u.2.1⟩).map (·.scopedData u.2.2) := by
  unfold HashSource.ofBindings
  rcases ho : s.config? ⟨u.1, ns, u.2.1⟩ with _ | o
  · -- a missing object: no child has its kind and name
    refine (HashSource.entry_foldl_of_not_mem _ _ _ ?_).trans (HashSource.entry_empty _ _)
    rintro b hb ⟨hk, hn⟩
    obtain ⟨u', -, hu', -⟩ := mem_bindingsAt.mp hb
    obtain ⟨hk', -, hn'⟩ := hwf.kind_ns_name_of_config? hu'
    rw [← hk', ← hn'] at hu'
    rw [← hk, ← hn, hu'] at ho
    cases ho
  · -- a stored object is the child of the use
    obtain ⟨hk, -, hn⟩ := hwf.kind_ns_name_of_config? ho
    have hb : (⟨o, u.2.2⟩ : Binding) ∈ s.bindingsAt ns w.references := mem_bindingsAt.mpr ⟨u, hu, ho, rfl⟩
    have h := HashSource.entry_foldl_of_mem {} (hwf.nodup_bindingsAt_kindName ns w) _ hb
    rw [hk, hn] at h
    exact h

/-- Two stores agree on the uses of a workload: for each use, neither stores an object, or both
do and the two objects have the same in-scope data. -/
def MemoryStore.SameInScope (s₁ s₂ : MemoryStore) (ns : String) (refs : References) : Prop :=
  ∀ u ∈ refs.toList,
    (s₁.config? ⟨u.1, ns, u.2.1⟩).map (·.scopedData u.2.2) = (s₂.config? ⟨u.1, ns, u.2.1⟩).map (·.scopedData u.2.2)

/-- The contents of the current children are the names and in-scope data of the stored
objects of the uses. -/
theorem MemoryStore.WellFormed.map_content_bindingsAt (hwf : s.WellFormed) (ns : String) (refs : References) :
    (s.bindingsAt ns refs).map Binding.content =
      refs.toList.filterMap (fun u => ((s.config? ⟨u.1, ns, u.2.1⟩).map (·.scopedData u.2.2)).map (u.2.1, ·)) := by
  simp only [bindingsAt, List.map_filterMap, Option.map_map]
  refine List.filterMap_congr (fun u _ => ?_)
  rcases ho : s.config? ⟨u.1, ns, u.2.1⟩ with _ | o
  · rfl
  · -- a stored object has the name of its use
    simp [Binding.content, (hwf.kind_ns_name_of_config? ho).2.2]

/-- Two well-formed stores give one hash source for a workload's children exactly when they
agree on its uses. -/
theorem ofBindings_bindingsAt_eq_iff (hwf₁ : s₁.WellFormed) (hwf₂ : s₂.WellFormed) (ns : String) (w : Workload) :
    HashSource.ofBindings (s₁.bindingsAt ns w.references) = HashSource.ofBindings (s₂.bindingsAt ns w.references) ↔
      s₁.SameInScope s₂ ns w.references := by
  constructor
  · intro h u hu
    rw [← hwf₁.entry_ofBindings_bindingsAt ns w hu, ← hwf₂.entry_ofBindings_bindingsAt ns w hu, h]
  · intro h
    unfold HashSource.ofBindings
    apply HashSource.foldl_add_congr
    rw [hwf₁.map_content_bindingsAt, hwf₂.map_content_bindingsAt]
    exact List.filterMap_congr (fun u hu => by rw [h u hu])

end Source

/-! ## Rollouts follow the in-scope data -/

/-- For an active workload stored in two well-formed stores, on each of which its reconcile
succeeds: if the stores agree on the presence and in-scope data of every used object, the
config hash left on the stored workload is the same; if the hashes are the same, the stores
agree, unless SHA-256 collides on the two texts it digests. -/
theorem configHash_eq_iff_sameInScope (s₁ s₂ : MemoryStore) (hwf₁ : s₁.WellFormed) (hwf₂ : s₂.WellFormed)
    (w : Workload) (hstored₁ : Table.lookup w.key s₁.workloads = some w)
    (hstored₂ : Table.lookup w.key s₂.workloads = some w) (hactive : w.lifecycle = .active)
    (hok₁ : ((handleWorkload w : StateM MemoryStore _).run s₁).1 = .ok ())
    (hok₂ : ((handleWorkload w : StateM MemoryStore _).run s₂).1 = .ok ()) :
    let ns := w.metadata.nsOrEmpty
    let hash := fun s : MemoryStore =>
      (((handleWorkload w : StateM MemoryStore _).run s).2.workload? w.kind ns w.metadata.nameAny).bind
        Workload.configHash
    let digested := fun s : MemoryStore => (HashSource.ofBindings (s.bindingsAt ns w.references)).text
    (s₁.SameInScope s₂ ns w.references → hash s₁ = hash s₂) ∧
      (hash s₁ = hash s₂ → s₁.SameInScope s₂ ns w.references ∨
        (digested s₁ ≠ digested s₂ ∧ Sha256.digest (digested s₁) = Sha256.digest (digested s₂))) := by
  intro ns hash digested
  rw [handleWorkload_of_active hactive] at hok₁ hok₂
  -- on either store the hash left is the fingerprint of that store's current children
  have hhash : ∀ s : MemoryStore, s.WellFormed → Table.lookup w.key s.workloads = some w →
      (((handleActive w).run : StateM MemoryStore _).run s).1 = .ok () →
      hash s = some (fingerprint (s.bindingsAt ns w.references)) := by
    intro s hwf hstored hok
    simp only [hash, handleWorkload_of_active hactive]
    exact configHash_handleActive hwf hstored hok
  rw [hhash s₁ hwf₁ hstored₁ hok₁, hhash s₂ hwf₂ hstored₂ hok₂]
  constructor
  · intro hsame
    rw [fingerprint_eq, fingerprint_eq, (ofBindings_bindingsAt_eq_iff hwf₁ hwf₂ ns w).mpr hsame]
  · intro heq
    -- equal hexadecimal texts are equal digests
    have hdigest : Sha256.digest (digested s₁) = Sha256.digest (digested s₂) := by
      rw [fingerprint_eq, fingerprint_eq] at heq
      exact Sha256.hex_injective (Option.some.inj heq)
    by_cases htext : digested s₁ = digested s₂
    · exact .inl ((ofBindings_bindingsAt_eq_iff hwf₁ hwf₂ ns w).mp (HashSource.text_injective htext))
    · exact .inr ⟨htext, hdigest⟩

/-- A label added to a used ConfigMap leaves its data, and so the hash, as it was. -/
theorem configHash_eq_iff_sameInScope_label :
    let w : Workload :=
      { kind := .deployment,
        metadata := { name := some "web", ns := some "prod",
                      annotations := some (Dict.empty.insert Workload.optInKey "true") },
        template := some { spec := some { volumes := [{ configMap := some "app" }] } } }
    let data : Dict String := Dict.empty.insert "a" "1"
    let s₁ : MemoryStore :=
      { workloads := [(⟨.deployment, "prod", "web"⟩, w)],
        configs := [(⟨.configMap, "prod", "app"⟩, .configMap { name := some "app", ns := some "prod" } (some data))] }
    let s₂ : MemoryStore :=
      { workloads := [(⟨.deployment, "prod", "web"⟩, w)],
        configs := [(⟨.configMap, "prod", "app"⟩,
          .configMap { name := some "app", ns := some "prod", labels := some (Dict.empty.insert "team" "a") }
            (some data))] }
    let ns := w.metadata.nsOrEmpty
    let hash := fun s : MemoryStore =>
      (((handleWorkload w : StateM MemoryStore _).run s).2.workload? w.kind ns w.metadata.nameAny).bind
        Workload.configHash
    let digested := fun s : MemoryStore => (HashSource.ofBindings (s.bindingsAt ns w.references)).text
    s₁.WellFormed ∧ s₂.WellFormed ∧ ((handleWorkload w : StateM MemoryStore _).run s₁).1 = .ok () ∧
      ((handleWorkload w : StateM MemoryStore _).run s₂).1 = .ok () ∧ s₁.SameInScope s₂ ns w.references ∧
      (s₁.SameInScope s₂ ns w.references → hash s₁ = hash s₂) ∧
      (hash s₁ = hash s₂ → s₁.SameInScope s₂ ns w.references ∨
        (digested s₁ ≠ digested s₂ ∧ Sha256.digest (digested s₁) = Sha256.digest (digested s₂))) := by
  intro w data s₁ s₂ ns hash digested
  have hwf₁ : s₁.WellFormed := ⟨⟨by decide, by decide⟩, ⟨by decide, by decide⟩⟩
  have hwf₂ : s₂.WellFormed := ⟨⟨by decide, by decide⟩, ⟨by decide, by decide⟩⟩
  have hactive : w.lifecycle = .active := by decide
  have hok₁ : ((handleWorkload w : StateM MemoryStore _).run s₁).1 = .ok () := by
    rw [handleWorkload_of_active hactive]
    exact handleActive_ok_of_no_failures hwf₁ (show w.metadata.ns = some "prod" from rfl) (by decide)
      ⟨rfl, rfl, rfl, rfl⟩ (by decide)
  have hok₂ : ((handleWorkload w : StateM MemoryStore _).run s₂).1 = .ok () := by
    rw [handleWorkload_of_active hactive]
    exact handleActive_ok_of_no_failures hwf₂ (show w.metadata.ns = some "prod" from rfl) (by decide)
      ⟨rfl, rfl, rfl, rfl⟩ (by decide)
  have hsame : s₁.SameInScope s₂ ns w.references := by
    unfold MemoryStore.SameInScope
    decide
  exact ⟨hwf₁, hwf₂, hok₁, hok₂, hsame,
    configHash_eq_iff_sameInScope s₁ s₂ hwf₁ hwf₂ w (by decide) (by decide) hactive hok₁ hok₂⟩

end ConfigRollout
