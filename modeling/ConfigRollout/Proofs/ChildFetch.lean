import ConfigRollout.Proofs.KeyOrder
import ConfigRollout.Reconcile.Children
import ConfigRollout.Store.Memory

/-!
# Fetching the current children, over any store

Gathering the current children of a workload runs one get per use, in reference order, and
nothing else; what it answers is then a function of the uses and of the answers of their gets
(`fetchOutcome`). An answer fails the whole when it is a store error, or says that a required
object is missing (`fetchFails`); a missing object that is not required is left out.

Main statement (`currentChildren_all_or_nothing`): over every lawful monad with a store, the
current children are the gets of the uses followed by `fetchOutcome`: the found objects with
their uses, in order, when no answer fails, and otherwise a fetch failure that names every
failing use as `Kind/name`, in order. The uses name distinct objects, so each object is
fetched once.
-/

set_option autoImplicit false

namespace ConfigRollout.Reconcile

/-- What a fetch asks for: the kind and name of an object and the way it is used. -/
abbrev Use := ConfigKind × String × RefSpec

/-- What a get answers: the object, none when it is missing, or a store error. -/
abbrev GetAnswer := Except RollError (Option ConfigObject)

/-- Whether the answer to a get fails the whole fetch: a store error, or a required object
missing. -/
def fetchFails (use : Use) : GetAnswer → Bool
  | .error _ => true
  | .ok none => use.2.2.required
  | .ok (some _) => false

/-- The binding of a found object to its use. -/
def foundBinding (use : Use) : GetAnswer → Option Binding
  | .ok (some o) => some ⟨o, use.2.2⟩
  | _ => none

/-- The failure that a failing answer reports, under its use's kind and name. -/
def childFailure (ns : String) (use : Use) : GetAnswer → Option ChildError
  | .error e => some (.mk use.1.name use.2.1 e)
  | .ok none => if use.2.2.required then some (.mk use.1.name use.2.1 (.notFound use.1.name ns use.2.1)) else none
  | .ok (some _) => none

/-- `Kind/name` of a use. -/
def useLabel (use : Use) : String :=
  use.1.name ++ "/" ++ use.2.1

/-- What the fetch answers, from the uses paired with the answers of their gets. -/
def fetchOutcome (ns : String) (ps : List (Use × GetAnswer)) : Except RollError (List Binding) :=
  if ps.any (fun p => fetchFails p.1 p.2) then .error (.fetchChildren (ps.filterMap (fun p => childFailure ns p.1 p.2)))
  else .ok (ps.filterMap (fun p => foundBinding p.1 p.2))

/-! ## The fan-out -/

section Fanout

variable {m : Type → Type} [Monad m]

/-- A list of computations, each followed by a pure step, is the list of computations followed
by the steps on the pairs of inputs and results. -/
theorem mapM_bind_pure [LawfulMonad m] {α β γ : Type} (f : α → m β) (g : α → β → γ) (l : List α) :
    l.mapM (fun a => f a >>= fun b => pure (g a b)) = l.mapM f >>= fun bs => pure ((l.zip bs).map (fun p => g p.1 p.2)) := by
  induction l with
  | nil => simp
  | cons a rest ih =>
      simp only [List.mapM_cons, ih, bind_assoc, pure_bind, List.zip_cons_cons, List.map_cons]

/-- The answer a fetch of one use gives from the answer of its get. -/
def childAnswer (ns : String) (use : Use) (r : GetAnswer) : Except ChildError (Option Binding) :=
  match childFailure ns use r with
  | some e => .error e
  | none => .ok (foundBinding use r)

/-- Fetching one use is its get followed by a pure reading of the answer. -/
theorem fetchChild_eq [ObjectStore m] (ns : String) (use : Use) :
    (fetchChild ns use : m _) = ObjectStore.getConfig use.1 ns use.2.1 >>= fun r => pure (childAnswer ns use r) := by
  obtain ⟨k, n, spec⟩ := use
  simp only [fetchChild]
  congr 1
  funext r
  rcases r with e | _ | o
  · rfl
  · by_cases hr : spec.required <;> simp [childAnswer, childFailure, foundBinding, hr]
  · rfl

end Fanout

/-! ## Collecting the answers -/

/-- Collecting one more answer adds its failure and its binding, if any, in front. -/
theorem collect_cons_childAnswer (ns : String) (use : Use) (r : GetAnswer) (xs : List (Except ChildError (Option Binding))) :
    collect (childAnswer ns use r :: xs) =
      ((childFailure ns use r).toList ++ (collect xs).1, (foundBinding use r).toList ++ (collect xs).2) := by
  rcases r with e | _ | o
  · rfl
  · by_cases hr : use.2.2.required <;> simp [childAnswer, childFailure, foundBinding, collect, hr]
  · rfl

/-- Collecting the answers of a fetch gives the failures and the found bindings, each in order. -/
theorem collect_map_childAnswer (ns : String) (ps : List (Use × GetAnswer)) :
    collect (ps.map (fun p => childAnswer ns p.1 p.2)) =
      (ps.filterMap (fun p => childFailure ns p.1 p.2), ps.filterMap (fun p => foundBinding p.1 p.2)) := by
  induction ps with
  | nil => rfl
  | cons p rest ih =>
      rw [List.map_cons, collect_cons_childAnswer, ih, List.filterMap_cons, List.filterMap_cons]
      cases childFailure ns p.1 p.2 <;> cases foundBinding p.1 p.2 <;> rfl

/-- An answer gives a failure exactly when it fails the fetch. -/
theorem childFailure_isSome (ns : String) (use : Use) (r : GetAnswer) :
    (childFailure ns use r).isSome = fetchFails use r := by
  rcases r with e | _ | o
  · rfl
  · by_cases hr : use.2.2.required <;> simp [childFailure, fetchFails, hr]
  · rfl

/-- No answer gives a failure exactly when no answer fails the fetch. -/
theorem filterMap_childFailure_isEmpty (ns : String) (ps : List (Use × GetAnswer)) :
    (ps.filterMap (fun p => childFailure ns p.1 p.2)).isEmpty = !ps.any (fun p => fetchFails p.1 p.2) := by
  induction ps with
  | nil => rfl
  | cons p rest ih =>
      rw [List.filterMap_cons, List.any_cons, ← childFailure_isSome ns]
      cases childFailure ns p.1 p.2 <;> simp [ih]

/-- The failure of an answer that fails the fetch is labelled by its use as `Kind/name`. -/
theorem label_childFailure (ns : String) (use : Use) (r : GetAnswer) :
    (childFailure ns use r).map ChildError.label = if fetchFails use r then some (useLabel use) else none := by
  rcases r with e | _ | o
  · rfl
  · by_cases hr : use.2.2.required <;> simp [childFailure, fetchFails, ChildError.label, useLabel, hr]
  · rfl

/-- The failures of a fetch are labelled by the failing uses, in order. -/
theorem label_filterMap_childFailure (ns : String) (ps : List (Use × GetAnswer)) :
    (ps.filterMap (fun p => childFailure ns p.1 p.2)).map ChildError.label =
      (ps.filter (fun p => fetchFails p.1 p.2)).map (fun p => useLabel p.1) := by
  induction ps with
  | nil => rfl
  | cons p rest ih =>
      have hsome := childFailure_isSome ns p.1 p.2
      have hlabel := label_childFailure ns p.1 p.2
      rw [List.filterMap_cons, List.filter_cons]
      rcases hc : childFailure ns p.1 p.2 with _ | e
      · -- no failure reported: the answer does not fail
        rw [hc] at hsome
        simp [← hsome, ih]
      · rw [hc] at hsome hlabel
        rw [← hsome] at hlabel
        simp only [Option.isSome_some, if_true, Option.map_some, Option.some.injEq] at hlabel
        simp [← hsome, hlabel, ih]

/-- The fetch finds its bindings exactly when no answer fails; they are then the found objects
with their uses, in order. -/
theorem fetchOutcome_eq_ok_iff (ns : String) (ps : List (Use × GetAnswer)) (bs : List Binding) :
    fetchOutcome ns ps = .ok bs ↔
      (∀ p ∈ ps, fetchFails p.1 p.2 = false) ∧ bs = ps.filterMap (fun p => foundBinding p.1 p.2) := by
  unfold fetchOutcome
  by_cases hany : ps.any (fun p => fetchFails p.1 p.2) = true
  · obtain ⟨p, hp, hf⟩ := List.any_eq_true.mp hany
    simp only [hany, if_true, reduceCtorEq, false_iff, not_and]
    intro hall
    rw [hall p hp] at hf
    cases hf
  · have hall : ∀ p ∈ ps, fetchFails p.1 p.2 = false := by
      simpa using hany
    rw [if_neg hany]
    constructor
    · intro h
      exact ⟨hall, (Except.ok.inj h).symm⟩
    · rintro ⟨-, rfl⟩
      rfl

/-- When an answer fails, the fetch fails and names every failing use, in order. -/
theorem fetchOutcome_of_fails (ns : String) (ps : List (Use × GetAnswer))
    (h : ∃ p ∈ ps, fetchFails p.1 p.2 = true) :
    ∃ errors, fetchOutcome ns ps = .error (.fetchChildren errors) ∧
      errors.map ChildError.label = (ps.filter (fun p => fetchFails p.1 p.2)).map (fun p => useLabel p.1) := by
  have hany : ps.any (fun p => fetchFails p.1 p.2) = true := List.any_eq_true.mpr h
  exact ⟨_, by simp [fetchOutcome, hany], label_filterMap_childFailure ns ps⟩

section Fanout

variable {m : Type → Type} [Monad m]

/-- The current children are the gets of the uses, in order, followed by `fetchOutcome`. -/
theorem currentChildren_eq_gets [LawfulMonad m] [ObjectStore m] (ns : String) (refs : References) :
    (currentChildren ns refs : m _) =
      refs.toList.mapM (fun u => ObjectStore.getConfig u.1 ns u.2.1) >>= fun rs =>
        pure (fetchOutcome ns (refs.toList.zip rs)) := by
  have hfetch : (fetchChild ns : Use → m _) = fun u =>
      ObjectStore.getConfig u.1 ns u.2.1 >>= fun r => pure (childAnswer ns u r) :=
    funext (fetchChild_eq ns)
  unfold currentChildren
  rw [hfetch, mapM_bind_pure, bind_assoc]
  congr 1
  funext rs
  rw [pure_bind, collect_map_childAnswer]
  simp only [fetchOutcome, filterMap_childFailure_isEmpty]
  cases refs.toList.zip rs |>.any (fun p => fetchFails p.1 p.2) <;> rfl

/-- Over any store, gathering the current children runs one get per use, in reference order,
and answers all or nothing: the found objects with their uses, in order, exactly when no get
fails and no required object is missing; otherwise a fetch failure naming every failing use, in
order. The uses name distinct objects, so each is fetched once. -/
theorem currentChildren_all_or_nothing [LawfulMonad m] [ObjectStore m] (ns : String) (refs : References) :
    ((currentChildren ns refs : m _) =
      refs.toList.mapM (fun u => ObjectStore.getConfig u.1 ns u.2.1) >>= fun rs =>
        pure (fetchOutcome ns (refs.toList.zip rs))) ∧
      (refs.toList.map (fun u => (u.1, u.2.1))).Nodup ∧
      ∀ rs : List GetAnswer,
        (∀ bs, fetchOutcome ns (refs.toList.zip rs) = .ok bs ↔
          (∀ p ∈ refs.toList.zip rs, fetchFails p.1 p.2 = false) ∧
            bs = (refs.toList.zip rs).filterMap (fun p => foundBinding p.1 p.2)) ∧
        ((∃ p ∈ refs.toList.zip rs, fetchFails p.1 p.2 = true) →
          ∃ errors, fetchOutcome ns (refs.toList.zip rs) = .error (.fetchChildren errors) ∧
            errors.map ChildError.label =
              ((refs.toList.zip rs).filter (fun p => fetchFails p.1 p.2)).map (fun p => useLabel p.1) ∧
            errors.length = ((refs.toList.zip rs).filter (fun p => fetchFails p.1 p.2)).length) := by
  refine ⟨currentChildren_eq_gets ns refs, refs.nodup_uses, fun rs => ⟨fetchOutcome_eq_ok_iff ns _, ?_⟩⟩
  intro hfails
  obtain ⟨errors, hout, hlabels⟩ := fetchOutcome_of_fails ns _ hfails
  -- the count of failures is the count of their labels
  have hlen := congrArg List.length hlabels
  rw [List.length_map, List.length_map] at hlen
  exact ⟨errors, hout, hlabels, hlen⟩

end Fanout

/-- Over the in-memory store, for a ConfigMap used whole and a Secret used by one optional key. -/
theorem currentChildren_all_or_nothing_memory :
    let refs : References :=
      { configMaps := Dict.empty.insert "app" RefSpec.whole,
        secrets := Dict.empty.insert "creds" { keys := ["token"] } }
    ((currentChildren "prod" refs : StateM MemoryStore _) =
      refs.toList.mapM (fun u => ObjectStore.getConfig u.1 "prod" u.2.1) >>= fun rs =>
        pure (fetchOutcome "prod" (refs.toList.zip rs))) ∧
      (refs.toList.map (fun u => (u.1, u.2.1))).Nodup ∧
      ∀ rs : List GetAnswer,
        (∀ bs, fetchOutcome "prod" (refs.toList.zip rs) = .ok bs ↔
          (∀ p ∈ refs.toList.zip rs, fetchFails p.1 p.2 = false) ∧
            bs = (refs.toList.zip rs).filterMap (fun p => foundBinding p.1 p.2)) ∧
        ((∃ p ∈ refs.toList.zip rs, fetchFails p.1 p.2 = true) →
          ∃ errors, fetchOutcome "prod" (refs.toList.zip rs) = .error (.fetchChildren errors) ∧
            errors.map ChildError.label =
              ((refs.toList.zip rs).filter (fun p => fetchFails p.1 p.2)).map (fun p => useLabel p.1) ∧
            errors.length = ((refs.toList.zip rs).filter (fun p => fetchFails p.1 p.2)).length) := by
  intro refs
  exact currentChildren_all_or_nothing "prod" refs

end ConfigRollout.Reconcile
