import ConfigRollout.Reconcile.Links
import ConfigRollout.Store.Memory

/-!
# The requests of linking and unlinking, over any store

Over every store, linking the current children of a workload and unlinking its orphans is a
fixed sequence of write requests, each followed by an event when the store accepts it
(`sendEdit`):

* one write per current child without a valid link of the owner (`linkTargets`), setting the
  link to the owner's kind; if any is refused, the refusals are the answer and no orphan is
  touched;
* otherwise one write per orphan that has the owner's link key (`unlinkTargets`), removing it;
  every such orphan is tried, and the refusals, if any, are the answer.

`linkRequests` and `unlinkRequests` spell that sequence out. The refused writes are reported in
order under their `Kind/name` (`label_refusals`), and there are none exactly when every write
was accepted (`refusals_eq_nil_iff`). Main statement: `updateLinks_requests`.
-/

set_option autoImplicit false

namespace ConfigRollout.Reconcile

/-- The current children that linking writes: those without a valid link of the owner, in
order. -/
def linkTargets (owner : String) (current : List Binding) : List ConfigObject :=
  (current.map (·.object)).filter (fun c => !c.hasOwnerLink owner)

/-- The children that unlinking writes: those that have the owner's link key, in order. -/
def unlinkTargets (owner : String) (children : List ConfigObject) : List ConfigObject :=
  children.filter (·.hasLinkKey owner)

/-- The failure of a child whose write the store refused, under the child's kind and name. -/
def refusal (c : ConfigObject) : Except RollError ConfigObject → Option ChildError
  | .error e => some (.mk c.kind.name c.name e)
  | .ok _ => none

/-- The refused writes of a fan-out, in order, each with the store's error. -/
def refusals (ps : List (ConfigObject × Except RollError ConfigObject)) : List ChildError :=
  ps.filterMap (fun p => refusal p.1 p.2)

/-- A fan-out has no refusals exactly when the store accepted every write. -/
theorem refusals_eq_nil_iff (ps : List (ConfigObject × Except RollError ConfigObject)) :
    refusals ps = [] ↔ ∀ p ∈ ps, p.2.isOk = true := by
  unfold refusals
  rw [List.filterMap_eq_nil_iff]
  refine forall₂_congr fun p _ => ?_
  rcases p with ⟨c, e | o⟩ <;> simp [refusal, Except.isOk, Except.toBool]

/-- The refusals of a fan-out are labelled by the refused children, `Kind/name`, in order. -/
theorem label_refusals (ps : List (ConfigObject × Except RollError ConfigObject)) :
    (refusals ps).map ChildError.label =
      (ps.filter (fun p => !p.2.isOk)).map (fun p => p.1.kind.name ++ "/" ++ p.1.name) := by
  induction ps with
  | nil => rfl
  | cons p rest ih =>
      rcases p with ⟨c, e | o⟩
      · simpa [refusals, refusal, ChildError.label, Except.isOk, Except.toBool] using ih
      · simpa [refusals, refusal, Except.isOk, Except.toBool] using ih

/-- The orphans are the existing children, in order, whose identity no current child has. -/
theorem orphans_eq_filter (existing : List ConfigObject) (current : List Binding) :
    orphans existing current = existing.filter (fun o => current.all (fun b => b.object.identity != o.identity)) := by
  refine List.filter_congr fun o _ => ?_
  rw [Bool.eq_iff_iff]
  simp

/-- The failure a link answer carries, if any. -/
def failureOf : Except ChildError Unit → Option ChildError
  | .error e => some e
  | .ok _ => none

/-- The failures that splitting the link answers gives are the failures of the answers, in order. -/
theorem splitResults_fst_eq_filterMap (rs : List (Except ChildError Unit)) :
    (splitResults rs).1 = rs.filterMap failureOf := by
  induction rs with
  | nil => rfl
  | cons r rest ih => rcases r with e | u <;> simp [splitResults, failureOf, List.filterMap_cons, ih]

/-- The answer linking gives for one child, from the store's answer to its write. -/
def linkAnswer (c : ConfigObject) : Except RollError ConfigObject → Except ChildError Unit
  | .error e => .error (.mk c.kind.name c.name e)
  | .ok _ => .ok ()

/-- A link answer fails exactly when its write was refused. -/
@[simp] theorem failureOf_linkAnswer (c : ConfigObject) (r : Except RollError ConfigObject) :
    failureOf (linkAnswer c r) = refusal c r := by
  cases r <;> rfl

section Fanout

variable {m : Type → Type} [Monad m] [LawfulMonad m]

/-- A fan-out that skips some inputs with a fixed answer and sends the others: what is read off
its answers' failures is read off the answers of the inputs sent, paired with them in order. -/
theorem mapM_skip_filterMap {α β γ ε δ : Type} (skip : α → Bool) (d : β) (f : α → m γ) (h : α → γ → β)
    (err : β → Option ε) (hd : err d = none) (k : List ε → m δ) (l : List α) :
    (l.mapM (fun a => if skip a then pure d else h a <$> f a) >>= fun rs => k (rs.filterMap err)) =
      ((l.filter (fun a => !skip a)).mapM f >>= fun rs =>
        k (((l.filter (fun a => !skip a)).zip rs).filterMap (fun p => err (h p.1 p.2)))) := by
  induction l generalizing k with
  | nil => simp
  | cons a l ih =>
      by_cases hs : skip a = true
      · -- a skipped input answers `d`, which carries no failure
        simp [List.mapM_cons, hs, hd, ih]
      · have hkeep : (a :: l).filter (fun a => !skip a) = a :: l.filter (fun a => !skip a) :=
          List.filter_cons_of_pos (by simpa using hs)
        rw [hkeep]
        simp only [List.mapM_cons, hs, Bool.false_eq_true, if_false, bind_assoc, bind_map_left, pure_bind,
          List.zip_cons_cons, List.filterMap_cons]
        congr 1
        funext x
        cases err (h a x) with
        | none => exact ih k
        | some e => exact ih (fun es => k (e :: es))

end Fanout

section Requests

variable {m : Type → Type} [Monad m] [ObjectStore m] [EventSink m]

/-- Sends the write of an edited child; when the store accepts it, an event about the child
follows. Answers the store's answer. -/
def sendEdit (edit : ConfigObject → ConfigObject) (reason note : String) (c : ConfigObject) :
    m (Except RollError ConfigObject) := do
  let r ← ObjectStore.updateConfig (edit c)
  match r with
  | .ok _ => EventSink.publish c.objectRef reason (note ++ c.kind.name ++ " " ++ c.name)
  | .error _ => pure ()
  pure r

/-- The write that links a child to its owner. -/
def sendLink (owner : String) (kind : WorkloadKind) : ConfigObject → m (Except RollError ConfigObject) :=
  sendEdit (·.setOwnerLink owner kind.name) addWatchReason "Adding watch for "

/-- The write that removes an owner's link from a child. -/
def sendUnlink (owner : String) : ConfigObject → m (Except RollError ConfigObject) :=
  sendEdit (·.removeOwnerLink owner) removeWatchReason "Removing watch for "

/-- Unlinking as requests: one write per child with the owner's link key, in order, whatever
the earlier answers; the refusals, if any. -/
def unlinkRequests (owner : String) (children : List ConfigObject) : m (Except RollError Unit) := do
  let answers ← (unlinkTargets owner children).mapM (sendUnlink owner)
  let failed := refusals ((unlinkTargets owner children).zip answers)
  pure (if failed.isEmpty then .ok () else .error (.removeReferences failed))

/-- Linking as requests: one write per current child without a valid link, in order; the
refusals if there are any, and otherwise the unlinking of the orphans. -/
def linkRequests (owner : String) (kind : WorkloadKind) (existing : List ConfigObject)
    (current : List Binding) : m (Except RollError Unit) := do
  let answers ← (linkTargets owner current).mapM (sendLink owner kind)
  let failed := refusals ((linkTargets owner current).zip answers)
  if failed.isEmpty then unlinkRequests owner (orphans existing current)
  else pure (.error (.updateChildren failed))

variable [LawfulMonad m]

/-- Linking one child: nothing when it has a valid link, and otherwise its write, answered as a
child failure when refused. -/
theorem addLink_eq (owner : String) (kind : WorkloadKind) (c : ConfigObject) :
    (addLink owner kind c : m _) =
      if c.hasOwnerLink owner then pure (.ok ()) else linkAnswer c <$> sendLink owner kind c := by
  by_cases hl : c.hasOwnerLink owner = true
  · simp [addLink, hl]
  · simp only [addLink, hl, Bool.false_eq_true, if_false, sendLink, sendEdit, map_bind]
    congr 1
    funext r
    rcases r with e | o
    · simp [linkAnswer]
    · simp [linkAnswer]

/-- Unlinking one child: nothing when it has no link key of the owner, and otherwise its write,
answered as a child failure when refused. -/
theorem removeLink_eq (owner : String) (c : ConfigObject) :
    (removeLink owner c : m _) =
      if !c.hasLinkKey owner then pure none else refusal c <$> sendUnlink owner c := by
  by_cases hl : c.hasLinkKey owner = true
  · simp only [removeLink, hl, Bool.not_true, Bool.false_eq_true, if_false, sendUnlink, sendEdit, map_bind]
    congr 1
    funext r
    rcases r with e | o
    · simp [refusal]
    · simp [refusal]
  · simp [removeLink, hl]

/-- Unlinking children is the fixed script `unlinkRequests`: one write per child with the link key,
in order, without stopping. -/
theorem removeLinks_eq_unlinkRequests (owner : String) (children : List ConfigObject) :
    (removeLinks owner children : m _) = unlinkRequests owner children := by
  have hrun := mapM_skip_filterMap (fun c => !c.hasLinkKey owner) none (sendUnlink owner : ConfigObject → m _)
    refusal id rfl
    (fun errors : List ChildError =>
      (pure (if errors.isEmpty then .ok () else .error (.removeReferences errors)) : m (Except RollError Unit)))
    children
  have hremove : (removeLink owner : ConfigObject → m _) =
      fun c => if !c.hasLinkKey owner then pure none else refusal c <$> sendUnlink owner c :=
    funext (removeLink_eq owner)
  simp only [Bool.not_not, id] at hrun
  simp only [removeLinks, unlinkRequests, unlinkTargets, refusals, hremove]
  exact hrun

/-- The link phase is the fixed script `linkRequests`: the link writes, then the unlinks of the
orphans when no link write was refused. -/
theorem updateLinks_eq_linkRequests (owner : String) (kind : WorkloadKind) (existing : List ConfigObject)
    (current : List Binding) :
    (updateLinks owner kind existing current : m _) = linkRequests owner kind existing current := by
  have hrun := mapM_skip_filterMap (fun c => c.hasOwnerLink owner) (.ok ()) (sendLink owner kind : ConfigObject → m _)
    linkAnswer failureOf rfl
    (fun errors : List ChildError => if errors.isEmpty then (unlinkRequests owner (orphans existing current) : m _)
      else pure (.error (.updateChildren errors))) (current.map (·.object))
  have hadd : (fun b : Binding => (addLink owner kind b.object : m _)) =
      (fun c => if c.hasOwnerLink owner then pure (.ok ()) else linkAnswer c <$> sendLink owner kind c) ∘ (·.object) :=
    funext fun b => addLink_eq owner kind b.object
  simp only [failureOf_linkAnswer, List.mapM_map] at hrun
  simp only [updateLinks, linkRequests, linkTargets, refusals, hadd, splitResults_fst_eq_filterMap,
    removeLinks_eq_unlinkRequests]
  refine Eq.trans ?_ hrun
  congr 1
  funext rs
  cases (rs.filterMap failureOf).isEmpty <;> rfl

/-- Over any store, linking the current children and unlinking the orphans sends exactly these
requests. One write per current child without a valid link of the owner, in order, setting the
link to the owner's kind, each followed by an `AddWatch` event when accepted; if any is refused,
the answer is an `UpdateChildren` failure of the refusals and nothing more is sent. Otherwise
the orphans are unlinked: the existing children, in order, whose identity is that of no current
child. Unlinking any children sends one write per child with the owner's link key, in order,
whatever the earlier answers, each followed by a `RemoveWatch` event when accepted, and fails
with the refusals exactly when there are some. The refusals are labelled `Kind/name` by the
refused children, in order. -/
theorem updateLinks_requests (owner : String) (kind : WorkloadKind) (existing : List ConfigObject)
    (current : List Binding) :
    (updateLinks owner kind existing current : m _) = linkRequests owner kind existing current ∧
      (∀ children, (removeLinks owner children : m _) = unlinkRequests owner children) ∧
      orphans existing current = existing.filter (fun o => current.all (fun b => b.object.identity != o.identity)) ∧
      ∀ ps : List (ConfigObject × Except RollError ConfigObject),
        (refusals ps).map ChildError.label =
            (ps.filter (fun p => !p.2.isOk)).map (fun p => p.1.kind.name ++ "/" ++ p.1.name) ∧
          (refusals ps = [] ↔ ∀ p ∈ ps, p.2.isOk = true) :=
  ⟨updateLinks_eq_linkRequests owner kind existing current, removeLinks_eq_unlinkRequests owner,
    orphans_eq_filter existing current, fun ps => ⟨label_refusals ps, refusals_eq_nil_iff ps⟩⟩

end Requests

/-- Over the in-memory store, for a deployment `web` with one existing and one current child. -/
theorem updateLinks_requests_memory :
    let existing : List ConfigObject := [.configMap { name := some "old", ns := some "prod" } none]
    let current : List Binding := [⟨.secret { name := some "creds", ns := some "prod" } none, RefSpec.whole⟩]
    (updateLinks "web" .deployment existing current : StateM MemoryStore _) =
        linkRequests "web" .deployment existing current ∧
      (∀ children, (removeLinks "web" children : StateM MemoryStore _) = unlinkRequests "web" children) ∧
      orphans existing current = existing.filter (fun o => current.all (fun b => b.object.identity != o.identity)) ∧
      ∀ ps : List (ConfigObject × Except RollError ConfigObject),
        (refusals ps).map ChildError.label =
            (ps.filter (fun p => !p.2.isOk)).map (fun p => p.1.kind.name ++ "/" ++ p.1.name) ∧
          (refusals ps = [] ↔ ∀ p ∈ ps, p.2.isOk = true) := by
  intro existing current
  exact updateLinks_requests "web" .deployment existing current

end ConfigRollout.Reconcile
