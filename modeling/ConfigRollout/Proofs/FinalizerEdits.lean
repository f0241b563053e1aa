import ConfigRollout.Proofs.Idempotence

/-!
# Finalizer edits are exact

The handler decides whether to write a workload by comparing the edited copy with the
workload as read, whole. So the two finalizer edits must change the finalizer list exactly
when they have something to do, and nothing else: no reordering, no removal of repeats, and an
absent list kept apart from an empty one.

`Workload.withFinalizers` replaces the list and keeps every other field; putting the old list
back into an edited workload gives the workload again, which is how "nothing else changes" is
stated. Main statement: `finalizerEdits_exact`.
-/

set_option autoImplicit false

namespace ConfigRollout.Workload

/-- The workload with its finalizer list replaced, every other field kept. -/
def withFinalizers (w : Workload) (fs : Option (List String)) : Workload :=
  { w with metadata := { w.metadata with finalizers := fs } }

variable (w : Workload)

@[simp] theorem finalizers_withFinalizers (fs : Option (List String)) :
    (w.withFinalizers fs).metadata.finalizers = fs := rfl

@[simp] theorem withFinalizers_self : w.withFinalizers w.metadata.finalizers = w := rfl

/-- A workload that carries the finalizer has a list. -/
theorem finalizers_eq_some_of_hasFinalizer (h : w.hasFinalizer = true) :
    ∃ l, w.metadata.finalizers = some l ∧ finalizerName ∈ l := by
  unfold hasFinalizer finalizerList at h
  cases hf : w.metadata.finalizers with
  | none => simp [hf] at h
  | some l => exact ⟨l, rfl, by simpa [hf] using h⟩

/-- Adding the finalizer changes nothing exactly when the finalizer is there. -/
theorem addFinalizer_eq_self_iff : w.addFinalizer = w ↔ w.hasFinalizer = true := by
  constructor
  · intro h
    rw [← h]
    exact hasFinalizer_addFinalizer w
  · exact addFinalizer_of_hasFinalizer w

/-- Adding the finalizer appends it to the list, an absent list read as empty, unless it is there.
-/
theorem finalizers_addFinalizer :
    w.addFinalizer.metadata.finalizers =
      if w.hasFinalizer then w.metadata.finalizers else some (w.finalizerList ++ [finalizerName]) := by
  by_cases h : w.hasFinalizer = true <;> simp [addFinalizer, h]

/-- Removing the finalizer filters every copy of it out of the list, when it is there. -/
theorem finalizers_removeFinalizer :
    w.removeFinalizer.metadata.finalizers =
      if w.hasFinalizer then some (w.finalizerList.filter (· != finalizerName)) else w.metadata.finalizers := by
  by_cases h : w.hasFinalizer = true <;> simp [removeFinalizer, h]

/-- Adding changes the finalizer list and nothing else. -/
@[simp] theorem withFinalizers_addFinalizer : w.addFinalizer.withFinalizers w.metadata.finalizers = w := by
  by_cases h : w.hasFinalizer = true
  · rw [addFinalizer_of_hasFinalizer w h, withFinalizers_self]
  · simp only [addFinalizer, h, Bool.false_eq_true, if_false]
    rfl

/-- Removing changes the finalizer list and nothing else. -/
@[simp] theorem withFinalizers_removeFinalizer : w.removeFinalizer.withFinalizers w.metadata.finalizers = w := by
  by_cases h : w.hasFinalizer = true
  · simp only [removeFinalizer, h, if_true]
    rfl
  · simp only [removeFinalizer, h, Bool.false_eq_true, if_false, withFinalizers_self]

/-- Removing the finalizer twice removes it once. -/
@[simp] theorem removeFinalizer_removeFinalizer : w.removeFinalizer.removeFinalizer = w.removeFinalizer :=
  (removeFinalizer_eq_self_iff _).mpr (hasFinalizer_removeFinalizer w)

/-- After adding there is a list, and it holds the finalizer: never absent, never empty. -/
theorem finalizers_addFinalizer_eq_some :
    ∃ l, w.addFinalizer.metadata.finalizers = some l ∧ finalizerName ∈ l := by
  rw [finalizers_addFinalizer]
  by_cases h : w.hasFinalizer = true
  · simpa [h] using finalizers_eq_some_of_hasFinalizer w h
  · simp [h]

/-- Removing keeps an absent list absent and a present one present. -/
theorem finalizers_removeFinalizer_eq_none_iff :
    w.removeFinalizer.metadata.finalizers = none ↔ w.metadata.finalizers = none := by
  rw [finalizers_removeFinalizer]
  by_cases h : w.hasFinalizer = true
  · obtain ⟨l, hl, -⟩ := finalizers_eq_some_of_hasFinalizer w h
    simp [h, hl]
  · simp [h]

/-- The finalizer edits, for every finalizer list: adding leaves a workload that has the
finalizer as it is and otherwise appends it (a list of one when there was none); removing
leaves a workload without it as it is and otherwise drops every copy, keeping the other
finalizers in order. Adding always leaves a list holding the finalizer, and removing leaves a
list exactly when there was one, so an absent list never becomes an empty one or back. Both
edits are idempotent, add or remove the finalizer, and change nothing but the list. -/
theorem finalizerEdits_exact :
    (w.addFinalizer = w ↔ w.hasFinalizer = true) ∧
      w.addFinalizer.metadata.finalizers =
        (if w.hasFinalizer then w.metadata.finalizers else some (w.finalizerList ++ [finalizerName])) ∧
      (w.withFinalizers none).addFinalizer.metadata.finalizers = some [finalizerName] ∧
      (w.removeFinalizer = w ↔ w.hasFinalizer = false) ∧
      w.removeFinalizer.metadata.finalizers =
        (if w.hasFinalizer then some (w.finalizerList.filter (· != finalizerName)) else w.metadata.finalizers) ∧
      (∃ l, w.addFinalizer.metadata.finalizers = some l ∧ finalizerName ∈ l) ∧
      (w.removeFinalizer.metadata.finalizers = none ↔ w.metadata.finalizers = none) ∧
      w.addFinalizer.addFinalizer = w.addFinalizer ∧ w.removeFinalizer.removeFinalizer = w.removeFinalizer ∧
      w.addFinalizer.hasFinalizer = true ∧ w.removeFinalizer.hasFinalizer = false ∧
      w.addFinalizer.withFinalizers w.metadata.finalizers = w ∧
      w.removeFinalizer.withFinalizers w.metadata.finalizers = w := by
  -- without a list there is no finalizer, and the list to append to is empty
  have habsent : (w.withFinalizers none).addFinalizer.metadata.finalizers = some [finalizerName] := by
    simp [finalizers_addFinalizer, hasFinalizer, finalizerList]
  exact ⟨addFinalizer_eq_self_iff w, finalizers_addFinalizer w, habsent, removeFinalizer_eq_self_iff w,
    finalizers_removeFinalizer w, finalizers_addFinalizer_eq_some w, finalizers_removeFinalizer_eq_none_iff w,
    addFinalizer_addFinalizer w, removeFinalizer_removeFinalizer w, hasFinalizer_addFinalizer w,
    hasFinalizer_removeFinalizer w, withFinalizers_addFinalizer w, withFinalizers_removeFinalizer w⟩

end ConfigRollout.Workload
