import ConfigRollout.Object.Workload

/-!
# The rollout finalizer

An opted-in workload carries the finalizer `roller.geeko.me/finalizer`, which keeps it from
being deleted before its owner links are removed from its ConfigMaps and Secrets.

`addFinalizer` appends the finalizer when it is missing, turning an absent list into a list of
one; `removeFinalizer` drops every copy of it and keeps the other finalizers in order, and
touches the list only when the finalizer is there. So neither turns an absent list into an
empty one or back.

Main statements: adding leaves a workload that has the finalizer unchanged
(`addFinalizer_of_hasFinalizer`) and gives one that has it (`hasFinalizer_addFinalizer`);
removing gives one without it (`hasFinalizer_removeFinalizer`).
-/

set_option autoImplicit false

namespace ConfigRollout

/-- The finalizer that guards an opted-in workload. -/
def finalizerName : String := "roller.geeko.me/finalizer"

namespace Workload

/-- The workload's finalizers, empty when there is no list. -/
def finalizerList (w : Workload) : List String :=
  w.metadata.finalizers.getD []

/-- Whether the workload carries the rollout finalizer. -/
def hasFinalizer (w : Workload) : Bool :=
  w.finalizerList.contains finalizerName

/-- The workload with the rollout finalizer appended, unless it has it already. -/
def addFinalizer (w : Workload) : Workload :=
  if w.hasFinalizer then w
  else { w with metadata := { w.metadata with finalizers := some (w.finalizerList ++ [finalizerName]) } }

/-- The workload with every copy of the rollout finalizer removed, when it has one. -/
def removeFinalizer (w : Workload) : Workload :=
  if w.hasFinalizer then
    { w with metadata := { w.metadata with finalizers := some (w.finalizerList.filter (· != finalizerName)) } }
  else w

/-- Adding a finalizer that is there changes nothing. -/
theorem addFinalizer_of_hasFinalizer (w : Workload) (h : w.hasFinalizer = true) :
    w.addFinalizer = w := by
  simp [addFinalizer, h]

/-- After adding the finalizer a workload has it. -/
theorem hasFinalizer_addFinalizer (w : Workload) : w.addFinalizer.hasFinalizer = true := by
  unfold addFinalizer
  split
  · assumption
  · simp [hasFinalizer, finalizerList]

/-- After removing the finalizer a workload has it no more. -/
theorem hasFinalizer_removeFinalizer (w : Workload) : w.removeFinalizer.hasFinalizer = false := by
  unfold removeFinalizer
  split
  · simp [hasFinalizer, finalizerList]
  · simp_all

end Workload

end ConfigRollout
