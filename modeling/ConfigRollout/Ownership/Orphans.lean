import ConfigRollout.Fingerprint

/-!
# Orphaned children

The children of a workload found by listing (the objects that carry a link it owns) are
compared with the children it currently uses. Those not used any more are orphans, and lose
their link. The comparison is by identity, kind together with uid (or name, without a uid), so
an object recreated under the same name is a different child.

Main statement: an object is an orphan exactly when it is listed and no current child has its
identity (`mem_orphans`).
-/

set_option autoImplicit false

namespace ConfigRollout

/-- The listed children, in order, whose identity is that of no current child. -/
def orphans (existing : List ConfigObject) (current : List Binding) : List ConfigObject :=
  let ids := current.map (fun b => b.object.identity)
  existing.filter (fun o => !ids.contains o.identity)

/-- The orphans are the existing children whose identity no current child has. -/
theorem mem_orphans (o : ConfigObject) (existing : List ConfigObject) (current : List Binding) :
    o ∈ orphans existing current ↔ o ∈ existing ∧ ∀ b ∈ current, b.object.identity ≠ o.identity := by
  simp [orphans]

end ConfigRollout
