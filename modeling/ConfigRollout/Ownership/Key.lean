import ConfigRollout.Text.WhiteSpace
import ConfigRollout.Data.Dict

/-!
# Owner link keys

A ConfigMap or Secret used by a workload carries one annotation per owner: the key is the
owner prefix followed by the workload's name, the value the workload's kind. This module is
the codec of those keys: `ownerKey` writes one, `ownerName?` reads the owner's name back, with
White_Space trimmed from both ends and an empty name refused, and `ownerNames` reads every
owner of an annotation map, in key order and with repeats kept.

Main statement: reading a written key gives the trimmed name, when that is not empty
(`ownerName?_ownerKey`).
-/

set_option autoImplicit false

namespace ConfigRollout.Ownership

/-- The prefix of every owner link key. -/
def ownerPrefix : String := "roller.geeko.me/owner-"

/-- The annotation key that links an object to the workload of a given name. -/
def ownerKey (name : String) : String :=
  ownerPrefix ++ name

/-- The rest of a list after a given prefix, when it starts with that prefix. -/
def dropPrefix? : List Char → List Char → Option (List Char)
  | [], rest => some rest
  | _ :: _, [] => none
  | p :: ps, c :: cs => if p = c then dropPrefix? ps cs else none

/-- The owner's name in a link key: the rest after the owner prefix, trimmed of White_Space,
when that is not empty. -/
def ownerName? (key : String) : Option String :=
  match dropPrefix? ownerPrefix.toList key.toList with
  | none => none
  | some rest =>
    let name := Text.trimChars rest
    if name.isEmpty then none else some (String.ofList name)

/-- The owners named by the link keys of an annotation map, in key order; two keys that trim
to one name give it twice. -/
def ownerNames (annotations : Dict String) : List String :=
  annotations.keys.filterMap ownerName?

/-- Dropping a prefix from a text that starts with it gives the rest. -/
theorem dropPrefix?_append (p rest : List Char) : dropPrefix? p (p ++ rest) = some rest := by
  induction p with
  | nil => rfl
  | cons c cs ih => simp [dropPrefix?, ih]

/-- The link key written for a name reads back as the trimmed name, or as nothing when the trim is
empty. -/
theorem ownerName?_ownerKey (name : String) :
    ownerName? (ownerKey name) =
      if (Text.trimChars name.toList).isEmpty then none
      else some (String.ofList (Text.trimChars name.toList)) := by
  simp [ownerName?, ownerKey, dropPrefix?_append]

end ConfigRollout.Ownership
