import ConfigRollout.Api.Error

/-!
# Reconcile errors

Why a reconcile fails. The fan-out steps (fetching the current children, listing the existing
ones, linking, unlinking) report every child that failed, in order, each with its kind, name
and cause; a failed list is reported under the namespace it listed.

`RollError.message` is the text of each error, `RollError.variant` its name, and
`RollError.children` the `Kind/name` of each failed child of a fan-out error.
-/

set_option autoImplicit false

namespace ConfigRollout

mutual

/-- Why a reconcile failed. -/
inductive RollError where
  /-- A request to the API failed. -/
  | api (e : ApiError)
  /-- The object changed since it was read. -/
  | conflict (kind ns name : String)
  /-- A field that the operation needs is missing. -/
  | missingKey (key : String)
  /-- The object does not exist. -/
  | notFound (kind ns name : String)
  /-- Some current children could not be fetched. -/
  | fetchChildren (errors : List ChildError)
  /-- A kind of existing children could not be listed. -/
  | listChildren (errors : List ChildError)
  /-- Some current children could not be linked. -/
  | updateChildren (errors : List ChildError)
  /-- Some orphans could not be unlinked. -/
  | removeReferences (errors : List ChildError)
  /-- The workload could not be written. -/
  | workloadUpdate (kind ns name : String) (source : RollError)

/-- The failure of one child of a fan-out. -/
inductive ChildError where
  | mk (kind name : String) (source : RollError)

end

mutual

/-- The text of an error. -/
def RollError.message : RollError → String
  | .api e => "Kubernetes API error: " ++ e.message
  | .conflict kind ns name =>
    "Conflict updating " ++ kind ++ " " ++ ns ++ "/" ++ name ++ ": the object has been modified"
  | .missingKey key => "Missing object key: " ++ key
  | .notFound kind ns name => kind ++ " " ++ ns ++ "/" ++ name ++ " not found"
  | .fetchChildren errors => "error(s) encountered fetching current children: " ++ ChildError.join errors
  | .listChildren errors => "error(s) encountered listing existing children: " ++ ChildError.join errors
  | .updateChildren errors => "error(s) encountered updating children: " ++ ChildError.join errors
  | .removeReferences errors =>
    "error(s) encountered removing owner references: " ++ ChildError.join errors
  | .workloadUpdate kind ns name source =>
    "error updating " ++ kind ++ " " ++ ns ++ "/" ++ name ++ ": " ++ source.message

/-- The texts of child failures, each `Kind name: cause`, separated by commas. -/
def ChildError.join : List ChildError → String
  | [] => ""
  | [.mk kind name source] => kind ++ " " ++ name ++ ": " ++ source.message
  | .mk kind name source :: rest => kind ++ " " ++ name ++ ": " ++ source.message ++ ", " ++ ChildError.join rest

end

/-- The name of an error's kind. -/
def RollError.variant : RollError → String
  | .api _ => "KubeError"
  | .conflict .. => "Conflict"
  | .missingKey _ => "MissingObjectKey"
  | .notFound .. => "NotFound"
  | .fetchChildren _ => "FetchChildren"
  | .listChildren _ => "ListChildren"
  | .updateChildren _ => "UpdateChildren"
  | .removeReferences _ => "RemoveReferences"
  | .workloadUpdate .. => "WorkloadUpdate"

/-- `Kind/name` of a child failure. -/
def ChildError.label : ChildError → String
  | .mk kind name _ => kind ++ "/" ++ name

/-- The failed children of a fan-out error, none for other errors. -/
def RollError.children : RollError → Option (List ChildError)
  | .fetchChildren errors => some errors
  | .listChildren errors => some errors
  | .updateChildren errors => some errors
  | .removeReferences errors => some errors
  | _ => none

end ConfigRollout
