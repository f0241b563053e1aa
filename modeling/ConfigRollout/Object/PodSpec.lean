/-!
# Pod specifications

A pod specification, reduced to the parts through which a workload uses ConfigMaps and
Secrets: its volumes (direct and projected), and the environment of its init containers and
containers. Ephemeral containers are not part of this view: the program never reads them.

A missing name of a referenced object reads as the empty string, as the API's defaults give it.
-/

set_option autoImplicit false

namespace ConfigRollout

/-- A reference to one key of a ConfigMap or Secret, from an environment variable. -/
structure KeyRef where
  /-- The object's name. -/
  name : String := ""
  /-- The key inside the object's data. -/
  key : String := ""
  /-- Whether the object and key may be missing. -/
  optional : Option Bool := none
  deriving DecidableEq, Repr, Inhabited

/-- Where an environment variable takes its value from. -/
structure EnvSource where
  /-- A key of a ConfigMap. -/
  configMapKeyRef : Option KeyRef := none
  /-- A key of a Secret. -/
  secretKeyRef : Option KeyRef := none
  deriving DecidableEq, Repr, Inhabited

/-- An environment variable, by where its value comes from. -/
structure EnvVar where
  /-- The source of the value, when it is not given literally. -/
  valueFrom : Option EnvSource := none
  deriving DecidableEq, Repr, Inhabited

/-- A set of environment variables taken from a whole object. -/
structure EnvFrom where
  /-- The name of a ConfigMap whose keys all become variables. -/
  configMapRef : Option String := none
  /-- The name of a Secret whose keys all become variables. -/
  secretRef : Option String := none
  deriving DecidableEq, Repr, Inhabited

/-- A container, by its environment. -/
structure Container where
  /-- The variables, in order. -/
  env : List EnvVar := []
  /-- The whole-object sources, in order. -/
  envFrom : List EnvFrom := []
  deriving DecidableEq, Repr, Inhabited

/-- One source of a projected volume. -/
structure Projection where
  /-- The name of a projected ConfigMap. -/
  configMap : Option String := none
  /-- The name of a projected Secret. -/
  secret : Option String := none
  deriving DecidableEq, Repr, Inhabited

/-- A volume, by the objects it mounts. -/
structure Volume where
  /-- The name of a mounted ConfigMap. -/
  configMap : Option String := none
  /-- The name of a mounted Secret, when the Secret volume names one. -/
  secretName : Option String := none
  /-- The sources of a projected volume. -/
  projections : List Projection := []
  deriving DecidableEq, Repr, Inhabited

/-- A pod specification, by its volumes and containers. -/
structure PodSpec where
  /-- The volumes. -/
  volumes : List Volume := []
  /-- The init containers, which run before the containers. -/
  initContainers : List Container := []
  /-- The containers. -/
  containers : List Container := []
  deriving DecidableEq, Repr, Inhabited

end ConfigRollout
