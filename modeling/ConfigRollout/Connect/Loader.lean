import ConfigRollout.Connect.Kubeconfig

/-!
# From a kubeconfig to a client configuration

Loading follows the current context to its cluster and its user; a missing user is no error
and means no credentials. When the user's credential command asks to be told about the
cluster, the cluster's certificate authority is loaded first, so a failure there comes before
any other. Then the cluster must give a server address that reads as a URI, its certificate
authority (inline base64 before a file, with a line feed added at the end when missing) must
hold PEM blocks, of which the certificates count, and a proxy address, unless empty, must read
as a URI.

`ClientConfig` is what comes out: the address, the root certificates when any were given, the
proxy, the user's credentials, the server name to expect, and the cluster as a credential
command is told about it.
-/

set_option autoImplicit false

namespace ConfigRollout.Connect

/-- Some bytes with a line feed at their end: added unless they are empty or have one. -/
def ensureTrailingNewline (bytes : List UInt8) : List UInt8 :=
  match bytes.getLast? with
  | some b => if b != 10 then bytes ++ [10] else bytes
  | none => bytes

/-- Data given inline as base64 or else as a file, with a trailing line feed. -/
def loadData (host : Host) (data file : Option String) : Except LoadDataError (List UInt8) := do
  let bytes ← match data, file with
    | some d, _ => (Base64.decodeText d).mapError LoadDataError.decodeBase64
    | none, some f => (host.readFile f).mapError (LoadDataError.readFile f)
    | none, none => throw .noBase64DataOrFile
  pure (ensureTrailingNewline bytes)

/-- The certificate authority of a cluster, when it names one. -/
def ClusterInfo.authority? (host : Host) (c : ClusterInfo) :
    Except KubeconfigError (Option (List UInt8)) :=
  if c.certificateAuthority.isNone && c.certificateAuthorityData.isNone then .ok none
  else
    (loadData host c.certificateAuthorityData c.certificateAuthority).map some
      |>.mapError KubeconfigError.loadCertificateAuthority

/-- The certificates of a PEM bundle, in order; other blocks are dropped. -/
def bundleCertificates (bundle : List UInt8) : Except KubeconfigError (List (List UInt8)) :=
  match parseBlocks bundle with
  | .ok blocks => .ok ((blocks.filter (·.tag == "CERTIFICATE")).map (·.contents))
  | .error e => .error (.parseCertificates e)

/-- The cluster as a credential command is told about it. -/
structure ExecCluster where
  server : Option String
  insecureSkipTlsVerify : Option Bool
  certificateAuthorityData : Option (List UInt8)
  proxyUrl : Option String
  tlsServerName : Option String
  deriving Repr, Inhabited

/-- What a kubeconfig gives a client. -/
structure ClientConfig where
  clusterUrl : Uri
  rootCerts : Option (List (List UInt8))
  proxyUrl : Option Uri
  auth : AuthInfo
  tlsServerName : Option String
  execCluster : Option ExecCluster
  deriving Repr, Inhabited

/-- Loads a client configuration from a read kubeconfig. -/
def Kubeconfig.load (host : Host) (k : Kubeconfig) : Except KubeconfigError ClientConfig := do
  let contextName ← match k.currentContext with
    | some name => pure name
    | none => throw .currentContextNotSet
  let context ← match (k.contexts.find? (·.name == contextName)).bind (·.context) with
    | some c => pure c
    | none => throw (.loadContext contextName)
  let cluster ← match (k.clusters.find? (·.name == context.cluster)).bind (·.cluster) with
    | some c => pure c
    | none => throw (.loadClusterOfContext context.cluster)
  let auth : AuthInfo := match context.user with
    | some name => ((k.users.find? (·.name == name)).bind (·.user)).getD {}
    | none => {}
  let execCluster ← match auth.exec with
    | some e =>
      if e.provideClusterInfo then do
        let authority ← cluster.authority? host
        pure (some { server := cluster.server, insecureSkipTlsVerify := cluster.insecureSkipTlsVerify,
                     certificateAuthorityData := authority, proxyUrl := cluster.proxyUrl,
                     tlsServerName := cluster.tlsServerName })
      else pure none
    | none => pure none
  let server ← match cluster.server with
    | some s => pure s
    | none => throw .missingClusterUrl
  let clusterUrl ← (Uri.parse server).mapError KubeconfigError.parseClusterUrl
  let rootCerts ← match ← cluster.authority? host with
    | some bundle => some <$> bundleCertificates bundle
    | none => pure none
  let proxyUrl ← match cluster.proxyUrl with
    | some p => if p.isEmpty then pure none else some <$> (Uri.parse p).mapError .parseProxyUrl
    | none => pure none
  pure { clusterUrl, rootCerts, proxyUrl, auth, tlsServerName := cluster.tlsServerName,
         execCluster }

/-- The directory of a file path: everything before its last `/`. -/
def parentDirectory (path : String) : String :=
  match (pathComponents path).dropLast with
  | [""] => "/"
  | parts => String.intercalate "/" parts

/-- Configures a client from the kubeconfig file at a path on a host. -/
def loadKubeconfig (host : Host) (path : String) : Except KubeconfigError ClientConfig := do
  match host.kubeconfig with
  | none => throw (.readConfig path)
  | some text =>
    let k ← Kubeconfig.read (parentDirectory path) text
    let merged ← ({} : Kubeconfig).merge k
    merged.load host

end ConfigRollout.Connect
