import ConfigRollout.Connect.Auth
import ConfigRollout.Connect.Certificate
import ConfigRollout.Connect.ServerName

/-!
# Building a client

A client configuration becomes a client in stages, and the first failing stage is reported:

1. the proxy: none may be configured, since neither a SOCKS5 nor an HTTP proxy is available
   and no other scheme is supported;
2. the credentials (`resolveCredentials`);
3. TLS: every root certificate must be a certificate; a client identity, when there is one,
   must be PEM text with certificates and a private key of a known format, and the key must
   load; a server name, when given, must be a DNS name or an IP address;
4. the headers that impersonate a user and groups must be valid header values: no control
   character but the tab.

The client identity comes from a credential command's certificate and key, or else from the
user's client certificate and key, each inline or as a file; when either cannot be loaded
there is no identity.
-/

set_option autoImplicit false

namespace ConfigRollout.Connect

/-- Why TLS cannot be set up. -/
inductive TlsError where
  | invalidIdentityPem (reason : String)
  | missingPrivateKey
  | missingCertificate
  | invalidPrivateKey
  | unknownPrivateKeyFormat
  | addRootCertificate (fault : CertificateFault)
  | invalidServerName
  deriving DecidableEq, Repr, Inhabited

/-- Why a private key does not load. -/
def keyFailure : String := "unexpected error: failed to parse private key as RSA, ECDSA, or EdDSA"

def TlsError.message : TlsError → String
  | .invalidIdentityPem reason => "identity PEM is invalid: " ++ reason
  | .missingPrivateKey =>
    "identity PEM is missing a private key: the key must be PKCS8 or RSA/PKCS1"
  | .missingCertificate => "identity PEM is missing certificate"
  | .invalidPrivateKey => "invalid private key: " ++ keyFailure
  | .unknownPrivateKeyFormat => "unknown private key format"
  | .addRootCertificate fault =>
    "failed to add a root certificate: invalid peer certificate: " ++ fault.text
  | .invalidServerName => "invalid server name: invalid dns name"

def TlsError.causes : TlsError → List String
  | .invalidIdentityPem reason => [reason]
  | .invalidPrivateKey => [keyFailure]
  | .addRootCertificate fault => ["invalid peer certificate: " ++ fault.text]
  | .invalidServerName => ["invalid dns name"]
  | _ => []

/-- Why a client cannot be built. -/
inductive BuildError where
  /-- A proxy whose protocol needs a feature that is not there. -/
  | proxyDisabled (proxy : Uri) (feature : String)
  | proxyUnsupported (proxy : Uri)
  | auth (e : AuthError)
  | tls (e : TlsError)
  /-- An impersonation header value that is not valid. -/
  | header
  deriving Repr, Inhabited

def BuildError.message : BuildError → String
  | .proxyDisabled proxy feature =>
    "configured proxy " ++ proxy.text ++ " requires the disabled feature \"" ++ feature ++ "\""
  | .proxyUnsupported proxy => "configured proxy " ++ proxy.text ++ " uses an unsupported protocol"
  | .auth e => "auth error: " ++ e.message
  | .tls e => "rustls tls error: " ++ e.message
  | .header => "HttpError: failed to parse header value"

def BuildError.causes : BuildError → List String
  | .auth e => e.message :: e.causes
  | .tls e => e.message :: e.causes
  | .header => ["failed to parse header value"]
  | _ => []

/-- The proxy stage. -/
def checkProxy : Option Uri → Except BuildError Unit
  | none => .ok ()
  | some proxy =>
    match proxy.scheme with
    | some (.other "socks5") => .error (.proxyDisabled proxy "kube/socks5")
    | some .http => .error (.proxyDisabled proxy "kube/http-proxy")
    | _ => .error (.proxyUnsupported proxy)

/-- The client identity of a user from files or inline data: key, then certificate. -/
def AuthInfo.identity? (host : Host) (a : AuthInfo) : Option (List UInt8) :=
  match loadData host a.clientCertificateData a.clientCertificate,
        loadData host a.clientKeyData a.clientKey with
  | .ok cert, .ok key => some (key ++ cert)
  | _, _ => none

/-- The client identity of a command's certificate and key: key, then certificate, each with
a line feed after it. -/
def commandIdentity (cert key : String) : List UInt8 :=
  asciiBytes key ++ [10] ++ asciiBytes cert ++ [10]

/-- What the items of an identity hold: whether there is a certificate and a key, or an item
of a kind no identity holds. -/
def identityItems : List SectionKind → Bool → Bool → Except TlsError (Bool × Bool)
  | [], cert, key => .ok (cert, key)
  | .certificate :: rest, _, key => identityItems rest true key
  | .privateKey :: rest, cert, _ => identityItems rest cert true
  | .rsaPrivateKey :: rest, cert, _ => identityItems rest cert true
  | .ecPrivateKey :: rest, cert, _ => identityItems rest cert true
  | .encryptedPrivateKey :: rest, cert, key => identityItems rest cert key
  | .echConfigList :: rest, cert, key => identityItems rest cert key
  | _ :: _, _, _ => .error .unknownPrivateKeyFormat

/-- Checks a client identity. A key of a known format still has to load, which no key here
does. -/
def checkIdentity (pem : List UInt8) : Except TlsError Unit := do
  let sections ← (identitySections pem).mapError TlsError.invalidIdentityPem
  let (cert, key) ← identityItems (sections.map (·.1)) false false
  if !key then throw .missingPrivateKey
  if !cert then throw .missingCertificate
  throw .invalidPrivateKey

/-- The TLS stage. -/
def checkTls (rootCerts : Option (List (List UInt8))) (identity : Option (List UInt8))
    (serverName : Option String) : Except TlsError Unit := do
  if let some ders := rootCerts then
    for der in ders do
      if let some fault := certificateFault? der then throw (.addRootCertificate fault)
  if let some pem := identity then checkIdentity pem
  if let some name := serverName then
    if !isServerName name then throw .invalidServerName

/-- Whether a text is a valid header value: no control character but the tab. -/
def isHeaderValue (s : String) : Bool :=
  s.toUTF8.toList.all (fun b => (b ≥ 32 && b != 127) || b == 9)

/-- Builds a client from its configuration on a host. -/
def buildClient (host : Host) (config : ClientConfig) : Except BuildError Unit := do
  checkProxy config.proxyUrl
  let credentials ← (resolveCredentials host config.execCluster config.auth).mapError
    BuildError.auth
  let identity := match credentials with
    | .certificate cert key => some (commandIdentity cert key)
    | _ => config.auth.identity? host
  (checkTls config.rootCerts identity config.tlsServerName).mapError BuildError.tls
  let values := config.auth.impersonate.toList ++ config.auth.impersonateGroups.getD []
  if !values.all isHeaderValue then throw .header

end ConfigRollout.Connect
