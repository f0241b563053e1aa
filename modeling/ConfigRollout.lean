import ConfigRollout.Text.WhiteSpace
import ConfigRollout.Data.Dict
import ConfigRollout.Data.Json
import ConfigRollout.Data.Json.Render
import ConfigRollout.Ownership.Key
import ConfigRollout.Data.Base64
import ConfigRollout.Text.Timestamp
import ConfigRollout.Object.Meta
import ConfigRollout.Object.PodSpec
import ConfigRollout.Object.Workload
import ConfigRollout.Object.Config
import ConfigRollout.Object.Schema
import ConfigRollout.Object.Schema.Pod
import ConfigRollout.Object.Schema.Apps
import ConfigRollout.Object.Decode
import ConfigRollout.References
import ConfigRollout.Data.Sha256
import ConfigRollout.Fingerprint
import ConfigRollout.Finalizer
import ConfigRollout.Lifecycle
import ConfigRollout.Ownership.Link
import ConfigRollout.Text.Unsigned
import ConfigRollout.Settings
import ConfigRollout.Ownership.Orphans
import ConfigRollout.Text.Escaped
import ConfigRollout.Api.Error
import ConfigRollout.Error
import ConfigRollout.Data.Table
import ConfigRollout.Store
import ConfigRollout.Reconcile.Children
import ConfigRollout.Reconcile.Links
import ConfigRollout.Reconcile.Handler
import ConfigRollout.Store.Memory
import ConfigRollout.Scenario
import ConfigRollout.Data.Json.Parse
import ConfigRollout.Api.Server
import ConfigRollout.Api.Status
import ConfigRollout.Api.Client
import ConfigRollout.Api.Calls
import ConfigRollout.Controller
import ConfigRollout.Data.Binary64
import ConfigRollout.Data.Json.Reader
import ConfigRollout.Object.Read
import ConfigRollout.Yaml.Token
import ConfigRollout.Yaml.Scanner
import ConfigRollout.Yaml.Parser
import ConfigRollout.Yaml.Value
import ConfigRollout.Connect.Uri
import ConfigRollout.Connect.Host
import ConfigRollout.Connect.Pem
import ConfigRollout.Connect.Kubeconfig
import ConfigRollout.Connect.Loader
import ConfigRollout.Connect.Auth
import ConfigRollout.Connect.Certificate
import ConfigRollout.Connect.ServerName
import ConfigRollout.Connect.Client
import ConfigRollout.Cli
import ConfigRollout.Main
import ConfigRollout.Proofs.KeyOrder
import ConfigRollout.Proofs.Store
import ConfigRollout.Proofs.Children
import ConfigRollout.Proofs.Links
import ConfigRollout.Proofs.Handler
import ConfigRollout.Proofs.FingerprintContent
import ConfigRollout.Proofs.ActiveReconcile
import ConfigRollout.Proofs.DeletingReconcile
import ConfigRollout.Proofs.Idempotence
import ConfigRollout.Proofs.Base64Decode
import ConfigRollout.Proofs.JsonText
import ConfigRollout.Proofs.FingerprintText
import ConfigRollout.Proofs.RolloutTrigger
import ConfigRollout.Proofs.Outcomes
import ConfigRollout.Proofs.SharedLinks
import ConfigRollout.Proofs.Retry
import ConfigRollout.Proofs.Resolution
import ConfigRollout.Proofs.FingerprintOrder
import ConfigRollout.Proofs.ChildFetch
import ConfigRollout.Proofs.JsonRead
import ConfigRollout.Proofs.SourceReading
import ConfigRollout.Proofs.FinalizerEdits
import ConfigRollout.Proofs.LinkKeys
import ConfigRollout.Proofs.LinkRequests
import ConfigRollout.Proofs.Naturality
import ConfigRollout.Proofs.Recording
import ConfigRollout.Proofs.WritesOnce
