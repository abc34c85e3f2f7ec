import ScfSecurity.Library.Machine
import ScfSecurity.Library.Interleaving
import ScfSecurity.Errno
import ScfSecurity.Library.Selection
import ScfSecurity.Base
import ScfSecurity.Policy.Context
import ScfSecurity.Rbac.NodeIdentity
import ScfSecurity.Rbac.PolicyMatcher
import ScfSecurity.Rbac.Permission
import ScfSecurity.Rbac.Transition
import ScfSecurity.Rbac.Invariant
import ScfSecurity.Rbac.Decision
import ScfSecurity.Rbac.Freeze
import ScfSecurity.Rbac.Snapshot
import ScfSecurity.Policy.Setup
import ScfSecurity.Policy.Settings
import ScfSecurity.Policy.AppVerify
import ScfSecurity.Policy.Object
import ScfSecurity.Policy.PskFind
import ScfSecurity.KeyUpdate.Write
import ScfSecurity.Policy.Lifecycle
import ScfSecurity.KeyUpdate.Session
import ScfSecurity.KeyUpdate.Traffic
import ScfSecurity.KeyUpdate.Interval
import ScfSecurity.Connection.Config
import ScfSecurity.Library.Heap
import ScfSecurity.Connection.Process
import ScfSecurity.Connection.Setup
import ScfSecurity.Connection.Impl
import ScfSecurity.Connection.System
import ScfSecurity.Connection.Psk
import ScfSecurity.Connection.Retry
import ScfSecurity.Rbac.Dependence
import ScfSecurity.Rbac.Isolation
import ScfSecurity.Rbac.RuleNumber
import ScfSecurity.Policy.Consistency
import ScfSecurity.Policy.PskAgreement
import ScfSecurity.Policy.Deployment
import ScfSecurity.Lifetime.Ownership
import ScfSecurity.Library.Pool
import ScfSecurity.Lifetime.Release
import ScfSecurity.Tls.CertLedger
import ScfSecurity.Policy.CipherSuites
import ScfSecurity.Library.OrderedMap
import ScfSecurity.Policy.ProtocolVersion
import ScfSecurity.Policy.UpdateParams
import ScfSecurity.Rbac.RuleList
import ScfSecurity.Connection.NonBlocking
import ScfSecurity.Connection.Effects
import ScfSecurity.Connection.Engines
import ScfSecurity.Connection.Configure
import ScfSecurity.Connection.Stages
import ScfSecurity.Connection.Opening
import ScfSecurity.Connection.FailureState
import ScfSecurity.Connection.Locality
import ScfSecurity.Connection.Connected
import ScfSecurity.Connection.Calls
import ScfSecurity.Connection.EngineLife
import ScfSecurity.Connection.Holdings
import ScfSecurity.Policy.FileContext
import ScfSecurity.Tls.AddCert
import ScfSecurity.Crypto.Engine
import ScfSecurity.KeyUpdate.Bookkeeping
import ScfSecurity.KeyUpdate.Threshold
import ScfSecurity.Library.Der
import ScfSecurity.Library.Handles
import ScfSecurity.Rbac.CertGrammar
import ScfSecurity.Rbac.MasterList
import ScfSecurity.Rbac.Mutation
import ScfSecurity.Rbac.Precedence
import ScfSecurity.Transport.Descriptors
import ScfSecurity.ConfigFile.Apply
import ScfSecurity.ConfigFile.CipherString
import ScfSecurity.Connection.AppVerifyOption
import ScfSecurity.Policy.Decrypted
import ScfSecurity.Policy.VersionCheck
import ScfSecurity.Tls.AddCertFailure
import ScfSecurity.Tls.CertTime
import ScfSecurity.Tls.PrivateKey
import ScfSecurity.Connection.Attached
import ScfSecurity.Connection.Negotiated
import ScfSecurity.Connection.UserData
import ScfSecurity.Crypto.Kdf
import ScfSecurity.Crypto.Lengths
import ScfSecurity.Crypto.Unverified
import ScfSecurity.Library.Hex
import ScfSecurity.Library.PathName
import ScfSecurity.Policy.FilePath
import ScfSecurity.Tls.SerialNumber
import ScfSecurity.Crypto.ProviderCustody
import ScfSecurity.ConfigFile.Install
import ScfSecurity.Connection.EnforcedRuns
import ScfSecurity.Lifetime.FileContextRuns
import ScfSecurity.Policy.PskSession
import ScfSecurity.Policy.PskSessionCustody
