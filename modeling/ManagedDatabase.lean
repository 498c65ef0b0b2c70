import ManagedDatabase.Configuration
import ManagedDatabase.Credentials
import ManagedDatabase.CustomResource
import ManagedDatabase.Decimal.Binary64
import ManagedDatabase.Decimal.Shortest
import ManagedDatabase.Engine
import ManagedDatabase.Fault
import ManagedDatabase.Json.Basic
import ManagedDatabase.Json.Mismatch
import ManagedDatabase.Json.Printer
import ManagedDatabase.Json.Reader
import ManagedDatabase.KeyMap
import ManagedDatabase.Kubernetes.Answer
import ManagedDatabase.Kubernetes.Fault
import ManagedDatabase.Kubernetes.Object
import ManagedDatabase.Kubernetes.Request
import ManagedDatabase.Kubernetes.Schema.Basic
import ManagedDatabase.Kubernetes.Schema.Container
import ManagedDatabase.Kubernetes.Schema.Pod
import ManagedDatabase.Kubernetes.Schema.Service
import ManagedDatabase.Kubernetes.Schema.Volume
import ManagedDatabase.Kubernetes.Selector
import ManagedDatabase.Kubernetes.Shape
import ManagedDatabase.Main
import ManagedDatabase.Manifest
import ManagedDatabase.Metrics.Basic
import ManagedDatabase.Metrics.Exposition
import ManagedDatabase.Moment
import ManagedDatabase.Network.Query
import ManagedDatabase.Network.SocketAddress
import ManagedDatabase.Network.Target
import ManagedDatabase.Outline
import ManagedDatabase.Proofs.Environment
import ManagedDatabase.Proofs.Kubernetes.ApiServer
import ManagedDatabase.Proofs.Kubernetes.Likeness
import ManagedDatabase.Proofs.Kubernetes.Selection
import ManagedDatabase.Proofs.Network.Sendable
import ManagedDatabase.Proofs.Session.AddressReading
import ManagedDatabase.Proofs.Session.Agreement
import ManagedDatabase.Proofs.Session.Building
import ManagedDatabase.Proofs.Session.Catalogue
import ManagedDatabase.Proofs.Session.Encounter
import ManagedDatabase.Proofs.Session.Frugality
import ManagedDatabase.Proofs.Session.Journal
import ManagedDatabase.Proofs.Session.Listing
import ManagedDatabase.Proofs.Session.Lookup
import ManagedDatabase.Proofs.Session.Ownership
import ManagedDatabase.Proofs.Session.PairReading
import ManagedDatabase.Proofs.Session.PasswordReading
import ManagedDatabase.Proofs.Session.Ports
import ManagedDatabase.Proofs.Session.Protection
import ManagedDatabase.Proofs.Session.Publishing
import ManagedDatabase.Proofs.Session.Secrecy
import ManagedDatabase.Proofs.Session.Sending
import ManagedDatabase.Proofs.Session.StoredPassword
import ManagedDatabase.Proofs.Session.Stores
import ManagedDatabase.Proofs.Sql.MySqlReading
import ManagedDatabase.Proofs.Sql.Passwords
import ManagedDatabase.Proofs.Sql.PostgresReading
import ManagedDatabase.Proofs.Sql.Reading
import ManagedDatabase.Proofs.Sql.Target
import ManagedDatabase.Proofs.Text.Base64
import ManagedDatabase.Proofs.Text.Numeral
import ManagedDatabase.Proofs.Text.Order
import ManagedDatabase.Proofs.Watcher.Alignment
import ManagedDatabase.Proofs.Watcher.Causes
import ManagedDatabase.Proofs.Watcher.Counting
import ManagedDatabase.Proofs.Watcher.Delay
import ManagedDatabase.Proofs.Watcher.History
import ManagedDatabase.Proofs.Watcher.Idle
import ManagedDatabase.Proofs.Watcher.Overlap
import ManagedDatabase.Proofs.Watcher.Pruning
import ManagedDatabase.Proofs.Watcher.Readings
import ManagedDatabase.Proofs.Watcher.Route
import ManagedDatabase.Proofs.Watcher.Secrecy
import ManagedDatabase.Proofs.Watcher.Series
import ManagedDatabase.Proofs.Watcher.Trail
import ManagedDatabase.Proofs.Watcher.Turns
import ManagedDatabase.Service
import ManagedDatabase.Session.Basic
import ManagedDatabase.Session.ConnectionString
import ManagedDatabase.Session.Guarded
import ManagedDatabase.Session.Operation
import ManagedDatabase.Sql.Conversation
import ManagedDatabase.Sql.Doubling
import ManagedDatabase.Sql.Fault
import ManagedDatabase.Sql.MySqlQuoting
import ManagedDatabase.Sql.PostgresQuoting
import ManagedDatabase.Sql.Statement
import ManagedDatabase.Text.Base64
import ManagedDatabase.Text.Blank
import ManagedDatabase.Text.Bytes
import ManagedDatabase.Text.Escaped
import ManagedDatabase.Text.Fingerprint
import ManagedDatabase.Text.Numeral
import ManagedDatabase.Text.Replaced
import ManagedDatabase.Text.Shown
import ManagedDatabase.Text.Unprintable
import ManagedDatabase.Topology
import ManagedDatabase.Watcher.Attend
import ManagedDatabase.Watcher.Basic
import ManagedDatabase.Watcher.Controller
import ManagedDatabase.Watcher.Page
import ManagedDatabase.Watcher.Probe
import ManagedDatabase.Watcher.Report
import ManagedDatabase.Watcher.Roster
import ManagedDatabase.World
