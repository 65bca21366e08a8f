import PveHelper.Lib.Table
import PveHelper.Lib.Trans
import PveHelper.Lib.Text
import PveHelper.Lib.Json
import PveHelper.Lib.Posix
import PveHelper.Lib.Worklist
import PveHelper.Lib.Loop
import PveHelper.Lib.Atomic
import PveHelper.Lib.Sweep
import PveHelper.Lib.Double
import PveHelper.Lib.Numbers
import PveHelper.Lib.Fields
import PveHelper.Lib.Percent
import PveHelper.Lib.JsonText
import PveHelper.Lib.PrefixCode
import PveHelper.Lib.Lines
import PveHelper.Lib.Base64
import PveHelper.Lib.OctetCounting
import PveHelper.Lib.SqlTruth
import PveHelper.Lib.SqlLike
import PveHelper.Lib.Zone
import PveHelper.Lib.Disk
import PveHelper.Lib.DiskMoves
import PveHelper.Lib.Calls
import PveHelper.Lib.Triple
import PveHelper.Lib.DiskContent
import PveHelper.Lib.Locals
import PveHelper.Scheduling.Rows
import PveHelper.Scheduling.System
import PveHelper.Scheduling.Changes
import PveHelper.Scheduling.RunCount
import PveHelper.Scheduling.Terminal
import PveHelper.Scheduling.Retirement
import PveHelper.Scheduling.GuestLookup
import PveHelper.Scheduling.Recurrence
import PveHelper.Topology.Role
import PveHelper.Topology.Membership
import PveHelper.Topology.RoleMachine
import PveHelper.Topology.Generations
import PveHelper.Topology.PendingEvidence
import PveHelper.Topology.StatusRows
import PveHelper.Topology.HandoffBindings
import PveHelper.Guests.Config
import PveHelper.Guests.Inventory
import PveHelper.Guests.Publication
import PveHelper.Guests.References
import PveHelper.Guests.ScanReconcile
import PveHelper.Nodes.Status
import PveHelper.Nodes.EndpointHealth
import PveHelper.Nodes.Runtime
import PveHelper.Nodes.RuntimeCurrent
import PveHelper.Nodes.Networks
import PveHelper.Nodes.NetworkCurrent
import PveHelper.Nodes.Condemnation
import PveHelper.Nodes.StatusNumbers
import PveHelper.Storage.Backends
import PveHelper.Storage.Catalog
import PveHelper.Storage.Refresh
import PveHelper.Storage.Coverage
import PveHelper.Storage.Currency
import PveHelper.Storage.Usage
import PveHelper.Storage.Absence
import PveHelper.Storage.UnreadMembers
import PveHelper.Storage.ContentTypes
import PveHelper.Storage.Evidence
import PveHelper.Storage.ReadScopes
import PveHelper.Storage.FreshPreflight
import PveHelper.Storage.MountTable
import PveHelper.Storage.EffectiveMount
import PveHelper.Files.Risk
import PveHelper.Files.Gate
import PveHelper.Files.Content
import PveHelper.Files.Scanner
import PveHelper.Files.Classifier
import PveHelper.Files.ConfiguredDisks
import PveHelper.Files.ReportedVolumes
import PveHelper.Files.PathText
import PveHelper.Files.Confined
import PveHelper.Files.ConfinedFacts
import PveHelper.Files.NoReplace
import PveHelper.Files.NormalPath
import PveHelper.Files.RenameFacts
import PveHelper.Files.Trash
import PveHelper.Files.Purge
import PveHelper.Files.TrashInverse
import PveHelper.Files.Copies
import PveHelper.Files.CopyFacts
import PveHelper.Files.Transfer
import PveHelper.Files.Actions
import PveHelper.Files.Uploads
import PveHelper.Files.Runs
import PveHelper.Files.FolderUploadFacts
import PveHelper.Files.TrashOwners
import PveHelper.Files.VolumeNames
import PveHelper.Files.DirectoryRisk
import PveHelper.Files.Selection
import PveHelper.Scans.Identity
import PveHelper.Scans.Ingestion
import PveHelper.Scans.Quarantine
import PveHelper.Scans.ConsumerGate
import PveHelper.Scans.Lifecycle
import PveHelper.Scans.Retention
import PveHelper.Scans.PartialRefresh
import PveHelper.Scans.Backing
import PveHelper.Scans.Completeness
import PveHelper.Clusters.Footprint
import PveHelper.Clusters.Consoles
import PveHelper.Clusters.ConsoleGateway
import PveHelper.Clusters.XtermRelay
import PveHelper.Clusters.TerminalStream
import PveHelper.Clusters.Secrets
import PveHelper.Clusters.RetiredWriters
import PveHelper.Clusters.EndpointEnablement
import PveHelper.Registration.Requests
import PveHelper.Registration.DiskImport
import PveHelper.Registration.OvfImport
import PveHelper.Tags.TagText
import PveHelper.Tags.Registry
import PveHelper.Tags.RegistryEdits
import PveHelper.Tags.TargetUpdate
import PveHelper.Tags.Attempts
import PveHelper.Retirement.Rows
import PveHelper.Retirement.Finalizers
import PveHelper.Retirement.AuditGate
import PveHelper.Retirement.Token
import PveHelper.Retirement.Coordinator
import PveHelper.Retirement.ConsumerRelease
import PveHelper.Retirement.Deletion
import PveHelper.Operations.Events
import PveHelper.Operations.HostRefresh
import PveHelper.Operations.DurableRefresh
import PveHelper.Operations.TagFanout
import PveHelper.Operations.GuestTask
import PveHelper.Operations.ClusterPasses
import PveHelper.Operations.ClusterWrite
import PveHelper.Operations.Refs
import PveHelper.Operations.ProviderTasks
import PveHelper.Operations.RestoreTask
import PveHelper.Operations.DiskMigration
import PveHelper.Operations.ForceStopQuestion
import PveHelper.Operations.InflateReaper
import PveHelper.Forwarding.Outbox
import PveHelper.Forwarding.Revisions
import PveHelper.Forwarding.OutcomeWrites
import PveHelper.Forwarding.SendOrder
import PveHelper.Forwarding.SyslogFrames
