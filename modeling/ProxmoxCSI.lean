import ProxmoxCSI.CallProgram
import ProxmoxCSI.CallSafety
import ProxmoxCSI.CallErrors
import ProxmoxCSI.CallTriples
import ProxmoxCSI.CallSessions
import ProxmoxCSI.CallSchedule
import ProxmoxCSI.CallSystem
import ProxmoxCSI.CallJournal
import ProxmoxCSI.ObjectStore
import ProxmoxCSI.TextScan
import ProxmoxCSI.VolumeHandle
import ProxmoxCSI.ClusterState
import ProxmoxCSI.ClusterService
import ProxmoxCSI.MigratorCalls
import ProxmoxCSI.MigrationAnnotations
import ProxmoxCSI.RewireProgram
import ProxmoxCSI.MigrateProgram
import ProxmoxCSI.MigratorRules
import ProxmoxCSI.RewireEffects
import ProxmoxCSI.MigrateFootprint
import ProxmoxCSI.RewireGuard
import ProxmoxCSI.RewireTriples
import ProxmoxCSI.BindWait
import ProxmoxCSI.MovedDataGuard
import ProxmoxCSI.BindGate
import ProxmoxCSI.HelperConversion
import ProxmoxCSI.HelperRuns
import ProxmoxCSI.HelperCleanup
import ProxmoxCSI.CopyFreshness
import ProxmoxCSI.ConvertedContent
import ProxmoxCSI.SharedStorage
import ProxmoxCSI.AttachedSlots
import ProxmoxCSI.VMConfigs
import ProxmoxCSI.OperatorRecords
import ProxmoxCSI.RecordWrites
import ProxmoxCSI.DiskOwners
import ProxmoxCSI.VolumeReconciler
import ProxmoxCSI.ChunkRounding
import ProxmoxCSI.VolumeLifecycle
import ProxmoxCSI.PassRules
import ProxmoxCSI.ReleasedDisks
import ProxmoxCSI.VolumePasses
import ProxmoxCSI.ReadyDisks
import ProxmoxCSI.VolumeLeaks
import ProxmoxCSI.SnapshotReconciler
import ProxmoxCSI.SnapshotPasses
import ProxmoxCSI.AttachmentReconciler
import ProxmoxCSI.DriveOptions
import ProxmoxCSI.DirectCalls
import ProxmoxCSI.TokenAuthentication
import ProxmoxCSI.CapacityStream
import ProxmoxCSI.DirectVolumes
import ProxmoxCSI.DirectLookup
import ProxmoxCSI.CompleteCopies
import ProxmoxCSI.VolumeService
import ProxmoxCSI.RequestFootprints
import ProxmoxCSI.RequestPasses
import ProxmoxCSI.SnapshotDisks
import ProxmoxCSI.SnapshotLeaks
import ProxmoxCSI.VolumeDisks
import ProxmoxCSI.CallTracks
import ProxmoxCSI.CreateIdempotency
import ProxmoxCSI.PassFootprints
import ProxmoxCSI.DirectTracks
import ProxmoxCSI.SnapshotIdentity
import ProxmoxCSI.DirectSizes
import ProxmoxCSI.ModeGuards
import ProxmoxCSI.TenantReconciler
import ProxmoxCSI.RegistrationContest
import ProxmoxCSI.DiskNames
import ProxmoxCSI.QuotaChecks
import ProxmoxCSI.AttachAuthorization
import ProxmoxCSI.CallEndings
import ProxmoxCSI.AcceptedCopies
import ProxmoxCSI.ReservationReuse
import ProxmoxCSI.TargetSelection
import ProxmoxCSI.ControllerCalls
import ProxmoxCSI.MigrationController
import ProxmoxCSI.AnnotationPatches
import ProxmoxCSI.ControllerRules
import ProxmoxCSI.Evacuations
import ProxmoxCSI.SeparatedTexts
import ProxmoxCSI.DriveOverlay
import ProxmoxCSI.VolumeContexts
import ProxmoxCSI.SlotAllocation
import ProxmoxCSI.LiveModification
import ProxmoxCSI.AdvertisedLimit
import ProxmoxCSI.RemoteController
import ProxmoxCSI.RequestedMachine
import ProxmoxCSI.SizeArithmetic
import ProxmoxCSI.ModifyConvergence
import ProxmoxCSI.HandleCodec
import ProxmoxCSI.RemoteSnapshots
import ProxmoxCSI.QuotaPreflight
import ProxmoxCSI.PlacementOrder
import ProxmoxCSI.RebalancePlan
import ProxmoxCSI.SnapshotPages
import ProxmoxCSI.EvacuationPlans
import ProxmoxCSI.ReactiveTargets
import ProxmoxCSI.NormalizedRequests
import ProxmoxCSI.MigrationAttempts
import ProxmoxCSI.ProviderIDs
import ProxmoxCSI.ParameterHash
import ProxmoxCSI.ApiTransport
import ProxmoxCSI.CatalogNames
import ProxmoxCSI.CatalogSync
import ProxmoxCSI.CatalogReadiness
import ProxmoxCSI.RenamedDisks
import ProxmoxCSI.DriftSweep
import ProxmoxCSI.DriftNodes
import ProxmoxCSI.ClaimClasses
