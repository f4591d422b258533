import ProxmoxCSI.VolumeLifecycle

/-!
# Snapshot records

A snapshot is a copy of the disk of its source volume, named after the record
like a volume of that name. A failed copy leaves the handle of its target in the
status, so that deleting the record cleans up what the copy left.
-/

set_option autoImplicit false

namespace ProxmoxCSI.SnapshotReconciler
open CallProgram CallProgram.Prog CallErrors TextScan VolumeHandle OperatorRecords VolumeReconciler
open VolumeLifecycle (unread)

/-- The period of the resynchronisation. -/
structure Snapshotter where
  syncPeriod : ℤ

def Snapshotter.period (r : Snapshotter) : ℤ :=
  if 0 < r.syncPeriod then r.syncPeriod else defaultSyncPeriod

def snapshotFinalizer : String := groupName ++ "/snapshot-protection"

section Status

def conditioned (snap : ProxmoxVolumeSnapshot) (t : ConditionType) (status : Bool)
    (reason : Reason) (message : String) : ProxmoxVolumeSnapshot :=
  { snap with
    conditions := setStatusCondition snap.conditions ⟨t,status,reason,message,snap.generation⟩ }

def seen (snap : ProxmoxVolumeSnapshot) : ProxmoxVolumeSnapshot :=
  { snap with observedGeneration := snap.generation }

def snapshotText (snap : ProxmoxVolumeSnapshot) : String :=
  "updating " ++ slashed snap.ns snap.name ++ " status: "

def settled (snap : ProxmoxVolumeSnapshot) (result : Result) : P Result := do
  need (.updateSnapshotStatus (seen snap)) (snapshotText snap)
  pure result

def reported (snap : ProxmoxVolumeSnapshot) (result : Result) (cause : String) : P Result := do
  match ← ask (.updateSnapshotStatus (seen snap)) with
  | .ok _ => throw ⟨result,cause⟩
  | .error e => throw ⟨result,cause ++ " (while reporting: " ++ snapshotText snap ++ e.text ++ ")"⟩

end Status

section Create

def storageRefusal (region storage : String) (storages : List ProxmoxStorage) : Option String :=
  match storages.find? (fun s => s.region = region ∧ s.storage = storage) with
  | none => some ("storage " ++ storage ++ " not found in the catalog for region " ++ region)
  | some s => if s.pluginType = "cifs" ∨ s.pluginType = "pbs" then
        some ("storage type " ++ s.pluginType ++ " does not support snapshots")
      else if s.pluginType = "rbd" then some "storage type rbd (ceph) does not support snapshots"
      else if s.shared then some "shared storage does not support snapshots"
      else none

def checkStorageForSnapshot (region storage : String) : P (Option String) := do
  match ← ask .listStorages with
  | .error e => pure (some ("listing storages: " ++ e.text))
  | .ok storages => pure (storageRefusal region storage storages)

def withFinalizer (snap : ProxmoxVolumeSnapshot) : ProxmoxVolumeSnapshot :=
  { snap with finalizers := if snapshotFinalizer ∈ snap.finalizers then snap.finalizers
      else snap.finalizers ++ [snapshotFinalizer] }

def heldSnapshot (snap : ProxmoxVolumeSnapshot) (t : TenantCluster) : ProxmoxVolumeSnapshot :=
  { withFinalizer snap with labels := snap.labels.insert labelTenant t.name }

def holdSnapshot (snap : ProxmoxVolumeSnapshot) (t : TenantCluster) : P ProxmoxVolumeSnapshot :=
  if snapshotFinalizer ∈ snap.finalizers ∧ valueOf snap.labels labelTenant = t.name then pure snap
  else do
    need (.updateSnapshot (heldSnapshot snap t)) ("holding " ++ slashed snap.ns snap.name ++ ": ")
    pure (heldSnapshot snap t)

def snapshotDisk (t : TenantCluster) (snap : ProxmoxVolumeSnapshot) (src : Volume) : Volume :=
  let disk := copyName src ("vm-" ++ toString t.placeholderVMID ++ "-" ++ snap.name)
  if snap.zone ≠ "" then setZone disk snap.zone else disk

def copyFailed (snap : ProxmoxVolumeSnapshot) (disk : Volume) (text : String) :
    ProxmoxVolumeSnapshot :=
  conditioned { snap with snapshotID := disk.volumeID } .ready false .proxmoxError
    ("copying disk: " ++ text)

def copied (snap : ProxmoxVolumeSnapshot) (t : TenantCluster) (vol : ProxmoxVolume)
    (disk : Volume) : ProxmoxVolumeSnapshot :=
  let snap := { snap with
      snapshotID := disk.volumeID, readyToUse := true, restoreSizeBytes := vol.status.capacityBytes }
  let snap := conditioned snap .admitted true .accepted
    ("snapshot of " ++ vol.name ++ " by tenant " ++ t.name)
  conditioned snap .ready true .accepted ("disk " ++ disk.disk ++ " on " ++ vol.spec.storage)

def sourceDiskName (vol : ProxmoxVolume) (src : Volume) : String :=
  if vol.status.diskName = "" then src.disk else vol.status.diskName

def copyOf (r : Snapshotter) (snap : ProxmoxVolumeSnapshot) (t : TenantCluster)
    (vol : ProxmoxVolume) (src disk : Volume) : P Result := do
  match ← ask (.copyDisk vol.spec.region src.zone vol.spec.storage (sourceDiskName vol src)
      disk.zone vol.spec.storage disk.disk) with
  | .error e => reported (copyFailed snap disk e.text) ⟨0⟩ e.text
  | .ok _ => settled (copied snap t vol disk) ⟨r.period⟩

def copyFrom (r : Snapshotter) (snap : ProxmoxVolumeSnapshot) (t : TenantCluster)
    (vol : ProxmoxVolume) (src : Volume) : P Result := do
  let snap' ← holdSnapshot snap t
  copyOf r snap' t vol src (snapshotDisk t snap src)

def phaseText : VolumePhase → String
  | .unset => ""
  | .pending => "Pending"
  | .ready => "Ready"
  | .migrating => "Migrating"
  | .rejected => "Rejected"
  | .failed => "Failed"
  | .deleting => "Deleting"

def snapshotRefusal (t : TenantCluster) (vol : ProxmoxVolume) : Option (Reason × String) :=
  if t.mode ≠ .enforce ∧ t.mode ≠ .decommission then
    some (.tenantObserveOnly,"snapshots require Enforce mode")
  else if vol.spec.storage ∉ t.allowedStorages then
    some (.storageNotAllowed,"storage " ++ vol.spec.storage ++ " is not in tenant " ++ t.name ++
      "'s allowedStorages")
  else none

def snapshotFor (r : Snapshotter) (snap : ProxmoxVolumeSnapshot) (t : TenantCluster)
    (vol : ProxmoxVolume) : P Result := do
  match ← checkStorageForSnapshot vol.spec.region vol.spec.storage with
  | some text => settled (conditioned snap .admitted false .invalidSpec text) ⟨0⟩
  | none => match parseVolumeID vol.status.volumeID with
    | none => settled (conditioned snap .ready false .invalidSpec ("invalid source volumeID " ++
        quoted vol.status.volumeID ++ ": " ++ invalidHandleText)) ⟨0⟩
    | some src => copyFrom r snap t vol src

def snapshotOf (r : Snapshotter) (snap : ProxmoxVolumeSnapshot) (vol : ProxmoxVolume) :
    P Result := do
  match ← tenant snap.ns with
  | none => settled (conditioned snap .admitted false .tenantUnknown
      ("no admitted TenantCluster registers namespace " ++ snap.ns)) ⟨0⟩
  | some t => match snapshotRefusal t vol with
    | some (reason,message) => settled (conditioned snap .admitted false reason message) ⟨0⟩
    | none => snapshotFor r snap t vol

def reconcileCreate (r : Snapshotter) (snap : ProxmoxVolumeSnapshot) : P Result :=
  if snap.readyToUse then pure ⟨r.period⟩
  else do
    match ← ask (.getVolume snap.ns snap.sourceVolumeName) with
    | .error e => settled (conditioned snap .admitted false .sourceNotFound
        ("source volume " ++ snap.sourceVolumeName ++ " not found: " ++ e.text)) ⟨0⟩
    | .ok vol =>
      if vol.status.phase ≠ .ready then
        settled (conditioned snap .ready false .reconciling ("source volume " ++ vol.name ++
          " is not ready (phase " ++ phaseText vol.status.phase ++ ")")) ⟨r.period⟩
      else snapshotOf r snap vol

end Create

section Delete

def isNotFound (e : Fault) : Bool :=
  contains e.text "does not exist" ∨ contains e.text "not found" ∨ contains e.text "no such"

def releasedSnapshot (snap : ProxmoxVolumeSnapshot) : ProxmoxVolumeSnapshot :=
  { snap with finalizers := snap.finalizers.filter (fun f => f ≠ snapshotFinalizer) }

def releaseSnapshot (snap : ProxmoxVolumeSnapshot) : P Result := do
  need (.updateSnapshot (releasedSnapshot snap)) ("releasing " ++ slashed snap.ns snap.name ++ ": ")
  pure ⟨0⟩

def deleteSnapshotDisk (r : Snapshotter) (snap : ProxmoxVolumeSnapshot) (disk : Volume) :
    P Result := do
  match ← ask (.deleteDisk disk.region disk.zone disk.storage disk.disk) with
  | .ok _ => releaseSnapshot snap
  | .error e =>
    if isNotFound e then releaseSnapshot snap
    else reported (conditioned snap .ready false .proxmoxError
      ("deleting snapshot disk: " ++ e.text)) ⟨r.period⟩ e.text

def releaseInvalid (snap : ProxmoxVolumeSnapshot) : P Result := do
  need (.updateSnapshot (releasedSnapshot snap)) ""
  pure ⟨0⟩

def reconcileDelete (r : Snapshotter) (snap : ProxmoxVolumeSnapshot) : P Result :=
  if snapshotFinalizer ∉ snap.finalizers then pure ⟨0⟩
  else if snap.snapshotID = "" then releaseSnapshot snap
  else match parseVolumeID snap.snapshotID with
    | none => releaseInvalid snap
    | some disk => deleteSnapshotDisk r snap disk

end Delete

def reconcileSnapshot (r : Snapshotter) (snap : ProxmoxVolumeSnapshot) : P Result :=
  if snap.deleting then reconcileDelete r snap else reconcileCreate r snap

def reconcile (r : Snapshotter) (ns name : String) : P Result := do
  match ← ask (.getSnapshot ns name) with
  | .error e => unread e
  | .ok snap => reconcileSnapshot r snap

end ProxmoxCSI.SnapshotReconciler
