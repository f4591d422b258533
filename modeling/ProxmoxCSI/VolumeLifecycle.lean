import ProxmoxCSI.VolumeReconciler

/-!
# Adoption and deletion of volume records

A record may adopt a disk that is already there: the handle has to describe the
record, its vmid has to belong to the tenant and no older record may claim it.
Deleting the record of a provisioned volume deletes its disk; an adopted disk
is left in place.
-/

set_option autoImplicit false

namespace ProxmoxCSI.VolumeLifecycle
open CallProgram CallProgram.Prog CallErrors TextScan VolumeHandle OperatorRecords VolumeReconciler

section Adopt

def describes (vol : ProxmoxVolume) (handle : Volume) : Option String :=
  if vol.spec.region ≠ handle.region then some ("spec.region " ++ quoted vol.spec.region ++
    " does not match adoptVolumeID region " ++ quoted handle.region)
  else if vol.spec.zone ≠ handle.zone then some ("spec.zone " ++ quoted vol.spec.zone ++
    " does not match adoptVolumeID zone " ++ quoted handle.zone)
  else if vol.spec.storage ≠ handle.storage then some ("spec.storage " ++ quoted vol.spec.storage ++
    " does not match adoptVolumeID storage " ++ quoted handle.storage)
  else none

def parseInt32 (s : String) : Option ℤ := (atoi s).filter (fun n => -2^31 ≤ n ∧ n < 2^31)

def ownedVMID (t : TenantCluster) (vmid : String) : Bool :=
  if vmid = "" then true
  else match parseInt32 vmid with
    | none => false
    | some id => id = t.placeholderVMID ∨ id ∈ t.legacyControllerVMIDs ∨ id ∈ t.resolvedVMIDs

def findDisk (disks : List ListedDisk) (handle : Volume) : Option ListedDisk :=
  (disks.find? (fun d => d.name = handle.disk)).or
    (if handle.diskSuffix = "" then none
      else disks.find? (fun d =>
        (newVolume handle.region handle.zone handle.storage d.name).diskSuffix = handle.diskSuffix))

def embeddedVMID (v : Volume) : ℤ := (parseInt32 v.vmid).getD 0

def notOwnedText (what vmid tenant : String) : String :=
  what ++ " vmid " ++ vmid ++ ", which is neither tenant " ++ tenant ++
    "'s placeholder nor one of its VMs"

def adoptRefusal (t : TenantCluster) (vol : ProxmoxVolume) (handle : Volume) :
    Option (Reason × String) :=
  match describes vol handle with
  | some mismatch => some (.volumeIDMismatch,mismatch)
  | none => if handle.region ≠ t.region then some (.invalidSpec,"handle names region " ++
        handle.region ++ ", tenant " ++ t.name ++ " is registered in " ++ t.region)
      else if ¬ownedVMID t handle.vmid then
        some (.vmidNotOwned,notOwnedText "handle names" handle.vmid t.name)
      else none

def notFoundText (handle : Volume) : String :=
  "no disk matching " ++ handle.disk ++ " on storage " ++ handle.storage

def adoptedRecord (vol : ProxmoxVolume) (t : TenantCluster) (handle : Volume) (disk : ListedDisk) :
    ProxmoxVolume :=
  let vol := { vol with status := { vol.status with
      volumeID := vol.spec.adoptVolumeID
      diskName := disk.name
      ownerVMID := embeddedVMID (newVolume handle.region handle.zone handle.storage disk.name)
      capacityBytes := disk.sizeBytes
      adopted := true
      phase := .ready } }
  let vol := setCondition vol .admitted true .accepted ("adopted by tenant " ++ t.name)
  let vol := setCondition vol .ready true .accepted ("disk " ++ disk.name ++ " on " ++
    disk.storage ++ ", " ++ toString disk.sizeBytes ++ " bytes")
  if handle.storage ∈ t.allowedStorages then
    setCondition vol .degraded false .accepted "ledger and Proxmox agree"
  else setCondition vol .degraded true .storageNotAllowed ("storage " ++ handle.storage ++
    " is not in tenant " ++ t.name ++ "'s allowedStorages")

def adoptDisk (r : Reconciler) (vol : ProxmoxVolume) (t : TenantCluster) (handle : Volume)
    (disk : ListedDisk) : P Result :=
  let found := newVolume handle.region handle.zone handle.storage disk.name
  if ¬ownedVMID t found.vmid then
    reject vol .vmidNotOwned (notOwnedText ("disk " ++ disk.name ++ " is named for") found.vmid t.name)
  else do
    let vol ← hold vol t
    let _ ← updateStatus (adoptedRecord vol t handle disk)
    pure ⟨r.period⟩

def diskMissing (r : Reconciler) (vol : ProxmoxVolume) (handle : Volume) : P Result := do
  let vol := setCondition vol .admitted false .adoptDiskNotFound (notFoundText handle)
  let vol := setCondition vol .ready false .adoptDiskNotFound (notFoundText handle)
  let _ ← updateStatus (withPhase vol .failed)
  pure ⟨r.period⟩

def adopt (r : Reconciler) (vol : ProxmoxVolume) (t : TenantCluster) (handle : Volume) :
    P Result := do
  match ← ask (.listDisks handle.region handle.zone handle.storage) with
  | .error e => report (setCondition vol .ready false .proxmoxError e.text) ⟨0⟩ e.text
  | .ok disks => match findDisk disks handle with
    | none => diskMissing r vol handle
    | some disk => adoptDisk r vol t handle disk

def adoptFor (r : Reconciler) (vol : ProxmoxVolume) (t : TenantCluster) (handle : Volume) :
    P Result := do
  match ← duplicate vol with
  | some other => rejectDuplicate vol other
  | none => adopt r vol t handle

def adoptHandle (r : Reconciler) (vol : ProxmoxVolume) (t : TenantCluster) : P Result :=
  match parseVolumeID vol.spec.adoptVolumeID with
  | none => reject vol .invalidSpec ("spec.adoptVolumeID " ++ quoted vol.spec.adoptVolumeID ++
      " is not a volume handle: " ++ invalidHandleText)
  | some handle => match adoptRefusal t vol handle with
    | some (reason,message) => reject vol reason message
    | none => adoptFor r vol t handle

def reconcileAdopt (r : Reconciler) (vol : ProxmoxVolume) : P Result := do
  match ← tenant vol.ns with
  | none => reject vol .tenantUnknown ("no admitted TenantCluster registers namespace " ++ vol.ns)
  | some t =>
    if t.mode = .suspended then reject vol .tenantSuspended ("tenant " ++ t.name ++ " is suspended")
    else if vol.spec.adoptVolumeID = "" then
      reject vol .invalidSpec "spec.adopt is set without spec.adoptVolumeID"
    else adoptHandle r vol t

end Adopt

section Delete

def unheld (vol : ProxmoxVolume) : ProxmoxVolume :=
  { vol with finalizers := vol.finalizers.filter (fun f => f ≠ volumeFinalizer) }

def releaseRecord (vol : ProxmoxVolume) : P Result := do
  need (.update (unheld vol)) ("releasing " ++ slashed vol.ns vol.name ++ ": ")
  pure ⟨0⟩

def destroyDisk (r : Reconciler) (vol : ProxmoxVolume) : P Result :=
  if vol.status.diskName = "" then releaseRecord vol
  else do
    match ← ask (.deleteDisk vol.spec.region vol.spec.zone vol.spec.storage vol.status.diskName) with
    | .error e => report (withPhase (setCondition vol .ready false .proxmoxError
        ("deleting disk: " ++ e.text)) .deleting) ⟨r.period⟩ e.text
    | .ok _ => releaseRecord vol

def reconcileDeleteProvisioned (r : Reconciler) (vol : ProxmoxVolume) : P Result := do
  let as ← need (.listAttachments vol.ns) "listing attachments: "
  match as.find? (fun a => a.volumeName = vol.name) with
  | some att => do
    let _ ← updateStatus (withPhase (setCondition vol .ready false .reconciling
      ("attachment " ++ att.name ++ " still references this volume")) .deleting)
    pure ⟨r.period⟩
  | none => destroyDisk r vol

def releaseAdopted (r : Reconciler) (vol : ProxmoxVolume) : Option TenantCluster → P Result
  | some t => if t.mode = .decommission then do
        let _ ← updateStatus (withPhase (setCondition vol .ready false .reconciling
          ("tenant " ++ t.name ++ " is decommissioning, and this operator cannot delete disks"))
          .deleting)
        pure ⟨r.period⟩
      else releaseRecord vol
  | none => releaseRecord vol

def reconcileDelete (r : Reconciler) (vol : ProxmoxVolume) : P Result :=
  if volumeFinalizer ∉ vol.finalizers then pure ⟨0⟩
  else if ¬vol.status.adopted ∧ ¬vol.spec.adopt ∧ r.writes then do
    let _ ← tenant vol.ns
    reconcileDeleteProvisioned r vol
  else do
    let t ← tenant vol.ns
    releaseAdopted r vol t

end Delete

def reconcileRecord (r : Reconciler) (vol : ProxmoxVolume) : P Result :=
  if vol.deleting then reconcileDelete r vol
  else if vol.spec.adopt then reconcileAdopt r vol
  else reconcileProvision r vol

def unread (e : Fault) : P Result := if e.kind = .notFound then pure ⟨0⟩ else throw (failed e.text)

def reconcile (r : Reconciler) (ns name : String) : P Result := do
  match ← ask (.getVolume ns name) with
  | .error e => unread e
  | .ok vol => reconcileRecord r vol

end ProxmoxCSI.VolumeLifecycle
