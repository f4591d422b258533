import ProxmoxCSI.SnapshotReconciler

/-!
# Attachment records

Attaching reassigns the disk to the VM, where that is enabled, and plugs it; the
record keeps a finalizer until the disk is unplugged. Detaching goes by the name
in the volume's status, attaching by the one in its handle.
-/

set_option autoImplicit false

namespace ProxmoxCSI.AttachmentReconciler
open CallProgram CallProgram.Prog CallErrors TextScan VolumeHandle OperatorRecords VolumeReconciler
open VolumeLifecycle (unread)
open SnapshotReconciler (phaseText)

/-- The drive options a volume stands for are computed elsewhere. -/
structure Attacher where
  syncPeriod : ℤ
  reassignVolumeOnAttach : Bool
  diskOptions : ProxmoxVolume → Bool → Except String Params

def Attacher.period (r : Attacher) : ℤ :=
  if 0 < r.syncPeriod then r.syncPeriod else defaultSyncPeriod

def attachmentFinalizer : String := groupName ++ "/attachment-protection"

section Status

def conditioned (att : ProxmoxVolumeAttachment) (t : ConditionType) (status : Bool)
    (reason : Reason) (message : String) : ProxmoxVolumeAttachment :=
  { att with
    conditions := setStatusCondition att.conditions ⟨t,status,reason,message,att.generation⟩ }

def seen (att : ProxmoxVolumeAttachment) : ProxmoxVolumeAttachment :=
  { att with observedGeneration := att.generation }

def attachmentText (att : ProxmoxVolumeAttachment) : String :=
  "updating " ++ slashed att.ns att.name ++ " status: "

def settled (att : ProxmoxVolumeAttachment) (result : Result) : P Result := do
  let _ ← need (.updateAttachmentStatus (seen att)) (attachmentText att)
  pure result

def reported (att : ProxmoxVolumeAttachment) (result : Result) (cause : String) : P Result := do
  match ← ask (.updateAttachmentStatus (seen att)) with
  | .ok _ => throw ⟨result,cause⟩
  | .error e => throw ⟨result,cause ++ " (while reporting: " ++ attachmentText att ++ e.text ++ ")"⟩

end Status

def locked {α : Type} (region : String) (vmid : ℤ) (x : P α) : P α := do
  let _ ← ask (.lockVM region vmid)
  deferred (issue (.unlockVM region vmid) >>= fun _ => .done ()) x

def renamedTo (vol : ProxmoxVolume) (disk : Volume) (owner : ℤ) : ProxmoxVolume :=
  { vol with status := { vol.status with diskName := disk.disk, ownerVMID := owner } }

section Attach

def heldAttachment (att : ProxmoxVolumeAttachment) (t : TenantCluster) : ProxmoxVolumeAttachment :=
  { att with
    finalizers := if attachmentFinalizer ∈ att.finalizers then att.finalizers
      else att.finalizers ++ [attachmentFinalizer]
    labels := att.labels.insert labelTenant t.name }

def holdAttachment (att : ProxmoxVolumeAttachment) (t : TenantCluster) : P ProxmoxVolumeAttachment :=
  if attachmentFinalizer ∈ att.finalizers ∧ valueOf att.labels labelTenant = t.name then pure att
  else need (.updateAttachment (heldAttachment att t)) ("holding " ++ slashed att.ns att.name ++ ": ")

/-- The disk the drive will name. A failed rename is only logged, and so is a
failed note of the new name in the record of the volume. -/
def reassigned (r : Attacher) (att : ProxmoxVolumeAttachment) (vol : ProxmoxVolume)
    (disk : Volume) : P Volume :=
  if r.reassignVolumeOnAttach ∧ disk.node ≠ "" ∧ disk.vmid ≠ toString att.vmid then do
    match ← ask (.renameDisk disk.region disk att.vmid) with
    | .error _ => pure disk
    | .ok renamed => do
      let _ ← ask (.updateStatus (renamedTo vol renamed att.vmid))
      pure renamed
  else pure disk

def attachedTo (att : ProxmoxVolumeAttachment) (disk : Volume) (result : AttachResult) :
    ProxmoxVolumeAttachment :=
  let att := { att with attached := true, devicePath := result.devicePath, lun := result.lun }
  let att := conditioned att .admitted true .accepted ("attached to VM " ++ toString att.vmid)
  conditioned att .ready true .accepted ("disk " ++ disk.disk ++ " on VM " ++ toString att.vmid ++
    ", lun " ++ result.lun)

def plugIn (r : Attacher) (att : ProxmoxVolumeAttachment) (disk : Volume) (region : String)
    (options : Params) : P Result := do
  match ← ask (.attachDisk region att.vmid disk options) with
  | .error e => settled (conditioned att .ready false .proxmoxError
      ("attaching disk: " ++ e.text)) ⟨r.period⟩
  | .ok result => settled (attachedTo att disk result) ⟨r.period⟩

def attachLocked (r : Attacher) (att : ProxmoxVolumeAttachment) (vol : ProxmoxVolume)
    (disk : Volume) : P Result := do
  let disk' ← reassigned r att vol disk
  match r.diskOptions vol att.readonly with
  | .error text => settled (conditioned att .ready false .parameterRejected
      ("volume parameters: " ++ text)) ⟨0⟩
  | .ok options => plugIn r att disk' disk.region options

def attachHeld (r : Attacher) (att : ProxmoxVolumeAttachment) (vol : ProxmoxVolume) : P Result :=
  match parseVolumeID vol.status.volumeID with
  | none => settled (conditioned att .ready false .invalidSpec ("invalid volumeID " ++
      quoted vol.status.volumeID ++ ": " ++ invalidHandleText)) ⟨0⟩
  | some disk => locked disk.region att.vmid (attachLocked r att vol disk)

def attachRefusal (t : TenantCluster) (att : ProxmoxVolumeAttachment) : Option (Reason × String) :=
  if t.mode ≠ .enforce ∧ t.mode ≠ .decommission then
    some (.tenantObserveOnly,"attach requires Enforce mode")
  else if att.vmid ∉ t.resolvedVMIDs then
    some (.vmidNotOwned,"vmid " ++ toString att.vmid ++ " is not in tenant " ++ t.name ++
      "'s resolvedVmids")
  else none

def attachFor (r : Attacher) (att : ProxmoxVolumeAttachment) (vol : ProxmoxVolume)
    (t : TenantCluster) : P Result :=
  match attachRefusal t att with
  | some (reason,message) => settled (conditioned att .admitted false reason message) ⟨0⟩
  | none => do
    let att ← holdAttachment att t
    attachHeld r att vol

def attachReady (r : Attacher) (att : ProxmoxVolumeAttachment) (vol : ProxmoxVolume) :
    P Result := do
  match ← tenant att.ns with
  | none => settled (conditioned att .admitted false .tenantUnknown
      ("no admitted TenantCluster registers namespace " ++ att.ns)) ⟨0⟩
  | some t => attachFor r att vol t

def attachVolumeOf (r : Attacher) (att : ProxmoxVolumeAttachment) (vol : ProxmoxVolume) : P Result :=
  if vol.status.volumeID ≠ att.volumeID then
    settled (conditioned att .admitted false .volumeIDMismatch ("attachment volumeID " ++
      att.volumeID ++ " does not match volume status.volumeID " ++ vol.status.volumeID)) ⟨0⟩
  else if vol.status.phase ≠ .ready then
    settled (conditioned att .ready false .reconciling ("volume " ++ vol.name ++
      " is not ready (phase " ++ phaseText vol.status.phase ++ ")")) ⟨r.period⟩
  else attachReady r att vol

def reconcileAttach (r : Attacher) (att : ProxmoxVolumeAttachment) : P Result :=
  if att.attached then pure ⟨r.period⟩
  else do
    match ← ask (.getVolume att.ns att.volumeName) with
    | .error e => settled (conditioned att .ready false .invalidSpec
        ("volume " ++ att.volumeName ++ " not found: " ++ e.text)) ⟨0⟩
    | .ok vol => attachVolumeOf r att vol

end Attach

section Detach

def releasedAttachment (att : ProxmoxVolumeAttachment) : ProxmoxVolumeAttachment :=
  { att with finalizers := att.finalizers.filter (fun f => f ≠ attachmentFinalizer) }

def abandon (att : ProxmoxVolumeAttachment) : P Result := do
  let _ ← need (.updateAttachment (releasedAttachment att)) ""
  pure ⟨0⟩

def releaseAttachment (att : ProxmoxVolumeAttachment) : P Result := do
  let _ ← need (.updateAttachment (releasedAttachment att))
    ("releasing " ++ slashed att.ns att.name ++ ": ")
  pure ⟨0⟩

def placeholder (ns : String) : P ℤ := do
  match ← observed (tenant ns) with
  | .ok (some t) => pure t.placeholderVMID
  | _ => pure 0

def renameTo (att : ProxmoxVolumeAttachment) (vol : ProxmoxVolume) (disk : Volume)
    (target : ℤ) : P Unit := do
  match ← ask (.renameDisk disk.region disk target) with
  | .error _ => pure ()
  | .ok renamed => do
    let _ ← ask (.clearUnusedDisk disk.region att.vmid renamed)
    let _ ← ask (.updateStatus (renamedTo vol renamed target))
    pure ()

/-- Every step is best effort. -/
def renamedBack (r : Attacher) (att : ProxmoxVolumeAttachment) (vol : ProxmoxVolume)
    (disk : Volume) : P Unit :=
  if r.reassignVolumeOnAttach ∧ disk.node ≠ "" then do
    let target ← placeholder att.ns
    if 0 < target ∧ (atoi disk.vmid).getD 0 ≠ target then renameTo att vol disk target else pure ()
  else pure ()

def detachLocked (r : Attacher) (att : ProxmoxVolumeAttachment) (vol : ProxmoxVolume)
    (disk : Volume) : P Result := do
  match ← ask (.detachDisk disk.region att.vmid disk) with
  | .error e => reported (conditioned att .ready false .proxmoxError
      ("detaching disk: " ++ e.text)) ⟨r.period⟩ e.text
  | .ok _ => do
    renamedBack r att vol disk
    releaseAttachment att

def currentDisk (vol : ProxmoxVolume) (base : Volume) : Volume :=
  newVolume base.region base.zone base.storage
    (if vol.status.diskName = "" then base.disk else vol.status.diskName)

def detachFrom (r : Attacher) (att : ProxmoxVolumeAttachment) (vol : ProxmoxVolume) : P Result :=
  if vol.status.volumeID = "" then abandon att
  else match parseVolumeID vol.status.volumeID with
    | none => abandon att
    | some base => locked base.region att.vmid (detachLocked r att vol (currentDisk vol base))

def reconcileDetach (r : Attacher) (att : ProxmoxVolumeAttachment) : P Result :=
  if attachmentFinalizer ∉ att.finalizers then pure ⟨0⟩
  else do
    match ← ask (.getVolume att.ns att.volumeName) with
    | .error _ => abandon att
    | .ok vol => detachFrom r att vol

end Detach

def reconcileAttachment (r : Attacher) (att : ProxmoxVolumeAttachment) : P Result :=
  if att.deleting then reconcileDetach r att else reconcileAttach r att

def reconcile (r : Attacher) (ns name : String) : P Result := do
  match ← ask (.getAttachment ns name) with
  | .error e => unread e
  | .ok att => reconcileAttachment r att

end ProxmoxCSI.AttachmentReconciler
