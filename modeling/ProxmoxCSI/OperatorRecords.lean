import ProxmoxCSI.VMConfigs
import ProxmoxCSI.ObjectStore

/-!
# The records of the operator and the calls on them

Tenants, volumes, snapshots, attachments and storages are records of the
management cluster; disks live on the storages and are plugged into the VMs. A
reconciler reads and writes both through calls, each of which may be refused,
or reported as failed after it took effect. Attaching and detaching a disk are
runs of the programs on the configuration of the VM.
-/

set_option autoImplicit false

namespace ProxmoxCSI.OperatorRecords
open CallProgram CallProgram.Prog CallErrors CallSessions CallSchedule VolumeHandle AttachedSlots
open VMConfigs

abbrev Params := AList (fun _ : String => String)

def valueOf (p : Params) (key : String) : String := (p.lookup key).getD ""

structure Quantity where
  value : ℤ
  text : String
  deriving DecidableEq

abbrev Quantities := AList (fun _ : String => Quantity)

inductive TenantMode where
  | unset | observe | enforce | suspended | decommission
  deriving DecidableEq, Repr

inductive VolumePhase where
  | unset | pending | ready | migrating | rejected | failed | deleting
  deriving DecidableEq, Repr

inductive ConditionType where
  | admitted | ready | degraded
  deriving DecidableEq, Repr

inductive Reason where
  | accepted | storageNotAllowed | vmidNotOwned | quotaExceeded | namespaceQuota
  | parameterRejected | duplicateClaim | tenantUnknown | tenantSuspended | tenantObserveOnly
  | invalidSpec | sourceNotFound | adoptDiskNotFound | volumeIDMismatch | proxmoxError
  | missingClaimRef | reconciling
  deriving DecidableEq, Repr

structure Condition where
  type : ConditionType
  status : Bool
  reason : Reason
  message : String
  observedGeneration : ℤ
  deriving DecidableEq

def setStatusCondition (cs : List Condition) (c : Condition) : List Condition :=
  if cs.any (fun x => x.type = c.type) then cs.map (fun x => if x.type = c.type then c else x)
  else cs ++ [c]

def isStatusConditionTrue (cs : List Condition) (t : ConditionType) : Bool :=
  match cs.find? (fun x => x.type = t) with
  | some c => c.status
  | none => false

structure VolumeSource where
  volumeName : String
  snapshotName : String
  deriving DecidableEq

structure VolumeSpec where
  region : String
  zone : String
  storage : String
  capacityBytes : ℤ
  parameters : Params
  source : Option VolumeSource
  mutableParameters : Params
  claimNamespace : String
  adopt : Bool
  adoptVolumeID : String

structure VolumeStatus where
  volumeID : String
  diskName : String
  ownerVMID : ℤ
  capacityBytes : ℤ
  accessibleTopology : List String
  adopted : Bool
  phase : VolumePhase
  observedGeneration : ℤ
  conditions : List Condition
  deriving DecidableEq

structure ProxmoxVolume where
  ns : String
  name : String
  uid : ℕ
  generation : ℤ
  created : ℕ
  labels : Params
  annotations : Params
  finalizers : List String
  deleting : Bool
  spec : VolumeSpec
  status : VolumeStatus

structure ParameterPolicy where
  allowed : Option (List String)
  forced : Params
  maxInt : AList (fun _ : String => ℤ)
  maxVolumeBytes : Option Quantity

structure TenantQuota where
  maxVolumes : Option ℤ
  maxCapacity : Quantities

structure NamespaceQuota where
  ns : String
  quota : TenantQuota

structure QuotaUsage where
  volumes : ℤ
  capacity : Quantities

structure TenantCluster where
  name : String
  ns : String
  region : String
  placeholderVMID : ℤ
  legacyControllerVMIDs : List ℤ
  mode : TenantMode
  allowedStorages : List String
  parameterPolicy : Option ParameterPolicy
  quota : Option TenantQuota
  namespaceQuotas : List NamespaceQuota
  used : QuotaUsage
  namespaceUsed : List (String × QuotaUsage)
  resolvedVMIDs : List ℤ
  conditions : List Condition
  subject : String
  issuer : String
  pool : String
  vmids : List ℤ
  vmidsObservedAt : Option ℤ
  version : ℕ
  created : ℕ
  generation : ℤ
  observedGeneration : ℤ
  finalizers : List String
  deleting : Bool

structure ProxmoxStorage where
  region : String
  zone : String
  storage : String
  shared : Bool
  pluginType : String
  totalBytes : ℤ
  availableBytes : ℤ
  deriving DecidableEq

structure ProxmoxVolumeSnapshot where
  ns : String
  name : String
  uid : ℕ
  generation : ℤ
  labels : Params
  finalizers : List String
  deleting : Bool
  sourceVolumeName : String
  storage : String
  zone : String
  snapshotID : String
  readyToUse : Bool
  restoreSizeBytes : ℤ
  observedGeneration : ℤ
  conditions : List Condition

/-- The version changes with every write. -/
structure ProxmoxVolumeAttachment where
  ns : String
  name : String
  version : ℕ
  generation : ℤ
  labels : Params
  finalizers : List String
  deleting : Bool
  volumeName : String
  volumeID : String
  nodeID : String
  vmid : ℤ
  readonly : Bool
  attached : Bool
  devicePath : String
  lun : String
  resizeRequired : Bool
  observedGeneration : ℤ
  conditions : List Condition

structure ListedVM where
  region : String
  vmid : ℤ
  name : String
  pool : String
  deriving DecidableEq

/-- An entry of a storage listing; the name is what follows the storage. A disk
of a shared storage is on no node in particular. -/
structure ListedDisk where
  region : String
  node : String
  storage : String
  name : String
  sizeBytes : ℤ
  deriving DecidableEq

inductive OpCall where
  | now
  | listTenants
  | getTenant (name : String)
  | createTenant (t : TenantCluster)
  | deleteTenant (name : String)
  | updateTenant (t : TenantCluster)
  | updateTenantStatus (t : TenantCluster)
  | listVolumes (ns : String)
  | listClaims (handle : String)
  | listStorages
  | getVolume (ns name : String)
  | volumesByID (ns volumeID : String)
  | createVolume (vol : ProxmoxVolume)
  | deleteVolume (ns name : String)
  | update (vol : ProxmoxVolume)
  | updateStatus (vol : ProxmoxVolume)
  | getSnapshot (ns name : String)
  | listSnapshots (ns : String)
  | snapshotsByID (ns snapshotID : String)
  | createSnapshot (snap : ProxmoxVolumeSnapshot)
  | deleteSnapshot (ns name : String)
  | updateSnapshot (snap : ProxmoxVolumeSnapshot)
  | updateSnapshotStatus (snap : ProxmoxVolumeSnapshot)
  | getAttachment (ns name : String)
  | listAttachments (ns : String)
  | createAttachment (att : ProxmoxVolumeAttachment)
  | deleteAttachment (ns name : String)
  | updateAttachment (att : ProxmoxVolumeAttachment)
  | updateAttachmentStatus (att : ProxmoxVolumeAttachment)
  | listVMs (region : String)
  | listDisks (region zone storage : String)
  | createDisk (region zone storage diskName : String) (sizeBytes : ℤ)
  | copyDisk (srcRegion srcZone srcStorage srcDisk dstZone dstStorage dstDisk : String)
  | deleteDisk (region zone storage disk : String)
  | renameDisk (region : String) (vol : Volume) (targetVMID : ℤ)
  | attachDisk (region : String) (vmid : ℤ) (vol : Volume) (options : Params)
  | detachDisk (region : String) (vmid : ℤ) (vol : Volume)
  | clearUnusedDisk (region : String) (vmid : ℤ) (vol : Volume)
  | resizeDisk (region : String) (vmid : ℤ) (zone device size : String)
  | updateDisk (region : String) (vmid : ℤ) (vol : Volume) (options : Params)
  | lockVM (region : String) (vmid : ℤ)
  | unlockVM (region : String) (vmid : ℤ)

inductive FaultKind where
  | other | notFound | alreadyExists | conflict
  deriving DecidableEq, Repr

structure Fault where
  kind : FaultKind
  text : String
  deriving DecidableEq, Repr

structure AttachResult where
  devicePath : String
  lun : String
  deriving DecidableEq, Repr

abbrev OpAnswer : OpCall → Type
  | .now => ℤ
  | .listTenants => List TenantCluster
  | .getTenant _ => TenantCluster
  | .createTenant _ => TenantCluster
  | .updateTenant _ => TenantCluster
  | .updateTenantStatus _ => TenantCluster
  | .listVolumes _ => List ProxmoxVolume
  | .listClaims _ => List ProxmoxVolume
  | .listStorages => List ProxmoxStorage
  | .getVolume _ _ => ProxmoxVolume
  | .volumesByID _ _ => List ProxmoxVolume
  | .createVolume _ => ProxmoxVolume
  | .getSnapshot _ _ => ProxmoxVolumeSnapshot
  | .listSnapshots _ => List ProxmoxVolumeSnapshot
  | .snapshotsByID _ _ => List ProxmoxVolumeSnapshot
  | .createSnapshot _ => ProxmoxVolumeSnapshot
  | .getAttachment _ _ => ProxmoxVolumeAttachment
  | .listAttachments _ => List ProxmoxVolumeAttachment
  | .createAttachment _ => ProxmoxVolumeAttachment
  | .updateAttachment _ => ProxmoxVolumeAttachment
  | .updateAttachmentStatus _ => ProxmoxVolumeAttachment
  | .listVMs _ => List ListedVM
  | .listDisks _ _ _ => List ListedDisk
  | .renameDisk _ _ _ => Volume
  | .attachDisk _ _ _ _ => AttachResult
  | _ => Unit

abbrev OpReply (c : OpCall) : Type := Except Fault (OpAnswer c)

structure Result where
  requeueAfter : ℤ
  deriving DecidableEq, Repr

/-- An error is returned together with a result. -/
structure Failure where
  result : Result
  text : String
  deriving DecidableEq, Repr

abbrev P := Fallible OpCall OpReply Failure

def ask (c : OpCall) : P (OpReply c) := perform (issue c)

def failed (text : String) : Failure := ⟨⟨0⟩,text⟩

def need (c : OpCall) (pre : String) : P (OpAnswer c) :=
  ExceptT.mk (.call c fun r : OpReply c => .done (r.mapError (fun e => failed (pre ++ e.text))))

def claim (vol : ProxmoxVolume) : String :=
  if vol.status.volumeID ≠ "" then vol.status.volumeID else vol.spec.adoptVolumeID

structure Ledger where
  tenants : List TenantCluster
  volumes : List ProxmoxVolume
  snapshots : List ProxmoxVolumeSnapshot
  attachments : List ProxmoxVolumeAttachment
  storages : List ProxmoxStorage
  disks : List ListedDisk
  listedVMs : List ListedVM
  vms : VMs
  serial : ℕ
  clock : ℤ

def volumeKey (v : ProxmoxVolume) : String × String := (v.ns,v.name)

def snapshotKey (s : ProxmoxVolumeSnapshot) : String × String := (s.ns,s.name)

def attachmentKey (a : ProxmoxVolumeAttachment) : String × String := (a.ns,a.name)

def missing (name : String) : Fault := ⟨.notFound,name ++ " not found"⟩

def taken (name : String) : Fault := ⟨.alreadyExists,name ++ " already exists"⟩

def conflicting (name : String) : Fault := ⟨.conflict,name ++ " has been modified"⟩

def foundOr {α : Type} (name : String) : Option α → Except Fault α
  | some a => .ok a
  | none => .error (missing name)

def reaches (region zone storage name : String) (d : ListedDisk) : Bool :=
  d.region = region ∧ (zone = "" ∨ d.node = zone ∨ d.node = "") ∧ d.storage = storage ∧
    d.name = name

namespace Ledger

section Tenants

def lookupTenant (l : Ledger) (name : String) : Option TenantCluster :=
  ObjectStore.find TenantCluster.name l.tenants name

def tenantGone (t : TenantCluster) : Bool := t.deleting ∧ t.finalizers = []

def putTenant (l : Ledger) (t : TenantCluster) (f : TenantCluster → TenantCluster) :
    Except Fault TenantCluster × Ledger :=
  match l.lookupTenant t.name with
  | none => (.error (missing t.name),l)
  | some t' => if t'.version ≠ t.version then (.error (conflicting t.name),l)
      else (.ok { f t' with version := l.serial },{ l with
        tenants := ObjectStore.settle TenantCluster.name tenantGone l.tenants t.name
          (fun t' => { f t' with version := l.serial })
        serial := l.serial+1 })

def createTenant (l : Ledger) (t : TenantCluster) : Except Fault TenantCluster × Ledger :=
  match l.lookupTenant t.name with
  | some _ => (.error (taken t.name),l)
  | none =>
      let t := { t with
        version := l.serial, created := l.serial, generation := 1, deleting := false
        used := ⟨0,∅⟩, namespaceUsed := [], resolvedVMIDs := [], vmidsObservedAt := none
        observedGeneration := 0, conditions := [] }
      (.ok t,{ l with tenants := l.tenants ++ [t], serial := l.serial+1 })

def deleteTenant (l : Ledger) (name : String) : Except Fault Unit × Ledger :=
  match l.lookupTenant name with
  | none => (.error (missing name),l)
  | some _ => (.ok (),{ l with
      tenants := ObjectStore.settle TenantCluster.name tenantGone l.tenants name
        (fun t => { t with deleting := true, version := l.serial })
      serial := l.serial+1 })

end Tenants

section Volumes

def lookupVolume (l : Ledger) (ns name : String) : Option ProxmoxVolume :=
  ObjectStore.find volumeKey l.volumes (ns,name)

def volumeGone (v : ProxmoxVolume) : Bool := v.deleting ∧ v.finalizers = []

def putVolume (l : Ledger) (vol : ProxmoxVolume) (f : ProxmoxVolume → ProxmoxVolume) :
    Except Fault Unit × Ledger :=
  match l.lookupVolume vol.ns vol.name with
  | none => (.error (missing vol.name),l)
  | some v => if v.uid ≠ vol.uid then (.error (conflicting vol.name),l)
      else (.ok (),{ l with
        volumes := ObjectStore.settle volumeKey volumeGone l.volumes (volumeKey vol) f })

def emptyStatus : VolumeStatus := ⟨"","",0,0,[],false,.unset,0,[]⟩

def createVolume (l : Ledger) (vol : ProxmoxVolume) : Except Fault ProxmoxVolume × Ledger :=
  match l.lookupVolume vol.ns vol.name with
  | some _ => (.error (taken vol.name),l)
  | none =>
      let v := { vol with
        uid := l.serial, created := l.serial, generation := 1, deleting := false
        status := emptyStatus }
      (.ok v,{ l with volumes := l.volumes ++ [v], serial := l.serial+1 })

def deleteVolume (l : Ledger) (ns name : String) : Except Fault Unit × Ledger :=
  match l.lookupVolume ns name with
  | none => (.error (missing name),l)
  | some _ => (.ok (),{ l with
      volumes := ObjectStore.settle volumeKey volumeGone l.volumes (ns,name)
        (fun v => { v with deleting := true }) })

end Volumes

section Snapshots

def lookupSnapshot (l : Ledger) (ns name : String) : Option ProxmoxVolumeSnapshot :=
  ObjectStore.find snapshotKey l.snapshots (ns,name)

def snapshotGone (s : ProxmoxVolumeSnapshot) : Bool := s.deleting ∧ s.finalizers = []

def putSnapshot (l : Ledger) (snap : ProxmoxVolumeSnapshot)
    (f : ProxmoxVolumeSnapshot → ProxmoxVolumeSnapshot) : Except Fault Unit × Ledger :=
  match l.lookupSnapshot snap.ns snap.name with
  | none => (.error (missing snap.name),l)
  | some s => if s.uid ≠ snap.uid then (.error (conflicting snap.name),l)
      else (.ok (),{ l with
        snapshots := ObjectStore.settle snapshotKey snapshotGone l.snapshots (snapshotKey snap) f })

def createSnapshot (l : Ledger) (snap : ProxmoxVolumeSnapshot) :
    Except Fault ProxmoxVolumeSnapshot × Ledger :=
  match l.lookupSnapshot snap.ns snap.name with
  | some _ => (.error (taken snap.name),l)
  | none =>
      let s := { snap with
        uid := l.serial, generation := 1, deleting := false, snapshotID := ""
        readyToUse := false, restoreSizeBytes := 0, observedGeneration := 0, conditions := [] }
      (.ok s,{ l with snapshots := l.snapshots ++ [s], serial := l.serial+1 })

def deleteSnapshot (l : Ledger) (ns name : String) : Except Fault Unit × Ledger :=
  match l.lookupSnapshot ns name with
  | none => (.error (missing name),l)
  | some _ => (.ok (),{ l with
      snapshots := ObjectStore.settle snapshotKey snapshotGone l.snapshots (ns,name)
        (fun s => { s with deleting := true }) })

end Snapshots

section Attachments

def lookupAttachment (l : Ledger) (ns name : String) : Option ProxmoxVolumeAttachment :=
  ObjectStore.find attachmentKey l.attachments (ns,name)

def attachmentGone (a : ProxmoxVolumeAttachment) : Bool := a.deleting ∧ a.finalizers = []

def putAttachment (l : Ledger) (att : ProxmoxVolumeAttachment)
    (f : ProxmoxVolumeAttachment → ProxmoxVolumeAttachment) :
    Except Fault ProxmoxVolumeAttachment × Ledger :=
  match l.lookupAttachment att.ns att.name with
  | none => (.error (missing att.name),l)
  | some a => if a.version ≠ att.version then (.error (conflicting att.name),l)
      else (.ok { f a with version := l.serial },{ l with
        attachments := ObjectStore.settle attachmentKey attachmentGone l.attachments
          (attachmentKey att) (fun a => { f a with version := l.serial })
        serial := l.serial+1 })

def createAttachment (l : Ledger) (att : ProxmoxVolumeAttachment) :
    Except Fault ProxmoxVolumeAttachment × Ledger :=
  match l.lookupAttachment att.ns att.name with
  | some _ => (.error (taken att.name),l)
  | none =>
      let a := { att with
        version := l.serial, generation := 1, deleting := false, attached := false
        devicePath := "", lun := "", resizeRequired := false, observedGeneration := 0
        conditions := [] }
      (.ok a,{ l with attachments := l.attachments ++ [a], serial := l.serial+1 })

def deleteAttachment (l : Ledger) (ns name : String) : Except Fault Unit × Ledger :=
  match l.lookupAttachment ns name with
  | none => (.error (missing name),l)
  | some _ => (.ok (),{ l with
      attachments := ObjectStore.settle attachmentKey attachmentGone l.attachments (ns,name)
        (fun a => { a with deleting := true, version := l.serial })
      serial := l.serial+1 })

end Attachments

section Disks

def lookupDisk (l : Ledger) (region zone storage name : String) : Option ListedDisk :=
  l.disks.find? (reaches region zone storage name)

def putDisk (l : Ledger) (d : ListedDisk) : Ledger := { l with disks := l.disks ++ [d] }

def isShared (l : Ledger) (region storage : String) : Bool :=
  l.storages.any (fun s => s.region = region ∧ s.storage = storage ∧ s.shared)

def placed (l : Ledger) (region zone storage name : String) (size : ℤ) : ListedDisk :=
  ⟨region,if l.isShared region storage then "" else zone,storage,name,size⟩

def createDisk (l : Ledger) (region zone storage name : String) (size : ℤ) :
    Except Fault Unit × Ledger :=
  if zone = "" then (.error ⟨.other,"node is required"⟩,l)
  else match l.lookupDisk region zone storage name with
    | some _ => (.error ⟨.other,"failed to create vm disk: disk already exists"⟩,l)
    | none => (.ok (),l.putDisk (l.placed region zone storage name size))

def copyNode (srcZone dstZone : String) : String := if dstZone = "" then srcZone else dstZone

def copyDisk (l : Ledger) (region zone storage name dstZone dstStorage dstDisk : String) :
    Except Fault Unit × Ledger :=
  if zone = "" then (.error ⟨.other,"node is required"⟩,l)
  else if TextScan.contains dstDisk ".qcow2" then
    (.error ⟨.other,"volume disk must not be qcow2 format"⟩,l)
  else match l.lookupDisk region zone storage name,
      l.lookupDisk region (copyNode zone dstZone) dstStorage dstDisk with
    | some d, none => (.ok (),
        l.putDisk (l.placed region (copyNode zone dstZone) dstStorage dstDisk d.sizeBytes))
    | _, _ => (.error ⟨.other,"copy refused"⟩,l)

def deleteDisk (l : Ledger) (region zone storage name : String) : Except Fault Unit × Ledger :=
  if zone = "" then (.error ⟨.other,"node is required"⟩,l)
  else match l.lookupDisk region zone storage name with
    | none => (.error ⟨.other,"volume does not exist"⟩,l)
    | some d => (.ok (),{ l with disks := l.disks.erase d })

def referenced (l : Ledger) (region storage name : String) : Bool :=
  l.vms.entries.any (fun e => e.1.1 = region ∧
    (ClusterState.values e.2).any (fun v => TextScan.firstPiece v ',' = storage ++ ":" ++ name))

def renameDisk (l : Ledger) (region : String) (vol : Volume) (targetVMID : ℤ) :
    Except Fault Volume × Ledger :=
  match vol.withVMID targetVMID with
  | none => (.error ⟨.other,"failed to rename volume: " ++ vol.volumeID ++
      " is not in the vm-<vmid>-<name> form"⟩,l)
  | some target => match l.lookupDisk region vol.node vol.storage vol.disk with
    | none => (.error ⟨.other,"failed to rename volume: volume does not exist"⟩,l)
    | some d => if l.referenced region vol.storage vol.disk ∨
          (l.lookupDisk region vol.node vol.storage target.disk).isSome then
        (.error ⟨.other,"failed to rename volume: volume is in use"⟩,l)
      else (.ok target,{ l with disks := l.disks.erase d ++ [{ d with name := target.disk }] })

end Disks

end Ledger

section Writer

def polls : ℕ := 6

def attachProgram (vmid : ℤ) (vol : Volume) (options : Params) :
    Prog VMCall VMReply (Except String (String × String)) :=
  (attachVolume polls vmid vol options).run

def detachProgram (vmid : ℤ) (vol : Volume) : Prog VMCall VMReply (Except String Unit) :=
  (detachVolume vmid vol >>= fun _ => waitDetachVolume polls vmid vol).run

def attachReply : Except String (String × String) → Except Fault AttachResult
  | .ok (path,lun) => .ok ⟨path,lun⟩
  | .error text => .error ⟨.other,text⟩

def detachReply : Except String Unit → Except Fault Unit
  | .ok _ => .ok ()
  | .error text => .error ⟨.other,text⟩

def promptVM (region : String) : Schedule VMCall VMReply VMs :=
  ⟨fun _ vms => vms,fun _ c vms => answerVM vms region c⟩

def attachAnswer (l : Ledger) (region : String) (vmid : ℤ) (vol : Volume) (options : Params) :
    Except Fault AttachResult × Ledger :=
  let f := finish (promptVM region) (attachProgram vmid vol options) [] l.vms
  (attachReply f.value,{ l with vms := f.world })

def detachAnswer (l : Ledger) (region : String) (vmid : ℤ) (vol : Volume) :
    Except Fault Unit × Ledger :=
  let f := finish (promptVM region) (detachProgram vmid vol) [] l.vms
  (detachReply f.value,{ l with vms := f.world })

end Writer

section Written

def writtenTenant (t t' : TenantCluster) : TenantCluster :=
  { t with
    created := t'.created, deleting := t'.deleting, used := t'.used
    namespaceUsed := t'.namespaceUsed, resolvedVMIDs := t'.resolvedVMIDs
    vmidsObservedAt := t'.vmidsObservedAt, observedGeneration := t'.observedGeneration
    conditions := t'.conditions }

def reportedTenant (t t' : TenantCluster) : TenantCluster :=
  { t' with
    used := t.used, namespaceUsed := t.namespaceUsed, resolvedVMIDs := t.resolvedVMIDs
    vmidsObservedAt := t.vmidsObservedAt, observedGeneration := t.observedGeneration
    conditions := t.conditions }

def writtenVolume (vol v : ProxmoxVolume) : ProxmoxVolume :=
  { vol with uid := v.uid, created := v.created, deleting := v.deleting, status := v.status }

def reportedVolume (vol v : ProxmoxVolume) : ProxmoxVolume := { v with status := vol.status }

def writtenSnapshot (snap s : ProxmoxVolumeSnapshot) : ProxmoxVolumeSnapshot :=
  { snap with
    uid := s.uid, deleting := s.deleting, snapshotID := s.snapshotID
    readyToUse := s.readyToUse, restoreSizeBytes := s.restoreSizeBytes
    observedGeneration := s.observedGeneration, conditions := s.conditions }

def reportedSnapshot (snap s : ProxmoxVolumeSnapshot) : ProxmoxVolumeSnapshot :=
  { s with
    snapshotID := snap.snapshotID, readyToUse := snap.readyToUse
    restoreSizeBytes := snap.restoreSizeBytes, observedGeneration := snap.observedGeneration
    conditions := snap.conditions }

def writtenAttachment (att a : ProxmoxVolumeAttachment) : ProxmoxVolumeAttachment :=
  { att with
    deleting := a.deleting, attached := a.attached, devicePath := a.devicePath, lun := a.lun
    resizeRequired := a.resizeRequired, observedGeneration := a.observedGeneration
    conditions := a.conditions }

def reportedAttachment (att a : ProxmoxVolumeAttachment) : ProxmoxVolumeAttachment :=
  { a with
    attached := att.attached, devicePath := att.devicePath, lun := att.lun
    resizeRequired := att.resizeRequired, observedGeneration := att.observedGeneration
    conditions := att.conditions }

end Written

def answer (l : Ledger) : (c : OpCall) → OpReply c × Ledger
  | .now => (.ok l.clock,l)
  | .listTenants => (.ok l.tenants,l)
  | .getTenant name => (foundOr name (l.lookupTenant name),l)
  | .createTenant t => l.createTenant t
  | .deleteTenant name => l.deleteTenant name
  | .updateTenant t => l.putTenant t (writtenTenant t)
  | .updateTenantStatus t => l.putTenant t (reportedTenant t)
  | .listVolumes ns => (.ok (l.volumes.filter (fun v => v.ns = ns)),l)
  | .listClaims handle => (.ok (l.volumes.filter (fun v => claim v = handle)),l)
  | .listStorages => (.ok l.storages,l)
  | .getVolume ns name => (foundOr name (l.lookupVolume ns name),l)
  | .volumesByID ns id =>
      (.ok (l.volumes.filter (fun v => v.ns = ns ∧ id ≠ "" ∧ v.status.volumeID = id)),l)
  | .createVolume vol => l.createVolume vol
  | .deleteVolume ns name => l.deleteVolume ns name
  | .update vol => l.putVolume vol (writtenVolume vol)
  | .updateStatus vol => l.putVolume vol (reportedVolume vol)
  | .getSnapshot ns name => (foundOr name (l.lookupSnapshot ns name),l)
  | .listSnapshots ns => (.ok (l.snapshots.filter (fun s => s.ns = ns)),l)
  | .snapshotsByID ns id =>
      (.ok (l.snapshots.filter (fun s => s.ns = ns ∧ id ≠ "" ∧ s.snapshotID = id)),l)
  | .createSnapshot snap => l.createSnapshot snap
  | .deleteSnapshot ns name => l.deleteSnapshot ns name
  | .updateSnapshot snap => l.putSnapshot snap (writtenSnapshot snap)
  | .updateSnapshotStatus snap => l.putSnapshot snap (reportedSnapshot snap)
  | .getAttachment ns name => (foundOr name (l.lookupAttachment ns name),l)
  | .listAttachments ns => (.ok (l.attachments.filter (fun a => a.ns = ns)),l)
  | .createAttachment att => l.createAttachment att
  | .deleteAttachment ns name => l.deleteAttachment ns name
  | .updateAttachment att => l.putAttachment att (writtenAttachment att)
  | .updateAttachmentStatus att => l.putAttachment att (reportedAttachment att)
  | .listVMs region => (.ok (l.listedVMs.filter (fun vm => vm.region = region)),l)
  | .listDisks region zone storage =>
      (.ok (l.disks.filter (fun d => d.region = region ∧ (zone = "" ∨ d.node = zone ∨ d.node = "") ∧
        d.storage = storage)),l)
  | .createDisk region zone storage name size => l.createDisk region zone storage name size
  | .copyDisk region zone storage name dstZone dstStorage dstDisk =>
      l.copyDisk region zone storage name dstZone dstStorage dstDisk
  | .deleteDisk region zone storage name => l.deleteDisk region zone storage name
  | .renameDisk region vol targetVMID => l.renameDisk region vol targetVMID
  | .attachDisk region vmid vol options => attachAnswer l region vmid vol options
  | .detachDisk region vmid vol => detachAnswer l region vmid vol
  | .clearUnusedDisk _ _ _ => (.ok (),l)
  | .resizeDisk _ _ _ _ _ => (.ok (),l)
  | .updateDisk _ _ _ _ => (.ok (),l)
  | .lockVM _ _ => (.ok (),l)
  | .unlockVM _ _ => (.ok (),l)

def prompt : Schedule OpCall OpReply Ledger := ⟨fun _ l => l,fun _ c l => answer l c⟩

def Passing (e : Fault) : Prop := e.kind = .other

/-- The calls on records and disks: answered, refused, answered by an error after
they took effect, or, for a copy, left with a target of some size. A call on the
configuration of a VM is a run of its program, or of a part of it. -/
inductive OpOutcome : (c : OpCall) → Ledger → OpReply c → Ledger → Prop
  | served (c : OpCall) (l : Ledger) : OpOutcome c l (answer l c).1 (answer l c).2
  | refused (c : OpCall) (l : Ledger) (e : Fault) (he : Passing e) : OpOutcome c l (.error e) l
  | lost (c : OpCall) (l : Ledger) (e : Fault) (he : Passing e) :
      OpOutcome c l (.error e) (answer l c).2
  | partly (region zone storage name dstZone dstStorage dstDisk : String) (size : ℤ) (l : Ledger)
      (e : Fault) (he : Passing e) (hz : zone ≠ "")
      (hn : l.lookupDisk region (Ledger.copyNode zone dstZone) dstStorage dstDisk = none) :
      OpOutcome (.copyDisk region zone storage name dstZone dstStorage dstDisk) l (.error e)
        (l.putDisk (l.placed region (Ledger.copyNode zone dstZone) dstStorage dstDisk size))
  | attached (region : String) (vmid : ℤ) (vol : Volume) (options : Params) (l : Ledger)
      (h : CallSafety.History VMCall VMReply VMs) (vms : VMs) (r : Except String (String × String))
      (hr : Runs (machines region) ⟨[],l.vms,attachProgram vmid vol options⟩ ⟨h,vms,.done r⟩) :
      OpOutcome (.attachDisk region vmid vol options) l (attachReply r) { l with vms := vms }
  | attachStopped (region : String) (vmid : ℤ) (vol : Volume) (options : Params) (l : Ledger)
      (h : CallSafety.History VMCall VMReply VMs) (vms : VMs)
      (q : Prog VMCall VMReply (Except String (String × String))) (e : Fault) (he : Passing e)
      (hr : Runs (machines region) ⟨[],l.vms,attachProgram vmid vol options⟩ ⟨h,vms,q⟩) :
      OpOutcome (.attachDisk region vmid vol options) l (.error e) { l with vms := vms }
  | detached (region : String) (vmid : ℤ) (vol : Volume) (l : Ledger)
      (h : CallSafety.History VMCall VMReply VMs) (vms : VMs) (r : Except String Unit)
      (hr : Runs (machines region) ⟨[],l.vms,detachProgram vmid vol⟩ ⟨h,vms,.done r⟩) :
      OpOutcome (.detachDisk region vmid vol) l (detachReply r) { l with vms := vms }
  | detachStopped (region : String) (vmid : ℤ) (vol : Volume) (l : Ledger)
      (h : CallSafety.History VMCall VMReply VMs) (vms : VMs)
      (q : Prog VMCall VMReply (Except String Unit)) (e : Fault) (he : Passing e)
      (hr : Runs (machines region) ⟨[],l.vms,detachProgram vmid vol⟩ ⟨h,vms,q⟩) :
      OpOutcome (.detachDisk region vmid vol) l (.error e) { l with vms := vms }

def cluster : Service OpCall OpReply Ledger := ⟨OpOutcome,fun _ _ _ => False⟩

theorem cluster_calm : Calm cluster := fun _ _ _ he => he

theorem prompt_cluster : Lawful cluster prompt := ⟨fun _ _ => .refl,fun _ c l => .served c l⟩

def TookEffect (e : Event OpCall OpReply Ledger) : Prop := e.after = (answer e.before e.call).2

section Samples

def blueTenant : TenantCluster :=
  ⟨"blue","blue-ns","r1",9999,[],.enforce,["local"],none,none,[],⟨0,∅⟩,[],[],
    [⟨.admitted,true,.accepted,"",1⟩],"","","",[],none,0,0,1,0,[],false⟩

def blueDisk (name : String) : ListedDisk := ⟨"r1","n1","local","vm-9999-" ++ name,1073741824⟩

def requestedVolume (name : String) (uid : ℕ) : ProxmoxVolume :=
  ⟨"blue-ns",name,uid,1,uid,∅,∅,[],false,⟨"r1","n1","local",1073741824,∅,none,∅,"",false,""⟩,
    Ledger.emptyStatus⟩

def provisionedVolume (finalizers : List String) : ProxmoxVolume :=
  { requestedVolume "pvc-a" 1 with
    finalizers := finalizers
    status := ⟨"r1/n1/local/vm-9999-pvc-a","vm-9999-pvc-a",9999,1073741824,["n1"],false,.ready,1,[]⟩ }

/-- One node with one storage. -/
def blueLedger (t : TenantCluster) (volumes : List ProxmoxVolume) (disks : List ListedDisk) : Ledger :=
  ⟨[t],volumes,[],[],[⟨"r1","n1","local",false,"lvmthin",0,0⟩],disks,[],∅,3,0⟩

end Samples

end ProxmoxCSI.OperatorRecords
