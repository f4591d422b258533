import ProxmoxCSI.OperatorRecords
import ProxmoxCSI.TextScan

/-!
# Provisioning of volume records

A record that is not ready passes the refusals in order; then its disk is
created, or copied from its source, and the handle is published. A ready record
is expanded or modified on the VM that holds it. The reconciler works on its own
copy of the record and writes the status as a whole.
-/

set_option autoImplicit false

namespace ProxmoxCSI.VolumeReconciler
open CallProgram CallProgram.Prog CallErrors TextScan VolumeHandle OperatorRecords

/-- The fingerprint of a parameter map and the options it stands for are
computed elsewhere; `writes` tells whether provisioning is enabled. -/
structure Reconciler where
  syncPeriod : ℤ
  paramsHash : Params → String
  modifyOptions : Params → Except String Params
  writes : Bool

def defaultSyncPeriod : ℤ := 300000000000

def Reconciler.period (r : Reconciler) : ℤ :=
  if 0 < r.syncPeriod then r.syncPeriod else defaultSyncPeriod

def groupName : String := "csi.crunchymonkies.com"

def volumeFinalizer : String := groupName ++ "/volume-protection"

def labelTenant : String := groupName ++ "/tenant"

def labelStorage : String := groupName ++ "/storage"

def labelRegion : String := groupName ++ "/region"

def appliedMutableParamsAnnotation : String := groupName ++ "/applied-mutable-params"

def int32 (n : ℤ) : ℤ := n.bmod (2^32)

def int64 (n : ℤ) : ℤ := n.bmod (2^64)

def mib : ℤ := 1048576

def minChunkSizeBytes : ℤ := 512*mib

def roundUpSizeBytes (size unit : ℤ) : ℤ :=
  if size = 0 then unit else int64 (unit*(int64 (size+unit-1)).tdiv unit)

def quoted (s : String) : String := "\"" ++ s ++ "\""

def storageLevel (pluginType : String) : String :=
  if pluginType ∈ ["dir","nfs","cifs","cephfs","btrfs"] then "file" else "block"

def diskFormat (pluginType requestedFormat : String) : String :=
  if pluginType = "lvm" ∧ requestedFormat = "qcow2" then "qcow2"
  else if storageLevel pluginType = "file" then
    if requestedFormat = "qcow2" then "qcow2" else "raw"
  else ""

section Status

def setCondition (vol : ProxmoxVolume) (t : ConditionType) (status : Bool) (reason : Reason)
    (message : String) : ProxmoxVolume :=
  { vol with status := { vol.status with
      conditions := setStatusCondition vol.status.conditions
        ⟨t,status,reason,message,vol.generation⟩ } }

def withPhase (vol : ProxmoxVolume) (phase : VolumePhase) : ProxmoxVolume :=
  { vol with status := { vol.status with phase := phase } }

def observed (vol : ProxmoxVolume) : ProxmoxVolume :=
  { vol with status := { vol.status with observedGeneration := vol.generation } }

def slashed (ns name : String) : String := ns ++ "/" ++ name

def statusText (vol : ProxmoxVolume) (e : Fault) : String :=
  "updating " ++ slashed vol.ns vol.name ++ " status: " ++ e.text

def updateStatus (vol : ProxmoxVolume) : P ProxmoxVolume := do
  need (.updateStatus (observed vol)) ("updating " ++ slashed vol.ns vol.name ++ " status: ")
  pure (observed vol)

def report (vol : ProxmoxVolume) (result : Result) (cause : String) : P Result := do
  match ← ask (.updateStatus (observed vol)) with
  | .ok _ => throw ⟨result,cause⟩
  | .error e => throw ⟨result,cause ++ " (while reporting: " ++ statusText vol e ++ ")"⟩

def reject (vol : ProxmoxVolume) (reason : Reason) (message : String) : P Result := do
  let vol := setCondition vol .admitted false reason message
  let vol := setCondition vol .ready false reason message
  let _ ← updateStatus (withPhase vol .rejected)
  pure ⟨0⟩

end Status

section Admission

def tenantFor (ns : String) (tenants : List TenantCluster) : Option TenantCluster :=
  tenants.find? (fun t => t.ns = ns ∧ isStatusConditionTrue t.conditions .admitted)

def tenant (ns : String) : P (Option TenantCluster) := do
  let tenants ← need .listTenants "listing tenants: "
  pure (tenantFor ns tenants)

def disallowed (allowed : Option (List String)) (params : Params) : Option String :=
  match allowed with
  | none => none
  | some keys => (params.keys.find? (fun k => k ∉ keys)).map (fun k =>
      "parameter " ++ quoted k ++ " is not in the allowed list")

def isNumeral (s : String) : Bool :=
  match s.toList with
  | '-'::ds => (digitsValue ds).isSome
  | '+'::ds => (digitsValue ds).isSome
  | ds => (digitsValue ds).isSome

def parseIntText (value : String) : String :=
  "strconv.ParseInt: parsing " ++ quoted value ++
    if isNumeral value then ": value out of range" else ": invalid syntax"

def aboveMax (params : Params) (key : String) (max : ℤ) : Option String :=
  match params.lookup key with
  | none => none
  | some value => match atoi value with
    | none => some ("parameter " ++ quoted key ++ " must be an integer: " ++ parseIntText value)
    | some n => if max < n then some ("parameter " ++ quoted key ++ " value " ++ toString n ++
        " exceeds maximum " ++ toString max) else none

def aboveVolumeBytes (max : Option Quantity) (capacityBytes : ℤ) : Option String :=
  match max with
  | none => none
  | some q => if q.value < capacityBytes then some ("requested capacity " ++
      toString capacityBytes ++ " exceeds maxVolumeBytes " ++ toString q.value) else none

def checkParameterPolicy (policy : Option ParameterPolicy) (params : Params)
    (capacityBytes : ℤ) : Option String :=
  match policy with
  | none => none
  | some p => (disallowed p.allowed params).or
      ((p.maxInt.entries.findSome? (fun e => aboveMax params e.1 e.2)).or
        (aboveVolumeBytes p.maxVolumeBytes capacityBytes))

def quotaRefusal (who : String) (reason : Reason) (quota : TenantQuota) (used : QuotaUsage)
    (vol : ProxmoxVolume) : Option (Reason × String) :=
  let volumes := match quota.maxVolumes with
    | some max => if max < int32 (used.volumes+1) then
        some (reason,who ++ " has " ++ toString used.volumes ++ " volumes, max is " ++
          toString max) else none
    | none => none
  let capacity := match quota.maxCapacity.lookup vol.spec.storage with
    | some max =>
        let total := int64 ((((used.capacity.lookup vol.spec.storage).map Quantity.value).getD 0)+
          vol.spec.capacityBytes)
        if max.value < total then some (reason,who ++ " storage " ++ vol.spec.storage ++
          " would use " ++ toString total ++ " bytes, max is " ++ max.text) else none
    | none => none
  volumes.or capacity

def checkQuota (t : TenantCluster) (vol : ProxmoxVolume) : Option (Reason × String) :=
  t.quota.bind (fun q => quotaRefusal ("tenant " ++ t.name) .quotaExceeded q t.used vol)

def checkNamespaceQuota (t : TenantCluster) (vol : ProxmoxVolume) : Option (Reason × String) :=
  if t.namespaceQuotas = [] ∨ vol.spec.claimNamespace = "" then none
  else match t.namespaceQuotas.find? (fun q => q.ns = vol.spec.claimNamespace) with
    | none => none
    | some q =>
        let used := ((t.namespaceUsed.find? (fun u => u.1 = vol.spec.claimNamespace)).map
          Prod.snd).getD ⟨0,∅⟩
        quotaRefusal ("namespace " ++ vol.spec.claimNamespace) .namespaceQuota q.quota used vol

def claimRefRefusal (t : TenantCluster) (vol : ProxmoxVolume) : Option (Reason × String) :=
  if t.namespaceQuotas ≠ [] ∧ vol.spec.claimNamespace = "" then
    some (.missingClaimRef,"tenant has namespaceQuotas but volume has no claimRef; start the " ++
      "provisioner with --extra-create-metadata") else none

def placementRefusal (t : TenantCluster) (vol : ProxmoxVolume) : Option (Reason × String) :=
  if t.mode = .suspended then some (.tenantSuspended,"tenant " ++ t.name ++ " is suspended")
  else if t.mode = .observe then some (.tenantObserveOnly,"provisioning requires Enforce mode")
  else if vol.spec.region ≠ t.region then some (.invalidSpec,"region " ++ vol.spec.region ++
    " does not match tenant " ++ t.name ++ " region " ++ t.region)
  else if vol.spec.storage ∉ t.allowedStorages then some (.storageNotAllowed,"storage " ++
    vol.spec.storage ++ " is not in tenant " ++ t.name ++ " allowedStorages")
  else none

def refusal (t : TenantCluster) (vol : ProxmoxVolume) : Option (Reason × String) :=
  (placementRefusal t vol).or <|
  ((checkParameterPolicy t.parameterPolicy vol.spec.parameters vol.spec.capacityBytes).map
    (fun text => (.parameterRejected,text))).or <|
  (checkQuota t vol).or <| (claimRefRefusal t vol).or (checkNamespaceQuota t vol)

def olderClaim (a b : ProxmoxVolume) : Bool :=
  if a.created ≠ b.created then decide (a.created < b.created)
  else if a.ns ≠ b.ns then decide (a.ns < b.ns)
  else decide (a.name < b.name)

def olderAmong (vol : ProxmoxVolume) (others : List ProxmoxVolume) : Option ProxmoxVolume :=
  others.find? (fun o => ¬(o.ns = vol.ns ∧ o.name = vol.name) ∧ olderClaim o vol)

def duplicate (vol : ProxmoxVolume) : P (Option ProxmoxVolume) :=
  if claim vol = "" then pure none
  else do
    let others ← need (.listClaims (claim vol)) ("listing claims on " ++ claim vol ++ ": ")
    pure (olderAmong vol others)

def rejectDuplicate (vol other : ProxmoxVolume) : P Result :=
  let message := claim vol ++ " is already claimed by " ++ slashed other.ns other.name
  reject (setCondition vol .degraded true .duplicateClaim message) .duplicateClaim message

def matchesStorage (region zone storage : String) (s : ProxmoxStorage) : Bool :=
  s.region = region ∧ s.storage = storage ∧ (s.shared ∨ zone = "" ∨ s.zone = zone)

def pluginTypeOf (region zone storage : String) (storages : List ProxmoxStorage) :
    Except String String :=
  match storages.find? (matchesStorage region zone storage) with
  | some s => if s.pluginType = "" then
      .error ("storage " ++ storage ++ " has no pluginType in the catalog") else .ok s.pluginType
  | none => .error ("storage " ++ storage ++ " not found in the catalog for region " ++ region)

def storagePluginType (region zone storage : String) : P (Except String String) := do
  match ← ask .listStorages with
  | .error e => pure (.error ("listing storages: " ++ e.text))
  | .ok storages => pure (pluginTypeOf region zone storage storages)

end Admission

section Disk

def addLabel (vol : ProxmoxVolume) (label : String × String) : ProxmoxVolume :=
  if valueOf vol.labels label.1 = label.2 then vol
  else { vol with labels := vol.labels.insert label.1 label.2 }

def ownerLabels (vol : ProxmoxVolume) (t : TenantCluster) : List (String × String) :=
  [(labelTenant,t.name),(labelRegion,t.region),(labelStorage,vol.spec.storage)]

def held (vol : ProxmoxVolume) (t : TenantCluster) : ProxmoxVolume :=
  (ownerLabels vol t).foldl addLabel { vol with
    finalizers := if volumeFinalizer ∈ vol.finalizers then vol.finalizers
      else vol.finalizers ++ [volumeFinalizer] }

def patched (vol : ProxmoxVolume) (t : TenantCluster) : Bool :=
  volumeFinalizer ∉ vol.finalizers ∨
    (ownerLabels vol t).any (fun label => valueOf vol.labels label.1 ≠ label.2)

def hold (vol : ProxmoxVolume) (t : TenantCluster) : P ProxmoxVolume :=
  if ¬patched vol t then pure vol
  else do
    need (.update (held vol t)) ("holding " ++ slashed vol.ns vol.name ++ ": ")
    pure (held vol t)

def diskVolume (t : TenantCluster) (pluginType : String) (vol : ProxmoxVolume) : Volume :=
  newVolumeFormat vol.spec.region vol.spec.zone vol.spec.storage
    ("vm-" ++ toString t.placeholderVMID ++ "-" ++ vol.name)
    (diskFormat pluginType (valueOf vol.spec.parameters "storageFormat"))

def sourceRejected (vol : ProxmoxVolume) (reason : Reason) (message : String) : P ProxmoxVolume :=
  updateStatus (withPhase (setCondition vol .admitted false reason message) .rejected)

def sourcePending (vol : ProxmoxVolume) (message : String) : P ProxmoxVolume :=
  updateStatus (withPhase (setCondition vol .ready false .reconciling message) .pending)

def copyTo (vol : ProxmoxVolume) (dest : Volume) (region zone storage disk : String) :
    P ProxmoxVolume := do
  need (.copyDisk region zone storage disk vol.spec.zone vol.spec.storage dest.disk) ""
  pure vol

def provisionFromVolume (vol : ProxmoxVolume) (name : String) (dest : Volume) :
    P ProxmoxVolume := do
  match ← ask (.getVolume vol.ns name) with
  | .error e =>
    sourceRejected vol .sourceNotFound ("source volume " ++ name ++ " not found: " ++ e.text)
  | .ok src =>
    if src.status.phase ≠ .ready then
      sourcePending vol ("source volume " ++ name ++ " is not ready")
    else copyTo vol dest src.spec.region src.spec.zone src.spec.storage src.status.diskName

def invalidHandleText : String :=
  "VolumeID must be in the format of region/zone/storageName/diskName"

def provisionFromFoundSnapshot (vol : ProxmoxVolume) (snap : ProxmoxVolumeSnapshot)
    (dest : Volume) : P ProxmoxVolume :=
  if ¬snap.readyToUse then sourcePending vol ("snapshot " ++ snap.name ++ " is not ready")
  else match parseVolumeID snap.snapshotID with
    | none => sourceRejected vol .invalidSpec
        ("invalid snapshotID " ++ quoted snap.snapshotID ++ ": " ++ invalidHandleText)
    | some v => copyTo vol dest v.region v.zone v.storage v.disk

def provisionFromSnapshot (vol : ProxmoxVolume) (name : String) (dest : Volume) :
    P ProxmoxVolume := do
  match ← ask (.getSnapshot vol.ns name) with
  | .ok snap => provisionFromFoundSnapshot vol snap dest
  | .error _ => do
    match ← ask (.listSnapshots vol.ns) with
    | .error e => sourceRejected vol .sourceNotFound ("listing snapshots: " ++ e.text)
    | .ok snaps => match snaps.find? (fun s => s.snapshotID = name) with
      | none => sourceRejected vol .sourceNotFound ("snapshot " ++ name ++ " not found")
      | some snap => provisionFromFoundSnapshot vol snap dest

def provisionFromSource (vol : ProxmoxVolume) (src : VolumeSource) (dest : Volume) :
    P ProxmoxVolume :=
  if src.volumeName ≠ "" then provisionFromVolume vol src.volumeName dest
  else if src.snapshotName ≠ "" then provisionFromSnapshot vol src.snapshotName dest
  else throw (failed "source volume or snapshot name is required")

def listed (disk : Volume) (disks : List ListedDisk) : Bool :=
  disks.any (fun d => d.name = disk.disk ∨ d.name = disk.diskName)

def createUnlessListed (vol : ProxmoxVolume) (disk : Volume) (sizeBytes : ℤ)
    (disks : List ListedDisk) : P ProxmoxVolume :=
  if listed disk disks then pure vol
  else do
    match ← ask (.createDisk vol.spec.region vol.spec.zone vol.spec.storage disk.disk sizeBytes) with
    | .ok _ => pure vol
    | .error e => do
      let _ ← report (withPhase (setCondition vol .ready false .proxmoxError
        ("creating disk: " ++ e.text)) .failed) ⟨0⟩ e.text
      pure vol

def provisionFresh (vol : ProxmoxVolume) (disk : Volume) (sizeBytes : ℤ) : P ProxmoxVolume := do
  match ← ask (.listDisks vol.spec.region vol.spec.zone vol.spec.storage) with
  | .ok disks => createUnlessListed vol disk sizeBytes disks
  | .error e => do
    let _ ← report (setCondition vol .ready false .proxmoxError e.text) ⟨0⟩ e.text
    pure vol

def provisionDisk (vol : ProxmoxVolume) (disk : Volume) (sizeBytes : ℤ) : P ProxmoxVolume :=
  match vol.spec.source with
  | some src => provisionFromSource vol src disk
  | none => provisionFresh vol disk sizeBytes

def published (vol : ProxmoxVolume) (t : TenantCluster) (disk : Volume) (sizeBytes : ℤ) :
    ProxmoxVolume :=
  let vol := { vol with status := { vol.status with
      volumeID := disk.volumeID
      diskName := disk.disk
      ownerVMID := t.placeholderVMID
      capacityBytes := sizeBytes
      accessibleTopology := [vol.spec.zone]
      adopted := false
      phase := .ready } }
  let vol := setCondition vol .admitted true .accepted ("provisioned by tenant " ++ t.name)
  setCondition vol .ready true .accepted ("disk " ++ disk.disk ++ " on " ++ vol.spec.storage ++
    ", " ++ toString sizeBytes ++ " bytes")

end Disk

section Ready

def attachmentOf (vol : ProxmoxVolume) (as : List ProxmoxVolumeAttachment) :
    Option ProxmoxVolumeAttachment :=
  as.find? (fun a => a.volumeName = vol.name ∧ a.attached)

def recordAppliedParams (r : Reconciler) (vol : ProxmoxVolume) (hash : String) : P Result := do
  need (.update { vol with annotations := vol.annotations.insert appliedMutableParamsAnnotation hash })
    ("recording applied params on " ++ slashed vol.ns vol.name ++ ": ")
  pure ⟨r.period⟩

def invalidVolumeID (vol : ProxmoxVolume) : P Result := do
  let _ ← updateStatus (setCondition vol .ready false .invalidSpec
    ("invalid volumeID " ++ quoted vol.status.volumeID ++ ": " ++ invalidHandleText))
  pure ⟨0⟩

def modifyOn (r : Reconciler) (vol : ProxmoxVolume) (hash : String)
    (att : ProxmoxVolumeAttachment) (disk : Volume) : P Result := do
  match r.modifyOptions vol.spec.mutableParameters with
  | .error text => do
    let _ ← updateStatus (setCondition vol .ready false .parameterRejected
      ("invalid mutable parameters: " ++ text))
    pure ⟨0⟩
  | .ok options => do
    match ← ask (.updateDisk disk.region att.vmid disk options) with
    | .error e =>
      report (setCondition vol .ready false .proxmoxError ("updating disk options: " ++ e.text))
        ⟨r.period⟩ e.text
    | .ok _ => recordAppliedParams r vol hash

def reconcileModify (r : Reconciler) (vol : ProxmoxVolume) (hash : String) : P Result := do
  let as ← need (.listAttachments vol.ns) "listing attachments: "
  match attachmentOf vol as with
  | none => recordAppliedParams r vol hash
  | some att => match parseVolumeID vol.status.volumeID with
    | none => invalidVolumeID vol
    | some disk => modifyOn r vol hash att disk

def resizeOn (r : Reconciler) (vol : ProxmoxVolume) (sizeBytes : ℤ) (disk : Volume)
    (att : ProxmoxVolumeAttachment) : P Result := do
  match ← ask (.resizeDisk disk.region att.vmid disk.zone ("scsi" ++ att.lun)
      (toString (sizeBytes.tdiv mib) ++ "M")) with
  | .error e =>
    report (setCondition vol .ready false .proxmoxError ("resizing disk: " ++ e.text))
      ⟨r.period⟩ e.text
  | .ok _ => do
    let _ ← updateStatus (setCondition { vol with status := { vol.status with
      capacityBytes := sizeBytes } } .ready true .accepted
      ("disk expanded to " ++ toString sizeBytes ++ " bytes"))
    pure ⟨r.period⟩

def reconcileExpand (r : Reconciler) (vol : ProxmoxVolume) (sizeBytes : ℤ) : P Result :=
  match parseVolumeID vol.status.volumeID with
  | none => invalidVolumeID vol
  | some disk => do
    let as ← need (.listAttachments vol.ns) "listing attachments: "
    match attachmentOf vol as with
    | none => pure ⟨r.period⟩
    | some att => resizeOn r vol sizeBytes disk att

def reconcileReadyVolume (r : Reconciler) (vol : ProxmoxVolume) : P Result :=
  let rounded := roundUpSizeBytes vol.spec.capacityBytes minChunkSizeBytes
  let hash := r.paramsHash vol.spec.mutableParameters
  if vol.status.capacityBytes < rounded then reconcileExpand r vol rounded
  else if vol.spec.mutableParameters.entries ≠ [] ∧
      hash ≠ valueOf vol.annotations appliedMutableParamsAnnotation then
    reconcileModify r vol hash
  else pure ⟨r.period⟩

end Ready

def provisionOn (r : Reconciler) (vol : ProxmoxVolume) (t : TenantCluster) (pluginType : String) :
    P Result := do
  let disk := diskVolume t pluginType vol
  let sizeBytes := roundUpSizeBytes vol.spec.capacityBytes minChunkSizeBytes
  let vol ← hold vol t
  let vol ← provisionDisk vol disk sizeBytes
  let _ ← updateStatus (published vol t disk sizeBytes)
  pure ⟨r.period⟩

def provisionFor (r : Reconciler) (vol : ProxmoxVolume) (t : TenantCluster) : P Result := do
  match ← duplicate vol with
  | some other => rejectDuplicate vol other
  | none => do
    match ← storagePluginType vol.spec.region vol.spec.zone vol.spec.storage with
    | .error text =>
      reject vol .invalidSpec ("cannot determine storage type for " ++ vol.spec.storage ++ ": " ++
        text)
    | .ok pluginType => provisionOn r vol t pluginType

def isReady (vol : ProxmoxVolume) : Bool := vol.status.phase = .ready ∧ vol.status.volumeID ≠ ""

def reconcileProvision (r : Reconciler) (vol : ProxmoxVolume) : P Result :=
  if isReady vol then reconcileReadyVolume r vol
  else do
    match ← tenant vol.ns with
    | none => reject vol .tenantUnknown ("no admitted TenantCluster registers namespace " ++ vol.ns)
    | some t => match refusal t vol with
      | some (reason,message) => reject vol reason message
      | none => provisionFor r vol t

def plainReconciler : Reconciler := ⟨0,fun _ => "",fun p => .ok p,true⟩

end ProxmoxCSI.VolumeReconciler
