import ProxmoxCSI.AttachmentReconciler
import ProxmoxCSI.DirectCalls

/-!
# The volume API of the operator

A request creates or finds its record and reports how far the reconcilers have
come with it. Records are found by the handle in their status, attachments by a
name computed from the volume and the node.
-/

set_option autoImplicit false

namespace ProxmoxCSI.VolumeService
open CallProgram CallProgram.Prog CallErrors TextScan VolumeHandle OperatorRecords VolumeReconciler
open SnapshotReconciler (phaseText)
open DirectCalls (RpcError Code status)

/-- Names, fingerprints and the context of a volume are computed elsewhere. -/
structure Service where
  attachmentName : String → String → String
  volumeContext : Params → Params → Except String Params
  paramsHash : Params → String
  listsVMs : Bool

abbrev A := Fallible OpCall OpReply RpcError

def inquire (c : OpCall) : A (OpReply c) := perform (issue c)

def internal (text : String) : RpcError := status .internal text

def demand (c : OpCall) (pre : String) : A (OpAnswer c) :=
  ExceptT.mk (.call c fun r : OpReply c => .done (r.mapError (fun e => internal (pre ++ e.text))))

def withTenant {α : Type} (t : Option TenantCluster) (x : TenantCluster → A α) : A α :=
  match t with
  | none => throw (internal "tenant not in context")
  | some t => x t

def given (value name : String) : A Unit :=
  require (value ≠ "") (status .invalidArgument (name ++ " is required"))

section Footprint

variable {ok : OpCall → Prop}

theorem uses_inquire {c : OpCall} (h : ok c) : (inquire c).run.Uses ok :=
  ⟨h,fun _ => trivial⟩

theorem uses_demand {c : OpCall} {pre : String} (h : ok c) :
    (demand c pre).run.Uses ok := ⟨h,fun _ => trivial⟩

theorem uses_given {value name : String} : (given value name).run.Uses ok :=
  uses_require

theorem uses_withTenant {α : Type} {t : Option TenantCluster}
    {x : TenantCluster → A α} (h : ∀ t, (x t).run.Uses ok) : (withTenant t x).run.Uses ok := by
  cases t with
  | none => trivial
  | some t => exact h t

end Footprint

section Volumes

structure CreateVolumeRequest where
  name : String
  capacityBytes : ℤ
  region : String
  zone : String
  storage : String
  parameters : Params
  mutableParameters : Params
  claimNamespace : String
  source : Option VolumeSource

structure CreateVolumeResponse where
  volumeID : String
  capacityBytes : ℤ
  accessibleTopology : List String
  volumeContext : Params

def newRecord (t : TenantCluster) (req : CreateVolumeRequest) : ProxmoxVolume :=
  ⟨t.ns,req.name,0,0,0,(∅ : Params).insert labelTenant t.name,∅,[],false,
    ⟨req.region,req.zone,req.storage,req.capacityBytes,req.parameters,req.source,
      req.mutableParameters,req.claimNamespace,false,""⟩,Ledger.emptyStatus⟩

def specMatchesRequest (vol : ProxmoxVolume) (req : CreateVolumeRequest) : Bool :=
  vol.spec.region = req.region ∧ vol.spec.zone = req.zone ∧ vol.spec.storage = req.storage ∧
    vol.spec.capacityBytes = req.capacityBytes

def conditionOf (cs : List Condition) (t : ConditionType) : Option Condition :=
  cs.find? (fun c => c.type = t)

def rejectionCode : Reason → Code
  | .quotaExceeded | .namespaceQuota => .resourceExhausted
  | .tenantSuspended | .tenantObserveOnly | .storageNotAllowed | .vmidNotOwned => .permissionDenied
  | _ => .invalidArgument

def mapRejectionCode (vol : ProxmoxVolume) : RpcError :=
  match conditionOf vol.status.conditions .admitted with
  | none => status .invalidArgument "volume rejected"
  | some c => status (rejectionCode c.reason) c.message

def readyVolume (s : Service) (vol : ProxmoxVolume) : A CreateVolumeResponse :=
  match s.volumeContext (vol.spec.parameters.insert "storage" vol.spec.storage)
      vol.spec.mutableParameters with
  | .error text => throw (internal ("volume context: " ++ text))
  | .ok context => pure ⟨vol.status.volumeID,vol.status.capacityBytes,
      vol.status.accessibleTopology,context⟩

def failedVolume (vol : ProxmoxVolume) : A CreateVolumeResponse :=
  let text := ((conditionOf vol.status.conditions .ready).map Condition.message).getD
    "provisioning failed"
  if vol.deleting then throw (internal ("provisioning failed: " ++ text))
  else do
    match ← inquire (.deleteVolume vol.ns vol.name) with
    | .ok _ => throw (internal ("provisioning failed: " ++ text))
    | .error e =>
      if e.kind = .notFound then throw (internal ("provisioning failed: " ++ text))
      else throw (internal ("cleaning up failed volume: " ++ e.text))

def volumeAnswer (s : Service) (vol : ProxmoxVolume) : A CreateVolumeResponse :=
  match vol.status.phase with
  | .ready => readyVolume s vol
  | .rejected => throw (mapRejectionCode vol)
  | .failed => failedVolume vol
  | _ => throw (status .unavailable ("provisioning volume " ++ vol.name))

def createRecord (t : TenantCluster) (req : CreateVolumeRequest) : A ProxmoxVolume := do
  match ← inquire (.createVolume (newRecord t req)) with
  | .ok vol => pure vol
  | .error e =>
    if e.kind = .alreadyExists then
      demand (.getVolume t.ns req.name) "getting volume after create race: "
    else throw (internal ("creating volume: " ++ e.text))

def ensureRecord (t : TenantCluster) (req : CreateVolumeRequest) : A ProxmoxVolume := do
  match ← inquire (.getVolume t.ns req.name) with
  | .error e =>
    if e.kind = .notFound then createRecord t req
    else throw (internal ("getting volume: " ++ e.text))
  | .ok vol =>
    if specMatchesRequest vol req then pure vol
    else throw (status .alreadyExists ("volume " ++ req.name ++ " exists with a different spec"))

def createVolume (s : Service) (t : Option TenantCluster) (req : CreateVolumeRequest) :
    A CreateVolumeResponse := do
  given req.name "name"
  require (0 < req.capacityBytes) (status .invalidArgument "capacity_bytes must be positive")
  given req.region "region"
  given req.storage "storage"
  withTenant t (fun t => do
    let vol ← ensureRecord t req
    volumeAnswer s vol)

def deletionOf (ns name : String) : A Unit := do
  match ← inquire (.getVolume ns name) with
  | .ok _ => throw (status .unavailable ("deleting volume " ++ name))
  | .error e =>
    if e.kind = .notFound then pure ()
    else throw (internal ("checking volume deletion: " ++ e.text))

def deleteRecord (vol : ProxmoxVolume) : A Unit :=
  if vol.deleting then deletionOf vol.ns vol.name
  else do
    match ← inquire (.deleteVolume vol.ns vol.name) with
    | .ok _ => deletionOf vol.ns vol.name
    | .error e =>
      if e.kind = .notFound then pure () else throw (internal ("deleting volume: " ++ e.text))

def deleteVolume (t : Option TenantCluster) (volumeID : String) : A Unit := do
  given volumeID "volume_id"
  withTenant t (fun t => do
    let vols ← demand (.volumesByID t.ns volumeID) "listing volumes: "
    match vols with
    | [] => pure ()
    | vol::_ => deleteRecord vol)

def volumeByID (ns volumeID : String) : A ProxmoxVolume := do
  let vols ← demand (.volumesByID ns volumeID) "listing volumes: "
  match vols with
  | [] => throw (status .notFound ("volume " ++ volumeID ++ " not found in namespace " ++ ns))
  | vol::_ => pure vol

def readyVolumeByID (ns volumeID : String) : A ProxmoxVolume := do
  let vol ← volumeByID ns volumeID
  require (vol.status.phase = .ready) (status .failedPrecondition ("volume " ++ vol.name ++
    " is not ready (phase " ++ phaseText vol.status.phase ++ ")"))
  pure vol

structure ExpandVolumeResponse where
  capacityBytes : ℤ
  nodeExpansionRequired : Bool
  deriving DecidableEq, Repr

def maxVolumeBytes (t : TenantCluster) : Option ℤ :=
  (t.parameterPolicy.bind ParameterPolicy.maxVolumeBytes).map Quantity.value

def expansionOf (vol : ProxmoxVolume) (capacityBytes : ℤ) : A ExpandVolumeResponse := do
  let vol ← demand (.getVolume vol.ns vol.name) "re-reading volume: "
  if capacityBytes ≤ vol.status.capacityBytes then pure ⟨vol.status.capacityBytes,true⟩
  else throw (status .unavailable ("expanding volume " ++ vol.name))

def expanded (vol : ProxmoxVolume) (capacityBytes : ℤ) : ProxmoxVolume :=
  { vol with spec := { vol.spec with capacityBytes := capacityBytes } }

def growSpec (vol : ProxmoxVolume) (capacityBytes : ℤ) : A Unit :=
  if vol.spec.capacityBytes < capacityBytes then
    demand (.update (expanded vol capacityBytes)) "updating volume capacity: "
  else pure ()

def expandRecord (t : TenantCluster) (vol : ProxmoxVolume) (capacityBytes : ℤ) :
    A ExpandVolumeResponse :=
  if capacityBytes ≤ vol.status.capacityBytes then pure ⟨vol.status.capacityBytes,true⟩
  else do
    require (∀ max ∈ maxVolumeBytes t, capacityBytes ≤ max) (status .resourceExhausted
      ("requested capacity " ++ toString capacityBytes ++ " exceeds maxVolumeBytes " ++
        toString ((maxVolumeBytes t).getD 0)))
    growSpec vol capacityBytes
    expansionOf vol capacityBytes

def expandVolume (t : Option TenantCluster) (volumeID : String) (capacityBytes : ℤ) :
    A ExpandVolumeResponse := do
  given volumeID "volume_id"
  require (0 < capacityBytes) (status .invalidArgument "capacity_bytes must be positive")
  withTenant t (fun t => do
    let vol ← readyVolumeByID t.ns volumeID
    expandRecord t vol capacityBytes)

def mutableRefusal (policy : Option ParameterPolicy) (params : Params) : Option String :=
  match policy with
  | none => none
  | some p => ((disallowed p.allowed params).or
      (p.maxInt.entries.findSome? (fun e => aboveMax params e.1 e.2))).map (fun text =>
        "mutable " ++ text)

def modified (vol : ProxmoxVolume) (params : Params) : ProxmoxVolume :=
  { vol with spec := { vol.spec with mutableParameters := params } }

def modificationOf (s : Service) (vol : ProxmoxVolume) (params : Params) : A Unit := do
  let vol ← demand (.getVolume vol.ns vol.name) "re-reading volume: "
  if valueOf vol.annotations appliedMutableParamsAnnotation = s.paramsHash params then pure ()
  else throw (status .unavailable ("modifying volume " ++ vol.name))

def modifyRecord (s : Service) (vol : ProxmoxVolume) (params : Params) : A Unit := do
  demand (.update (modified vol params)) "updating volume mutable parameters: "
  let as ← demand (.listAttachments vol.ns) "listing attachments: "
  match attachmentOf vol as with
  | none => pure ()
  | some _ => modificationOf s vol params

def modifyVolume (s : Service) (t : Option TenantCluster) (volumeID : String) (params : Params) :
    A Unit := do
  given volumeID "volume_id"
  withTenant t (fun t => do
    let vol ← readyVolumeByID t.ns volumeID
    match mutableRefusal t.parameterPolicy params with
    | some text => throw (status .invalidArgument text)
    | none => modifyRecord s vol params)

end Volumes

section Attachments

structure AttachVolumeRequest where
  volumeID : String
  nodeID : String
  vmid : ℤ
  readonly : Bool

structure AttachVolumeResponse where
  devicePath : String
  lun : ℤ
  resizeRequired : Bool
  deriving DecidableEq, Repr

def vmsNamed (t : TenantCluster) (name : String) (vms : List ListedVM) : List ℤ :=
  (vms.filter (fun vm => vm.name = name ∧ vm.vmid ∈ t.resolvedVMIDs)).map ListedVM.vmid

def bracketed (ids : List ℤ) : String := "[" ++ String.intercalate " " (ids.map toString) ++ "]"

def chosenVMID (t : TenantCluster) (name : String) : List ℤ → A ℤ
  | [id] => pure id
  | [] => throw (status .failedPrecondition ("no VM named " ++ quoted name ++ " found in tenant " ++
      t.name ++ "'s resolvedVmids"))
  | ids => throw (status .failedPrecondition ("multiple VMs named " ++ quoted name ++
      " found in tenant " ++ t.name ++ "'s resolvedVmids: " ++ bracketed ids))

def resolveVMIDByName (s : Service) (t : TenantCluster) (name : String) : A ℤ :=
  if ¬s.listsVMs then throw (status .failedPrecondition ("cannot resolve node " ++ quoted name ++
    " to a VMID: no VMID in node ID and VM reader is not available"))
  else do
    let vms ← demand (.listVMs t.region) "listing VMs for VMID resolution: "
    chosenVMID t name (vmsNamed t name vms)

def ownVMID (t : TenantCluster) (id : ℤ) (source : String) : A ℤ := do
  require (id ∈ t.resolvedVMIDs) (status .failedPrecondition ("vmid " ++ toString id ++ source ++
    " is not in tenant " ++ t.name ++ "'s resolvedVmids"))
  pure id

def resolveVMID (s : Service) (t : TenantCluster) (nodeID : String) (vmid : ℤ) : A ℤ :=
  if vmid ≠ 0 then ownVMID t vmid ""
  else match MigratorCalls.parseNodeID nodeID with
    | none => throw (status .invalidArgument ("invalid node_id " ++ quoted nodeID ++
        ": NodeID must be in format <nodeName>/<vmID> or <nodeName>"))
    | some (id,name) => if id ≠ 0 then ownVMID t (int32 id) " (from node ID)"
        else resolveVMIDByName s t name

def newAttachment (t : TenantCluster) (req : AttachVolumeRequest) (vol : ProxmoxVolume)
    (name : String) (vmid : ℤ) : ProxmoxVolumeAttachment :=
  ⟨t.ns,name,0,0,(∅ : Params).insert labelTenant t.name,[],false,vol.name,req.volumeID,req.nodeID,
    vmid,req.readonly,false,"","",false,0,[]⟩

def createAttachment (att : ProxmoxVolumeAttachment) : A ProxmoxVolumeAttachment := do
  match ← inquire (.createAttachment att) with
  | .ok att => pure att
  | .error e =>
    if e.kind = .alreadyExists then
      demand (.getAttachment att.ns att.name) "getting attachment after create race: "
    else throw (internal ("creating attachment: " ++ e.text))

def ensureAttachment (att : ProxmoxVolumeAttachment) : A ProxmoxVolumeAttachment := do
  match ← inquire (.getAttachment att.ns att.name) with
  | .ok found => pure found
  | .error e =>
    if e.kind = .notFound then createAttachment att
    else throw (internal ("getting attachment: " ++ e.text))

def refusedAttachment (att : ProxmoxVolumeAttachment) (message : String) : A AttachVolumeResponse :=
  if att.deleting then throw (internal ("attach refused: " ++ message))
  else do
    match ← inquire (.deleteAttachment att.ns att.name) with
    | .ok _ => throw (internal ("attach refused: " ++ message))
    | .error e =>
      if e.kind = .notFound then throw (internal ("attach refused: " ++ message))
      else throw (internal ("cleaning up refused attachment: " ++ e.text))

def attachPending (vol : ProxmoxVolume) (vmid : ℤ) : RpcError :=
  status .unavailable ("attaching volume " ++ vol.name ++ " to VM " ++ toString vmid)

def unattached (att : ProxmoxVolumeAttachment) (vol : ProxmoxVolume) (vmid : ℤ) :
    A AttachVolumeResponse :=
  match conditionOf att.conditions .admitted with
  | none => throw (attachPending vol vmid)
  | some c => if c.status then throw (attachPending vol vmid) else refusedAttachment att c.message

def lunFromStatus (lun : String) : ℤ := (VolumeLifecycle.parseInt32 lun).getD 0

def differentSpec (att : ProxmoxVolumeAttachment) : RpcError :=
  status .alreadyExists ("attachment " ++ att.name ++ " exists with a different spec (volumeID=" ++
    att.volumeID ++ " nodeID=" ++ att.nodeID ++ " vmid=" ++ toString att.vmid ++ ")")

def attachmentAnswer (req : AttachVolumeRequest) (vol : ProxmoxVolume) (vmid : ℤ)
    (att : ProxmoxVolumeAttachment) : A AttachVolumeResponse := do
  require (att.volumeID = req.volumeID ∧ att.nodeID = req.nodeID ∧ att.vmid = vmid)
    (differentSpec att)
  if att.attached then pure ⟨att.devicePath,lunFromStatus att.lun,att.resizeRequired⟩
  else unattached att vol vmid

def attachVolume (s : Service) (t : Option TenantCluster) (req : AttachVolumeRequest) :
    A AttachVolumeResponse := do
  given req.volumeID "volume_id"
  given req.nodeID "node_id"
  withTenant t (fun t => do
    let vol ← readyVolumeByID t.ns req.volumeID
    let vmid ← resolveVMID s t req.nodeID req.vmid
    let att ← ensureAttachment
      (newAttachment t req vol (s.attachmentName req.volumeID req.nodeID) vmid)
    attachmentAnswer req vol vmid att)

def detachmentOf (ns name volumeID : String) : A Unit := do
  match ← inquire (.getAttachment ns name) with
  | .ok _ => throw (status .unavailable ("detaching volume " ++ volumeID))
  | .error e =>
    if e.kind = .notFound then pure ()
    else throw (internal ("checking attachment deletion: " ++ e.text))

def deleteAttachment (att : ProxmoxVolumeAttachment) (volumeID : String) : A Unit :=
  if att.deleting then detachmentOf att.ns att.name volumeID
  else do
    match ← inquire (.deleteAttachment att.ns att.name) with
    | .ok _ => detachmentOf att.ns att.name volumeID
    | .error e =>
      if e.kind = .notFound then pure () else throw (internal ("deleting attachment: " ++ e.text))

def detachVolume (s : Service) (t : Option TenantCluster) (volumeID nodeID : String) : A Unit := do
  given volumeID "volume_id"
  given nodeID "node_id"
  withTenant t (fun t => do
    match ← inquire (.getAttachment t.ns (s.attachmentName volumeID nodeID)) with
    | .ok att => deleteAttachment att volumeID
    | .error e =>
      if e.kind = .notFound then pure () else throw (internal ("getting attachment: " ++ e.text)))

end Attachments

section Snapshots

structure CreateSnapshotRequest where
  name : String
  sourceVolumeName : String
  zone : String

structure CreateSnapshotResponse where
  snapshotID : String
  readyToUse : Bool
  restoreSizeBytes : ℤ
  deriving DecidableEq, Repr

def newSnapshot (t : TenantCluster) (req : CreateSnapshotRequest) (storage : String) :
    ProxmoxVolumeSnapshot :=
  ⟨t.ns,req.name,0,0,(∅ : Params).insert labelTenant t.name,[],false,req.sourceVolumeName,storage,
    req.zone,"",false,0,0,[]⟩

def createSnapshotRecord (t : TenantCluster) (req : CreateSnapshotRequest) (storage : String) :
    A ProxmoxVolumeSnapshot := do
  match ← inquire (.createSnapshot (newSnapshot t req storage)) with
  | .ok snap => pure snap
  | .error e =>
    if e.kind = .alreadyExists then
      demand (.getSnapshot t.ns req.name) "getting snapshot after create race: "
    else throw (internal ("creating snapshot: " ++ e.text))

def ensureSnapshot (t : TenantCluster) (req : CreateSnapshotRequest) (storage : String) :
    A ProxmoxVolumeSnapshot := do
  match ← inquire (.getSnapshot t.ns req.name) with
  | .error e =>
    if e.kind = .notFound then createSnapshotRecord t req storage
    else throw (internal ("getting snapshot: " ++ e.text))
  | .ok snap =>
    if snap.sourceVolumeName = req.sourceVolumeName then pure snap
    else throw (status .alreadyExists ("snapshot " ++ req.name ++ " exists with a different source"))

def failedSnapshot (snap : ProxmoxVolumeSnapshot) (message : String) : A CreateSnapshotResponse :=
  if snap.deleting then throw (internal ("snapshot failed: " ++ message))
  else do
    match ← inquire (.deleteSnapshot snap.ns snap.name) with
    | .ok _ => throw (internal ("snapshot failed: " ++ message))
    | .error e =>
      if e.kind = .notFound then throw (internal ("snapshot failed: " ++ message))
      else throw (internal ("cleaning up failed snapshot: " ++ e.text))

def snapshotPending (snap : ProxmoxVolumeSnapshot) : RpcError :=
  status .unavailable ("creating snapshot " ++ snap.name)

def snapshotAnswer (snap : ProxmoxVolumeSnapshot) : A CreateSnapshotResponse :=
  if snap.snapshotID ≠ "" ∧ snap.readyToUse then
    pure ⟨snap.snapshotID,snap.readyToUse,snap.restoreSizeBytes⟩
  else match conditionOf snap.conditions .ready with
    | none => throw (snapshotPending snap)
    | some c => if c.status = false ∧ c.reason = .proxmoxError then failedSnapshot snap c.message
        else throw (snapshotPending snap)

def sourceVolume (ns name : String) : A ProxmoxVolume := do
  match ← inquire (.getVolume ns name) with
  | .error e =>
    if e.kind = .notFound then throw (status .notFound ("source volume " ++ name ++ " not found"))
    else throw (internal ("getting source volume: " ++ e.text))
  | .ok vol => do
    require (vol.status.phase = .ready) (status .failedPrecondition ("source volume " ++ name ++
      " is not ready (phase " ++ phaseText vol.status.phase ++ ")"))
    pure vol

def createSnapshot (t : Option TenantCluster) (req : CreateSnapshotRequest) :
    A CreateSnapshotResponse := do
  given req.name "name"
  given req.sourceVolumeName "source_volume_name"
  withTenant t (fun t => do
    let vol ← sourceVolume t.ns req.sourceVolumeName
    let snap ← ensureSnapshot t req vol.spec.storage
    snapshotAnswer snap)

def snapshotDeletion (ns name : String) : A Unit := do
  match ← inquire (.getSnapshot ns name) with
  | .ok _ => throw (status .unavailable ("deleting snapshot " ++ name))
  | .error e =>
    if e.kind = .notFound then pure ()
    else throw (internal ("checking snapshot deletion: " ++ e.text))

def deleteSnapshotRecord (snap : ProxmoxVolumeSnapshot) : A Unit :=
  if snap.deleting then snapshotDeletion snap.ns snap.name
  else do
    match ← inquire (.deleteSnapshot snap.ns snap.name) with
    | .ok _ => snapshotDeletion snap.ns snap.name
    | .error e =>
      if e.kind = .notFound then pure () else throw (internal ("deleting snapshot: " ++ e.text))

def deleteSnapshot (t : Option TenantCluster) (snapshotID : String) : A Unit := do
  given snapshotID "snapshot_id"
  withTenant t (fun t => do
    let snaps ← demand (.snapshotsByID t.ns snapshotID) "listing snapshots: "
    match snaps with
    | [] => pure ()
    | snap::_ => deleteSnapshotRecord snap)

structure ListSnapshotsRequest where
  snapshotID : String
  sourceVolumeName : String
  startingToken : String
  maxEntries : ℤ

/-- The source is not tracked on the snapshot. -/
structure SnapshotEntry where
  snapshotID : String
  sourceVolumeID : String
  readyToUse : Bool
  restoreSizeBytes : ℤ
  deriving DecidableEq, Repr

structure ListSnapshotsResponse where
  entries : List SnapshotEntry
  nextToken : String
  deriving DecidableEq, Repr

def snapshotEntry (snap : ProxmoxVolumeSnapshot) : SnapshotEntry :=
  ⟨snap.snapshotID,"",snap.readyToUse,snap.restoreSizeBytes⟩

def listedSnapshots (req : ListSnapshotsRequest) (snaps : List ProxmoxVolumeSnapshot) :
    List ProxmoxVolumeSnapshot :=
  snaps.filter (fun s => s.snapshotID ≠ "" ∧
    (req.sourceVolumeName = "" ∨ s.sourceVolumeName = req.sourceVolumeName))

def atoiText (value : String) : String :=
  "strconv.Atoi: parsing " ++ quoted value ++
    if isNumeral value then ": value out of range" else ": invalid syntax"

def startOf (token : String) : A ℤ :=
  if token = "" then pure 0
  else match atoi token with
    | none => throw (status .invalidArgument ("invalid starting_token: " ++ atoiText token))
    | some n => pure n

def recovered : RpcError := internal "internal error"

def pageLength (remaining : ℕ) (maxEntries : ℤ) : ℕ :=
  if maxEntries ≤ 0 ∨ remaining < maxEntries then remaining else maxEntries.toNat

/-- A negative token is no position in the list. -/
def snapshotPage (snaps : List ProxmoxVolumeSnapshot) (start maxEntries : ℤ) :
    A ListSnapshotsResponse :=
  if start < 0 then throw recovered
  else
    let first := min start.toNat snaps.length
    let count := pageLength (snaps.length - first) maxEntries
    pure ⟨((snaps.drop first).take count).map snapshotEntry,
      if first + count < snaps.length then toString (first + count) else ""⟩

def snapshotAlone (ns snapshotID : String) : A ListSnapshotsResponse := do
  let snaps ← demand (.snapshotsByID ns snapshotID) "listing snapshots: "
  match snaps with
  | [] => pure ⟨[],""⟩
  | snap::_ => pure ⟨[snapshotEntry snap],""⟩

def listSnapshots (t : Option TenantCluster) (req : ListSnapshotsRequest) :
    A ListSnapshotsResponse :=
  withTenant t (fun t =>
    if req.snapshotID ≠ "" then snapshotAlone t.ns req.snapshotID
    else do
      let snaps ← demand (.listSnapshots t.ns) "listing snapshots: "
      let start ← startOf req.startingToken
      snapshotPage (listedSnapshots req snaps) start req.maxEntries)

end Snapshots

end ProxmoxCSI.VolumeService
