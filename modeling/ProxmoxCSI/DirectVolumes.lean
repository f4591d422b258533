import ProxmoxCSI.DirectCalls

/-!
# Volumes and snapshots in direct mode

A volume is looked up under the name its handle carries and, with reassignment
on, under any owner. A volume or a snapshot whose disk is on the storage is
reported as it is; otherwise it is created, or copied from its source.
-/

set_option autoImplicit false

namespace ProxmoxCSI.DirectVolumes
open CallProgram CallProgram.Prog CallErrors TextScan VolumeHandle ClusterState DirectCalls
open AttachedSlots (Options)
open VolumeReconciler (diskFormat roundUpSizeBytes minChunkSizeBytes mib)

structure Controller where
  vmID : ℤ
  reassignVolumeOnAttach : Bool
  copyEndpoint : String → CopyEndpoint
  polls : ℕ

def same (e : RpcError) : RpcError := e

def labelled (pre : String) (e : RpcError) : RpcError := plain (pre ++ e.text)

def internal (e : RpcError) : RpcError := status .internal e.text

def internally (pre : String) (e : RpcError) : RpcError := status .internal (pre ++ e.text)

section Lookup

def getStorageContent (vol : Volume) : D (Option ContentItem) :=
  if vol.node = "" then throw (plain "node is required")
  else do
    match ← ask (.storageStatus vol.region vol.node vol.storage) with
    | .error e => if contains e.text "No such storage" then throw errStorageAbsent else throw e
    | .ok _ => do
      let contents ← need (.storageContent vol.region vol.node vol.storage) same
      pure (contents.find? (fun c => c.volid = vol.volID))

def getVolumeSize (vol : Volume) : D ℤ := do
  match ← getStorageContent vol with
  | none => throw (plain errorNotFound)
  | some c => pure c.size

def matchesSuffix (vol : Volume) (disk : String) : Bool :=
  match diskParts disk.toList with
  | some p => String.ofList p.suffix = vol.diskSuffix
  | none => false

def suffixDisk (vol : Volume) (item : ContentItem) : Option String :=
  match cut item.volid ':' with
  | some (storage,disk) => if storage = vol.storage ∧ matchesSuffix vol disk then some disk else none
  | none => none

def findVolumeBySuffix (vol : Volume) : D (Option Volume) :=
  if vol.diskSuffix = "" then throw (plain ("failed to find volume: " ++ vol.volumeID ++
    " is not in the vm-<vmid>-<name> form"))
  else do
    let contents ← need (.storageContent vol.region vol.node vol.storage)
      (labelled ("failed to list storage content on node " ++ vol.node ++ ": "))
    pure ((contents.findSome? (suffixDisk vol)).map (fun disk => { vol with disk := disk }))

/-- The search is only worth its failures when a volume can be renamed at all. -/
def searches (reassign : Bool) (vol : Volume) (e : RpcError) : Bool :=
  reassign ∧ e.text = errorNotFound ∧ e.kind ≠ .storageAbsent ∧ vol.diskSuffix ≠ ""

def resolveVolume (vol : Volume) (reassign : Bool) : D (Volume × ℤ) := do
  match ← observed (getVolumeSize vol) with
  | .ok size => pure (vol,size)
  | .error e =>
    if searches reassign vol e then do
      match ← findVolumeBySuffix vol with
      | none => throw (plain errorNotFound)
      | some found => do
        let size ← getVolumeSize found
        pure (found,size)
    else throw e

def probeNodes (reassign : Bool) (vol : Volume) : List String → D (ℤ × Volume)
  | [] => throw (status .notFound ("volume " ++ vol.volumeID ++
    " not found in any node for storage " ++
      vol.storage))
  | n::ns => do
    match ← observed (resolveVolume { vol with node := n } reassign) with
    | .ok (resolved,size) => pure (size,{ vol with disk := resolved.disk })
    | .error e => if e.text = errorNotFound then probeNodes reassign vol ns else throw (internal e)

def checkZone (vol : Volume) : D Unit :=
  if vol.zone = "" then pure ()
  else do
    let nodes ← need (.nodeList vol.region) internal
    require (vol.zone ∈ nodes) (status .notFound ("zone " ++ vol.zone ++ " not found in cluster " ++
      vol.region))

def checkFound (vol : Volume) (e : RpcError) : RpcError :=
  if e.text = errorNotFound then status .notFound ("volume " ++ vol.volumeID ++ " not found")
  else internal e

def checkVolume (d : Controller) (vol : Volume) : D (ℤ × Volume) := do
  need (.proxmoxCluster vol.region) internal
  checkZone vol
  if vol.node = "" then do
    let nodes ← need (.nodesForStorage vol.region vol.storage) internal
    probeNodes d.reassignVolumeOnAttach vol nodes
  else do
    let (resolved,size) ← relabel (checkFound vol) (resolveVolume vol d.reassignVolumeOnAttach)
    pure (size,{ vol with disk := resolved.disk })

end Lookup

section Copies

def copyVolume (endpoint : CopyEndpoint) (srcVol destVol : Volume) : D Unit := do
  require (srcVol.node ≠ "") (plain "node is required")
  require (contains destVol.disk ".qcow2" = false) (plain "volume disk must not be qcow2 format")
  let node := if destVol.node ≠ "" then destVol.node else srcVol.node
  need (.copyContent endpoint srcVol node destVol) (fun e => plain ("failed to copy pvc: " ++ e.text ++
    ", params=" ++ MigratorCalls.copyParams endpoint srcVol node destVol))

def filename (disk : String) : String :=
  match (cutList '/' disk.toList.reverse) with
  | some (name,_) => String.ofList name.reverse
  | none => disk

def createDisk (vol : Volume) (sizeBytes : ℤ) : D Volume := do
  require (vol.node ≠ "") (plain "node is required")
  match atoi vol.vmid with
  | none => throw (plain ("failed to parse volume vm id: strconv.Atoi: parsing " ++
      VolumeReconciler.quoted vol.vmid ++ ": invalid syntax"))
  | some id => do
    let volid ← need (.createDisk vol.region id vol.node vol.storage (filename vol.disk) sizeBytes)
      (labelled "failed to create vm disk: ")
    pure (match cut volid ':' with
      | some (_,disk) => { vol with disk := firstPiece disk ':' }
      | none => vol)

structure StorageParameters where
  storageID : String
  storageFormat : String
  replicate : Bool
  replicateSchedule : String
  replicateZones : String

structure CreateVolumeRequest where
  name : String
  capabilities : Bool
  parameters : Except String StorageParameters
  mutableParameters : Except String Options
  requiredBytes : Option ℤ
  region : String
  zone : String
  sourceVolume : Option String
  sourceSnapshot : Option String

/-- The response, with the disk it is about. -/
structure CreatedVolume where
  volumeID : String
  capacityBytes : ℤ
  topology : List (String × String)
  resize : Option ℤ
  disk : Volume

structure VolumePlan where
  params : StorageParameters
  volSizeBytes : ℤ
  srcVol : Option Volume
  shared : Bool
  topology : List (String × String)
  id : ℤ
  vol : Volume

def defaultVolumeSizeBytes : ℤ := 10*1024*mib

def requestedBytes (req : CreateVolumeRequest) : ℤ :=
  match req.requiredBytes with
  | none => defaultVolumeSizeBytes
  | some n => roundUpSizeBytes n minChunkSizeBytes

def invalidHandle : RpcError := status .invalidArgument VolumeReconciler.invalidHandleText

def parseHandle (id : String) : D Volume :=
  match parseVolumeID id with
  | some v => pure v
  | none => throw invalidHandle

def sourceHandle (req : CreateVolumeRequest) : Option String :=
  req.sourceSnapshot.or req.sourceVolume

def parseOptional : Option String → D (Option Volume)
  | none => pure none
  | some id => do
    let v ← parseHandle id
    pure (some v)

def parseSources (req : CreateVolumeRequest) : D (Option Volume) := do
  let vol ← parseOptional req.sourceVolume
  let snapshot ← parseOptional req.sourceSnapshot
  pure (snapshot.or vol)

def checkSource (d : Controller) (region : String) : Option Volume → D (Option Volume)
  | none => pure none
  | some src => do
    require (src.region = region) (status .invalidArgument
      "source snapshot region does not match the requested region")
    let (_,found) ← checkVolume d src
    pure (some found)

def pickZone (region zone storage : String) : D String :=
  if zone ≠ "" then pure zone
  else do
    let zones ← need (.nodesForStorage region storage)
      (internally ("failed to get zones with storage " ++ storage ++ ": "))
    match zones with
    | [] => throw (status .internal ("failed to find best zone: no nodes with the storage " ++
      storage))
    | z::_ => pure z

def configFailed : RpcError → RpcError := internally "failed to get proxmox storage config: "

def sharedTopology (region nodes : String) : List (String × String) :=
  let zones := (split nodes ',').filter (fun n => n ≠ "")
  if zones = [] then [(region,"")] else zones.map (fun n => (region,n))

def topologyFor (region zone storage : String) (r : StorageResource) : D (List (String × String)) :=
  if r.shared then do
    require (r.pluginType ∉ ["cifs","pbs"]) (status .internal
      "error: shared storage type cifs, pbs are not supported")
    let config ← need (.storageConfig region storage) configFailed
    pure (sharedTopology region config.nodes)
  else pure [(region,zone)]

def diskOwner (d : Controller) (replicate : Bool) (region zone name : String) (r : StorageResource) :
    D ℤ :=
  if replicate then do
    require (r.pluginType = "zfspool") (status .internal
      "error: storage type is not zfs in replication mode")
    need (.prepareReplication region zone name d.vmID) internal
  else pure d.vmID

def planVolume (d : Controller) (req : CreateVolumeRequest) : D VolumePlan := do
  require (req.name ≠ "") (status .invalidArgument "VolumeName must be provided")
  require (req.capabilities = true) (status .invalidArgument "VolumeCapabilities must be provided")
  match req.parameters, req.mutableParameters with
  | .error text, _ => throw (status .invalidArgument text)
  | _, .error text => throw (status .invalidArgument text)
  | .ok params, .ok _ => do
    require (params.storageID ≠ "") (status .invalidArgument "parameter storage must be provided")
    require (req.region ≠ "") (status .internal "cannot find best region")
    let source ← parseSources req
    let srcVol ← checkSource d req.region source
    need (.proxmoxCluster req.region) internal
    let zone ← pickZone req.region req.zone params.storageID
    let r ← need (.storageResource req.region params.storageID) configFailed
    let topology ← topologyFor req.region zone params.storageID r
    let id ← diskOwner d params.replicate req.region zone req.name r
    let vol := newVolumeFormat req.region zone params.storageID
      ("vm-" ++ toString id ++ "-" ++ req.name) (diskFormat r.pluginType params.storageFormat)
    pure ⟨params,requestedBytes req,srcVol,r.shared,
      if params.replicate then (split params.replicateZones ',').map (fun z => (req.region,z))
        else topology,id,vol⟩

def copySource (d : Controller) (vol srcVol : Volume) : D Unit := do
  let size ← relabel (fun e => if e.text ≠ errorNotFound then internal e else
    status .notFound ("snapshot " ++ srcVol.volumeID ++ " is not found")) (getVolumeSize srcVol)
  require (size ≠ 0) (status .unavailable ("snapshot " ++ srcVol.volumeID ++ " is not yet available"))
  require (vol.storage = srcVol.storage) (status .invalidArgument
    ("storage mismatch: requested storage " ++ vol.storage ++ " does not match snapshot storage " ++
      srcVol.storage))
  relabel internal (copyVolume (d.copyEndpoint vol.region) srcVol vol)

def makeDisk (d : Controller) (p : VolumePlan) : D Volume :=
  match p.srcVol with
  | some srcVol => do
    copySource d p.vol srcVol
    pure p.vol
  | none => relabel internal (createDisk p.vol p.volSizeBytes)

def awaitSize (vol : Volume) (again : Unit → D ℤ) (_ : Unit) : D ℤ := do
  match ← observed (getVolumeSize vol) with
  | .ok size => pure size
  | .error e =>
    if e.text = errorNotFound then again ()
    else throw (plain ("failed to get volume size: " ++ e.text))

def sizeAfterCreation (polls : ℕ) (vol : Volume) : D ℤ :=
  relabel (internally ("failed to get volume size after creation: " ++ vol.volumeID ++ " " ++
    vol.volID ++ " ")) (rounds (awaitSize vol) (fun _ => throw (plain errorNotFound)) polls ())

def ensureDisk (d : Controller) (p : VolumePlan) : D (ℤ × Volume) := do
  match ← observed (getVolumeSize p.vol) with
  | .ok size => pure (size,p.vol)
  | .error e =>
    if e.text ≠ errorNotFound then throw (internally "failed to check volume: " e)
    else do
      let vol ← makeDisk d p
      let size ← sizeAfterCreation d.polls vol
      pure (size,vol)

def sharedID (v : Volume) : String := v.region ++ "//" ++ v.storage ++ "/" ++ v.disk

def volumeResponse (p : VolumePlan) (size : ℤ) (vol : Volume) : CreatedVolume where
  volumeID := if p.shared ∨ p.params.replicate then sharedID vol else vol.volumeID
  capacityBytes := p.volSizeBytes
  topology := p.topology
  resize := if size < p.volSizeBytes ∧ p.srcVol.isSome then some p.volSizeBytes else none
  disk := vol

def replicateDisk (p : VolumePlan) (vol : Volume) : D Unit :=
  if p.params.replicate then
    need (.createReplication p.id vol p.params.replicateSchedule p.params.replicateZones) internal
  else pure ()

def createVolume (d : Controller) (req : CreateVolumeRequest) : D CreatedVolume := do
  let p ← planVolume d req
  let (size,vol) ← ensureDisk d p
  require (¬(size < p.volSizeBytes ∧ size = 0 ∧ p.srcVol.isSome)) (status .unavailable
    ("volume " ++ ((p.srcVol.map Volume.volumeID).getD "") ++ " is not yet available"))
  replicateDisk p vol
  pure (volumeResponse p size vol)

structure CreateSnapshotRequest where
  sourceVolumeID : String
  name : String
  zone : String

structure CreatedSnapshot where
  snapshotID : String
  sourceVolumeID : String
  sizeBytes : ℤ
  readyToUse : Bool
  disk : Volume

def getNodeForVolume (vol : Volume) : D String :=
  if vol.node ≠ "" then pure vol.node
  else do
    let nodes ← need (.nodesForStorage vol.region vol.storage)
      (labelled ("failed to find zones for storage " ++ vol.storage ++ ": "))
    match nodes with
    | [] => throw (plain ("failed to find best zone for storage " ++ vol.storage))
    | n::_ => pure n

def checkSnapshotStorage (config : StorageConfig) : D Unit := do
  require (config.type ∉ ["cifs","pbs"]) (status .internal
    "storage type cifs, pbs do not support snapshot")
  require (config.type ≠ "rbd") (status .internal
    "storage type rbd(ceph) does not support snapshot")
  require (config.shared = false) (status .internal "shared storage does not support snapshot")

def snapshotZone (config : StorageConfig) (zone : String) (snapshot : Volume) : D Volume :=
  if zone = "" then pure snapshot
  else do
    require (config.nodes = "" ∨ zone ∈ split config.nodes ',') (status .invalidArgument
      "zone specified in parameters is not valid for the storage")
    pure (setZone snapshot zone)

def placedVolume (vol : Volume) : D Volume :=
  if vol.node ≠ "" then pure vol
  else do
    let node ← relabel (internally ("failed to get node for volume: " ++ vol.volumeID ++ ", "))
      (getNodeForVolume vol)
    pure { vol with node := node }

def planSnapshot (d : Controller) (req : CreateSnapshotRequest) : D (Volume × Volume) := do
  let vol ← parseHandle req.sourceVolumeID
  require (req.name ≠ "") (status .invalidArgument "Name must be provided")
  need (.proxmoxCluster vol.region) internal
  let config ← need (.storageConfig vol.region vol.storage) internal
  checkSnapshotStorage config
  let (_,found) ← checkVolume d vol
  let vol ← placedVolume found
  let snapshot ← snapshotZone config req.zone (copyName vol
    ("vm-" ++ toString d.vmID ++ "-" ++ req.name))
  pure (vol,snapshot)

def ensureSnapshot (d : Controller) (vol snapshot : Volume) : D ℤ := do
  match ← observed (getVolumeSize snapshot) with
  | .ok size => pure size
  | .error e =>
    if e.text ≠ errorNotFound then throw (internal e)
    else do
      relabel internal (copyVolume (d.copyEndpoint vol.region) vol snapshot)
      relabel internal (getVolumeSize snapshot)

def createSnapshot (d : Controller) (req : CreateSnapshotRequest) : D CreatedSnapshot := do
  let (vol,snapshot) ← planSnapshot d req
  let size ← ensureSnapshot d vol snapshot
  pure ⟨snapshot.volumeID,vol.volumeID,size,decide (0 < size),snapshot⟩

end Copies

end ProxmoxCSI.DirectVolumes
