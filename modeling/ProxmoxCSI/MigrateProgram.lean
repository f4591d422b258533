import ProxmoxCSI.RewireProgram

/-!
# Migrating the disk of a claim

The request is resolved and checked, an interrupted attempt is detected by the
marker on the volume, the pods are drained and the disk is detached, copied and
verified. Only then the volume is rewired and the source disk reclaimed. The
nodes cordoned on the way are uncordoned on every exit.
-/

set_option autoImplicit false

namespace ProxmoxCSI.MigrateProgram
open CallProgram CallProgram.Prog CallErrors TextScan VolumeHandle ClusterState MigratorCalls
open MigrationAnnotations RewireProgram

structure Migrator where
  regions : List String
  helperVMID : ℤ
  tokenCopyEndpoint : Bool
  proxmodEndpoint : Bool
  tokenCopyOverride : Table String Bool
  proxmodOverride : Table String Bool

structure Request where
  ns : String
  pvcName : String
  targetNode : String
  targetStorage : String
  force : Bool
  deriving DecidableEq, Repr

def defaultHelperVMID : ℤ := 9998

def copyEndpoint (m : Migrator) (region : String) : CopyEndpoint :=
  if (m.proxmodOverride.lookup region).getD m.proxmodEndpoint then .proxmod
  else if (m.tokenCopyOverride.lookup region).getD m.tokenCopyEndpoint then .csiCopy
  else .builtin

def targetDiskName (disk : String) : String :=
  if hasSuffix disk ".qcow2" then trimSuffix disk ".qcow2" ++ ".raw"
  else if hasSuffix disk ".vmdk" then trimSuffix disk ".vmdk" ++ ".raw"
  else disk

def convertFirst (disk : String) : Bool := hasSuffix disk ".qcow2" || hasSuffix disk ".vmdk"

structure Plan where
  pvc : PersistentVolumeClaim
  pv : PersistentVolume
  vol : Volume
  targetVol : Volume

/-- Anything smaller on the target is a partial file. -/
def Plan.expectedSize (p : Plan) : ℤ := p.pv.capacity

def targetStorageOf (req : Request) (vol : Volume) : String :=
  if req.targetStorage = "" then vol.storage else req.targetStorage

def checkZones (req : Request) (storage : String) : Except ApiError (List String) → M Unit
  | .error .notFound => throw (sentinelf .invalidTarget ("storage " ++ storage ++ " does not exist"))
  | .error e => throw (apiError ("failed to get nodes for storage " ++ storage ++ ": ") e)
  | .ok zones => require (req.targetNode ∈ zones)
      (sentinelf .invalidTarget ("proxmox node " ++ req.targetNode ++ " does not have storage " ++
        storage ++ " (nodes: " ++ joined zones ++ ")"))

def planFor (m : Migrator) (req : Request) (pvc : PersistentVolumeClaim) (pv : PersistentVolume)
    (vol : Volume) : M Plan := do
  let storage := targetStorageOf req vol
  require (vol.node ≠ "")
    (sentinelf .invalidTarget ("persistentvolumeclaims " ++ req.pvcName ++
      " is on shared storage " ++ vol.storage ++ ", no migration needed"))
  require (¬(vol.node = req.targetNode ∧ storage = vol.storage))
    (sentinelf .alreadyOnTarget ("persistentvolumeclaims " ++ req.pvcName ++
      " is already on proxmox node " ++ req.targetNode ++ " (storage " ++ storage ++ ")"))
  require (vol.region ∈ m.regions) (errorf "failed to get Proxmox cluster: region not found")
  let zones ← ask (.nodesForStorage vol.region storage)
  checkZones req storage zones
  pure ⟨pvc,pv,vol,newVolume vol.region req.targetNode storage (targetDiskName vol.disk)⟩

def resolveRequest (m : Migrator) (req : Request) : M Plan := do
  let found ← relabel (GoError.flattened "failed to get resources: ")
    (pvcResources req.ns req.pvcName)
  require (found.2.csi.map CSISource.driver = some driverName)
    (errorf ("persistentvolume " ++ found.2.name ++ " is not provisioned by Proxmox CSI driver"))
  match parseVolumeID (volumeHandleOf found.2) with
  | none => throw (errorf
      "failed to parse volume ID: VolumeID must be in the format of region/zone/storageName/diskName")
  | some vol => planFor m req found.1 found.2 vol

/-- Whether an interrupted attempt left the whole disk on the target. A partial
one is deleted; without the marker, a source disk visible there is shared. -/
def detectResume (req : Request) (p : Plan) : M Bool :=
  if getAnnotation p.pv.annotations annotationMigrateState = req.targetNode then do
    match ← observed (diskOnNode p.targetVol req.targetNode) with
    | .ok (true,size) =>
      if p.expectedSize ≤ size then pure true
      else do
        relabel (GoError.flattened ("failed to delete partial disk on " ++ req.targetNode ++ ": "))
          (deleteDisk p.targetVol req.targetNode .partialTarget)
        pure false
    | _ => pure false
  else if p.vol.node ≠ req.targetNode then do
    match ← observed (diskOnNode p.vol req.targetNode) with
    | .ok (true,_) => throw (sentinelf .sharedStorage ("disk " ++ p.vol.disk ++
        " is already present on proxmox node " ++ req.targetNode ++ " (storage " ++
        p.vol.storage ++ ")"))
    | _ => pure false
  else pure false

def checkRegion (vmName region : String) (vm : ℤ × String) : M ℤ := do
  require (vm.2 = region)
    (errorf ("node " ++ vmName ++ " resolved to Proxmox VMID " ++ toString vm.1 ++ " in region " ++
      vm.2 ++ ", but the volume is in region " ++ region))
  pure vm.1

def providerRegion (vmName region : String) (vmID : ℤ) : Except String (ℤ × String) → M ℤ
  | .error _ => pure vmID
  | .ok pid => do
    require (pid.2 = region)
      (errorf ("node " ++ vmName ++ " providerID places Proxmox VMID " ++ toString vmID ++
        " in region " ++ pid.2 ++ ", but the volume is in region " ++ region))
    pure vmID

def lookupVM (vmName region reason : String) (node : KubeNode) : M ℤ := do
  require (node.systemUUID ≠ "")
    (errorf ("failed to resolve Proxmox VMID from node " ++ vmName ++ ": " ++ reason ++
      " (the node reports no system UUID to verify a VM lookup against; set the " ++
      group ++ "/instance-id annotation)"))
  match ← ask (.findVMByNode node) with
  | .ok vm => checkRegion vmName region vm
  | .error _ => do
    let vm ← need (.findVMByUUID node.systemUUID) (fun e =>
      errorf ("failed to resolve Proxmox VMID from node " ++ vmName ++ ": " ++ e.text ++
        " (no VM matches the node name or system UUID " ++ node.systemUUID ++ ")"))
    checkRegion vmName region vm

def resolveVM (vmName region : String) : M ℤ := do
  let node ← need (.getNode vmName) (apiError ("failed to get kubernetes node " ++ vmName ++ ": "))
  match proxmoxVMIDbyNode node with
  | .ok vmID => providerRegion vmName region vmID (parseProviderID node.providerID)
  | .error reason => lookupVM vmName region reason node

structure Usage where
  pods : List String
  vmName : String
  vmID : ℤ

def podUsage (ns name : String) : M (List String × String) :=
  relabel (GoError.flattened "failed to find pods using pvc: ") (pvcPodUsage ns name)

def resolveUsage (req : Request) (p : Plan) : M Usage := do
  let used ← podUsage req.ns req.pvcName
  if used.2 = "" then pure ⟨used.1,used.2,0⟩
  else do
    let vmID ← resolveVM used.2 p.vol.region
    pure ⟨used.1,used.2,vmID⟩

def cordon (req : Request) (u : Usage) : M (List String) :=
  if u.pods = [] then pure []
  else do
    require req.force
      (sentinelf .inUse ("persistentvolumeclaims is using by pods: " ++ joined u.pods ++
        " on node " ++ u.vmName ++ ", cannot move volume"))
    phase .draining
    let nodes ← csiNodes driverName
    relabel (GoError.flattened "failed to cordon nodes: ") (condonNodes nodes)

def uncordon (nodes : List String) : Act Unit :=
  if nodes = [] then .done () else (uncondonNodes nodes).run >>= fun _ => .done ()

def deletePods (ns : String) : List String → M Unit
  | [] => pure ()
  | pod::pods => do
    need (.deletePod ns pod) (apiError "failed to delete pod: ")
    deletePods ns pods

def awaitPodsGone (ns name : String) (again : List String → M Unit) (_ : List String) : M Unit := do
  let used ← podUsage ns name
  if used.1 = [] then pure () else again used.1

def waitPodsGone (polls : ℕ) (ns name : String) : M Unit :=
  rounds (awaitPodsGone ns name)
    (fun pods => throw (errorf ("timed out waiting for pods to terminate: " ++ joined pods))) polls []

def drain (t : Patience) (req : Request) (u : Usage) : M Unit :=
  if u.pods = [] then pure ()
  else do
    deletePods req.ns u.pods
    waitPodsGone t.drain req.ns req.pvcName

def annotatePV (name key value : String) : M Unit := do
  let current ← need (.getPV name) (apiError "")
  need (.patchPVAnnotations name (normalizeLegacy current.annotations [(key,some value)]))
    (apiError "")

def stampMarker (req : Request) (p : Plan) : M Unit :=
  relabel (GoError.flattened ("failed to annotate PV " ++ p.pv.name ++ ": "))
    (annotatePV p.pv.name annotationMigrateState req.targetNode)

structure Approach where
  plan : Plan
  resumed : Bool
  usage : Usage
  cordoned : List String

def reachMove (t : Patience) (m : Migrator) (req : Request) : M Approach := do
  let p ← resolveRequest m req
  let resumed ← detectResume req p
  let u ← resolveUsage req p
  let cordoned ← cordon req u
  onError (uncordon cordoned) (do
    drain t req u
    relabel (GoError.flattened "failed to wait for volume detach: ")
      (waitForVolumeDetach t.detach p.vol.region u.vmID p.vol.disk)
    if resumed then pure () else stampMarker req p)
  pure ⟨p,resumed,u,cordoned⟩

def helperVMIDOf (m : Migrator) : ℤ := if m.helperVMID ≤ 0 then defaultHelperVMID else m.helperVMID

def removeStaleHelper (region : String) (vmid : ℤ) : Option (String × String) → M Unit
  | none => pure ()
  | some vm => do
    require (vm.2 = helperVMName)
      (sentinelf .invalidTarget ("VM " ++ toString vmid ++ " already exists (" ++ quote vm.2 ++
        ") — configure a free helper VM ID"))
    relabel (GoError.flattened ("failed to remove stale helper VM " ++ toString vmid ++ ": "))
      (deleteVM region vm.1 vmid)

def discardHelper (region node : String) (vmid : ℤ) : Act Unit :=
  (deleteVM region node vmid).run >>= fun _ => .done ()

def moveConverted (m : Migrator) (vol targetVol : Volume) (targetNode rawVolid : String) : M Unit :=
  match cut rawVolid ':' with
  | none => throw (errorf ("unexpected converted disk volid " ++ quote rawVolid))
  | some (storage,disk) => moveQemuDisk (copyEndpoint m vol.region)
      (newVolume vol.region vol.node storage disk) targetNode targetVol

def convertOnHelper (m : Migrator) (vol targetVol : Volume) (targetNode : String) (vmid : ℤ) :
    M Unit := do
  attachDisk vol.region vol.node vmid vol.volID
  let rawVolid ← convertDiskToRaw vol.region vol.node vmid vol.storage
  moveConverted m vol targetVol targetNode rawVolid

/-- A transient VM converts the volume into a raw copy it owns; the copy is moved
and goes away with the VM. -/
def convertAndMove (m : Migrator) (vol targetVol : Volume) (targetNode : String) : M Unit := do
  let vmid := helperVMIDOf m
  require (toString vmid ≠ vol.vmid)
    (sentinelf .invalidTarget ("helper VM ID " ++ toString vmid ++
      " must differ from the volume owner VM ID"))
  let stale ← findVMNode vol.region vmid
  removeStaleHelper vol.region vmid stale
  createHelperVM vol.region vol.node vmid
  deferred (discardHelper vol.region vol.node vmid) (convertOnHelper m vol targetVol targetNode vmid)

def cleanupPartial (node : String) (p : Plan) : M Unit := do
  match ← observed (diskOnNode p.targetVol node) with
  | .ok (true,size) =>
    if size < p.expectedSize then do
      let _ ← observed (deleteDisk p.targetVol node .partialTarget)
      pure ()
    else pure ()
  | _ => pure ()

def move (m : Migrator) (req : Request) (p : Plan) : M Unit :=
  if convertFirst p.vol.disk then
    relabel (GoError.wrapped "failed to migrate disk: ")
      (convertAndMove m p.vol p.targetVol req.targetNode)
  else do
    match ← observed (moveQemuDisk (copyEndpoint m p.vol.region) p.vol req.targetNode p.targetVol) with
    | .ok _ => pure ()
    | .error e => do
      cleanupPartial req.targetNode p
      throw (GoError.flattened "failed to move disk: " e)

def verifyTarget (req : Request) (p : Plan) : M Unit := do
  let seen ← relabel (GoError.flattened ("failed to verify disk on target node " ++
    req.targetNode ++ ": ")) (diskOnNode p.targetVol req.targetNode)
  require (seen.1 ∧ p.expectedSize ≤ seen.2)
    (errorf ("disk " ++ p.targetVol.disk ++ " on " ++ req.targetNode ++ " (storage " ++
      p.targetVol.storage ++ ") is missing or partial (" ++ toString seen.2 ++ " of " ++
      toString p.expectedSize ++ " bytes) after move, refusing to rewire"))

def transfer (m : Migrator) (req : Request) (a : Approach) : M Unit :=
  if a.resumed then pure ()
  else do
    phase .moving
    move m req a.plan

def reachRewire (t : Patience) (m : Migrator) (req : Request) : M Approach := do
  let a ← reachMove t m req
  onError (uncordon a.cordoned) (do
    transfer m req a
    verifyTarget req a.plan
    phase .rewiring)
  pure a

def reclaimSourceDisk (vol targetVol : Volume) : M Bool :=
  if vol.node = targetVol.node ∧ vol.storage = targetVol.storage ∧ vol.disk = targetVol.disk then
    pure true
  else do
    match ← observed (deleteDisk vol vol.node .sourceReclaim) with
    | .ok _ => pure true
    | .error _ => pure false

def rewire (t : Patience) (req : Request) (p : Plan) : M Unit := do
  relabel (GoError.wrapped "failed to replace PV topology: ")
    (replacePVTopology t req.ns p.pvc p.pv p.targetVol)
  let _ ← reclaimSourceDisk p.vol p.targetVol
  pure ()

def migrate (t : Patience) (m : Migrator) (req : Request) : M Unit := do
  let a ← reachRewire t m req
  deferred (uncordon a.cordoned) (rewire t req a.plan)

end ProxmoxCSI.MigrateProgram
