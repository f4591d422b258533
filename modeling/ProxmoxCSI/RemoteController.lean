import ProxmoxCSI.VolumeService
import ProxmoxCSI.DirectVolumes
import ProxmoxCSI.CapacityStream

/-!
# The remote controller

A controller without credentials of its own turns each request of the container
orchestrator into one request of the volume API, and the answer of the API into
its own. Of a capacity range only the lower end is passed on, and of a node ID
the integer it ends in, narrowed to the width of the API's field.
-/

set_option autoImplicit false

namespace ProxmoxCSI.RemoteController
open CallProgram CallProgram.Prog CallErrors TextScan VolumeHandle OperatorRecords VolumeReconciler
open VolumeService
open DirectCalls (RpcError Code status)
open CapacityStream (labelTopologyZone)

def translateError (e : RpcError) : RpcError :=
  match e.kind with
  | .status code => status code ("remote: " ++ e.text)
  | _ => status .internal e.text

structure CapacityRange where
  requiredBytes : ℤ
  limitBytes : ℤ

section Create

structure TopologyRequirement where
  preferred : List Params
  requisite : List Params

structure ContentSource where
  snapshotID : Option String
  volumeID : Option String

structure CreateRequest where
  name : String
  capabilities : Bool
  capacityRange : Option CapacityRange
  parameters : Params
  mutableParameters : Params
  accessibility : Option TopologyRequirement
  source : Option ContentSource

structure CreatedVolume where
  volumeID : String
  capacityBytes : ℤ
  volumeContext : Params
  topology : List (String × String)

def labelTopologyRegion : String := "topology.kubernetes.io/region"

def locationFrom (region : String) : List Params → String × String
  | [] => (region,"")
  | seg::rest =>
    let r := valueOf seg labelTopologyRegion
    let z := valueOf seg labelTopologyZone
    if r ≠ "" ∧ z ≠ "" then (r,z) else locationFrom (if r ≠ "" ∧ region = "" then r else region) rest

def locationFromAccessibility : Option TopologyRequirement → String × String
  | none => ("","")
  | some tr => locationFrom "" (tr.preferred ++ tr.requisite)

def metadata : String := "csi.storage.k8s.io/"

def protoParams (params : Params) : Params :=
  params.entries.foldr (fun e m => if ¬hasPrefix e.1 metadata ∧ e.1 ≠ "storage" then
    m.insert e.1 e.2 else m) ∅

def sourceName (volumeID : String) : A String :=
  match parseVolumeID volumeID with
  | none => throw (status .invalidArgument ("invalid source volume ID: " ++
      VolumeReconciler.invalidHandleText))
  | some v => pure (if pvName v = "" then volumeID else pvName v)

def volumeSource : Option ContentSource → A (Option VolumeSource)
  | none => pure none
  | some c => do
    let name ← match c.volumeID with
      | none => pure ""
      | some id => sourceName id
    pure (some ⟨name,c.snapshotID.getD ""⟩)

def requiredBytes (req : CreateRequest) : ℤ := (req.capacityRange.map
    CapacityRange.requiredBytes).getD 0

def createFrom (s : Service) (t : Option TenantCluster) (req : CreateRequest)
    (source : A (Option VolumeSource)) : A CreatedVolume := do
  require (req.name ≠ "") (status .invalidArgument "VolumeName must be provided")
  require (req.capabilities = true) (status .invalidArgument "VolumeCapabilities must be provided")
  let (region,zone) := locationFromAccessibility req.accessibility
  require (region ≠ "") (status .internal "cannot determine region from topology")
  let storage := valueOf req.parameters "storage"
  require (storage ≠ "") (status .invalidArgument "parameter storage must be provided")
  let source ← source
  let resp ← relabel translateError (VolumeService.createVolume s t ⟨req.name,requiredBytes req,region,
    zone,storage,protoParams req.parameters,req.mutableParameters,
    valueOf req.parameters (metadata ++ "pvc/namespace"),source⟩)
  pure ⟨resp.volumeID,resp.capacityBytes,resp.volumeContext,
    resp.accessibleTopology.map (fun z => (region,z))⟩

def createVolume (s : Service) (t : Option TenantCluster) (req : CreateRequest) : A CreatedVolume :=
  createFrom s t req (volumeSource req.source)

end Create

section Publish

def requestVMID (nodeID : String) : ℤ :=
  match MigratorCalls.parseNodeID nodeID with
  | none => 0
  | some (id,_) => if id ≠ 0 then int32 id else 0

def attachRequest (volumeID nodeID : String) (readonly : Bool) : AttachVolumeRequest :=
  ⟨volumeID,nodeID,requestVMID nodeID,readonly⟩

structure PublishContext where
  devicePath : String
  lun : String
  resizeRequired : Bool
  deriving DecidableEq, Repr

def controllerPublishVolume (s : Service) (t : Option TenantCluster) (volumeID nodeID : String)
    (readonly : Bool) : A PublishContext := do
  require (volumeID ≠ "") (status .invalidArgument "VolumeId must be provided")
  require (nodeID ≠ "") (status .invalidArgument "NodeId must be provided")
  let resp ← relabel translateError (attachVolume s t (attachRequest volumeID nodeID readonly))
  pure ⟨resp.devicePath,toString resp.lun,resp.resizeRequired⟩

end Publish

end ProxmoxCSI.RemoteController
