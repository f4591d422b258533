import ProxmoxCSI.ClusterService

/-!
# The helpers of the migrator

Each helper is a program of API calls. Its errors carry the texts of the source
and, where the source wraps one, the sentinel its caller classifies.
-/

set_option autoImplicit false

namespace ProxmoxCSI.MigratorCalls
open CallProgram CallProgram.Prog CallSafety CallErrors TextScan VolumeHandle ClusterState
open ClusterService

inductive Sentinel where
  | invalidTarget | alreadyOnTarget | inUse | sharedStorage
  deriving DecidableEq, Repr

def Sentinel.text : Sentinel → String
  | .invalidTarget => "invalid migration target"
  | .alreadyOnTarget => "volume already on target node"
  | .inUse => "volume is in use"
  | .sharedStorage => "storage is shared with the target node"

structure GoError where
  sentinel : Option Sentinel
  text : String
  deriving DecidableEq, Repr

def errorf (text : String) : GoError := ⟨none,text⟩

def sentinelf (s : Sentinel) (text : String) : GoError := ⟨some s,s.text ++ ": " ++ text⟩

/-- `%w` keeps the sentinel, `%v` only the text. -/
def GoError.wrapped (pre : String) (e : GoError) : GoError := ⟨e.sentinel,pre ++ e.text⟩

def GoError.flattened (pre : String) (e : GoError) : GoError := ⟨none,pre ++ e.text⟩

def apiError (pre : String) (e : ApiError) : GoError := errorf (pre ++ e.text)

def taskError (pre : String) : ApiError → GoError
  | .task msg => errorf msg
  | e => apiError pre e

def quote (s : String) : String := "\"" ++ s ++ "\""

def joined (xs : List String) : String := String.intercalate "," xs

abbrev M := Fallible Call Reply GoError

def ask (a : Api) : M (Except ApiError (Answer a)) := perform (issue (Call.api a))

def need (a : Api) (wrap : ApiError → GoError) : M (Answer a) :=
  ExceptT.mk (.call (.api a) fun r : Except ApiError (Answer a) => .done (r.mapError wrap))

def accepting (a : Api) (tolerated : ApiError) (wrap : ApiError → GoError) : M Unit := do
  match ← ask a with
  | .ok _ => pure ()
  | .error e => if e = tolerated then pure () else throw (wrap e)

def phase (p : Phase) : M Unit := perform (issue (Call.phase p))

def contextError : GoError := errorf "context deadline exceeded"

def driverName : String := "csi.proxmox.sinextra.dev"

def group : String := "proxmox.crunchymonkies.com"

def groupLegacy : String := "proxmox.sinextra.dev"

def storageIDKey : String := "storage"

def pvcResources (ns name : String) : M (PersistentVolumeClaim × PersistentVolume) := do
  let pvc ← need (.getPVC ns name) (apiError "failed to get PersistentVolumeClaims: ")
  let pv ← need (.getPV pvc.volumeName) (apiError "failed to get PersistentVolumes: ")
  pure (pvc,pv)

def podsUsing (name : String) (pods : List Pod) : List Pod :=
  pods.filter (fun p => p.phase ≠ .pending ∧ name ∈ p.claims)

def pvcPodUsage (ns name : String) : M (List String × String) := do
  let pods ← need (.listPods ns) (apiError "failed to list pods: ")
  let used := podsUsing name pods
  pure (used.map Pod.name,(used.getLast?.map Pod.nodeName).getD "")

def pvcConsumers (ns name : String) : M (List String) := do
  let pods ← need (.listPods ns) (apiError "failed to list pods: ")
  pure ((pods.filter (fun p => p.phase ≠ .succeeded ∧ p.phase ≠ .failed ∧
    name ∈ p.claims)).map Pod.name)

def parseNodeID (nodeID : String) : Option (ℤ × String) :=
  match splitN nodeID '/' 2 with
  | [node] => if node = "" then none else some (0,node)
  | [node,vmid] => if node = "" then none else (atoi vmid).map (fun n => (n,node))
  | _ => none

def csiNodeName (driver : String) (c : CSINode) : Option String :=
  c.drivers.findSome? (fun d => if d.1 = driver then (parseNodeID d.2).map Prod.snd else none)

def csiNodes (driver : String) : M (List String) := do
  let nodes ← need .listCSINodes (apiError "failed to list CSINodes: ")
  pure (nodes.filterMap (csiNodeName driver))

def condonNodes : List String → M (List String)
  | [] => pure []
  | name::names => do
    let node ← need (.getNode name) (apiError "failed to get node status: ")
    if node.unschedulable then condonNodes names
    else do
      need (.patchUnschedulable name true) (apiError "failed to cordon node: ")
      let rest ← condonNodes names
      pure (name::rest)

def uncondonNodes : List String → M Unit
  | [] => pure ()
  | name::names => do
    need (.patchUnschedulable name false) (apiError "failed to uncordon node: ")
    uncondonNodes names

def deletionTimeout (name : String) : GoError :=
  errorf ("timeout waiting for PersistentVolume " ++ name ++ " to be deleted")

def awaitDeleted (name : String) (again : Unit → M Unit) (_ : Unit) : M Unit := do
  match ← ask (.nextEvent name) with
  | .error _ => throw (deletionTimeout name)
  | .ok .closed => throw (errorf "watch channel closed unexpectedly")
  | .ok .deleted => pure ()
  | .ok .modified => again ()
  | .ok .tick => do
    match ← ask (.getPV name) with
    | .error .notFound => pure ()
    | _ => again ()

def pvWaitDelete (polls : ℕ) (name : String) : M Unit := do
  match ← ask (.getPV name) with
  | .error .notFound => pure ()
  | .error e => throw (errorf e.text)
  | .ok _ => do
    need (.watchPV name) (apiError "")
    rounds (awaitDeleted name) (fun _ => throw (deletionTimeout name)) polls ()

def onStorage (vol : Volume) (item : ContentItem) : Bool :=
  decide (item.volid = vol.volID) || hasSuffix item.volid ("/" ++ vol.disk)

def diskOnNode (vol : Volume) (node : String) : M (Bool × ℤ) := do
  let content ← need (.storageContent vol.region node vol.storage)
    (apiError ("failed to list storage content on node " ++ node ++ ": "))
  match content.find? (onStorage vol) with
  | some item => pure (true,item.size)
  | none => pure (false,0)

def deleteDisk (vol : Volume) (node : String) (site : ContentDeletion) : M Unit :=
  need (.deleteContent vol.region node vol.storage vol.disk site)
    (taskError ("failed to delete disk " ++ vol.disk ++ " on node " ++ node ++ ": "))

def copyParams (endpoint : CopyEndpoint) (vol : Volume) (node : String) (targetVol : Volume) :
    String :=
  let own := match endpoint with
    | .builtin => ["node:" ++ vol.node]
    | .csiCopy => []
    | .proxmod => ["storage:" ++ vol.storage]
  "map[" ++ String.intercalate " " (own ++ ["target:" ++ targetVol.volID,
    "target_node:" ++ node,"volume:" ++ vol.disk]) ++ "]"

def copyError (params : String) : ApiError → GoError
  | .task msg => errorf msg
  | e => errorf ("failed to copy pvc: " ++ e.text ++ ", params=" ++ params)

def moveQemuDisk (endpoint : CopyEndpoint) (vol : Volume) (node : String) (targetVol : Volume) :
    M Unit :=
  need (.copyContent endpoint vol node targetVol)
    (copyError (copyParams endpoint vol node targetVol))

def awaitDetached (region : String) (vmID : ℤ) (disk : String) (again : Unit → M Unit)
    (_ : Unit) : M Unit := do
  match ← ask (.vmConfig region vmID) with
  | .error .vmNotFound => pure ()
  | .error e => throw (apiError ("failed to get vm config for VMID " ++ toString vmID ++ ": ") e)
  | .ok disks => if (values disks).any (fun v => contains v disk) then again () else pure ()

def waitForVolumeDetach (polls : ℕ) (region : String) (vmID : ℤ) (disk : String) : M Unit :=
  if vmID = 0 then pure ()
  else rounds (awaitDetached region vmID disk) (fun _ => throw contextError) polls ()

def helperVMName : String := "csi-migration-helper"

def findVMNode (region : String) (vmid : ℤ) : M (Option (String × String)) := do
  let guests ← need (.listVMs region) (apiError "failed to list cluster resources: ")
  pure ((guests.find? (fun g => g.qemu ∧ g.vmid = vmid)).map (fun g => (g.node,g.name)))

def createHelperVM (region node : String) (vmid : ℤ) : M Unit :=
  need (.createVM region node vmid helperVMName)
    (taskError ("failed to create helper VM " ++ toString vmid ++ " on " ++ node ++ ": "))

def deleteVM (region node : String) (vmid : ℤ) : M Unit :=
  need (.deleteVM region node vmid)
    (taskError ("failed to delete VM " ++ toString vmid ++ " on " ++ node ++ ": "))

def attachDisk (region node : String) (vmid : ℤ) (volid : String) : M Unit :=
  need (.attachSlot region node vmid volid)
    (apiError ("failed to attach " ++ volid ++ " to VM " ++ toString vmid ++ " on " ++ node ++ ": "))

/-- The converted copy is whatever the slot points at after the task. -/
def convertDiskToRaw (region node : String) (vmid : ℤ) (storage : String) : M String := do
  need (.moveDisk region node vmid storage)
    (taskError ("failed to start disk conversion on VM " ++ toString vmid ++ ": "))
  let scsi0 ← need (.slotConfig region node vmid)
    (apiError ("failed to read VM " ++ toString vmid ++ " config after conversion: "))
  require (firstPiece scsi0 ',' ≠ "")
    (errorf ("no disk found on VM " ++ toString vmid ++ " after conversion"))
  pure (firstPiece scsi0 ',')

def instanceIDKeys : List String := [group ++ "/instance-id",groupLegacy ++ "/instance-id"]

/-- `^proxmox://([^/]*)/([^/]+)$` with a numeric instance. -/
def parseProviderID (providerID : String) : Except String (ℤ × String) :=
  if hasPrefix providerID "proxmox" = false then
    .error ("foreign providerID or empty " ++ quote providerID)
  else if hasPrefix providerID "proxmox://" = false then .error (malformed providerID)
  else match splitN (trimPrefix providerID "proxmox://") '/' 3 with
    | [region,id] =>
      if id = "" then .error (malformed providerID)
      else match atoi id with
        | some n => .ok (n,region)
        | none => .error ("InstanceID have to be a number, but got " ++ quote id)
    | _ => .error (malformed providerID)
where
  malformed (providerID : String) : String := "providerID " ++ quote providerID ++
    " didn't match expected format \"proxmox://region/InstanceID\""

def getVMID (providerID : String) : Except String ℤ := (parseProviderID providerID).map Prod.fst

def proxmoxVMIDbyNode (node : KubeNode) : Except String ℤ :=
  match getVMID node.providerID with
  | .ok vmID => .ok vmID
  | .error e =>
    match instanceIDKeys.findSome? (fun key => atoi ((node.annotations.lookup key).getD "")) with
    | some vmID => .ok vmID
    | none => .error e

end ProxmoxCSI.MigratorCalls
