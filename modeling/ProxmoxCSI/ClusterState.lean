import Mathlib.Data.List.AList
import ProxmoxCSI.VolumeHandle
import ProxmoxCSI.CallProgram

/-!
# The Kubernetes objects and the Proxmox cluster behind a migration

One record holds the API server's objects and the state of the Proxmox
clusters. A disk lives at a physical location: two nodes that list one shared
storage map it to the same location. The stamp of a disk is the instant of the
last write its content reflects; a copy inherits the stamp of its source.
-/

set_option autoImplicit false

namespace ProxmoxCSI.ClusterState
open VolumeHandle TextScan CallProgram

abbrev Table (κ β : Type) := AList (fun _ : κ => β)

def values {κ β : Type} (t : Table κ β) : List β := t.entries.map Sigma.snd

theorem mem_values {κ β : Type} [DecidableEq κ] {t : Table κ β} {b : β} :
    b ∈ values t ↔ ∃ k, t.lookup k = some b := by
  constructor
  · intro hb
    obtain ⟨⟨k,b'⟩,hm,rfl⟩ := List.mem_map.mp hb
    exact ⟨k,AList.mem_lookup_iff.mpr hm⟩
  · rintro ⟨k,hk⟩
    exact List.mem_map.mpr ⟨⟨k,b⟩,AList.mem_lookup_iff.mp hk,rfl⟩

def tableOf {κ β : Type} [DecidableEq κ] (l : List (κ × β)) : Table κ β :=
  l.foldr (fun p t => t.insert p.1 p.2) ∅

inductive ReclaimPolicy where
  | unset | recycle | delete | retain
  deriving DecidableEq, Repr

inductive PVPhase where
  | pending | available | bound | released | failed
  deriving DecidableEq, Repr

inductive AccessMode where
  | readWriteOnce | readOnlyMany | readWriteMany | readWriteOncePod
  deriving DecidableEq, Repr

inductive VolumeMode where
  | filesystem | block
  deriving DecidableEq, Repr

inductive BindingMode where
  | immediate | waitForFirstConsumer
  deriving DecidableEq, Repr

inductive PodPhase where
  | pending | running | succeeded | failed | unknown
  deriving DecidableEq, Repr

abbrev Annotations := Table String String

structure ObjectReference where
  ns : String
  name : String
  uid : String
  deriving DecidableEq, Repr

structure CSISource where
  driver : String
  volumeHandle : String
  deriving DecidableEq, Repr

structure PersistentVolume where
  name : String
  annotations : Annotations
  created : ℕ
  csi : Option CSISource
  storageClassName : String
  capacity : ℤ
  accessModes : List AccessMode
  volumeMode : Option VolumeMode
  reclaimPolicy : ReclaimPolicy
  claimRef : Option ObjectReference
  nodeAffinity : Option (String × String)
  phase : PVPhase

structure PersistentVolumeClaim where
  ns : String
  name : String
  uid : String
  annotations : Annotations
  storageClassName : Option String
  volumeName : String
  requests : Option ℤ
  capacity : ℤ
  accessModes : List AccessMode
  volumeMode : Option VolumeMode

structure Pod where
  ns : String
  name : String
  phase : PodPhase
  claims : List String
  nodeName : String
  deriving DecidableEq, Repr

structure KubeNode where
  name : String
  providerID : String
  annotations : Annotations
  systemUUID : String
  unschedulable : Bool

structure CSINode where
  drivers : List (String × String)
  deriving DecidableEq, Repr

structure StorageClass where
  name : String
  provisioner : String
  parameters : Table String String
  volumeBindingMode : Option BindingMode

structure ResourceQuota where
  ns : String
  name : String
  statusHard : Table String ℤ
  specHard : Table String ℤ
  used : Table String ℤ

structure VM where
  node : String
  name : String
  qemu : Bool
  scsi : Table ℕ String

structure Disk (C : Type) where
  size : ℤ
  content : C
  stamp : ℕ
  deriving DecidableEq, Repr

abbrev DiskKey := ℕ × String

structure World (C : Type) where
  pvcs : Table (String × String) PersistentVolumeClaim
  pvs : Table String PersistentVolume
  pods : List Pod
  nodes : Table String KubeNode
  csiNodes : List CSINode
  classes : List StorageClass
  quotas : List ResourceQuota
  storageNodes : Table (String × String) (List String)
  location : String → String → String → ℕ
  disks : Table DiskKey (Disk C)
  vms : Table (String × ℤ) VM
  vmByNode : KubeNode → Option (ℤ × String)
  vmByUUID : String → Option (ℤ × String)
  defaultClass : Option String
  clock : ℕ
  serial : ℕ
  time : ℕ

inductive ApiError where
  | notFound | alreadyExists | vmNotFound
  | other (msg : String)
  | task (msg : String)
  deriving DecidableEq, Repr

def ApiError.text : ApiError → String
  | .notFound => "not found"
  | .alreadyExists => "already exists"
  | .vmNotFound => "virtual machine not found"
  | .other msg => msg
  | .task msg => msg

/-- What the watch of an object delivers next. -/
inductive WatchEvent where
  | closed | deleted | modified | tick
  deriving DecidableEq, Repr

inductive CopyEndpoint where
  | builtin | csiCopy | proxmod
  deriving DecidableEq, Repr

inductive Phase where
  | pending | draining | moving | rewiring | completed | failed | skipped
  deriving DecidableEq, Repr

/-- Which statement of the source issues the call. The tags below name call
sites and have no effect on the outcome. -/
inductive PVCreation where
  | reservation | reReservation
  deriving DecidableEq, Repr

inductive PVDeletion where
  | oldPV | racing | outdated
  deriving DecidableEq, Repr

inductive ContentDeletion where
  | partialTarget | sourceReclaim
  deriving DecidableEq, Repr

inductive Api where
  | getPVC (ns name : String)
  | createPVC (pvc : PersistentVolumeClaim)
  | deletePVC (ns name : String)
  | patchPVCVolumeName (ns name volumeName : String)
  | getPV (name : String)
  | watchPV (name : String)
  | nextEvent (name : String)
  | listPVs
  | createPV (pv : PersistentVolume) (site : PVCreation)
  | deletePV (name : String) (site : PVDeletion)
  | patchPVAnnotations (name : String) (patch : List (String × Option String))
  | patchPVReclaimPolicy (name : String) (policy : ReclaimPolicy)
  | clearClaimRef (name : String)
  | listPods (ns : String)
  | deletePod (ns name : String)
  | getNode (name : String)
  | patchUnschedulable (name : String) (value : Bool)
  | listCSINodes
  | listStorageClasses
  | listResourceQuotas (ns : String)
  | nodesForStorage (region storage : String)
  | storageContent (region node storage : String)
  | deleteContent (region node storage disk : String) (site : ContentDeletion)
  | copyContent (endpoint : CopyEndpoint) (source : Volume) (node : String) (target : Volume)
  | vmConfig (region : String) (vmid : ℤ)
  | findVMByNode (node : KubeNode)
  | findVMByUUID (uuid : String)
  | listVMs (region : String)
  | createVM (region node : String) (vmid : ℤ) (name : String)
  | deleteVM (region node : String) (vmid : ℤ)
  | attachSlot (region node : String) (vmid : ℤ) (volid : String)
  | moveDisk (region node : String) (vmid : ℤ) (storage : String)
  | slotConfig (region node : String) (vmid : ℤ)

structure ContentItem where
  volid : String
  size : ℤ
  deriving DecidableEq, Repr

structure GuestEntry where
  qemu : Bool
  vmid : ℤ
  node : String
  name : String
  deriving DecidableEq, Repr

abbrev Answer : Api → Type
  | .getPVC _ _ => PersistentVolumeClaim
  | .getPV _ => PersistentVolume
  | .nextEvent _ => WatchEvent
  | .listPVs => List PersistentVolume
  | .listPods _ => List Pod
  | .getNode _ => KubeNode
  | .listCSINodes => List CSINode
  | .listStorageClasses => List StorageClass
  | .listResourceQuotas _ => List ResourceQuota
  | .nodesForStorage _ _ => List String
  | .storageContent _ _ _ => List ContentItem
  | .vmConfig _ _ => Table ℕ String
  | .findVMByNode _ => ℤ × String
  | .findVMByUUID _ => ℤ × String
  | .listVMs _ => List GuestEntry
  | .slotConfig _ _ _ => String
  | _ => Unit

inductive Call where
  | api (a : Api)
  | newUUID
  | now
  | phase (p : Phase)

abbrev Reply : Call → Type
  | .api a => Except ApiError (Answer a)
  | .newUUID => String
  | .now => ℕ
  | .phase _ => Unit

abbrev Act := Prog Call Reply

variable {C : Type}

namespace World

def empty : World C where
  pvcs := ∅
  pvs := ∅
  pods := []
  nodes := ∅
  csiNodes := []
  classes := []
  quotas := []
  storageNodes := ∅
  location := fun _ _ _ => 0
  disks := ∅
  vms := ∅
  vmByNode := fun _ => none
  vmByUUID := fun _ => none
  defaultClass := none
  clock := 0
  serial := 0
  time := 0

def key (w : World C) (v : Volume) : DiskKey := (w.location v.region v.node v.storage,v.disk)

def keyOn (w : World C) (v : Volume) (node : String) : DiskKey :=
  (w.location v.region node v.storage,v.disk)

def content (w : World C) (region node storage : String) : List ContentItem :=
  (w.disks.entries.filter (fun e => e.1.1 = w.location region node storage)).map
    (fun e => ⟨storage ++ ":" ++ e.1.2,e.2.size⟩)

def guests (w : World C) (region : String) : List GuestEntry :=
  (w.vms.entries.filter (fun e => e.1.1 = region)).map
    (fun e => ⟨e.2.qemu,e.1.2,e.2.node,e.2.name⟩)

def volidKey (w : World C) (region node value : String) : Option DiskKey :=
  (cut (firstPiece value ',') ':').map (fun p => (w.location region node p.1,p.2))

/-- Destroying a VM frees the volumes its config references whose name carries
its vmid; foreign volumes are dropped from the config and kept. -/
def ownedKeys (w : World C) (region : String) (vmid : ℤ) (vm : VM) : List DiskKey :=
  (values vm.scsi).filterMap (fun value =>
    (w.volidKey region vm.node value).filter (fun k =>
      decide ((newVolume region vm.node "" k.2).vmid = toString vmid)))

def eraseKeys (t : Table DiskKey (Disk C)) (ks : List DiskKey) : Table DiskKey (Disk C) :=
  ks.foldl (fun t k => t.erase k) t

def freshDisk (w : World C) (loc : ℕ) (vmid : ℤ) : Option String :=
  ((List.range (w.disks.entries.length+1)).map (fun n =>
    toString vmid ++ "/vm-" ++ toString vmid ++ "-disk-" ++ toString n ++ ".raw")).find?
      (fun name => decide ((loc,name) ∉ w.disks))

end World

def applyPatch (a : Annotations) (patch : List (String × Option String)) : Annotations :=
  patch.foldl (fun a p => match p.2 with
    | some v => a.insert p.1 v
    | none => a.erase p.1) a

end ProxmoxCSI.ClusterState
