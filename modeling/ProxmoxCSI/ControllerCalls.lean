import ProxmoxCSI.MigrateProgram
import ProxmoxCSI.TargetSelection

/-!
# The calls of the migration controller

The controller reads more of the objects than the migrator does: the labels and
taints of nodes, the owners of claims, the age of classes. It writes annotations
of claims and nodes, and events.
-/

set_option autoImplicit false

namespace ProxmoxCSI.ControllerCalls
open CallProgram CallProgram.Prog CallSafety CallErrors VolumeHandle ClusterState
open ClusterService MigratorCalls MigrationAnnotations TargetSelection

inductive TaintEffect where
  | noSchedule | preferNoSchedule | noExecute
  deriving DecidableEq, Repr

structure OwnerReference where
  apiVersion : String
  kind : String
  name : String
  controller : Option Bool
  deriving DecidableEq, Repr

structure ClaimObject where
  pvc : PersistentVolumeClaim
  owners : List OwnerReference

structure VolumeObject where
  pv : PersistentVolume
  refKind : String

structure NodeObject where
  node : KubeNode
  labels : Table String String
  taints : List TaintEffect

/-- What only the controller reads, by the names of the objects. -/
structure Surroundings where
  labels : String → Table String String
  taints : String → List TaintEffect
  owners : String → String → List OwnerReference
  refKind : String → String
  defaultMark : String → String
  classCreated : String → ℕ
  capacity : String → String → String → Option (ℤ × ℤ)

structure Realm (C : Type) where
  world : World C
  side : Surroundings

inductive Query where
  | migrator (a : Api)
  | getClaim (ns name : String)
  | patchClaim (ns name : String) (patch : Patch)
  | listVolumes
  | getNode (name : String)
  | listNodes
  | patchNode (name : String) (patch : Patch)
  | listClasses
  | storageStatus (region node storage : String)

abbrev Found : Query → Type
  | .migrator a => Answer a
  | .getClaim _ _ => ClaimObject
  | .listVolumes => List VolumeObject
  | .getNode _ => NodeObject
  | .listNodes => List NodeObject
  | .listClasses => List ClassObject
  | .storageStatus _ _ _ => ℤ × ℤ
  | _ => Unit

inductive EventType where
  | normal | warning
  deriving DecidableEq, Repr

inductive Subject where
  | claim (ns name : String)
  | node (name : String)
  deriving DecidableEq, Repr

/-- An event keeps the pieces its message is put together from. -/
inductive Duty where
  | api (q : Query)
  | newUUID
  | now
  | event (subject : Subject) (type : EventType) (reason : String) (message : List String)

abbrev DutyReply : Duty → Type
  | .api q => Except ApiError (Found q)
  | .newUUID => String
  | .now => ℕ
  | _ => Unit

abbrev R := Fallible Duty DutyReply GoError

section Service

variable {C : Type}

namespace Realm

def claimObject (w : Realm C) (pvc : PersistentVolumeClaim) : ClaimObject :=
  ⟨pvc,w.side.owners pvc.ns pvc.name⟩

def volumeObject (w : Realm C) (pv : PersistentVolume) : VolumeObject := ⟨pv,w.side.refKind pv.name⟩

def nodeObject (w : Realm C) (n : KubeNode) : NodeObject :=
  ⟨n,w.side.labels n.name,w.side.taints n.name⟩

def classObject (w : Realm C) (sc : StorageClass) : ClassObject :=
  ⟨sc,w.side.defaultMark sc.name,w.side.classCreated sc.name⟩

end Realm

def annotateClaim (w : World C) (ns name : String) (patch : Patch) : Except ApiError Unit × World C :=
  match w.pvcs.lookup (ns,name) with
  | none => (.error .notFound,w)
  | some pvc =>
    let pvc := { pvc with annotations := applyPatch pvc.annotations patch }
    (.ok (),{ w with pvcs := w.pvcs.insert (ns,name) pvc })

def annotateNode (w : World C) (name : String) (patch : Patch) : Except ApiError Unit × World C :=
  match w.nodes.lookup name with
  | none => (.error .notFound,w)
  | some n =>
    let n := { n with annotations := applyPatch n.annotations patch }
    (.ok (),{ w with nodes := w.nodes.insert name n })

def answer (w : Realm C) : (q : Query) → Except ApiError (Found q) × Realm C
  | .migrator a => ((serve w.world a).1,{ w with world := (serve w.world a).2 })
  | .getClaim ns name => ((found (w.world.pvcs.lookup (ns,name))).map w.claimObject,w)
  | .patchClaim ns name patch =>
      ((annotateClaim w.world ns name patch).1,
        { w with world := (annotateClaim w.world ns name patch).2 })
  | .listVolumes => (.ok ((values w.world.pvs).map w.volumeObject),w)
  | .getNode name => ((found (w.world.nodes.lookup name)).map w.nodeObject,w)
  | .listNodes => (.ok ((values w.world.nodes).map w.nodeObject),w)
  | .patchNode name patch =>
      ((annotateNode w.world name patch).1,{ w with world := (annotateNode w.world name patch).2 })
  | .listClasses => (.ok (w.world.classes.map w.classObject),w)
  | .storageStatus region node storage => (found (w.side.capacity region node storage),w)

/-- A request of the controller is served, fails, or takes effect and loses its
answer; a request of the migrator has the outcomes it has there. -/
inductive QueryOutcome : (q : Query) → Realm C → Except ApiError (Found q) → Realm C → Prop
  | served (q : Query) (w : Realm C) : QueryOutcome q w (answer w q).1 (answer w q).2
  | failed (q : Query) (w : Realm C) (e : ApiError) (he : Transient e) : QueryOutcome q w (.error e) w
  | lost (q : Query) (w : Realm C) (e : ApiError) (he : Transient e) :
      QueryOutcome q w (.error e) (answer w q).2
  | migrator {a : Api} {w : Realm C} {r : Except ApiError (Answer a)} {b : World C}
      (h : ApiOutcome a w.world r b) : QueryOutcome (.migrator a) w r { w with world := b }

inductive DutyOutcome : (d : Duty) → Realm C → DutyReply d → Realm C → Prop
  | api {q : Query} {w w' : Realm C} {r : Except ApiError (Found q)} (h : QueryOutcome q w r w') :
      DutyOutcome (.api q) w r w'
  | newUUID (w : Realm C) (s : String) : DutyOutcome .newUUID w s w
  | now (w : Realm C) : DutyOutcome .now w w.world.time w
  | event (w : Realm C) (subject : Subject) (type : EventType) (reason : String)
      (message : List String) :
      DutyOutcome (.event subject type reason message) w () w

def controller (env : History Duty DutyReply (Realm C) → Realm C → Realm C → Prop) :
    Service Duty DutyReply (Realm C) := ⟨DutyOutcome,env⟩

end Service

section Wrappers

def inquire (q : Query) : R (Except ApiError (Found q)) := perform (issue (Duty.api q))

def obtainOf (q : Query) (wrap : ApiError → GoError) : R (Found q) :=
  ExceptT.mk (.call (.api q) fun r : Except ApiError (Found q) => .done (r.mapError wrap))

def plainError : ApiError → GoError := apiError ""

def unlessMissing (q : Query) : R Unit := do
  match ← inquire q with
  | .ok _ => pure ()
  | .error e => if e = .notFound then pure () else throw (plainError e)

def record (subject : Subject) (type : EventType) (reason : String) (message : List String) :
    R Unit :=
  perform (issue (Duty.event subject type reason message))

def lookUp (q : Query) : R (Option (Found q)) := do
  match ← inquire q with
  | .ok x => pure (some x)
  | .error e => if e = .notFound then pure none else throw (plainError e)

def patchPVCAnnotations (ns name : String) (annotations : Patch) : R Unit := do
  match ← lookUp (.getClaim ns name) with
  | none => pure ()
  | some current =>
    unlessMissing (.patchClaim ns name (normalizeLegacy current.pvc.annotations annotations))

def patchNodeAnnotations (name : String) (annotations : Patch) : R Unit := do
  match ← lookUp (.getNode name) with
  | none => pure ()
  | some current =>
    unlessMissing (.patchNode name (normalizeLegacy current.node.annotations annotations))

end Wrappers

section Topology

def firstLabel (labels : Table String String) : List String → String
  | [] => ""
  | key::keys => if (labels.lookup key).getD "" ≠ "" then (labels.lookup key).getD ""
      else firstLabel labels keys

def proxmoxTopology : String := "topology.proxmox.crunchymonkies.com"

def proxmoxCCMTopology : String := "topology.proxmox.sinextra.dev"

def regionLabels : List String :=
  [proxmoxTopology ++ "/region",proxmoxCCMTopology ++ "/region","topology.kubernetes.io/region"]

def nodeLabels : List String :=
  [proxmoxTopology ++ "/node",proxmoxCCMTopology ++ "/node","topology.kubernetes.io/zone"]

def getNodeTopology (labels : Table String String) : String × String :=
  (firstLabel labels regionLabels,firstLabel labels nodeLabels)

end Topology

section Candidates

def zoneCapacity (region storageID zone : String) : R ZoneCapacity := do
  let storage ← obtainOf (.storageStatus region zone storageID)
    (apiError ("failed to get storage status for " ++ storageID ++ " on " ++ zone ++ ": "))
  pure ⟨zone,storage.1,storage.2⟩

def zoneStatuses (region storageID : String) : List String → R (List ZoneCapacity)
  | [] => pure []
  | zone::zones => do
    let c ← zoneCapacity region storageID zone
    let rest ← zoneStatuses region storageID zones
    pure (c::rest)

def zoneCapacities (region storageID : String) : R (Option (List ZoneCapacity)) := do
  match ← inquire (.migrator (.nodesForStorage region storageID)) with
  | .error .notFound => pure none
  | .error e => throw (apiError ("failed to get nodes for storage " ++ storageID ++ ": ") e)
  | .ok zones => do
    let cs ← zoneStatuses region storageID zones
    pure (some cs)

def gatherCapacities (region : String) : List String → Table String (List ZoneCapacity) →
    R (Table String (List ZoneCapacity))
  | [], t => pure t
  | storage::storages, t => do
    match ← zoneCapacities region storage with
    | none => gatherCapacities region storages t
    | some zones => gatherCapacities region storages (t.insert storage zones)

def blessedStorages (sourceStorage : String) : Except ApiError (List ClassObject) →
    List String × String
  | .error _ => ([sourceStorage],"")
  | .ok scs => blessedStoragesFromClasses scs [sourceStorage]

def gatherStorageCandidates (region sourceStorage : String) : R StorageCandidates := do
  let scs ← inquire .listClasses
  let blessed := blessedStorages sourceStorage scs
  let capacities ← gatherCapacities region blessed.1 ∅
  pure ⟨capacities,blessed.2⟩

end Candidates

end ProxmoxCSI.ControllerCalls
