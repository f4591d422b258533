import ProxmoxCSI.MigratorCalls
import ProxmoxCSI.VolumeReconciler

/-!
# The calls of the controller in direct mode

The controller acts on one Proxmox cluster per region. A node serves a storage
at a location; a storage the node does not have is reported by its text. A call
may fail before or after it took effect, and a copy may leave a target of any
size.
-/

set_option autoImplicit false

namespace ProxmoxCSI.DirectCalls
open CallProgram CallProgram.Prog CallSafety CallErrors TextScan VolumeHandle ClusterState

inductive Code where
  | invalidArgument | notFound | unavailable | internal | alreadyExists | failedPrecondition
  | resourceExhausted | permissionDenied | unauthenticated | outOfRange
  deriving DecidableEq, Repr

inductive ErrorKind where
  | plain | storageAbsent
  | status (code : Code)
  deriving DecidableEq, Repr

structure RpcError where
  kind : ErrorKind
  text : String
  deriving DecidableEq, Repr

def errorNotFound : String := "not found"

def plain (text : String) : RpcError := ⟨.plain,text⟩

def status (code : Code) (text : String) : RpcError := ⟨.status code,text⟩

def errStorageAbsent : RpcError := ⟨.storageAbsent,errorNotFound⟩

structure StorageResource where
  shared : Bool
  pluginType : String
  deriving DecidableEq, Repr

structure StorageConfig where
  type : String
  shared : Bool
  nodes : String
  deriving DecidableEq, Repr

inductive DirectCall where
  | proxmoxCluster (region : String)
  | nodeList (region : String)
  | nodesForStorage (region storage : String)
  | storageResource (region storage : String)
  | storageConfig (region storage : String)
  | storageStatus (region node storage : String)
  | storageContent (region node storage : String)
  | copyContent (endpoint : CopyEndpoint) (source : Volume) (node : String) (target : Volume)
  | createDisk (region : String) (vmid : ℤ) (node storage filename : String) (size : ℤ)
  | prepareReplication (region node name : String) (vmid : ℤ)
  | createReplication (vmid : ℤ) (vol : Volume) (schedule zones : String)

abbrev DirectAnswer : DirectCall → Type
  | .nodeList _ => List String
  | .nodesForStorage _ _ => List String
  | .storageResource _ _ => StorageResource
  | .storageConfig _ _ => StorageConfig
  | .storageContent _ _ _ => List ContentItem
  | .createDisk _ _ _ _ _ _ => String
  | .prepareReplication _ _ _ _ => ℤ
  | _ => Unit

abbrev DirectReply (c : DirectCall) : Type := Except RpcError (DirectAnswer c)

abbrev D := Fallible DirectCall DirectReply RpcError

def ask (c : DirectCall) : D (Except RpcError (DirectAnswer c)) := perform (issue c)

def need (c : DirectCall) (wrap : RpcError → RpcError) : D (DirectAnswer c) :=
  ExceptT.mk (.call c fun r : Except RpcError (DirectAnswer c) => .done (r.mapError wrap))

structure SiteDisk (C : Type) where
  size : ℤ
  content : C
  deriving DecidableEq, Repr

structure Site (C : Type) where
  regions : List String
  nodes : String → List String
  storageNodes : String → String → List String
  resources : Table (String × String) StorageResource
  configs : Table (String × String) StorageConfig
  location : String → String → String → Option ℕ
  disks : Table DiskKey (SiteDisk C)
  blank : C

variable {C : Type}

namespace Site

def keyOn (w : Site C) (v : Volume) (node : String) : Option DiskKey :=
  (w.location v.region node v.storage).map (fun loc => (loc,v.disk))

def diskOn (w : Site C) (v : Volume) (node : String) : Option (SiteDisk C) :=
  (w.keyOn v node).bind w.disks.lookup

def disk (w : Site C) (v : Volume) : Option (SiteDisk C) := w.diskOn v v.node

def content (w : Site C) (loc : ℕ) (storage : String) : List ContentItem :=
  (w.disks.entries.filter (fun e => e.1.1 = loc)).map (fun e => ⟨storage ++ ":" ++ e.1.2,e.2.size⟩)

end Site

def foundOr {α : Type} (e : RpcError) : Option α → Except RpcError α
  | some a => .ok a
  | none => .error e

def noSuchStorage (storage : String) : RpcError := plain ("No such storage: " ++ storage)

def allocatedDisk (w : Site C) (region storage : String) (vmid : ℤ) (filename : String) : String :=
  match w.resources.lookup (region,storage) with
  | some r => if VolumeReconciler.storageLevel r.pluginType = "file" then
      toString vmid ++ "/" ++ filename else filename
  | none => filename

def copyTo (w : Site C) (source : Volume) (node : String) (target : Volume) :
    Except RpcError Unit × Site C :=
  match w.disk source, w.keyOn target node with
  | some d, some k => if k ∈ w.disks then (.error (plain "target exists"),w)
      else (.ok (),{ w with disks := w.disks.insert k d })
  | _, _ => (.error (plain "no such volume"),w)

def createOn (w : Site C) (region node storage disk : String) (size : ℤ) :
    Except RpcError String × Site C :=
  match w.location region node storage with
  | none => (.error (noSuchStorage storage),w)
  | some loc => if (loc,disk) ∈ w.disks then (.error (plain "disk exists"),w)
      else (.ok (storage ++ ":" ++ disk),{ w with disks := w.disks.insert (loc,disk) ⟨size,w.blank⟩ })

def serve (w : Site C) : (c : DirectCall) → DirectReply c × Site C
  | .proxmoxCluster region => (if region ∈ w.regions then .ok ()
      else .error (plain ("proxmox cluster " ++ region ++ " not found")),w)
  | .nodeList region => (.ok (w.nodes region),w)
  | .nodesForStorage region storage => (.ok (w.storageNodes region storage),w)
  | .storageResource region storage =>
      (foundOr (noSuchStorage storage) (w.resources.lookup (region,storage)),w)
  | .storageConfig region storage =>
      (foundOr (noSuchStorage storage) (w.configs.lookup (region,storage)),w)
  | .storageStatus region node storage =>
      ((foundOr (noSuchStorage storage) (w.location region node storage)).map (fun _ => ()),w)
  | .storageContent region node storage =>
      ((foundOr (noSuchStorage storage) (w.location region node storage)).map
        (fun loc => w.content loc storage),w)
  | .copyContent _ source node target => copyTo w source node target
  | .createDisk region vmid node storage filename size =>
      createOn w region node storage (allocatedDisk w region storage vmid filename) size
  | .prepareReplication _ _ _ vmid => (.ok (vmid+1),w)
  | .createReplication _ _ _ _ => (.ok (),w)

def Transient (e : RpcError) : Prop :=
  e.kind = .plain ∧ e.text ≠ errorNotFound ∧ contains e.text "No such storage" = false

inductive DirectOutcome : (c : DirectCall) → Site C → DirectReply c → Site C → Prop
  | served (c : DirectCall) (w : Site C) : DirectOutcome c w (serve w c).1 (serve w c).2
  | failed (c : DirectCall) (w : Site C) (e : RpcError) (he : Transient e) :
      DirectOutcome c w (.error e) w
  | lost (c : DirectCall) (w : Site C) (e : RpcError) (he : Transient e) :
      DirectOutcome c w (.error e) (serve w c).2
  | truncated (endpoint : CopyEndpoint) (source target : Volume) (node : String) (w : Site C)
      (k : DiskKey) (d : SiteDisk C) (e : RpcError) (he : Transient e) (hd : 0 < d.size)
      (hk : w.keyOn target node = some k) (hn : k ∉ w.disks) :
      DirectOutcome (.copyContent endpoint source node target) w (.error e)
        { w with disks := w.disks.insert k d }

def site (env : History DirectCall DirectReply (Site C) → Site C → Site C → Prop) :
    Service DirectCall DirectReply (Site C) := ⟨DirectOutcome,env⟩

section Disks

def DirectCall.keepsDisks : DirectCall → Bool
  | .copyContent _ _ _ _ | .createDisk _ _ _ _ _ _ => false
  | _ => true

variable {w w' : Site C}

theorem serve_keepsDisks {c : DirectCall} (h : c.keepsDisks) :
    (serve w c).2.disks = w.disks ∧ (serve w c).2.location = w.location := by
  cases c with
  | copyContent => cases h
  | createDisk => cases h
  | _ => exact ⟨rfl,rfl⟩

theorem outcome_keepsDisks {c : DirectCall} {r : DirectReply c} (h : c.keepsDisks)
    (ho : DirectOutcome c w r w') : w'.disks = w.disks ∧ w'.location = w.location := by
  cases ho with
  | served c => exact serve_keepsDisks h
  | failed => exact ⟨rfl,rfl⟩
  | lost c => exact serve_keepsDisks h
  | truncated => cases h

/-- A copy leaves what is there alone and adds at most the source's disk. -/
theorem copyTo_cases (source target : Volume) (node : String) :
    (copyTo w source node target).2 = w ∨ ∃ d k, w.disk source = some d ∧ k ∉ w.disks ∧
      (copyTo w source node target).2 = { w with disks := w.disks.insert k d } := by
  unfold copyTo
  split
  · rename_i d k hd hk
    split
    · exact .inl rfl
    · rename_i hn
      exact .inr ⟨d,k,hd,hn,rfl⟩
  · exact .inl rfl

end Disks

end ProxmoxCSI.DirectCalls
