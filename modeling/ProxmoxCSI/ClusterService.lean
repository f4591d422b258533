import ProxmoxCSI.ClusterState
import ProxmoxCSI.CallErrors

/-!
# What an API call does

`serve` is the effect of a call that reaches its server and is answered. A call
may also fail without effect, take effect and lose its answer, or, for a copy,
break off and leave a truncated target. Errors carry the texts of the source.
-/

set_option autoImplicit false

namespace ProxmoxCSI.ClusterService
open CallProgram CallProgram.Prog CallSafety CallErrors VolumeHandle ClusterState TextScan

variable {C : Type}

def found {α : Type} : Option α → Except ApiError α
  | some a => .ok a
  | none => .error .notFound

def amend (w : World C) (name : String) (f : PersistentVolume → PersistentVolume) :
    Except ApiError Unit × World C :=
  match w.pvs.lookup name with
  | none => (.error .notFound,w)
  | some pv => (.ok (),{ w with pvs := w.pvs.insert name (f pv) })

def plainVolid (volid : String) : Bool :=
  decide (volid.toList.count ':' = 1 ∧ ',' ∉ volid.toList)

def helperSlot : ℕ := 0

def hosted (w : World C) (region node : String) (vmid : ℤ) : Option VM :=
  (w.vms.lookup (region,vmid)).filter (fun vm => decide (vm.node = node))

def setSlot (w : World C) (region : String) (vmid : ℤ) (vm : VM) (volid : String) : World C :=
  { w with vms := w.vms.insert (region,vmid) { vm with scsi := vm.scsi.insert helperSlot volid } }

def convertSlot (w : World C) (region node : String) (vmid : ℤ) (storage : String) :
    Except ApiError Unit × World C :=
  match hosted w region node vmid with
  | none => (.error (.other "VM does not exist"),w)
  | some vm =>
    match ((vm.scsi.lookup helperSlot).bind (w.volidKey region node)).bind w.disks.lookup,
        w.freshDisk (w.location region node storage) vmid with
    | some d, some name =>
      (.ok (),setSlot { w with disks := w.disks.insert (w.location region node storage,name) d }
        region vmid vm (storage ++ ":" ++ name))
    | _, _ => (.error (.other "no such disk"),w)

def copyDisk (w : World C) (source : Volume) (node : String) (target : Volume) :
    Except ApiError Unit × World C :=
  match w.disks.lookup (w.key source), w.disks.lookup (w.keyOn target node) with
  | some d, none => (.ok (),{ w with disks := w.disks.insert (w.keyOn target node) d })
  | none, _ => (.error (.other "volume does not exist"),w)
  | _, some _ => (.error (.task "target volume already exists"),w)

def createdPVC (w : World C) (pvc : PersistentVolumeClaim) : PersistentVolumeClaim :=
  { pvc with
    uid := "uid-" ++ toString w.serial
    storageClassName := pvc.storageClassName.or w.defaultClass }

def patchVolumeName (w : World C) (ns name volumeName : String) : Except ApiError Unit × World C :=
  match w.pvcs.lookup (ns,name) with
  | none => (.error .notFound,w)
  | some pvc =>
    if pvc.volumeName = "" ∨ pvc.volumeName = volumeName then
      (.ok (),{ w with pvcs := w.pvcs.insert (ns,name) { pvc with volumeName := volumeName } })
    else (.error (.other "spec is immutable after creation"),w)

def serve (w : World C) : (a : Api) → Except ApiError (Answer a) × World C
  | .getPVC ns name => (found (w.pvcs.lookup (ns,name)),w)
  | .createPVC pvc => match w.pvcs.lookup (pvc.ns,pvc.name) with
    | some _ => (.error .alreadyExists,w)
    | none => (.ok (),{ w with
        pvcs := w.pvcs.insert (pvc.ns,pvc.name) (createdPVC w pvc)
        serial := w.serial+1 })
  | .deletePVC ns name => match w.pvcs.lookup (ns,name) with
    | none => (.error .notFound,w)
    | some _ => (.ok (),{ w with pvcs := w.pvcs.erase (ns,name) })
  | .patchPVCVolumeName ns name volumeName => patchVolumeName w ns name volumeName
  | .getPV name => (found (w.pvs.lookup name),w)
  | .watchPV _ => (.ok (),w)
  | .nextEvent name => (.ok (if (w.pvs.lookup name).isSome then .tick else .deleted),w)
  | .listPVs => (.ok (values w.pvs),w)
  | .createPV pv _ => match w.pvs.lookup pv.name with
    | some _ => (.error .alreadyExists,w)
    | none => (.ok (),{ w with pvs := w.pvs.insert pv.name { pv with created := w.time } })
  | .deletePV name _ => match w.pvs.lookup name with
    | none => (.error .notFound,w)
    | some _ => (.ok (),{ w with pvs := w.pvs.erase name })
  | .patchPVAnnotations name patch =>
      amend w name (fun pv => { pv with annotations := applyPatch pv.annotations patch })
  | .patchPVReclaimPolicy name policy =>
      amend w name (fun pv => { pv with reclaimPolicy := policy })
  | .clearClaimRef name => amend w name (fun pv => { pv with claimRef := none })
  | .listPods ns => (.ok (w.pods.filter (fun p => p.ns = ns)),w)
  | .deletePod ns name => match w.pods.find? (fun p => p.ns = ns ∧ p.name = name) with
    | none => (.error .notFound,w)
    | some _ => (.ok (),{ w with pods := w.pods.filter (fun p => ¬(p.ns = ns ∧ p.name = name)) })
  | .getNode name => (found (w.nodes.lookup name),w)
  | .patchUnschedulable name value => match w.nodes.lookup name with
    | none => (.error .notFound,w)
    | some n => (.ok (),{ w with nodes := w.nodes.insert name { n with unschedulable := value } })
  | .listCSINodes => (.ok w.csiNodes,w)
  | .listStorageClasses => (.ok w.classes,w)
  | .listResourceQuotas ns => (.ok (w.quotas.filter (fun q => q.ns = ns)),w)
  | .nodesForStorage region storage => (found (w.storageNodes.lookup (region,storage)),w)
  | .storageContent region node storage => (.ok (w.content region node storage),w)
  | .deleteContent region node storage disk _ =>
    match w.disks.lookup (w.location region node storage,disk) with
    | none => (.error (.other "volume does not exist"),w)
    | some _ => (.ok (),{ w with disks := w.disks.erase (w.location region node storage,disk) })
  | .copyContent _ source node target => copyDisk w source node target
  | .vmConfig region vmid => match w.vms.lookup (region,vmid) with
    | none => (.error .vmNotFound,w)
    | some vm => (.ok vm.scsi,w)
  | .findVMByNode node => (found (w.vmByNode node),w)
  | .findVMByUUID uuid => (found (w.vmByUUID uuid),w)
  | .listVMs region => (.ok (w.guests region),w)
  | .createVM region node vmid name => match w.vms.lookup (region,vmid) with
    | some _ => (.error (.other "VM already exists"),w)
    | none => (.ok (),{ w with vms := w.vms.insert (region,vmid) ⟨node,name,true,∅⟩ })
  | .deleteVM region node vmid => match hosted w region node vmid with
    | none => (.error (.other "VM does not exist"),w)
    | some vm => (.ok (),{ w with
        vms := w.vms.erase (region,vmid)
        disks := World.eraseKeys w.disks (w.ownedKeys region vmid vm) })
  | .attachSlot region node vmid volid => match hosted w region node vmid with
    | none => (.error (.other "VM does not exist"),w)
    | some vm =>
      if plainVolid volid then (.ok (),setSlot w region vmid vm volid)
      else (.error (.other "unable to parse volume ID"),w)
  | .moveDisk region node vmid storage => convertSlot w region node vmid storage
  | .slotConfig region node vmid => match hosted w region node vmid with
    | none => (.error (.other "VM does not exist"),w)
    | some vm => (.ok ((vm.scsi.lookup helperSlot).getD ""),w)

def Transient : ApiError → Prop
  | .other _ => True
  | .task _ => True
  | _ => False

inductive ApiOutcome : (a : Api) → World C → Except ApiError (Answer a) → World C → Prop
  | served (a : Api) (w : World C) : ApiOutcome a w (serve w a).1 (serve w a).2
  | failed (a : Api) (w : World C) (e : ApiError) (he : Transient e) : ApiOutcome a w (.error e) w
  | lost (a : Api) (w : World C) (e : ApiError) (he : Transient e) :
      ApiOutcome a w (.error e) (serve w a).2
  | truncated (endpoint : CopyEndpoint) (source target : Volume) (node : String) (w : World C)
      (d : Disk C) (e : ApiError) (he : Transient e) (hs : d.stamp = w.clock+1)
      (hn : w.disks.lookup (w.keyOn target node) = none) :
      ApiOutcome (.copyContent endpoint source node target) w (.error e)
        { w with disks := w.disks.insert (w.keyOn target node) d, clock := w.clock+1 }
  | watched (name : String) (w : World C) (e : WatchEvent) (he : e ≠ .deleted) :
      ApiOutcome (.nextEvent name) w (.ok e) w

inductive CallOutcome : (c : Call) → World C → Reply c → World C → Prop
  | api {a : Api} {w w' : World C} {r : Except ApiError (Answer a)} (h : ApiOutcome a w r w') :
      CallOutcome (.api a) w r w'
  | newUUID (w : World C) (s : String) : CallOutcome .newUUID w s w
  | now (w : World C) : CallOutcome .now w w.time w
  | phase (w : World C) (p : Phase) : CallOutcome (.phase p) w () w

def cluster (env : History Call Reply (World C) → World C → World C → Prop) :
    Service Call Reply (World C) := ⟨CallOutcome,env⟩

def Api.readOnly : Api → Bool
  | .getPVC _ _ | .getPV _ | .watchPV _ | .nextEvent _ | .listPVs | .listPods _ | .getNode _
  | .listCSINodes | .listStorageClasses | .listResourceQuotas _ | .nodesForStorage _ _
  | .storageContent _ _ _ | .vmConfig _ _ | .findVMByNode _ | .findVMByUUID _ | .listVMs _
  | .slotConfig _ _ _ => true
  | _ => false

variable {w w' : World C} {a : Api} {r : Except ApiError (Answer a)}

theorem serve_readOnly (w : World C) (h : Api.readOnly a) : (serve w a).2 = w := by
  cases a with
  | vmConfig region vmid => rw [serve]; split <;> rfl
  | slotConfig region node vmid => rw [serve]; split <;> rfl
  | _ => first | rfl | cases h

theorem outcome_readOnly (ha : Api.readOnly a) (h : ApiOutcome a w r w') : w' = w := by
  cases h with
  | served => exact serve_readOnly w ha
  | failed => rfl
  | lost => exact serve_readOnly w ha
  | truncated => cases ha
  | watched => rfl

theorem outcome_ok (ha : ∀ n, a ≠ .nextEvent n) {x : Answer a} (h : ApiOutcome a w (.ok x) w') :
    serve w a = (.ok x,w') := by
  generalize hr : (Except.ok x : Except ApiError (Answer a)) = r at h
  cases h with
  | served => rfl
  | failed => cases hr
  | lost => cases hr
  | truncated => cases hr
  | watched name => exact absurd rfl (ha name)

theorem serve_error (w : World C) (a : Api) {e : ApiError} (h : (serve w a).1 = .error e) :
    (serve w a).2 = w := by
  revert h
  cases a <;> simp only [serve, amend, patchVolumeName, copyDisk, convertSlot] <;>
    repeat' (first | exact fun _ => trivial | exact fun _ => rfl | (intro h; cases h) | split)

theorem outcome_effect (ha : ∀ e s n t, a ≠ .copyContent e s n t) (h : ApiOutcome a w r w') :
    w' = w ∨ w' = (serve w a).2 := by
  cases h with
  | served => exact .inr rfl
  | failed => exact .inl rfl
  | lost => exact .inr rfl
  | truncated e s t n => exact absurd rfl (ha e s n t)
  | watched => exact .inl rfl

/-- A call other than a copy has no effect, or that of a call that is served. -/
theorem outcome_cases (ha : ∀ e s n t, a ≠ .copyContent e s n t) (h : ApiOutcome a w r w') :
    w' = w ∨ ∃ x, serve w a = (.ok x,w') := by
  rcases outcome_effect ha h with rfl | rfl
  · exact .inl rfl
  · cases hs : (serve w a).1 with
    | error e => exact .inl (serve_error w a hs)
    | ok x => exact .inr ⟨x,Prod.ext hs rfl⟩

def Api.keepsDisks : Api → Bool
  | .deleteContent _ _ _ _ _ | .copyContent _ _ _ _ | .deleteVM _ _ _ | .moveDisk _ _ _ _ => false
  | _ => true

theorem serve_location (w : World C) (a : Api) : (serve w a).2.location = w.location := by
  cases a <;> simp only [serve, amend, patchVolumeName, copyDisk, convertSlot] <;> repeat'
    (first | rfl | split)

theorem serve_clock (w : World C) (a : Api) : (serve w a).2.clock = w.clock := by
  cases a <;> simp only [serve, amend, patchVolumeName, copyDisk, convertSlot] <;> repeat'
    (first | rfl | split)

theorem serve_keepsDisks (w : World C) (h : Api.keepsDisks a) : (serve w a).2.disks = w.disks := by
  cases a <;> first
    | exact Bool.noConfusion h
    | (simp only [serve, amend, patchVolumeName] <;> repeat' (first | rfl | split))

theorem outcome_location (h : ApiOutcome a w r w') : w'.location = w.location := by
  cases h with
  | served => exact serve_location w a
  | failed => rfl
  | lost => exact serve_location w a
  | truncated => rfl
  | watched => rfl

theorem outcome_keepsDisks (ha : Api.keepsDisks a) (h : ApiOutcome a w r w') :
    w'.disks = w.disks := by
  cases h with
  | served => exact serve_keepsDisks w ha
  | failed => rfl
  | lost => exact serve_keepsDisks w ha
  | truncated => cases ha
  | watched => rfl

end ProxmoxCSI.ClusterService
