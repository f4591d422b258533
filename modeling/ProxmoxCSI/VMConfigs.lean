import ProxmoxCSI.AttachedSlots
import ProxmoxCSI.ClusterState
import ProxmoxCSI.CallSessions
import ProxmoxCSI.CallSchedule

/-!
# The configurations of the VMs

A VM of a region has at most one configuration, and a call on it reads or writes
one slot. A configuration is enumerated in any order; a write that is reported
as failed may have taken effect.
-/

set_option autoImplicit false

namespace ProxmoxCSI.VMConfigs
open CallProgram CallProgram.Prog CallSafety CallErrors CallTriples CallSessions CallSchedule
open TextScan VolumeHandle ClusterState AttachedSlots

abbrev VMs := Table (String × ℤ) Slots

def slotOf (name : String) : Option (Fin 31) := (List.finRange 31).find? (fun n => device n = name)

def configured (vms : VMs) (region : String) : VMCall → VMs
  | .getVMConfig _ => vms
  | .config id name value => match vms.lookup (region,id), slotOf name with
    | some s, some n => vms.insert (region,id) (s.insert n value)
    | _, _ => vms
  | .unlinkDisk id dev => match vms.lookup (region,id), slotOf dev with
    | some s, some n => vms.insert (region,id) (s.erase n)
    | _, _ => vms

/-- A configuration is enumerated in any order; a missing VM is reported as
such, and only a missing one. -/
inductive VMOutcome (region : String) : (c : VMCall) → VMs → VMReply c → VMs → Prop
  | read (id : ℤ) (vms : VMs) (s : Slots) (order : List (String × String))
      (hs : vms.lookup (region,id) = some s) (ho : order.Perm (mergeSCSIs s)) :
      VMOutcome region (.getVMConfig id) vms (.ok order) vms
  | absent (id : ℤ) (vms : VMs) (hs : vms.lookup (region,id) = none) :
      VMOutcome region (.getVMConfig id) vms (.error .notFound) vms
  | unread (id : ℤ) (vms : VMs) (e : VMError) (he : e ≠ .notFound) :
      VMOutcome region (.getVMConfig id) vms (.error e) vms
  | write (id : ℤ) (name value : String) (vms : VMs) :
      VMOutcome region (.config id name value) vms (.ok ())
        (configured vms region (.config id name value))
  | writeFailed (id : ℤ) (name value : String) (vms vms' : VMs) (e : VMError)
      (hw : vms' = vms ∨ vms' = configured vms region (.config id name value)) :
      VMOutcome region (.config id name value) vms (.error e) vms'
  | unlink (id : ℤ) (dev : String) (vms : VMs) :
      VMOutcome region (.unlinkDisk id dev) vms (.ok ())
        (configured vms region (.unlinkDisk id dev))
  | unlinkFailed (id : ℤ) (dev : String) (vms vms' : VMs) (e : VMError)
      (hw : vms' = vms ∨ vms' = configured vms region (.unlinkDisk id dev)) :
      VMOutcome region (.unlinkDisk id dev) vms (.error e) vms'

def machines (region : String) : Service VMCall VMReply VMs := ⟨VMOutcome region,fun _ _ _ => False⟩

theorem machines_calm (region : String) : Calm (machines region) := fun _ _ _ he => he

def readConfig (vms : VMs) (region : String) (id : ℤ) : Except VMError (List (String × String)) :=
  match vms.lookup (region,id) with
  | none => .error .notFound
  | some s => .ok (mergeSCSIs s)

def answerVM (vms : VMs) (region : String) : (c : VMCall) → VMReply c × VMs
  | .getVMConfig id => (readConfig vms region id,vms)
  | .config id name value => (.ok (),configured vms region (.config id name value))
  | .unlinkDisk id dev => (.ok (),configured vms region (.unlinkDisk id dev))

section Detach

variable {vol : Volume} {region : String} {id : ℤ}

theorem unheld_of_lookup {s : Slots} {order : List (String × String)}
    (ho : order.Perm (mergeSCSIs s)) (hm : volumeMatch vol ≠ "")
    (ha : (isVolumeAttached order (volumeMatch vol)).2 = false) (n : Fin 31) (v : String)
    (hh : Holds s n v) : contains v (volumeMatch vol) = false := by
  by_contra hc
  have hmem : (device n,v) ∈ order := ho.symm.subset (mem_mergeSCSIs.mpr ⟨n,v,rfl,hh⟩)
  rw [isVolumeAttached, if_neg hm] at ha
  cases hf : order.find? (fun d => contains d.2 (volumeMatch vol)) with
  | none => exact List.find?_eq_none.mp hf _ hmem (by simpa using hc)
  | some x =>
    obtain ⟨n',v',rfl,_⟩ := mem_mergeSCSIs.mp (ho.subset (List.mem_of_find?_eq_some hf))
    rw [hf] at ha
    simp only [lunOf_device] at ha
    cases ha

end Detach

end ProxmoxCSI.VMConfigs
