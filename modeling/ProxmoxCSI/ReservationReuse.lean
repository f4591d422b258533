import ProxmoxCSI.RewireTriples

/-!
# Reusing a reservation of an earlier attempt

A reservation that an interrupted attempt left behind is taken by its name, and
the wait reasons about the volume that was computed for this attempt. Both agree
when the classes of the cluster still give the reservation the class it was
stored with. Then the wait ends only with a volume of the class that the claim
carries, as long as nobody writes a claim that names a volume of another class.
-/

set_option autoImplicit false

namespace ProxmoxCSI.ReservationReuse
open CallProgram CallProgram.Prog CallSafety CallErrors CallTriples VolumeHandle ClusterState
open ClusterService MigratorCalls RewireProgram MigratorRules MigrateFootprint RewireEffects
open RewireGuard

variable {C : Type} {ns name : String}

/-- What the wait knows about a reservation. -/
structure Alike (p p' : PersistentVolume) : Prop where
  handle : volumeHandleOf p' = volumeHandleOf p
  storageClass : p'.storageClassName = p.storageClassName
  affinity : p'.nodeAffinity = p.nodeAffinity

theorem alike_trans {p q r : PersistentVolume} (h : Alike p q) (k : Alike q r) : Alike p r where
  handle := k.handle.trans h.handle
  storageClass := k.storageClass.trans h.storageClass
  affinity := k.affinity.trans h.affinity

def Mirrors (v : PersistentVolume) : Assertion Call Reply (World C) :=
  fun _ w => ∃ p, w.pvs.lookup v.name = some p ∧ Alike v p

/-- No claim of this name names a volume before the run creates it. -/
def Fresh (ns name : String) (h : Hist C) : Prop :=
  ∀ q site r w w', (⟨.api (.createPV q site),r,w,w'⟩ : Event Call Reply (World C)) ∈ h →
    ∀ c, w.pvcs.lookup (ns,name) = some c → c.volumeName ≠ q.name

/-- The stored volume has the class of every claim that names it. -/
structure Held (ns name : String) (v : PersistentVolume) (h : Hist C) (w : World C) : Prop where
  stored : Mirrors v h w
  named : v.name ≠ ""
  classed : Fresh ns name h → ∀ c, w.pvcs.lookup (ns,name) = some c → c.volumeName = v.name →
    pvcClassName c = v.storageClassName

section Points

variable {env : Hist C → World C → World C → Prop} {A : Assertion Call Reply (World C)}
  {B : Hist C → Prop} {h : Hist C} {w w' : World C} {e : Event Call Reply (World C)}

def Free : Assertion Call Reply (World C) := fun _ _ => True

def Point (A : Assertion Call Reply (World C)) (B : Hist C → Prop) : Assertion Call Reply (World C) :=
  fun h w => WellNamed w ∧ A h w ∧ B h

end Points

section Plan

def Plain (c : Call) : Prop := Reads c ∧ c ≠ .api .listStorageClasses

variable {env : Hist C → World C → World C → Prop} {A : Assertion Call Reply (World C)}
  {B : Hist C → Prop}

def Stores (handle n : String) : Assertion Call Reply (World C) :=
  fun _ w => ∃ p, w.pvs.lookup n = some p ∧ volumeHandleOf p = handle

def Backed (handle : String) (o : Option PersistentVolume) : Assertion Call Reply (World C) :=
  fun h w => ∀ v, o = some v → Stores handle v.name h w

end Plan

section Wait

variable {env : Hist C → World C → World C → Prop} {B : Hist C → Prop} {v : PersistentVolume}

def ReadClaim (ns name : String) (v : PersistentVolume) (pvc : PersistentVolumeClaim)
    (h : Hist C) : Prop :=
  ∃ p w₁ w₂, (⟨.api (.getPVC ns name),.ok pvc,w₁,w₂⟩ : Event Call Reply (World C)) ∈ h ∧
    w₁.pvs.lookup v.name = some p ∧ p.storageClassName = v.storageClassName ∧
    (Fresh ns name h → pvc.volumeName = v.name → pvcClassName pvc = v.storageClassName)

def Matching (ns name n : String) (h : Hist C) : Prop :=
  ∃ pvc p w₁ w₂, (⟨.api (.getPVC ns name),.ok pvc,w₁,w₂⟩ : Event Call Reply (World C)) ∈ h ∧
    w₁.pvs.lookup n = some p ∧ pvcClassName pvc = p.storageClassName

def Holding (ns name : String) (s : BindWait) : Assertion Call Reply (World C) :=
  Point (Held ns name s.reserved) (fun _ => volumeHandleOf s.reserved ≠ "")

def Found (ns name n : String) : Assertion Call Reply (World C) :=
  Point (fun _ _ => True) (fun h => Fresh ns name h → Matching ns name n h)

variable {s : BindWait} {again : BindWait → M String}

def Observed (ns name : String) (s : BindWait) (pvc : PersistentVolumeClaim) :
    Assertion Call Reply (World C) :=
  Point (Held ns name s.reserved) (fun h => ReadClaim ns name s.reserved pvc h ∧
    volumeHandleOf s.reserved ≠ "")

def AfterRead (ns name : String) (s : BindWait) :
    Except ApiError PersistentVolumeClaim → Assertion Call Reply (World C)
  | .error _ => Holding ns name s
  | .ok pvc => Observed ns name s pvc

end Wait

section Results

variable {env : Hist C → World C → World C → Prop} {pvc : PersistentVolumeClaim}
  {pv : PersistentVolume} {targetVol : Volume}

/-- The stored volume suits the target: it has the class of the only class of the driver that
names the storage, or the old class when there is none or several, and the target's place. -/
structure Current (targetVol : Volume) (old : String) (scs : List StorageClass)
    (p : PersistentVolume) : Prop where
  sole : scs.countP (ofStorage targetVol.storage) = 1 →
    ∃ sc ∈ scs, ofStorage targetVol.storage sc ∧ p.storageClassName = sc.name
  several : scs.countP (ofStorage targetVol.storage) ≠ 1 → p.storageClassName = old
  affinity : p.nodeAffinity = some (targetVol.region,targetVol.zone)

end Results

section Samples
open MigrateProgram CallSchedule

def reservation : PersistentVolume :=
  { sampleVolume "r/n2/data/vm-9999-pvc-a" .retain with
    name := "pvc-1"
    storageClassName := "bulk"
    claimRef := some ⟨"ns","a",""⟩
    nodeAffinity := some ("r","n2")
    phase := .available }

def movedVolume : Volume := newVolume "r" "n2" "data" "vm-9999-pvc-a"

end Samples

end ProxmoxCSI.ReservationReuse
