import Mathlib.Data.Rat.Defs
import Mathlib.Data.List.Sort
import ProxmoxCSI.MigratorCalls

/-!
# The choice of a migration target

The candidates are the storages named by the classes of the driver and the
storage of the volume itself, each with the zones that host it. The storage of
the volume is preferred, then the one of the default class, then whichever zone
has most space. The source zone is never chosen.
-/

set_option autoImplicit false

namespace ProxmoxCSI.TargetSelection
open ClusterState MigratorCalls

structure ZoneCapacity where
  zone : String
  avail : ℤ
  total : ℤ
  deriving DecidableEq, Repr

def defaultHeadroom : ℚ := 3/20

section Amounts

def requiredBytes (sizeBytes : ℤ) (headroom : ℚ) : ℤ :=
  (sizeBytes*(headroom.den+headroom.num)).tdiv headroom.den

/-- A value that does not fit becomes the least integer. -/
def int64Of (n : ℤ) : ℤ := if -2^63 ≤ n ∧ n < 2^63 then n else -2^63

def roundEven (n d : ℕ) : ℕ :=
  if 2*(n%d) < d ∨ 2*(n%d) = d ∧ n/d%2 = 0 then n/d else n/d+1

def float64Exponent (a d : ℕ) : ℤ :=
  let l : ℤ := (a.log2 : ℤ)-d.log2
  if a*2^(-l).toNat < d*2^l.toNat then l-53 else l-52

/-- The nearest number with 53 bits, of two the even one. -/
def float64 (q : ℚ) : ℚ :=
  let e := float64Exponent q.num.natAbs q.den
  let m := roundEven (q.num.natAbs*2^(-e).toNat) (q.den*2^e.toNat)
  mkRat (q.num.sign*(m*2^e.toNat : ℕ)) (2^(-e).toNat)

def float64Bytes (sizeBytes : ℤ) (headroom : ℚ) : ℤ :=
  let product := float64 (float64 sizeBytes*float64 (1+float64 headroom))
  int64Of (product.num.tdiv product.den)

example : requiredBytes 100 defaultHeadroom = 115 ∧ float64Bytes 100 defaultHeadroom = 114 := by
  decide +kernel

end Amounts

def effectiveHeadroom (headroom : ℚ) : ℚ := if headroom < 0 then defaultHeadroom else headroom

def twoDecimals (q : ℚ) : String :=
  let n := (200*q.num+q.den)/(2*q.den)
  toString (n/100) ++ "." ++ toString (n%100/10) ++ toString (n%10)

def Qualifies (exclude : List String) (required : ℤ) (z : ZoneCapacity) : Prop :=
  z.zone ∉ exclude ∧ required ≤ z.avail

instance (exclude : List String) (required : ℤ) : DecidablePred (Qualifies exclude required) :=
  fun _ => inferInstanceAs (Decidable (_ ∧ _))

def betterZone (exclude : List String) (required : ℤ) (best z : ZoneCapacity) : ZoneCapacity :=
  if Qualifies exclude required z ∧ best.avail < z.avail then z else best

def bestZone (zones : List ZoneCapacity) (exclude : List String) (required : ℤ) : ZoneCapacity :=
  zones.foldl (betterZone exclude required) ⟨"",0,0⟩

def noZone (required : ℤ) (headroom : ℚ) : String :=
  "no zone with " ++ toString required ++ " bytes available (headroom " ++
    twoDecimals headroom ++ ")"

/-- How many bytes are asked for is left open: the amount itself, or its approximation. -/
def selectTarget (amount : ℤ → ℚ → ℤ) (zones : List ZoneCapacity) (exclude : List String)
    (sizeBytes : ℤ)
    (headroom : ℚ) : Except GoError String :=
  let headroom := effectiveHeadroom headroom
  let required := amount sizeBytes headroom
  let best := bestZone zones exclude required
  if best.zone = "" then .error (sentinelf .invalidTarget (noZone required headroom))
  else .ok best.zone

structure StorageCandidates where
  capacities : Table String (List ZoneCapacity)
  defaultStorage : String

namespace StorageCandidates

def zones (c : StorageCandidates) (storage : String) : List ZoneCapacity :=
  (c.capacities.lookup storage).getD []

def names (c : StorageCandidates) : List String := c.capacities.keys.insertionSort (· ≤ ·)

def maxItems : ℕ := 5

def summary (c : StorageCandidates) : String :=
  if c.names = [] then
    "no candidate storages (no StorageClass of this driver names a storage on this cluster)"
  else
    let parts := (c.names.take maxItems).map (fun name =>
      "storage " ++ name ++ " (zones " ++ joined ((c.zones name).map ZoneCapacity.zone) ++ ")")
    let more := if maxItems < c.names.length then
      ["and " ++ toString (c.names.length-maxItems) ++ " more"] else []
    String.intercalate "; " (parts ++ more)

end StorageCandidates

structure BestPlace where
  zone : String
  storage : String
  avail : ℤ

def betterPlace (sourceZone : String) (required : ℤ) (storage : String) (best : BestPlace)
    (z : ZoneCapacity) : BestPlace :=
  if Qualifies [sourceZone] required z ∧ best.avail < z.avail then ⟨z.zone,storage,z.avail⟩
  else best

def otherStorages (c : StorageCandidates) (sourceStorage : String) : List String :=
  c.names.filter (fun s => s ≠ sourceStorage ∧ s ≠ c.defaultStorage)

def bestPlace (c : StorageCandidates) (sourceZone sourceStorage : String) (required : ℤ) :
    BestPlace :=
  (otherStorages c sourceStorage).foldl (fun best storage =>
    (c.zones storage).foldl (betterPlace sourceZone required storage) best) ⟨"","",0⟩

def selectCrossStorageTarget (amount : ℤ → ℚ → ℤ) (c : StorageCandidates)
    (sourceZone sourceStorage : String) (sizeBytes : ℤ) (headroom : ℚ) :
      Except GoError (String × String) :=
  match selectTarget amount (c.zones sourceStorage) [sourceZone] sizeBytes headroom with
  | .ok zone => .ok (zone,sourceStorage)
  | .error _ =>
    let fromDefault :=
      if c.defaultStorage ≠ "" ∧ c.defaultStorage ≠ sourceStorage then
        (selectTarget amount (c.zones c.defaultStorage) [sourceZone] sizeBytes headroom).toOption
      else none
    match fromDefault with
    | some zone => .ok (zone,c.defaultStorage)
    | none =>
      let headroom := effectiveHeadroom headroom
      let required := amount sizeBytes headroom
      let best := bestPlace c sourceZone sourceStorage required
      if best.zone = "" then .error (sentinelf .invalidTarget
        (noZone required headroom ++ "; considered " ++ c.summary))
      else .ok (best.zone,best.storage)

section Classes

/-- A class with its default mark and its age. -/
structure ClassObject where
  storageClass : StorageClass
  defaultMark : String
  created : ℕ

def ClassObject.storage (sc : ClassObject) : String :=
  (sc.storageClass.parameters.lookup storageIDKey).getD ""

def ofDriver (sc : ClassObject) : Bool :=
  decide (sc.storageClass.provisioner = driverName ∧ sc.storage ≠ "")

def newerDefault (best : Option ClassObject) (sc : ClassObject) : Option ClassObject :=
  if sc.defaultMark = "true" ∧ ∀ b ∈ best, b.created < sc.created then some sc else best

def addBlessed (blessed : List String) (sc : ClassObject) : List String :=
  if sc.storage ∈ blessed then blessed else blessed ++ [sc.storage]

def blessedStoragesFromClasses (scs : List ClassObject) (blessed : List String) :
    List String × String :=
  let own := scs.filter ofDriver
  (own.foldl addBlessed blessed,((own.foldl newerDefault none).map ClassObject.storage).getD "")

end Classes

end ProxmoxCSI.TargetSelection
