import ProxmoxCSI.MigratorRules
import ProxmoxCSI.RewireProgram

/-!
# The quota of the target class

Before anything is deleted, the rewire looks whether the quotas leave room for the
claim in its new class. It looks at two dimensions of each quota. The admission of
the new claim looks at all of them, after the old claim is gone; both agree.
-/

set_option autoImplicit false

namespace ProxmoxCSI.QuotaPreflight
open CallProgram CallProgram.Prog CallErrors CallSafety CallSchedule ClusterState MigratorCalls
open RewireProgram

section Dimensions

def requestsStorage : String := "requests.storage"
def persistentVolumeClaims : String := "persistentvolumeclaims"

def storageOf (storageClass : String) : String :=
  storageClass ++ ".storageclass.storage.k8s.io/requests.storage"

def countOf (storageClass : String) : String :=
  storageClass ++ ".storageclass.storage.k8s.io/persistentvolumeclaims"

def hardOf (q : ResourceQuota) : Table String ℤ :=
  if q.statusHard.entries.isEmpty then q.specHard else q.statusHard

def usedOf (q : ResourceQuota) (dimension : String) : ℤ := (q.used.lookup dimension).getD 0

def charge (storageClass : String) (request : ℤ) (dimension : String) : ℤ :=
  if dimension = requestsStorage ∨ dimension = storageOf storageClass then request
  else if dimension = persistentVolumeClaims ∨
      dimension = countOf storageClass then 1
  else 0

def exchanged (q : ResourceQuota) (oldClass newClass : String) (request : ℤ) (dimension : String) :
    ℤ :=
  usedOf q dimension - charge oldClass request dimension + charge newClass request dimension

def Within (q : ResourceQuota) (used : String → ℤ) : Prop :=
  ∀ dimension limit, (hardOf q).lookup dimension = some limit → used dimension ≤ limit

end Dimensions

section Exchange

variable {q : ResourceQuota} {oldClass newClass : String} {request : ℤ}

end Exchange

section Preflight

variable {W : Type} {σ : Schedule Call Reply W}

def Admitted (quotas : List ResourceQuota) (oldClass newClass : String) (request : ℤ) : Prop :=
  ∀ q ∈ quotas, Within q (exchanged q oldClass newClass request)

def sampleQuota : ResourceQuota where
  ns := "ns"
  name := "budget"
  statusHard := (∅ : Table String ℤ).insert (storageOf "fast") 100
  specHard := ∅
  used := (∅ : Table String ℤ).insert (storageOf "fast") 60

end Preflight

end ProxmoxCSI.QuotaPreflight
