import Mathlib.Data.List.Dedup
import Mathlib.Data.List.Sort
import ProxmoxCSI.VolumeLifecycle

/-!
# Registrations of tenants

A registration is admitted unless an older one holds its namespace, its
placeholder or its subject. Its status carries what the volumes of the namespace
cost and which VMs belong to the tenant; a listing of the VMs that fails leaves
the earlier answer and its time as they were. A deleted registration is released
once its namespace lists no volume.
-/

set_option autoImplicit false

namespace ProxmoxCSI.TenantReconciler
open CallProgram CallProgram.Prog CallErrors OperatorRecords VolumeReconciler
open VolumeLifecycle (unread)

structure Registrar where
  resolvePeriod : ℤ

def defaultResolvePeriod : ℤ := 60000000000

def Registrar.period (r : Registrar) : ℤ :=
  if 0 < r.resolvePeriod then r.resolvePeriod else defaultResolvePeriod

def tenantFinalizer : String := groupName ++ "/tenant-protection"

section Status

def conditioned (t : TenantCluster) (type : ConditionType) (status : Bool) (reason : Reason)
    (message : String) : TenantCluster :=
  { t with
    conditions := setStatusCondition t.conditions ⟨type,status,reason,message,t.generation⟩ }

def seen (t : TenantCluster) : TenantCluster := { t with observedGeneration := t.generation }

def updateStatus (t : TenantCluster) : P Unit := do
  let _ ← need (.updateTenantStatus (seen t)) ("updating " ++ t.name ++ " status: ")
  pure ()

end Status

section Usage

def countedBytes (vol : ProxmoxVolume) : ℤ :=
  if vol.spec.capacityBytes < vol.status.capacityBytes then vol.status.capacityBytes
  else vol.spec.capacityBytes

def addCapacity (into : Quantities) (storage : String) (bytes : ℤ) : Quantities :=
  if storage = "" ∨ bytes ≤ 0 then into
  else
    let total := (((into.lookup storage).map Quantity.value).getD 0)+bytes
    into.insert storage ⟨total,toString total⟩

def charge (used : QuotaUsage) (vol : ProxmoxVolume) : QuotaUsage :=
  ⟨int32 (used.volumes+1),addCapacity used.capacity vol.spec.storage (countedBytes vol)⟩

def usage (vols : List ProxmoxVolume) : QuotaUsage := vols.foldl charge ⟨0,∅⟩

/-- Only namespaces with a quota are accounted, in the order of the spec. -/
def namespaceUsage (quotas : List NamespaceQuota) (vols : List ProxmoxVolume) :
    List (String × QuotaUsage) :=
  quotas.map (fun q => (q.ns,usage (vols.filter (fun v => v.spec.claimNamespace = q.ns))))

def aggregated (t : TenantCluster) (vols : List ProxmoxVolume) : TenantCluster :=
  { t with used := usage vols, namespaceUsed := namespaceUsage t.namespaceQuotas vols }

/-- An empty namespace would list every volume. -/
def volumes (t : TenantCluster) : P (List ProxmoxVolume) :=
  if t.ns = "" then pure []
  else need (.listVolumes t.ns) ("listing volumes in " ++ t.ns ++ ": ")

def aggregate (t : TenantCluster) : P TenantCluster := do
  let vols ← volumes t
  pure (aggregated t vols)

end Usage

section Conflict

def older (a b : TenantCluster) : Bool :=
  if a.created ≠ b.created then decide (a.created < b.created) else decide (a.name < b.name)

def claimsOf (t other : TenantCluster) : List String :=
  (if other.ns = t.ns then
    ["namespace " ++ t.ns ++ " is already registered by " ++ other.name] else []) ++
  (if other.placeholderVMID = t.placeholderVMID then
    ["placeholderVmid " ++ toString t.placeholderVMID ++ " is already registered by " ++
      other.name] else []) ++
  (if other.subject = t.subject then
    ["subject " ++ t.subject ++ " is already registered by " ++ other.name] else [])

def conflictAmong (t : TenantCluster) (others : List TenantCluster) : String :=
  let reasons := (others.filter (fun o => ¬(o.name = t.name ∨ ¬older o t))).flatMap (claimsOf t)
  String.intercalate "; " (reasons.insertionSort (fun a b => a ≤ b))

def conflict (t : TenantCluster) : P String := do
  let others ← need .listTenants "listing tenants: "
  pure (conflictAmong t others)

def refused (t : TenantCluster) (conflict : String) : TenantCluster :=
  let t := { t with resolvedVMIDs := [], vmidsObservedAt := none }
  conditioned (conditioned t .admitted false .invalidSpec conflict) .ready false .invalidSpec conflict

end Conflict

section Resolution

def poolMembers (t : TenantCluster) (vms : List ListedVM) : List ℤ :=
  (vms.filter (fun vm => vm.pool = t.pool)).map ListedVM.vmid

def resolvedTo (t : TenantCluster) (members : List ℤ) (now : ℤ) : TenantCluster :=
  { t with
    resolvedVMIDs := (t.vmids ++ members).dedup.insertionSort (fun a b => a ≤ b)
    vmidsObservedAt := some now }

def stamped (t : TenantCluster) (members : List ℤ) : P (Except String TenantCluster) := do
  let now ← need .now ""
  pure (.ok (resolvedTo t members now))

/-- Without a pool the answer does not depend on Proxmox; a failed listing leaves the
registration as it was. -/
def resolveVMIDs (t : TenantCluster) : P (Except String TenantCluster) :=
  if t.pool = "" then stamped t []
  else do
    match ← ask (.listVMs t.region) with
    | .error e => pure (.error ("resolving pool " ++ t.pool ++ " in region " ++ t.region ++ ": " ++
        e.text))
    | .ok vms => stamped t (poolMembers t vms)

def readiness (t : TenantCluster) : TenantCluster :=
  if t.resolvedVMIDs = [] then
    conditioned t .ready false .invalidSpec "no VMIDs resolved: set spec.pool, spec.vmids, or both"
  else conditioned t .ready true .accepted (toString t.resolvedVMIDs.length ++
    " VMID(s) resolved, " ++ toString t.used.volumes ++ " volume(s) accounted")

def accepted (t : TenantCluster) : TenantCluster :=
  conditioned t .admitted true .accepted
    ("registered for namespace " ++ t.ns ++ " in region " ++ t.region)

end Resolution

def admitTenant (r : Registrar) (t : TenantCluster) : P Result := do
  match ← resolveVMIDs t with
  | .ok t => do
    updateStatus (readiness t)
    pure ⟨r.period⟩
  | .error text => do
    updateStatus (conditioned t .ready false .proxmoxError text)
    throw ⟨⟨r.period⟩,text⟩

def reconcileNormal (r : Registrar) (t : TenantCluster) : P Result := do
  let t ← aggregate t
  let conflict ← conflict t
  if conflict ≠ "" then do
    updateStatus (refused t conflict)
    pure ⟨r.period⟩
  else admitTenant r (accepted t)

section Delete

def released (t : TenantCluster) : TenantCluster :=
  { t with finalizers := t.finalizers.filter (fun f => f ≠ tenantFinalizer) }

def release (t : TenantCluster) : P Result := do
  let _ ← need (.updateTenant (released t)) ("releasing the finalizer on " ++ t.name ++ ": ")
  pure ⟨0⟩

def reconcileDelete (r : Registrar) (t : TenantCluster) : P Result :=
  if tenantFinalizer ∉ t.finalizers then pure ⟨0⟩
  else do
    let vols ← volumes t
    if 0 < vols.length then do
      updateStatus (conditioned t .ready false .reconciling (toString vols.length ++
        " ProxmoxVolume(s) remain in namespace " ++ t.ns))
      pure ⟨r.period⟩
    else release t

end Delete

def registered (t : TenantCluster) : TenantCluster :=
  { t with finalizers := t.finalizers ++ [tenantFinalizer] }

def hold (t : TenantCluster) : P TenantCluster :=
  if tenantFinalizer ∈ t.finalizers then pure t
  else need (.updateTenant (registered t)) ("adding the finalizer to " ++ t.name ++ ": ")

def reconcileTenant (r : Registrar) (t : TenantCluster) : P Result :=
  if t.deleting then reconcileDelete r t
  else do
    let t ← hold t
    reconcileNormal r t

def reconcile (r : Registrar) (name : String) : P Result := do
  match ← ask (.getTenant name) with
  | .error e => unread e
  | .ok t => reconcileTenant r t

end ProxmoxCSI.TenantReconciler
