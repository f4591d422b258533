import ProxmoxCSI.MigrationAnnotations

/-!
# Rewiring the volume and its claim

The old volume is set to Retain, a new volume with the target handle reserves
the claim by an empty-UID reference, the old pair is deleted, the claim is
recreated, and the final reclaim policy is restored once the claim is bound.
The bind wait may re-reserve the volume under the class the claim carries.
-/

set_option autoImplicit false

namespace ProxmoxCSI.RewireProgram
open CallProgram CallProgram.Prog CallErrors VolumeHandle ClusterState MigratorCalls
open MigrationAnnotations

def maxClassReconciliations : ℕ := 2

/-- How often the polling loops look before their deadlines pass. -/
structure Patience where
  drain : ℕ
  detach : ℕ
  deletion : ℕ
  bind : ℕ

def pvcClassName (pvc : PersistentVolumeClaim) : String := pvc.storageClassName.getD ""

def volumeHandleOf (pv : PersistentVolume) : String :=
  match pv.csi with
  | none => ""
  | some c => c.volumeHandle

def setPVReclaimPolicy (name : String) (policy : ReclaimPolicy) (wrap : ApiError → GoError) :
    M Unit := need (.patchPVReclaimPolicy name policy) wrap

def refNames (ref : Option ObjectReference) (ns name : String) : Prop :=
  ∃ r, ref = some r ∧ r.ns = ns ∧ r.name = name

instance (ref : Option ObjectReference) (ns name : String) : Decidable (refNames ref ns name) :=
  match ref with
  | none => isFalse (by rintro ⟨r,hr,_⟩; cases hr)
  | some r => decidable_of_iff (r.ns = ns ∧ r.name = name)
      ⟨fun h => ⟨r,rfl,h⟩,by rintro ⟨r',hr,h⟩; cases hr; exact h⟩

def refUID (ref : Option ObjectReference) : String := (ref.map ObjectReference.uid).getD ""

def IsReservation (ns name handle : String) (pv : PersistentVolume) : Prop :=
  pv.reclaimPolicy = .retain ∧ pv.phase ≠ .bound ∧ volumeHandleOf pv = handle ∧
    refNames pv.claimRef ns name ∧ refUID pv.claimRef = ""

instance (ns name handle : String) : DecidablePred (IsReservation ns name handle) :=
  fun _ => inferInstanceAs (Decidable (_ ∧ _))

def findExistingReservation (ns name handle : String) : M (Option PersistentVolume) := do
  match ← ask .listPVs with
  | .error _ => pure none
  | .ok pvs => pure (pvs.find? (fun pv => IsReservation ns name handle pv))

def ofStorage (storageID : String) (sc : StorageClass) : Bool :=
  decide (sc.provisioner = driverName ∧ (sc.parameters.lookup storageIDKey).getD "" = storageID)

def storageClassForStorage (storageID : String) : M (Option String) := do
  match ← ask .listStorageClasses with
  | .error _ => pure none
  | .ok scs => match (scs.filter (ofStorage storageID)).map StorageClass.name with
    | [name] => pure (some name)
    | _ => pure none

def quotaRefusal (ns newClass : String) (request : ℤ) (q : ResourceQuota) : Option GoError :=
  let hard := if q.statusHard.entries.isEmpty then q.specHard else q.statusHard
  let storageRes := newClass ++ ".storageclass.storage.k8s.io/requests.storage"
  let countRes := newClass ++ ".storageclass.storage.k8s.io/persistentvolumeclaims"
  let overStorage := (hard.lookup storageRes).bind (fun limit =>
    let free := limit-(q.used.lookup storageRes).getD 0
    if free < request then some (sentinelf .invalidTarget ("resourcequota " ++ ns ++ "/" ++ q.name ++
      " leaves " ++ toString free ++ " of " ++ toString limit ++ " for storageclass " ++ newClass ++
      " requests.storage, the migrated volume needs " ++ toString request ++
      "; raise the quota or choose another target class")) else none)
  let overCount := (hard.lookup countRes).bind (fun limit =>
    let used := (q.used.lookup countRes).getD 0
    if limit ≤ used then some (sentinelf .invalidTarget ("resourcequota " ++ ns ++ "/" ++ q.name ++
      " allows no more persistentvolumeclaims of storageclass " ++ newClass ++ " (" ++
      toString used ++ " of " ++ toString limit ++
      " used); raise the quota or choose another target class")) else none)
  overStorage.or overCount

def checkTargetClassQuota (ns newClass : String) (request : ℤ) : M Unit := do
  match ← ask (.listResourceQuotas ns) with
  | .error _ => pure ()
  | .ok quotas => match quotas.findSome? (quotaRefusal ns newClass request) with
    | some e => throw e
    | none => pure ()

def AccessMode.text : AccessMode → String
  | .readWriteOnce => "ReadWriteOnce"
  | .readOnlyMany => "ReadOnlyMany"
  | .readWriteMany => "ReadWriteMany"
  | .readWriteOncePod => "ReadWriteOncePod"

def modesText (ms : List AccessMode) : String :=
  "[" ++ String.intercalate " " (ms.map AccessMode.text) ++ "]"

def accessModesEqual (a b : List AccessMode) : Bool :=
  decide (a.length = b.length ∧ ∀ m ∈ b, m ∈ a)

def volumeModesEqual (a b : Option VolumeMode) : Bool :=
  decide (a.getD .filesystem = b.getD .filesystem)

def validateReservedPV (pv : PersistentVolume) (pvc : PersistentVolumeClaim) : M Unit := do
  require (pv.storageClassName = pvcClassName pvc)
    (errorf ("reserved PV storageClassName " ++ quote pv.storageClassName ++
      " does not match PVC storageClassName " ++ quote (pvcClassName pvc) ++ "; it would not bind"))
  require (∀ req ∈ pvc.requests, req ≤ pv.capacity)
    (errorf ("reserved PV capacity " ++ toString pv.capacity ++ " is smaller than PVC request " ++
      toString (pvc.requests.getD 0)))
  require (accessModesEqual pv.accessModes pvc.accessModes)
    (errorf ("reserved PV access modes " ++ modesText pv.accessModes ++
      " do not match PVC access modes " ++ modesText pvc.accessModes))
  require (volumeModesEqual pv.volumeMode pvc.volumeMode)
    (errorf "reserved PV volumeMode does not match PVC volumeMode")
  require (pv.claimRef.isSome ∧ refUID pv.claimRef = "")
    (errorf "reserved PV claimRef must be set with an empty UID to pre-bind the PVC")

def recreatedPVC (pvc : PersistentVolumeClaim) : PersistentVolumeClaim :=
  { pvc with
    uid := ""
    volumeName := ""
    annotations := stripped binderBookkeepingAnnotations
      (stripped migrationAnnotations pvc.annotations)
    requests := some pvc.capacity
    capacity := 0 }

def reservedPV (ns pvcName name : String) (pv : PersistentVolume) (targetVol : Volume) :
    PersistentVolume :=
  { pv with
    name := name
    annotations := stripped migrationAnnotations pv.annotations
    created := 0
    csi := pv.csi.map (fun c => { c with volumeHandle := targetVol.volumeID })
    reclaimPolicy := .retain
    nodeAffinity := some (targetVol.region,targetVol.zone)
    claimRef := some ⟨ns,pvcName,""⟩
    phase := .pending }

structure Rewire where
  started : ℕ
  finalPolicy : ReclaimPolicy
  newPV : PersistentVolume
  newPVC : PersistentVolumeClaim
  existing : Bool

def finalPolicyOf (pv : PersistentVolume) : ReclaimPolicy :=
  if pv.reclaimPolicy = .unset then .delete else pv.reclaimPolicy

def adoptPVClass (sc : Option String) (pv : PersistentVolume) : PersistentVolume :=
  { pv with storageClassName := sc.getD pv.storageClassName }

def adoptPVCClass (sc : Option String) (pvc : PersistentVolumeClaim) : PersistentVolumeClaim :=
  { pvc with storageClassName := sc.or pvc.storageClassName }

def checkClassChange (ns : String) (pvc newPVC : PersistentVolumeClaim) : M Unit :=
  if pvcClassName newPVC ≠ pvcClassName pvc then
    checkTargetClassQuota ns (pvcClassName newPVC) pvc.capacity
  else pure ()

def planRewire (ns : String) (pvc : PersistentVolumeClaim) (pv : PersistentVolume)
    (targetVol : Volume) : M Rewire := do
  let started ← perform (issue Call.now)
  let existing ← findExistingReservation ns pvc.name targetVol.volumeID
  let uuid ← perform (issue Call.newUUID)
  let name := (existing.map PersistentVolume.name).getD ("pvc-" ++ uuid)
  let sc ← storageClassForStorage targetVol.storage
  let newPV := adoptPVClass sc (reservedPV ns pvc.name name pv targetVol)
  let newPVC := adoptPVCClass sc (recreatedPVC pvc)
  validateReservedPV newPV newPVC
  checkClassChange ns pvc newPVC
  pure ⟨started,finalPolicyOf pv,newPV,newPVC,existing.isSome⟩

def retainOld (pv : PersistentVolume) : M Unit :=
  if pv.reclaimPolicy ≠ .retain then setPVReclaimPolicy pv.name .retain
    (apiError ("failed to set old PV " ++ pv.name ++ " to Retain before rewire: "))
  else pure ()

def reserve (r : Rewire) : M Unit :=
  if r.existing then pure ()
  else need (.createPV r.newPV .reservation)
    (apiError ("failed to create reserved PV " ++ r.newPV.name ++ ": "))

def retirePair (polls : ℕ) (ns : String) (pvc : PersistentVolumeClaim) (pv : PersistentVolume) :
    M Unit := do
  need (.deletePVC ns pvc.name) (apiError "failed to delete PVC: ")
  accepting (.deletePV pv.name .oldPV) .notFound
    (apiError ("failed to delete old PV " ++ pv.name ++ ": "))
  relabel (GoError.flattened ("failed to wait for old PV " ++ pv.name ++ " deletion: "))
    (pvWaitDelete polls pv.name)

def recreatePVC (newPVC : PersistentVolumeClaim) : M Unit :=
  accepting (.createPVC newPVC) .alreadyExists (apiError "failed to create PVC: ")

def refText : Option ObjectReference → String
  | none => "nil"
  | some r => "&ObjectReference\x7bKind:PersistentVolumeClaim,Namespace:" ++ r.ns ++ ",Name:" ++
      r.name ++ ",UID:" ++ r.uid ++ ",APIVersion:v1,ResourceVersion:,FieldPath:,\x7d"

def deleteRacingPair (ns : String) (pvc : PersistentVolumeClaim) (dataVolumeHandle : String)
    (started : ℕ) : M Unit := do
  let fresh ← need (.getPV pvc.volumeName)
    (apiError ("failed to get racing PV " ++ pvc.volumeName ++ ": "))
  require (¬(fresh.csi.isSome ∧ volumeHandleOf fresh = dataVolumeHandle))
    (errorf ("refusing to delete PV " ++ fresh.name ++ ": it references the migrated data disk " ++
      dataVolumeHandle))
  require (refNames fresh.claimRef ns pvc.name)
    (errorf ("refusing to delete PV " ++ fresh.name ++ ": its claimRef (" ++ refText fresh.claimRef ++
      ") does not point back at the migrating PVC " ++ ns ++ "/" ++ pvc.name))
  require (started < fresh.created)
    (errorf ("refusing to delete PV " ++ fresh.name ++ ": created " ++ toString fresh.created ++
      ", not strictly after the rewire started at " ++ toString started ++
      " — not a freshly provisioned racing volume"))
  accepting (.deletePVC ns pvc.name) .notFound
    (apiError ("failed to delete racing PVC " ++ pvc.name ++ ": "))
  accepting (.deletePV fresh.name .racing) .notFound
    (apiError ("failed to delete racing PV " ++ fresh.name ++ ": "))

def policyText : ReclaimPolicy → String
  | .unset => ""
  | .recycle => "Recycle"
  | .delete => "Delete"
  | .retain => "Retain"

/-- The replacement is created before the outdated reservation is deleted. -/
def reReserveDataPV (reserved : PersistentVolume) (storageClass : String) : M PersistentVolume := do
  let current ← need (.getPV reserved.name)
    (apiError ("failed to get reserved PV " ++ reserved.name ++ ": "))
  require (current.reclaimPolicy = .retain)
    (errorf ("refusing to replace reserved PV " ++ current.name ++ ": reclaim policy is " ++
      policyText current.reclaimPolicy ++ ", not Retain"))
  require (current.phase ≠ .bound ∧ refUID current.claimRef = "")
    (errorf ("refusing to replace reserved PV " ++ current.name ++ ": it is already bound"))
  require (volumeHandleOf current = volumeHandleOf reserved)
    (errorf ("refusing to replace PV " ++ current.name ++ ": volume handle " ++
      quote (volumeHandleOf current) ++ " is not the migrated data disk " ++
      quote (volumeHandleOf reserved)))
  let uuid ← perform (issue Call.newUUID)
  let next : PersistentVolume := { current with
    name := "pvc-" ++ uuid
    created := 0
    phase := .pending
    storageClassName := storageClass }
  need (.createPV next .reReservation)
    (apiError ("failed to create re-reserved PV " ++ next.name ++ " (class " ++ storageClass ++ "): "))
  accepting (.deletePV current.name .outdated) .notFound
    (apiError ("failed to delete outdated reserved PV " ++ current.name ++ ": "))
  pure next

def clearRacing (ns : String) (pvc : PersistentVolumeClaim) (reserved : PersistentVolume)
    (started : ℕ) : M Unit :=
  if pvc.volumeName ≠ "" then deleteRacingPair ns pvc (volumeHandleOf reserved) started else pure ()

def reconcileReservedClass (ns : String) (pvc : PersistentVolumeClaim)
    (reserved : PersistentVolume) (started : ℕ) : M PersistentVolume := do
  clearRacing ns pvc reserved started
  reReserveDataPV reserved (pvcClassName pvc)

def isWaitForFirstConsumer (className : String) : M Bool :=
  if className = "" then pure false
  else do
    match ← ask .listStorageClasses with
    | .error _ => pure false
    | .ok scs => match scs.find? (fun sc => sc.name = className) with
      | some sc => pure (decide (sc.volumeBindingMode = some .waitForFirstConsumer))
      | none => pure false

def reservedPVCIsIdleWFFC (ns : String) (pvc : PersistentVolumeClaim)
    (reserved : PersistentVolume) : M Bool :=
  if pvc.volumeName ≠ "" then pure false
  else if ¬refNames reserved.claimRef ns pvc.name then pure false
  else do
    if ← isWaitForFirstConsumer (pvcClassName pvc) then
      match ← observed (pvcConsumers ns pvc.name) with
      | .ok pods => pure pods.isEmpty
      | .error _ => pure false
    else pure false

structure BindWait where
  polls : ℕ
  reconciliations : ℕ
  reserved : PersistentVolume

def bindTimeout (name : String) (s : BindWait) : GoError :=
  errorf ("timeout waiting for PersistentVolumeClaim " ++ name ++ " to bind to " ++ s.reserved.name)

def nextPoll (name : String) (again : BindWait → M String) (s : BindWait) : M String :=
  match s.polls with
  | 0 => throw (bindTimeout name s)
  | n+1 => again { s with polls := n }

def bindRound (ns name : String) (started : ℕ) (again : BindWait → M String) (s : BindWait) :
    M String := do
  match ← ask (.getPVC ns name) with
  | .error .notFound => nextPoll name again s
  | .error e => throw (apiError ("failed to get PersistentVolumeClaim " ++ name ++ ": ") e)
  | .ok pvc =>
    if pvc.volumeName = s.reserved.name then pure s.reserved.name
    else if pvcClassName pvc ≠ s.reserved.storageClassName then
      if maxClassReconciliations ≤ s.reconciliations then
        throw (sentinelf .invalidTarget ("PersistentVolumeClaim " ++ name ++
          " still carries storageclass " ++ quote (pvcClassName pvc) ++ " after " ++
          toString s.reconciliations ++ " re-reservations; giving up — the migrated disk is " ++
          "preserved on PV " ++ s.reserved.name ++ " (Available, Retain)"))
      else do
        let reserved ← reconcileReservedClass ns pvc s.reserved started
        again ⟨s.polls,s.reconciliations+1,reserved⟩
    else if pvc.volumeName ≠ "" then
      throw (errorf ("PersistentVolumeClaim " ++ name ++ " bound to " ++ pvc.volumeName ++
        ", not the reserved volume " ++ s.reserved.name ++ ": a controller provisioned a new " ++
        "volume; the migrated disk is preserved on PV " ++ s.reserved.name ++
        " (Available, Retain)"))
    else do
      if ← reservedPVCIsIdleWFFC ns pvc s.reserved then pure s.reserved.name
      else nextPoll name again s

/-- The name of the reserved volume the claim finally bound. A round either
polls or re-reserves, so the rounds are bounded by both allowances. -/
def waitReservedPVBind (polls : ℕ) (ns name : String) (reserved : PersistentVolume)
    (started : ℕ) : M String :=
  rounds (bindRound ns name started) (fun s => throw (bindTimeout name s))
    (polls+maxClassReconciliations) ⟨polls,0,reserved⟩

def restorePolicy (name : String) (policy : ReclaimPolicy) : M Unit :=
  if policy ≠ .retain then setPVReclaimPolicy name policy
    (apiError ("failed to restore reclaim policy on PV " ++ name ++ ": "))
  else pure ()

def replacePVTopology (t : Patience) (ns : String) (pvc : PersistentVolumeClaim)
    (pv : PersistentVolume) (targetVol : Volume) : M Unit := do
  let r ← planRewire ns pvc pv targetVol
  retainOld pv
  reserve r
  retirePair t.deletion ns pvc pv
  recreatePVC r.newPVC
  let bound ← waitReservedPVBind t.bind ns pvc.name r.newPV r.started
  restorePolicy bound r.finalPolicy

end ProxmoxCSI.RewireProgram
