import ProxmoxCSI.ControllerCalls

/-!
# The migration controller

One worker carries out the request a claim carries in its annotations. Others
only stamp requests: one expands the evacuation of a node, one reacts to pods
that cannot be scheduled because the zone of their volume is blocked.
-/

set_option autoImplicit false

namespace ProxmoxCSI.MigrationController
open CallProgram CallProgram.Prog CallErrors TextScan VolumeHandle ClusterState
open MigratorCalls MigrationAnnotations RewireProgram MigrateProgram TargetSelection ControllerCalls

structure Options where
  maxAttempts : ℤ
  maxAttempts_lt : maxAttempts < 2^63

structure Controller where
  migrator : Migrator
  patience : Patience
  opts : Options

def phaseText : Phase → String
  | .pending => "Pending"
  | .draining => "Draining"
  | .moving => "Moving"
  | .rewiring => "Rewiring"
  | .completed => "Completed"
  | .failed => "Failed"
  | .skipped => "Skipped"

/-- The number with the error dropped: a value out of range is cut to the range. -/
def atoiValue (s : String) : ℤ :=
  match s.toList with
  | '-'::ds => ((digitsValue ds).map (fun n : ℕ => max (-(n : ℤ)) (-2^63))).getD 0
  | '+'::ds => ((digitsValue ds).map (fun n : ℕ => min (n : ℤ) (2^63-1))).getD 0
  | ds => ((digitsValue ds).map (fun n : ℕ => min (n : ℤ) (2^63-1))).getD 0

section Carrying

def translate {Call Call' α : Type} {Reply : Call → Type} {Reply' : Call' → Type}
    (f : (c : Call) → Prog Call' Reply' (Reply c)) : Prog Call Reply α → Prog Call' Reply' α
  | .done a => .done a
  | .call c next => f c >>= fun r => translate f (next r)

/-- Best effort: the claim is deleted and recreated during the rewire. -/
def onPhase (ns name : String) (p : Phase) : Prog Duty DutyReply Unit :=
  (patchPVCAnnotations ns name [(annotationMigratePhase,some (phaseText p))]).run >>=
    fun _ => .done ()

def hosting (ns name : String) : (c : Call) → Prog Duty DutyReply (Reply c)
  | .api a => issue (Duty.api (.migrator a))
  | .newUUID => issue Duty.newUUID
  | .now => issue Duty.now
  | .phase p => onPhase ns name p

def borrowed {α : Type} (ns name : String) (x : M α) : R α :=
  ExceptT.mk (translate (hosting ns name) x.run)

end Carrying

section Requests

def wordList (xs : List String) : String := "[" ++ String.intercalate " " xs ++ "]"

def requestDone (p : Phase) : Patch :=
  [(annotationMigrateNode,none),(annotationMigrateForce,none),(annotationMigrateStorage,none),
   (annotationMigratePhase,some (phaseText p))]

def failPVC (ns name message : String) : R Unit :=
  patchPVCAnnotations ns name
    [(annotationMigratePhase,some (phaseText .failed)),(annotationMigrateMessage,some message)]

def onTarget (target reqStorage : String) : Except ApiError PersistentVolume → Bool
  | .error _ => false
  | .ok pv => match pv.csi with
    | none => false
    | some csi => match parseVolumeID csi.volumeHandle with
      | none => false
      | some vol => decide (vol.zone = target ∧ (reqStorage = "" ∨ reqStorage = vol.storage))

def alreadyThere (pvc : PersistentVolumeClaim) (target reqStorage : String) : R Bool :=
  if pvc.volumeName = "" then pure false
  else do
    let pv ← inquire (.migrator (.getPV pvc.volumeName))
    pure (onTarget target reqStorage pv)

def attemptsOf (a : Annotations) : ℤ := atoiValue <| getAnnotation a annotationMigrateAttempts

def startedAt (pvc : PersistentVolumeClaim) : R Patch :=
  if getAnnotation pvc.annotations annotationMigrateStartedAt = "" then do
    let now ← perform (issue Duty.now)
    pure [(annotationMigrateStartedAt,some (toString now))]
  else pure []

def startAttempt (ns name : String) (pvc : PersistentVolumeClaim) (target : String) : R Unit := do
  let started ← startedAt pvc
  patchPVCAnnotations ns name
    ([(annotationMigratePhase,some (phaseText .pending)),
      (annotationMigrateAttempts,some (toString (attemptsOf pvc.annotations+1))),
      (annotationMigrateMessage,none)] ++ started)
  record (.claim ns name) .normal "MigrationStarted"
    ["migrating to proxmox node ",target]

def takeUp (c : Controller) (ns name : String) (pvc : PersistentVolumeClaim) : R (Option Request) :=
  let target := getAnnotation pvc.annotations annotationMigrateNode
  let reqStorage := getAnnotation pvc.annotations annotationMigrateStorage
  let force := decide <| getAnnotation pvc.annotations annotationMigrateForce = "true"
  if target = "" then pure none
  else if getAnnotation pvc.annotations annotationMigratePhase = phaseText .failed then pure none
  else do
    if ← alreadyThere pvc target reqStorage then do
      patchPVCAnnotations ns name (requestDone .completed)
      pure none
    else do
      let used ← borrowed ns name (pvcPodUsage ns name)
      if used.1 ≠ [] ∧ force = false then do
        record (.claim ns name) .warning "MigrationSkipped"
          ["PVC is in use by pods and the ",annotationMigrateForce," annotation is not set"]
        failPVC ns name ("in use by pods: " ++ wordList used.1)
        pure none
      else if c.opts.maxAttempts ≤ attemptsOf pvc.annotations then do
        let message := "giving up after " ++ toString (attemptsOf pvc.annotations) ++ " attempts"
        record (.claim ns name) .warning "MigrationFailed" [message]
        failPVC ns name message
        pure none
      else do
        startAttempt ns name pvc target
        pure (some ⟨ns,name,target,reqStorage,force⟩)

def reachMigrate (c : Controller) (ns name : String) : R (Option Request) := do
  match ← lookUp (.getClaim ns name) with
  | none => pure none
  | some claim => takeUp c ns name claim.pvc

def settle (ns name : String) : Except GoError Unit → R Unit
  | .ok _ => do
    let _ ← observed (patchPVCAnnotations ns name
      [(annotationMigratePhase,some (phaseText .completed))])
    pure ()
  | .error e => match e.sentinel with
    | some .invalidTarget | some .inUse => do
      record (.claim ns name) .warning "MigrationFailed" [e.text]
      failPVC ns name e.text
    | some .alreadyOnTarget => patchPVCAnnotations ns name (requestDone .completed)
    | some .sharedStorage => do
      record (.claim ns name) .normal "MigrationSkipped" [e.text]
      patchPVCAnnotations ns name
        (requestDone .skipped ++ [(annotationMigrateMessage,some e.text)])
    | none => do
      record (.claim ns name) .warning "MigrationError" [e.text]
      let _ ← observed (patchPVCAnnotations ns name [(annotationMigrateMessage,some e.text)])
      throw e

def carryOut (c : Controller) (ns name : String) (req : Request) : R Unit := do
  let r ← observed (borrowed ns name (migrate c.patience c.migrator req))
  settle ns name r

def reconcilePVC (c : Controller) (ns name : String) : R Unit := do
  match ← reachMigrate c ns name with
  | none => pure ()
  | some req => carryOut c ns name req

end Requests

section Targets

def parseHandle (handle : String) : R Volume :=
  match parseVolumeID handle with
  | none => throw (errorf "VolumeID must be in the format of region/zone/storageName/diskName")
  | some vol => pure vol

def targetFor (vol : Volume) : Except GoError (String × String) → R (String × String)
  | .error e => throw e
  | .ok (zone,storage) => pure (zone,if storage = vol.storage then "" else storage)

def autoTarget (c : Controller) (pv : PersistentVolume) (sourceZone : String) :
    R (String × String) := do
  let vol ← parseHandle (volumeHandleOf pv)
  require (vol.region ∈ c.migrator.regions) (errorf "region not found")
  let candidates ← gatherStorageCandidates vol.region vol.storage
  targetFor vol (selectCrossStorageTarget float64Bytes candidates sourceZone vol.storage pv.capacity
    defaultHeadroom)

end Targets

section Evacuation

def inZone (driver region zone : String) (v : VolumeObject) : Bool :=
  match v.pv.csi with
  | none => false
  | some csi => match parseVolumeID csi.volumeHandle with
    | none => false
    | some vol => decide (csi.driver = driver ∧ vol.region = region ∧ vol.zone = zone)

def pvsInZone (driver region zone : String) : R (List VolumeObject) := do
  let pvs ← obtainOf .listVolumes (apiError "failed to list PersistentVolumes: ")
  pure (pvs.filter (inZone driver region zone))

def storagePatch (storage : String) : Patch :=
  if storage = "" then [] else [(annotationMigrateStorage,some storage)]

def evacuationPatch (target storage : String) (force : Bool) : Patch :=
  [(annotationMigrateNode,some target)] ++ storagePatch storage ++
    (if force then [(annotationMigrateForce,some "true")] else [])

def evacuationTarget (c : Controller) (node target zone : String) (pv : PersistentVolume)
    (ref : ObjectReference) : R (Option (String × String)) :=
  if target ≠ "auto" then pure (some (target,""))
  else do
    match ← observed (autoTarget c pv zone) with
    | .ok place => pure (some place)
    | .error e => do
      record (.node node) .warning "EvacuationFailed"
        ["no target for ",ref.ns,"/",ref.name,": ",e.text]
      pure none

def claimKind : String := "PersistentVolumeClaim"

def evacuateVolume (c : Controller) (node target zone : String) (force : Bool) (v : VolumeObject) :
    R ℕ :=
  match v.pv.claimRef with
  | none => pure 0
  | some ref =>
    if v.refKind ≠ claimKind then pure 0
    else do
      match ← inquire (.getClaim ref.ns ref.name) with
      | .error _ => pure 0
      | .ok claim =>
        if getAnnotation claim.pvc.annotations annotationMigrateNode ≠ "" then pure 0
        else do
          match ← evacuationTarget c node target zone v.pv ref with
          | none => pure 0
          | some (pvcTarget,pvcStorage) => do
            patchPVCAnnotations ref.ns ref.name (evacuationPatch pvcTarget pvcStorage force)
            pure 1

def evacuateVolumes (c : Controller) (node target zone : String) (force : Bool) :
    List VolumeObject → R ℕ
  | [] => pure 0
  | v::vs => do
    let n ← evacuateVolume c node target zone force v
    let rest ← evacuateVolumes c node target zone force vs
    pure (n+rest)

def expandEvacuation (c : Controller) (name target region zone : String) (force : Bool) :
    R Unit := do
  let pvs ← pvsInZone driverName region zone
  let stamped ← evacuateVolumes c name target zone force pvs
  record (.node name) .normal "EvacuationRequested"
    ["requested migration of ",toString stamped," PVCs out of zone ",zone]
  patchNodeAnnotations name [(annotationEvacuate,none),(annotationEvacuateForce,none)]

def reconcileNode (c : Controller) (name : String) : R Unit := do
  match ← lookUp (.getNode name) with
  | none => pure ()
  | some node =>
    let target := getAnnotation node.node.annotations annotationEvacuate
    let force := decide <| getAnnotation node.node.annotations annotationEvacuateForce = "true"
    let place := getNodeTopology node.labels
    if target = "" then pure ()
    else if place.1 = "" ∨ place.2 = "" then do
      record (.node name) .warning "EvacuationFailed" ["node has no region/zone topology labels"]
      patchNodeAnnotations name [(annotationEvacuate,none)]
    else expandEvacuation c name target place.1 place.2 force

end Evacuation

section Reactive

def localVolume (pvc : PersistentVolumeClaim) : R (Option (PersistentVolume × Volume)) :=
  if pvc.volumeName = "" then pure none
  else do
    match ← lookUp (.migrator (.getPV pvc.volumeName)) with
    | none => pure none
    | some pv =>
      if pv.csi.map CSISource.driver ≠ some driverName then pure none
      else match parseVolumeID (volumeHandleOf pv) with
        | none => pure none
        | some vol => pure (if vol.zone = "" then none else some (pv,vol))

def nodeSchedulable (n : NodeObject) : Bool :=
  decide (n.node.unschedulable = false ∧ ∀ t ∈ n.taints, t ≠ .noSchedule ∧ t ≠ .noExecute)

def zoneBlocked (region zone : String) : R Bool := do
  let nodes ← obtainOf .listNodes plainError
  let inside := nodes.filter (fun n => decide (getNodeTopology n.labels = (region,zone)))
  pure (decide (inside ≠ [] ∧ ∀ n ∈ inside, nodeSchedulable n = false))

def inFlightPhases : List String :=
  [phaseText .pending,phaseText .draining,phaseText .moving,phaseText .rewiring]

def migrationInFlight (pvc : PersistentVolumeClaim) : Bool :=
  decide <| getAnnotation pvc.annotations annotationMigrateNode ≠ "" ∨
    getAnnotation pvc.annotations annotationMigratePhase ∈ inFlightPhases

def apiGroup (apiVersion : String) : String := ((cut apiVersion '/').map Prod.fst).getD ""

def customResourceController (owners : List OwnerReference) : Option OwnerReference :=
  (owners.find? (fun o => o.controller = some true)).filter
    (fun o => apiGroup o.apiVersion ∉ ["","apps","batch"])

def reactiveEvacuationAllowed (claim : ClaimObject) : Bool × Option OwnerReference :=
  let mark := getAnnotation claim.pvc.annotations annotationReactiveEvacuation
  if mark = "true" then (true,none)
  else if mark = "false" then (false,none)
  else match customResourceController claim.owners with
    | some owner => (false,some owner)
    | none => (true,none)

def reportSkipped (ns name : String) : Option OwnerReference → R Unit
  | none => pure ()
  | some owner => record (.claim ns name) .normal "ReactiveEvacuationSkipped"
      ["PVC is controller-owned by ",owner.kind," ",owner.name," (",owner.apiVersion,
        "): storage is operator-managed; migrate via the operator or set ",
        annotationReactiveEvacuation,"=true"]

def stampReactive (pod ns name : String) (vol : Volume) (target storage : String) : R Unit := do
  record (.claim ns name) .normal "ReactiveEvacuation" ["pod ",ns,"/",pod,
    " unschedulable: volume pinned to cordoned node in zone ",vol.zone,", migrating to ",
    if storage = "" then target else target ++ " (storage " ++ storage ++ ")"]
  patchPVCAnnotations ns name
    ([(annotationMigrateNode,some target),(annotationMigrateForce,some "true")] ++
      storagePatch storage)

def requestReactive (c : Controller) (pod ns name : String) (pv : PersistentVolume) (vol : Volume) :
    R Unit := do
  match ← observed (autoTarget c pv vol.zone) with
  | .error e => record (.claim ns name) .warning "ReactiveEvacuation" ["pod ",ns,"/",pod,
      " unschedulable: volume pinned to cordoned zone ",vol.zone,
      " but no target zone has capacity: ",e.text]
  | .ok (target,storage) => stampReactive pod ns name vol target storage

def evaluateReactivePVC (c : Controller) (pod ns name : String) : R Unit := do
  match ← lookUp (.getClaim ns name) with
  | none => pure ()
  | some claim =>
    if migrationInFlight claim.pvc then pure ()
    else do
      match ← localVolume claim.pvc with
      | none => pure ()
      | some (pv,vol) => do
        if ← zoneBlocked vol.region vol.zone then
          if (reactiveEvacuationAllowed claim).1 then requestReactive c pod ns name pv vol
          else reportSkipped ns name (reactiveEvacuationAllowed claim).2
        else pure ()

end Reactive

end ProxmoxCSI.MigrationController
