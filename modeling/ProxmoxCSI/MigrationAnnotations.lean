import ProxmoxCSI.MigratorCalls

/-!
# The annotation protocol

Every key of the protocol has a canonical name and a legacy name that is still
read. A write folds the legacy names an object carries onto the canonical ones
in the same patch.
-/

set_option autoImplicit false

namespace ProxmoxCSI.MigrationAnnotations
open ClusterState MigratorCalls

def annotationMigrate : String := group ++ "/migrate"
def annotationMigrateNode : String := group ++ "/migrate-node"
def annotationMigrateForce : String := group ++ "/migrate-force"
def annotationMigrateStorage : String := group ++ "/migrate-storage"
def annotationMigratePhase : String := group ++ "/migrate-phase"
def annotationMigrateMessage : String := group ++ "/migrate-message"
def annotationMigrateAttempts : String := group ++ "/migrate-attempts"
def annotationMigrateStartedAt : String := group ++ "/migrate-started-at"
def annotationMigrateState : String := group ++ "/migrate-state"
def annotationEvacuate : String := group ++ "/evacuate"
def annotationEvacuateForce : String := group ++ "/evacuate-force"
def annotationReactiveEvacuation : String := group ++ "/reactive-evacuation"

def legacyAnnotationAliases : List (String × String) :=
  [(annotationMigrate,driverName ++ "/migrate"),
   (annotationMigrateNode,driverName ++ "/migrate-node"),
   (annotationMigrateForce,driverName ++ "/migrate-force"),
   (annotationMigrateStorage,driverName ++ "/migrate-storage"),
   (annotationMigratePhase,driverName ++ "/migrate-phase"),
   (annotationMigrateMessage,driverName ++ "/migrate-message"),
   (annotationMigrateAttempts,driverName ++ "/migrate-attempts"),
   (annotationMigrateStartedAt,driverName ++ "/migrate-started-at"),
   (annotationMigrateState,driverName ++ "/migrate-state"),
   (annotationEvacuate,driverName ++ "/evacuate"),
   (annotationEvacuateForce,driverName ++ "/evacuate-force"),
   (annotationReactiveEvacuation,driverName ++ "/reactive-evacuation")]

def legacyAnnotation (key : String) : String := (legacyAnnotationAliases.lookup key).getD ""

def valueOf (a : Annotations) (key : String) : String := (a.lookup key).getD ""

def getAnnotation (a : Annotations) (key : String) : String :=
  if valueOf a key ≠ "" then valueOf a key else valueOf a <| legacyAnnotation key

abbrev Patch := List (String × Option String)

def addressed (p : Patch) (key : String) : Bool := decide (key ∈ p.map Prod.fst)

def addUnlessAddressed (p : Patch) (key : String) (v : Option String) : Patch :=
  if addressed p key then p else p ++ [(key,v)]

def foldLegacy (current : Annotations) (p : Patch) (names : String × String) : Patch :=
  if (current.lookup names.2).isNone then p
  else addUnlessAddressed
    (if getAnnotation current names.1 ≠ "" then
      addUnlessAddressed p names.1 (some <| getAnnotation current names.1) else p) names.2 none

def normalizeLegacy (current : Annotations) (p : Patch) : Patch :=
  legacyAnnotationAliases.foldl (foldLegacy current) p

def withLegacyVariants (keys : List String) : List String :=
  keys ++ (keys.map legacyAnnotation).filter (fun k => k ≠ "")

def migrationAnnotations : List String := withLegacyVariants
  [annotationMigrate,annotationMigrateNode,annotationMigrateForce,annotationMigrateStorage,
   annotationMigratePhase,annotationMigrateMessage,annotationMigrateAttempts,
   annotationMigrateStartedAt,annotationMigrateState]

def annBindCompleted : String := "pv.kubernetes.io/bind-completed"

def binderBookkeepingAnnotations : List String :=
  [annBindCompleted,"pv.kubernetes.io/bound-by-controller","volume.kubernetes.io/selected-node",
   "volume.kubernetes.io/storage-provisioner","volume.beta.kubernetes.io/storage-provisioner"]

def stripped (keys : List String) (a : Annotations) : Annotations :=
  keys.foldl (fun a k => a.erase k) a

theorem applyPatch_lookup {p : Patch} {key : String} (h : key ∉ p.map Prod.fst)
    (a : Annotations) : (applyPatch a p).lookup key = a.lookup key := by
  induction p generalizing a with
  | nil => rfl
  | cons x p ih =>
    rw [List.map_cons, List.mem_cons, not_or] at h
    have hx := ih h.2
    obtain ⟨k,v⟩ := x
    cases v with
    | none =>
      show (applyPatch (a.erase k) p).lookup key = _
      rw [hx, AList.lookup_erase_ne h.1]
    | some v =>
      show (applyPatch (a.insert k v) p).lookup key = _
      rw [hx, AList.lookup_insert_ne h.1]

end ProxmoxCSI.MigrationAnnotations
