import ProxmoxCSI.CallSchedule
import ProxmoxCSI.Evacuations

/-!
# The target of a reactive evacuation

A claim is moved out of its zone when no node of the zone takes pods. The zone it is
sent to is the leading one of the capacity table, whatever its nodes. It helps the pod
exactly when that zone has a node that takes pods; otherwise the zone is blocked like
the first one.
-/

set_option autoImplicit false

namespace ProxmoxCSI.ReactiveTargets
open CallProgram CallProgram.Prog CallErrors CallSchedule VolumeHandle ClusterState ClusterService
open MigratorCalls MigrationAnnotations AnnotationPatches ControllerCalls MigrationController
open ControllerRules TargetSelection PlacementOrder
open RewireProgram (volumeHandleOf)

variable {C : Type}

section Served

def served : Schedule Duty DutyReply (Realm C) := faulty []

variable {w w₁ : Realm C} {α : Type}

theorem lookUp_evaluates {q : Query} {x : Found q} (h : answer w q = (.ok x,w₁)) :
    Evaluates served (lookUp q).run w (.ok (some x)) w₁ :=
  evaluates_try_bind (evaluates_answer (fun _ => h) rfl) (evaluates_done _)

theorem unlessMissing_evaluates {q : Query} {x : Found q} (h : answer w q = (.ok x,w₁)) :
    Evaluates served (unlessMissing q).run w (.ok ()) w₁ :=
  evaluates_try_bind (evaluates_answer (fun _ => h) rfl) (evaluates_done _)

theorem record_evaluates (subject : Subject) (type : EventType) (reason : String)
    (message : List String) (w : Realm C) :
    Evaluates served (record subject type reason message).run w (.ok ()) w :=
  evaluates_call (fun _ => rfl) (evaluates_done _)

theorem observed_evaluates {x : R α} {r : Except GoError α} (h : Evaluates served x.run w r w₁) :
    Evaluates served (observed x).run w (.ok r) w₁ :=
  evaluates_bind h (evaluates_done _)

theorem survey_evaluates {p : Prog Duty DutyReply α} (hp : p.Uses Surveys) (w : Realm C) :
    ∃ a, Evaluates served p w a w := by
  induction p with
  | done a => exact ⟨a,evaluates_done a⟩
  | call d next ih =>
    obtain ⟨hd,hnext⟩ := hp
    cases d with
    | api q =>
      have hw : (answer w q).2 = w := surveys_outcome hd (.api (.served q w))
      have ha : answer w q = ((answer w q).1,w) := Prod.ext rfl hw
      obtain ⟨a,he⟩ := ih (answer w q).1 (hnext _)
      exact ⟨a,evaluates_call (fun _ => ha) he⟩
    | newUUID => exact hd.elim
    | now => exact hd.elim
    | event => exact hd.elim

end Served

section States

/-- The claim is bound to a volume of the driver outside of shared storage. -/
structure Backed (w : Realm C) (ns name : String) (pvc : PersistentVolumeClaim)
    (pv : PersistentVolume) (vol : Volume) : Prop where
  claim : w.world.pvcs.lookup (ns,name) = some pvc
  bound : pvc.volumeName ≠ ""
  volume : w.world.pvs.lookup pvc.volumeName = some pv
  driver : pv.csi.map CSISource.driver = some driverName
  handle : parseVolumeID (volumeHandleOf pv) = some vol
  zoned : vol.zone ≠ ""

def nodesIn (w : Realm C) (region zone : String) : List NodeObject :=
  ((values w.world.nodes).map w.nodeObject).filter
    (fun n => decide (getNodeTopology n.labels = (region,zone)))

def Open (w : Realm C) (region zone : String) : Prop :=
  ∃ n ∈ nodesIn w region zone, nodeSchedulable n = true

def blocked (w : Realm C) (region zone : String) : Bool :=
  decide (nodesIn w region zone ≠ [] ∧ ∀ n ∈ nodesIn w region zone, nodeSchedulable n = false)

theorem open_not_blocked {w : Realm C} {region zone : String} (h : Open w region zone) :
    blocked w region zone = false := by
  obtain ⟨n,hn,hs⟩ := h
  refine decide_eq_false ?_
  rintro ⟨_,hall⟩
  rw [hall n hn] at hs
  cases hs

/-- The claim is to be moved, if there is a target. -/
structure Pursued (w : Realm C) (ns name : String) (pvc : PersistentVolumeClaim) (vol : Volume) :
    Prop where
  idle : migrationInFlight pvc = false
  blocked : blocked w vol.region vol.zone = true
  allowed : (reactiveEvacuationAllowed (w.claimObject pvc)).1 = true

def requestAt (w : Realm C) (ns name : String) : String :=
  ((w.world.pvcs.lookup (ns,name)).map
    (fun pvc => getAnnotation pvc.annotations annotationMigrateNode)).getD ""

def capacityTable (w : Realm C) (vol : Volume) : Except GoError StorageCandidates :=
  (finish served (gatherStorageCandidates vol.region vol.storage).run [] w).value

def choice (c : Controller) (w : Realm C) (pv : PersistentVolume) (vol : Volume) :
    Except GoError (String × String) :=
  (finish served (autoTarget c pv vol.zone).run [] w).value

def reactivePatch (target storage : String) : Patch :=
  [(annotationMigrateNode,some target),(annotationMigrateForce,some "true")] ++ storagePatch storage

def evaluated (c : Controller) (pod ns name : String) (w : Realm C) : Realm C :=
  (finish served (evaluateReactivePVC c pod ns name).run [] w).world

end States

section Evaluation

variable {w : Realm C} {ns name pod : String} {pvc : PersistentVolumeClaim} {pv : PersistentVolume}
  {vol : Volume}

theorem autoTarget_evaluates (c : Controller) (w : Realm C) (pv : PersistentVolume) (vol : Volume) :
    Evaluates served (autoTarget c pv vol.zone).run w (choice c w pv vol) w := by
  obtain ⟨a,ha⟩ := survey_evaluates (autoTarget_surveys c pv vol.zone) w
  have hv : choice c w pv vol = a := evaluates_value ha []
  rw [hv]
  exact ha

/-- The target is the entry of the table that is chosen for the volume. -/
theorem choice_iff {c : Controller} (hv : parseVolumeID (volumeHandleOf pv) = some vol)
    {z storage : String} : choice c w pv vol = .ok (z,storage) ↔
      vol.region ∈ c.migrator.regions ∧ ∃ cands x, capacityTable w vol = .ok cands ∧
        Chosen cands vol.zone vol.storage (float64Bytes pv.capacity defaultHeadroom) x ∧
        z = x.2.zone ∧ storage = if x.1 = vol.storage then "" else x.1 := by
  have htable : Evaluates served (gatherStorageCandidates vol.region vol.storage).run w
      (capacityTable w vol) w := by
    obtain ⟨a,ha⟩ := survey_evaluates (gatherStorageCandidates_surveys vol.region vol.storage) w
    have he : capacityTable w vol = a := evaluates_value ha []
    rw [he]
    exact ha
  have hhandle : Evaluates served (parseHandle (volumeHandleOf pv)).run w (.ok vol) w := by
    unfold parseHandle
    rw [hv]
    exact evaluates_done _
  have heff : effectiveHeadroom defaultHeadroom = defaultHeadroom :=
    effectiveHeadroom_eq (by norm_num [defaultHeadroom])
  by_cases hr : vol.region ∈ c.migrator.regions
  · cases ht : capacityTable w vol with
    | error e =>
      rw [ht] at htable
      have he : choice c w pv vol = .error e := evaluates_value (evaluates_try_bind hhandle
        (evaluates_try_bind (evaluates_require hr) (evaluates_try_error htable))) []
      simp [he]
    | ok cands =>
      rw [ht] at htable
      have hselect : ∀ r, Evaluates served (targetFor vol (selectCrossStorageTarget float64Bytes cands
          vol.zone vol.storage pv.capacity defaultHeadroom)).run w r w → choice c w pv vol = r :=
        fun r h => evaluates_value (evaluates_try_bind hhandle
          (evaluates_try_bind (evaluates_require hr) (evaluates_try_bind htable h))) []
      rcases selectCrossStorageTarget_cases float64Bytes cands vol.zone vol.storage pv.capacity
          defaultHeadroom with ⟨x,hx,he⟩ | ⟨⟨e,he⟩,hnone⟩
      · rw [he] at hselect
        rw [heff] at hx
        rw [hselect _ (evaluates_done _)]
        constructor
        · intro h
          obtain ⟨rfl,rfl⟩ := Prod.mk.inj (Except.ok.inj h)
          exact ⟨hr,cands,x,rfl,hx,rfl,rfl⟩
        · rintro ⟨_,_,y,hcands,hy,rfl,rfl⟩
          obtain rfl := Except.ok.inj hcands
          rw [chosen_unique hx hy]
      · rw [he] at hselect
        rw [heff] at hnone
        rw [hselect _ (evaluates_done _)]
        constructor
        · intro h
          cases h
        · rintro ⟨_,_,y,hcands,hy,_⟩
          obtain rfl := Except.ok.inj hcands
          exact absurd hy (hnone y)
  · have he : choice c w pv vol = .error (errorf "region not found") := evaluates_value
      (evaluates_try_bind hhandle (evaluates_try_error (evaluates_require_error hr))) []
    simp [he, hr]

theorem localVolume_evaluates (h : Backed w ns name pvc pv vol) :
    Evaluates served (localVolume pvc).run w (.ok (some (pv,vol))) w := by
  have hpv : answer w (.migrator (.getPV pvc.volumeName)) = (.ok pv,w) := by
    show ((serve w.world (.getPV pvc.volumeName)).1,_) = _
    simp [serve, found, h.volume]
  unfold localVolume
  rw [if_neg h.bound]
  refine evaluates_try_bind (lookUp_evaluates hpv) ?_
  simp only [h.driver, ne_eq, not_true_eq_false, if_false]
  rw [h.handle]
  simp only [h.zoned, if_false]
  exact evaluates_done _

theorem zoneBlocked_evaluates (w : Realm C) (region zone : String) :
    Evaluates served (zoneBlocked region zone).run w (.ok (blocked w region zone)) w :=
  evaluates_try_bind (evaluates_answer (r := Except.ok _) (fun _ => rfl) rfl) (evaluates_done _)

theorem getClaim_evaluates (h : w.world.pvcs.lookup (ns,name) = some pvc) :
    Evaluates served (lookUp (.getClaim ns name)).run w (.ok (some (w.claimObject pvc))) w := by
  refine lookUp_evaluates ?_
  show ((found (w.world.pvcs.lookup (ns,name))).map w.claimObject,w) = _
  rw [h]
  rfl

theorem patch_evaluates (h : w.world.pvcs.lookup (ns,name) = some pvc) (p : Patch) :
    ∃ w', Evaluates served (patchPVCAnnotations ns name p).run w (.ok ()) w' ∧
      requestAt w' ns name = getAnnotation
        (applyPatch pvc.annotations (normalizeLegacy pvc.annotations p)) annotationMigrateNode := by
  let patched : PersistentVolumeClaim :=
    { pvc with annotations := applyPatch pvc.annotations (normalizeLegacy pvc.annotations p) }
  have hpatch : answer w (.patchClaim ns name (normalizeLegacy pvc.annotations p)) =
      (.ok (),⟨{ w.world with pvcs := w.world.pvcs.insert (ns,name) patched },w.side⟩) := by
    show ((annotateClaim w.world ns name _).1,_) = _
    simp only [annotateClaim, h]
    rfl
  refine ⟨_,evaluates_try_bind (getClaim_evaluates h) (unlessMissing_evaluates hpatch),?_⟩
  rw [requestAt, AList.lookup_insert]
  rfl

theorem reactivePatch_requests {target storage : String} (ht : target ≠ "") (a : Annotations) :
    getAnnotation (applyPatch a (normalizeLegacy a (reactivePatch target storage)))
      annotationMigrateNode = target := by
  have hk : Protocol annotationMigrateNode (driverName ++ "/migrate-node") := by decide +kernel
  have hn : ((reactivePatch target storage).map Prod.fst).Nodup := by
    unfold reactivePatch storagePatch
    by_cases hs : storage = "" <;>
      simp only [hs, if_true, if_false, List.map_append, List.map_cons, List.map_nil] <;>
      decide +kernel
  exact annotation_set hk hn List.lookup_cons_self ht a a

/-- Either the chosen zone is requested or the claim stays as it is. -/
theorem evaluated_cases (c : Controller) (pod : String) (h : Backed w ns name pvc pv vol) :
    (∃ target storage, Pursued w ns name pvc vol ∧ choice c w pv vol = .ok (target,storage) ∧
      requestAt (evaluated c pod ns name w) ns name = target) ∨
    ¬(Pursued w ns name pvc vol ∧ ∃ place, choice c w pv vol = .ok place) ∧
      evaluated c pod ns name w = w := by
  have hclaim := getClaim_evaluates h.claim
  have hidle : migrationInFlight pvc = true → evaluated c pod ns name w = w := by
    intro hf
    refine evaluates_world (a := .ok ()) (evaluates_try_bind hclaim ?_) []
    show Evaluates served (ite _ _ _ : R Unit).run w (.ok ()) w
    rw [if_pos (show migrationInFlight (w.claimObject pvc).pvc = true from hf)]
    exact evaluates_done _
  have hrest : ∀ {w' : Realm C}, migrationInFlight pvc = false →
      Evaluates served (if blocked w vol.region vol.zone then
        if (reactiveEvacuationAllowed (w.claimObject pvc)).1 then requestReactive c pod ns name pv vol
        else reportSkipped ns name (reactiveEvacuationAllowed (w.claimObject pvc)).2
        else pure () : R Unit).run w (.ok ()) w' → evaluated c pod ns name w = w' := by
    intro w' hf he
    refine evaluates_world (a := .ok ()) (evaluates_try_bind hclaim ?_) []
    show Evaluates served (ite _ _ _ : R Unit).run w (.ok ()) w'
    rw [if_neg (by simp [Realm.claimObject, hf])]
    exact evaluates_try_bind (localVolume_evaluates h)
      (evaluates_try_bind (zoneBlocked_evaluates w vol.region vol.zone) he)
  have hauto := autoTarget_evaluates c w pv vol
  by_cases hp : Pursued w ns name pvc vol
  · cases hc : choice c w pv vol with
    | error e =>
      rw [hc] at hauto
      refine .inr ⟨fun hn => ?_,hrest hp.idle ?_⟩
      · obtain ⟨_,_,he⟩ := hn
        cases he
      · rw [if_pos hp.blocked, if_pos hp.allowed]
        exact evaluates_try_bind (observed_evaluates hauto)
          (record_evaluates _ _ _ _ w)
    | ok place =>
      obtain ⟨target,storage⟩ := place
      rw [hc] at hauto
      have hne : target ≠ "" := by
        have hz := finish_returns (autoTarget_zone c pv vol.zone) (σ := served) [] w
        rw [show (finish served (autoTarget c pv vol.zone).run [] w).value = _ from hc] at hz
        exact hz.1
      obtain ⟨w',hw',hreq⟩ := patch_evaluates h.claim (reactivePatch target storage)
      refine .inl ⟨target,storage,hp,rfl,?_⟩
      have hstamped : evaluated c pod ns name w = w' := by
        refine hrest hp.idle ?_
        rw [if_pos hp.blocked, if_pos hp.allowed]
        exact evaluates_try_bind (observed_evaluates hauto)
          (evaluates_try_bind (record_evaluates _ _ _ _ w) hw')
      rw [hstamped, hreq, reactivePatch_requests hne]
  · refine .inr ⟨fun hn => hp hn.1,?_⟩
    cases hf : migrationInFlight pvc with
    | true => exact hidle hf
    | false =>
      refine hrest hf ?_
      cases hb : blocked w vol.region vol.zone with
      | false => exact evaluates_done _
      | true =>
        cases ha : (reactiveEvacuationAllowed (w.claimObject pvc)).1 with
        | true => exact absurd ⟨hf,hb,ha⟩ hp
        | false =>
          simp only [if_true, Bool.false_eq_true, if_false]
          unfold reportSkipped
          split
          · exact evaluates_done _
          · exact record_evaluates _ _ _ _ w

theorem request_of_idle (hc : w.world.pvcs.lookup (ns,name) = some pvc)
    (h : migrationInFlight pvc = false) : requestAt w ns name = "" := by
  have hn := of_decide_eq_false h
  rw [not_or, not_not] at hn
  rw [requestAt, hc]
  exact hn.1

/-- The requested zone takes pods, and is not left again, exactly when the zone of the
entry that the capacity table leads to has a node that takes pods. -/
theorem reactive_target_open_iff (c : Controller) (pod ns name : String) (w : Realm C) :
    (∀ pvc pv vol z, Backed w ns name pvc pv vol → requestAt w ns name = "" → z ≠ "" →
      requestAt (evaluated c pod ns name w) ns name = z →
        Open w vol.region z ∧ blocked w vol.region z = false) ↔
    ∀ pvc pv vol cands x, Backed w ns name pvc pv vol → Pursued w ns name pvc vol →
      vol.region ∈ c.migrator.regions → capacityTable w vol = .ok cands →
      Chosen cands vol.zone vol.storage (float64Bytes pv.capacity defaultHeadroom) x →
        Open w vol.region x.2.zone := by
  constructor
  · intro h pvc pv vol cands x hb hp hr ht hx
    have hc := (choice_iff hb.handle).mpr ⟨hr,cands,x,ht,hx,rfl,rfl⟩
    rcases evaluated_cases c pod hb with ⟨target,s,_,hc',hreq⟩ | ⟨hn,_⟩
    · obtain ⟨rfl,_⟩ := Prod.mk.inj (Except.ok.inj (hc.symm.trans hc'))
      exact (h pvc pv vol _ hb (request_of_idle hb.claim hp.idle) (chosen_place hx).1 hreq).1
    · exact absurd ⟨hp,_,hc⟩ hn
  · intro h pvc pv vol z hb hold hne hreq
    rcases evaluated_cases c pod hb with ⟨target,s,hp,hc,hreq'⟩ | ⟨_,hw⟩
    · obtain ⟨hr,cands,x,ht,hx,rfl,_⟩ := (choice_iff hb.handle).mp hc
      obtain rfl : z = x.2.zone := hreq.symm.trans hreq'
      have ho := h pvc pv vol cands x hb hp hr ht hx
      exact ⟨ho,open_not_blocked ho⟩
    · rw [hw, hold] at hreq
      exact absurd hreq.symm hne

end Evaluation

section Samples
open Evacuations (sampleController plainSurroundings)
open MigratorRules (sampleWorld sampleVolume sampleClaim)

def cordonedRealm : Realm ℕ :=
  ⟨{ sampleWorld "vm-9999-pvc-a" .delete with
      nodes := tableOf [("n1",⟨"n1","",∅,"",true⟩),("n2",⟨"n2","",∅,"",true⟩)] },plainSurroundings⟩

theorem sent_to_cordoned_zone :
    Backed cordonedRealm "ns" "a" sampleClaim (sampleVolume "r/n1/data/vm-9999-pvc-a" .delete)
      (newVolume "r" "n1" "data" "vm-9999-pvc-a") ∧
    requestAt cordonedRealm "ns" "a" = "" ∧
    requestAt (evaluated sampleController "web" "ns" "a" cordonedRealm) "ns" "a" = "n2" ∧
    ¬Open cordonedRealm "r" "n2" ∧ blocked cordonedRealm "r" "n2" = true := by
  have hblocked : blocked cordonedRealm "r" "n2" = true := by decide +kernel
  refine ⟨⟨rfl,by decide,rfl,by decide +kernel,by decide +kernel,by decide⟩,by decide +kernel,
    by decide +kernel,fun ho => ?_,hblocked⟩
  rw [open_not_blocked ho] at hblocked
  cases hblocked

end Samples

end ProxmoxCSI.ReactiveTargets
