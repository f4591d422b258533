import ProxmoxCSI.RewireEffects

/-!
# Which calls the parts of a migration can issue

Up to the rewire the volumes keep what backs them; the rewire itself touches
claims and volumes only; the source disk is deleted by the last part alone.
-/

set_option autoImplicit false

namespace ProxmoxCSI.MigrateFootprint
open CallProgram CallProgram.Prog CallSafety CallErrors VolumeHandle ClusterState ClusterService
open MigratorCalls RewireProgram MigrateProgram MigratorRules RewireEffects

section Rewire

theorem storageClassForStorage_reads (storageID : String) :
    (storageClassForStorage storageID).run.Uses Reads := by
  refine uses_either (uses_ask rfl) (fun _ => ?_) (fun _ => trivial)
  simp only
  split <;> trivial

variable {ok : Call → Prop}

theorem checkTargetClassQuota_uses {ns : String} (hq : ok (.api (.listResourceQuotas ns)))
    (newClass : String) (request : ℤ) :
    (checkTargetClassQuota ns newClass request).run.Uses ok := by
  refine uses_either (uses_ask hq) (fun _ => ?_) (fun _ => trivial)
  simp only
  split <;> trivial

theorem checkClassChange_uses {ns : String} (hq : ok (.api (.listResourceQuotas ns)))
    (pvc newPVC : PersistentVolumeClaim) : (checkClassChange ns pvc newPVC).run.Uses ok := by
  unfold checkClassChange
  split
  · exact checkTargetClassQuota_uses hq _ _
  · trivial

theorem validateReservedPV_uses (pv : PersistentVolume) (pvc : PersistentVolumeClaim) :
    (validateReservedPV pv pvc).run.Uses ok := by
  refine uses_try_bind uses_require ?_
  intro _
  refine uses_try_bind uses_require ?_
  intro _
  refine uses_try_bind uses_require ?_
  intro _
  exact uses_try_bind uses_require (fun _ => uses_require)

theorem pvWaitDelete_reads (polls : ℕ) (name : String) : (pvWaitDelete polls name).run.Uses Reads := by
  refine uses_try_bind (uses_ask rfl) ?_
  intro r
  split
  · trivial
  · trivial
  · refine uses_try_bind (uses_need rfl) ?_
    intro _
    apply uses_rounds
    · intro _
      trivial
    intro again hagain s
    refine uses_try_bind (uses_ask rfl) ?_
    intro e
    split
    · trivial
    · trivial
    · trivial
    · exact hagain ()
    · refine uses_try_bind (uses_ask rfl) ?_
      intro r'
      split
      · trivial
      · exact hagain ()

def Api.rewires : Api → Bool
  | .createPVC _ | .deletePVC _ _ | .createPV _ _ | .deletePV _ _ | .patchPVReclaimPolicy _ _ => true
  | a => Api.readOnly a

def Rewires : Call → Prop
  | .api a => Api.rewires a
  | _ => True

theorem reads_rewires {c : Call} (h : Reads c) : Rewires c := by
  cases c with
  | api a => cases a <;> first | rfl | exact Bool.noConfusion h
  | _ => trivial

theorem uses_reads_rewires {α : Type} {p : Act α} (hp : p.Uses Reads) : p.Uses Rewires :=
  uses_mono hp (fun _ => reads_rewires)

theorem findExistingReservation_reads (ns name handle : String) :
    (findExistingReservation ns name handle).run.Uses Reads := by
  refine uses_try_bind (uses_ask rfl) ?_
  intro r
  cases r <;> trivial

theorem planRewire_reads (ns : String) (pvc : PersistentVolumeClaim) (pv : PersistentVolume)
    (targetVol : Volume) : (planRewire ns pvc pv targetVol).run.Uses Reads := by
  refine uses_try_bind (uses_perform ⟨trivial,fun _ => trivial⟩) ?_
  intro started
  refine uses_try_bind (findExistingReservation_reads _ _ _) ?_
  intro existing
  refine uses_try_bind (uses_perform ⟨trivial,fun _ => trivial⟩) ?_
  intro uuid
  refine uses_try_bind (storageClassForStorage_reads _) ?_
  intro sc
  refine uses_try_bind (validateReservedPV_uses _ _) ?_
  intro _
  have hq : Reads (.api (.listResourceQuotas ns)) := rfl
  exact uses_try_bind (checkClassChange_uses hq _ _) (fun _ => trivial)

theorem isWaitForFirstConsumer_reads (className : String) :
    (isWaitForFirstConsumer className).run.Uses Reads := by
  unfold isWaitForFirstConsumer
  split
  · trivial
  · refine uses_either (uses_ask rfl) (fun _ => ?_) (fun _ => trivial)
    simp only
    split <;> trivial

theorem reservedPVCIsIdleWFFC_reads (ns : String) (pvc : PersistentVolumeClaim)
    (reserved : PersistentVolume) : (reservedPVCIsIdleWFFC ns pvc reserved).run.Uses Reads := by
  unfold reservedPVCIsIdleWFFC
  split
  · trivial
  · split
    · trivial
    · refine uses_try_bind (isWaitForFirstConsumer_reads _) ?_
      intro waits
      cases waits with
      | false => trivial
      | true =>
        refine uses_try_bind (uses_observed (pvcConsumers_reads _ _)) ?_
        intro r
        cases r <;> trivial

theorem deleteRacingPair_rewires (ns : String) (pvc : PersistentVolumeClaim) (handle : String)
    (started : ℕ) : (deleteRacingPair ns pvc handle started).run.Uses Rewires := by
  refine uses_try_bind (uses_need rfl) ?_
  intro fresh
  refine uses_try_bind uses_require ?_
  intro _
  refine uses_try_bind uses_require ?_
  intro _
  refine uses_try_bind uses_require ?_
  intro _
  exact uses_try_bind (uses_accepting rfl) (fun _ => uses_accepting rfl)

theorem reReserveDataPV_rewires (reserved : PersistentVolume) (storageClass : String) :
    (reReserveDataPV reserved storageClass).run.Uses Rewires := by
  refine uses_try_bind (uses_need rfl) ?_
  intro current
  refine uses_try_bind uses_require ?_
  intro _
  refine uses_try_bind uses_require ?_
  intro _
  refine uses_try_bind uses_require ?_
  intro _
  refine uses_try_bind (uses_perform ⟨trivial,fun _ => trivial⟩) ?_
  intro uuid
  refine uses_try_bind (uses_need rfl) ?_
  intro _
  exact uses_try_bind (uses_accepting rfl) (fun _ => trivial)

theorem reconcileReservedClass_rewires (ns : String) (pvc : PersistentVolumeClaim)
    (reserved : PersistentVolume) (started : ℕ) :
    (reconcileReservedClass ns pvc reserved started).run.Uses Rewires := by
  refine uses_try_bind ?_ (fun _ => reReserveDataPV_rewires _ _)
  unfold clearRacing
  split
  · exact deleteRacingPair_rewires _ _ _ _
  · trivial

theorem waitReservedPVBind_rewires (polls : ℕ) (ns name : String) (reserved : PersistentVolume)
    (started : ℕ) : (waitReservedPVBind polls ns name reserved started).run.Uses Rewires := by
  apply uses_rounds
  · intro s
    trivial
  intro again hagain s
  have hpoll : (nextPoll name again s).run.Uses Rewires := by
    unfold nextPoll
    split
    · trivial
    · exact hagain _
  refine uses_try_bind (uses_ask rfl) ?_
  intro r
  split
  · exact hpoll
  · trivial
  · split
    · trivial
    · split
      · split
        · trivial
        · exact uses_try_bind (reconcileReservedClass_rewires _ _ _ _) (fun _ => hagain _)
      · split
        · trivial
        · refine uses_try_bind (uses_reads_rewires (reservedPVCIsIdleWFFC_reads _ _ _)) ?_
          intro idle
          cases idle with
          | false => exact hpoll
          | true => trivial

theorem replacePVTopology_rewires (t : Patience) (ns : String) (pvc : PersistentVolumeClaim)
    (pv : PersistentVolume) (targetVol : Volume) :
    (replacePVTopology t ns pvc pv targetVol).run.Uses Rewires := by
  refine uses_try_bind (uses_reads_rewires (planRewire_reads _ _ _ _)) ?_
  intro r
  refine uses_try_bind ?_ ?_
  · unfold retainOld
    split
    · exact uses_need rfl
    · trivial
  intro _
  refine uses_try_bind ?_ ?_
  · unfold reserve
    split
    · trivial
    · exact uses_need rfl
  intro _
  refine uses_try_bind ?_ ?_
  · refine uses_try_bind (uses_need rfl) ?_
    intro _
    refine uses_try_bind (uses_accepting rfl) ?_
    intro _
    exact uses_relabel (uses_reads_rewires (pvWaitDelete_reads _ _))
  intro _
  refine uses_try_bind (uses_accepting rfl) ?_
  intro _
  refine uses_try_bind (waitReservedPVBind_rewires _ _ _ _ _) ?_
  intro bound
  unfold restorePolicy
  split
  · exact uses_need rfl
  · trivial

end Rewire

section Approach

def Api.handles : Api → Bool
  | .deleteContent _ _ _ _ .partialTarget | .copyContent _ _ _ _ | .createVM _ _ _ _
  | .deleteVM _ _ _ | .attachSlot _ _ _ _ | .moveDisk _ _ _ _ => true
  | a => Api.readOnly a

def Handles : Call → Prop
  | .api a => Api.handles a
  | _ => True

def Api.converts : Api → Bool
  | .copyContent _ _ _ _ | .createVM _ _ _ _ | .deleteVM _ _ _ | .attachSlot _ _ _ _
  | .moveDisk _ _ _ _ => true
  | a => Api.readOnly a

def Converts : Call → Prop
  | .api a => Api.converts a
  | _ => True

theorem converts_handles {c : Call} (h : Converts c) : Handles c := by
  cases c with
  | api a => cases a <;> first | rfl | exact Bool.noConfusion h
  | _ => trivial

theorem uses_reads_handles {α : Type} {p : Act α} (hp : p.Uses Reads) : p.Uses Handles := by
  refine uses_mono hp ?_
  intro c hc
  cases c with
  | api a => cases a <;> first | rfl | exact Bool.noConfusion hc
  | _ => trivial

theorem reclaim_uses (ok : Call → Prop) (vol targetVol : Volume)
    (h : ok (.api (.deleteContent vol.region vol.node vol.storage vol.disk .sourceReclaim))) :
    (do let _ ← reclaimSourceDisk vol targetVol; pure () : M Unit).run.Uses ok := by
  refine uses_try_bind (uses_if trivial ?_) (fun _ => trivial)
  exact uses_either (uses_observed (uses_need h)) (fun _ => trivial) (fun _ => trivial)

def Api.approaches : Api → Bool
  | .deleteContent _ _ _ _ .partialTarget | .copyContent _ _ _ _ | .createVM _ _ _ _
  | .deleteVM _ _ _ | .attachSlot _ _ _ _ | .moveDisk _ _ _ _ => true
  | a => Api.prepares a

def Approaches : Call → Prop
  | .api a => Api.approaches a
  | _ => True

theorem prepares_approaches {c : Call} (h : Prepares c) : Approaches c := by
  cases c with
  | api a => cases a <;> first | rfl | exact Bool.noConfusion h
  | _ => trivial

theorem uses_handles_approaches {α : Type} {p : Act α} (hp : p.Uses Handles) :
    p.Uses Approaches := by
  refine uses_mono hp ?_
  intro c hc
  cases c with
  | api a =>
    cases a with
    | deleteContent region node storage disk site =>
      cases site with
      | partialTarget => rfl
      | sourceReclaim => cases hc
    | _ => first | rfl | exact Bool.noConfusion hc
  | _ => trivial

theorem uses_reads_approaches {α : Type} {p : Act α} (hp : p.Uses Reads) : p.Uses Approaches :=
  uses_mono hp (fun _ hc => prepares_approaches (reads_prepares hc))

theorem uses_prepares_approaches {α : Type} {p : Act α} (hp : p.Uses Prepares) :
    p.Uses Approaches := uses_mono hp (fun _ => prepares_approaches)

theorem detectResume_handles (req : Request) (p : Plan) :
    (detectResume req p).run.Uses Handles := by
  have hseen : ∀ (vol : Volume) (node : String),
      (observed (diskOnNode vol node)).run.Uses Handles :=
    fun vol node => uses_observed (uses_reads_handles (diskOnNode_reads vol node))
  unfold detectResume
  split
  · refine uses_try_bind (hseen _ _) ?_
    intro r
    split
    · split
      · trivial
      · exact uses_try_bind (uses_relabel (uses_need rfl)) (fun _ => trivial)
    · trivial
  · split
    · refine uses_try_bind (hseen _ _) ?_
      intro r
      split <;> trivial
    · trivial

theorem reachMove_approaches (t : Patience) (m : Migrator) (req : Request) :
    (reachMove t m req).run.Uses Approaches := by
  refine uses_try_bind (uses_reads_approaches (resolveRequest_reads m req)) ?_
  intro p
  refine uses_try_bind (uses_handles_approaches (detectResume_handles req p)) ?_
  intro resumed
  refine uses_try_bind (uses_reads_approaches (resolveUsage_reads req p)) ?_
  intro u
  refine uses_try_bind (uses_prepares_approaches (cordon_prepares req u)) ?_
  intro cordoned
  refine uses_try_bind (uses_onError (uses_prepares_approaches (uncordon_prepares _)) ?_)
    (fun _ => trivial)
  refine uses_try_bind (uses_prepares_approaches (drain_prepares t req u)) ?_
  intro _
  refine uses_try_bind (uses_relabel (uses_reads_approaches (waitForVolumeDetach_reads _ _ _ _))) ?_
  intro _
  split
  · trivial
  · exact uses_prepares_approaches (stampMarker_prepares req p)

theorem convertOnHelper_converts (m : Migrator) (vol targetVol : Volume) (targetNode : String)
    (vmid : ℤ) : (convertOnHelper m vol targetVol targetNode vmid).run.Uses Converts := by
  refine uses_try_bind (uses_need rfl) ?_
  intro _
  refine uses_try_bind ?_ ?_
  · refine uses_try_bind (uses_need rfl) ?_
    intro _
    refine uses_try_bind (uses_need rfl) ?_
    intro _
    exact uses_try_bind uses_require (fun _ => trivial)
  intro rawVolid
  unfold moveConverted
  split
  · trivial
  · exact uses_need rfl

theorem convertAndMove_converts (m : Migrator) (vol targetVol : Volume) (targetNode : String) :
    (convertAndMove m vol targetVol targetNode).run.Uses Converts := by
  refine uses_try_bind uses_require ?_
  intro _
  refine uses_try_bind (uses_try_bind (uses_need rfl) (fun _ => trivial)) ?_
  intro stale
  refine uses_try_bind ?_ ?_
  · cases stale with
    | none => trivial
    | some vm =>
      refine uses_try_bind uses_require ?_
      intro _
      exact uses_relabel (uses_need rfl)
  intro _
  refine uses_try_bind (uses_need rfl) ?_
  intro _
  exact uses_deferred (uses_bind (uses_need rfl) (fun _ => trivial))
    (convertOnHelper_converts m vol targetVol targetNode _)

theorem move_handles (m : Migrator) (req : Request) (p : Plan) :
    (move m req p).run.Uses Handles := by
  unfold move
  split
  · exact uses_relabel (uses_mono (convertAndMove_converts _ _ _ _) (fun _ => converts_handles))
  · refine uses_either (uses_observed (uses_need rfl)) (fun _ => trivial) (fun _ => ?_)
    refine uses_try_bind ?_ (fun _ => trivial)
    refine uses_try_bind (uses_observed (uses_reads_handles (diskOnNode_reads _ _))) ?_
    intro seen
    split
    · split
      · exact uses_try_bind (uses_observed (uses_need rfl)) (fun _ => trivial)
      · trivial
    · trivial

theorem reachRewire_approaches (t : Patience) (m : Migrator) (req : Request) :
    (reachRewire t m req).run.Uses Approaches := by
  refine uses_try_bind (reachMove_approaches t m req) ?_
  intro a
  refine uses_try_bind (uses_onError (uses_prepares_approaches (uncordon_prepares _)) ?_)
    (fun _ => trivial)
  refine uses_try_bind ?_ ?_
  · unfold transfer
    split
    · trivial
    · exact uses_try_bind (uses_phase trivial) (fun _ =>
        uses_handles_approaches (move_handles m req a.plan))
  intro _
  refine uses_try_bind (uses_reads_approaches (verifyTarget_reads _ _)) ?_
  intro _
  exact uses_phase trivial

variable {C : Type} {w w' : World C}

theorem annotated_others {name : String} {patch : List (String × Option String)}
    {r : Except ApiError Unit} (h : ApiOutcome (.patchPVAnnotations name patch) w r w') :
    Others w w' := by
  refine ⟨outcome_wellNamed h,?_⟩
  intro n p hp
  rcases outcome_effect (by simp) h with rfl | rfl
  · exact ⟨p,hp,same_refl p⟩
  · simp only [serve, amend]
    split
    · exact ⟨p,hp,same_refl p⟩
    · rename_i v hv
      by_cases hn : n = name
      · subst hn
        rw [hv] at hp
        cases hp
        exact ⟨_,AList.lookup_insert _,⟨rfl,rfl,rfl,fun _ _ hc => hc⟩⟩
      · exact ⟨p,(AList.lookup_insert_ne hn).trans hp,same_refl p⟩

theorem approaches_others {c : Call} (hc : Approaches c) {r : Reply c}
    (h : CallOutcome c w r w') : Others w w' := by
  cases h with
  | @api a _ _ r h =>
    by_cases hk : Api.keepsVolumes a
    · exact others_keepsVolumes hk h
    · cases a with
      | patchPVAnnotations name patch => exact annotated_others h
      | createPV v site => cases hc
      | deletePV n site => cases hc
      | patchPVReclaimPolicy n policy => cases hc
      | clearClaimRef n => cases hc
      | _ => exact absurd rfl hk
  | _ => exact ⟨fun hw => hw,fun n p hp => ⟨p,hp,same_refl p⟩⟩

variable {env : History Call Reply (World C) → World C → World C → Prop}

/-- What the others preserve survives every run up to the rewire. -/
theorem runs_lasting {α : Type} (henv : ∀ h w w', env h w w' → Others w w') {A : World C → Prop}
    (hA : Lasting A) {c d : Config Call Reply (World C) α} (hr : Runs (cluster env) c d)
    (hu : c.prog.Uses Approaches) (hc : A c.world) : A d.world :=
  (runs_uses (I := fun _ w => A w) (fun h w w' he => hA w w' (henv h w w' he))
    (fun _ _ w _ w' hc ho => hA w w' (approaches_others hc ho)) hr hu hc).2

theorem reclaim_lasting (henv : ∀ h w w', env h w w' → Others w w') {A : World C → Prop}
    (hA : Lasting A) {vol targetVol : Volume} {h h' : History Call Reply (World C)} {w w' : World C}
    {p : Act (Except GoError Unit)} (hr : Runs (cluster env) ⟨h,w,
      (do let _ ← reclaimSourceDisk vol targetVol; pure () : M Unit).run⟩ ⟨h',w',p⟩) (hw : A w) :
    A w' := by
  have hu := reclaim_uses (fun c => ∃ a, c = .api a ∧ Api.keepsVolumes a) vol targetVol
    ⟨_,rfl,rfl⟩
  refine (runs_uses (I := fun _ w => A w) (fun h w w' he => hA w w' (henv h w w' he)) ?_ hr hu hw).2
  rintro _ h w r w' ⟨a,rfl,ha⟩ ho hw
  cases ho with
  | api ho => exact hA w w' (others_keepsVolumes ha ho) hw

end Approach

end ProxmoxCSI.MigrateFootprint
