import ProxmoxCSI.RewireGuard
import ProxmoxCSI.MigrateFootprint

/-!
# Triples for the parts of the rewire

One triple for each function, from the plan to the restored policy. The loop
of the bind wait keeps the reservation it was given or replaces it by one that
was created first.
-/

set_option autoImplicit false

namespace ProxmoxCSI.RewireTriples
open CallProgram CallProgram.Prog CallSafety CallErrors CallTriples ClusterState ClusterService
open MigratorCalls RewireProgram MigratorRules MigrateFootprint RewireEffects RewireGuard

variable {C : Type} {env : Hist C → World C → World C → Prop} {spared : Hist C → Prop} {j : Job}

section Plan

theorem triple_now {A : World C → Prop} {B : Hist C → Prop} {k : ℕ}
    (henv : ∀ h w w', env h w w' → Others w w') (hk : k ≤ maxClassReconciliations)
    (hA : Lasting A) (hB : Grows B) :
    Triple (cluster env) (Guard j spared) (Stage j k A B) (perform (issue Call.now) : M ℕ)
      (fun t => Stage j k A (fun h => B h ∧ t ∈ clockReads h)) := by
  refine triple_perform (stage_steady henv hk hA) (fun t => stage_steady henv hk hA) ?_
  intro h w t w' hs ho
  refine stage_read hs trivial ho (fun ha => ha) ⟨hB _ h hs.past,?_⟩
  exact List.mem_filterMap.mpr ⟨_,List.mem_cons_self,rfl⟩

theorem reserved_of_listed {w : World C} (hw : WellNamed w) {v : PersistentVolume}
    (hv : v ∈ values w.pvs) (hr : IsReservation j.ns j.name j.handle v) : Reserved j v.name w := by
  obtain ⟨n,hn⟩ := mem_values.mp hv
  obtain ⟨hret,_,hh,hc,_⟩ := hr
  exact ⟨v,(hw.volumes n v hn).symm ▸ hn,hh,hc,hret⟩

theorem findExistingReservation_triple {A : World C → Prop} {B : Hist C → Prop}
    (henv : ∀ h w w', env h w w' → Others w w') (hA : Lasting A) (hB : Grows B) :
    Triple (cluster env) (Guard j spared) (Stage j 0 A B)
      (findExistingReservation j.ns j.name j.handle)
      (fun o => Stage j 0 (fun w => A w ∧ ∀ v, o = some v → Reserved j v.name w) B) := by
  have hz : (0 : ℕ) ≤ maxClassReconciliations := Nat.zero_le _
  have hl : ∀ o : Option PersistentVolume,
      Lasting (fun w : World C => A w ∧ ∀ v, o = some v → Reserved j v.name w) := by
    intro o w w' ho h
    exact ⟨hA w w' ho h.1,fun v hv => reserved_lasting j _ w w' ho (h.2 v hv)⟩
  have hask : Triple (cluster env) (Guard j spared) (Stage j 0 A B) (ask .listPVs) (fun r =>
      Stage j 0 (fun w => A w ∧ ∀ v, r.toOption.bind (fun l : List PersistentVolume =>
        l.find? (fun p => IsReservation j.ns j.name j.handle p)) = some v → Reserved j v.name w)
        B) := by
    refine triple_stage_ask henv hz hA rfl (fun r => hl _) ?_
    intro h w r hs ho
    refine ⟨⟨hs.world,?_⟩,hB _ h hs.past⟩
    intro v hv
    cases r with
    | error e => cases hv
    | ok pvs =>
      have hr := congrArg Prod.fst (outcome_ok (by simp) ho)
      cases hr
      have hp := List.find?_some hv
      exact reserved_of_listed hs.named (List.mem_of_find?_eq_some hv) (of_decide_eq_true hp)
  refine triple_bind hask ?_
  intro r
  cases r with
  | error e => exact triple_pure (stage_steady henv hz (hl _)) (fun h w hs => hs)
  | ok pvs => exact triple_pure (stage_steady henv hz (hl _)) (fun h w hs => hs)

/-- What the plan fixes about the reservation. -/
structure Drafted (j : Job) (v : PersistentVolume) : Prop where
  handle : volumeHandleOf v = j.handle
  policy : v.reclaimPolicy = .retain
  claim : refNames v.claimRef j.ns j.name

theorem reservedPV_drafted {pv : PersistentVolume} {targetVol : VolumeHandle.Volume}
    (hcsi : pv.csi.isSome) (ht : targetVol.volumeID = j.handle) (sc : Option String)
    (name : String) : Drafted j (adoptPVClass sc (reservedPV j.ns j.name name pv targetVol)) := by
  refine ⟨?_,rfl,⟨_,rfl,rfl,rfl⟩⟩
  obtain ⟨c,hc⟩ := Option.isSome_iff_exists.mp hcsi
  simp only [volumeHandleOf, adoptPVClass, reservedPV, hc, Option.map_some, ht]

theorem reservedPV_name (pv : PersistentVolume) (targetVol : VolumeHandle.Volume)
    (sc : Option String) (ns pvcName name : String) :
    (adoptPVClass sc (reservedPV ns pvcName name pv targetVol)).name = name := rfl

theorem planRewire_triple {pvc : PersistentVolumeClaim} {targetVol : VolumeHandle.Volume}
    (henv : ∀ h w w', env h w w' → Others w w') (hpvc : pvc.name = j.name)
    (ht : targetVol.volumeID = j.handle) (hcsi : j.old.csi.isSome) {A : World C → Prop}
    (hA : Lasting A) :
    Triple (cluster env) (Guard j spared) (Stage j 0 A (fun _ => True))
      (planRewire j.ns pvc j.old targetVol)
      (fun r => Stage j 0 (fun w => A w ∧ (r.existing = true → Reserved j r.newPV.name w))
        (fun h => r.started ∈ clockReads h ∧ Drafted j r.newPV ∧
          r.finalPolicy = finalPolicyOf j.old)) := by
  have hz : (0 : ℕ) ≤ maxClassReconciliations := Nat.zero_le _
  refine triple_bind (triple_now henv hz hA (grows_const True)) ?_
  intro started
  have hB : Grows (fun h : Hist C => True ∧ started ∈ clockReads h) :=
    grows_and (grows_const True) (grows_clock started)
  rw [hpvc, ht]
  refine triple_bind (findExistingReservation_triple henv hA hB) ?_
  intro existing
  have hA' : Lasting (fun w : World C => A w ∧ ∀ v, existing = some v → Reserved j v.name w) :=
    lasting_and hA (fun w w' ho h v hv => reserved_lasting j _ w w' ho (h v hv))
  refine triple_bind (triple_stage_reads henv hz hA' hB (uses_perform ⟨trivial,fun _ => trivial⟩)) ?_
  intro uuid
  refine triple_bind (triple_stage_reads henv hz hA' hB (storageClassForStorage_reads _)) ?_
  intro sc
  refine triple_bind (triple_stage_reads henv hz hA' hB (validateReservedPV_uses _ _)) ?_
  intro _
  have hq : Reads (.api (.listResourceQuotas j.ns)) := rfl
  refine triple_bind (triple_stage_reads henv hz hA' hB (checkClassChange_uses hq _ _)) ?_
  intro _
  refine triple_pure (stage_steady henv hz hA') ?_
  intro h w hs
  refine stage_mono hs ?_ (fun hb => ⟨hb.2,reservedPV_drafted hcsi ht sc _,rfl⟩)
  intro ha
  refine ⟨ha.1,?_⟩
  intro he
  cases existing with
  | none => cases he
  | some v =>
    show Reserved j (adoptPVClass sc _).name w
    rw [reservedPV_name]
    exact ha.2 v rfl

end Plan

section Handover

variable {n : String} {B : Hist C → Prop}

theorem retainOld_triple {c : Prop} (henv : ∀ h w w', env h w w' → Others w w') (hB : Grows B) :
    Triple (cluster env) (Guard j spared)
      (Stage j 0 (fun w => OldIs j j.old.reclaimPolicy w ∧ (c → Reserved j n w)) B)
      (retainOld j.old) (fun _ => Stage j 0 (fun w => OldIs j .retain w ∧ (c → Reserved j n w))
        B) := by
  have hz : (0 : ℕ) ≤ maxClassReconciliations := Nat.zero_le _
  have hn : Lasting (fun w : World C => c → Reserved j n w) := lasting_imp (reserved_lasting j n)
  have hpre := lasting_and (oldIs_lasting (C := C) j j.old.reclaimPolicy) hn
  unfold retainOld
  split
  · refine triple_mono (triple_need (R := fun r =>
      Stage j 0 (fun w => (r = .ok () → OldIs j .retain w) ∧ (c → Reserved j n w)) B)
      (stage_steady henv hz hpre)
      (fun r => stage_steady henv hz (lasting_and (lasting_imp (oldIs_lasting j .retain)) hn)) ?_)
      (fun h w hs => hs) (fun x h w hs => stage_mono hs (fun ha => ⟨ha.1 rfl,ha.2⟩) (fun hb => hb))
    intro h w r w' hs ho
    refine stage_event (e := ⟨.api (.patchPVReclaimPolicy j.old.name .retain),r,w,w'⟩) hs
      (outcome_wellNamed ho) trivial hs.count ?_ ⟨?_,?_⟩ (hB _ h hs.past)
    · rintro ⟨m,hm⟩
      exact ⟨m,reserved_patchRetain ho hm⟩
    · rintro rfl
      obtain ⟨p,hp,hp'⟩ := patchPolicy_ok ho
      obtain ⟨q,hq,hh,_⟩ := hs.world.1
      rw [hp] at hq
      cases hq
      exact ⟨_,hp',hh,rfl⟩
    · intro hc
      exact reserved_patchRetain ho (hs.world.2 hc)
  · rename_i hr
    rw [not_not.mp hr]
    exact triple_pure (stage_steady henv hz (lasting_and (oldIs_lasting j .retain) hn))
      (fun h w hs => hs)

theorem drafted_reserved {v : PersistentVolume} (hv : Drafted j v) {site : PVCreation}
    {w w' : World C} (ho : ApiOutcome (.createPV v site) w (.ok ()) w') : Reserved j v.name w' :=
  ⟨_,(createPV_ok ho).2,hv.handle,hv.claim,hv.policy⟩

theorem reserve_triple {r : Rewire} (henv : ∀ h w w', env h w w' → Others w w') (hB : Grows B)
    (hr : Drafted j r.newPV) :
    Triple (cluster env) (Guard j spared) (Stage j 0 (fun w => OldIs j .retain w ∧
        (r.existing = true → Reserved j r.newPV.name w)) B)
      (reserve r) (fun _ => Stage j 0 (fun w => OldIs j .retain w ∧ Reserved j r.newPV.name w) B) := by
  have hz : (0 : ℕ) ≤ maxClassReconciliations := Nat.zero_le _
  have hn := reserved_lasting (C := C) j r.newPV.name
  have hold := oldIs_lasting (C := C) j .retain
  unfold reserve
  by_cases he : r.existing = true
  · rw [if_pos he]
    exact triple_pure (stage_steady henv hz (lasting_and hold (lasting_imp hn)))
      (fun h w hs => stage_mono hs (fun ha => ⟨ha.1,ha.2 he⟩) (fun hb => hb))
  · rw [if_neg he]
    refine triple_mono (triple_need (R := fun x =>
      Stage j 0 (fun w => OldIs j .retain w ∧ (x = .ok () → Reserved j r.newPV.name w)) B)
      (stage_steady henv hz (lasting_and hold (lasting_imp hn)))
      (fun x => stage_steady henv hz (lasting_and hold (lasting_imp hn))) ?_)
      (fun h w hs => hs) (fun x h w hs => stage_mono hs (fun ha => ⟨ha.1,ha.2 rfl⟩) (fun hb => hb))
    intro h w x w' hs ho
    have hw := createPV_others ho
    refine stage_event (e := ⟨.api (.createPV r.newPV .reservation),x,w,w'⟩) hs hw.named trivial
      hs.count (held_lasting j w w' hw) ⟨hold w w' hw hs.world.1,?_⟩ (hB _ h hs.past)
    rintro rfl
    exact drafted_reserved hr ho

theorem retirePair_triple {polls : ℕ} {pvc : PersistentVolumeClaim}
    (henv : ∀ h w w', env h w w' → Others w w') (hB : Grows B)
    (hne : volumeHandleOf j.old ≠ j.handle) :
    Triple (cluster env) (Guard j spared)
      (Stage j 0 (fun w => OldIs j .retain w ∧ Reserved j n w) B)
      (retirePair polls j.ns pvc j.old)
      (fun _ => Stage j 0 (Reserved j n) (fun h => B h ∧ Retired j h)) := by
  have hz : (0 : ℕ) ≤ maxClassReconciliations := Nat.zero_le _
  have hn := reserved_lasting (C := C) j n
  have hpre := lasting_and (oldIs_lasting (C := C) j .retain) hn
  have hret : Grows (Retired (C := C) j) := grows_exists _
  refine triple_bind (triple_need (R := fun _ =>
    Stage j 0 (fun w => OldIs j .retain w ∧ Reserved j n w) B) (stage_steady henv hz hpre)
    (fun _ => stage_steady henv hz hpre) ?_) ?_
  · intro h w r w' hs ho
    exact stage_add hs (others_keepsVolumes rfl ho) (.inl hs.world.1) hs.count hpre hB
  intro _
  refine triple_bind (triple_accepting (T := Stage j 0 (Reserved j n) (fun h => B h ∧ Retired j h))
    (stage_steady henv hz hpre) (stage_steady henv hz hn) ?_) ?_
  · intro h w r w' hs ho
    have hk : Reserved j n w' :=
      reserved_congr hs.world.2 (deletePV_rest ho (old_ne_reserved hne hs.world.1 hs.world.2))
    exact stage_event (e := ⟨.api (.deletePV j.old.name .oldPV),r,w,w'⟩) hs (outcome_wellNamed ho)
      hs.world.1
      hs.count (fun _ => ⟨n,hk⟩) hk ⟨hB _ h hs.past,_,List.mem_cons_self,rfl⟩
  intro _
  exact triple_relabel (triple_stage_reads henv hz hn (grows_and hB hret) (pvWaitDelete_reads _ _))

theorem recreatePVC_triple {pvc : PersistentVolumeClaim}
    (henv : ∀ h w w', env h w w' → Others w w') (hB : Grows B) :
    Triple (cluster env) (Guard j spared) (Stage j 0 (Reserved j n) B) (recreatePVC pvc)
      (fun _ => Stage j 0 (Reserved j n) B) := by
  have hs : Steady (cluster env) (Guard j spared) (Stage j 0 (Reserved j n) B) :=
    stage_steady henv (Nat.zero_le _) (reserved_lasting j n)
  refine triple_accepting hs hs ?_
  intro h w r w' hp ho
  exact stage_add hp (others_keepsVolumes rfl ho) trivial hp.count (reserved_lasting j n) hB

end Handover

end ProxmoxCSI.RewireTriples
