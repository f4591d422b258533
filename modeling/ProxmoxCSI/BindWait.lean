import ProxmoxCSI.RewireTriples

/-!
# Waiting for the bind

The wait ends when the claim is bound to the reserved volume or idles without a
consumer; in between it may clear a racing pair and replace the reservation.
A replaced reservation is deleted only after its successor exists.
-/

set_option autoImplicit false

namespace ProxmoxCSI.BindWait
open CallProgram CallProgram.Prog CallSafety CallErrors CallTriples ClusterState ClusterService
open MigratorCalls RewireProgram MigratorRules RewireEffects RewireGuard RewireTriples

variable {C : Type} {env : Hist C → World C → World C → Prop} {spared : Hist C → Prop} {j : Job}

def Underway (j : Job) (started : ℕ) (h : Hist C) : Prop :=
  Retired j h ∧ started ∈ clockReads h

theorem grows_underway (j : Job) (started : ℕ) : Grows (Underway (C := C) j started) :=
  grows_and (grows_exists _) (grows_clock started)

section Racing

variable {k started : ℕ} {n : String} {pvc : PersistentVolumeClaim} {reserved : PersistentVolume}

theorem deleteRacingPair_triple (henv : ∀ h w w', env h w w' → Others w w')
    (hk : k ≤ maxClassReconciliations) (hne : j.handle ≠ "") (hpvc : pvc.name = j.name) :
    Triple (cluster env) (Guard j spared) (Stage j k (Reserved j n) (Underway j started))
      (deleteRacingPair j.ns pvc j.handle started)
      (fun _ => Stage j k (Reserved j n) (Underway j started)) := by
  have hn := reserved_lasting (C := C) j n
  have hB := grows_underway (C := C) j started
  refine triple_bind (triple_stage_need (F := fun v w => Reserved j n w ∧ Stored v w)
    (G := fun _ => Underway j started) henv hk hn rfl
    (fun v => lasting_and hn (stored_lasting v)) ?_ (by simp)) ?_
  · intro h w v hs hv
    exact ⟨⟨hs.world,(stored_read hs.named (found_ok (Prod.mk.inj hv).1)).2⟩,hB _ h hs.past⟩
  intro fresh
  have hA := lasting_and hn (stored_lasting (C := C) fresh)
  have hst : Steady (cluster env) (Guard j spared)
      (Stage j k (fun w => Reserved j n w ∧ Stored fresh w) (Underway j started)) :=
    stage_steady henv hk hA
  refine triple_bind (triple_require hst) ?_
  intro _
  refine triple_fact ?_
  intro hdata
  refine triple_bind (triple_require hst) ?_
  intro _
  refine triple_fact ?_
  intro href
  refine triple_bind (triple_require hst) ?_
  intro _
  refine triple_fact ?_
  intro hlate
  have hother : volumeHandleOf fresh ≠ j.handle := by
    intro he
    refine hdata ⟨?_,he⟩
    by_contra hc
    rw [Bool.not_eq_true, Option.isSome_eq_false_iff, Option.isNone_iff_eq_none] at hc
    rw [volumeHandleOf, hc] at he
    exact hne he.symm
  rw [hpvc] at href ⊢
  refine triple_bind (triple_accepting hst hst ?_) ?_
  · intro h w r w' hs ho
    exact stage_add hs (others_keepsVolumes rfl ho) (.inr hs.past.1) hs.count hA hB
  intro _
  refine triple_accepting hst (stage_steady henv hk hn) ?_
  intro h w r w' hs ho
  obtain ⟨hres,p,hp,hsame⟩ := hs.world
  have hfresh : n ≠ fresh.name := by
    rintro rfl
    obtain ⟨q,hq,hh,_⟩ := hres
    rw [hp] at hq
    cases hq
    exact hother ((same_handle hsame).symm.trans hh)
  have hkeep : Reserved j n w' := reserved_congr hres (deletePV_rest ho hfresh)
  refine stage_event (e := ⟨.api (.deletePV fresh.name .racing),r,w,w'⟩) hs (outcome_wellNamed ho)
    ?_ hs.count (fun _ => ⟨n,hkeep⟩) hkeep (hB _ h hs.past)
  intro q hq
  rw [hp] at hq
  cases hq
  refine ⟨?_,hsame.claim _ _ href,started,hs.past.2,?_⟩
  · rw [same_handle hsame]
    exact hother
  · rw [hsame.created]
    exact hlate

theorem clearRacing_triple (henv : ∀ h w w', env h w w' → Others w w')
    (hk : k ≤ maxClassReconciliations) (hne : j.handle ≠ "") (hpvc : pvc.name = j.name)
    (hr : Drafted j reserved) :
    Triple (cluster env) (Guard j spared) (Stage j k (Reserved j n) (Underway j started))
      (clearRacing j.ns pvc reserved started)
      (fun _ => Stage j k (Reserved j n) (Underway j started)) := by
  unfold clearRacing
  rw [hr.handle]
  split
  · exact deleteRacingPair_triple henv hk hne hpvc
  · exact triple_pure (stage_steady henv hk (reserved_lasting j n)) (fun h w hs => hs)

theorem reserved_read {w : World C} (hw : WellNamed w) (hr : Reserved j n w) {v : PersistentVolume}
    (hv : w.pvs.lookup n = some v) : v.name = n ∧ Drafted j v := by
  obtain ⟨p,hp,hh,hc,hpol⟩ := hr
  rw [hv] at hp
  cases hp
  exact ⟨hw.volumes n v hv,hh,hpol,hc⟩

theorem reReserveDataPV_triple {storageClass : String} (henv : ∀ h w w', env h w w' → Others w w')
    (hk : k+1 ≤ maxClassReconciliations) :
    Triple (cluster env) (Guard j spared) (Stage j k (Reserved j reserved.name) (Underway j started))
      (reReserveDataPV reserved storageClass)
      (fun v => Stage j (k+1) (Reserved j v.name) (fun h => Underway j started h ∧ Drafted j v)) := by
  have hk' : k ≤ maxClassReconciliations := Nat.le_of_succ_le hk
  have hn := reserved_lasting (C := C) j reserved.name
  have hB := grows_underway (C := C) j started
  refine triple_bind (triple_stage_need (a := .getPV reserved.name)
    (F := fun _ => Reserved j reserved.name) (G := fun v h => Underway j started h ∧
      v.name = reserved.name ∧ Drafted j v) henv hk' hn rfl (fun _ => hn) ?_ (by simp)) ?_
  · intro h w v hs hv
    exact ⟨hs.world,hB _ h hs.past,reserved_read hs.named hs.world (found_ok (Prod.mk.inj hv).1)⟩
  intro current
  have hst : Steady (cluster env) (Guard j spared) (Stage j k (Reserved j reserved.name)
      (fun h => Underway j started h ∧ current.name = reserved.name ∧ Drafted j current)) :=
    stage_steady henv hk' hn
  refine triple_bind (triple_mono (triple_require hst) (fun h w hs => hs) (fun _ h w hs => hs.1)) ?_
  intro _
  refine triple_bind (triple_mono (triple_require hst) (fun h w hs => hs) (fun _ h w hs => hs.1)) ?_
  intro _
  refine triple_bind (triple_mono (triple_require hst) (fun h w hs => hs) (fun _ h w hs => hs.1)) ?_
  intro _
  refine triple_bind (triple_stage_reads henv hk' hn (grows_and hB (grows_const _))
    (uses_perform ⟨trivial,fun _ => trivial⟩)) ?_
  intro uuid
  simp only
  generalize hv : ({ current with
    name := "pvc-" ++ uuid, created := 0, phase := .pending,
    storageClassName := storageClass } : PersistentVolume) = next
  have hdraft : Drafted j current → Drafted j next := by
    intro hd
    rw [← hv]
    exact ⟨hd.handle,hd.policy,hd.claim⟩
  have hboth := lasting_and hn (reserved_lasting (C := C) j next.name)
  refine triple_bind (triple_mono (triple_need (R := fun r => Stage j (k+1)
    (fun w => Reserved j reserved.name w ∧ (r = .ok () → Reserved j next.name w))
    (fun h => (Underway j started h ∧ Drafted j next) ∧ (r = .ok () → next.name ≠ reserved.name) ∧
      current.name = reserved.name)) hst
    (fun r => stage_steady henv hk (lasting_and hn (lasting_imp (reserved_lasting j next.name)))) ?_)
    (fun h w hs => hs) (fun x h w hs => stage_mono (D := fun w => Reserved j reserved.name w ∧
      Reserved j next.name w) (E := fun h => (Underway j started h ∧ Drafted j next) ∧
        next.name ≠ reserved.name ∧ current.name = reserved.name) hs
      (fun ha => ⟨ha.1,ha.2 rfl⟩) (fun hb => ⟨hb.1,hb.2.1 rfl,hb.2.2⟩))) ?_
  · intro h w r w' hs ho
    have hw := createPV_others ho
    obtain ⟨hb,hname,hd⟩ := hs.past
    refine stage_event (e := ⟨.api (.createPV next .reReservation),r,w,w'⟩) hs hw.named trivial ?_
      (held_lasting j w w' hw) ⟨hn w w' hw hs.world,?_⟩ ⟨⟨hB _ h hb,hdraft hd⟩,?_,hname⟩
    · rw [reReservations, List.countP_cons_of_pos rfl]
      exact Nat.succ_le_succ hs.count
    · rintro rfl
      exact drafted_reserved (hdraft hd) ho
    · rintro rfl he
      obtain ⟨p,hp,_⟩ := hs.world
      rw [← he, (createPV_ok ho).1] at hp
      cases hp
  intro _
  refine triple_bind (triple_accepting (T := Stage j (k+1) (Reserved j next.name)
    (fun h => Underway j started h ∧ Drafted j next)) (stage_steady henv hk hboth)
    (stage_steady henv hk (reserved_lasting j next.name)) ?_) ?_
  · intro h w r w' hs ho
    obtain ⟨hb,hname,hcur⟩ := hs.past
    have hkeep : Reserved j next.name w' :=
      reserved_congr hs.world.2 (deletePV_rest ho (hcur ▸ hname))
    exact stage_event (e := ⟨.api (.deletePV current.name .outdated),r,w,w'⟩) hs
      (outcome_wellNamed ho) trivial hs.count (fun _ => ⟨_,hkeep⟩) hkeep
      (grows_and hB (grows_const _) _ h hb)
  intro _
  exact triple_pure (stage_steady henv hk (reserved_lasting j next.name)) (fun h w hs => hs)

theorem reconcileReservedClass_triple (henv : ∀ h w w', env h w w' → Others w w')
    (hk : k+1 ≤ maxClassReconciliations) (hne : j.handle ≠ "") (hpvc : pvc.name = j.name)
    (hr : Drafted j reserved) :
    Triple (cluster env) (Guard j spared) (Stage j k (Reserved j reserved.name) (Underway j started))
      (reconcileReservedClass j.ns pvc reserved started)
      (fun v => Stage j (k+1) (Reserved j v.name) (fun h => Underway j started h ∧ Drafted j v)) :=
  triple_bind (clearRacing_triple henv (Nat.le_of_succ_le hk) hne hpvc hr)
    (fun _ => reReserveDataPV_triple henv hk)

end Racing

theorem triple_stage_fact {α : Type} {k : ℕ} {A : World C → Prop} {B : Hist C → Prop} {c : Prop}
    {x : M α} {Q : α → Assertion Call Reply (World C)}
    (hx : c → Triple (cluster env) (Guard j spared) (Stage j k A B) x Q) :
    Triple (cluster env) (Guard j spared) (Stage j k A (fun h => B h ∧ c)) x Q := by
  intro h w hs
  exact hx hs.past.2 h w (stage_mono hs (fun ha => ha) (fun hb => hb.1))

section Idle

variable {k : ℕ} {n : String} {A : World C → Prop} {B : Hist C → Prop}

theorem isWaitForFirstConsumer_triple (henv : ∀ h w w', env h w w' → Others w w')
    (hk : k ≤ maxClassReconciliations) (hA : Lasting A) (hB : Grows B) (className : String) :
    Triple (cluster env) (Guard j spared) (Stage j k A B) (isWaitForFirstConsumer className)
      (fun b => Stage j k A (fun h => B h ∧ (b = true → ∃ e ∈ h, ListsWaiting className e))) := by
  have hno : ∀ b : Bool, b = false → Triple (cluster env) (Guard j spared) (Stage j k A B)
      (pure b : M Bool) (fun b => Stage j k A
        (fun h => B h ∧ (b = true → ∃ e ∈ h, ListsWaiting className e))) := by
    rintro b rfl
    exact triple_pure (stage_steady henv hk hA)
      (fun h w hs => stage_mono hs (fun ha => ha) (fun hb => ⟨hb,Bool.noConfusion⟩))
  unfold isWaitForFirstConsumer
  split
  · exact hno false rfl
  · have hask : Triple (cluster env) (Guard j spared) (Stage j k A B) (ask .listStorageClasses)
        (fun r => Stage j k A (fun h => B h ∧ ∀ scs, r = .ok scs → ∀ sc ∈ scs, sc.name = className →
          sc.volumeBindingMode = some .waitForFirstConsumer → ∃ e ∈ h, ListsWaiting className e)) := by
      refine triple_stage_ask henv hk hA rfl (fun _ => hA) ?_
      intro h w r hs ho
      refine ⟨hs.world,hB _ h hs.past,?_⟩
      rintro scs rfl sc hm hname hmode
      exact ⟨_,List.mem_cons_self,sc,hm,hname,hmode⟩
    refine triple_bind hask ?_
    intro r
    cases r with
    | error e =>
      exact triple_mono (hno false rfl) (fun h w hs => stage_mono hs (fun ha => ha) (fun hb => hb.1))
        (fun _ h w hs => hs)
    | ok scs =>
      simp only
      split
      · rename_i sc hsc
        have hname := List.find?_some hsc
        refine triple_pure (stage_steady henv hk hA) ?_
        intro h w hs
        refine stage_mono hs (fun ha => ha) (fun hb => ⟨hb.1,?_⟩)
        intro hm
        exact hb.2 scs rfl sc (List.mem_of_find?_eq_some hsc) (of_decide_eq_true hname)
          (of_decide_eq_true hm)
      · exact triple_mono (hno false rfl) (fun h w hs => stage_mono hs (fun ha => ha) (fun hb => hb.1))
          (fun _ h w hs => hs)

theorem pvcConsumers_triple (henv : ∀ h w w', env h w w' → Others w w')
    (hk : k ≤ maxClassReconciliations) (hA : Lasting A) (hB : Grows B)
    (hheld : ∀ w, A w → Held j w) :
    Triple (cluster env) (Guard j spared) (Stage j k A B) (observed (pvcConsumers j.ns j.name))
      (fun r => Stage j k A (fun h => B h ∧ (r = .ok [] → SeenIdle j h))) := by
  refine triple_observed ?_
  intro h w hs
  have hst : ∀ B : Hist C → Prop, Steady (cluster env) (Guard j spared) (Stage j k A B) :=
    fun B => stage_steady henv hk hA
  refine safe_call (hst B).stable hs (fun w₁ h₁ => (hst B).safe h w₁ h₁) ?_
  intro w₁ r w₂ h₁ ho
  have hw := reads_outcome (c := .api (.listPods j.ns)) rfl ho
  subst hw
  cases r with
  | error e =>
    refine safe_done (hst (fun h => B h)).stable
      (stage_read (E := B) h₁ rfl ho (fun ha => ha) (hB _ h h₁.past)) ?_
    intro w₃ h₃
    exact ⟨(hst _).safe _ w₃ h₃,stage_mono h₃ (fun ha => ha) (fun hb => ⟨hb,nofun⟩)⟩
  | ok pods =>
    refine safe_done (hst (fun h => B h ∧ ((pods.filter (fun p => p.phase ≠ .succeeded ∧
      p.phase ≠ .failed ∧ j.name ∈ p.claims)).map Pod.name = [] → SeenIdle j h))).stable
      (stage_read h₁ rfl ho (fun ha => ha) ⟨hB _ h h₁.past,?_⟩) ?_
    · intro hnone
      refine ⟨_,List.mem_cons_self,rfl,hheld w₂ h₁.world,?_⟩
      intro p hp hsucc hfail hclaim
      have hmem := List.filter_eq_nil_iff.mp (List.map_eq_nil_iff.mp hnone) p hp
      exact hmem (decide_eq_true ⟨hsucc,hfail,hclaim⟩)
    · intro w₃ h₃
      refine ⟨(hst _).safe _ w₃ h₃,stage_mono h₃ (fun ha => ha) (fun hb => ⟨hb.1,?_⟩)⟩
      intro he
      exact hb.2 (Except.ok.inj he)

theorem reservedPVCIsIdleWFFC_triple {pvc : PersistentVolumeClaim} {reserved : PersistentVolume}
    (henv : ∀ h w w', env h w w' → Others w w') (hk : k ≤ maxClassReconciliations)
    (hB : Grows B) (hpvc : pvc.name = j.name) :
    Triple (cluster env) (Guard j spared) (Stage j k (Reserved j n) B)
      (reservedPVCIsIdleWFFC j.ns pvc reserved)
      (fun b => Stage j k (Reserved j n) (fun h => B h ∧ (b = true → pvc.volumeName = "" ∧
        (∃ e ∈ h, ListsWaiting (pvcClassName pvc) e) ∧ SeenIdle j h))) := by
  have hn := reserved_lasting (C := C) j n
  have hno : Triple (cluster env) (Guard j spared) (Stage j k (Reserved j n) B)
      (pure false : M Bool) (fun b => Stage j k (Reserved j n) (fun h => B h ∧ (b = true →
        pvc.volumeName = "" ∧ (∃ e ∈ h, ListsWaiting (pvcClassName pvc) e) ∧ SeenIdle j h))) :=
    triple_pure (stage_steady henv hk hn)
      (fun h w hs => stage_mono hs (fun ha => ha) (fun hb => ⟨hb,Bool.noConfusion⟩))
  unfold reservedPVCIsIdleWFFC
  rw [hpvc]
  split
  · exact hno
  · rename_i hv
    split
    · exact hno
    · refine triple_bind (isWaitForFirstConsumer_triple henv hk hn hB _) ?_
      intro waits
      cases waits with
      | false =>
        exact triple_mono hno (fun h w hs => stage_mono hs (fun ha => ha) (fun hb => hb.1))
          (fun _ h w hs => hs)
      | true =>
        have hB' : Grows (fun h : Hist C => B h ∧
            (true = true → ∃ e ∈ h, ListsWaiting (pvcClassName pvc) e)) :=
          grows_and hB (fun e h hw ht => grows_exists _ e h (hw ht))
        refine triple_bind (pvcConsumers_triple henv hk hn hB' (fun w hw => ⟨n,hw⟩)) ?_
        intro r
        cases r with
        | error e =>
          exact triple_mono hno (fun h w hs => stage_mono hs (fun ha => ha) (fun hb => hb.1.1))
            (fun _ h w hs => hs)
        | ok pods =>
          refine triple_pure (stage_steady henv hk hn) ?_
          intro h w hs
          refine stage_mono hs (fun ha => ha) (fun hb => ⟨hb.1.1,?_⟩)
          intro hpods
          rw [List.isEmpty_iff] at hpods
          exact ⟨not_not.mp hv,hb.1.2 rfl,hb.2 (congrArg Except.ok hpods)⟩

end Idle

section Wait

def Seen (j : Job) (h : Hist C) : Prop := SeenBound j h ∨ SeenWaiting j h

def Binding (j : Job) (env : Hist C → World C → World C → Prop) (n : String) :
    Assertion Call Reply (World C) :=
  fun h w => Keeping j env → ¬SeenIdle j h → SeenBound j h ∧ BoundTo j n w

def Ended (j : Job) (env : Hist C → World C → World C → Prop) (n : String) :
    Assertion Call Reply (World C) :=
  fun h w => Stage j maxClassReconciliations (Reserved j n) (Seen j) h w ∧ Binding j env n h w

theorem binding_stable (n : String) : Stable (cluster env) (Binding j env n) := by
  intro h w w' he hb hkeep hidle
  obtain ⟨hseen,hbound⟩ := hb hkeep hidle
  exact ⟨hseen,hkeep h w w' he hseen n hbound⟩

theorem ended_steady (henv : ∀ h w w', env h w w' → Others w w') (n : String) :
    Steady (cluster env) (Guard j spared) (Ended j env n) :=
  steady_and (stage_steady henv le_rfl (reserved_lasting j n)) (binding_stable n)

def Waiting (j : Job) (started : ℕ) (s : BindWait) : Assertion Call Reply (World C) :=
  Stage j s.reconciliations (Reserved j s.reserved.name) (fun h => Underway j started h ∧
    Drafted j s.reserved ∧ s.reconciliations ≤ maxClassReconciliations)

variable {started : ℕ} {s : BindWait} {again : BindWait → M String}

theorem nextPoll_triple (henv : ∀ h w w', env h w w' → Others w w')
    (hs : s.reconciliations ≤ maxClassReconciliations) {name : String}
    (hagain : ∀ s, Triple (cluster env) (Guard j spared) (Waiting j started s) (again s)
      (Ended j env)) :
    Triple (cluster env) (Guard j spared) (Waiting j started s) (nextPoll name again s)
      (Ended j env) := by
  obtain ⟨polls,k,reserved⟩ := s
  cases polls with
  | zero => exact triple_throw (stage_steady henv hs (reserved_lasting j _))
  | succ n => exact hagain ⟨n,k,reserved⟩

/-- What one read of the claim establishes. -/
structure ClaimRead (j : Job) (n : String) (c : PersistentVolumeClaim) (h : Hist C) : Prop where
  bound : c.volumeName = n → SeenBound j h
  unbound : c.volumeName = "" → ∃ e ∈ h, ReadUnbound j (pvcClassName c) e

theorem grows_claimRead (j : Job) (n : String) (c : PersistentVolumeClaim) :
    Grows (ClaimRead (C := C) j n c) := by
  intro e h hc
  exact ⟨fun hb => grows_exists _ e h (hc.bound hb),fun hu => grows_exists _ e h (hc.unbound hu)⟩

def Claimed (j : Job) (started : ℕ) (s : BindWait) (c : PersistentVolumeClaim) :
    Assertion Call Reply (World C) :=
  Stage j s.reconciliations (Reserved j s.reserved.name) (fun h =>
    (Underway j started h ∧ ClaimRead j s.reserved.name c h) ∧ c.name = j.name)

def AfterRead (j : Job) (env : Hist C → World C → World C → Prop) (started : ℕ) (s : BindWait) :
    Except ApiError PersistentVolumeClaim → Assertion Call Reply (World C)
  | .error _ => Waiting j started s
  | .ok c => fun h w => Claimed j started s c h w ∧
      (c.volumeName = s.reserved.name → Binding j env s.reserved.name h w)

theorem getPVC_triple (henv : ∀ h w w', env h w w' → Others w w')
    (hs : s.reconciliations ≤ maxClassReconciliations) :
    Triple (cluster env) (Guard j spared) (Waiting j started s) (ask (.getPVC j.ns j.name))
      (AfterRead j env started s) := by
  have hn := reserved_lasting (C := C) j s.reserved.name
  refine triple_ask (stage_steady henv hs hn) ?_ ?_
  · intro r
    cases r with
    | error e => exact stage_steady henv hs hn
    | ok c =>
      exact steady_and (stage_steady henv hs hn)
        (fun h w w' he hb hv => binding_stable _ h w w' he (hb hv))
  intro h w r w' hp ho
  have hw := outcome_readOnly rfl ho
  subst hw
  have hB : Underway j started (⟨.api (.getPVC j.ns j.name),r,w',w'⟩::h) :=
    grows_underway j started _ h hp.past.1
  cases r with
  | error e => exact stage_read hp rfl (.api ho) (fun ha => ha) ⟨hB,hp.past.2⟩
  | ok c =>
    have hread : w'.pvcs.lookup (j.ns,j.name) = some c :=
      found_ok (Prod.mk.inj (outcome_ok (by simp) ho)).1
    have hseen : c.volumeName = s.reserved.name →
        SeenBound j (⟨.api (.getPVC j.ns j.name),.ok c,w',w'⟩::h) :=
      fun hv => ⟨_,List.mem_cons_self,rfl,rfl,hv ▸ reserved_carried hp.world⟩
    refine ⟨stage_read hp rfl (.api ho) (fun ha => ha) ⟨⟨hB,hseen,?_⟩,?_⟩,?_⟩
    · exact fun hu => ⟨_,List.mem_cons_self,rfl,rfl,hu,rfl⟩
    · exact (Prod.mk.inj (hp.named.claims _ c hread)).2
    · exact fun hv _ _ => ⟨hseen hv,c,hread,hv⟩

/-- The claim still waits for its volume: the wait ends only if it idles. -/
theorem idle_triple (henv : ∀ h w w', env h w w' → Others w w')
    (hs : s.reconciliations ≤ maxClassReconciliations) (hd : Drafted j s.reserved)
    {pvc : PersistentVolumeClaim} (hpvc : pvc.name = j.name) {name : String}
    (hagain : ∀ s, Triple (cluster env) (Guard j spared) (Waiting j started s) (again s)
      (Ended j env)) :
    Triple (cluster env) (Guard j spared) (Claimed j started s pvc) (do
      if ← reservedPVCIsIdleWFFC j.ns pvc s.reserved then pure s.reserved.name
      else nextPoll name again s) (Ended j env) := by
  have hB : Grows (fun h : Hist C => (Underway j started h ∧
      ClaimRead j s.reserved.name pvc h) ∧ pvc.name = j.name) :=
    grows_and (grows_and (grows_underway j started) (grows_claimRead j _ pvc)) (grows_const _)
  refine triple_bind (reservedPVCIsIdleWFFC_triple henv hs hB hpvc) ?_
  intro idle
  cases idle with
  | false =>
    exact triple_mono (nextPoll_triple henv hs hagain)
      (fun h w hp => stage_mono hp (fun ha => ha) (fun hb => ⟨hb.1.1.1,hd,hs⟩)) (fun _ h w hq => hq)
  | true =>
    refine triple_mono (triple_pure (P := Ended j env s.reserved.name) (ended_steady henv _)
      (fun h w he => he)) ?_ (fun _ h w hq => hq)
    intro h w hp
    obtain ⟨⟨⟨_,hread⟩,_⟩,hidle⟩ := hp.past
    obtain ⟨hv,hlists,hseen⟩ := hidle rfl
    refine ⟨⟨hp.named,hp.orderly,hp.count.trans hs,hp.guard,hp.world,?_⟩,?_⟩
    · exact .inr ⟨pvcClassName pvc,hread.unbound hv,hlists,hseen⟩
    · exact fun _ hno => absurd hseen hno

theorem bindRound_triple (henv : ∀ h w w', env h w w' → Others w w') (hne : j.handle ≠ "")
    (hagain : ∀ s, Triple (cluster env) (Guard j spared) (Waiting j started s) (again s)
      (Ended j env)) (s : BindWait) :
    Triple (cluster env) (Guard j spared) (Waiting j started s)
      (bindRound j.ns j.name started again s) (Ended j env) := by
  intro h₀ w₀ h₁
  obtain ⟨_,hd,hk⟩ := h₁.past
  refine triple_bind (getPVC_triple henv hk) ?_ h₀ w₀ h₁
  intro r
  have hn := reserved_lasting (C := C) j s.reserved.name
  cases r with
  | error e =>
    cases e with
    | notFound => exact nextPoll_triple henv hk hagain
    | _ => exact triple_throw (stage_steady henv hk hn)
  | ok pvc =>
    have hst : Steady (cluster env) (Guard j spared) (Claimed j started s pvc) :=
      stage_steady henv hk hn
    simp only
    split
    · rename_i hv
      refine triple_mono (triple_pure (P := Ended j env s.reserved.name) (ended_steady henv _)
        (fun h w he => he)) ?_ (fun _ h w hq => hq)
      rintro h w ⟨hp,hb⟩
      exact ⟨⟨hp.named,hp.orderly,hp.count.trans hk,hp.guard,hp.world,.inl (hp.past.1.2.bound hv)⟩,
        hb hv⟩
    · refine triple_mono (P := Claimed j started s pvc) ?_ (fun h w hp => hp.1) (fun _ h w hq => hq)
      intro h₂ w₂ h₃
      have hname := h₃.past.2
      revert h₂ w₂ h₃
      show Triple _ _ _ _ _
      split
      · split
        · exact triple_throw hst
        · rename_i hmax
          refine triple_bind (triple_mono (reconcileReservedClass_triple henv (Nat.not_le.mp hmax)
            hne hname hd) (fun h w hp => stage_mono hp (fun ha => ha) (fun hb => hb.1.1))
            (fun _ h w hq => hq)) ?_
          intro v
          exact triple_mono (hagain ⟨s.polls,s.reconciliations+1,v⟩)
            (fun h w hp => stage_mono hp (fun ha => ha)
              (fun hb => ⟨hb.1,hb.2,Nat.not_le.mp hmax⟩)) (fun _ h w hq => hq)
      · split
        · exact triple_throw hst
        · exact idle_triple henv hk hd hname hagain

theorem waitReservedPVBind_triple (henv : ∀ h w w', env h w w' → Others w w')
    (hne : j.handle ≠ "") {reserved : PersistentVolume} (hd : Drafted j reserved) (polls : ℕ) :
    Triple (cluster env) (Guard j spared)
      (Stage j 0 (Reserved j reserved.name) (Underway j started))
      (waitReservedPVBind polls j.ns j.name reserved started) (Ended j env) := by
  refine triple_mono (triple_rounds (P := Waiting j started) ?_
    (fun again hagain s => bindRound_triple henv hne hagain s) _ ⟨polls,0,reserved⟩)
    (fun h w hp => stage_mono hp (fun ha => ha) (fun hb => ⟨hb,hd,Nat.zero_le _⟩))
    (fun _ h w hq => hq)
  intro s h w hp
  exact triple_throw (stage_steady henv hp.past.2.2 (reserved_lasting j s.reserved.name)) h w hp

end Wait

end ProxmoxCSI.BindWait
