import ProxmoxCSI.BindWait

/-!
# The moved disk is guarded throughout the rewire

In every run of the rewire, stopped anywhere and under any interference of the
claim's owner, the binder and the provisioner, the old volume is retained before
it goes, only racing volumes are cleared and re-reservations are bounded. The
moved disk stays guarded unless the final policy is restored on a volume the
claim is not, or no longer, bound to.
-/

set_option autoImplicit false

namespace ProxmoxCSI.MovedDataGuard
open CallProgram CallProgram.Prog CallSafety CallErrors CallTriples CallSchedule ClusterState
open ClusterService VolumeHandle MigratorCalls RewireProgram MigratorRules RewireEffects RewireGuard
open RewireTriples BindWait

variable {C : Type} {env : Hist C → World C → World C → Prop} {j : Job}

def Spared (j : Job) (env : Hist C → World C → World C → Prop) (h : Hist C) : Prop :=
  j.old.reclaimPolicy = .retain ∨ (Keeping j env ∧ ¬SeenIdle j h)

/-- The rewire has restored the policy of the volume `n`, or tried to. -/
structure Rewired (j : Job) (env : Hist C → World C → World C → Prop) (n : String) (h : Hist C)
    (w : World C) : Prop where
  orderly : Orderly j h
  count : reReservations h ≤ maxClassReconciliations
  seen : Seen j h
  carried : Carried j n w
  retained : j.old.reclaimPolicy = .retain → Reserved j n w
  bound : Binding j env n h w

theorem rewired_steady (henv : ∀ h w w', env h w w' → Others w w') (n : String) :
    Steady (cluster env) (Guard j (Spared j env)) (Rewired j env n) where
  stable := by
    intro h w w' he hr
    have ho := henv h w w' he
    exact ⟨hr.orderly,hr.count,hr.seen,carried_lasting j n w w' ho hr.carried,
      fun hret => reserved_lasting j n w w' ho (hr.retained hret),
      binding_stable n h w w' he hr.bound⟩
  safe := by
    intro h w hr
    refine ⟨hr.orderly,hr.count,?_⟩
    rintro (hret | ⟨hkeep,hidle⟩) _
    · exact held_guarded ⟨n,hr.retained hret⟩
    · obtain ⟨p,hp,hh,_⟩ := hr.carried
      exact ⟨n,p,hp,hh,.inr (hr.bound hkeep hidle).2⟩

theorem ended_rewired {n : String} {h : Hist C} {w : World C} (he : Ended j env n h w) :
    Rewired j env n h w :=
  ⟨he.1.orderly,he.1.count,he.1.past,reserved_carried he.1.world,fun _ => he.1.world,he.2⟩

theorem carried_patchPolicy {n m : String} {policy : ReclaimPolicy} {r : Except ApiError Unit}
    {w w' : World C} (ho : ApiOutcome (.patchPVReclaimPolicy m policy) w r w')
    (hc : Carried j n w) : Carried j n w' := by
  obtain ⟨p,hp,hh,hr⟩ := hc
  rcases patchPolicy_rest ho hp with hp' | ⟨_,hp'⟩
  · exact ⟨p,hp',hh,hr⟩
  · exact ⟨_,hp',hh,hr⟩

theorem patchPolicy_claims {m : String} {policy : ReclaimPolicy} {r : Except ApiError Unit}
    {w w' : World C} (ho : ApiOutcome (.patchPVReclaimPolicy m policy) w r w') :
    w'.pvcs = w.pvcs := by
  rcases outcome_effect (by simp) ho with rfl | rfl
  · rfl
  · simp only [serve, amend]
    split <;> rfl

theorem restorePolicy_triple (henv : ∀ h w w', env h w w' → Others w w') (n : String) :
    Triple (cluster env) (Guard j (Spared j env)) (Ended j env n)
      (restorePolicy n (finalPolicyOf j.old)) (fun _ => Rewired j env n) := by
  unfold restorePolicy
  split
  · rename_i hfinal
    have hold : j.old.reclaimPolicy ≠ .retain := by
      intro hret
      refine hfinal ?_
      rw [finalPolicyOf, hret]
      rfl
    refine triple_need (R := fun _ => Rewired j env n) (ended_steady henv n)
      (fun _ => rewired_steady henv n) ?_
    intro h w r w' he ho
    refine ⟨⟨trivial,he.1.orderly⟩,he.1.count,?_,carried_patchPolicy ho (reserved_carried he.1.world),
      fun hret => absurd hret hold,?_⟩
    · rcases he.1.past with hb | hw
      · exact .inl (grows_exists _ _ h hb)
      · exact .inr (grows_waiting j _ h hw)
    · intro hkeep hidle
      obtain ⟨hseen,c,hc,hv⟩ := he.2 hkeep (fun hi => hidle (grows_exists _ _ h hi))
      exact ⟨grows_exists _ _ h hseen,c,(patchPolicy_claims ho) ▸ hc,hv⟩
  · exact triple_pure (ended_steady henv n) (fun h w he => ended_rewired he)

theorem replacePVTopology_triple (henv : ∀ h w w', env h w w' → Others w w') (t : Patience)
    {pvc : PersistentVolumeClaim} {targetVol : Volume} (hpvc : pvc.name = j.name)
    (ht : targetVol.volumeID = j.handle) (hcsi : j.old.csi.isSome)
    (hne : volumeHandleOf j.old ≠ j.handle) :
    Triple (cluster env) (Guard j (Spared j env))
      (Stage j 0 (OldIs j j.old.reclaimPolicy) (fun _ => True))
      (replacePVTopology t j.ns pvc j.old targetVol) (fun _ h w => ∃ n, Rewired j env n h w) := by
  refine triple_bind (planRewire_triple henv hpvc ht hcsi (oldIs_lasting j _)) ?_
  intro r
  refine triple_stage_fact ?_
  rintro ⟨hd,hfinal⟩
  have hB := grows_clock (C := C) r.started
  refine triple_bind (retainOld_triple henv hB) ?_
  intro _
  refine triple_bind (reserve_triple henv hB hd) ?_
  intro _
  refine triple_bind (retirePair_triple henv hB hne) ?_
  intro _
  refine triple_bind (recreatePVC_triple henv (grows_and hB (grows_exists _))) ?_
  intro _
  rw [hpvc, hfinal]
  refine triple_bind (triple_mono
    (waitReservedPVBind_triple henv (ht ▸ volumeID_ne_empty targetVol) hd t.bind)
    (fun h w hs => stage_mono hs (fun ha => ha) (fun hb => ⟨hb.2,hb.1⟩)) (fun _ h w hq => hq)) ?_
  intro n
  exact triple_mono (restorePolicy_triple henv n) (fun h w he => he) (fun _ h w hq => ⟨n,hq⟩)

def jobOf (ns : String) (pvc : PersistentVolumeClaim) (pv : PersistentVolume)
    (targetVol : Volume) : Job := ⟨ns,pvc.name,targetVol.volumeID,pv⟩

theorem rewire_guards_moved_disk (henv : ∀ h w w', env h w w' → Others w w') (t : Patience)
    (ns : String) (pvc : PersistentVolumeClaim) (pv : PersistentVolume) (targetVol : Volume)
    {w : World C} (hw : WellNamed w) (hcsi : pv.csi.isSome)
    (hold : OldIs (jobOf ns pvc pv targetVol) pv.reclaimPolicy w)
    (hne : volumeHandleOf pv ≠ targetVol.volumeID)
    {d : Config Call Reply (World C) (Except GoError Unit)}
    (hr : Runs (cluster env) ⟨[],w,(replacePVTopology t ns pvc pv targetVol).run⟩ d) :
    Orderly (jobOf ns pvc pv targetVol) d.hist ∧
    reReservations d.hist ≤ maxClassReconciliations ∧
    (Spared (jobOf ns pvc pv targetVol) env d.hist →
      Reserving (jobOf ns pvc pv targetVol) d.hist →
        Guarded (jobOf ns pvc pv targetVol) d.world) := by
  have ht := replacePVTopology_triple (j := jobOf ns pvc pv targetVol) henv t rfl rfl hcsi hne
  exact triple_invariant ht (stage_start hw hold) hr

section Samples

def sampleTarget : Volume := newVolume "r" "n2" "data" "vm-9999-pvc-a"

def sampleJob (policy : ReclaimPolicy) : Job :=
  jobOf "ns" sampleClaim (sampleVolume "r/n1/data/vm-9999-pvc-a" policy) sampleTarget

def sampleRewire (policy : ReclaimPolicy) :
    Finished Call Reply (World ℕ) (Except GoError Unit) :=
  finish (faulty []) (replacePVTopology samplePatience "ns" sampleClaim
    (sampleVolume "r/n1/data/vm-9999-pvc-a" policy) sampleTarget).run []
    (sampleWorld "vm-9999-pvc-a" policy)

def holds (j : Job) (w : World ℕ) : Bool :=
  (values w.pvs).any (fun p => decide (volumeHandleOf p = j.handle ∧
    refNames p.claimRef j.ns j.name ∧ p.reclaimPolicy = .retain))

theorem held_of_holds {j : Job} {w : World ℕ} (h : holds j w) : Held j w := by
  obtain ⟨p,hp,hc⟩ := List.any_eq_true.mp h
  obtain ⟨n,hn⟩ := mem_values.mp hp
  exact ⟨n,p,hn,of_decide_eq_true hc⟩

def exposed (j : Job) (w : World ℕ) : Bool :=
  (values w.pvs).all (fun p => decide (volumeHandleOf p = j.handle → p.reclaimPolicy ≠ .retain)) &&
    (w.pvcs.lookup (j.ns,j.name)).all (fun c => (w.pvs.lookup c.volumeName).isNone)

theorem not_guarded_of_exposed {j : Job} {w : World ℕ} (h : exposed j w) : ¬Guarded j w := by
  rintro ⟨n,p,hp,hh,hg⟩
  obtain ⟨hall,hclaim⟩ := Bool.and_eq_true_iff.mp h
  rcases hg with hret | ⟨c,hc,rfl⟩
  · exact of_decide_eq_true (List.all_eq_true.mp hall p (mem_values.mpr ⟨n,hp⟩)) hh hret
  · rw [hc] at hclaim
    simp [hp] at hclaim

theorem sampleRewire_runs (policy : ReclaimPolicy) :
    Runs solo ⟨[],sampleWorld "vm-9999-pvc-a" policy,(replacePVTopology samplePatience "ns"
      sampleClaim (sampleVolume "r/n1/data/vm-9999-pvc-a" policy) sampleTarget).run⟩
      ⟨(sampleRewire policy).hist,(sampleRewire policy).world,.done (sampleRewire policy).value⟩ :=
  finish_runs (faulty_lawful []) _ _ _

theorem reserving_of_any {j : Job} {h : Hist ℕ} (hh : h.any (fun e => holds j e.after)) :
    Reserving j h := by
  obtain ⟨e,he,hc⟩ := List.any_eq_true.mp hh
  exact ⟨e,he,held_of_holds hc⟩

/-- The wait ends with an idle claim and the policy is restored: nothing guards
the moved disk, although no call failed and nobody interfered. -/
theorem idle_claim_exposed : ∃ h w, Runs solo ⟨[],sampleWorld "vm-9999-pvc-a" .delete,
      (replacePVTopology samplePatience "ns" sampleClaim
        (sampleVolume "r/n1/data/vm-9999-pvc-a" .delete) sampleTarget).run⟩
      ⟨h,w,.done (.ok ())⟩ ∧
    Reserving (sampleJob .delete) h ∧ ¬Guarded (sampleJob .delete) w := by
  have hv : (sampleRewire .delete).value.isOk = true := by decide +kernel
  have hr := sampleRewire_runs .delete
  cases ho : (sampleRewire .delete).value with
  | error e =>
    rw [ho] at hv
    cases hv
  | ok u =>
    rw [ho] at hr
    exact ⟨_,_,hr,reserving_of_any (by decide +kernel),not_guarded_of_exposed (by decide +kernel)⟩

theorem sampleWorld_wellNamed (disk : String) (policy : ReclaimPolicy) :
    WellNamed (sampleWorld disk policy) where
  volumes := by
    refine named_insert (t := (∅ : Table String PersistentVolume)) ?_ rfl
    intro k b hb
    cases hb
  claims := by
    refine named_insert (t := (∅ : Table (String × String) PersistentVolumeClaim)) ?_ rfl
    intro k b hb
    cases hb

theorem retained_rewire_guarded : Guarded (sampleJob .retain) (sampleRewire .retain).world := by
  have hnone : ∀ (h : Hist ℕ) (w w' : World ℕ), False → Others w w' := fun _ _ _ he => he.elim
  have hg := rewire_guards_moved_disk hnone samplePatience "ns" sampleClaim
    (sampleVolume "r/n1/data/vm-9999-pvc-a" .retain) sampleTarget
    (sampleWorld_wellNamed "vm-9999-pvc-a" .retain) rfl ⟨_,AList.lookup_insert _,rfl,rfl⟩
    (by decide +kernel) (sampleRewire_runs .retain)
  exact hg.2.2 (.inl rfl) (reserving_of_any (by decide +kernel))

end Samples

end ProxmoxCSI.MovedDataGuard
