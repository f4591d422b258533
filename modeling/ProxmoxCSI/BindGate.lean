import ProxmoxCSI.MovedDataGuard

/-!
# The source disk goes after the bind

A migration deletes its source disk only behind the rewire. By then the claim
was read bound to a volume with the moved disk, or it idled: unbound, waiting
for its first consumer and without one, while such a volume was reserved for it.
-/

set_option autoImplicit false

namespace ProxmoxCSI.BindGate
open CallProgram CallProgram.Prog CallSafety CallErrors CallTriples CallSchedule ClusterState
open ClusterService VolumeHandle MigratorCalls RewireProgram MigrateProgram MigratorRules
open MigrateFootprint RewireEffects RewireGuard BindWait MovedDataGuard

variable {C : Type} {env : Hist C → World C → World C → Prop} {h h' : Hist C} {w w' : World C}
  {req : Request} {p : Plan}

/-- What a resolved request has established, whatever the others do. -/
structure Resolved (req : Request) (p : Plan) (w : World C) : Prop where
  claim : p.pvc.name = req.pvcName
  stored : Stored p.pv w
  driver : p.pv.csi.map CSISource.driver = some driverName
  handle : parseVolumeID (volumeHandleOf p.pv) = some p.vol
  moves : ¬(p.vol.node = req.targetNode ∧ targetStorageOf req p.vol = p.vol.storage)
  target : p.targetVol = newVolume p.vol.region req.targetNode (targetStorageOf req p.vol)
    (targetDiskName p.vol.disk)

theorem resolved_lasting (req : Request) (p : Plan) : Lasting (Resolved (C := C) req p) :=
  fun w w' ho hr => ⟨hr.claim,stored_lasting p.pv w w' ho hr.stored,hr.driver,hr.handle,hr.moves,
    hr.target⟩

theorem wellNamed_lasting : Lasting (WellNamed (C := C)) := fun _ _ ho => ho.named

theorem resolved_csi (hr : Resolved req p w) : p.pv.csi.isSome := by
  have hd := hr.driver
  cases hc : p.pv.csi with
  | none =>
    rw [hc] at hd
    cases hd
  | some c => rfl

theorem planFor_resolved {m : Migrator} {pvc : PersistentVolumeClaim} {pv : PersistentVolume}
    {vol : Volume} (hr : Runs (cluster env) ⟨h,w,(planFor m req pvc pv vol).run⟩
      ⟨h',w',.done (.ok p)⟩) :
    p.pvc = pvc ∧ p.pv = pv ∧ p.vol = vol ∧
      ¬(vol.node = req.targetNode ∧ targetStorageOf req vol = vol.storage) ∧
      p.targetVol = newVolume vol.region req.targetNode (targetStorageOf req vol)
        (targetDiskName vol.disk) := by
  obtain ⟨_,_,_,_,hr₁⟩ := runs_ok_bind hr
  obtain ⟨_,_,_,hmoves,hr₂⟩ := runs_ok_bind hr₁
  obtain ⟨_,_,_,_,hr₃⟩ := runs_ok_bind hr₂
  obtain ⟨_,_,_,_,hr₄⟩ := runs_ok_bind hr₃
  obtain ⟨_,_,_,_,hr₅⟩ := runs_ok_bind hr₄
  obtain ⟨rfl,_,_⟩ := runs_ok_pure hr₅
  exact ⟨rfl,rfl,rfl,(runs_ok_require hmoves).1,rfl⟩

theorem resolveRequest_resolved {m : Migrator} (henv : ∀ h w w', env h w w' → Others w w')
    (hw : WellNamed w)
    (hr : Runs (cluster env) ⟨h,w,(resolveRequest m req).run⟩ ⟨h',w',.done (.ok p)⟩) :
    Resolved req p w' := by
  obtain ⟨h₁,w₁,x,hfound,hr₁⟩ := runs_ok_bind hr
  obtain ⟨w₂,hres,hi₂⟩ := runs_ok_relabel hfound
  obtain ⟨h₃,w₃,pvc,hpvc,hr₃⟩ := runs_ok_bind hres
  obtain ⟨h₄,w₄,pv,hpv,hr₄⟩ := runs_ok_bind hr₃
  obtain ⟨rfl,_,hi₄⟩ := runs_ok_pure hr₄
  have hwell : WellNamed w₃ := runs_lasting henv wellNamed_lasting hpvc (uses_need rfl) hw
  obtain ⟨a,b,hi,ho,_,hi'⟩ := runs_need hpvc
  obtain ⟨a',b',hj,ho',_,hj'⟩ := runs_need hpv
  have hname : pvc.name = req.pvcName := by
    have ha : WellNamed a := runs_lasting henv wellNamed_lasting
      (interference_runs (.done ()) hi) trivial hw
    exact (Prod.mk.inj (ha.claims _ pvc (found_ok (Prod.mk.inj (outcome_ok (by simp) ho)).1))).2
  have hstored : Stored pv b' := by
    have ha : WellNamed a' := runs_lasting henv wellNamed_lasting
      (interference_runs (.done ()) hj) trivial hwell
    obtain ⟨hv,hb⟩ := Prod.mk.inj (outcome_ok (by simp) ho')
    rw [← hb]
    exact (stored_read ha (found_ok hv)).2
  have hkeep : ∀ {h : Hist C} {a b : World C}, Interference (cluster env) h a b → Stored pv a →
      Stored pv b := fun hi hs =>
    runs_lasting henv (stored_lasting pv) (interference_runs (.done ()) hi) trivial hs
  have hs₁ : Stored pv w₁ := hkeep hi₂ (hkeep hi₄ (hkeep hj' hstored))
  obtain ⟨h₅,w₅,_,hdriver,hr₅⟩ := runs_ok_bind hr₁
  obtain ⟨hd,_,hi₅⟩ := runs_ok_require hdriver
  split at hr₅
  · exact runs_ok_throw hr₅
  · rename_i vol hvol
    have huse : (planFor m req pvc pv vol).run.Uses Reads := planFor_reads m req pvc pv vol
    obtain ⟨rfl,rfl,rfl,hmoves,htarget⟩ := planFor_resolved hr₅
    exact ⟨hname,runs_lasting henv (stored_lasting _) hr₅ (uses_reads_approaches huse) (hkeep hi₅ hs₁),
      hd,hvol,hmoves,htarget⟩

theorem resolved_ne_target (hr : Resolved req p w) (hnode : '/' ∉ req.targetNode.toList)
    (hstorage : '/' ∉ req.targetStorage.toList) :
    volumeHandleOf p.pv ≠ p.targetVol.volumeID := by
  intro he
  obtain ⟨_,hregion,_,hown⟩ := parseVolumeID_some hr.handle
  have hslash : '/' ∉ (targetStorageOf req p.vol).toList := by
    unfold targetStorageOf
    split
    · exact hown
    · exact hstorage
  have hparse : parseVolumeID p.targetVol.volumeID = some p.targetVol := by
    rw [hr.target]
    exact parseVolumeID_volumeID _ rfl hregion hnode hslash
  rw [← he, hr.handle] at hparse
  have hv : p.vol = newVolume p.vol.region req.targetNode (targetStorageOf req p.vol)
      (targetDiskName p.vol.disk) := (Option.some.inj hparse).trans hr.target
  exact hr.moves ⟨congrArg Volume.node hv,(congrArg Volume.storage hv).symm⟩

section Reach

variable {t : Patience} {m : Migrator} {a : Approach}

theorem reachMove_resolved (henv : ∀ h w w', env h w w' → Others w w') (hw : WellNamed w)
    (hr : Runs (cluster env) ⟨h,w,(reachMove t m req).run⟩ ⟨h',w',.done (.ok a)⟩) :
    Resolved req a.plan w' := by
  have huse := reachMove_approaches t m req
  obtain ⟨h₁,w₁,p,hplan,hr₁⟩ := runs_ok_bind hr
  have hrest := uses_after hplan huse
  have hp : Resolved req p w' := runs_lasting henv (resolved_lasting req p) hr₁ hrest
    (resolveRequest_resolved henv hw hplan)
  obtain ⟨_,_,_,_,hr₂⟩ := runs_ok_bind hr₁
  obtain ⟨_,_,_,_,hr₃⟩ := runs_ok_bind hr₂
  obtain ⟨_,_,_,_,hr₄⟩ := runs_ok_bind hr₃
  obtain ⟨_,_,_,_,hr₅⟩ := runs_ok_bind hr₄
  obtain ⟨rfl,_,_⟩ := runs_ok_pure hr₅
  exact hp

/-- The rewire starts with the request resolved, right after its mark. -/
theorem reachRewire_resolved (henv : ∀ h w w', env h w w' → Others w w') (hw : WellNamed w)
    (hr : Runs (cluster env) ⟨h,w,(reachRewire t m req).run⟩ ⟨h',w',.done (.ok a)⟩) :
    WellNamed w' ∧ Resolved req a.plan w' ∧ ∃ e h₀, h' = e::h₀ ∧ e.call = .phase .rewiring := by
  have huse := reachRewire_approaches t m req
  refine ⟨runs_lasting henv wellNamed_lasting hr huse hw,?_⟩
  obtain ⟨h₁,w₁,b,hreach,hr₁⟩ := runs_ok_bind hr
  have hrest := uses_after hreach huse
  have hp : Resolved req b.plan w' := runs_lasting henv (resolved_lasting req b.plan) hr₁ hrest
    (reachMove_resolved henv hw hreach)
  obtain ⟨h₂,w₂,_,hbody,hr₂⟩ := runs_ok_bind hr₁
  obtain ⟨rfl,rfl,_⟩ := runs_ok_pure hr₂
  obtain ⟨w₃,hbody,_⟩ := runs_ok_onError hbody
  obtain ⟨_,_,_,_,hr₃⟩ := runs_ok_bind hbody
  obtain ⟨h₄,_,_,_,hr₄⟩ := runs_ok_bind hr₃
  obtain ⟨a₁,a₂,hh⟩ := runs_phase hr₄
  exact ⟨hp,_,h₄,hh,rfl⟩

end Reach

def sourceJob (req : Request) (vol : Volume) (old : PersistentVolume) : Job :=
  ⟨req.ns,req.pvcName,(newVolume vol.region req.targetNode (targetStorageOf req vol)
    (targetDiskName vol.disk)).volumeID,old⟩

theorem keeping_behind {j : Job} (h₀ : Hist C) (hk : Keeping j env) :
    Keeping j (fun h => env (h ++ h₀)) := by
  rintro h w w' he ⟨e,hm,hb⟩
  exact hk (h ++ h₀) w w' he ⟨e,List.mem_append_left h₀ hm,hb⟩

/-- The state in which the rewire of a resolved request returns. -/
theorem replacePVTopology_rewired {t : Patience} {u : Unit}
    (henv : ∀ h w w', env h w w' → Others w w') (hw : WellNamed w) (hp : Resolved req p w)
    (hnode : '/' ∉ req.targetNode.toList) (hstorage : '/' ∉ req.targetStorage.toList)
    (hr : Runs (cluster env) ⟨h,w,(replacePVTopology t req.ns p.pvc p.pv p.targetVol).run⟩
      ⟨h',w',.done (.ok u)⟩) :
    ∃ hs n, h' = hs ++ h ∧
      Rewired (sourceJob req p.vol p.pv) (fun hs => env (hs ++ h)) n hs w' := by
  have hjob : p.targetVol.volumeID = (sourceJob req p.vol p.pv).handle := by
    rw [hp.target]
    rfl
  have hold : OldIs (sourceJob req p.vol p.pv) p.pv.reclaimPolicy w := by
    obtain ⟨q,hq,hsame⟩ := hp.stored
    exact ⟨q,hq,same_handle hsame,hsame.policy⟩
  have hne := hjob ▸ resolved_ne_target hp hnode hstorage
  have hbehind : ∀ hs a b, env (hs ++ h) a b → Others a b := fun hs a b he => henv _ a b he
  obtain ⟨hs,hh,hrun⟩ := runs_behind (h := []) hr
  have ht := replacePVTopology_triple (j := sourceJob req p.vol p.pv) hbehind t hp.claim hjob
    (resolved_csi hp) hne
  obtain ⟨n,hn⟩ := triple_result ht (stage_start hw hold) hrun
  exact ⟨hs,n,hh,hn⟩

/-- The rewire of a migration deletes a disk only after `replacePVTopology`
returned, and then the source disk. -/
theorem rewire_next {t : Patience} {region node storage disk : String}
    {next : Reply (.api (.deleteContent region node storage disk .sourceReclaim)) →
      Act (Except GoError Unit)}
    (hr : Runs (cluster env) ⟨h,w,(rewire t req p).run⟩
      ⟨h',w',.call (.api (.deleteContent region node storage disk .sourceReclaim)) next⟩) :
    ∃ h₂ w₂, Runs (cluster env) ⟨h,w,(replacePVTopology t req.ns p.pvc p.pv p.targetVol).run⟩
        ⟨h₂,w₂,.done (.ok ())⟩ ∧
      (region = p.vol.region ∧ node = p.vol.node ∧ storage = p.vol.storage ∧ disk = p.vol.disk) ∧
      h' = h₂ ∧ Interference (cluster env) h₂ w₂ w' := by
  rcases runs_next_try hr with ⟨_,hbefore⟩ | ⟨h₁,w₁,_,hdone,hrest⟩
  · obtain ⟨_,hbefore⟩ := runs_next_relabel hbefore
    cases runs_next_uses hbefore (replacePVTopology_rewires _ _ _ _ _)
  · obtain ⟨w₂,hdone,hi⟩ := runs_ok_relabel hdone
    rcases runs_next_try hrest with ⟨_,hreclaim⟩ | ⟨_,_,_,_,hpure⟩
    · unfold reclaimSourceDisk at hreclaim
      split at hreclaim
      · cases (runs_done hreclaim).2.1
      · rcases runs_next_try hreclaim with ⟨_,hobs⟩ | ⟨_,_,r,_,hafter⟩
        · obtain ⟨_,hcall⟩ := runs_next_observed hobs
          rcases runs_call hcall with ⟨hh,hq,hi'⟩ | ⟨_,_,_,_,_,hafter⟩
          · cases hq
            exact ⟨h₁,w₂,hdone,⟨rfl,rfl,rfl,rfl⟩,hh,hi.trans hi'⟩
          · cases (runs_done hafter).2.1
        · cases r with
          | ok x => cases (runs_done hafter).2.1
          | error e => cases (runs_done hafter).2.1
    · cases (runs_done hpure).2.1

/-- With what the source disk may be deleted: since the rewire began, the claim
was read bound to a volume with the moved disk or was found idle with such a
volume reserved; one exists for the claim now, and the claim is bound to it if
it did not idle and the others keep a binding that was seen. -/
def Gated (req : Request) (env : Hist C → World C → World C → Prop) (vol : Volume) (h : Hist C)
    (w : World C) : Prop :=
  ∃ old n hs e h₀, parseVolumeID (volumeHandleOf old) = some vol ∧
    h = hs ++ e::h₀ ∧ e.call = .phase .rewiring ∧
    (SeenBound (sourceJob req vol old) hs ∨ SeenWaiting (sourceJob req vol old) hs) ∧
    Carried (sourceJob req vol old) n w ∧
    (Keeping (sourceJob req vol old) env → ¬SeenIdle (sourceJob req vol old) hs →
      BoundTo (sourceJob req vol old) n w)

theorem source_disk_reclaimed_after_bind {t : Patience} {m : Migrator}
    (henv : ∀ h w w', env h w w' → Others w w') (hw : WellNamed w)
    (hnode : '/' ∉ req.targetNode.toList) (hstorage : '/' ∉ req.targetStorage.toList)
    {region node storage disk : String}
    {next : Reply (.api (.deleteContent region node storage disk .sourceReclaim)) →
      Act (Except GoError Unit)}
    (hr : Runs (cluster env) ⟨[],w,(migrate t m req).run⟩
      ⟨h',w',.call (.api (.deleteContent region node storage disk .sourceReclaim)) next⟩) :
    Gated req env (newVolume region node storage disk) h' w' := by
  rcases runs_next_try hr with ⟨_,hbefore⟩ | ⟨h₁,w₁,a,hreach,hrest⟩
  · cases runs_next_uses hbefore (reachRewire_approaches t m req)
  obtain ⟨hw₁,hp,e,h₀,rfl,he⟩ := reachRewire_resolved henv hw hreach
  rcases runs_next_deferred hrest with ⟨_,hbody⟩ | ⟨_,_,_,hclean⟩
  · obtain ⟨h₂,w₂,hdone,hvol,rfl,hi⟩ := rewire_next hbody
    obtain ⟨hs,n,rfl,hrew⟩ := replacePVTopology_rewired henv hw₁ hp hnode hstorage hdone
    have hfinal := stable_interference (rewired_steady (j := sourceJob req a.plan.vol a.plan.pv)
      (fun hs x y hxy => henv (hs ++ e::h₀) x y hxy) n).stable hi hrew
    have hsource : newVolume region node storage disk = a.plan.vol := by
      obtain ⟨rfl,rfl,rfl,rfl⟩ := hvol
      exact newVolume_of_parse hp.handle
    rw [hsource]
    exact ⟨a.plan.pv,n,hs,e,h₀,hp.handle,rfl,he,hfinal.seen,hfinal.carried,
      fun hk hidle => (hfinal.bound (keeping_behind _ hk) hidle).2⟩
  · cases runs_next_uses hclean (uncordon_prepares a.cordoned)

section Samples

def reclaims {α : Type} (vol : Volume) : Act α → Bool
  | .call (.api (.deleteContent region node storage disk .sourceReclaim)) _ =>
      decide (newVolume region node storage disk = vol)
  | _ => false

theorem runs_next_reclaim {α : Type} {S : Service Call Reply (World C)}
    {region node storage disk : String} {c d : Config Call Reply (World C) α} (hr : Runs S c d)
    (hd : reclaims (newVolume region node storage disk) d.prog) :
    ∃ next, Runs S c ⟨d.hist,d.world,
      .call (.api (.deleteContent region node storage disk .sourceReclaim)) next⟩ := by
  obtain ⟨h,w,p⟩ := d
  unfold reclaims at hd
  split at hd
  · rename_i region' node' storage' disk' next hp
    have he := of_decide_eq_true hd
    cases he
    cases hp
    exact ⟨next,hr⟩
  · cases hd

def beforeReclaim : Config Call Reply (World ℕ) (Except GoError Unit) :=
  after (faulty []) 25 ⟨[],sampleWorld "vm-9999-pvc-a" .delete,
    (migrate samplePatience sampleMigrator sampleRequest).run⟩

theorem beforeReclaim_runs {env : Hist ℕ → World ℕ → World ℕ → Prop} :
    ∃ next, Runs (cluster env) ⟨[],sampleWorld "vm-9999-pvc-a" .delete,
        (migrate samplePatience sampleMigrator sampleRequest).run⟩
      ⟨beforeReclaim.hist,beforeReclaim.world,
        .call (.api (.deleteContent "r" "n1" "data" "vm-9999-pvc-a" .sourceReclaim)) next⟩ := by
  have hd : reclaims (newVolume "r" "n1" "data" "vm-9999-pvc-a") beforeReclaim.prog := by
    decide +kernel
  exact runs_next_reclaim (after_runs (faulty_lawful []) 25 _) hd

/-- An idle claim passes the wait: the source is about to be deleted while the
claim names no volume. -/
theorem source_reclaimed_unbound : ∃ h w next,
    Runs solo ⟨[],sampleWorld "vm-9999-pvc-a" .delete,
        (migrate samplePatience sampleMigrator sampleRequest).run⟩
      ⟨h,w,.call (.api (.deleteContent "r" "n1" "data" "vm-9999-pvc-a" .sourceReclaim)) next⟩ ∧
    (w.pvcs.lookup ("ns","a")).map PersistentVolumeClaim.volumeName = some "" := by
  obtain ⟨next,hr⟩ := beforeReclaim_runs
  exact ⟨_,_,next,hr,by decide +kernel⟩

theorem sample_reclaim_gated : Gated sampleRequest (fun _ _ _ => False)
    (newVolume "r" "n1" "data" "vm-9999-pvc-a") beforeReclaim.hist beforeReclaim.world := by
  obtain ⟨next,hr⟩ := beforeReclaim_runs
  exact source_disk_reclaimed_after_bind (fun _ _ _ he => he.elim)
    (sampleWorld_wellNamed "vm-9999-pvc-a" .delete) (by decide +kernel) (by decide +kernel) hr

end Samples

end ProxmoxCSI.BindGate
