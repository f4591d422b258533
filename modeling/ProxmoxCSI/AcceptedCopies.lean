import ProxmoxCSI.MigrateFootprint
import ProxmoxCSI.CallEndings
import ProxmoxCSI.DirectSizes

/-!
# Complete copies and the capacity of their volume

`Migrate` takes a target disk for complete when it is at least as large as the
capacity of the volume. A volume is reported with the capacity that was asked
for, which a copied disk only gets when it is attached for the first time.
-/

set_option autoImplicit false

namespace ProxmoxCSI.AcceptedCopies
open CallProgram CallProgram.Prog CallSafety CallErrors CallEndings CallSchedule CallTracks TextScan
open VolumeHandle
open ClusterState ClusterService MigratorCalls MigrationAnnotations RewireProgram MigrateProgram
open MigratorRules MigrateFootprint

variable {C : Type}

def listedSize (w : World C) (vol : Volume) (node : String) : Option ℤ :=
  ((w.content vol.region node vol.storage).find? (onStorage vol)).map ContentItem.size

def targetOf (req : Request) (vol : Volume) : Volume :=
  newVolume vol.region req.targetNode (targetStorageOf req vol) (targetDiskName vol.disk)

def Carries (w : World C) (req : Request) (handle : String) (capacity : ℤ) : Prop :=
  ∃ pvc pv, w.pvcs.lookup (req.ns,req.pvcName) = some pvc ∧
    w.pvs.lookup pvc.volumeName = some pv ∧ volumeHandleOf pv = handle ∧ pv.capacity = capacity

def Complete (req : Request) (vol : Volume) (size : ℤ) (w : World C) : Prop :=
  (∃ d d', w.disks.lookup (w.key vol) = some d ∧
    w.disks.lookup (w.keyOn (targetOf req vol) req.targetNode) = some d' ∧
    d.size = size ∧ d'.size = size ∧ d'.content = d.content) ∧
  listedSize w (targetOf req vol) req.targetNode = some size

def Unlisted (h : History Call Reply (World C)) : Prop :=
  ∃ region node storage x w w' h', h = ⟨.api (.storageContent region node storage),.error x,w,w'⟩::h'

/-- A complete copy is not deleted as a partial one, and is accepted after the
move whenever the target can be listed. -/
def Accepted (handle : String) (capacity size : ℤ) : Prop :=
  ∀ (C : Type) (t : Patience) (m : Migrator) (req : Request) (vol : Volume) (w : World C),
    parseVolumeID handle = some vol → Carries w req handle capacity →
    (∀ h w' region node storage disk next,
      Runs solo ⟨[],w,(migrate t m req).run⟩
        ⟨h,w',.call (.api (.deleteContent region node storage disk .partialTarget)) next⟩ →
      ¬Complete req vol size w') ∧
    ∀ a h₁ w₁ h₂ w₂ h₃ w₃ r,
      Runs solo ⟨[],w,(reachMove t m req).run⟩ ⟨h₁,w₁,.done (.ok a)⟩ →
      Runs solo ⟨h₁,w₁,(transfer m req a).run⟩ ⟨h₂,w₂,.done (.ok ())⟩ →
      Complete req vol size w₂ →
      Runs solo ⟨h₂,w₂,(verifyTarget req a.plan).run⟩ ⟨h₃,w₃,.done r⟩ → r = .ok () ∨ Unlisted h₃

section Checks

variable {h h' : History Call Reply (World C)} {w w' : World C} {region node storage disk : String}

theorem diskOnNode_listed {vol : Volume} {node : String} {size : ℤ}
    (hr : Runs solo ⟨h,w,(diskOnNode vol node).run⟩ ⟨h',w',.done (.ok (true,size))⟩) :
    w' = w ∧ listedSize w vol node = some size := by
  have hw : w' = w := solo_reads hr (diskOnNode_reads vol node)
  obtain ⟨h₁,w₁,content,hread,hr₁⟩ := runs_ok_bind hr
  obtain ⟨hc,_⟩ := Prod.mk.inj (solo_need (by simp) hread)
  have hc' : w.content vol.region node vol.storage = content := Except.ok.inj hc
  refine ⟨hw,?_⟩
  unfold listedSize
  rw [hc']
  split at hr₁
  · rename_i item hitem
    rw [hitem]
    cases (runs_ok_pure hr₁).1
    rfl
  · cases (runs_ok_pure hr₁).1

def Short (req : Request) (p : Plan) (w : World C) : Prop :=
  ∃ size, listedSize w p.targetVol req.targetNode = some size ∧ size < p.expectedSize

theorem deleteDisk_next {vol : Volume} {n : String} {site : ContentDeletion} {c : Call}
    {next : Reply c → Act (Except GoError Unit)}
    (hr : Runs solo ⟨h,w,(deleteDisk vol n site).run⟩ ⟨h',w',.call c next⟩) : w' = w := by
  rcases runs_call hr with ⟨_,_,hi⟩ | ⟨_,_,_,_,_,hafter⟩
  · exact solo_interference hi
  · cases (runs_done hafter).2.1

variable {req : Request} {m : Migrator} {t : Patience}
  {next : Reply (.api (.deleteContent region node storage disk .partialTarget)) →
    Act (Except GoError Unit)}

theorem detectResume_short {p : Plan}
    {next : Reply (.api (.deleteContent region node storage disk .partialTarget)) →
      Act (Except GoError Bool)}
    (hr : Runs solo ⟨h,w,(detectResume req p).run⟩
      ⟨h',w',.call (.api (.deleteContent region node storage disk .partialTarget)) next⟩) :
    Short req p w' := by
  unfold detectResume at hr
  split at hr
  · rcases runs_next_try hr with ⟨_,hseen⟩ | ⟨h₁,w₁,r,hseen,hrest⟩
    · obtain ⟨_,hseen⟩ := runs_next_observed hseen
      cases runs_next_uses hseen (diskOnNode_reads _ _)
    obtain ⟨w₂,hseen,hi⟩ := runs_ok_observed hseen
    cases solo_interference hi
    split at hrest
    · obtain ⟨rfl,hs⟩ := diskOnNode_listed hseen
      split at hrest
      · cases (runs_done hrest).2.1
      · rename_i hlt
        rcases runs_next_try hrest with ⟨_,hdel⟩ | ⟨_,_,_,_,hpure⟩
        · obtain ⟨_,hdel⟩ := runs_next_relabel hdel
          rw [deleteDisk_next hdel]
          exact ⟨_,hs,Int.not_le.mp hlt⟩
        · cases (runs_done hpure).2.1
    · cases (runs_done hrest).2.1
  · split at hr
    · rcases runs_next_try hr with ⟨_,hseen⟩ | ⟨h₁,w₁,r,_,hrest⟩
      · obtain ⟨_,hseen⟩ := runs_next_observed hseen
        cases runs_next_uses hseen (diskOnNode_reads _ _)
      · split at hrest
        · cases (runs_done hrest).2.1
        · cases (runs_done hrest).2.1
    · cases (runs_done hr).2.1

theorem cleanupPartial_short {p : Plan}
    (hr : Runs solo ⟨h,w,(cleanupPartial req.targetNode p).run⟩
      ⟨h',w',.call (.api (.deleteContent region node storage disk .partialTarget)) next⟩) :
    Short req p w' := by
  rcases runs_next_try hr with ⟨_,hseen⟩ | ⟨h₁,w₁,r,hseen,hrest⟩
  · obtain ⟨_,hseen⟩ := runs_next_observed hseen
    cases runs_next_uses hseen (diskOnNode_reads _ _)
  obtain ⟨w₂,hseen,hi⟩ := runs_ok_observed hseen
  cases solo_interference hi
  split at hrest
  · obtain ⟨rfl,hs⟩ := diskOnNode_listed hseen
    split at hrest
    · rename_i hlt
      rcases runs_next_try hrest with ⟨_,hdel⟩ | ⟨_,_,_,_,hpure⟩
      · obtain ⟨_,hdel⟩ := runs_next_observed hdel
        rw [deleteDisk_next hdel]
        exact ⟨_,hs,hlt⟩
      · cases (runs_done hpure).2.1
    · cases (runs_done hrest).2.1
  · cases (runs_done hrest).2.1

theorem move_short {p : Plan}
    (hr : Runs solo ⟨h,w,(move m req p).run⟩
      ⟨h',w',.call (.api (.deleteContent region node storage disk .partialTarget)) next⟩) :
    Short req p w' := by
  unfold move at hr
  split at hr
  · obtain ⟨_,hconvert⟩ := runs_next_relabel hr
    cases runs_next_uses hconvert (convertAndMove_converts _ _ _ _)
  · rcases runs_next_try hr with ⟨_,hmove⟩ | ⟨h₁,w₁,r,_,hrest⟩
    · obtain ⟨_,hmove⟩ := runs_next_observed hmove
      have hu : Converts (.api (.deleteContent region node storage disk .partialTarget)) :=
        runs_next_uses hmove (uses_need rfl)
      cases hu
    · cases r with
      | ok x => cases (runs_done hrest).2.1
      | error e =>
        rcases runs_next_try hrest with ⟨_,hclean⟩ | ⟨_,_,_,_,hthrow⟩
        · exact cleanupPartial_short hclean
        · cases (runs_done hthrow).2.1

theorem reachMove_short
    {next : Reply (.api (.deleteContent region node storage disk .partialTarget)) →
      Act (Except GoError Approach)}
    (hr : Runs solo ⟨h,w,(reachMove t m req).run⟩
      ⟨h',w',.call (.api (.deleteContent region node storage disk .partialTarget)) next⟩) :
    ∃ p, Planned w m req p ∧ Short req p w' := by
  rcases runs_next_try hr with ⟨_,hbefore⟩ | ⟨h₁,w₁,p,hplan,hr₁⟩
  · cases runs_next_uses hbefore (resolveRequest_reads m req)
  obtain ⟨hp,rfl⟩ := resolveRequest_planned hplan
  refine ⟨p,hp,?_⟩
  rcases runs_next_try hr₁ with ⟨_,hresume⟩ | ⟨h₂,w₂,resumed,_,hr₂⟩
  · exact detectResume_short hresume
  rcases runs_next_try hr₂ with ⟨_,hbefore⟩ | ⟨h₃,w₃,u,_,hr₃⟩
  · cases runs_next_uses hbefore (resolveUsage_reads req p)
  rcases runs_next_try hr₃ with ⟨_,hbefore⟩ | ⟨h₄,w₄,cordoned,_,hr₄⟩
  · cases runs_next_uses hbefore (cordon_prepares req u)
  rcases runs_next_try hr₄ with ⟨_,hbody⟩ | ⟨_,_,_,_,hpure⟩
  · rcases runs_next_onError hbody with ⟨_,hbody⟩ | ⟨_,_,_,hclean⟩
    · rcases runs_next_try hbody with ⟨_,hdrain⟩ | ⟨h₅,w₅,_,_,hr₅⟩
      · cases runs_next_uses hdrain (drain_prepares t req u)
      rcases runs_next_try hr₅ with ⟨_,hdetach⟩ | ⟨h₆,w₆,_,_,hr₆⟩
      · cases runs_next_uses hdetach (uses_relabel (waitForVolumeDetach_reads _ _ _ _))
      split at hr₆
      · cases (runs_done hr₆).2.1
      · cases runs_next_uses hr₆ (stampMarker_prepares req p)
    · cases runs_next_uses hclean (uncordon_prepares cordoned)
  · cases (runs_done hpure).2.1

theorem reachMove_planned {a : Approach}
    (hr : Runs solo ⟨h,w,(reachMove t m req).run⟩ ⟨h',w',.done (.ok a)⟩) :
    Planned w m req a.plan := by
  obtain ⟨h₁,w₁,p,hplan,hr₁⟩ := runs_ok_bind hr
  obtain ⟨hp,rfl⟩ := resolveRequest_planned hplan
  obtain ⟨h₂,w₂,resumed,_,hr₂⟩ := runs_ok_bind hr₁
  obtain ⟨h₃,w₃,u,_,hr₃⟩ := runs_ok_bind hr₂
  obtain ⟨h₄,w₄,cordoned,_,hr₄⟩ := runs_ok_bind hr₃
  obtain ⟨h₅,w₅,_,_,hr₅⟩ := runs_ok_bind hr₄
  obtain ⟨rfl,_,_⟩ := runs_ok_pure hr₅
  exact hp

theorem rewire_spares {p : Plan}
    (hr : Runs solo ⟨h,w,(rewire t req p).run⟩
      ⟨h',w',.call (.api (.deleteContent region node storage disk .partialTarget)) next⟩) :
    False := by
  rcases runs_next_try hr with ⟨_,hbefore⟩ | ⟨_,_,_,_,hrest⟩
  · obtain ⟨_,hbefore⟩ := runs_next_relabel hbefore
    cases runs_next_uses hbefore (replacePVTopology_rewires _ _ _ _ _)
  cases runs_next_uses hrest (reclaim_uses (fun c => c = .api (.deleteContent _ _ _ _
    .sourceReclaim)) p.vol p.targetVol rfl)

/-- A target that is about to be deleted as partial is listed with less than the
capacity of the volume. -/
theorem migrate_short
    (hr : Runs solo ⟨h,w,(migrate t m req).run⟩
      ⟨h',w',.call (.api (.deleteContent region node storage disk .partialTarget)) next⟩) :
    ∃ p, Planned w m req p ∧ Short req p w' := by
  rcases runs_next_try hr with ⟨_,hreach⟩ | ⟨h₁,w₁,a,_,hrest⟩
  · rcases runs_next_try hreach with ⟨_,hmove⟩ | ⟨h₂,w₂,a,hmoved,hr⟩
    · exact reachMove_short hmove
    refine ⟨a.plan,reachMove_planned hmoved,?_⟩
    rcases runs_next_try hr with ⟨_,hbody⟩ | ⟨_,_,_,_,hpure⟩
    · rcases runs_next_onError hbody with ⟨_,hbody⟩ | ⟨_,_,_,hclean⟩
      · rcases runs_next_try hbody with ⟨_,htransfer⟩ | ⟨_,_,_,_,hr⟩
        · unfold transfer at htransfer
          split at htransfer
          · cases (runs_done htransfer).2.1
          · rcases runs_next_try htransfer with ⟨_,hphase⟩ | ⟨_,_,_,_,hmove⟩
            · have hu : Reads (.api (.deleteContent region node storage disk .partialTarget)) :=
                runs_next_uses hphase (uses_phase trivial)
              cases hu
            · exact move_short hmove
        rcases runs_next_try hr with ⟨_,hverify⟩ | ⟨_,_,_,_,hphase⟩
        · cases runs_next_uses hverify (verifyTarget_reads _ _)
        · have hu : Reads (.api (.deleteContent region node storage disk .partialTarget)) :=
            runs_next_uses hphase (uses_phase trivial)
          cases hu
      · cases runs_next_uses hclean (uncordon_prepares a.cordoned)
    · cases (runs_done hpure).2.1
  · rcases runs_next_deferred hrest with ⟨_,hbody⟩ | ⟨_,_,_,hclean⟩
    · exact absurd hbody (fun hbody => rewire_spares hbody)
    · cases runs_next_uses hclean (uncordon_prepares a.cordoned)

theorem solo_stable (P : Assertion Call Reply (World C)) : Stable solo P := fun _ _ _ he => he.elim

theorem diskOnNode_ends (vol : Volume) (node : String) :
    Ends solo (fun _ v => v = w) (diskOnNode vol node)
      (fun seen _ _ => ∀ size, listedSize w vol node = some size → seen = (true,size))
      (fun h _ => Unlisted h) := by
  refine ends_bind (Q := fun content _ _ => content = w.content vol.region node vol.storage) ?_ ?_
  · refine ends_call (R := fun r h _ =>
        (∀ content, r = .ok content → content = w.content vol.region node vol.storage) ∧
        (∀ x, r = .error x → Unlisted h)) (solo_stable _) (fun _ => solo_stable _) ?_ ?_
    · rintro h v r v' rfl ho
      cases ho with
      | api ho =>
        refine ⟨?_,?_⟩
        · rintro content rfl
          have hs := outcome_ok (by simp) ho
          exact (Except.ok.inj (Prod.mk.inj hs).1).symm
        · rintro x rfl
          exact ⟨_,_,_,x,v,v',h,rfl⟩
    · intro r h v hr
      cases r with
      | ok content => exact hr.1 content rfl
      | error x => exact hr.2 x rfl
  · intro content
    split
    · rename_i item hitem
      refine ends_pure (solo_stable _) ?_
      rintro h v rfl size hs
      rw [listedSize, hitem] at hs
      cases hs
      rfl
    · rename_i hnone
      refine ends_pure (solo_stable _) ?_
      rintro h v rfl size hs
      rw [listedSize, hnone] at hs
      cases hs

/-- A target that is listed with the capacity is verified, unless it cannot be
listed. -/
theorem verifyTarget_passes {p : Plan} {size : ℤ} {r : Except GoError Unit}
    (hs : listedSize w p.targetVol req.targetNode = some size) (hle : p.expectedSize ≤ size)
    (hr : Runs solo ⟨h,w,(verifyTarget req p).run⟩ ⟨h',w',.done r⟩) : r = .ok () ∨ Unlisted h' := by
  have hends : Ends solo (fun _ v => v = w) (verifyTarget req p) (fun _ _ _ => True)
      (fun h _ => Unlisted h) := by
    refine ends_bind (ends_relabel (diskOnNode_ends _ _)) ?_
    intro seen
    refine ends_mono (P := fun _ _ => seen = (true,size)) ?_ (fun _ _ hq => hq size hs)
      (fun _ _ _ hq => hq) (fun _ _ hq => hq)
    intro h₁ w₁ hseen
    subst hseen
    refine safe_done (P := fun _ _ => True) (solo_stable _) trivial ?_
    intro w₂ _
    rw [if_pos ⟨rfl,hle⟩]
    exact ⟨trivial,trivial⟩
  have hend := ends_result hends rfl hr
  cases r with
  | ok u => exact .inl rfl
  | error e => exact .inr hend

end Checks

section Interrupted

def nextNode (vol : Volume) : String := vol.node ++ "+"

theorem nextNode_ne (vol : Volume) : nextNode vol ≠ vol.node := by
  intro he
  have hl := congrArg (fun s => s.toList.length) he
  simp [nextNode] at hl

def retry (vol : Volume) : Request := ⟨"ns","a",nextNode vol,"",false⟩

def site (vol : Volume) : Migrator := ⟨[vol.region],0,false,false,∅,∅⟩

def boundVolume (handle : String) (vol : Volume) (capacity : ℤ) : PersistentVolume :=
  { sampleVolume handle .delete with
    annotations := tableOf [(annotationMigrateState,nextNode vol)]
    capacity := capacity }

def resumedPlan (handle : String) (vol : Volume) (capacity : ℤ) : Plan :=
  ⟨sampleClaim,boundVolume handle vol capacity,vol,targetOf (retry vol) vol⟩

def interrupted (handle : String) (vol : Volume) (capacity size : ℤ) : World Unit :=
  { (World.empty : World Unit) with
    pvcs := tableOf [(("ns","a"),sampleClaim)]
    pvs := tableOf [("pv-a",boundVolume handle vol capacity)]
    storageNodes := tableOf [((vol.region,vol.storage),[nextNode vol])]
    location := fun _ node _ => if node = nextNode vol then 1 else 0
    disks := tableOf [((0,vol.disk),⟨size,(),0⟩),((1,targetDiskName vol.disk),⟨size,(),0⟩)] }

variable {handle : String} {vol : Volume} {capacity size : ℤ}

theorem interrupted_claim : (interrupted handle vol capacity size).pvcs.lookup ("ns","a") =
    some sampleClaim := AList.lookup_insert _

theorem interrupted_volume : (interrupted handle vol capacity size).pvs.lookup "pv-a" =
    some (boundVolume handle vol capacity) := AList.lookup_insert _

theorem interrupted_carries :
    Carries (interrupted handle vol capacity size) (retry vol) handle capacity :=
  ⟨sampleClaim,boundVolume handle vol capacity,interrupted_claim,interrupted_volume,rfl,rfl⟩

theorem interrupted_target (vol : Volume) : targetOf (retry vol) vol =
    newVolume vol.region (nextNode vol) vol.storage (targetDiskName vol.disk) := rfl

theorem interrupted_listed : listedSize (interrupted handle vol capacity size)
    (targetOf (retry vol) vol) (nextNode vol) = some size := by
  have he : (interrupted handle vol capacity size).disks.entries =
      [⟨(0,vol.disk),⟨size,(),0⟩⟩,⟨(1,targetDiskName vol.disk),⟨size,(),0⟩⟩] := by
    simp [interrupted, tableOf, AList.insert, List.kinsert, List.kerase]
  have hon : onStorage (targetOf (retry vol) vol)
      ⟨vol.storage ++ ":" ++ targetDiskName vol.disk,size⟩ = true := by
    simp [onStorage, interrupted_target, Volume.volID, newVolume]
  have hl : ∀ region storage,
      (interrupted handle vol capacity size).location region (nextNode vol) storage = 1 := by
    intro region storage
    simp [interrupted]
  simp only [listedSize, World.content, he, hl]
  simpa [interrupted_target, newVolume] using hon

theorem interrupted_complete :
    Complete (retry vol) vol size (interrupted handle vol capacity size) := by
  refine ⟨⟨⟨size,(),0⟩,⟨size,(),0⟩,?_,?_,rfl,rfl,rfl⟩,interrupted_listed⟩
  · have hk : (interrupted handle vol capacity size).key vol = (0,vol.disk) := by
      simp [World.key, interrupted, (nextNode_ne vol).symm]
    rw [hk]
    exact AList.lookup_insert _
  · have hk : (interrupted handle vol capacity size).keyOn (targetOf (retry vol) vol)
        (retry vol).targetNode = (1,targetDiskName vol.disk) := by
      simp [World.keyOn, interrupted, retry, targetOf, newVolume]
    rw [hk]
    show (AList.insert _ _ _).lookup _ = _
    rw [AList.lookup_insert_ne (by simp)]
    exact AList.lookup_insert _

theorem interrupted_resolves (hv : parseVolumeID handle = some vol) (hn : vol.node ≠ "") :
    Evaluates (faulty []) (resolveRequest (site vol) (retry vol)).run
      (interrupted handle vol capacity size) (.ok (resumedPlan handle vol capacity))
      (interrupted handle vol capacity size) := by
  have hclaim : serve (interrupted handle vol capacity size) (.getPVC "ns" "a") =
      (.ok sampleClaim,interrupted handle vol capacity size) := by
    rw [serve, interrupted_claim]
    rfl
  have hvolume : serve (interrupted handle vol capacity size) (.getPV "pv-a") =
      (.ok (boundVolume handle vol capacity),interrupted handle vol capacity size) := by
    rw [serve, interrupted_volume]
    rfl
  have hzones : serve (interrupted handle vol capacity size)
      (.nodesForStorage vol.region vol.storage) =
      (.ok [nextNode vol],interrupted handle vol capacity size) := by
    have hl : (interrupted handle vol capacity size).storageNodes.lookup (vol.region,vol.storage) =
        some [nextNode vol] := AList.lookup_insert _
    rw [serve, hl]
    rfl
  have hfound : Evaluates (faulty []) (pvcResources "ns" "a").run
      (interrupted handle vol capacity size) (.ok (sampleClaim,boundVolume handle vol capacity))
      (interrupted handle vol capacity size) :=
    evaluates_try_bind (evaluates_answer (fun _ => hclaim) rfl)
      (evaluates_try_bind (evaluates_answer (fun _ => hvolume) rfl) (evaluates_done _))
  have hparse : parseVolumeID (volumeHandleOf (boundVolume handle vol capacity)) = some vol := hv
  refine evaluates_try_bind (evaluates_bind hfound (evaluates_done _)) ?_
  refine evaluates_try_bind (evaluates_require rfl) ?_
  simp only [hparse]
  refine evaluates_try_bind (evaluates_require hn) ?_
  refine evaluates_try_bind (evaluates_require (fun hs => nextNode_ne vol hs.1.symm)) ?_
  refine evaluates_try_bind (evaluates_require (List.mem_singleton_self _)) ?_
  refine evaluates_try_bind (evaluates_answer (fun _ => hzones) rfl) ?_
  exact evaluates_try_bind (evaluates_require (List.mem_singleton_self _)) (evaluates_done _)

theorem interrupted_seen : Evaluates (faulty [])
    (observed (diskOnNode (targetOf (retry vol) vol) (nextNode vol))).run
    (interrupted handle vol capacity size) (.ok (.ok (true,size)))
    (interrupted handle vol capacity size) := by
  have hseen : Evaluates (faulty []) (diskOnNode (targetOf (retry vol) vol) (nextNode vol)).run
      (interrupted handle vol capacity size) (.ok (true,size))
      (interrupted handle vol capacity size) := by
    have hread : serve (interrupted handle vol capacity size)
        (.storageContent vol.region (nextNode vol) vol.storage) =
        (.ok ((interrupted handle vol capacity size).content vol.region (nextNode vol) vol.storage),
          interrupted handle vol capacity size) := rfl
    have hl : listedSize (interrupted handle vol capacity size) (targetOf (retry vol) vol)
        (nextNode vol) = some size := interrupted_listed
    obtain ⟨item,hi,hs⟩ := Option.map_eq_some_iff.mp hl
    have hi' : ((interrupted handle vol capacity size).content vol.region (nextNode vol)
        vol.storage).find? (onStorage (targetOf (retry vol) vol)) = some item := hi
    refine evaluates_try_bind (evaluates_answer (fun _ => hread) rfl) ?_
    simp only [hi', hs]
    exact evaluates_done _
  exact evaluates_bind hseen (evaluates_done _)

theorem interrupted_marked : getAnnotation (resumedPlan handle vol capacity).pv.annotations
    annotationMigrateState = (retry vol).targetNode := by
  have hl : (resumedPlan handle vol capacity).pv.annotations.lookup annotationMigrateState =
      some (nextNode vol) := AList.lookup_insert _
  have hv : valueOf (resumedPlan handle vol capacity).pv.annotations annotationMigrateState =
      nextNode vol := by
    rw [valueOf, hl, Option.getD_some]
  have hne : nextNode vol ≠ "" := by
    intro he
    have hl := congrArg (fun s => s.toList.length) he
    simp [nextNode] at hl
  unfold getAnnotation
  rw [hv, if_pos hne]
  rfl

theorem detectResume_discards {h₁ h₂ : History Call Reply (World Unit)} (hlt : size < capacity)
    (hseen : Runs solo ⟨h₁,interrupted handle vol capacity size,
        (observed (diskOnNode (targetOf (retry vol) vol) (nextNode vol))).run⟩
      ⟨h₂,interrupted handle vol capacity size,.done (.ok (.ok (true,size)))⟩) :
    ∃ region node storage disk next, Runs solo
      ⟨h₁,interrupted handle vol capacity size,
        (detectResume (retry vol) (resumedPlan handle vol capacity)).run⟩
      ⟨h₂,interrupted handle vol capacity size,
        .call (.api (.deleteContent region node storage disk .partialTarget)) next⟩ := by
  have hshort : ¬(resumedPlan handle vol capacity).expectedSize ≤ size := Int.not_le.mpr hlt
  unfold detectResume
  rw [if_pos interrupted_marked]
  have hdel : ∃ next, Runs solo ⟨h₂,interrupted handle vol capacity size,
        (relabel (GoError.flattened ("failed to delete partial disk on " ++ (retry vol).targetNode ++
          ": ")) (deleteDisk (resumedPlan handle vol capacity).targetVol (retry vol).targetNode
            .partialTarget)).run⟩
      ⟨h₂,interrupted handle vol capacity size,.call (.api (.deleteContent vol.region (nextNode vol)
        vol.storage (targetDiskName vol.disk) .partialTarget)) next⟩ := ⟨_,.refl⟩
  obtain ⟨_,hdel⟩ := hdel
  obtain ⟨next,hafter⟩ := runs_within (f := fun _ => pure false) hdel
  refine ⟨_,_,_,_,next,runs_into hseen ?_⟩
  simp only [hshort, if_false]
  exact hafter

theorem interrupted_discards (hv : parseVolumeID handle = some vol) (hn : vol.node ≠ "")
    (hlt : size < capacity) (t : Patience) : ∃ h region node storage disk next,
    Runs solo ⟨[],interrupted handle vol capacity size,(migrate t (site vol) (retry vol)).run⟩
      ⟨h,interrupted handle vol capacity size,
        .call (.api (.deleteContent region node storage disk .partialTarget)) next⟩ := by
  obtain ⟨h₁,hplan⟩ : ∃ h₁, Runs solo
      ⟨[],interrupted handle vol capacity size,(resolveRequest (site vol) (retry vol)).run⟩
      ⟨h₁,interrupted handle vol capacity size,.done (.ok (resumedPlan handle vol capacity))⟩ :=
    evaluates_runs (faulty_lawful []) (interrupted_resolves hv hn) []
  obtain ⟨h₂,hseen⟩ : ∃ h₂, Runs solo ⟨h₁,interrupted handle vol capacity size,
        (observed (diskOnNode (targetOf (retry vol) vol) (nextNode vol))).run⟩
      ⟨h₂,interrupted handle vol capacity size,.done (.ok (.ok (true,size)))⟩ :=
    evaluates_runs (faulty_lawful []) interrupted_seen h₁
  obtain ⟨region,node,storage,disk,_,hresume⟩ := detectResume_discards hlt hseen
  obtain ⟨_,hmove⟩ : ∃ next, Runs solo
      ⟨[],interrupted handle vol capacity size,(reachMove t (site vol) (retry vol)).run⟩
      ⟨h₂,interrupted handle vol capacity size,
        .call (.api (.deleteContent region node storage disk .partialTarget)) next⟩ := by
    refine runs_reaching hplan ?_
    exact runs_within hresume
  obtain ⟨_,hreach⟩ : ∃ next, Runs solo
      ⟨[],interrupted handle vol capacity size,(reachRewire t (site vol) (retry vol)).run⟩
      ⟨h₂,interrupted handle vol capacity size,
        .call (.api (.deleteContent region node storage disk .partialTarget)) next⟩ :=
    runs_within hmove
  obtain ⟨next,hmigrate⟩ : ∃ next, Runs solo
      ⟨[],interrupted handle vol capacity size,(migrate t (site vol) (retry vol)).run⟩
      ⟨h₂,interrupted handle vol capacity size,
        .call (.api (.deleteContent region node storage disk .partialTarget)) next⟩ :=
    runs_within hreach
  exact ⟨h₂,region,node,storage,disk,next,hmigrate⟩

end Interrupted

section Results
open DirectCalls DirectVolumes DirectTracks DirectSizes

theorem accepted_iff {handle : String} {vol : Volume} {capacity size : ℤ}
    (hv : parseVolumeID handle = some vol) (hn : vol.node ≠ "") :
    Accepted handle capacity size ↔ capacity ≤ size := by
  constructor
  · intro ha
    by_contra hlt
    obtain ⟨h,region,node,storage,disk,next,hr⟩ :=
      interrupted_discards hv hn (Int.not_le.mp hlt) samplePatience
    exact (ha Unit _ _ _ _ _ hv interrupted_carries).1 _ _ _ _ _ _ _ hr interrupted_complete
  · intro hle C t m req vol' w hv' hc
    cases hv.symm.trans hv'
    have hplan : ∀ p, Planned w m req p → p.expectedSize = capacity ∧
      p.targetVol = targetOf req vol := by
      intro p hp
      obtain ⟨pvc,pv,hpvc,hpv,hh,hcap⟩ := hc
      cases hp.claim.symm.trans hpvc
      cases hp.volume.symm.trans hpv
      have hvol := hp.handle
      rw [hh, hv] at hvol
      cases hvol
      exact ⟨hcap,hp.target⟩
    refine ⟨?_,?_⟩
    · rintro h w' region node storage disk next hr ⟨_,hlisted⟩
      obtain ⟨p,hp,size',hs,hlt⟩ := migrate_short hr
      obtain ⟨hcap,htarget⟩ := hplan p hp
      rw [htarget, hlisted] at hs
      cases hs
      omega
    · rintro a h₁ w₁ h₂ w₂ h₃ w₃ r hmove _ ⟨_,hlisted⟩ hverify
      obtain ⟨hcap,htarget⟩ := hplan a.plan (reachMove_planned hmove)
      refine verifyTarget_passes ?_ (hcap ▸ hle) hverify
      rw [htarget]
      exact hlisted

/-- A complete copy of a volume that was created on a node is accepted exactly
when the disk was listed with the capacity that was reported. -/
theorem complete_copy_accepted_iff {C : Type} (env : Past C → Site C → Site C → Prop)
    (d : Controller) (req : CreateVolumeRequest) (w w' : Site C) (h : Past C) (res : CreatedVolume)
    (vol : Volume)
    (hr : Runs (DirectCalls.site env) ⟨[],w,(createVolume d req).run⟩ ⟨h,w',.done (.ok res)⟩)
    (hv : parseVolumeID res.volumeID = some vol) (hn : vol.node ≠ "") :
    ∃ size, Created req res size h ∧
      (Accepted res.volumeID res.capacityBytes size ↔ res.capacityBytes ≤ size) := by
  obtain ⟨size,hc⟩ : ∃ size, Created req res size h := runs_follow hr createVolume_yields
  exact ⟨size,hc,accepted_iff hv hn⟩

end Results

section Samples
open DirectCalls DirectVolumes DirectTracks DirectSizes DirectLookup

def sourceHandleText : String := "r/n1/data/vm-9999-src"

theorem publishHandle_parses : parseVolumeID publishHandle = some publishVolume := by decide +kernel

theorem publishVolume_pinned : publishVolume.node ≠ "" := by decide +kernel

/-- A volume without a source. -/
theorem complete_copy_accepted_iff_fresh : ∃ (res : CreatedVolume) (h : Past Unit) (size : ℤ),
    res.volumeID = publishHandle ∧ Created (DirectSizes.sampleRequest none) res size h ∧
      (Accepted publishHandle res.capacityBytes size ↔ res.capacityBytes ≤ size) := by
  obtain ⟨res,hres,hc⟩ := creation_runs none "vm-9999-src" (x := (publishHandle,10*gib,none))
    (by decide +kernel)
  obtain ⟨hid,_,_⟩ : res.volumeID = publishHandle ∧ res.capacityBytes = 10*gib ∧
      res.resize = none := by simpa using hres
  have hv : parseVolumeID res.volumeID = some publishVolume := by
    rw [hid]
    exact publishHandle_parses
  obtain ⟨size,hcreated,hiff⟩ := complete_copy_accepted_iff _ publishController _ _ _ _ res _ hc hv
    publishVolume_pinned
  rw [hid] at hiff
  exact ⟨res,_,size,hid,hcreated,hiff⟩

/-- A disk of one gibibyte is cloned into a claim of ten. The volume is reported
with ten; the attempt that resumes its migration deletes the complete copy. -/
theorem cloned_copy_discarded : ∃ (res : CreatedVolume) (h₁ : Past Unit) (w₁ : Site Unit),
    Runs alone ⟨[],sampleSite "vm-9999-src",
        (createVolume publishController (DirectSizes.sampleRequest (some sourceHandleText))).run⟩
      ⟨h₁,w₁,.done (.ok res)⟩ ∧
    w₁.disk publishVolume = some ⟨gib,()⟩ ∧
    ∃ (w : World Unit) (req : Request) (m : Migrator) (h : History Call Reply (World Unit)),
      Carries w req res.volumeID res.capacityBytes ∧ Complete req publishVolume gib w ∧
      ∃ region node storage disk next,
        Runs solo ⟨[],w,(migrate samplePatience m req).run⟩
          ⟨h,w,.call (.api (.deleteContent region node storage disk .partialTarget)) next⟩ := by
  obtain ⟨res,hres,hc⟩ := creation_runs (some sourceHandleText) "vm-9999-src"
    (x := (publishHandle,10*gib,some (10*gib))) (by decide +kernel)
  obtain ⟨hid,hcap,_⟩ : res.volumeID = publishHandle ∧ res.capacityBytes = 10*gib ∧
      res.resize = some (10*gib) := by simpa using hres
  have hlt : gib < 10*gib := by decide
  obtain ⟨h,region,node,storage,disk,next,hr⟩ :=
    interrupted_discards publishHandle_parses publishVolume_pinned hlt samplePatience
  have hdisk : (creation (some sourceHandleText) "vm-9999-src").world.disk publishVolume =
      some ⟨gib,()⟩ := by decide +kernel
  refine ⟨res,_,_,hc,hdisk,interrupted publishHandle publishVolume (10*gib) gib,
    retry publishVolume,site publishVolume,h,?_,interrupted_complete,region,node,storage,disk,next,hr⟩
  rw [hid, hcap]
  exact interrupted_carries

end Samples

end ProxmoxCSI.AcceptedCopies
