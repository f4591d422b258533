import ProxmoxCSI.HelperConversion

/-!
# Freshness of the migrated copy

Between attempts pods write to disks; a write gives its disk a new stamp, a
copy keeps the stamp of its source. Equal stamps mean equal contents in every
state reached, so an attempt that copies, or that resumes on a copy made after
the last write, enters the rewire with the content of the source.
-/

set_option autoImplicit false

namespace ProxmoxCSI.CopyFreshness
open CallProgram CallProgram.Prog CallSafety CallErrors CallSchedule TextScan VolumeHandle
open ClusterState ClusterService MigratorCalls RewireProgram MigrateProgram MigratorRules
open HelperConversion

variable {C : Type}

structure Stamped (w : World C) : Prop where
  past : ∀ k d, w.disks.lookup k = some d → d.stamp ≤ w.clock
  same : ∀ k k' d d', w.disks.lookup k = some d → w.disks.lookup k' = some d' →
    d.stamp = d'.stamp → d.content = d'.content

def written (w : World C) (k : DiskKey) (d : Disk C) (c : C) : World C :=
  { w with disks := w.disks.insert k ⟨d.size,c,w.clock+1⟩, clock := w.clock+1 }

/-- One attempt, stopped anywhere, or one write between two attempts. -/
inductive Episode : World C → World C → Prop
  | attempt (t : Patience) (m : Migrator) (req : Request) {w : World C}
      {d : Config Call Reply (World C) (Except GoError Unit)}
      (hr : Runs solo ⟨[],w,(migrate t m req).run⟩ d) : Episode w d.world
  | write (w : World C) (k : DiskKey) (d : Disk C) (c : C) (hd : w.disks.lookup k = some d) :
      Episode w (written w k d c)

def Episodes : World C → World C → Prop := Relation.ReflTransGen Episode

def DisksWithin (w w' : World C) : Prop :=
  ∀ k d, w'.disks.lookup k = some d → ∃ k', w.disks.lookup k' = some d

theorem within_insert (w : World C) {k k' : DiskKey} {d : Disk C} (hd : w.disks.lookup k' = some d) :
    ∀ x e, (w.disks.insert k d).lookup x = some e → ∃ y, w.disks.lookup y = some e := by
  intro x e he
  by_cases hx : x = k
  · rw [hx, AList.lookup_insert] at he
    exact ⟨k',he ▸ hd⟩
  · rw [AList.lookup_insert_ne hx] at he
    exact ⟨x,he⟩

theorem erase_lookup {t : Table DiskKey (Disk C)} {k x : DiskKey} {e : Disk C}
    (h : (t.erase k).lookup x = some e) : t.lookup x = some e := by
  by_cases hx : x = k
  · rw [hx, AList.lookup_erase] at h
    cases h
  · rwa [AList.lookup_erase_ne hx] at h

theorem eraseKeys_lookup_some {ks : List DiskKey} {t : Table DiskKey (Disk C)} {x : DiskKey}
    {e : Disk C} (h : (World.eraseKeys t ks).lookup x = some e) : t.lookup x = some e := by
  induction ks generalizing t with
  | nil => exact h
  | cons k ks ih => exact erase_lookup (ih h)

theorem serve_disksWithin (w : World C) (a : Api) : DisksWithin w (serve w a).2 := by
  by_cases hk : Api.keepsDisks a
  · intro k d h
    rw [serve_keepsDisks w hk] at h
    exact ⟨k,h⟩
  · intro k d h
    cases a with
    | deleteContent region node storage disk site =>
      simp only [serve] at h
      split at h
      · exact ⟨k,h⟩
      · exact ⟨k,erase_lookup h⟩
    | copyContent endpoint source node target =>
      simp only [serve, copyDisk] at h
      split at h
      · rename_i e he _
        exact within_insert w he k d h
      · exact ⟨k,h⟩
      · exact ⟨k,h⟩
    | deleteVM region node vmid =>
      simp only [serve] at h
      split at h
      · exact ⟨k,h⟩
      · exact ⟨k,eraseKeys_lookup_some h⟩
    | moveDisk region node vmid storage =>
      simp only [serve, convertSlot] at h
      split at h
      · exact ⟨k,h⟩
      · split at h
        · rename_i e name he _
          obtain ⟨y,_,hy⟩ := Option.bind_eq_some_iff.mp he
          exact within_insert w hy k d h
        · exact ⟨k,h⟩
    | _ => exact absurd rfl hk

theorem stamped_within {w w' : World C} (hw : Stamped w) (hc : w.clock ≤ w'.clock)
    (h : DisksWithin w w') : Stamped w' := by
  constructor
  · intro k d hd
    obtain ⟨y,hy⟩ := h k d hd
    have hp := hw.past y d hy
    omega
  · intro k k' d d' hd hd' hs
    obtain ⟨y,hy⟩ := h k d hd
    obtain ⟨y',hy'⟩ := h k' d' hd'
    exact hw.same y y' d d' hy hy' hs

theorem stamped_insert {w : World C} (hw : Stamped w) (k : DiskKey) (d : Disk C)
    (hd : d.stamp = w.clock+1) :
    Stamped { w with disks := w.disks.insert k d, clock := w.clock+1 } := by
  have hcase : ∀ x e, (w.disks.insert k d).lookup x = some e →
      e = d ∨ w.disks.lookup x = some e := by
    intro x e he
    by_cases hx : x = k
    · rw [hx, AList.lookup_insert] at he
      exact .inl (Option.some.inj he).symm
    · rw [AList.lookup_insert_ne hx] at he
      exact .inr he
  constructor
  · intro x e he
    show e.stamp ≤ w.clock+1
    rcases hcase x e he with rfl | he
    · omega
    · have hp := hw.past x e he
      omega
  · intro x x' e e' he he' hs
    rcases hcase x e he with h | h <;> rcases hcase x' e' he' with h' | h'
    · rw [h, h']
    · have hp := hw.past x' e' h'
      rw [h] at hs
      omega
    · have hp := hw.past x e h
      rw [h'] at hs
      omega
    · exact hw.same x x' e e' h h' hs

theorem outcome_stamped {c : Call} {w w' : World C} {r : Reply c} (h : CallOutcome c w r w')
    (hw : Stamped w) : Stamped w' := by
  have hserve : ∀ a, Stamped (serve w a).2 := fun a =>
    stamped_within hw (serve_clock w a).ge (serve_disksWithin w a)
  cases h with
  | api h =>
    cases h with
    | served => exact hserve _
    | failed => exact hw
    | lost => exact hserve _
    | truncated _ _ _ _ _ d _ _ hs _ => exact stamped_insert hw _ d hs
    | watched => exact hw
  | newUUID => exact hw
  | now => exact hw
  | phase => exact hw

theorem runs_stamped {α : Type} {c d : Config Call Reply (World C) α} (hr : Runs solo c d)
    (hc : Stamped c.world) : Stamped d.world := by
  refine runs_invariant ?_ ?_ hr hc
  · intro _ _ _ he
    exact he.elim
  · intro _ _ _ _ ho
    exact outcome_stamped ho

theorem episodes_stamped {w w' : World C} (h : Episodes w w') (hw : Stamped w) : Stamped w' := by
  induction h with
  | refl => exact hw
  | tail _ he ih =>
    cases he with
    | attempt t m req hr => exact runs_stamped hr ih
    | write w k d c hd => exact stamped_insert ih k _ rfl

def Twin (w : World C) (vol targetVol : Volume) (node : String) : Prop :=
  ∃ d, w.disks.lookup (w.key vol) = some d ∧ w.disks.lookup (w.keyOn targetVol node) = some d

def SameContent (w : World C) (vol targetVol : Volume) : Prop :=
  ∃ s t, w.disks.lookup (w.key vol) = some s ∧ w.disks.lookup (w.key targetVol) = some t ∧
    t.content = s.content

section Transfer

variable {h h' : History Call Reply (World C)} {w w' : World C} {u : Unit}

theorem moveQemuDisk_twin {e : CopyEndpoint} {vol targetVol : Volume} {node : String}
    (hr : Runs solo ⟨h,w,(moveQemuDisk e vol node targetVol).run⟩ ⟨h',w',.done (.ok u)⟩) :
    Twin w' vol targetVol node := by
  obtain ⟨d,hd,ht,rfl⟩ := serve_copyContent (solo_need (by simp) hr)
  have hne : w.key vol ≠ w.keyOn targetVol node := by
    intro he
    rw [he, ht] at hd
    cases hd
  refine ⟨d,?_,AList.lookup_insert _⟩
  show (w.disks.insert (w.keyOn targetVol node) d).lookup (w.key vol) = _
  rw [AList.lookup_insert_ne hne, hd]

theorem solo_undisturbed (vol : Volume) (vmid : ℤ) :
    Undisturbed (C := C) vol vmid (fun _ _ _ => False) (fun _ => True) :=
  ⟨fun _ _ _ _ he => he.elim,fun _ _ _ _ _ _ _ => trivial⟩

def CopyCall : Call → Prop
  | .api (.copyContent _ _ _ _) => True
  | _ => False

/-- What only a copy can end lasts through a program without one. -/
theorem runs_without_copy {α : Type} {x : M α} {S : Service Call Reply (World C)}
    {N : History Call Reply (World C) → Prop} (hN : ∀ e h, ¬CopyCall e.call → N h → N (e::h))
    (hu : x.run.Uses (fun c => ¬CopyCall c)) {a : α} (hn : N h)
    (hr : Runs S ⟨h,w,x.run⟩ ⟨h',w',.done (.ok a)⟩) : N h' := by
  refine (runs_uses (I := fun h _ => N h) ?_ ?_ hr hu hn).2
  · intro _ _ _ _ hh
    exact hh
  · intro c h₁ _ r _ hc _ hh
    exact hN _ h₁ hc hh

section Shared

variable {env : History Call Reply (World C) → World C → World C → Prop} {vol targetVol : Volume}
  {node : String}

theorem discardHelper_twin {region host : String} {vmid : ℤ}
    (henv : ∀ h w w', env h w w' → Twin w vol targetVol node → Twin w' vol targetVol node)
    (hv : vol.vmid ≠ toString vmid) (ht : targetVol.vmid ≠ toString vmid)
    (hw : Twin w vol targetVol node)
    (hr : Runs (cluster env) ⟨h,w,discardHelper region host vmid⟩ ⟨h',w',.done u⟩) :
    Twin w' vol targetVol node := by
  have huse : (discardHelper region host vmid).Uses (fun c => c = .api (.deleteVM region host vmid)) :=
    uses_bind (uses_need rfl) (fun _ => trivial)
  refine (runs_uses (I := fun _ w => Twin w vol targetVol node) henv ?_ hr huse hw).2
  rintro _ _ a r b rfl ho ⟨d,hs,htar⟩
  cases ho with
  | api ho =>
    refine ⟨d,?_,?_⟩
    · rw [World.key, outcome_location ho, outcome_deleteVM_keeps ho vol hv]
      exact hs
    · rw [World.keyOn, outcome_location ho, outcome_deleteVM_keeps ho targetVol ht]
      exact htar

/-- A conversion whose helper VM is left alone writes its own source, as long as
the others keep both disks. -/
theorem convertAndMove_shared {N Win : History Call Reply (World C) → Prop} {m : Migrator}
    (hu : Undisturbed vol (helperVMIDOf m) env Win) (hN : ∀ e h, ¬CopyCall e.call → N h → N (e::h))
    (hwin : ∀ h host w w', N h → Win (⟨.api (.createVM vol.region host (helperVMIDOf m)
      helperVMName),.ok (),w,w'⟩::h))
    (henv : vol.vmid ≠ toString (helperVMIDOf m) → ∀ h w w', env h w w' →
      Twin w vol targetVol node → Twin w' vol targetVol node)
    (ht : targetVol.vmid = vol.vmid) (hn : N h)
    (hr : Runs (cluster env) ⟨h,w,(convertAndMove m vol targetVol node).run⟩ ⟨h',w',.done (.ok u)⟩) :
    Twin w' vol targetVol node := by
  obtain ⟨h₁,w₁,_,hreq,hr₁⟩ := runs_ok_bind hr
  obtain ⟨h₂,w₂,stale,hfind,hr₂⟩ := runs_ok_bind hr₁
  obtain ⟨h₃,w₃,_,hstale,hr₃⟩ := runs_ok_bind hr₂
  obtain ⟨h₄,w₄,_,hcreate,hr₄⟩ := runs_ok_bind hr₃
  obtain ⟨h₅,w₅,hbody,hclean⟩ := runs_ok_deferred hr₄
  obtain ⟨hid,rfl,_⟩ := runs_ok_require hreq
  have hv : vol.vmid ≠ toString (helperVMIDOf m) := hid.symm
  have hn₂ : N h₂ := by
    refine runs_without_copy hN ?_ hn hfind
    exact uses_try_bind (uses_need (fun hc => hc)) (fun _ => trivial)
  have hn₃ : N h₃ := by
    refine runs_without_copy hN ?_ hn₂ hstale
    cases stale with
    | none => trivial
    | some vm =>
      exact uses_try_bind uses_require (fun _ => uses_relabel (uses_need (fun hc => hc)))
  obtain ⟨a,b,_,_,rfl,_⟩ := runs_need hcreate
  obtain ⟨w₆,d,hs,htar,hi⟩ := convertOnHelper_copies hu (hwin h₃ _ a b hn₃) hbody
  have htwin : Twin w₅ vol targetVol node := by
    have hstable : Stable (cluster env) (fun _ w => Twin w vol targetVol node) := henv hv
    exact stable_interference hstable hi ⟨d,hs,htar⟩
  exact discardHelper_twin (henv hv) hv (ht ▸ hv) htwin hclean

end Shared

theorem convertAndMove_twin {m : Migrator} {vol targetVol : Volume} {node : String}
    (ht : targetVol.vmid = vol.vmid)
    (hr : Runs solo ⟨h,w,(convertAndMove m vol targetVol node).run⟩ ⟨h',w',.done (.ok u)⟩) :
    Twin w' vol targetVol node :=
  convertAndMove_shared (N := fun _ => True) (solo_undisturbed vol _) (fun _ _ _ _ => trivial)
    (fun _ _ _ _ _ => trivial) (fun _ _ _ _ he => he.elim) ht trivial hr

theorem move_twin {m : Migrator} {req : Request} {p : Plan} (ht : p.targetVol.vmid = p.vol.vmid)
    (hr : Runs solo ⟨h,w,(move m req p).run⟩ ⟨h',w',.done (.ok u)⟩) :
    Twin w' p.vol p.targetVol req.targetNode := by
  unfold move at hr
  split at hr
  · obtain ⟨w₁,hr,hi⟩ := runs_ok_relabel hr
    rw [solo_interference hi]
    exact convertAndMove_twin ht hr
  · obtain ⟨h₁,w₁,r,hmove,hr⟩ := runs_ok_bind hr
    obtain ⟨w₂,hmove,hi⟩ := runs_ok_observed hmove
    cases r with
    | ok x =>
      have hw := solo_interference (runs_ok_pure hr).2.2
      rw [hw, solo_interference hi]
      exact moveQemuDisk_twin hmove
    | error e =>
      obtain ⟨h₃,w₃,_,_,hthrow⟩ := runs_ok_bind hr
      exact runs_ok_throw hthrow

end Transfer

section Entry

variable {h h' : History Call Reply (World C)} {w w' : World C} {req : Request} {m : Migrator}

theorem detectResume_true {p : Plan}
    (hr : Runs solo ⟨h,w,(detectResume req p).run⟩ ⟨h',w',.done (.ok true)⟩) : w' = w := by
  unfold detectResume at hr
  split at hr
  · obtain ⟨h₁,w₁,r,hseen,hr⟩ := runs_ok_bind hr
    have hw : w₁ = w := solo_reads hseen (uses_observed (diskOnNode_reads _ _))
    split at hr
    · split at hr
      · rw [solo_interference (runs_ok_pure hr).2.2, hw]
      · obtain ⟨_,_,_,_,hr⟩ := runs_ok_bind hr
        have hb := (runs_ok_pure hr).1
        cases hb
    · have hb := (runs_ok_pure hr).1
      cases hb
  · split at hr
    · obtain ⟨_,_,r,_,hr⟩ := runs_ok_bind hr
      split at hr
      · exact runs_ok_throw hr
      · have hb := (runs_ok_pure hr).1
        cases hb
    · have hb := (runs_ok_pure hr).1
      cases hb

/-- A call that resumes has not touched a disk when it takes up the attempt. -/
theorem reachMove_resumed {t : Patience} {a : Approach}
    (hr : Runs solo ⟨h,w,(reachMove t m req).run⟩ ⟨h',w',.done (.ok a)⟩) :
    Planned w m req a.plan ∧ (a.resumed = true → w'.disks = w.disks) := by
  obtain ⟨h₁,w₁,p,hplan,hr⟩ := runs_ok_bind hr
  obtain ⟨h₂,w₂,resumed,hresume,hr⟩ := runs_ok_bind hr
  obtain ⟨h₃,w₃,u,husage,hr⟩ := runs_ok_bind hr
  obtain ⟨h₄,w₄,cordoned,hcordon,hr⟩ := runs_ok_bind hr
  obtain ⟨h₅,w₅,_,hbody,hr⟩ := runs_ok_bind hr
  obtain ⟨rfl,_,hi⟩ := runs_ok_pure hr
  obtain ⟨hp,hw₁⟩ := resolveRequest_planned hplan
  refine ⟨hp,?_⟩
  intro hres
  dsimp only at hres
  subst hres
  obtain ⟨w₆,hbody,hi₆⟩ := runs_ok_onError hbody
  have hstay : w₆.disks = w₄.disks := by
    refine solo_keepsDisks hbody ?_
    refine uses_try_bind (uses_mono (drain_prepares t req u) (fun _ => prepares_keepsDisks)) ?_
    intro _
    refine uses_try_bind (uses_relabel (uses_mono (waitForVolumeDetach_reads _ _ _ _)
      (fun _ => reads_keepsDisks))) ?_
    intro _
    trivial
  have hcord : w₄.disks = w₃.disks :=
    solo_keepsDisks hcordon (uses_mono (cordon_prepares req u) (fun _ => prepares_keepsDisks))
  have huse : w₃ = w₂ := solo_reads husage (resolveUsage_reads req p)
  rw [solo_interference hi, solo_interference hi₆, hstay, hcord, huse, detectResume_true hresume, hw₁]

theorem key_target {w : World C} {p : Plan} (hp : Planned w m req p) (w' : World C) :
    w'.keyOn p.targetVol req.targetNode = w'.key p.targetVol := by
  rw [hp.target]
  rfl

theorem target_vmid {w : World C} {p : Plan} (hp : Planned w m req p) :
    p.targetVol.vmid = p.vol.vmid := by
  apply targetDiskName_vmid
  rw [hp.target]
  rfl

/-- The copy a resuming call takes up was made after the last write to the
source: both disks carry the same stamp when the call starts. -/
def CopyUpToDate (w : World C) (p : Plan) : Prop :=
  ∃ s t, w.disks.lookup (w.key p.vol) = some s ∧ w.disks.lookup (w.key p.targetVol) = some t ∧
    t.stamp = s.stamp

theorem reachRewire_sameContent {t : Patience} {a : Approach} (hw : Stamped w)
    (hr : Runs solo ⟨h,w,(reachRewire t m req).run⟩ ⟨h',w',.done (.ok a)⟩)
    (hfresh : a.resumed = true → CopyUpToDate w a.plan) :
    SameContent w' a.plan.vol a.plan.targetVol := by
  obtain ⟨h₁,w₁,b,hreach,hr⟩ := runs_ok_bind hr
  obtain ⟨h₂,w₂,_,hbody,hr⟩ := runs_ok_bind hr
  obtain ⟨rfl,_,hi⟩ := runs_ok_pure hr
  obtain ⟨w₃,hbody,hi₃⟩ := runs_ok_onError hbody
  obtain ⟨h₄,w₄,_,hmove,hrest⟩ := runs_ok_bind hbody
  obtain ⟨hp,hsame⟩ := reachMove_resumed hreach
  have hread : w₃ = w₄ := by
    refine solo_reads hrest (uses_try_bind (verifyTarget_reads _ _) ?_)
    intro _
    exact uses_phase trivial
  have hend : w' = w₄ := by rw [solo_interference hi, solo_interference hi₃, hread]
  subst hend
  unfold transfer at hmove
  split at hmove
  · rename_i hres
    have hw₁ := solo_interference (runs_ok_pure hmove).2.2
    obtain ⟨s,d,hs,hd,hst⟩ := hfresh hres
    have hkeys : w'.location = w.location := by rw [hw₁, solo_location hreach]
    have hdisks : w'.disks = w.disks := by rw [hw₁, hsame hres]
    refine ⟨s,d,?_,?_,hw.same _ _ _ _ hd hs hst⟩
    · rw [hdisks, World.key, hkeys]
      exact hs
    · rw [hdisks, World.key, hkeys]
      exact hd
  · obtain ⟨_,_,_,_,hmove⟩ := runs_ok_bind hmove
    obtain ⟨d,hs,hd⟩ := move_twin (target_vmid hp) hmove
    exact ⟨d,d,hs,key_target hp w' ▸ hd,rfl⟩

end Entry

/-- After any history of attempts and writes, a call that copies the disk, or
resumes on a copy that is up to date, enters the rewire with the target holding
the current content of the source. -/
theorem rewire_entered_with_source_content {w₀ w w' : World C} (hw : Stamped w₀)
    (he : Episodes w₀ w) {t : Patience} {m : Migrator} {req : Request} {a : Approach}
    {h : History Call Reply (World C)}
    (hr : Runs solo ⟨[],w,(reachRewire t m req).run⟩ ⟨h,w',.done (.ok a)⟩)
    (hfresh : a.resumed = true → CopyUpToDate w a.plan) :
    SameContent w' a.plan.vol a.plan.targetVol :=
  reachRewire_sameContent (episodes_stamped he hw) hr hfresh

theorem sameContent_map {w : World C} {vol targetVol : Volume} (h : SameContent w vol targetVol) :
    (w.disks.lookup (w.key targetVol)).map Disk.content =
      (w.disks.lookup (w.key vol)).map Disk.content := by
  obtain ⟨s,t,hs,ht,hc⟩ := h
  rw [hs, ht, Option.map_some, Option.map_some, hc]

def sampleDisk : String := "vm-9999-pvc-a"

theorem sampleWorld_stamped (policy : ReclaimPolicy) : Stamped (sampleWorld sampleDisk policy) := by
  have hl : ∀ k d, (sampleWorld sampleDisk policy).disks.lookup k = some d →
      d = ⟨10,7,1⟩ := by
    intro k d hd
    by_cases hk : k = (1,sampleDisk)
    · have h := hd
      rw [hk] at h
      exact (Option.some.inj h).symm
    · have h : ((∅ : Table DiskKey (Disk ℕ)).insert (1,sampleDisk) ⟨10,7,1⟩).lookup k = some d := hd
      rw [AList.lookup_insert_ne hk] at h
      cases h
  constructor
  · intro k d hd
    rw [hl k d hd]
    exact Nat.le_refl 1
  · intro k k' d d' hd hd' _
    rw [hl k d hd, hl k' d' hd']

def copiedWorld : World ℕ :=
  (after (faulty []) 9 ⟨[],sampleWorld sampleDisk .delete,
    (migrate samplePatience sampleMigrator sampleRequest).run⟩).world

def staleWorld : World ℕ := written copiedWorld (1,sampleDisk) ⟨10,7,1⟩ 8

theorem staleWorld_reached : Episodes (sampleWorld sampleDisk .delete) staleWorld := by
  have hcopy : Episode (sampleWorld sampleDisk .delete) copiedWorld :=
    .attempt _ _ _ (after_runs (faulty_lawful []) 9 _)
  have hwrite : Episode copiedWorld staleWorld := .write _ _ _ _ (by decide +kernel)
  exact (Relation.ReflTransGen.single hcopy).tail hwrite

def differs (a : Approach) (w : World ℕ) : Bool :=
  decide ((w.disks.lookup (w.key a.plan.targetVol)).map Disk.content ≠
    (w.disks.lookup (w.key a.plan.vol)).map Disk.content)

def sourceLost (_ : Unit) (w : World ℕ) : Bool :=
  decide (w.disks.lookup (1,sampleDisk) = none ∧
    w.disks.lookup (2,sampleDisk) = some ⟨10,7,1⟩)

/-- A first call stops after its copy, a pod writes to the source, and the
second call resumes on the old copy: it enters the rewire, and completes with
the newer source deleted. -/
theorem stale_copy_migrated :
    Stamped (sampleWorld sampleDisk .delete) ∧ Episodes (sampleWorld sampleDisk .delete) staleWorld ∧
    (∃ h w' a, Runs solo ⟨[],staleWorld,(reachRewire samplePatience sampleMigrator
        sampleRequest).run⟩ ⟨h,w',.done (.ok a)⟩ ∧ ¬SameContent w' a.plan.vol a.plan.targetVol) ∧
    ∃ h w', Runs solo ⟨[],staleWorld,(migrate samplePatience sampleMigrator sampleRequest).run⟩
        ⟨h,w',.done (.ok ())⟩ ∧ w'.disks.lookup (1,sampleDisk) = none ∧
      w'.disks.lookup (2,sampleDisk) = some ⟨10,7,1⟩ := by
  refine ⟨sampleWorld_stamped .delete,staleWorld_reached,?_,?_⟩
  · have hrun : passes differs (finish (faulty []) (reachRewire samplePatience sampleMigrator
        sampleRequest).run [] staleWorld) := by decide +kernel
    obtain ⟨h,w',a,hr,hc⟩ := solo_passes [] hrun
    exact ⟨h,w',a,hr,fun hs => of_decide_eq_true hc (sameContent_map hs)⟩
  · have hrun : passes sourceLost (finish (faulty []) (migrate samplePatience sampleMigrator
        sampleRequest).run [] staleWorld) := by decide +kernel
    obtain ⟨h,w',_,hr,hc⟩ := solo_passes [] hrun
    exact ⟨h,w',hr,of_decide_eq_true hc⟩

/-- A call that copies the disk itself meets the condition. -/
theorem rewire_entered_after_own_copy :
    ∃ h w' a, Runs solo ⟨[],sampleWorld sampleDisk .delete,(reachRewire samplePatience
        sampleMigrator sampleRequest).run⟩ ⟨h,w',.done (.ok a)⟩ ∧
      SameContent w' a.plan.vol a.plan.targetVol := by
  have hrun : passes (fun (a : Approach) _ => !a.resumed) (finish (faulty []) (reachRewire
      samplePatience sampleMigrator sampleRequest).run [] (sampleWorld sampleDisk .delete)) := by
    decide +kernel
  obtain ⟨h,w',a,hr,hc⟩ := solo_passes [] hrun
  refine ⟨h,w',a,hr,rewire_entered_with_source_content (sampleWorld_stamped .delete) .refl hr ?_⟩
  intro hres
  rw [hres] at hc
  cases hc

end ProxmoxCSI.CopyFreshness
