import ProxmoxCSI.MigratorRules

/-!
# Shared storage

When the source node and the target node list one physical disk, a migration
must not delete it. A call that finds no resume marker for its target and whose
listings succeed stops at the pre-flight and has only read the cluster. An
ignored listing error lets the call go on to its own cleanup.
-/

set_option autoImplicit false

namespace ProxmoxCSI.SharedStorage
open CallProgram CallProgram.Prog CallSafety CallErrors CallSchedule TextScan VolumeHandle
open ClusterState ClusterService MigratorCalls MigrationAnnotations RewireProgram MigrateProgram
open MigratorRules

variable {C : Type}

def deletes (k : DiskKey) (e : Event Call Reply (World C)) : Bool :=
  match e.call with
  | .api (.deleteContent region node storage disk _) =>
      decide ((e.before.location region node storage,disk) = k)
  | _ => false

def unlisted : Event Call Reply (World C) → Bool
  | ⟨.api (.storageContent _ _ _),.error _,_,_⟩ => true
  | _ => false

/-- The claim is bound to a volume whose disk exists. -/
structure Bound (w : World C) (ns name : String) (pvc : PersistentVolumeClaim)
    (pv : PersistentVolume) (vol : Volume) : Prop where
  claim : w.pvcs.lookup (ns,name) = some pvc
  volume : w.pvs.lookup pvc.volumeName = some pv
  handle : parseVolumeID (volumeHandleOf pv) = some vol
  disk : (w.disks.lookup (w.key vol)).isSome

def SharedWith (w : World C) (vol : Volume) (node : String) : Prop :=
  vol.node ≠ node ∧ w.keyOn vol node = w.key vol

theorem content_lists {w : World C} {vol : Volume} {node : String}
    (hd : (w.disks.lookup (w.keyOn vol node)).isSome) :
    ((w.content vol.region node vol.storage).find? (onStorage vol)).isSome := by
  obtain ⟨d,hd⟩ := Option.isSome_iff_exists.mp hd
  have hm : (⟨w.keyOn vol node,d⟩ : Sigma fun _ : DiskKey => Disk C) ∈ w.disks.entries :=
    AList.mem_lookup_iff.mp hd
  rw [List.find?_isSome]
  refine ⟨⟨vol.volID,d.size⟩,?_,by simp [onStorage]⟩
  apply List.mem_map.mpr
  refine ⟨⟨w.keyOn vol node,d⟩,?_,rfl⟩
  rw [List.mem_filter]
  exact ⟨hm,by simp [World.keyOn]⟩

section Blocked

variable {h h' : History Call Reply (World C)} {w w' : World C}

theorem diskOnNode_result {vol : Volume} {node : String} {r : Except GoError (Bool × ℤ)}
    (hr : Runs solo ⟨h,w,(diskOnNode vol node).run⟩ ⟨h',w',.done r⟩)
    (hd : (w.disks.lookup (w.keyOn vol node)).isSome) :
    (∃ e ∈ h', unlisted e) ∨ ∃ size, r = .ok (true,size) := by
  cases r with
  | error g =>
    rcases runs_error_bind hr with ⟨w₁,hn⟩ | ⟨h₁,w₁,content,_,hf⟩
    · obtain ⟨x,a,b,hx,_,_,rfl,_⟩ := runs_need_outcome hn
      cases x with
      | ok y => cases hx
      | error e => exact .inl ⟨_,List.mem_cons_self,rfl⟩
    · split at hf
      · have hp := (runs_done hf).2.1
        cases hp
      · have hp := (runs_done hf).2.1
        cases hp
  | ok v =>
    obtain ⟨h₁,w₁,content,hn,hf⟩ := runs_ok_bind hr
    have hs := solo_need (by simp) hn
    obtain ⟨hc,_⟩ := Prod.mk.inj hs
    have hl := content_lists hd
    cases hc
    split at hf
    · exact .inr ⟨_,by rw [(runs_ok_pure hf).1]⟩
    · rename_i hnone
      rw [hnone] at hl
      cases hl

/-- Without the marker and with its listing answered, the pre-flight refuses. -/
theorem detectResume_refuses {req : Request} {p : Plan} {b : Bool}
    (hd : (w.disks.lookup (w.key p.vol)).isSome) (hshared : SharedWith w p.vol req.targetNode)
    (hmark : getAnnotation p.pv.annotations annotationMigrateState ≠ req.targetNode)
    (hr : Runs solo ⟨h,w,(detectResume req p).run⟩ ⟨h',w',.done (.ok b)⟩) :
    ∃ e ∈ h', unlisted e := by
  rw [detectResume, if_neg hmark, if_pos hshared.1] at hr
  obtain ⟨h₁,w₁,r,hseen,hr⟩ := runs_ok_bind hr
  obtain ⟨w₂,hseen,_⟩ := runs_ok_observed hseen
  rcases diskOnNode_result hseen (hshared.2 ▸ hd) with ⟨e,he,hu⟩ | ⟨size,rfl⟩
  · exact ⟨e,(runs_hist hr).subset he,hu⟩
  · exact runs_ok_throw hr

def OnlyRead (w : World C) (h : History Call Reply (World C)) (w' : World C) : Prop :=
  w' = w ∧ ∀ e ∈ h, Reads e.call

theorem reads_onlyRead {α : Type} {c d : Config Call Reply (World C) α} (hr : Runs solo c d)
    (hu : c.prog.Uses Reads) (hc : OnlyRead w c.hist c.world) : OnlyRead w d.hist d.world := by
  refine (runs_uses (I := OnlyRead w) ?_ ?_ hr hu hc).2
  · intro _ _ _ he
    exact he.elim
  · intro c h a r b hreads ho hw
    refine ⟨(reads_outcome hreads ho).trans hw.1,?_⟩
    intro e he
    rcases List.mem_cons.mp he with rfl | he
    · exact hreads
    · exact hw.2 e he

/-- What makes the pre-flight of a call decisive. -/
structure Refused (w : World C) (ns name : String) (pv : PersistentVolume) (vol : Volume)
    (req : Request) : Prop where
  ns : req.ns = ns
  name : req.pvcName = name
  shared : SharedWith w vol req.targetNode
  unmarked : getAnnotation pv.annotations annotationMigrateState ≠ req.targetNode

variable {ns name : String} {pvc : PersistentVolumeClaim} {pv : PersistentVolume} {vol : Volume}
  {t : Patience} {m : Migrator} {req : Request}

theorem planned_bound {p : Plan} (hb : Bound w ns name pvc pv vol) (hq : Refused w ns name pv vol req)
    (hp : Planned w m req p) : p.pv = pv ∧ p.vol = vol := by
  have hc := hp.claim
  rw [hq.ns, hq.name, hb.claim] at hc
  have hv := hp.volume
  rw [← Option.some.inj hc, hb.volume] at hv
  have hh := hp.handle
  rw [← Option.some.inj hv, hb.handle] at hh
  exact ⟨(Option.some.inj hv).symm,(Option.some.inj hh).symm⟩

theorem preflight_refuses {p : Plan} {b : Bool} (hb : Bound w ns name pvc pv vol)
    (hq : Refused w ns name pv vol req) (hp : Planned w m req p)
    (hr : Runs solo ⟨h,w,(detectResume req p).run⟩ ⟨h',w',.done (.ok b)⟩) :
    ∃ e ∈ h', unlisted e := by
  obtain ⟨hpv,hvol⟩ := planned_bound hb hq hp
  exact detectResume_refuses (hvol ▸ hb.disk) (hvol ▸ hq.shared) (hpv ▸ hq.unmarked) hr

theorem preflight_reads {p : Plan} (hb : Bound w ns name pvc pv vol)
    (hq : Refused w ns name pv vol req) (hp : Planned w m req p) :
    (detectResume req p).run.Uses Reads := by
  obtain ⟨hpv,hvol⟩ := planned_bound hb hq hp
  rw [detectResume, if_neg (hpv ▸ hq.unmarked), if_pos (hvol ▸ hq.shared.1)]
  refine uses_try_bind (uses_observed (diskOnNode_reads _ _)) ?_
  intro r
  split <;> trivial

theorem reachMove_refused {a : Approach} (hb : Bound w ns name pvc pv vol)
    (hq : Refused w ns name pv vol req)
    (hr : Runs solo ⟨h,w,(reachMove t m req).run⟩ ⟨h',w',.done (.ok a)⟩) :
    ∃ e ∈ h', unlisted e := by
  obtain ⟨h₁,w₁,p,hplan,hr₁⟩ := runs_ok_bind hr
  obtain ⟨h₂,w₂,resumed,hresume,hr₂⟩ := runs_ok_bind hr₁
  obtain ⟨hp,rfl⟩ := resolveRequest_planned hplan
  obtain ⟨e,he,hu⟩ := preflight_refuses hb hq hp hresume
  exact ⟨e,(runs_hist hr₂).subset he,hu⟩

/-- A call whose listings all succeed stops at the pre-flight. -/
theorem call_only_reads {d : Config Call Reply (World C) (Except GoError Unit)}
    (hb : Bound w ns name pvc pv vol) (hq : Refused w ns name pv vol req)
    (hr : Runs solo ⟨[],w,(migrate t m req).run⟩ d) (hl : ∀ e ∈ d.hist, ¬unlisted e) :
    OnlyRead w d.hist d.world := by
  have hstart : OnlyRead w [] w := ⟨rfl,fun e he => by cases he⟩
  have hstop : ∀ {a h' w'}, Runs solo ⟨[],w,(reachMove t m req).run⟩ ⟨h',w',.done (.ok a)⟩ →
      h' <:+ d.hist → False := by
    intro a h' w' hreach hsuf
    obtain ⟨e,he,hu⟩ := reachMove_refused hb hq hreach
    exact hl e (hsuf.subset he) hu
  rcases runs_try_bind hr with ⟨q,hr₁⟩ | ⟨h₁,w₁,a,hreach,hrest⟩
  · rcases runs_try_bind hr₁ with ⟨q,hr₂⟩ | ⟨h₁,w₁,a,hreach,hrest⟩
    · rcases runs_try_bind hr₂ with ⟨q,hr₃⟩ | ⟨h₁,w₁,p,hplan,hr₃⟩
      · have hread := reads_onlyRead hr₃ (resolveRequest_reads m req) hstart
        exact hread
      · have hread := reads_onlyRead hplan (resolveRequest_reads m req) hstart
        obtain ⟨hp,rfl⟩ := resolveRequest_planned hplan
        rcases runs_try_bind hr₃ with ⟨q,hr₄⟩ | ⟨h₂,w₂,b,hresume,hr₄⟩
        · have hread' := reads_onlyRead hr₄ (preflight_reads hb hq hp) hread
          exact hread'
        · obtain ⟨e,he,hu⟩ := preflight_refuses hb hq hp hresume
          exact absurd hu (hl e ((runs_hist hr₄).subset he))
    · exact (hstop hreach (runs_hist hrest)).elim
  · obtain ⟨h₂,w₂,b,hmove,hmid⟩ := runs_ok_bind hreach
    exact (hstop hmove ((runs_hist hmid).trans (runs_hist hrest))).elim

end Blocked

/-- No sequence of calls deletes the shared disk, as long as no call finds a
resume marker for its target on the volume and every listing succeeds. -/
theorem shared_disk_kept {w₀ w : World C} {ns name : String} {pvc : PersistentVolumeClaim}
    {pv : PersistentVolume} {vol : Volume} {es : History Call Reply (World C)}
    (hb : Bound w₀ ns name pvc pv vol)
    (hs : Attempts solo (Refused w₀ ns name pv vol) w₀ w es) (hl : ∀ e ∈ es, ¬unlisted e) :
    (∀ e ∈ es, ¬deletes (w₀.key vol) e) ∧ (w.disks.lookup (w₀.key vol)).isSome := by
  have hall : w = w₀ ∧ ∀ e ∈ es, Reads e.call := by
    induction hs with
    | none => exact ⟨rfl,fun e he => by cases he⟩
    | @next w₁ es _ t m req hreq d hr ih =>
      obtain ⟨rfl,hes⟩ := ih (fun e he => hl e (List.mem_append_right _ he))
      have hread := call_only_reads hb hreq hr (fun e he => hl e (List.mem_append_left _ he))
      refine ⟨hread.1,?_⟩
      intro e he
      rcases List.mem_append.mp he with he | he
      · exact hread.2 e he
      · exact hes e he
  obtain ⟨rfl,hes⟩ := hall
  refine ⟨?_,hb.disk⟩
  rintro ⟨c,r,a,b⟩ he hd
  have hr := hes _ he
  cases c with
  | api x =>
    cases x with
    | deleteContent region node storage disk site => cases hr
    | _ => cases hd
  | _ => cases hd

def sharedWorld : World ℕ :=
  { sampleWorld "vm-9999-pvc-a" .delete with
    location := fun _ _ _ => 1
    disks := tableOf [((1,"vm-9999-pvc-a"),⟨5,7,1⟩)] }

def sharedVolume : Volume := newVolume "r" "n1" "data" "vm-9999-pvc-a"

theorem sharedWorld_bound : Bound sharedWorld "ns" "a" sampleClaim
    (sampleVolume "r/n1/data/vm-9999-pvc-a" .delete) sharedVolume :=
  ⟨rfl,rfl,by decide +kernel,by decide +kernel⟩

theorem sharedWorld_refused : Refused sharedWorld "ns" "a"
    (sampleVolume "r/n1/data/vm-9999-pvc-a" .delete) sharedVolume sampleRequest :=
  ⟨rfl,rfl,⟨by decide +kernel,rfl⟩,by decide +kernel⟩

/-- The pre-flight listing fails and is ignored; the copy onto the disk itself
is refused, and the cleanup deletes the shared disk as a partial target. -/
theorem shared_disk_deleted :
    Refused sharedWorld "ns" "a" (sampleVolume "r/n1/data/vm-9999-pvc-a" .delete) sharedVolume
      sampleRequest ∧
    ∃ d : Config Call Reply (World ℕ) (Except GoError Unit),
      Runs solo ⟨[],sharedWorld,(migrate samplePatience sampleMigrator sampleRequest).run⟩ d ∧
      (∃ e ∈ d.hist, deletes (sharedWorld.key sharedVolume) e) ∧
      d.world.disks.lookup (sharedWorld.key sharedVolume) = none := by
  refine ⟨sharedWorld_refused,_,finish_runs (faulty_lawful [3]) _ _ _,?_,by decide +kernel⟩
  have hany : (finish (faulty [3]) (migrate samplePatience sampleMigrator sampleRequest).run []
      sharedWorld).hist.any (deletes (sharedWorld.key sharedVolume)) := by decide +kernel
  obtain ⟨e,he,hd⟩ := List.any_eq_true.mp hany
  exact ⟨e,he,hd⟩

/-- Two calls whose listings succeed leave the shared disk alone. -/
theorem shared_disk_kept_twice :
    ∃ (w : World ℕ) (es : History Call Reply (World ℕ)),
      Attempts solo (Refused sharedWorld "ns" "a" (sampleVolume "r/n1/data/vm-9999-pvc-a" .delete)
        sharedVolume) sharedWorld w es ∧ es.length = 8 ∧
      (∀ e ∈ es, ¬deletes (sharedWorld.key sharedVolume) e) ∧
      (w.disks.lookup (sharedWorld.key sharedVolume)).isSome := by
  have hs := attempts_finish (attempts_finish (.none sharedWorld) samplePatience sampleMigrator
    sampleRequest sharedWorld_refused []) samplePatience sampleMigrator sampleRequest
    sharedWorld_refused []
  refine ⟨_,_,hs,by decide +kernel,shared_disk_kept sharedWorld_bound hs
    (by decide +kernel)⟩

end ProxmoxCSI.SharedStorage
