import ProxmoxCSI.RequestFootprints
import ProxmoxCSI.SnapshotPasses

/-!
# The disks snapshots delete

Requests and reconciles of snapshots are run one after the other, each of which
may stop anywhere. A snapshot that is deleted takes the disk of its handle with
it. The handle is recorded after a copy, whether or not the copy succeeded, so
the disk is the snapshot's own only when the copy found nothing of anybody else
at its target, and nobody else recorded that target.
-/

set_option autoImplicit false

namespace ProxmoxCSI.SnapshotDisks
open CallProgram CallProgram.Prog CallSafety CallErrors CallTriples CallSessions CallJournal
open CallSchedule TextScan VolumeHandle OperatorRecords RecordWrites DiskOwners VolumeReconciler
open SnapshotReconciler PassRules SnapshotPasses
open VolumeService (A CreateSnapshotRequest CreateSnapshotResponse)
open RequestFootprints
open DirectCalls (RpcError)

inductive Task where
  | create (t : Option TenantCluster) (req : CreateSnapshotRequest)
  | delete (t : Option TenantCluster) (snapshotID : String)
  | reconcile (ns name : String)

abbrev TaskResult : Task → Type
  | .create _ _ => Except RpcError CreateSnapshotResponse
  | .delete _ _ => Except RpcError Unit
  | .reconcile _ _ => Except Failure Result

def program (r : Snapshotter) : (i : Task) → Prog OpCall OpReply (TaskResult i)
  | .create t req => (VolumeService.createSnapshot t req).run
  | .delete t snapshotID => (VolumeService.deleteSnapshot t snapshotID).run
  | .reconcile ns name => (SnapshotReconciler.reconcile r ns name).run

section Statement

def byCopy (ns name : String) (uid : ℕ) (x : Line Task) : Prop :=
  x.task = .reconcile ns name ∧ isCopy x.event.call ∧
    ∃ s, x.event.before.lookupSnapshot ns name = some s ∧ s.uid = uid

def DeletesOwn (x : Line Task) (j : Log Task) : Prop :=
  ∀ region zone storage disk, x.event.call = .deleteDisk region zone storage disk →
    ∃ ns name s, x.task = .reconcile ns name ∧
      x.event.before.lookupSnapshot ns name = some s ∧
      Owned (byCopy ns name s.uid) region zone storage disk j x.event.before

/-- A copy meets no disk of anybody else at its target, and the disk it adds is none
that another snapshot has recorded. -/
def CopiesApart (x : Line Task) (j : Log Task) : Prop :=
  ∀ ns name region zone storage disk dstZone dstStorage dstDisk, x.task = .reconcile ns name →
    x.event.call = .copyDisk region zone storage disk dstZone dstStorage dstDisk →
    '/' ∉ dstZone.toList ∧
    (∀ s, x.event.before.lookupSnapshot ns name = some s → Owned (byCopy ns name s.uid) region
      (Ledger.copyNode zone dstZone) dstStorage dstDisk j x.event.before) ∧
    ∀ ns' name' s v, x.event.before.lookupSnapshot ns' name' = some s →
      (ns',name') ≠ (ns,name) → parseVolumeID s.snapshotID = some v →
      ∀ d, Adds d x → ¬reaches v.region v.zone v.storage v.disk d

def Described (v : ProxmoxVolume) : Prop :=
  v.status.phase = .ready → ∀ h, parseVolumeID v.status.volumeID = some h →
    h.region = v.spec.region ∧ h.storage = v.spec.storage

/-- No snapshot has been taken yet. -/
structure Untaken (w : Ledger) : Prop where
  snapshots : ∀ s ∈ w.snapshots, s.snapshotID = ""
  volumes : ∀ v ∈ w.volumes, Described v

end Statement

section Invariant

def OwnHandle (ns name : String) (uid : ℕ) (handle : String) (j : Log Task) (w : Ledger) : Prop :=
  ∀ v, parseVolumeID handle = some v →
    Owned (byCopy ns name uid) v.region v.zone v.storage v.disk j w

structure Good (j : Log Task) (w : Ledger) : Prop where
  owned : ∀ ns name s, w.lookupSnapshot ns name = some s →
    OwnHandle ns name s.uid s.snapshotID j w
  described : ∀ ns name v, w.lookupVolume ns name = some v → Described v
  justified : Every DeletesOwn j

def OwnRecord (snap : ProxmoxVolumeSnapshot) (j : Log Task) (w : Ledger) : Prop :=
  OwnHandle snap.ns snap.name snap.uid snap.snapshotID j w

variable {i : Task} {j l : Log Task} {w w' : Ledger} {x : Line Task} {c : OpCall} {r : OpReply c}

theorem ownHandle_same {ns name handle : String} {uid : ℕ} (hb : x.event.before = w)
    (ha : x.event.after = w') (hs : w'.disks = w.disks) (h : OwnHandle ns name uid handle j w) :
    OwnHandle ns name uid handle (x::j) w' := fun v hv => owned_same hb ha hs (h v hv)

theorem ownHandle_empty {ns name : String} {uid : ℕ} : OwnHandle ns name uid "" j w := by
  intro v hv
  cases hv

theorem deletesOwn_other (h : part x.event.call ≠ .disks) : DeletesOwn x j := by
  intro region zone storage disk hc
  rw [hc] at h
  exact absurd rfl h

theorem good_records (hg : Good j w) (ho : OpOutcome c w r w') (hd : part c ≠ .disks)
    (hv : part c ≠ .volumes)
    (hs : ∀ ns name s, w'.lookupSnapshot ns name = some s →
      OwnHandle ns name s.uid s.snapshotID j w) : Good (⟨i,⟨c,r,w,w'⟩⟩::j) w' := by
  have hk := outcome_kept ho
  refine ⟨?_,?_,deletesOwn_other hd,hg.justified⟩
  · intro ns name s h
    exact ownHandle_same rfl rfl (hk.disks hd) (hs ns name s h)
  · intro ns name v h
    rw [Ledger.lookupVolume, hk.volumes hv] at h
    exact hg.described ns name v h

theorem good_read (hg : Good j w) (hc : part c = .nothing) (ho : OpOutcome c w r w') :
    Good (⟨i,⟨c,r,w,w'⟩⟩::j) w' := by
  have hw := (outcome_reads hc ho).1
  refine good_records hg ho (by simp [hc]) (by simp [hc]) ?_
  rw [hw]
  exact hg.owned

variable {snap : ProxmoxVolumeSnapshot}

theorem good_written (hg : Good j w) (hp : part c = .snapshots) (ho : OpOutcome c w r w')
    (hs : ∀ ns name s, (answer w c).2.lookupSnapshot ns name = some s →
      w.lookupSnapshot ns name = some s ∨ OwnHandle ns name s.uid s.snapshotID j w) :
    Good (⟨i,⟨c,r,w,w'⟩⟩::j) w' := by
  refine good_records hg ho (by simp [hp]) (by simp [hp]) ?_
  intro ns name s hl
  rcases outcome_record (by simp [hp]) ho with ⟨rfl,_⟩ | ⟨rfl,_⟩
  · exact hg.owned ns name s hl
  · exact (hs ns name s hl).elim (hg.owned ns name s) id

theorem good_create {r : OpReply (.createSnapshot snap)} (hg : Good j w)
    (ho : OpOutcome (.createSnapshot snap) w r w') : Good (⟨i,⟨_,r,w,w'⟩⟩::j) w' := by
  refine good_written hg rfl ho (fun ns name s hs => (createSnapshot_lookup hs).imp_right ?_)
  intro h
  rw [h]
  exact ownHandle_empty

theorem good_delete {m n : String} {r : OpReply (.deleteSnapshot m n)} (hg : Good j w)
    (ho : OpOutcome (.deleteSnapshot m n) w r w') : Good (⟨i,⟨_,r,w,w'⟩⟩::j) w' := by
  refine good_written hg rfl ho (fun ns name s hs => (deleteSnapshot_lookup hs).imp_right ?_)
  rintro ⟨s₀,h,rfl⟩
  exact hg.owned ns name s₀ h

theorem good_update {r : OpReply (.updateSnapshot snap)} (hg : Good j w)
    (ho : OpOutcome (.updateSnapshot snap) w r w') : Good (⟨i,⟨_,r,w,w'⟩⟩::j) w' := by
  refine good_written hg rfl ho (fun ns name s hs => (updateSnapshot_lookup hs).imp_right ?_)
  rintro ⟨s₀,h,hu,hi⟩
  rw [hu, hi]
  exact hg.owned ns name s₀ h

theorem good_status {r : OpReply (.updateSnapshotStatus snap)} (hg : Good j w)
    (hs : OwnRecord snap j w) (ho : OpOutcome (.updateSnapshotStatus snap) w r w') :
    Good (⟨i,⟨_,r,w,w'⟩⟩::j) w' := by
  refine good_written hg rfl ho (fun ns name s hl => (updateSnapshotStatus_lookup hl).imp_right ?_)
  rintro ⟨rfl,rfl,hu,hi⟩
  rw [hu, hi]
  exact hs

theorem good_copy {ns name region zone storage disk dstZone dstStorage dstDisk : String}
    {r : OpReply (.copyDisk region zone storage disk dstZone dstStorage dstDisk)} (hg : Good j w)
    (hi : i = .reconcile ns name) (ho : OpOutcome _ w r w')
    (hc : CopiesApart ⟨i,⟨_,r,w,w'⟩⟩ j) : Good (⟨i,⟨_,r,w,w'⟩⟩::j) w' := by
  have hk := outcome_kept ho
  obtain ⟨_,_,hother⟩ := hc ns name region zone storage disk dstZone dstStorage dstDisk hi rfl
  refine ⟨?_,?_,?_,hg.justified⟩
  · intro ns' name' s hs v hv
    rw [Ledger.lookupSnapshot, hk.snapshots (by simp [part])] at hs
    refine owned_step rfl rfl ?_ (hg.owned ns' name' s hs v hv)
    by_cases hne : (ns',name') = (ns,name)
    · cases hne
      exact .inl ⟨hi,rfl,s,hs,rfl⟩
    · exact .inr (hother ns' name' s v hs hne hv)
  · intro ns' name' v h
    rw [Ledger.lookupVolume, hk.volumes (by simp [part])] at h
    exact hg.described ns' name' v h
  · intro region zone storage disk h
    cases h

theorem copy_owned {region zone storage disk dstZone dstStorage dstDisk : String}
    {r : OpReply (.copyDisk region zone storage disk dstZone dstStorage dstDisk)}
    (hi : i = .reconcile snap.ns snap.name) (hl : Live snap w) (hc : CopiesApart ⟨i,⟨_,r,w,w'⟩⟩ j) :
    Owned (byCopy snap.ns snap.name snap.uid) region (Ledger.copyNode zone dstZone) dstStorage
      dstDisk (⟨i,⟨_,r,w,w'⟩⟩::j) w' := by
  obtain ⟨_,hown,_⟩ := hc snap.ns snap.name region zone storage disk dstZone dstStorage dstDisk
    hi rfl
  exact owned_step rfl rfl (.inl ⟨hi,rfl,snap,hl,rfl⟩) (hown snap hl)

theorem good_destroy {v : Volume} {r : OpReply (.deleteDisk v.region v.zone v.storage v.disk)}
    (hg : Good j w) (hi : i = .reconcile snap.ns snap.name) (hl : Live snap w)
    (hv : parseVolumeID snap.snapshotID = some v) (ho : OpOutcome _ w r w') :
    Good (⟨i,⟨_,r,w,w'⟩⟩::j) w' := by
  have hk := outcome_kept ho
  refine ⟨?_,?_,?_,hg.justified⟩
  · intro ns name s hs v hv
    rw [Ledger.lookupSnapshot, hk.snapshots (by simp [part])] at hs
    exact owned_shrink rfl rfl (delete_outcome ho) (hg.owned ns name s hs v hv)
  · intro ns name v h
    rw [Ledger.lookupVolume, hk.volumes (by simp [part])] at h
    exact hg.described ns name v h
  · intro region zone storage disk h
    cases h
    exact ⟨snap.ns,snap.name,snap,hi,hl,hg.owned snap.ns snap.name snap hl v hv⟩

end Invariant

section Requests

variable {i : Task} {l : Log Task}

theorem good_request {j : Log Task} {w w' : Ledger} {c : OpCall} {r : OpReply c}
    (hc : snapshotRequests c)
    (ho : OpOutcome c w r w') (hg : Good j w) : Good (⟨i,⟨c,r,w,w'⟩⟩::j) w' := by
  by_cases hp : part c = .nothing
  · exact good_read hg hp ho
  · cases c with
    | createSnapshot snap => exact good_create hg ho
    | deleteSnapshot ns name => exact good_delete hg ho
    | _ => exact absurd hc.1 hp

theorem request_keeps {α : Type} {x : A α} (hu : x.run.Uses snapshotRequests) :
    Triple cluster (Given CopiesApart Good i l) (Given CopiesApart Good i l) x
      (fun _ => Given CopiesApart Good i l) :=
  triple_given_uses cluster_calm (fun _ _ h => h)
    (fun _ _ _ _ _ hc ho hg _ => good_request hc ho hg) hu

end Requests

/-- A copy apart from all others leaves its record with a handle of its own. -/
theorem copy_recorded {i : Task} {j : Log Task} {w w' : Ledger} {snap : ProxmoxVolumeSnapshot}
    {t : TenantCluster} {vol : ProxmoxVolume} {src : Volume}
    {r : OpReply (copyCall vol src (snapshotDisk t snap src))} (hg : Good j w)
    (hi : i = .reconcile snap.ns snap.name) (hl : Live snap w) (hs : Source snap t vol src w)
    (ho : OpOutcome _ w r w') (hc : CopiesApart ⟨i,⟨_,r,w,w'⟩⟩ j) :
    Good (⟨i,⟨_,r,w,w'⟩⟩::j) w' ∧
      OwnRecord (recorded snap (snapshotDisk t snap src)) (⟨i,⟨_,r,w,w'⟩⟩::j) w' := by
  refine ⟨good_copy hg hi ho hc,?_⟩
  have hown := copy_owned hi hl hc
  have hz := (hc _ _ _ _ _ _ _ _ _ hi rfl).1
  obtain ⟨hv,hr,hst,hnode⟩ := target_handle t snap hs.handle hz
  obtain ⟨hdr,hds⟩ := hg.described _ _ vol hs.volume hs.ready src hs.handle
  intro v hv'
  cases hv.symm.trans hv'
  rw [hr, hst, hdr, hds]
  rwa [hnode] at hown

def discipline : Discipline Task where
  cond := CopiesApart
  Good := Good
  Ok := OwnRecord
  Free _ _ _ := True
  owner i ns name := i = .reconcile ns name
  good_read hc ho _ hg := good_read hg (reads_part hc) ho
  ok_live hg hl _ := hg.owned _ _ _ hl
  ok_same hs h := by
    rw [OwnRecord, ← hs.ns, ← hs.name, ← hs.uid, ← hs.snapshotID]
    exact h
  free_unnamed _ _ _ _ := trivial
  good_hold _ _ _ ho _ hg := good_update hg ho
  good_status hok _ ho _ hg := good_status hg hok ho
  good_copy hi hl _ hs ho hx hg := copy_recorded hg hi hl hs ho hx
  good_destroy hi hl _ _ hv ho _ hg := by
    have hg' := good_destroy hg hi hl hv ho
    refine ⟨hg',?_,fun _ => trivial⟩
    intro v' hv'
    exact owned_shrink rfl rfl (delete_outcome ho) (hg.owned _ _ _ hl v' hv')
  good_release _ _ _ ho _ hg := good_update hg ho

theorem task_keeps (r : Snapshotter) (i : Task) (l : Log Task) (w : Ledger)
    (hw : Every CopiesApart l → Good l w) :
    Safe cluster (Given CopiesApart Good i l) (fun _ _ _ => True) (program r i) [] w := by
  cases i with
  | create t req => exact triple_task (request_keeps (createSnapshot_uses t req)) hw
  | delete t snapshotID => exact triple_task (request_keeps (deleteSnapshot_uses t snapshotID)) hw
  | reconcile ns name =>
    have hk : Keeps discipline.toFrame (.reconcile ns name) l Good
      (SnapshotReconciler.reconcile r ns name) :=
      reconcile_keeps r rfl
    exact triple_task hk hw

theorem untaken_good {w : Ledger} (h : Untaken w) : Good [] w := by
  refine ⟨?_,?_,trivial⟩
  · intro ns name s hs
    rw [h.snapshots s (ObjectStore.find_some hs).1]
    exact ownHandle_empty
  · intro ns name v hv
    exact h.volumes v (ObjectStore.find_some hv).1

/-- As long as every copy is made apart, a snapshot deletes only disks that one of
its own copies has put there. -/
theorem snapshot_deletes_own_copies (r : Snapshotter) {w₀ : Ledger}
    {b : Stand Task OpCall OpReply Ledger} (h₀ : Untaken w₀)
    (hw : Work cluster (program r) ⟨[],w₀⟩ b) (hc : Every CopiesApart b.journal) :
    Every DeletesOwn b.journal :=
  (work_given (task_keeps r) hw (untaken_good h₀) hc).justified

section Sample

def sampleLedger : Ledger := blueLedger blueTenant [provisionedVolume [volumeFinalizer]]
    [blueDisk "pvc-a"]

theorem sample_untaken : Untaken sampleLedger := by
  refine ⟨?_,?_⟩
  · intro s hs
    cases hs
  · intro v hv _ h hh
    rw [sampleLedger, blueLedger, List.mem_singleton] at hv
    subst hv
    have hp : parseVolumeID (provisionedVolume [volumeFinalizer]).status.volumeID =
        some ⟨"r1","n1","n1","local","vm-9999-pvc-a"⟩ := by decide +kernel
    cases hp.symm.trans hh
    exact ⟨rfl,rfl⟩

def takeSnapshot (name : String) : Task :=
  .create (some blueTenant) ⟨name,"pvc-a",""⟩

def namesake : Stand Task OpCall OpReply Ledger :=
  turns prompt (program ⟨0⟩) ⟨[],sampleLedger⟩ [takeSnapshot "pvc-a",.reconcile "blue-ns" "pvc-a",
    takeSnapshot "pvc-a",.reconcile "blue-ns" "pvc-a"]

/-- A snapshot named like the volume deletes the disk of the volume. -/
theorem namesake_snapshot_destroys_volume : Untaken sampleLedger ∧
    sampleLedger.disks = [blueDisk "pvc-a"] ∧
    Work cluster (program ⟨0⟩) ⟨[],sampleLedger⟩ namesake ∧ namesake.world.disks = [] ∧
    ¬Every DeletesOwn namesake.journal := by
  obtain ⟨hgone,hlen,htarget,hthere,hp⟩ : namesake.world.disks = [] ∧ ∃ hlen :
    1 < namesake.journal.length,
      deletionTarget (namesake.journal.get ⟨1,hlen⟩).event.call =
        some ("r1","n1","local","vm-9999-pvc-a") ∧
      blueDisk "pvc-a" ∈ (namesake.journal.get ⟨1,hlen⟩).event.before.disks ∧
      (namesake.journal.drop 2).all (fun x => blueDisk "pvc-a" ∈ x.event.before.disks) = true := by
    decide +kernel
  refine ⟨sample_untaken,rfl,turns_work prompt_cluster _ _ _,hgone,?_⟩
  intro h
  have hx := every_get h ⟨1,hlen⟩
  have hc := deletionTarget_some htarget
  obtain ⟨ns,name,s,_,_,hown⟩ := hx _ _ _ _ hc
  have hm := hown (blueDisk "pvc-a") hthere (by decide +kernel)
  exact present_unmade (fun x hx => of_decide_eq_true (List.all_eq_true.mp hp x hx)) hm

def copiesFresh (x : Line Task) : Bool :=
  match x.event.call with
  | .copyDisk region zone _ _ dstZone dstStorage dstDisk => '/' ∉ dstZone.toList ∧
      x.event.before.lookupDisk region (Ledger.copyNode zone dstZone) dstStorage dstDisk = none ∧
      ∀ s ∈ x.event.before.snapshots, s.snapshotID = ""
  | _ => true

theorem copiesFresh_apart {x : Line Task} {j : Log Task} (h : copiesFresh x) : CopiesApart x j := by
  intro ns name region zone storage disk dstZone dstStorage dstDisk _ hc
  rw [copiesFresh, hc] at h
  obtain ⟨hz,hn,hs⟩ := of_decide_eq_true h
  refine ⟨hz,fun _ _ => owned_none hn,?_⟩
  intro ns' name' s v hl _ hv
  rw [hs s (ObjectStore.find_some hl).1] at hv
  cases hv

def namedApart : Stand Task OpCall OpReply Ledger :=
  turns prompt (program ⟨0⟩) ⟨[],sampleLedger⟩ [takeSnapshot "snap-1",.reconcile "blue-ns" "snap-1",
    .delete (some blueTenant) "r1/n1/local/vm-9999-snap-1",.reconcile "blue-ns" "snap-1"]

theorem snapshot_deletes_its_copy : namedApart.world.disks = [blueDisk "pvc-a"] ∧
    namedApart.world.snapshots.length = 0 ∧ Every DeletesOwn namedApart.journal := by
  obtain ⟨hdisks,hsnaps,hf⟩ : namedApart.world.disks = [blueDisk "pvc-a"] ∧
      namedApart.world.snapshots.length = 0 ∧ namedApart.journal.all copiesFresh = true := by
    decide +kernel
  refine ⟨hdisks,hsnaps,?_⟩
  apply snapshot_deletes_own_copies ⟨0⟩ sample_untaken (turns_work prompt_cluster _ _ _)
  exact every_of_forall (fun x hx _ => copiesFresh_apart (List.all_eq_true.mp hf x hx))

end Sample

end ProxmoxCSI.SnapshotDisks
