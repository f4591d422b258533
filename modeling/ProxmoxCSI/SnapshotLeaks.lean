import ProxmoxCSI.ReleasedDisks
import ProxmoxCSI.SnapshotDisks

/-!
# The disks snapshots leave behind

Reconciles of snapshots are run one after the other, each of which may stop
anywhere. A record is released once the disk of its handle is deleted, or
reported as missing. The handle is recorded after the copy, so a disk is left
behind when that write is lost, when a later copy records another place, and
when a deletion is reported as done, or needless, and was not.
-/

set_option autoImplicit false

namespace ProxmoxCSI.SnapshotLeaks
open CallProgram CallProgram.Prog CallSafety CallErrors CallTriples CallSessions CallJournal
open CallSchedule VolumeHandle OperatorRecords RecordWrites DiskOwners VolumeReconciler
open SnapshotReconciler PassRules ReleasedDisks SnapshotPasses
open SnapshotDisks (Described)

def program (r : Snapshotter) : Task → Prog OpCall OpReply (Except Failure Result)
  | .reconcile ns name => (SnapshotReconciler.reconcile r ns name).run
  | .remove ns name => (removal (.deleteSnapshot ns name)).run

section Statement

def kind : Kind where
  makes := isCopy
  names _ _ c := ∃ snap, c = .updateSnapshotStatus snap
  releases ns name x := ∃ snap, x.event.call = .updateSnapshot snap ∧ snap.ns = ns ∧
    snap.name = name ∧ snapshotFinalizer ∉ snap.finalizers
  gone r := ∀ e, r = .error e → isNotFound e

def SameTarget (x : Line Task) (j : Log Task) : Prop :=
  ∀ ns name region zone storage disk dstZone dstStorage dstDisk, x.task = .reconcile ns name →
    x.event.call = .copyDisk region zone storage disk dstZone dstStorage dstDisk →
    '/' ∉ dstZone.toList ∧
      Left kind (fun d => reaches region (Ledger.copyNode zone dstZone) dstStorage dstDisk d) ns name j
        x.event.before

def Careful (x : Line Task) (j : Log Task) : Prop :=
  NamesNext kind x j ∧ SameTarget x j ∧ TellsTruth kind x

end Statement

section Invariant

def Covered (ns name handle : String) : Log Task → Ledger → Prop :=
  Left kind (fun d => ∃ v, parseVolumeID handle = some v ∧
    reaches v.region v.zone v.storage v.disk d) ns name

structure Good (j : Log Task) (w : Ledger) : Prop where
  covered : ∀ ns name s, w.lookupSnapshot ns name = some s →
    Covered ns name s.snapshotID j w ∨ JustMade kind ns name j
  described : ∀ ns name v, w.lookupVolume ns name = some v → Described v
  justified : Every (LeavesNothing kind) j

def Writable (snap : ProxmoxVolumeSnapshot) (j : Log Task) (w : Ledger) : Prop :=
  Covered snap.ns snap.name snap.snapshotID j w ∧
    ∃ s, w.lookupSnapshot snap.ns snap.name = some s ∧ s.uid = snap.uid

def Free (snap : ProxmoxVolumeSnapshot) : Log Task → Ledger → Prop := Bare kind snap.ns snap.name

variable {i : Task} {j : Log Task} {w w' : Ledger} {x : Line Task} {c : OpCall} {r : OpReply c}
  {ns name handle : String} {snap s : ProxmoxVolumeSnapshot}

theorem not_justMade_quiet (h : Quiet j) : ¬JustMade kind ns name j := by
  rintro ⟨y,hy,hc,_⟩
  exact not_madeFor (h y hy) hc

theorem leaves_aside {e : Event OpCall OpReply Ledger} (hc : ∀ snap, e.call ≠ .updateSnapshot snap) :
    LeavesNothing kind ⟨i,e⟩ j := by
  refine leavesNothing_other ?_
  rintro ns name ⟨snap,he,_⟩
  exact hc snap he

theorem good_records (hg : Good j w) (ho : OpOutcome c w r w') (hx : NamesNext kind ⟨i,⟨c,r,w,w'⟩⟩ j)
    (hc : isCopy c = false) (hv : part c ≠ .volumes) (hs : ∀ snap, c ≠ .updateSnapshotStatus snap)
    (hl : LeavesNothing kind ⟨i,⟨c,r,w,w'⟩⟩ j)
    (hh : ∀ ns name s', w'.lookupSnapshot ns name = some s' → ∃ s, w.lookupSnapshot ns name = some s ∧
      s'.snapshotID = s.snapshotID) : Good (⟨i,⟨c,r,w,w'⟩⟩::j) w' := by
  refine ⟨?_,?_,hl,hg.justified⟩
  · intro ns name s' hs'
    obtain ⟨s,hls,hid⟩ := hh ns name s' hs'
    rw [hid]
    refine .inl (left_aside hc ((hg.covered ns name s hls).resolve_right (not_justMade hx ?_)))
    rintro _ _ ⟨snap,he⟩
    exact hs snap he
  · intro ns name v h
    rw [Ledger.lookupVolume, (outcome_kept ho).volumes hv] at h
    exact hg.described ns name v h

theorem good_aside (hg : Good j w) (ho : OpOutcome c w r w') (hx : NamesNext kind ⟨i,⟨c,r,w,w'⟩⟩ j)
    (hc : isCopy c = false) (hv : part c ≠ .volumes) (hp : part c ≠ .snapshots) :
    Good (⟨i,⟨c,r,w,w'⟩⟩::j) w' := by
  refine good_records hg ho hx hc hv ?_ (leaves_aside ?_) ?_
  · rintro snap rfl
    exact hp rfl
  · rintro snap rfl
    exact hp rfl
  · intro ns name s' hs'
    rw [Ledger.lookupSnapshot, (outcome_kept ho).snapshots hp] at hs'
    exact ⟨s',hs',rfl⟩

theorem good_update {r : OpReply (.updateSnapshot snap)} (hg : Good j w)
    (ho : OpOutcome (.updateSnapshot snap) w r w') (hx : NamesNext kind ⟨i,⟨_,r,w,w'⟩⟩ j)
    (hl : LeavesNothing kind ⟨i,⟨_,r,w,w'⟩⟩ j) : Good (⟨i,⟨_,r,w,w'⟩⟩::j) w' := by
  refine good_records hg ho hx rfl (by simp [part]) (by rintro snap ⟨⟩) hl ?_
  intro ns name s' hs'
  rcases outcome_record (by simp [part]) ho with ⟨rfl,_⟩ | ⟨rfl,_⟩
  · exact ⟨s',hs',rfl⟩
  · rcases updateSnapshot_lookup hs' with h | ⟨s,h,_,hid⟩
    · exact ⟨s',h,rfl⟩
    · exact ⟨s,h,hid⟩

theorem good_remove {m n : String} {r : OpReply (.deleteSnapshot m n)} (hg : Good j w)
    (ho : OpOutcome (.deleteSnapshot m n) w r w') (hx : NamesNext kind ⟨i,⟨_,r,w,w'⟩⟩ j) :
    Good (⟨i,⟨_,r,w,w'⟩⟩::j) w' := by
  refine good_records hg ho hx rfl (by simp [part]) (by rintro snap ⟨⟩)
    (leaves_aside (by rintro snap ⟨⟩)) ?_
  intro ns name s' hs'
  rcases outcome_record (by simp [part]) ho with ⟨rfl,_⟩ | ⟨rfl,_⟩
  · exact ⟨s',hs',rfl⟩
  · rcases deleteSnapshot_lookup hs' with h | ⟨s,h,rfl⟩
    · exact ⟨s',h,rfl⟩
    · exact ⟨s,h,rfl⟩

theorem good_status {r : OpReply (.updateSnapshotStatus snap)} (hg : Good j w)
    (hw : Writable snap j w) (hi : i = .reconcile snap.ns snap.name)
    (ho : OpOutcome (.updateSnapshotStatus snap) w r w') (hx : NamesNext kind ⟨i,⟨_,r,w,w'⟩⟩ j) :
    Good (⟨i,⟨_,r,w,w'⟩⟩::j) w' := by
  have hk : ∀ s, snapshotKey s = snapshotKey snap →
      snapshotKey (reportedSnapshot snap s) = snapshotKey snap := fun _ hs => hs
  refine ⟨?_,?_,leaves_aside (by rintro s ⟨⟩),hg.justified⟩
  · intro ns name s' hs'
    refine .inl (left_aside rfl ?_)
    by_cases hj : JustMade kind ns name j
    · obtain ⟨hi',_,ha⟩ := hx ns name hj
      cases hi.symm.trans hi'
      obtain ⟨hcov,s,hs,hu⟩ := hw
      have ha' : w' = (answer w (.updateSnapshotStatus snap)).2 := ha
      rw [ha'] at hs'
      rw [putSnapshot_stored hk hs hu hs']
      exact hcov
    · rcases outcome_record (by simp [part]) ho with ⟨rfl,_⟩ | ⟨rfl,_⟩
      · exact (hg.covered ns name s' hs').resolve_right hj
      · rcases updateSnapshotStatus_lookup hs' with h | ⟨rfl,rfl,_,hid⟩
        · exact (hg.covered ns name s' h).resolve_right hj
        · rw [hid]
          exact hw.1
  · intro ns name v h
    rw [Ledger.lookupVolume, (outcome_kept ho).volumes (by simp [part])] at h
    exact hg.described ns name v h

theorem good_copy {t : TenantCluster} {vol : ProxmoxVolume} {src : Volume}
    {r : OpReply (copyCall vol src (snapshotDisk t snap src))} (hg : Good j w)
    (hi : i = .reconcile snap.ns snap.name) (hl : Live snap w) (hs : Source snap t vol src w)
    (ho : OpOutcome _ w r w') (hx : Careful ⟨i,⟨_,r,w,w'⟩⟩ j) :
    Good (⟨i,⟨_,r,w,w'⟩⟩::j) w' ∧
      Writable (recorded snap (snapshotDisk t snap src)) (⟨i,⟨_,r,w,w'⟩⟩::j) w' := by
  have hk := outcome_kept ho
  have hjm : ∀ ns name, ¬JustMade kind ns name j :=
    fun ns name => not_justMade hx.1 (by rintro _ _ ⟨_,⟨⟩⟩)
  obtain ⟨hz,hsame⟩ := hx.2.1 _ _ _ _ _ _ _ _ _ hi rfl
  obtain ⟨hv,hr,hst,hnode⟩ := target_handle t snap hs.handle hz
  obtain ⟨hdr,hds⟩ := hg.described _ _ vol hs.volume hs.ready src hs.handle
  refine ⟨⟨?_,?_,leaves_aside (by rintro s ⟨⟩),hg.justified⟩,?_,snap,?_,rfl⟩
  · intro ns name s h
    rw [Ledger.lookupSnapshot, hk.snapshots (by simp [part])] at h
    have hcov := (hg.covered ns name s h).resolve_right (hjm ns name)
    by_cases hown : JustMade kind ns name ((⟨i,⟨_,r,w,w'⟩⟩ : Line Task)::j)
    · exact .inr hown
    · exact .inl (left_step rfl rfl (fun d hd hm => absurd ⟨_,rfl,hm,d,hd⟩ hown) hcov)
  · intro ns name v h
    rw [Ledger.lookupVolume, hk.volumes (by simp [part])] at h
    exact hg.described ns name v h
  · intro d hd hm
    refine ⟨snapshotDisk t snap src,hv,?_⟩
    rw [hr, hst, hdr, hds]
    rw [hnode] at hsame
    have hmade := outcome_makes (c := copyCall vol src (snapshotDisk t snap src)) rfl ho hd
    rw [hnode] at hmade
    rcases made_before rfl rfl hd hm with hm | ⟨hd,hm⟩
    · exact hmade.resolve_left hm.1.1
    · exact hsame d hd hm
  · rw [Ledger.lookupSnapshot, hk.snapshots (by simp [part])]
    exact hl

theorem covered_live (hg : Good j w) (hl : Live snap w) (hq : Quiet j) :
    Covered snap.ns snap.name snap.snapshotID j w :=
  (hg.covered _ _ snap hl).resolve_right (not_justMade_quiet hq)

theorem free_destroyed {v : Volume} {r : OpReply (.deleteDisk v.region v.zone v.storage v.disk)}
    (hv : parseVolumeID snap.snapshotID = some v)
    (hc : Covered snap.ns snap.name snap.snapshotID j w) (hx : TellsTruth kind ⟨i,⟨_,r,w,w'⟩⟩)
    (hr : ∀ e, r = .error e → isNotFound e) : Free snap (⟨i,⟨_,r,w,w'⟩⟩::j) w' := by
  refine bare_destroyed (left_imp hc ?_) rfl hx hr
  rintro d ⟨v',hv',hreach⟩
  cases hv.symm.trans hv'
  exact hreach

theorem free_unnamed (hc : Covered snap.ns snap.name snap.snapshotID j w)
    (hn : parseVolumeID snap.snapshotID = none) : Free snap j w := by
  refine left_imp hc ?_
  rintro d ⟨v,hv,_⟩
  cases hn.symm.trans hv

theorem leavesNothing_held {t : TenantCluster} {r : OpReply (.updateSnapshot (heldSnapshot snap t))} :
    LeavesNothing kind ⟨i,⟨_,r,w,w'⟩⟩ j := by
  rintro ns name ⟨s,hc,_,_,hf⟩
  cases hc
  refine absurd ?_ hf
  simp only [heldSnapshot, withFinalizer]
  split
  · assumption
  · simp

theorem leavesNothing_free {r : OpReply (.updateSnapshot (releasedSnapshot snap))}
    (hf : Free snap j w) : LeavesNothing kind ⟨i,⟨_,r,w,w'⟩⟩ j := by
  rintro ns name ⟨s,hc,rfl,rfl,_⟩
  cases hc
  exact hf

end Invariant

def discipline : Discipline Task where
  cond := Careful
  Good := Good
  Ok := Writable
  Free := Free
  owner i ns name := i = .reconcile ns name
  good_read hc ho hx hg := by
    have hp := reads_part hc
    refine good_aside hg ho hx.1 ?_ (by simp [hp]) (by simp [hp])
    rename_i c _ _ _
    cases c <;> first | rfl | cases hp
  ok_live hg hl hq := ⟨covered_live hg hl hq,_,hl,rfl⟩
  ok_same hs h := by
    rw [Writable, ← hs.ns, ← hs.name, ← hs.uid, ← hs.snapshotID]
    exact h
  free_unnamed hg hl hq hn := free_unnamed (covered_live hg hl hq) hn
  good_hold _ _ _ ho hx hg := good_update hg ho hx.1 leavesNothing_held
  good_status hok hi ho hx hg := good_status hg hok hi ho hx.1
  good_copy hi hl _ hs ho hx hg := good_copy hg hi hl hs ho hx
  good_destroy _ hl hq _ hv ho hx hg := by
    have hcov := covered_live hg hl hq
    refine ⟨good_aside hg ho hx.1 rfl (by simp [part]) (by simp [part]),⟨?_,_,?_,rfl⟩,
      free_destroyed hv hcov hx.2.2⟩
    · exact left_aside rfl hcov
    · rw [Ledger.lookupSnapshot, (outcome_kept ho).snapshots (by simp [part])]
      exact hl
  good_release _ _ hf ho hx hg := good_update hg ho hx.1 (leavesNothing_free hf)

section Work

theorem task_keeps (r : Snapshotter) (i : Task) (l : Log Task) (w : Ledger)
    (hw : Every Careful l → Good l w) :
    Safe cluster (Given Careful Good i l) (fun _ _ _ => True) (program r i) [] w := by
  cases i with
  | reconcile ns name =>
    have hk : Keeps discipline.toFrame (.reconcile ns name) l Good
      (SnapshotReconciler.reconcile r ns name) :=
      reconcile_keeps r rfl
    exact triple_task hk hw
  | remove ns name =>
    have hk : Keeps discipline.toFrame (.remove ns name) l Good (removal (.deleteSnapshot ns name)) :=
      removal_keeps (fun hg ho hx => good_remove hg ho hx.1)
    exact triple_task hk hw

theorem described_good {w : Ledger} (h : ∀ v ∈ w.volumes, Described v) : Good [] w := by
  refine ⟨?_,?_,trivial⟩
  · intro ns name s _
    exact .inl (left_start w)
  · intro ns name v hv
    exact h v (ObjectStore.find_some hv).1

/-- As long as every copy is recorded, goes to one place and is deleted when that is said,
a finalizer is given up only when no disk is left. -/
theorem released_snapshots_leave_nothing (r : Snapshotter) {w₀ : Ledger}
    {b : Stand Task OpCall OpReply Ledger} (h₀ : ∀ v ∈ w₀.volumes, Described v)
    (hw : Work cluster (program r) ⟨[],w₀⟩ b) (hc : Every Careful b.journal) :
    Every (LeavesNothing kind) b.journal :=
  (work_given (task_keeps r) hw (described_good h₀) hc).justified

end Work

section Sample

open SnapshotDisks (sample_untaken)

def sampleSnapshot : ProxmoxVolumeSnapshot :=
  ⟨"blue-ns","snap-1",2,1,∅,[],false,"pvc-a","local","","",false,0,0,[]⟩

def sampleLedger : Ledger := { SnapshotDisks.sampleLedger with snapshots := [sampleSnapshot] }

def sampleTasks : List Task :=
  [.reconcile "blue-ns" "snap-1",.remove "blue-ns" "snap-1",.reconcile "blue-ns" "snap-1"]

def muteAnswer (l : Ledger) : (c : OpCall) → OpReply c × Ledger
  | .updateSnapshotStatus _ => (.error ⟨.other,"connection refused"⟩,l)
  | c => answer l c

def mute : Schedule OpCall OpReply Ledger := ⟨fun _ l => l,fun _ c l => muteAnswer l c⟩

theorem mute_lawful : Lawful cluster mute := by
  refine ⟨fun _ _ => .refl,?_⟩
  intro _ c l
  cases c with
  | updateSnapshotStatus snap => exact .refused _ l _ rfl
  | _ => exact .served _ l

def unrecorded : Stand Task OpCall OpReply Ledger :=
  turns mute (program ⟨0⟩) ⟨[],sampleLedger⟩ sampleTasks

def releasing (ns name : String) (c : OpCall) : Bool :=
  match c with
  | .updateSnapshot snap => snap.ns = ns ∧ snap.name = name ∧ snapshotFinalizer ∉ snap.finalizers
  | _ => false

theorem releasing_releases {ns name : String} {x : Line Task} (h : releasing ns name x.event.call) :
    kind.releases ns name x := by
  unfold releasing at h
  split at h
  · rename_i snap hc
    exact ⟨snap,hc,of_decide_eq_true h⟩
  · cases h

/-- The handle of the copy is not recorded, and the record goes without the disk. -/
theorem unrecorded_copy_left_behind : (∀ v ∈ sampleLedger.volumes, Described v) ∧
    Work cluster (program ⟨0⟩) ⟨[],sampleLedger⟩ unrecorded ∧
    unrecorded.world.snapshots.length = 0 ∧ blueDisk "snap-1" ∈ unrecorded.world.disks ∧
    ¬Every (LeavesNothing kind) unrecorded.journal := by
  obtain ⟨hnone,hleft,hlen,hlast,hbefore,hm⟩ : unrecorded.world.snapshots.length = 0 ∧
      blueDisk "snap-1" ∈ unrecorded.world.disks ∧ ∃ hlen : 0 < unrecorded.journal.length,
      releasing "blue-ns" "snap-1" (unrecorded.journal.get ⟨0,hlen⟩).event.call ∧
      blueDisk "snap-1" ∈ (unrecorded.journal.get ⟨0,hlen⟩).event.before.disks ∧
      madeTest (madeFor kind "blue-ns" "snap-1") (blueDisk "snap-1")
        (unrecorded.journal.drop 1) = true := by
    decide +kernel
  exact ⟨sample_untaken.volumes,turns_work mute_lawful _ _ _,hnone,hleft,
    left_behind hlen (releasing_releases hlast) hbefore hm⟩

def recorded : Stand Task OpCall OpReply Ledger :=
  turns prompt (program ⟨0⟩) ⟨[],sampleLedger⟩ sampleTasks

def isStatusWrite : OpCall → Bool
  | .updateSnapshotStatus _ => true
  | _ => false

def carefully (x : Line Task) (j : Log Task) : Bool :=
  namedNext kind (fun x => isStatusWrite x.event.call) x j &&
  match x.event.call with
  | .copyDisk _ _ _ _ dstZone _ _ => '/' ∉ dstZone.toList ∧ j.all (fun y => !isCopy y.event.call)
  | .deleteDisk region zone storage disk => x.event.after.lookupDisk region zone storage disk = none
  | _ => true

theorem carefully_careful {x : Line Task} {j : Log Task} (he : TookEffect x.event)
    (h : carefully x j) : Careful x j := by
  obtain ⟨i,c,r,w,w'⟩ := x
  obtain ⟨hnext,hcall⟩ := Bool.and_eq_true_iff.mp h
  refine ⟨?_,?_,?_⟩
  · refine namedNext_namesNext he ?_ hnext
    intro ns name _ ht
    cases c with
    | updateSnapshotStatus snap => exact ⟨snap,rfl⟩
    | _ => cases ht
  · rintro ns name region zone storage disk dstZone dstStorage dstDisk _ ⟨⟩
    obtain ⟨hz,hj⟩ := of_decide_eq_true hcall
    refine ⟨hz,?_⟩
    intro d _ hm
    obtain ⟨y,hy,_,hown⟩ := latest_exists hm
    have hn : isCopy y.event.call = false := by simpa using List.all_eq_true.mp hj y hy
    exact absurd hown (not_madeFor hn)
  · rintro region zone storage disk r w w' ⟨⟩ _
    exact of_decide_eq_true hcall

/-- The copy is recorded, and deleted with its record. -/
theorem recorded_copy_deleted : recorded.world.snapshots.length = 0 ∧
    recorded.world.disks = [blueDisk "pvc-a"] ∧ Every (LeavesNothing kind) recorded.journal := by
  obtain ⟨hnone,hdisks,hc⟩ : recorded.world.snapshots.length = 0 ∧
      recorded.world.disks = [blueDisk "pvc-a"] ∧ tested carefully recorded.journal = true := by
    decide +kernel
  have he : ∀ x ∈ recorded.journal, TookEffect x.event :=
    turns_events (fun _ _ _ => rfl) _ _ (by simp)
  have hv : ∀ v ∈ sampleLedger.volumes, Described v := sample_untaken.volumes
  exact ⟨hnone,hdisks,released_snapshots_leave_nothing ⟨0⟩ hv
    (turns_work prompt_cluster _ _ _) (every_tested (fun x hx _ => carefully_careful (he x hx)) hc)⟩

end Sample

end ProxmoxCSI.SnapshotLeaks
