import ProxmoxCSI.PassFootprints
import ProxmoxCSI.CallTracks

/-!
# What the mode of a tenant allows

A tenant that is observed has nothing of its disks or VMs changed, a suspended
one has disks unplugged at most. The reconcilers ask for the mode before they
create, copy or attach a disk. They do not ask before they delete, detach,
resize or update one, so a record with such work left is served in any mode.
-/

set_option autoImplicit false

namespace ProxmoxCSI.ModeGuards
open CallProgram CallProgram.Prog CallSafety CallErrors CallSessions CallJournal CallTracks
open CallSchedule VolumeHandle OperatorRecords RecordWrites VolumeReconciler PassFootprints
open SnapshotReconciler (Snapshotter snapshotFinalizer snapshotRefusal)
open AttachmentReconciler (Attacher attachmentFinalizer attachRefusal)

inductive Task where
  | volume (ns name : String)
  | snapshot (ns name : String)
  | attachment (ns name : String)

def Task.ns : Task → String
  | .volume ns _ => ns
  | .snapshot ns _ => ns
  | .attachment ns _ => ns

structure Operator where
  volumes : Reconciler
  snapshots : Snapshotter
  attachments : Attacher

def program (o : Operator) : Task → Prog OpCall OpReply (Except Failure Result)
  | .volume ns name => (VolumeLifecycle.reconcile o.volumes ns name).run
  | .snapshot ns name => (SnapshotReconciler.reconcile o.snapshots ns name).run
  | .attachment ns name => (AttachmentReconciler.reconcile o.attachments ns name).run

section Statement

def admittedMode (l : Ledger) (ns : String) : Option TenantMode :=
  (tenantFor ns l.tenants).map TenantCluster.mode

def isDetach : OpCall → Bool
  | .detachDisk _ _ _ => true
  | _ => false

def permits : TenantMode → OpCall → Bool
  | .observe, c => !isWriter c
  | .suspended, c => !isWriter c || isDetach c
  | _, _ => true

/-- No call made for a record of the namespace is one the mode forbids. -/
def Obeys (m : TenantMode) (ns : String) (j : Journal Task OpCall OpReply Ledger) : Prop :=
  ∀ x ∈ j, x.task.ns = ns → permits m x.event.call

def destroys (r : Reconciler) (v : ProxmoxVolume) : Prop :=
  v.deleting ∧ volumeFinalizer ∈ v.finalizers ∧ ¬v.status.adopted ∧ ¬v.spec.adopt ∧ r.writes ∧
    v.status.diskName ≠ ""

def unsettled (r : Reconciler) (v : ProxmoxVolume) : Prop :=
  ¬v.deleting ∧ ¬v.spec.adopt ∧ isReady v ∧
    (v.status.capacityBytes < roundUpSizeBytes v.spec.capacityBytes minChunkSizeBytes ∨
      v.spec.mutableParameters.entries ≠ [] ∧ r.paramsHash v.spec.mutableParameters ≠
        valueOf v.annotations appliedMutableParamsAnnotation)

def leftover (s : ProxmoxVolumeSnapshot) : Prop :=
  s.deleting ∧ snapshotFinalizer ∈ s.finalizers ∧ (parseVolumeID s.snapshotID).isSome

def plugged (r : Attacher) (m : TenantMode) (a : ProxmoxVolumeAttachment) : Prop :=
  a.deleting ∧ attachmentFinalizer ∈ a.finalizers ∧ (m = .suspended → r.reassignVolumeOnAttach)

def AtRest (o : Operator) (m : TenantMode) : Task → Event OpCall OpReply Ledger → Prop
  | .volume ns name, e => e.call = .getVolume ns name → ∀ v,
      e.before.lookupVolume ns name = some v → ¬destroys o.volumes v ∧ ¬unsettled o.volumes v
  | .snapshot ns name, e => e.call = .getSnapshot ns name → ∀ s,
      e.before.lookupSnapshot ns name = some s → ¬leftover s
  | .attachment ns name, e => e.call = .getAttachment ns name → ∀ a,
      e.before.lookupAttachment ns name = some a → ¬plugged o.attachments m a

end Statement

section Passes

variable {o : Operator} {m : TenantMode} {ns : String}

def Can (m : TenantMode) (ns : String) (i : Task) (_ : History OpCall OpReply Ledger)
    (c : OpCall) : Prop := part c ≠ .tenants ∧ (i.ns = ns → permits m c)

abbrev Fit (o : Operator) (m : TenantMode) (ns : String) (i : Task) :
    Event OpCall OpReply Ledger → Prop :=
  Fits cluster (fun l => admittedMode l ns = some m)
    (fun i e => i.ns = ns → AtRest o m i e) i

theorem permits_quiet {c : OpCall} (h : isWriter c = false) : permits m c := by
  cases m <;> simp [permits, h]

theorem notes_can {i : Task} {h : History OpCall OpReply Ledger} (c : OpCall)
    (hc : volumeNotes c ∨ snapshotNotes c ∨ attachmentNotes c) : Can m ns i h c := by
  have hread : ∀ {c}, part c = .nothing ∧ isWriter c = false → part c ≠ .tenants ∧
    isWriter c = false :=
    fun h => ⟨h.1.trans_ne (fun he => RecordWrites.Part.noConfusion he),h.2⟩
  have hquiet : part c ≠ .tenants ∧ isWriter c = false := by
    rcases hc with hc | hc | hc <;> cases c <;>
      first | exact hread hc | exact hc.elim | exact ⟨fun h => RecordWrites.Part.noConfusion h,rfl⟩
  exact ⟨hquiet.1,fun _ => permits_quiet hquiet.2⟩

theorem calls_can {i : Task} {h : History OpCall OpReply Ledger} (hi : i.ns ≠ ns) (c : OpCall)
    (hc : volumeCalls c ∨ snapshotCalls c ∨ attachmentCalls c) : Can m ns i h c := by
  refine ⟨?_,fun hn => absurd hn hi⟩
  rcases hc with hc | hc | hc <;> cases c <;>
    first
    | exact hc.elim
    | exact RecordWrites.Part.noConfusion hc.1
    | exact fun h => RecordWrites.Part.noConfusion h

variable {i : Task} {h : History OpCall OpReply Ledger}

theorem tracks_volumeNotes {x : P Result} (hx : x.run.Uses volumeNotes) :
    Tracks (Fit o m ns i) (Can m ns i) (fun _ _ => True) x h :=
  tracks_free (fun _ c hc => notes_can c (.inl hc)) hx

theorem tracks_snapshotNotes {x : P Result} (hx : x.run.Uses snapshotNotes) :
    Tracks (Fit o m ns i) (Can m ns i) (fun _ _ => True) x h :=
  tracks_free (fun _ c hc => notes_can c (.inr (.inl hc))) hx

theorem tracks_attachmentNotes {x : P Result} (hx : x.run.Uses attachmentNotes) :
    Tracks (Fit o m ns i) (Can m ns i) (fun _ _ => True) x h :=
  tracks_free (fun _ c hc => notes_can c (.inr (.inr hc))) hx

theorem tracks_tenant {f : Option TenantCluster → P Result}
    (hs : ∀ t h, t.mode = m → Tracks (Fit o m ns i) (Can m ns i) (fun _ _ => True) (f (some t)) h) :
    Tracks (Fit o m ns i) (Can m ns i) (fun _ _ => True) (tenant ns >>= f) h := by
  have hfound : Tracks (Fit o m ns i) (Can m ns i)
      (fun found _ => ∃ t, found = some t ∧ t.mode = m) (tenant ns) h := by
    refine tracks_call (notes_can _ (.inl ⟨rfl,rfl⟩)) ?_
    intro r w w' he ts hr
    have hts : ts = w.tenants := read_tenants he.outcome (mapError_ok hr)
    obtain ⟨t,ht,hm⟩ := Option.map_eq_some_iff.mp he.before
    refine tracks_pure ⟨t,?_,hm⟩
    rw [hts]
    exact ht
  refine tracks_bind hfound ?_
  rintro found h ⟨t,rfl,hm⟩
  exact hs t h hm

theorem detach_obeys {att : ProxmoxVolumeAttachment} (hd : att.deleting)
    (hq : ¬plugged o.attachments m att) :
    Tracks (Fit o m ns i) (Can m ns i) (fun _ _ => True)
      (AttachmentReconciler.reconcileDetach o.attachments att) h := by
  by_cases hf : attachmentFinalizer ∈ att.finalizers
  · have hs : m = .suspended ∧ ¬o.attachments.reassignVolumeOnAttach := by
      by_contra hc
      exact hq ⟨hd,hf,fun hs => by_contra (fun hr => hc ⟨hs,hr⟩)⟩
    have hcan : ∀ h c, attachmentNotes c ∨ isDetach c → Can m ns i h c := by
      rintro h c (hc | hc)
      · exact notes_can c (.inr (.inr hc))
      · cases c with
        | detachDisk region vmid vol => exact ⟨by simp [part],fun _ => by rw [hs.1]; rfl⟩
        | _ => cases hc
    refine tracks_free hcan ?_
    refine reconcileDetach_uses o.attachments att (fun _ hc => .inl hc) (fun _ _ => .inr rfl) ?_
    intro vol disk
    unfold AttachmentReconciler.renamedBack
    rw [if_neg (fun hc => hs.2 hc.1)]
    trivial
  · rw [AttachmentReconciler.reconcileDetach, if_pos hf]
    exact tracks_pure trivial

variable (hm : m = .observe ∨ m = .suspended)

include hm

theorem provision_obeys {vol : ProxmoxVolume} (hn : vol.ns = ns) (hd : ¬vol.deleting)
    (ha : ¬vol.spec.adopt) (hq : ¬unsettled o.volumes vol) :
    Tracks (Fit o m ns i) (Can m ns i) (fun _ _ => True) (reconcileProvision o.volumes vol) h := by
  unfold reconcileProvision
  split
  · rename_i hr
    have hcap : ¬vol.status.capacityBytes <
        roundUpSizeBytes vol.spec.capacityBytes minChunkSizeBytes :=
      fun h => hq ⟨hd,ha,hr,.inl h⟩
    have hmut : ¬(vol.spec.mutableParameters.entries ≠ [] ∧
        o.volumes.paramsHash vol.spec.mutableParameters ≠
          valueOf vol.annotations appliedMutableParamsAnnotation) :=
      fun h => hq ⟨hd,ha,hr,.inr h⟩
    have hpass : reconcileReadyVolume o.volumes vol = pure ⟨o.volumes.period⟩ := by
      simp only [reconcileReadyVolume, hcap, if_false, hmut]
    rw [hpass]
    exact tracks_pure trivial
  · rw [hn]
    refine tracks_tenant ?_
    intro t h ht
    have href : ∃ reason message, refusal t vol = some (reason,message) := by
      rcases hm with hm | hm
      · exact ⟨_,_,by simp only [refusal, placementRefusal, ht, hm]; rfl⟩
      · exact ⟨_,_,by simp only [refusal, placementRefusal, ht, hm]; rfl⟩
    obtain ⟨reason,message,href⟩ := href
    dsimp only
    rw [href]
    exact tracks_volumeNotes (reject_notes _ _ _)

theorem volume_obeys (name : String) :
    Tracks (Fit o m ns (.volume ns name)) (Can m ns (.volume ns name)) (fun _ _ => True)
      (VolumeLifecycle.reconcile o.volumes ns name) h := by
  refine tracks_perform (notes_can _ (.inl ⟨rfl,rfl⟩)) ?_
  intro r w w' he
  cases r with
  | error e => exact tracks_volumeNotes (uses_unread e)
  | ok vol =>
    obtain ⟨hl,hn⟩ := read_volume he.outcome rfl
    obtain ⟨hdes,hset⟩ := he.met rfl rfl vol hl
    show Tracks _ _ _ (VolumeLifecycle.reconcileRecord o.volumes vol) _
    unfold VolumeLifecycle.reconcileRecord
    split
    · rename_i hd
      apply tracks_volumeNotes
      refine reconcileDelete_uses o.volumes vol (fun _ hc => hc) ?_
      intro hf hp
      have hname : vol.status.diskName = "" := by
        by_contra hne
        exact hdes ⟨hd,hf,hp.1,hp.2.1,hp.2.2,hne⟩
      rw [VolumeLifecycle.destroyDisk, if_pos hname]
      exact releaseRecord_notes vol
    · rename_i hd
      split
      · exact tracks_volumeNotes (reconcileAdopt_notes o.volumes vol)
      · rename_i ha
        exact provision_obeys hm hn hd ha hset

theorem snapshot_obeys (name : String) :
    Tracks (Fit o m ns (.snapshot ns name)) (Can m ns (.snapshot ns name)) (fun _ _ => True)
      (SnapshotReconciler.reconcile o.snapshots ns name) h := by
  refine tracks_perform (notes_can _ (.inr (.inl ⟨rfl,rfl⟩))) ?_
  intro r w w' he
  cases r with
  | error e => exact tracks_snapshotNotes (uses_unread e)
  | ok snap =>
    obtain ⟨hl,hn⟩ := read_snapshot he.outcome rfl
    have hleft := he.met rfl rfl snap hl
    show Tracks _ _ _ (SnapshotReconciler.reconcileSnapshot o.snapshots snap) _
    unfold SnapshotReconciler.reconcileSnapshot
    split
    · rename_i hd
      apply tracks_snapshotNotes
      unfold SnapshotReconciler.reconcileDelete
      split
      · trivial
      · rename_i hf
        split
        · exact releaseSnapshot_notes snap
        · split
          · exact uses_try_bind (uses_need trivial) (fun _ => trivial)
          · rename_i disk hp
            exact absurd ⟨hd,not_not.mp hf,by rw [hp]; rfl⟩ hleft
    · unfold SnapshotReconciler.reconcileCreate
      split
      · exact tracks_pure trivial
      · refine tracks_perform (notes_can _ (.inr (.inl ⟨rfl,rfl⟩))) ?_
        intro r _ _ _
        cases r with
        | error e => exact tracks_snapshotNotes (settledSnapshot_notes _ _)
        | ok vol =>
          show Tracks _ _ _ (ite _ _ _ : P Result) _
          split
          · exact tracks_snapshotNotes (settledSnapshot_notes _ _)
          · unfold SnapshotReconciler.snapshotOf
            rw [hn]
            refine tracks_tenant ?_
            intro t h ht
            have href : ∃ reason message, snapshotRefusal t vol = some (reason,message) :=
              ⟨_,_,by rcases hm with hm | hm <;> simp only [snapshotRefusal, ht, hm] <;> rfl⟩
            obtain ⟨reason,message,href⟩ := href
            dsimp only
            rw [href]
            exact tracks_snapshotNotes (settledSnapshot_notes _ _)

theorem attach_obeys {att : ProxmoxVolumeAttachment} (hn : att.ns = ns) :
    Tracks (Fit o m ns i) (Can m ns i) (fun _ _ => True)
      (AttachmentReconciler.reconcileAttach o.attachments att) h := by
  unfold AttachmentReconciler.reconcileAttach
  split
  · exact tracks_pure trivial
  · refine tracks_perform (notes_can _ (.inr (.inr ⟨rfl,rfl⟩))) ?_
    intro r _ _ _
    cases r with
    | error e => exact tracks_attachmentNotes (settledAttachment_notes _ _)
    | ok vol =>
      show Tracks _ _ _ (AttachmentReconciler.attachVolumeOf o.attachments att vol) _
      unfold AttachmentReconciler.attachVolumeOf
      split
      · exact tracks_attachmentNotes (settledAttachment_notes _ _)
      · split
        · exact tracks_attachmentNotes (settledAttachment_notes _ _)
        · unfold AttachmentReconciler.attachReady
          rw [hn]
          refine tracks_tenant ?_
          intro t h ht
          have href : ∃ reason message, attachRefusal t att = some (reason,message) :=
            ⟨_,_,by rcases hm with hm | hm <;> simp only [attachRefusal, ht, hm] <;> rfl⟩
          obtain ⟨reason,message,href⟩ := href
          show Tracks _ _ _ (AttachmentReconciler.attachFor o.attachments att vol t) h
          unfold AttachmentReconciler.attachFor
          rw [href]
          exact tracks_attachmentNotes (settledAttachment_notes _ _)

theorem attachment_obeys (name : String) :
    Tracks (Fit o m ns (.attachment ns name)) (Can m ns (.attachment ns name)) (fun _ _ => True)
      (AttachmentReconciler.reconcile o.attachments ns name) h := by
  refine tracks_perform (notes_can _ (.inr (.inr ⟨rfl,rfl⟩))) ?_
  intro r w w' he
  cases r with
  | error e => exact tracks_attachmentNotes (uses_unread e)
  | ok att =>
    obtain ⟨hl,hn⟩ := read_attachment he.outcome rfl
    have hq := he.met rfl rfl att hl
    show Tracks _ _ _ (AttachmentReconciler.reconcileAttachment o.attachments att) _
    unfold AttachmentReconciler.reconcileAttachment
    split
    · rename_i hd
      exact detach_obeys hd hq
    · exact attach_obeys hm hn

theorem task_obeys (i : Task) :
    Follows (Fit o m ns i) (Can m ns i) (fun _ _ => True) (program o i) [] := by
  have hdone : ∀ {x : P Result}, Tracks (Fit o m ns i) (Can m ns i) (fun _ _ => True) x [] →
      Follows (Fit o m ns i) (Can m ns i) (fun _ _ => True) x.run [] :=
    fun hx => follows_mono hx (fun _ _ _ => trivial)
  by_cases hi : i.ns = ns
  · cases i with
    | volume n name =>
      cases hi
      exact hdone (volume_obeys hm name)
    | snapshot n name =>
      cases hi
      exact hdone (snapshot_obeys hm name)
    | attachment n name =>
      cases hi
      exact hdone (attachment_obeys hm name)
  · cases i with
    | volume n name =>
      exact hdone (tracks_free (fun _ c hc => calls_can hi c (.inl hc)) (volume_uses _ n name))
    | snapshot n name =>
      exact hdone (tracks_free (fun _ c hc => calls_can hi c (.inr (.inl hc)))
        (snapshot_uses _ n name))
    | attachment n name =>
      exact hdone (tracks_free (fun _ c hc => calls_can hi c (.inr (.inr hc)))
        (attachment_uses _ n name))

end Passes

/-- As long as every record that is read for the namespace is at rest, no call is made
that the mode forbids. -/
theorem mode_confines_writer (o : Operator) (ns : String) (m : TenantMode) {l : Ledger}
    {b : Stand Task OpCall OpReply Ledger} (hl : admittedMode l ns = some m)
    (hw : Work cluster (program o) ⟨[],l⟩ b)
    (hq : ∀ x ∈ b.journal, x.task.ns = ns → AtRest o m x.task x.event) : Obeys m ns b.journal := by
  by_cases hm : m = .observe ∨ m = .suspended
  · have hstep : ∀ (i : Task) (h : History OpCall OpReply Ledger) (c : OpCall) w r w',
        Fit o m ns i ⟨c,r,w,w'⟩ → Can m ns i h c → admittedMode w' ns = some m := by
      intro i h c w r w' he hc
      rw [admittedMode, (outcome_kept he.outcome).tenants hc.1]
      exact he.before
    have hall := (work_follows (fun _ _ _ he _ => absurd he (cluster_calm _ _ _)) hstep
      (task_obeys hm) hw hl hq).2
    intro x hx hn
    rcases hall x hx with hx | ⟨_,h,hc⟩
    · cases hx
    · exact hc.2 hn
  · intro x _ _
    cases m with
    | observe => exact absurd (.inl rfl) hm
    | suspended => exact absurd (.inr rfl) hm
    | _ => rfl

section Sample

def deletedVolume : ProxmoxVolume := { provisionedVolume [volumeFinalizer] with deleting := true }

def pendingVolume : ProxmoxVolume := requestedVolume "pvc-b" 2

def sampleLedger (m : TenantMode) (vol : ProxmoxVolume) : Ledger :=
  blueLedger { blueTenant with mode := m } [vol] [blueDisk "pvc-a"]

def sampleOperator : Operator := ⟨plainReconciler,⟨0⟩,⟨0,false,fun _ _ => .ok ∅⟩⟩

def samplePass (m : TenantMode) (vol : ProxmoxVolume) : Stand Task OpCall OpReply Ledger :=
  turns prompt (program sampleOperator) ⟨[],sampleLedger m vol⟩ [.volume "blue-ns" vol.name]

def Unguarded (m : TenantMode) : Prop :=
  admittedMode (sampleLedger m deletedVolume) "blue-ns" = some m ∧
    Work cluster (program sampleOperator) ⟨[],sampleLedger m deletedVolume⟩
      (samplePass m deletedVolume) ∧
    (samplePass m deletedVolume).world.disks = [] ∧
    ¬Obeys m "blue-ns" (samplePass m deletedVolume).journal

theorem unguarded {m : TenantMode} (hm : admittedMode (sampleLedger m deletedVolume)
    "blue-ns" = some m)
    (hd : (samplePass m deletedVolume).world.disks = [])
    (hbad : (samplePass m deletedVolume).journal.any
      (fun x => x.task.ns = "blue-ns" ∧ permits m x.event.call = false) = true) : Unguarded m := by
  refine ⟨hm,turns_work prompt_cluster _ _ _,hd,?_⟩
  intro h
  obtain ⟨x,hx,hp⟩ := List.any_eq_true.mp hbad
  obtain ⟨hn,hp⟩ := of_decide_eq_true hp
  have hok := h x hx hn
  rw [hp] at hok
  cases hok

/-- The disk of a deleted volume is destroyed although the tenant is only observed, and
so it is when the tenant is suspended. -/
theorem disk_destroyed_in_any_mode : Unguarded .observe ∧ Unguarded .suspended :=
  ⟨unguarded (by decide +kernel) (by decide +kernel) (by decide +kernel),
    unguarded (by decide +kernel) (by decide +kernel) (by decide +kernel)⟩

def startsOut (x : Entry Task OpCall OpReply Ledger) : Bool :=
  match x.task with
  | .volume ns name => (x.event.before.lookupVolume ns name).all (fun v => !v.deleting && !isReady v)
  | _ => false

theorem startsOut_atRest {x : Entry Task OpCall OpReply Ledger} {m : TenantMode}
    (h : startsOut x) : AtRest sampleOperator m x.task x.event := by
  obtain ⟨i,e⟩ := x
  cases i with
  | volume ns name =>
    intro _ v hv
    simp only [startsOut, hv, Option.all_some, Bool.and_eq_true, Bool.not_eq_true'] at h
    refine ⟨?_,?_⟩
    · rintro ⟨hd,_⟩
      rw [h.1] at hd
      cases hd
    · rintro ⟨_,_,hr,_⟩
      rw [h.2] at hr
      cases hr
  | snapshot ns name => cases h
  | attachment ns name => cases h

/-- A record that is still to be provisioned is refused, and no disk is made. -/
theorem observed_tenant_is_refused :
    (samplePass .observe pendingVolume).journal.length = 3 ∧
    Obeys .observe "blue-ns" (samplePass .observe pendingVolume).journal := by
  refine ⟨by decide +kernel,?_⟩
  refine mode_confines_writer sampleOperator "blue-ns" .observe
    (l := sampleLedger .observe pendingVolume)
    (by decide +kernel) (turns_work prompt_cluster _ _ _) ?_
  have hall : (samplePass .observe pendingVolume).journal.all startsOut = true := by decide +kernel
  intro x hx _
  exact startsOut_atRest (List.all_eq_true.mp hall x hx)

end Sample

end ProxmoxCSI.ModeGuards
