import ProxmoxCSI.AttachmentReconciler
import ProxmoxCSI.RecordWrites

/-!
# The calls of the reconcilers

Which calls a pass over a record can make, whatever the answers. A pass writes
records of its own kind and, where it comes to that, calls Proxmox; a refusal, a
report, an adoption and a release stay within the records.
-/

set_option autoImplicit false

namespace ProxmoxCSI.PassFootprints
open CallProgram CallProgram.Prog CallErrors VolumeHandle OperatorRecords RecordWrites
open VolumeReconciler

section Calls

variable {ok : OpCall → Prop}

theorem uses_ask {c : OpCall} (h : ok c) : (ask c).run.Uses ok := ⟨h,fun _ => trivial⟩

theorem uses_need {c : OpCall} {pre : String} (h : ok c) : (need c pre).run.Uses ok :=
  ⟨h,fun _ => trivial⟩

theorem uses_unread (e : Fault) : (VolumeLifecycle.unread e).run.Uses ok := by
  unfold VolumeLifecycle.unread
  split
  · trivial
  · trivial

theorem uses_tenant {ns : String} (h : ok .listTenants) : (tenant ns).run.Uses ok :=
  uses_try_bind (uses_need h) (fun _ => trivial)

end Calls

section Volumes
open VolumeLifecycle

def volumeNotes : OpCall → Prop
  | .now => False
  | .update _ | .updateStatus _ => True
  | c => part c = .nothing ∧ isWriter c = false

def volumeCalls : OpCall → Prop
  | .now => False
  | .update _ | .updateStatus _ | .createDisk _ _ _ _ _ | .copyDisk _ _ _ _ _ _ _
  | .deleteDisk _ _ _ _ | .resizeDisk _ _ _ _ _ | .updateDisk _ _ _ _ => True
  | c => part c = .nothing ∧ isWriter c = false

theorem volumeNotes_calls (c : OpCall) (h : volumeNotes c) : volumeCalls c := by
  cases c <;> trivial

section Writes

variable {ok : OpCall → Prop} {vol : ProxmoxVolume}

theorem updateStatus_uses (h : ok (.updateStatus (observed vol))) :
    (VolumeReconciler.updateStatus vol).run.Uses ok :=
  uses_try_bind (uses_need h) (fun _ => trivial)

theorem report_uses (result : Result) (cause : String) (h : ok (.updateStatus (observed vol))) :
    (report vol result cause).run.Uses ok := by
  exact uses_either (uses_ask h) (fun _ => trivial) (fun _ => trivial)

theorem hold_uses {α : Type} {t : TenantCluster} {f : ProxmoxVolume → P α}
    (h : ok (.update (held vol t))) (hkept : (f vol).run.Uses ok)
    (hheld : (f (held vol t)).run.Uses ok) : (hold vol t >>= f).run.Uses ok := by
  unfold hold
  split
  · exact hkept
  · refine ⟨h,?_⟩
    intro r
    cases r with
    | ok u => exact hheld
    | error e => trivial

theorem duplicate_uses (h : ok (.listClaims (claim vol))) : (duplicate vol).run.Uses ok := by
  unfold duplicate
  split
  · trivial
  · exact uses_try_bind (uses_need h) (fun _ => trivial)

theorem storagePluginType_uses (region zone storage : String) (h : ok .listStorages) :
    (storagePluginType region zone storage).run.Uses ok := by
  exact uses_either (uses_ask h) (fun _ => trivial) (fun _ => trivial)

end Writes

theorem updateStatus_notes (vol : ProxmoxVolume) :
    (VolumeReconciler.updateStatus vol).run.Uses volumeNotes := updateStatus_uses trivial

theorem report_notes (vol : ProxmoxVolume) (result : Result) (cause : String) :
    (report vol result cause).run.Uses volumeNotes := report_uses result cause trivial

theorem reject_notes (vol : ProxmoxVolume) (reason : Reason) (message : String) :
    (reject vol reason message).run.Uses volumeNotes :=
  uses_try_bind (updateStatus_notes _) (fun _ => trivial)

theorem hold_notes (vol : ProxmoxVolume) (t : TenantCluster) : (hold vol t).run.Uses volumeNotes := by
  unfold hold
  split
  · trivial
  · exact uses_try_bind (uses_need trivial) (fun _ => trivial)

section Adopt

theorem adopt_notes (r : Reconciler) (vol : ProxmoxVolume) (t : TenantCluster) (handle : Volume) :
    (adopt r vol t handle).run.Uses volumeNotes := by
  refine uses_either (uses_ask ⟨rfl,rfl⟩) (fun _ => ?_) (fun _ => report_notes _ _ _)
  dsimp only
  split
  · exact uses_try_bind (updateStatus_notes _) (fun _ => trivial)
  · refine uses_if (reject_notes _ _ _) ?_
    refine uses_try_bind (hold_notes vol t) ?_
    intro vol
    exact uses_try_bind (updateStatus_notes _) (fun _ => trivial)

theorem adoptFor_notes (r : Reconciler) (vol : ProxmoxVolume) (t : TenantCluster)
    (handle : Volume) : (adoptFor r vol t handle).run.Uses volumeNotes := by
  refine uses_try_bind (duplicate_uses ⟨rfl,rfl⟩) ?_
  intro other
  cases other with
  | some other => exact reject_notes _ _ _
  | none => exact adopt_notes r vol t handle

theorem adoptHandle_notes (r : Reconciler) (vol : ProxmoxVolume) (t : TenantCluster) :
    (adoptHandle r vol t).run.Uses volumeNotes := by
  unfold adoptHandle
  split
  · exact reject_notes _ _ _
  · split
    · exact reject_notes _ _ _
    · exact adoptFor_notes r vol t _

theorem reconcileAdopt_notes (r : Reconciler) (vol : ProxmoxVolume) :
    (reconcileAdopt r vol).run.Uses volumeNotes := by
  refine uses_try_bind (uses_tenant ⟨rfl,rfl⟩) ?_
  intro t
  cases t with
  | none => exact reject_notes _ _ _
  | some t =>
    refine uses_if (reject_notes _ _ _) ?_
    split
    · exact reject_notes _ _ _
    · exact adoptHandle_notes r vol t

end Adopt

section Provision

/-- The calls with which a disk of this size is provisioned are allowed. The records whose
status may be written are closed under what a pass that refuses for no quota tells of them. -/
structure Permits (told : ProxmoxVolume → Prop) (size : ℤ) (ok : OpCall → Prop) : Prop where
  notes : ∀ c, volumeNotes c → (∀ vol, c ≠ .updateStatus vol) → ok c
  tells : ∀ vol, told vol → ok (.updateStatus (observed vol))
  publishes : ∀ vol t disk, ok (.updateStatus (observed (published vol t disk size)))
  held : ∀ vol t, told vol → told (held vol t)
  phase : ∀ vol p, told vol → told (withPhase vol p)
  condition : ∀ vol type status reason message, reason ≠ .quotaExceeded → reason ≠ .namespaceQuota →
    told vol → told (setCondition vol type status reason message)
  copies : ∀ srcRegion srcZone srcStorage srcDisk dstZone dstStorage dstDisk,
    ok (.copyDisk srcRegion srcZone srcStorage srcDisk dstZone dstStorage dstDisk)
  creates : ∀ region zone storage name, ok (.createDisk region zone storage name size)

variable {ok : OpCall → Prop} {told : ProxmoxVolume → Prop} {size : ℤ} {vol : ProxmoxVolume}

section Statuses

variable (h : Permits told size ok) (hv : told vol)
include h

theorem reads_permitted {c : OpCall} (hc : part c = .nothing ∧ isWriter c = false)
    (hn : c ≠ .now) : ok c := by
  refine h.notes c ?_ ?_
  · cases c <;> first | exact hc | exact absurd rfl hn | trivial
  · rintro v rfl
    cases hc.1

include hv

theorem reject_uses {reason : Reason} (message : String) (h₁ : reason ≠ .quotaExceeded)
    (h₂ : reason ≠ .namespaceQuota) : (reject vol reason message).run.Uses ok :=
  uses_try_bind (updateStatus_uses (h.tells _ (h.phase _ _ (h.condition _ _ _ _ _ h₁ h₂
    (h.condition _ _ _ _ _ h₁ h₂ hv))))) (fun _ => trivial)

theorem sourceRejected_uses {reason : Reason} (message : String) (h₁ : reason ≠ .quotaExceeded)
    (h₂ : reason ≠ .namespaceQuota) : (sourceRejected vol reason message).run.Uses ok :=
  updateStatus_uses (h.tells _ (h.phase _ _ (h.condition _ _ _ _ _ h₁ h₂ hv)))

theorem sourcePending_uses (message : String) : (sourcePending vol message).run.Uses ok :=
  updateStatus_uses (h.tells _ (h.phase _ _ (h.condition _ _ _ _ _ (by decide) (by decide) hv)))

end Statuses

theorem copyTo_uses (h : Permits told size ok) (vol : ProxmoxVolume) (dest : Volume)
    (region zone storage disk : String) : (copyTo vol dest region zone storage disk).run.Uses ok :=
  uses_try_bind (uses_need (h.copies _ _ _ _ _ _ _)) (fun _ => trivial)

theorem provisionFromFoundSnapshot_uses (h : Permits told size ok) (hv : told vol)
    (snap : ProxmoxVolumeSnapshot) (dest : Volume) :
    (provisionFromFoundSnapshot vol snap dest).run.Uses ok := by
  unfold provisionFromFoundSnapshot
  split
  · exact sourcePending_uses h hv _
  · split
    · exact sourceRejected_uses h hv _ (by decide) (by decide)
    · exact copyTo_uses h _ _ _ _ _ _

theorem provisionFromSnapshot_uses (h : Permits told size ok) (hv : told vol) (name : String)
    (dest : Volume) : (provisionFromSnapshot vol name dest).run.Uses ok := by
  refine uses_either (uses_ask (reads_permitted h ⟨rfl,rfl⟩ (by simp)))
    (fun snap => provisionFromFoundSnapshot_uses h hv snap dest) (fun e => ?_)
  refine uses_either (uses_ask (reads_permitted h ⟨rfl,rfl⟩ (by simp))) (fun _ => ?_)
    (fun _ => sourceRejected_uses h hv _ (by decide) (by decide))
  dsimp only
  split
  · exact sourceRejected_uses h hv _ (by decide) (by decide)
  · exact provisionFromFoundSnapshot_uses h hv _ dest

theorem provisionFromVolume_uses (h : Permits told size ok) (hv : told vol) (name : String)
    (dest : Volume) : (provisionFromVolume vol name dest).run.Uses ok := by
  refine uses_either (uses_ask (reads_permitted h ⟨rfl,rfl⟩ (by simp))) (fun _ => ?_)
    (fun _ => sourceRejected_uses h hv _ (by decide) (by decide))
  exact uses_if (sourcePending_uses h hv _) (copyTo_uses h _ _ _ _ _ _)

theorem provisionFresh_uses (h : Permits told size ok) (hv : told vol) (disk : Volume) :
    (provisionFresh vol disk size).run.Uses ok := by
  have hfailed : ∀ message, told (setCondition vol .ready false .proxmoxError message) :=
    fun message => h.condition _ _ _ _ _ (by decide) (by decide) hv
  refine uses_either (uses_ask (reads_permitted h ⟨rfl,rfl⟩ (by simp))) (fun disks => ?_)
    (fun _ => uses_try_bind (report_uses _ _ (h.tells _ (hfailed _))) (fun _ => trivial))
  show Uses _ (createUnlessListed vol disk size disks).run
  unfold createUnlessListed
  split
  · trivial
  · refine uses_either (uses_ask (h.creates _ _ _ _)) (fun _ => trivial) (fun _ => ?_)
    exact uses_try_bind (report_uses _ _ (h.tells _ (h.phase _ _ (hfailed _)))) (fun _ => trivial)

theorem provisionDisk_uses (h : Permits told size ok) (hv : told vol) (disk : Volume) :
    (provisionDisk vol disk size).run.Uses ok := by
  unfold provisionDisk
  split
  · unfold provisionFromSource
    split
    · exact provisionFromVolume_uses h hv _ _
    · split
      · exact provisionFromSnapshot_uses h hv _ _
      · trivial
  · exact provisionFresh_uses h hv disk

theorem provisionOn_uses (r : Reconciler)
    (h : Permits told (roundUpSizeBytes vol.spec.capacityBytes minChunkSizeBytes) ok) (hv : told vol)
    (t : TenantCluster) (pluginType : String) : (provisionOn r vol t pluginType).run.Uses ok := by
  have hrest : ∀ vol', told vol' → (do
      let vol'' ← provisionDisk vol' (diskVolume t pluginType vol)
        (roundUpSizeBytes vol.spec.capacityBytes minChunkSizeBytes)
      let _ ← VolumeReconciler.updateStatus (published vol'' t (diskVolume t pluginType vol)
        (roundUpSizeBytes vol.spec.capacityBytes minChunkSizeBytes))
      pure ⟨r.period⟩ : P Result).run.Uses ok := fun vol' hv' =>
    uses_try_bind (provisionDisk_uses h hv' _)
      (fun _ => uses_try_bind (updateStatus_uses (h.publishes _ _ _)) (fun _ => trivial))
  exact hold_uses (h.notes _ trivial (by simp)) (hrest vol hv) (hrest _ (h.held vol t hv))

theorem provisionFor_uses (r : Reconciler)
    (h : Permits told (roundUpSizeBytes vol.spec.capacityBytes minChunkSizeBytes) ok) (hv : told vol)
    (t : TenantCluster) : (provisionFor r vol t).run.Uses ok := by
  refine uses_try_bind (duplicate_uses (reads_permitted h ⟨rfl,rfl⟩ (by simp))) ?_
  intro other
  cases other with
  | some other =>
    exact reject_uses h (h.condition _ _ _ _ _ (by decide) (by decide) hv) _ (by decide) (by decide)
  | none =>
    refine uses_try_bind (storagePluginType_uses _ _ _ (reads_permitted h ⟨rfl,rfl⟩ (by simp))) ?_
    intro answer
    cases answer with
    | error text => exact reject_uses h hv _ (by decide) (by decide)
    | ok pluginType => exact provisionOn_uses r h hv t pluginType

theorem volumeCalls_permits (size : ℤ) : Permits (fun _ => True) size volumeCalls where
  notes c hc _ := volumeNotes_calls c hc
  tells _ _ := trivial
  publishes _ _ _ := trivial
  held _ _ _ := trivial
  phase _ _ _ := trivial
  condition _ _ _ _ _ _ _ _ := trivial
  copies _ _ _ _ _ _ _ := trivial
  creates _ _ _ _ := trivial

end Provision

section Ready

theorem recordAppliedParams_notes (r : Reconciler) (vol : ProxmoxVolume) (hash : String) :
    (recordAppliedParams r vol hash).run.Uses volumeNotes :=
  uses_try_bind (uses_need trivial) (fun _ => trivial)

theorem invalidVolumeID_notes (vol : ProxmoxVolume) : (invalidVolumeID vol).run.Uses volumeNotes :=
  uses_try_bind (updateStatus_notes _) (fun _ => trivial)

theorem modifyOn_uses (r : Reconciler) (vol : ProxmoxVolume) (hash : String)
    (att : ProxmoxVolumeAttachment) (disk : Volume) :
    (modifyOn r vol hash att disk).run.Uses volumeCalls := by
  unfold modifyOn
  split
  · exact uses_try_bind (uses_mono (updateStatus_notes _) volumeNotes_calls) (fun _ => trivial)
  · exact uses_either (uses_ask trivial)
      (fun _ => uses_mono (recordAppliedParams_notes r vol hash) volumeNotes_calls)
        (fun _ => uses_mono (report_notes _ _ _) volumeNotes_calls)

theorem reconcileModify_uses (r : Reconciler) (vol : ProxmoxVolume) (hash : String) :
    (reconcileModify r vol hash).run.Uses volumeCalls := by
  refine uses_try_bind (uses_need ⟨rfl,rfl⟩) ?_
  intro as
  split
  · exact uses_mono (recordAppliedParams_notes r vol hash) volumeNotes_calls
  · split
    · exact uses_mono (invalidVolumeID_notes vol) volumeNotes_calls
    · exact modifyOn_uses r vol hash _ _

theorem reconcileExpand_uses (r : Reconciler) (vol : ProxmoxVolume) (sizeBytes : ℤ) :
    (reconcileExpand r vol sizeBytes).run.Uses volumeCalls := by
  unfold reconcileExpand
  split
  · exact uses_mono (invalidVolumeID_notes vol) volumeNotes_calls
  · rename_i disk _
    refine uses_try_bind (uses_need ⟨rfl,rfl⟩) ?_
    intro as
    split
    · trivial
    · refine uses_either (uses_ask trivial) (fun _ => ?_)
        (fun _ => uses_mono (report_notes _ _ _) volumeNotes_calls)
      exact uses_try_bind (uses_mono (updateStatus_notes _) volumeNotes_calls) (fun _ => trivial)

theorem reconcileReadyVolume_uses (r : Reconciler) (vol : ProxmoxVolume) :
    (reconcileReadyVolume r vol).run.Uses volumeCalls := by
  refine uses_if (reconcileExpand_uses r vol _) ?_
  split
  · exact reconcileModify_uses r vol _
  · trivial

theorem reconcileProvision_uses (r : Reconciler) (vol : ProxmoxVolume) :
    (reconcileProvision r vol).run.Uses volumeCalls := by
  unfold reconcileProvision
  split
  · exact reconcileReadyVolume_uses r vol
  · refine uses_try_bind (uses_tenant ⟨rfl,rfl⟩) ?_
    intro t
    cases t with
    | none => exact uses_mono (reject_notes _ _ _) volumeNotes_calls
    | some t =>
      dsimp only
      split
      · exact uses_mono (reject_notes _ _ _) volumeNotes_calls
      · exact provisionFor_uses r (volumeCalls_permits _) trivial t

end Ready

section Delete

theorem releaseRecord_notes (vol : ProxmoxVolume) : (releaseRecord vol).run.Uses volumeNotes :=
  uses_try_bind (uses_need trivial) (fun _ => trivial)

theorem releaseAdopted_notes (r : Reconciler) (vol : ProxmoxVolume) (t : Option TenantCluster) :
    (releaseAdopted r vol t).run.Uses volumeNotes := by
  unfold releaseAdopted
  split
  · split
    · exact uses_try_bind (updateStatus_notes _) (fun _ => trivial)
    · exact releaseRecord_notes vol
  · exact releaseRecord_notes vol

theorem destroyDisk_uses (r : Reconciler) (vol : ProxmoxVolume) :
    (destroyDisk r vol).run.Uses volumeCalls := by
  unfold destroyDisk
  split
  · exact uses_mono (releaseRecord_notes vol) volumeNotes_calls
  · exact uses_either (uses_ask trivial)
      (fun _ => uses_mono (releaseRecord_notes vol) volumeNotes_calls)
        (fun _ => uses_mono (report_notes _ _ _) volumeNotes_calls)

/-- Deleting a provisioned record, from what it does once no attachment is left. -/
theorem reconcileDeleteProvisioned_uses {ok : OpCall → Prop} (r : Reconciler) (vol : ProxmoxVolume)
    (hok : ∀ c, volumeNotes c → ok c) (hd : (destroyDisk r vol).run.Uses ok) :
    (reconcileDeleteProvisioned r vol).run.Uses ok := by
  refine uses_try_bind (uses_need (hok _ ⟨rfl,rfl⟩)) ?_
  intro as
  split
  · exact uses_try_bind (uses_mono (updateStatus_notes _) hok) (fun _ => trivial)
  · exact hd

theorem reconcileDelete_uses {ok : OpCall → Prop} (r : Reconciler) (vol : ProxmoxVolume)
    (hok : ∀ c, volumeNotes c → ok c)
    (hd : volumeFinalizer ∈ vol.finalizers → ¬vol.status.adopted ∧ ¬vol.spec.adopt ∧ r.writes →
      (destroyDisk r vol).run.Uses ok) :
    (VolumeLifecycle.reconcileDelete r vol).run.Uses ok := by
  unfold VolumeLifecycle.reconcileDelete
  split
  · trivial
  · rename_i hf
    split
    · rename_i hp
      refine uses_try_bind (uses_tenant (hok _ ⟨rfl,rfl⟩)) ?_
      intro _
      exact reconcileDeleteProvisioned_uses r vol hok (hd (not_not.mp hf) hp)
    · refine uses_try_bind (uses_tenant (hok _ ⟨rfl,rfl⟩)) ?_
      intro t
      exact uses_mono (releaseAdopted_notes r vol t) hok

end Delete

theorem reconcileRecord_uses (r : Reconciler) (vol : ProxmoxVolume) :
    (reconcileRecord r vol).run.Uses volumeCalls := by
  unfold reconcileRecord
  split
  · exact reconcileDelete_uses r vol volumeNotes_calls (fun _ _ => destroyDisk_uses r vol)
  · split
    · exact uses_mono (reconcileAdopt_notes r vol) volumeNotes_calls
    · exact reconcileProvision_uses r vol

theorem volume_uses (r : Reconciler) (ns name : String) :
    (VolumeLifecycle.reconcile r ns name).run.Uses volumeCalls := by
  exact uses_either (uses_ask ⟨rfl,rfl⟩) (fun vol => reconcileRecord_uses r vol)
    (fun e => uses_unread e)

end Volumes

section Snapshots
open SnapshotReconciler

def snapshotNotes : OpCall → Prop
  | .now => False
  | .updateSnapshot _ | .updateSnapshotStatus _ => True
  | c => part c = .nothing ∧ isWriter c = false

def snapshotCalls : OpCall → Prop
  | .now => False
  | .updateSnapshot _ | .updateSnapshotStatus _ | .copyDisk _ _ _ _ _ _ _
  | .deleteDisk _ _ _ _ => True
  | c => part c = .nothing ∧ isWriter c = false

theorem snapshotNotes_calls (c : OpCall) (h : snapshotNotes c) : snapshotCalls c := by
  cases c <;> trivial

theorem settledSnapshot_notes (snap : ProxmoxVolumeSnapshot) (result : Result) :
    (settled snap result).run.Uses snapshotNotes :=
  uses_try_bind (uses_need trivial) (fun _ => trivial)

theorem reportedSnapshot_notes (snap : ProxmoxVolumeSnapshot) (result : Result) (cause : String) :
    (reported snap result cause).run.Uses snapshotNotes := by
  exact uses_either (uses_ask trivial) (fun _ => trivial) (fun _ => trivial)

theorem releaseSnapshot_notes (snap : ProxmoxVolumeSnapshot) :
    (releaseSnapshot snap).run.Uses snapshotNotes :=
  uses_try_bind (uses_need trivial) (fun _ => trivial)

theorem copyFrom_uses (r : Snapshotter) (snap : ProxmoxVolumeSnapshot) (t : TenantCluster)
    (vol : ProxmoxVolume) (src : Volume) : (copyFrom r snap t vol src).run.Uses snapshotCalls := by
  have hh : (holdSnapshot snap t).run.Uses snapshotCalls := by
    unfold holdSnapshot
    split
    · trivial
    · exact uses_try_bind (uses_need trivial) (fun _ => trivial)
  refine uses_try_bind hh ?_
  intro snap'
  exact uses_either (uses_ask trivial)
    (fun _ => uses_mono (settledSnapshot_notes _ _) snapshotNotes_calls)
      (fun _ => uses_mono (reportedSnapshot_notes _ _ _) snapshotNotes_calls)

theorem snapshotFor_uses (r : Snapshotter) (snap : ProxmoxVolumeSnapshot) (t : TenantCluster)
    (vol : ProxmoxVolume) : (snapshotFor r snap t vol).run.Uses snapshotCalls := by
  have hcheck : (checkStorageForSnapshot vol.spec.region vol.spec.storage).run.Uses snapshotCalls := by
    exact uses_either (uses_ask ⟨rfl,rfl⟩) (fun _ => trivial) (fun _ => trivial)
  refine uses_try_bind hcheck ?_
  intro text
  cases text with
  | some text => exact uses_mono (settledSnapshot_notes _ _) snapshotNotes_calls
  | none =>
    dsimp only
    split
    · exact uses_mono (settledSnapshot_notes _ _) snapshotNotes_calls
    · exact copyFrom_uses r snap t vol _

/-- Taking a snapshot, from what is done for a tenant that is not refused. -/
theorem snapshotOf_uses {ok : OpCall → Prop} (r : Snapshotter) (snap : ProxmoxVolumeSnapshot)
    (vol : ProxmoxVolume) (hok : ∀ c, snapshotNotes c → ok c)
    (ht : ∀ t, snapshotRefusal t vol = none → (snapshotFor r snap t vol).run.Uses ok) :
    (snapshotOf r snap vol).run.Uses ok := by
  refine uses_try_bind (uses_tenant (hok _ ⟨rfl,rfl⟩)) ?_
  intro t
  cases t with
  | none => exact uses_mono (settledSnapshot_notes _ _) hok
  | some t =>
    dsimp only
    split
    · exact uses_mono (settledSnapshot_notes _ _) hok
    · rename_i hr
      exact ht t hr

theorem deleteSnapshotDisk_uses (r : Snapshotter) (snap : ProxmoxVolumeSnapshot) (disk : Volume) :
    (deleteSnapshotDisk r snap disk).run.Uses snapshotCalls := by
  refine uses_either (uses_ask trivial)
    (fun _ => uses_mono (releaseSnapshot_notes snap) snapshotNotes_calls) (fun _ => ?_)
  show Uses _ (ite _ _ _ : P Result).run
  split
  · exact uses_mono (releaseSnapshot_notes snap) snapshotNotes_calls
  · exact uses_mono (reportedSnapshot_notes _ _ _) snapshotNotes_calls

theorem reconcileSnapshot_uses (r : Snapshotter) (snap : ProxmoxVolumeSnapshot) :
    (reconcileSnapshot r snap).run.Uses snapshotCalls := by
  unfold reconcileSnapshot
  split
  · unfold SnapshotReconciler.reconcileDelete
    split
    · trivial
    · split
      · exact uses_mono (releaseSnapshot_notes snap) snapshotNotes_calls
      · split
        · exact uses_try_bind (uses_need trivial) (fun _ => trivial)
        · exact deleteSnapshotDisk_uses r snap _
  · unfold SnapshotReconciler.reconcileCreate
    split
    · trivial
    · refine uses_either (uses_ask ⟨rfl,rfl⟩) (fun vol => ?_)
        (fun _ => uses_mono (settledSnapshot_notes _ _) snapshotNotes_calls)
      refine uses_if (uses_mono (settledSnapshot_notes _ _) snapshotNotes_calls) ?_
      exact snapshotOf_uses r snap vol snapshotNotes_calls
        (fun t _ => snapshotFor_uses r snap t vol)

theorem snapshot_uses (r : Snapshotter) (ns name : String) :
    (SnapshotReconciler.reconcile r ns name).run.Uses snapshotCalls := by
  exact uses_either (uses_ask ⟨rfl,rfl⟩) (fun snap => reconcileSnapshot_uses r snap)
    (fun e => uses_unread e)

end Snapshots

section Attachments
open AttachmentReconciler

def attachmentNotes : OpCall → Prop
  | .now => False
  | .updateAttachment _ | .updateAttachmentStatus _ => True
  | c => part c = .nothing ∧ isWriter c = false

def attachmentCalls : OpCall → Prop
  | .now => False
  | .updateAttachment _ | .updateAttachmentStatus _ | .updateStatus _ | .renameDisk _ _ _
  | .attachDisk _ _ _ _ | .detachDisk _ _ _ | .clearUnusedDisk _ _ _ => True
  | c => part c = .nothing ∧ isWriter c = false

theorem attachmentNotes_calls (c : OpCall) (h : attachmentNotes c) : attachmentCalls c := by
  cases c <;> trivial

theorem settledAttachment_notes (att : ProxmoxVolumeAttachment) (result : Result) :
    (settled att result).run.Uses attachmentNotes :=
  uses_try_bind (uses_need trivial) (fun _ => trivial)

theorem reportedAttachment_notes (att : ProxmoxVolumeAttachment) (result : Result)
    (cause : String) : (reported att result cause).run.Uses attachmentNotes := by
  exact uses_either (uses_ask trivial) (fun _ => trivial) (fun _ => trivial)

variable {ok : OpCall → Prop}

theorem locked_uses {α : Type} {region : String} {vmid : ℤ} {x : P α}
    (hok : ∀ c, attachmentNotes c → ok c) (hx : x.run.Uses ok) :
    (locked region vmid x).run.Uses ok := by
  refine uses_try_bind (uses_ask (hok _ ⟨rfl,rfl⟩)) ?_
  intro _
  exact uses_deferred (uses_bind ⟨hok _ ⟨rfl,rfl⟩,fun _ => trivial⟩ (fun _ => trivial)) hx

section Plug

variable {ok : OpCall → Prop} (hok : ∀ c, attachmentNotes c → ok c)
  (hrename : ∀ region disk target, ok (.renameDisk region disk target))
  (hstatus : ∀ vol, ok (.updateStatus vol))

include hrename hstatus

theorem reassigned_uses (r : Attacher) (att : ProxmoxVolumeAttachment) (vol : ProxmoxVolume)
    (disk : Volume) : (reassigned r att vol disk).run.Uses ok := by
  unfold reassigned
  split
  · exact uses_either (uses_ask (hrename _ _ _))
      (fun _ => uses_try_bind (uses_ask (hstatus _)) (fun _ => trivial)) (fun _ => trivial)
  · trivial

include hok

/-- A disk is plugged into the VM of the attachment. -/
theorem attachLocked_uses (r : Attacher) {att : ProxmoxVolumeAttachment} (vol : ProxmoxVolume)
    (disk : Volume) (hattach : ∀ region disk options, ok (.attachDisk region att.vmid disk options)) :
    (attachLocked r att vol disk).run.Uses ok := by
  refine uses_try_bind (reassigned_uses hrename hstatus r att vol disk) ?_
  intro disk'
  split
  · exact uses_mono (settledAttachment_notes _ _) hok
  · exact uses_either (uses_ask (hattach _ _ _))
      (fun _ => uses_mono (settledAttachment_notes _ _) hok)
        (fun _ => uses_mono (settledAttachment_notes _ _) hok)

theorem attachHeld_uses (r : Attacher) {att : ProxmoxVolumeAttachment} (vol : ProxmoxVolume)
    (hattach : ∀ region disk options, ok (.attachDisk region att.vmid disk options)) :
    (attachHeld r att vol).run.Uses ok := by
  unfold attachHeld
  split
  · exact uses_mono (settledAttachment_notes _ _) hok
  · exact locked_uses hok (attachLocked_uses hok hrename hstatus r vol _ hattach)

end Plug

theorem attachFor_uses (r : Attacher) (att : ProxmoxVolumeAttachment) (vol : ProxmoxVolume)
    (t : TenantCluster) : (attachFor r att vol t).run.Uses attachmentCalls := by
  unfold attachFor
  split
  · exact uses_mono (settledAttachment_notes _ _) attachmentNotes_calls
  · have hh : (holdAttachment att t).run.Uses attachmentCalls := by
      unfold holdAttachment
      split
      · trivial
      · exact uses_need trivial
    exact uses_try_bind hh (fun att => attachHeld_uses attachmentNotes_calls (fun _ _ _ => trivial)
      (fun _ => trivial) r vol (fun _ _ _ => trivial))

/-- Attaching, from what is done for a tenant. -/
theorem reconcileAttach_uses (r : Attacher) (att : ProxmoxVolumeAttachment)
    (hok : ∀ c, attachmentNotes c → ok c) (ht : ∀ vol t, (attachFor r att vol t).run.Uses ok) :
    (reconcileAttach r att).run.Uses ok := by
  unfold reconcileAttach
  split
  · trivial
  · refine uses_either (uses_ask (hok _ ⟨rfl,rfl⟩)) (fun vol => ?_)
      (fun _ => uses_mono (settledAttachment_notes _ _) hok)
    show Uses _ (attachVolumeOf r att vol).run
    unfold attachVolumeOf
    split
    · exact uses_mono (settledAttachment_notes _ _) hok
    · split
      · exact uses_mono (settledAttachment_notes _ _) hok
      · refine uses_try_bind (uses_tenant (hok _ ⟨rfl,rfl⟩)) ?_
        intro t
        cases t with
        | none => exact uses_mono (settledAttachment_notes _ _) hok
        | some t => exact ht vol t

theorem release_notes (att : ProxmoxVolumeAttachment) (pre : String) :
    (need (.updateAttachment (releasedAttachment att)) pre >>=
      fun _ => pure (⟨0⟩ : Result)).run.Uses attachmentNotes :=
  uses_try_bind (uses_need trivial) (fun _ => trivial)

theorem renamedBack_uses (hok : ∀ c, attachmentNotes c → ok c)
    (hrename : ∀ region disk target, ok (.renameDisk region disk target))
    (hclear : ∀ region vmid disk, ok (.clearUnusedDisk region vmid disk))
    (hstatus : ∀ vol, ok (.updateStatus vol)) (r : Attacher) (att : ProxmoxVolumeAttachment)
    (vol : ProxmoxVolume) (disk : Volume) : (renamedBack r att vol disk).run.Uses ok := by
  unfold renamedBack
  split
  · have hp : (placeholder att.ns).run.Uses ok := by
      refine uses_try_bind (uses_observed (uses_tenant (hok _ ⟨rfl,rfl⟩))) ?_
      intro answer
      split
      · trivial
      · trivial
    refine uses_try_bind hp ?_
    intro target
    refine uses_if ?_ trivial
    refine uses_either (uses_ask (hrename _ _ _)) (fun _ => ?_) (fun _ => trivial)
    refine uses_try_bind (uses_ask (hclear _ _ _)) ?_
    intro _
    exact uses_try_bind (uses_ask (hstatus _)) (fun _ => trivial)
  · trivial

/-- Detaching, from what follows a disk that was unplugged. -/
theorem reconcileDetach_uses (r : Attacher) (att : ProxmoxVolumeAttachment)
    (hok : ∀ c, attachmentNotes c → ok c) (hd : ∀ region vol, ok (.detachDisk region att.vmid vol))
    (hb : ∀ vol disk, (renamedBack r att vol disk).run.Uses ok) :
    (reconcileDetach r att).run.Uses ok := by
  unfold reconcileDetach
  split
  · trivial
  · refine uses_either (uses_ask (hok _ ⟨rfl,rfl⟩)) (fun vol => ?_)
      (fun _ => uses_mono (release_notes att _) hok)
    show Uses _ (detachFrom r att vol).run
    unfold detachFrom
    split
    · exact uses_mono (release_notes att _) hok
    · split
      · exact uses_mono (release_notes att _) hok
      · refine locked_uses hok ?_
        refine uses_either (uses_ask (hd _ _)) (fun _ => ?_)
          (fun _ => uses_mono (reportedAttachment_notes _ _ _) hok)
        refine uses_try_bind (hb _ _) ?_
        intro _
        exact uses_mono (release_notes att _) hok

theorem reconcileAttachment_uses (r : Attacher) (att : ProxmoxVolumeAttachment) :
    (reconcileAttachment r att).run.Uses attachmentCalls := by
  unfold reconcileAttachment
  split
  · exact reconcileDetach_uses r att attachmentNotes_calls (fun _ _ => trivial)
      (renamedBack_uses attachmentNotes_calls (fun _ _ _ => trivial) (fun _ _ _ => trivial)
        (fun _ => trivial) r att)
  · exact reconcileAttach_uses r att attachmentNotes_calls (attachFor_uses r att)

theorem attachment_uses (r : Attacher) (ns name : String) :
    (AttachmentReconciler.reconcile r ns name).run.Uses attachmentCalls := by
  exact uses_either (uses_ask ⟨rfl,rfl⟩) (fun att => reconcileAttachment_uses r att)
    (fun e => uses_unread e)

end Attachments

end ProxmoxCSI.PassFootprints
