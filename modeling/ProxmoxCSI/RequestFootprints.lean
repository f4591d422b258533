import ProxmoxCSI.VolumeService
import ProxmoxCSI.RecordWrites

/-!
# The calls of the requests

Which calls a request of the volume API can make, whatever the answers: requests
that create and delete records touch only those, requests about attachments
touch only attachments, and nothing but a reconcile touches a disk.
-/

set_option autoImplicit false

namespace ProxmoxCSI.RequestFootprints
open CallProgram CallProgram.Prog CallErrors OperatorRecords RecordWrites VolumeReconciler
open VolumeService

section Volumes

def aside (c : OpCall) : Prop := (part c = .nothing ∨ part c = .attachments) ∧ isWriter c = false

def removals : OpCall → Prop
  | .deleteVolume _ _ => True
  | c => aside c

def creations (t : Option TenantCluster) (req : CreateVolumeRequest) : OpCall → Prop
  | .createVolume vol => ∃ t', t = some t' ∧ vol = newRecord t' req
  | c => removals c

theorem aside_part {c : OpCall} {p : RecordWrites.Part} (h : aside c) (hn : p ≠ .nothing)
    (ha : p ≠ .attachments) : part c ≠ p := by
  rcases h.1 with hc | hc
  · exact hc ▸ hn.symm
  · exact hc ▸ ha.symm

theorem removals_cases {c : OpCall} (h : removals c) :
    (∃ ns name, c = .deleteVolume ns name) ∨ aside c := by
  cases c with
  | deleteVolume ns name => exact .inl ⟨ns,name,rfl⟩
  | _ => exact .inr h

theorem removals_creations {t : Option TenantCluster} {req : CreateVolumeRequest} {c : OpCall}
    (h : removals c) : creations t req c := by
  cases c with
  | createVolume vol => simp [removals, aside, part] at h
  | _ => exact h

theorem createRecord_uses (t : TenantCluster) (req : CreateVolumeRequest) :
    (createRecord t req).run.Uses (creations (some t) req) := by
  exact uses_either (uses_inquire ⟨t,rfl,rfl⟩) (fun _ => trivial)
    (fun _ => uses_if (uses_demand ⟨.inl rfl,rfl⟩) trivial)

theorem ensureRecord_uses (t : TenantCluster) (req : CreateVolumeRequest) :
    (ensureRecord t req).run.Uses (creations (some t) req) := by
  exact uses_either (uses_inquire ⟨.inl rfl,rfl⟩) (fun _ => uses_if trivial trivial)
    (fun _ => uses_if (createRecord_uses t req) trivial)

theorem failedVolume_uses (vol : ProxmoxVolume) : (failedVolume vol).run.Uses removals := by
  unfold failedVolume
  split
  · trivial
  · exact uses_either (uses_inquire trivial) (fun _ => trivial) (fun _ => uses_if trivial trivial)

theorem volumeAnswer_uses (s : Service) (vol : ProxmoxVolume) :
    (volumeAnswer s vol).run.Uses removals := by
  unfold volumeAnswer
  split
  · unfold readyVolume
    split
    · trivial
    · trivial
  · trivial
  · exact failedVolume_uses vol
  · trivial

theorem createVolume_uses (s : Service) (t : Option TenantCluster) (req : CreateVolumeRequest) :
    (createVolume s t req).run.Uses (creations t req) := by
  refine uses_try_bind uses_given (fun _ => uses_try_bind uses_require (fun _ => ?_))
  refine uses_try_bind uses_given (fun _ => uses_try_bind uses_given (fun _ => ?_))
  cases t with
  | none => trivial
  | some t =>
    refine uses_try_bind (ensureRecord_uses t req) (fun vol => ?_)
    exact uses_mono (volumeAnswer_uses s vol) (fun _ => removals_creations)

theorem createVolume_positive (s : Service) (t : Option TenantCluster) (req : CreateVolumeRequest) :
    (createVolume s t req).run.Uses (fun _ => 0 < req.capacityBytes) :=
  uses_try_bind uses_given (fun _ => uses_checked (fun h => uses_mono (uses_any _) (fun _ _ => h)))

theorem deletionOf_uses (ns name : String) : (deletionOf ns name).run.Uses removals := by
  exact uses_either (uses_inquire ⟨.inl rfl,rfl⟩) (fun _ => trivial)
    (fun _ => uses_if trivial trivial)

theorem deleteRecord_uses (vol : ProxmoxVolume) : (deleteRecord vol).run.Uses removals := by
  unfold deleteRecord
  split
  · exact deletionOf_uses vol.ns vol.name
  · refine uses_either (uses_inquire trivial) (fun _ => deletionOf_uses vol.ns vol.name)
      (fun _ => ?_)
    exact uses_if trivial trivial

theorem deleteVolume_uses (t : Option TenantCluster) (volumeID : String) :
    (deleteVolume t volumeID).run.Uses removals := by
  refine uses_try_bind uses_given (fun _ => uses_withTenant (fun t => ?_))
  refine uses_try_bind (uses_demand ⟨.inl rfl,rfl⟩) ?_
  intro vols
  cases vols with
  | nil => trivial
  | cons vol rest => exact deleteRecord_uses vol

end Volumes

section Attachments

theorem aside_removals {c : OpCall} (h : aside c) : removals c := by
  cases c with
  | deleteVolume ns name => trivial
  | _ => exact h

theorem readyVolumeByID_uses (ns volumeID : String) :
    (readyVolumeByID ns volumeID).run.Uses aside := by
  refine uses_try_bind (uses_try_bind (uses_demand ⟨.inl rfl,rfl⟩) ?_)
    (fun _ => uses_try_bind uses_require (fun _ => trivial))
  intro vols
  cases vols with
  | nil => trivial
  | cons vol rest => trivial

theorem resolveVMID_uses (s : Service) (t : TenantCluster) (nodeID : String) (vmid : ℤ) :
    (resolveVMID s t nodeID vmid).run.Uses aside := by
  have hown : ∀ id source, (ownVMID t id source).run.Uses aside := fun _ _ =>
    uses_try_bind uses_require (fun _ => trivial)
  unfold resolveVMID
  split
  · exact hown _ _
  · split
    · trivial
    · split
      · exact hown _ _
      · unfold resolveVMIDByName
        split
        · trivial
        · refine uses_try_bind (uses_demand ⟨.inl rfl,rfl⟩) ?_
          intro vms
          unfold chosenVMID
          split
          · trivial
          · trivial
          · trivial

theorem ensureAttachment_uses (att : ProxmoxVolumeAttachment) :
    (ensureAttachment att).run.Uses aside := by
  refine uses_either (uses_inquire ⟨.inl rfl,rfl⟩) (fun _ => trivial) (fun e => ?_)
  refine uses_if ?_ trivial
  exact uses_either (uses_inquire ⟨.inr rfl,rfl⟩) (fun _ => trivial)
    (fun _ => uses_if (uses_demand ⟨.inl rfl,rfl⟩) trivial)

theorem refusedAttachment_uses (att : ProxmoxVolumeAttachment) (message : String) :
    (refusedAttachment att message).run.Uses aside := by
  unfold refusedAttachment
  split
  · trivial
  · exact uses_either (uses_inquire ⟨.inr rfl,rfl⟩) (fun _ => trivial)
      (fun _ => uses_if trivial trivial)

theorem attachmentAnswer_uses (req : AttachVolumeRequest) (vol : ProxmoxVolume) (vmid : ℤ)
    (att : ProxmoxVolumeAttachment) : (attachmentAnswer req vol vmid att).run.Uses aside := by
  refine uses_try_bind uses_require (fun _ => ?_)
  refine uses_if trivial ?_
  unfold unattached
  split
  · trivial
  · split
    · trivial
    · exact refusedAttachment_uses att _

theorem attachVolume_uses (s : Service) (t : Option TenantCluster) (req : AttachVolumeRequest) :
    (attachVolume s t req).run.Uses aside := by
  refine uses_try_bind uses_given (fun _ => uses_try_bind uses_given (fun _ => ?_))
  refine uses_withTenant (fun t => uses_try_bind (readyVolumeByID_uses _ _) (fun vol => ?_))
  refine uses_try_bind (resolveVMID_uses s t _ _) (fun vmid => ?_)
  exact uses_try_bind (ensureAttachment_uses _) (fun att => attachmentAnswer_uses req vol vmid att)

theorem detachmentOf_uses (ns name volumeID : String) :
    (detachmentOf ns name volumeID).run.Uses aside := by
  exact uses_either (uses_inquire ⟨.inl rfl,rfl⟩) (fun _ => trivial)
    (fun _ => uses_if trivial trivial)

theorem deleteAttachment_uses (att : ProxmoxVolumeAttachment) (volumeID : String) :
    (deleteAttachment att volumeID).run.Uses aside := by
  unfold deleteAttachment
  split
  · exact detachmentOf_uses _ _ _
  · refine uses_either (uses_inquire ⟨.inr rfl,rfl⟩) (fun _ => detachmentOf_uses _ _ _)
      (fun _ => ?_)
    exact uses_if trivial trivial

theorem detachVolume_uses (s : Service) (t : Option TenantCluster) (volumeID nodeID : String) :
    (detachVolume s t volumeID nodeID).run.Uses aside := by
  refine uses_try_bind uses_given (fun _ => uses_try_bind uses_given (fun _ => ?_))
  refine uses_withTenant (fun t => uses_try_bind (uses_inquire ⟨.inl rfl,rfl⟩) ?_)
  intro r
  cases r with
  | ok att => exact deleteAttachment_uses att volumeID
  | error e =>
    exact uses_if trivial trivial

end Attachments

section Snapshots

def snapshotRequests : OpCall → Prop
  | .createSnapshot _ => True
  | .deleteSnapshot _ _ => True
  | c => part c = .nothing ∧ isWriter c = false

theorem sourceVolume_uses (ns name : String) :
    (sourceVolume ns name).run.Uses snapshotRequests := by
  refine uses_either (uses_inquire ⟨rfl,rfl⟩) (fun _ => uses_try_bind uses_require
    (fun _ => trivial)) (fun _ => ?_)
  exact uses_if trivial trivial

theorem createSnapshotRecord_uses (t : TenantCluster) (req : CreateSnapshotRequest)
    (storage : String) : (createSnapshotRecord t req storage).run.Uses snapshotRequests := by
  exact uses_either (uses_inquire trivial) (fun _ => trivial)
    (fun _ => uses_if (uses_demand ⟨rfl,rfl⟩) trivial)

theorem ensureSnapshot_uses (t : TenantCluster) (req : CreateSnapshotRequest) (storage : String) :
    (ensureSnapshot t req storage).run.Uses snapshotRequests := by
  exact uses_either (uses_inquire ⟨rfl,rfl⟩) (fun _ => uses_if trivial trivial)
    (fun _ => uses_if (createSnapshotRecord_uses t req storage) trivial)

theorem failedSnapshot_uses (snap : ProxmoxVolumeSnapshot) (message : String) :
    (failedSnapshot snap message).run.Uses snapshotRequests := by
  unfold failedSnapshot
  split
  · trivial
  · exact uses_either (uses_inquire trivial) (fun _ => trivial) (fun _ => uses_if trivial trivial)

theorem snapshotAnswer_uses (snap : ProxmoxVolumeSnapshot) :
    (snapshotAnswer snap).run.Uses snapshotRequests := by
  unfold snapshotAnswer
  split
  · trivial
  · split
    · trivial
    · split
      · exact failedSnapshot_uses snap _
      · trivial

theorem createSnapshot_uses (t : Option TenantCluster) (req : CreateSnapshotRequest) :
    (createSnapshot t req).run.Uses snapshotRequests := by
  refine uses_try_bind uses_given (fun _ => uses_try_bind uses_given (fun _ => ?_))
  refine uses_withTenant (fun t => ?_)
  refine uses_try_bind (sourceVolume_uses t.ns req.sourceVolumeName) (fun vol => ?_)
  exact uses_try_bind (ensureSnapshot_uses t req vol.spec.storage) (fun s => snapshotAnswer_uses s)

theorem snapshotDeletion_uses (ns name : String) :
    (snapshotDeletion ns name).run.Uses snapshotRequests := by
  exact uses_either (uses_inquire ⟨rfl,rfl⟩) (fun _ => trivial) (fun _ => uses_if trivial trivial)

theorem deleteSnapshotRecord_uses (snap : ProxmoxVolumeSnapshot) :
    (deleteSnapshotRecord snap).run.Uses snapshotRequests := by
  unfold deleteSnapshotRecord
  split
  · exact snapshotDeletion_uses snap.ns snap.name
  · refine uses_either (uses_inquire trivial)
      (fun _ => snapshotDeletion_uses snap.ns snap.name) (fun _ => ?_)
    exact uses_if trivial trivial

theorem deleteSnapshot_uses (t : Option TenantCluster) (snapshotID : String) :
    (deleteSnapshot t snapshotID).run.Uses snapshotRequests := by
  refine uses_try_bind uses_given (fun _ => uses_withTenant (fun t => ?_))
  refine uses_try_bind (uses_demand ⟨rfl,rfl⟩) ?_
  intro snaps
  cases snaps with
  | nil => trivial
  | cons snap rest => exact deleteSnapshotRecord_uses snap

end Snapshots

end ProxmoxCSI.RequestFootprints
