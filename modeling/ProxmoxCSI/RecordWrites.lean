import ProxmoxCSI.OperatorRecords

/-!
# What the calls do to the records

Every call works on one part of the ledger and leaves the others alone. What is
found after a write was there before, or is the record that was written; a
write has an effect only on the object it was made for.
-/

set_option autoImplicit false

namespace ProxmoxCSI.RecordWrites
open CallProgram CallSessions VolumeHandle OperatorRecords ObjectStore

inductive Part where
  | nothing | tenants | volumes | snapshots | attachments | disks | machines
  deriving DecidableEq, Repr

def part : OpCall → Part
  | .createTenant _ | .deleteTenant _ | .updateTenant _ | .updateTenantStatus _ => .tenants
  | .createVolume _ | .deleteVolume _ _ | .update _ | .updateStatus _ => .volumes
  | .createSnapshot _ | .deleteSnapshot _ _ | .updateSnapshot _ | .updateSnapshotStatus _ =>
      .snapshots
  | .createAttachment _ | .deleteAttachment _ _ | .updateAttachment _
  | .updateAttachmentStatus _ => .attachments
  | .createDisk _ _ _ _ _ | .copyDisk _ _ _ _ _ _ _ | .deleteDisk _ _ _ _ | .renameDisk _ _ _ =>
      .disks
  | .attachDisk _ _ _ _ | .detachDisk _ _ _ => .machines
  | _ => .nothing

variable {c : OpCall} {l l' : Ledger} {r : OpReply c}

section Frame

def isWriter : OpCall → Bool
  | .createDisk _ _ _ _ _ | .copyDisk _ _ _ _ _ _ _ | .deleteDisk _ _ _ _ | .renameDisk _ _ _ => true
  | .attachDisk _ _ _ _ | .detachDisk _ _ _ | .clearUnusedDisk _ _ _ => true
  | .resizeDisk _ _ _ _ _ | .updateDisk _ _ _ _ => true
  | _ => false

/-- The parts of the ledger that are left alone. -/
structure Kept (p : Part) (l l' : Ledger) : Prop where
  volumes : p ≠ .volumes → l'.volumes = l.volumes
  snapshots : p ≠ .snapshots → l'.snapshots = l.snapshots
  attachments : p ≠ .attachments → l'.attachments = l.attachments
  disks : p ≠ .disks → l'.disks = l.disks
  vms : p ≠ .machines → l'.vms = l.vms
  tenants : p ≠ .tenants → l'.tenants = l.tenants
  storages : l'.storages = l.storages
  clock : l'.clock = l.clock

theorem kept_refl (p : Part) (l : Ledger) : Kept p l l :=
  ⟨fun _ => rfl,fun _ => rfl,fun _ => rfl,fun _ => rfl,fun _ => rfl,fun _ => rfl,rfl,rfl⟩

theorem kept_tenants {ts : List TenantCluster} {n : ℕ} :
    Kept .tenants l { l with tenants := ts, serial := n } :=
  ⟨fun _ => rfl,fun _ => rfl,fun _ => rfl,fun _ => rfl,fun _ => rfl,fun h => absurd rfl h,rfl,rfl⟩

theorem kept_volumes {vs : List ProxmoxVolume} {n : ℕ} :
    Kept .volumes l { l with volumes := vs, serial := n } :=
  ⟨fun h => absurd rfl h,fun _ => rfl,fun _ => rfl,fun _ => rfl,fun _ => rfl,fun _ => rfl,rfl,rfl⟩

theorem kept_snapshots {ss : List ProxmoxVolumeSnapshot} {n : ℕ} :
    Kept .snapshots l { l with snapshots := ss, serial := n } :=
  ⟨fun _ => rfl,fun h => absurd rfl h,fun _ => rfl,fun _ => rfl,fun _ => rfl,fun _ => rfl,rfl,rfl⟩

theorem kept_attachments {as : List ProxmoxVolumeAttachment} {n : ℕ} :
    Kept .attachments l { l with attachments := as, serial := n } :=
  ⟨fun _ => rfl,fun _ => rfl,fun h => absurd rfl h,fun _ => rfl,fun _ => rfl,fun _ => rfl,rfl,rfl⟩

theorem kept_disks {ds : List ListedDisk} : Kept .disks l { l with disks := ds } :=
  ⟨fun _ => rfl,fun _ => rfl,fun _ => rfl,fun h => absurd rfl h,fun _ => rfl,fun _ => rfl,rfl,rfl⟩

theorem kept_vms {vms : VMConfigs.VMs} : Kept .machines l { l with vms := vms } :=
  ⟨fun _ => rfl,fun _ => rfl,fun _ => rfl,fun _ => rfl,fun h => absurd rfl h,fun _ => rfl,rfl,rfl⟩

theorem answer_kept (c : OpCall) (l : Ledger) : Kept (part c) l (answer l c).2 := by
  cases c with
  | createTenant t =>
    simp only [answer, Ledger.createTenant]
    split
    · exact kept_refl _ l
    · exact kept_tenants
  | deleteTenant name =>
    simp only [answer, Ledger.deleteTenant]
    split
    · exact kept_refl _ l
    · exact kept_tenants
  | updateTenant t =>
    simp only [answer, Ledger.putTenant]
    split
    · exact kept_refl _ l
    · split
      · exact kept_refl _ l
      · exact kept_tenants
  | updateTenantStatus t =>
    simp only [answer, Ledger.putTenant]
    split
    · exact kept_refl _ l
    · split
      · exact kept_refl _ l
      · exact kept_tenants
  | createVolume vol =>
    simp only [answer, Ledger.createVolume]
    split
    · exact kept_refl _ l
    · exact kept_volumes
  | deleteVolume ns name =>
    simp only [answer, Ledger.deleteVolume]
    split
    · exact kept_refl _ l
    · exact kept_volumes
  | update vol =>
    simp only [answer, Ledger.putVolume]
    split
    · exact kept_refl _ l
    · split
      · exact kept_refl _ l
      · exact kept_volumes
  | updateStatus vol =>
    simp only [answer, Ledger.putVolume]
    split
    · exact kept_refl _ l
    · split
      · exact kept_refl _ l
      · exact kept_volumes
  | createSnapshot snap =>
    simp only [answer, Ledger.createSnapshot]
    split
    · exact kept_refl _ l
    · exact kept_snapshots
  | deleteSnapshot ns name =>
    simp only [answer, Ledger.deleteSnapshot]
    split
    · exact kept_refl _ l
    · exact kept_snapshots
  | updateSnapshot snap =>
    simp only [answer, Ledger.putSnapshot]
    split
    · exact kept_refl _ l
    · split
      · exact kept_refl _ l
      · exact kept_snapshots
  | updateSnapshotStatus snap =>
    simp only [answer, Ledger.putSnapshot]
    split
    · exact kept_refl _ l
    · split
      · exact kept_refl _ l
      · exact kept_snapshots
  | createAttachment att =>
    simp only [answer, Ledger.createAttachment]
    split
    · exact kept_refl _ l
    · exact kept_attachments
  | deleteAttachment ns name =>
    simp only [answer, Ledger.deleteAttachment]
    split
    · exact kept_refl _ l
    · exact kept_attachments
  | updateAttachment att =>
    simp only [answer, Ledger.putAttachment]
    split
    · exact kept_refl _ l
    · split
      · exact kept_refl _ l
      · exact kept_attachments
  | updateAttachmentStatus att =>
    simp only [answer, Ledger.putAttachment]
    split
    · exact kept_refl _ l
    · split
      · exact kept_refl _ l
      · exact kept_attachments
  | createDisk region zone storage name size =>
    simp only [answer, Ledger.createDisk]
    split
    · exact kept_refl _ l
    · split
      · exact kept_refl _ l
      · exact kept_disks
  | copyDisk region zone storage name dstZone dstStorage dstDisk =>
    simp only [answer, Ledger.copyDisk]
    split
    · exact kept_refl _ l
    · split
      · exact kept_refl _ l
      · split
        · exact kept_disks
        · exact kept_refl _ l
  | deleteDisk region zone storage name =>
    simp only [answer, Ledger.deleteDisk]
    split
    · exact kept_refl _ l
    · split
      · exact kept_refl _ l
      · exact kept_disks
  | renameDisk region vol targetVMID =>
    simp only [answer, Ledger.renameDisk]
    split
    · exact kept_refl _ l
    · split
      · exact kept_refl _ l
      · split
        · exact kept_refl _ l
        · exact kept_disks
  | attachDisk region vmid vol options => exact kept_vms
  | detachDisk region vmid vol => exact kept_vms
  | _ => exact kept_refl _ l

theorem outcome_kept (ho : OpOutcome c l r l') : Kept (part c) l l' := by
  cases ho with
  | served => exact answer_kept c l
  | refused => exact kept_refl _ l
  | lost => exact answer_kept c l
  | partly => exact kept_disks
  | attached => exact kept_vms
  | attachStopped => exact kept_vms
  | detached => exact kept_vms
  | detachStopped => exact kept_vms

end Frame

section Reads

theorem outcome_reads (hc : part c = .nothing) (ho : OpOutcome c l r l') :
    l' = l ∧ (r = (answer l c).1 ∨ ∃ e, Passing e ∧ r = .error e) := by
  have ha : (answer l c).2 = l := by
    cases c <;> first | rfl | cases hc
  cases ho with
  | served => exact ⟨ha,.inl rfl⟩
  | refused _ _ e he => exact ⟨rfl,.inr ⟨e,he,rfl⟩⟩
  | lost _ _ e he => exact ⟨ha,.inr ⟨e,he,rfl⟩⟩
  | partly => cases hc
  | attached => cases hc
  | attachStopped => cases hc
  | detached => cases hc
  | detachStopped => cases hc

/-- A call on the records was answered, refused, or answered by an error only. -/
theorem outcome_record (hc : part c ≠ .nothing ∧ part c ≠ .disks ∧ part c ≠ .machines)
    (ho : OpOutcome c l r l') : l' = l ∧ (∃ e, Passing e ∧ r = .error e) ∨
      l' = (answer l c).2 ∧ (r = (answer l c).1 ∨ ∃ e, Passing e ∧ r = .error e) := by
  cases ho with
  | served => exact .inr ⟨rfl,.inl rfl⟩
  | refused _ _ e he => exact .inl ⟨rfl,e,he,rfl⟩
  | lost _ _ e he => exact .inr ⟨rfl,.inr ⟨e,he,rfl⟩⟩
  | partly => simp [part] at hc
  | attached => simp [part] at hc
  | attachStopped => simp [part] at hc
  | detached => simp [part] at hc
  | detachStopped => simp [part] at hc

theorem foundOr_ok {α : Type} {name : String} {o : Option α} {r : Except Fault α} {a : α}
    (hr : r = foundOr name o ∨ ∃ e, Passing e ∧ r = .error e) (h : r = .ok a) : o = some a := by
  subst h
  rcases hr with hr | ⟨e,_,hr⟩
  · cases o with
    | none => cases hr
    | some b =>
      cases hr
      rfl
  · cases hr

theorem reads_ok (hc : part c = .nothing) (ho : OpOutcome c l r l') {a : OpAnswer c}
    (hr : r = .ok a) : (answer l c).1 = .ok a := by
  rcases (outcome_reads hc ho).2 with ha | ⟨e,_,ha⟩
  · exact ha.symm.trans hr
  · cases ha.symm.trans hr

theorem read_tenants {r : OpReply .listTenants} (ho : OpOutcome .listTenants l r l')
    {ts : List TenantCluster} (hr : r = .ok ts) : ts = l.tenants := by
  cases reads_ok rfl ho hr
  rfl

section Stored

variable {ns name : String}

theorem read_volume {r : OpReply (.getVolume ns name)} (ho : OpOutcome (.getVolume ns name) l r l')
    {v : ProxmoxVolume} (hr : r = .ok v) : l.lookupVolume ns name = some v ∧ v.ns = ns := by
  have hl := foundOr_ok (outcome_reads rfl ho).2 hr
  exact ⟨hl,congrArg Prod.fst (find_some hl).2⟩

theorem read_snapshot {r : OpReply (.getSnapshot ns name)}
    (ho : OpOutcome (.getSnapshot ns name) l r l') {s : ProxmoxVolumeSnapshot} (hr : r = .ok s) :
    l.lookupSnapshot ns name = some s ∧ s.ns = ns := by
  have hl := foundOr_ok (outcome_reads rfl ho).2 hr
  exact ⟨hl,congrArg Prod.fst (find_some hl).2⟩

theorem read_attachment {r : OpReply (.getAttachment ns name)}
    (ho : OpOutcome (.getAttachment ns name) l r l') {a : ProxmoxVolumeAttachment}
    (hr : r = .ok a) : l.lookupAttachment ns name = some a ∧ a.ns = ns := by
  have hl := foundOr_ok (outcome_reads rfl ho).2 hr
  exact ⟨hl,congrArg Prod.fst (find_some hl).2⟩

end Stored

end Reads

section Tenants

variable {name : String} {t t' : TenantCluster} {f : TenantCluster → TenantCluster}

/-- A write, answered or not, changed the object it was made for or nothing. -/
theorem putTenant_lookup (hf : ∀ u, u.name = t.name → (f u).name = t.name)
    (h : (l.putTenant t f).2.lookupTenant name = some t') :
    l.lookupTenant name = some t' ∧ (name = t.name → ∃ e, (l.putTenant t f).1 = .error e) ∨
      name = t.name ∧ ∃ u, l.lookupTenant name = some u ∧ u.version = t.version ∧
        t' = { f u with version := l.serial } := by
  unfold Ledger.putTenant at h ⊢
  split at h
  · exact .inl ⟨h,fun _ => ⟨_,rfl⟩⟩
  · rename_i u₀ hu₀
    split at h
    · rename_i hv
      exact .inl ⟨h,fun _ => ⟨conflicting t.name,by simp [hv]⟩⟩
    · rename_i hv
      have hf' : ∀ u, u.name = t.name → ({ f u with version := l.serial } : TenantCluster).name =
        t.name := hf
      rcases find_settle hf' h with ⟨ht,hne⟩ | ⟨hk,u,hu,rfl⟩
      · exact .inl ⟨ht,fun hk => absurd hk hne⟩
      · cases hk
        cases hu₀.symm.trans hu
        exact .inr ⟨rfl,u₀,hu₀,by simpa using hv,rfl⟩

theorem putTenant_keyed (hf : ∀ u, u.name = t.name → (f u).name = t.name)
    (hu : Keyed TenantCluster.name l.tenants) :
    Keyed TenantCluster.name (l.putTenant t f).2.tenants := by
  unfold Ledger.putTenant
  split
  · exact hu
  · split
    · exact hu
    · have hf' : ∀ u, u.name = t.name → ({ f u with version := l.serial } : TenantCluster).name =
        t.name := hf
      exact keyed_settle hf' hu

theorem putTenant_ok {u : TenantCluster} (hr : (l.putTenant t f).1 = .ok u) :
    ∃ u₀, l.lookupTenant t.name = some u₀ ∧ u₀.version = t.version ∧
      u = { f u₀ with version := l.serial } := by
  unfold Ledger.putTenant at hr
  split at hr
  · cases hr
  · rename_i u₀ hu₀
    split at hr
    · cases hr
    · rename_i hv
      cases hr
      exact ⟨u₀,hu₀,by simpa using hv,rfl⟩

theorem putTenant_kept {u : TenantCluster} (hf : ∀ u, u.name = t.name → (f u).name = t.name)
    (hr : (l.putTenant t f).1 = .ok u) (hg : Ledger.tenantGone u = false) :
    (l.putTenant t f).2.lookupTenant t.name = some u := by
  obtain ⟨u₀,hu₀,hv,rfl⟩ := putTenant_ok hr
  have hf' : ∀ u, u.name = t.name → ({ f u with version := l.serial } : TenantCluster).name =
    t.name := hf
  simp only [Ledger.putTenant, hu₀, hv, ne_eq, not_true_eq_false, if_false]
  exact find_settle_kept hf' hu₀ hg

end Tenants

section Volumes

variable {ns name : String} {vol v' : ProxmoxVolume} {f : ProxmoxVolume → ProxmoxVolume}

theorem putVolume_lookup (hf : ∀ v, volumeKey v = volumeKey vol → volumeKey (f v) = volumeKey vol)
    (h : (l.putVolume vol f).2.lookupVolume ns name = some v') :
    l.lookupVolume ns name = some v' ∨ ns = vol.ns ∧ name = vol.name ∧
      ∃ v, l.lookupVolume ns name = some v ∧ v.uid = vol.uid ∧ v' = f v := by
  unfold Ledger.putVolume at h
  split at h
  · exact .inl h
  · rename_i v₀ hv₀
    split at h
    · exact .inl h
    · rename_i hu
      rcases find_settle hf h with ⟨hv,_⟩ | ⟨hk,v,hv,rfl⟩
      · exact .inl hv
      · cases hk
        cases hv₀.symm.trans hv
        exact .inr ⟨rfl,rfl,v₀,hv₀,by simpa using hu,rfl⟩

theorem writtenVolume_key (vol v : ProxmoxVolume) (_ : volumeKey v = volumeKey vol) :
    volumeKey (writtenVolume vol v) = volumeKey vol := rfl

theorem reportedVolume_key (vol v : ProxmoxVolume) (h : volumeKey v = volumeKey vol) :
    volumeKey (reportedVolume vol v) = volumeKey vol := h

theorem putVolume_kept {v : ProxmoxVolume}
    (hf : ∀ v, volumeKey v = volumeKey vol → volumeKey (f v) = volumeKey vol)
    (hv : l.lookupVolume vol.ns vol.name = some v) (hu : v.uid = vol.uid)
    (hg : Ledger.volumeGone (f v) = false) :
    (l.putVolume vol f).2.lookupVolume vol.ns vol.name = some (f v) := by
  simp only [Ledger.putVolume, hv, hu, ne_eq, not_true_eq_false, if_false]
  exact find_settle_kept hf hv hg

/-- A write that took effect stored what was written, or nothing is left of the object. -/
theorem putVolume_stored {v : ProxmoxVolume}
    (hf : ∀ v, volumeKey v = volumeKey vol → volumeKey (f v) = volumeKey vol)
    (hv : l.lookupVolume vol.ns vol.name = some v) (hu : v.uid = vol.uid)
    (h : (l.putVolume vol f).2.lookupVolume vol.ns vol.name = some v') : v' = f v := by
  simp only [Ledger.putVolume, hv, hu, ne_eq, not_true_eq_false, if_false] at h
  rcases find_settle hf h with ⟨_,hne⟩ | ⟨_,v₀,hv₀,rfl⟩
  · exact absurd rfl hne
  · cases hv₀.symm.trans hv
    rfl

theorem createVolume_lookup (h : (l.createVolume vol).2.lookupVolume ns name = some v') :
    l.lookupVolume ns name = some v' ∨ v' = { vol with
      uid := l.serial, created := l.serial, generation := 1, deleting := false
      status := Ledger.emptyStatus } := by
  unfold Ledger.createVolume at h
  split at h
  · exact .inl h
  · simp only [Ledger.lookupVolume, find_append, find_singleton] at h
    cases hl : l.lookupVolume ns name with
    | some v =>
      rw [Ledger.lookupVolume] at hl
      rw [hl] at h
      exact .inl h
    | none =>
      rw [Ledger.lookupVolume] at hl
      rw [hl, Option.none_or] at h
      split at h
      · cases h
        exact .inr rfl
      · cases h

theorem deleteVolume_key (m n : String) (v : ProxmoxVolume) (h : volumeKey v = (m,n)) :
    volumeKey { v with deleting := true } = (m,n) := h

theorem deleteVolume_lookup {m n : String}
    (h : (l.deleteVolume m n).2.lookupVolume ns name = some v') :
    l.lookupVolume ns name = some v' ∨
      ∃ v, l.lookupVolume ns name = some v ∧ v' = { v with deleting := true } := by
  unfold Ledger.deleteVolume at h
  split at h
  · exact .inl h
  · rcases find_settle (deleteVolume_key m n) h with ⟨hv,_⟩ | ⟨hk,v,hv,rfl⟩
    · exact .inl hv
    · cases hk
      exact .inr ⟨v,hv,rfl⟩

theorem putVolume_keyed (hf : ∀ v, volumeKey v = volumeKey vol → volumeKey (f v) = volumeKey vol)
    (hu : Keyed volumeKey l.volumes) : Keyed volumeKey (l.putVolume vol f).2.volumes := by
  unfold Ledger.putVolume
  split
  · exact hu
  · split
    · exact hu
    · exact keyed_settle hf hu

theorem answer_keyed (c : OpCall) (hu : Keyed volumeKey l.volumes) :
    Keyed volumeKey (answer l c).2.volumes := by
  by_cases hc : part c = .volumes
  · cases c with
    | createVolume vol =>
      simp only [answer, Ledger.createVolume]
      split
      · exact hu
      · rename_i hn
        exact keyed_append hu hn
    | deleteVolume ns name =>
      simp only [answer, Ledger.deleteVolume]
      split
      · exact hu
      · exact keyed_settle (deleteVolume_key ns name) hu
    | update vol => exact putVolume_keyed (writtenVolume_key vol) hu
    | updateStatus vol => exact putVolume_keyed (reportedVolume_key vol) hu
    | _ => cases hc
  · rw [(answer_kept c l).volumes hc]
    exact hu

theorem outcome_keyed (ho : OpOutcome c l r l') (hu : Keyed volumeKey l.volumes) :
    Keyed volumeKey l'.volumes := by
  by_cases hc : part c = .volumes
  · rcases outcome_record (by simp [hc]) ho with ⟨rfl,_⟩ | ⟨rfl,_⟩
    · exact hu
    · exact answer_keyed c hu
  · rw [(outcome_kept ho).volumes hc]
    exact hu

end Volumes

section Snapshots

variable {ns name : String} {snap s' : ProxmoxVolumeSnapshot}
  {f : ProxmoxVolumeSnapshot → ProxmoxVolumeSnapshot}

theorem putSnapshot_lookup (hf : ∀ s, snapshotKey s = snapshotKey snap →
      snapshotKey (f s) = snapshotKey snap)
    (h : (l.putSnapshot snap f).2.lookupSnapshot ns name = some s') :
    l.lookupSnapshot ns name = some s' ∨ ns = snap.ns ∧ name = snap.name ∧
      ∃ s, l.lookupSnapshot ns name = some s ∧ s.uid = snap.uid ∧ s' = f s := by
  unfold Ledger.putSnapshot at h
  split at h
  · exact .inl h
  · rename_i s₀ hs₀
    split at h
    · exact .inl h
    · rename_i hu
      rcases find_settle hf h with ⟨hs,_⟩ | ⟨hk,s,hs,rfl⟩
      · exact .inl hs
      · cases hk
        cases hs₀.symm.trans hs
        exact .inr ⟨rfl,rfl,s₀,hs₀,by simpa using hu,rfl⟩

theorem putSnapshot_kept {s : ProxmoxVolumeSnapshot}
    (hf : ∀ s, snapshotKey s = snapshotKey snap → snapshotKey (f s) = snapshotKey snap)
    (hs : l.lookupSnapshot snap.ns snap.name = some s) (hu : s.uid = snap.uid)
    (hg : Ledger.snapshotGone (f s) = false) :
    (l.putSnapshot snap f).2.lookupSnapshot snap.ns snap.name = some (f s) := by
  simp only [Ledger.putSnapshot, hs, hu, ne_eq, not_true_eq_false, if_false]
  exact find_settle_kept hf hs hg

theorem putSnapshot_stored {s : ProxmoxVolumeSnapshot}
    (hf : ∀ s, snapshotKey s = snapshotKey snap → snapshotKey (f s) = snapshotKey snap)
    (hs : l.lookupSnapshot snap.ns snap.name = some s) (hu : s.uid = snap.uid)
    (h : (l.putSnapshot snap f).2.lookupSnapshot snap.ns snap.name = some s') : s' = f s := by
  simp only [Ledger.putSnapshot, hs, hu, ne_eq, not_true_eq_false, if_false] at h
  rcases find_settle hf h with ⟨_,hne⟩ | ⟨_,s₀,hs₀,rfl⟩
  · exact absurd rfl hne
  · cases hs₀.symm.trans hs
    rfl

theorem updateSnapshot_lookup
    (h : (answer l (.updateSnapshot snap)).2.lookupSnapshot ns name = some s') :
    l.lookupSnapshot ns name = some s' ∨ ∃ s, l.lookupSnapshot ns name = some s ∧
      s'.uid = s.uid ∧ s'.snapshotID = s.snapshotID := by
  have hk : ∀ s, snapshotKey s = snapshotKey snap →
      snapshotKey (writtenSnapshot snap s) = snapshotKey snap := fun _ _ => rfl
  rcases putSnapshot_lookup hk h with h | ⟨_,_,s,hs,_,rfl⟩
  · exact .inl h
  · exact .inr ⟨s,hs,rfl,rfl⟩

theorem updateSnapshotStatus_lookup
    (h : (answer l (.updateSnapshotStatus snap)).2.lookupSnapshot ns name = some s') :
    l.lookupSnapshot ns name = some s' ∨ ns = snap.ns ∧ name = snap.name ∧
      s'.uid = snap.uid ∧ s'.snapshotID = snap.snapshotID := by
  have hk : ∀ s, snapshotKey s = snapshotKey snap →
      snapshotKey (reportedSnapshot snap s) = snapshotKey snap := fun _ hs => hs
  rcases putSnapshot_lookup hk h with h | ⟨hn,hm,s,_,hu,rfl⟩
  · exact .inl h
  · exact .inr ⟨hn,hm,hu,rfl⟩

theorem createSnapshot_lookup (h : (l.createSnapshot snap).2.lookupSnapshot ns name = some s') :
    l.lookupSnapshot ns name = some s' ∨ s'.snapshotID = "" := by
  unfold Ledger.createSnapshot at h
  split at h
  · exact .inl h
  · simp only [Ledger.lookupSnapshot, find_append, find_singleton] at h
    cases hl : l.lookupSnapshot ns name with
    | some s =>
      rw [Ledger.lookupSnapshot] at hl
      rw [hl] at h
      exact .inl h
    | none =>
      rw [Ledger.lookupSnapshot] at hl
      rw [hl, Option.none_or] at h
      split at h
      · cases h
        exact .inr rfl
      · cases h

theorem deleteSnapshot_lookup {m n : String}
    (h : (l.deleteSnapshot m n).2.lookupSnapshot ns name = some s') :
    l.lookupSnapshot ns name = some s' ∨
      ∃ s, l.lookupSnapshot ns name = some s ∧ s' = { s with deleting := true } := by
  unfold Ledger.deleteSnapshot at h
  split at h
  · exact .inl h
  · have hf : ∀ s : ProxmoxVolumeSnapshot, snapshotKey s = (m,n) →
        snapshotKey { s with deleting := true } = (m,n) := fun _ hk => hk
    rcases find_settle hf h with ⟨hs,_⟩ | ⟨hk,s,hs,rfl⟩
    · exact .inl hs
    · cases hk
      exact .inr ⟨s,hs,rfl⟩

end Snapshots

section Attachments

variable {ns name : String} {att a' : ProxmoxVolumeAttachment}
  {f : ProxmoxVolumeAttachment → ProxmoxVolumeAttachment}

theorem putAttachment_ok {a : ProxmoxVolumeAttachment} (hr : (l.putAttachment att f).1 = .ok a) :
    ∃ a₀, l.lookupAttachment att.ns att.name = some a₀ ∧ a₀.version = att.version ∧
      a = { f a₀ with version := l.serial } := by
  unfold Ledger.putAttachment at hr
  split at hr
  · cases hr
  · rename_i a₀ ha₀
    split at hr
    · cases hr
    · rename_i hv
      cases hr
      exact ⟨a₀,ha₀,by simpa using hv,rfl⟩

end Attachments

section Disks

def makesDisk : OpCall → Bool
  | .createDisk _ _ _ _ _ => true
  | .copyDisk _ _ _ _ _ _ _ => true
  | _ => false

theorem part_makesDisk (h : makesDisk c) : part c = .disks := by
  cases c <;> first | rfl | cases h

def Spread (l : Ledger) : Prop := ∀ d ∈ l.disks, d.node = "" → l.isShared d.region d.storage

theorem spread_congr (hd : l'.disks ⊆ l.disks) (hs : l'.storages = l.storages) (h : Spread l) :
    Spread l' := by
  intro d hm hn
  rw [Ledger.isShared, hs]
  exact h d (hd hm) hn

theorem spread_put {region zone storage name : String} {size : ℤ} (hz : zone ≠ "") (h : Spread l) :
    Spread (l.putDisk (l.placed region zone storage name size)) := by
  intro d hm hn
  rcases List.mem_append.mp hm with hm | hm
  · exact h d hm hn
  · rw [List.mem_singleton] at hm
    subst hm
    show l.isShared region storage
    cases hs : l.isShared region storage with
    | true => rfl
    | false =>
      simp only [Ledger.placed, hs, Bool.false_eq_true, if_false] at hn
      exact absurd hn hz

theorem copyNode_ne {zone dstZone : String} (hz : zone ≠ "") : Ledger.copyNode zone dstZone ≠ "" := by
  unfold Ledger.copyNode
  split
  · exact hz
  · assumption

theorem answer_spread (hc : makesDisk c ∨ part c ≠ .disks) (h : Spread l) :
    Spread (answer l c).2 := by
  have hst := (answer_kept c l).storages
  by_cases hp : part c = .disks
  · have hm : makesDisk c := hc.resolve_right (fun h => h hp)
    cases c with
    | createDisk region zone storage name size =>
      simp only [answer, Ledger.createDisk]
      split
      · exact h
      · rename_i hz
        split
        · exact h
        · exact spread_put hz h
    | copyDisk region zone storage name dstZone dstStorage dstDisk =>
      simp only [answer, Ledger.copyDisk]
      split
      · exact h
      · rename_i hz
        split
        · exact h
        · split
          · exact spread_put (copyNode_ne hz) h
          · exact h
    | _ => cases hm
  · exact spread_congr (by rw [(answer_kept c l).disks hp]; exact List.Subset.refl _) hst h

theorem outcome_spread (hc : makesDisk c ∨ part c ≠ .disks) (ho : OpOutcome c l r l')
    (h : Spread l) : Spread l' := by
  cases ho with
  | served => exact answer_spread hc h
  | refused => exact h
  | lost => exact answer_spread hc h
  | partly _ _ _ _ _ _ _ _ _ _ _ hz _ => exact spread_put (copyNode_ne hz) h
  | attached => exact h
  | attachStopped => exact h
  | detached => exact h
  | detachStopped => exact h

variable {region zone storage name : String}

def madeAt : OpCall → Option (String × String × String × String)
  | .createDisk region zone storage name _ => some (region,zone,storage,name)
  | .copyDisk region zone _ _ dstZone dstStorage dstDisk =>
      some (region,Ledger.copyNode zone dstZone,dstStorage,dstDisk)
  | _ => none

theorem placed_reached {size : ℤ} : reaches region zone storage name
    (l.placed region zone storage name size) := by
  unfold Ledger.placed
  split <;> simp [reaches]

theorem put_reached {size : ℤ} {d : ListedDisk}
    (hd : d ∈ (l.putDisk (l.placed region zone storage name size)).disks) :
    d ∈ l.disks ∨ reaches region zone storage name d := by
  rcases List.mem_append.mp hd with hd | hd
  · exact .inl hd
  · rw [List.mem_singleton.mp hd]
    exact .inr placed_reached

theorem reaches_copied {zone dstZone : String} {d : ListedDisk}
    (h : reaches region (Ledger.copyNode zone dstZone) storage name d) :
    reaches region dstZone storage name d := by
  unfold Ledger.copyNode at h
  split at h
  · rename_i hz
    subst hz
    rw [reaches, decide_eq_true_eq] at h ⊢
    exact ⟨h.1,.inl rfl,h.2.2⟩
  · exact h

/-- The only disk a call adds is one at the place where it makes one. -/
theorem outcome_makes (hm : madeAt c = some (region,zone,storage,name)) (ho : OpOutcome c l r l')
    {d : ListedDisk} (hd : d ∈ l'.disks) : d ∈ l.disks ∨ reaches region zone storage name d := by
  have ha : d ∈ (answer l c).2.disks → d ∈ l.disks ∨ reaches region zone storage name d := by
    intro hd
    cases c with
    | createDisk region zone storage name size =>
      cases hm
      simp only [answer, Ledger.createDisk] at hd
      split at hd
      · exact .inl hd
      · split at hd
        · exact .inl hd
        · exact put_reached hd
    | copyDisk region zone storage name dstZone dstStorage dstDisk =>
      cases hm
      simp only [answer, Ledger.copyDisk] at hd
      split at hd
      · exact .inl hd
      · split at hd
        · exact .inl hd
        · split at hd
          · exact put_reached hd
          · exact .inl hd
    | _ => cases hm
  cases ho with
  | served => exact ha hd
  | refused => exact .inl hd
  | lost => exact ha hd
  | partly =>
    cases hm
    exact put_reached hd
  | attached => exact .inl hd
  | attachStopped => exact .inl hd
  | detached => exact .inl hd
  | detachStopped => exact .inl hd

theorem deleteDisk_subset : (l.deleteDisk region zone storage name).2.disks ⊆ l.disks := by
  unfold Ledger.deleteDisk
  split
  · exact List.Subset.refl _
  · split
    · exact List.Subset.refl _
    · exact List.erase_subset

theorem delete_outcome {r : OpReply (.deleteDisk region zone storage name)}
    (ho : OpOutcome (.deleteDisk region zone storage name) l r l') : l'.disks ⊆ l.disks := by
  cases ho with
  | served => exact deleteDisk_subset
  | refused => exact List.Subset.refl _
  | lost => exact deleteDisk_subset

end Disks

end ProxmoxCSI.RecordWrites
