import ProxmoxCSI.VolumeLifecycle
import ProxmoxCSI.PassRules

/-!
# Passes of the volume reconciler

What a pass does to its record, once for all invariants: the record is read, held,
provisioned or adopted, published, reported on or released. A discipline says
what has to hold of the ledger, and of the record whenever its status is
written; every pass keeps a discipline that the single calls keep.
-/

set_option autoImplicit false

namespace ProxmoxCSI.VolumePasses
open CallProgram CallProgram.Prog CallSafety CallErrors CallTriples CallSessions CallJournal
open TextScan VolumeHandle OperatorRecords RecordWrites DiskOwners ObjectStore
open VolumeReconciler VolumeLifecycle PassRules

section Copies

def Live (vol : ProxmoxVolume) (w : Ledger) : Prop := w.lookupVolume vol.ns vol.name = some vol

def Known (vol : ProxmoxVolume) (w : Ledger) : Prop :=
  ∃ v, w.lookupVolume vol.ns vol.name = some v ∧ v.uid = vol.uid ∧ v.spec = vol.spec ∧
    v.created = vol.created ∧ v.deleting = vol.deleting

/-- One record in two copies. -/
structure SameRecord (a b : ProxmoxVolume) : Prop where
  ns : a.ns = b.ns
  name : a.name = b.name
  uid : a.uid = b.uid
  created : a.created = b.created
  spec : a.spec = b.spec

def Unsettled (vol : ProxmoxVolume) : Prop :=
  isReady vol = false ∨ vol.deleting = true ∨ vol.spec.adopt = true

def Resized (a b : ProxmoxVolume) : Prop :=
  b.status.capacityBytes = a.status.capacityBytes ∨
    b.status.capacityBytes = roundUpSizeBytes a.spec.capacityBytes minChunkSizeBytes

/-- The second copy names the same disk and is ready only if the first one is. -/
structure Alike (a b : ProxmoxVolume) : Prop extends SameRecord a b where
  deleting : a.deleting = b.deleting
  volumeID : a.status.volumeID = b.status.volumeID
  diskName : a.status.diskName = b.status.diskName
  adopted : a.status.adopted = b.status.adopted
  capacity : Resized a b
  ready : b.status.phase = .ready → a.status.phase = .ready
  settled : Unsettled a ∨ isReady b = true

/-- Labels, annotations and finalizers may differ. -/
structure Revised (a b : ProxmoxVolume) : Prop extends SameRecord a b where
  deleting : a.deleting = b.deleting
  status : a.status = b.status

def Unclaimed (vol : ProxmoxVolume) (w : Ledger) : Prop :=
  olderAmong vol (w.volumes.filter (fun v => claim v = claim vol)) = none

variable {a b c vol : ProxmoxVolume} {w : Ledger}

theorem known_live (h : Live vol w) : Known vol w := ⟨vol,h,rfl,rfl,rfl,rfl⟩

theorem known_same (hs : SameRecord a b) (hd : a.deleting = b.deleting) (h : Known a w) :
    Known b w := by
  obtain ⟨v,hv,hu,hspec,hc,hdel⟩ := h
  rw [hs.ns, hs.name] at hv
  exact ⟨v,hv,hu.trans hs.uid,hspec.trans hs.spec,hc.trans hs.created,hdel.trans hd⟩

theorem known_found (h : Known vol w) {v : ProxmoxVolume}
    (hv : w.lookupVolume vol.ns vol.name = some v) : v.uid = vol.uid ∧ v.spec = vol.spec ∧
      v.created = vol.created ∧ v.deleting = vol.deleting := by
  obtain ⟨u,hu,hk⟩ := h
  cases hu.symm.trans hv
  exact hk

theorem sameRecord_refl (a : ProxmoxVolume) : SameRecord a a := ⟨rfl,rfl,rfl,rfl,rfl⟩

theorem sameRecord_trans (h : SameRecord a b) (h' : SameRecord b c) : SameRecord a c :=
  ⟨h.ns.trans h'.ns,h.name.trans h'.name,h.uid.trans h'.uid,h.created.trans h'.created,
    h.spec.trans h'.spec⟩

theorem resized_trans (hs : a.spec = b.spec) (h : Resized a b) (h' : Resized b c) : Resized a c := by
  rcases h' with h' | h'
  · exact h.imp h'.trans h'.trans
  · exact .inr (h'.trans (by rw [hs]))

theorem alike_trans (h : Alike a b) (h' : Alike b c) : Alike a c := by
  refine ⟨sameRecord_trans h.toSameRecord h'.toSameRecord,h.deleting.trans h'.deleting,
    h.volumeID.trans h'.volumeID,h.diskName.trans h'.diskName,h.adopted.trans h'.adopted,
    resized_trans h.spec h.capacity h'.capacity,fun hr => h.ready (h'.ready hr),?_⟩
  rcases h.settled with hu | hr
  · exact .inl hu
  · rcases h'.settled with hu | hc
    · rw [Unsettled, hr, ← h.deleting, ← h.spec] at hu
      exact .inl (.inr (hu.resolve_left (by simp)))
    · exact .inr hc

theorem alike_same (hs : SameRecord a b) (hd : a.deleting = b.deleting)
    (hi : a.status.volumeID = b.status.volumeID) (hn : a.status.diskName = b.status.diskName)
    (ho : a.status.adopted = b.status.adopted) (hc : Resized a b)
    (hp : a.status.phase = b.status.phase) : Alike a b := by
  refine ⟨hs,hd,hi,hn,ho,hc,fun h => hp.trans h,?_⟩
  cases hr : isReady a with
  | false => exact .inl (.inl hr)
  | true =>
    refine .inr ?_
    rw [isReady, ← hp, ← hi]
    exact hr

theorem conditioned_alike (vol : ProxmoxVolume) (t : ConditionType) (status : Bool)
    (reason : Reason) (message : String) :
    Alike vol (setCondition vol t status reason message) :=
  alike_same ⟨rfl,rfl,rfl,rfl,rfl⟩ rfl rfl rfl rfl (.inl rfl) rfl

theorem phased_alike (hu : Unsettled vol) {phase : VolumePhase} (h : phase ≠ .ready) :
    Alike vol (withPhase vol phase) :=
  ⟨⟨rfl,rfl,rfl,rfl,rfl⟩,rfl,rfl,rfl,rfl,.inl rfl,fun hr => absurd hr h,.inl hu⟩

theorem conditioned_unsettled (hu : Unsettled vol) {t : ConditionType} {status : Bool}
    {reason : Reason} {message : String} :
    Unsettled (setCondition vol t status reason message) := hu

theorem noted_alike (hu : Unsettled vol) {phase : VolumePhase} (h : phase ≠ .ready)
    (t : ConditionType) (status : Bool) (reason : Reason) (message : String) :
    Alike vol (withPhase (setCondition vol t status reason message) phase) :=
  alike_trans (conditioned_alike vol t status reason message)
    (phased_alike (conditioned_unsettled hu) h)

theorem observed_alike (vol : ProxmoxVolume) : Alike vol (VolumeReconciler.observed vol) :=
  alike_same ⟨rfl,rfl,rfl,rfl,rfl⟩ rfl rfl rfl rfl (.inl rfl) rfl

theorem revised_trans (h : Revised a b) (h' : Revised b c) : Revised a c :=
  ⟨sameRecord_trans h.toSameRecord h'.toSameRecord,h.deleting.trans h'.deleting,
    h.status.trans h'.status⟩

theorem revised_alike (h : Revised a b) : Alike a b :=
  alike_same h.toSameRecord h.deleting (by rw [h.status]) (by rw [h.status]) (by rw [h.status])
    (.inl (by rw [h.status])) (by rw [h.status])

theorem revised_refl (a : ProxmoxVolume) : Revised a a := ⟨sameRecord_refl a,rfl,rfl⟩

theorem addLabel_revised (vol : ProxmoxVolume) (label : String × String) :
    Revised vol (addLabel vol label) := by
  unfold addLabel
  split
  · exact ⟨⟨rfl,rfl,rfl,rfl,rfl⟩,rfl,rfl⟩
  · exact ⟨⟨rfl,rfl,rfl,rfl,rfl⟩,rfl,rfl⟩

theorem addLabel_finalizers (vol : ProxmoxVolume) (label : String × String) :
    (addLabel vol label).finalizers = vol.finalizers := by
  unfold addLabel
  split
  · rfl
  · rfl

theorem addLabels_revised (labels : List (String × String)) (vol : ProxmoxVolume) :
    Revised vol (labels.foldl addLabel vol) := by
  induction labels generalizing vol with
  | nil => exact ⟨⟨rfl,rfl,rfl,rfl,rfl⟩,rfl,rfl⟩
  | cons x labels ih => exact revised_trans (addLabel_revised vol x) (ih (addLabel vol x))

theorem held_revised (vol : ProxmoxVolume) (t : TenantCluster) : Revised vol (held vol t) := by
  have hv : Revised vol { vol with finalizers := if volumeFinalizer ∈ vol.finalizers
      then vol.finalizers else vol.finalizers ++ [volumeFinalizer] } :=
    ⟨⟨rfl,rfl,rfl,rfl,rfl⟩,rfl,rfl⟩
  exact revised_trans hv (addLabels_revised (ownerLabels vol t) _)

theorem held_finalizers (vol : ProxmoxVolume) (t : TenantCluster) :
    vol.finalizers ⊆ (held vol t).finalizers ∧ volumeFinalizer ∈ (held vol t).finalizers := by
  simp only [held, ownerLabels, List.foldl_cons, List.foldl_nil, addLabel_finalizers]
  split
  · rename_i hm
    exact ⟨List.Subset.refl _,hm⟩
  · simp

theorem unheld_revised (vol : ProxmoxVolume) : Revised vol (unheld vol) :=
  ⟨⟨rfl,rfl,rfl,rfl,rfl⟩,rfl,rfl⟩

theorem written_revised {vol' : ProxmoxVolume} (hr : Revised vol vol') :
    writtenVolume vol' vol = vol' := by
  obtain ⟨ns,name,uid,generation,created,labels,annotations,finalizers,deleting,spec,status⟩ := vol'
  have hu := hr.uid
  have hc := hr.created
  have hd := hr.deleting
  have hs := hr.status
  simp only at hu hc hd hs
  simp only [writtenVolume, hu, hc, hd, hs]

theorem update_live {vol' : ProxmoxVolume} (hr : Revised vol vol') (hf : vol'.finalizers ≠ [])
    (hl : Live vol w) : Live vol' (answer w (.update vol')).2 := by
  rw [Live, hr.ns, hr.name] at hl
  have hg : Ledger.volumeGone (writtenVolume vol' vol) = false := by
    simp [Ledger.volumeGone, writtenVolume, hf]
  have h := putVolume_kept (writtenVolume_key vol') hl hr.uid hg
  rw [written_revised hr] at h
  exact h

theorem revised_ready (hr : Revised a b) : isReady b = isReady a := by
  rw [isReady, isReady, hr.status]

theorem published_fields (vol : ProxmoxVolume) (t : TenantCluster) (disk : Volume)
    (sizeBytes : ℤ) : SameRecord vol (published vol t disk sizeBytes) ∧
      (published vol t disk sizeBytes).status.volumeID = disk.volumeID ∧
      (published vol t disk sizeBytes).status.diskName = disk.disk ∧
      (published vol t disk sizeBytes).status.phase = .ready :=
  ⟨⟨rfl,rfl,rfl,rfl,rfl⟩,rfl,rfl,rfl⟩

theorem published_ready (vol : ProxmoxVolume) (t : TenantCluster) (disk : Volume)
    (sizeBytes : ℤ) : isReady (published vol t disk sizeBytes) = true := by
  obtain ⟨_,hi,_,hp⟩ := published_fields vol t disk sizeBytes
  simp [isReady, hi, hp, volumeID_ne_empty disk]

theorem published_same (vol : ProxmoxVolume) (t : TenantCluster) (disk : Volume) (sizeBytes : ℤ) :
    SameRecord vol (published vol t disk sizeBytes) := (published_fields vol t disk sizeBytes).1

theorem published_alike (h : SameRecord a b) (hd : a.deleting = b.deleting) (t : TenantCluster)
    (disk : Volume) (sizeBytes : ℤ) :
    Alike (published a t disk sizeBytes) (published b t disk sizeBytes) :=
  alike_same ⟨h.ns,h.name,h.uid,h.created,h.spec⟩ hd rfl rfl rfl (.inl rfl) rfl

theorem adoptedRecord_fields (vol : ProxmoxVolume) (t : TenantCluster) (handle : Volume)
    (disk : ListedDisk) : SameRecord vol (adoptedRecord vol t handle disk) ∧
      (adoptedRecord vol t handle disk).status.volumeID = vol.spec.adoptVolumeID ∧
      (adoptedRecord vol t handle disk).status.diskName = disk.name ∧
      (adoptedRecord vol t handle disk).status.phase = .ready := by
  unfold adoptedRecord
  simp only
  split
  · exact ⟨⟨rfl,rfl,rfl,rfl,rfl⟩,rfl,rfl,rfl⟩
  · exact ⟨⟨rfl,rfl,rfl,rfl,rfl⟩,rfl,rfl,rfl⟩

theorem adoptedRecord_marks (vol : ProxmoxVolume) (t : TenantCluster) (handle : Volume)
    (disk : ListedDisk) : (adoptedRecord vol t handle disk).deleting = vol.deleting ∧
      (adoptedRecord vol t handle disk).status.adopted = true ∧
      (adoptedRecord vol t handle disk).status.capacityBytes = disk.sizeBytes := by
  unfold adoptedRecord
  simp only
  split
  · exact ⟨rfl,rfl,rfl⟩
  · exact ⟨rfl,rfl,rfl⟩

theorem adoptedRecord_alike (h : SameRecord a b) (hdel : a.deleting = b.deleting)
    (t : TenantCluster) (handle : Volume) (disk : ListedDisk) :
    Alike (adoptedRecord a t handle disk) (adoptedRecord b t handle disk) := by
  obtain ⟨ha,hi,hd,hp⟩ := adoptedRecord_fields a t handle disk
  obtain ⟨hb,hi',hd',hp'⟩ := adoptedRecord_fields b t handle disk
  obtain ⟨hda,hoa,hca⟩ := adoptedRecord_marks a t handle disk
  obtain ⟨hdb,hob,hcb⟩ := adoptedRecord_marks b t handle disk
  have hsame : SameRecord (adoptedRecord a t handle disk) (adoptedRecord b t handle disk) :=
    ⟨ha.ns.symm.trans (h.ns.trans hb.ns),ha.name.symm.trans (h.name.trans hb.name),
      ha.uid.symm.trans (h.uid.trans hb.uid),ha.created.symm.trans (h.created.trans hb.created),
      ha.spec.symm.trans (h.spec.trans hb.spec)⟩
  exact alike_same hsame (by rw [hda, hdb, hdel]) (by rw [hi, hi', h.spec]) (by rw [hd, hd'])
    (by rw [hoa, hob]) (.inl (by rw [hca, hcb])) (by rw [hp, hp'])

theorem describes_none {handle : Volume} (h : describes vol handle = none) :
    vol.spec.region = handle.region ∧ vol.spec.zone = handle.zone ∧
      vol.spec.storage = handle.storage := by
  unfold describes at h
  split at h
  · cases h
  · split at h
    · cases h
    · split at h
      · cases h
      · rename_i hr hz hs
        exact ⟨not_not.mp hr,not_not.mp hz,not_not.mp hs⟩

/-- What an adoption that is not refused says of the handle. -/
theorem adoptRefusal_none {t : TenantCluster} {handle : Volume}
    (h : adoptRefusal t vol handle = none) : describes vol handle = none ∧
      handle.region = t.region ∧ ownedVMID t handle.vmid = true := by
  unfold adoptRefusal at h
  split at h
  · cases h
  · rename_i hd
    split at h
    · cases h
    · rename_i hr
      split at h
      · cases h
      · rename_i ho
        exact ⟨hd,not_not.mp hr,by simpa using ho⟩

end Copies

section Calls

/-- The record may be provisioned for this tenant. -/
structure Eligible (vol : ProxmoxVolume) (t : TenantCluster) (w : Ledger) : Prop where
  live : Live vol w
  unready : isReady vol = false
  provisioned : vol.spec.adopt = false
  undeleted : vol.deleting = false
  tenant : tenantFor vol.ns w.tenants = some t
  accepted : refusal t vol = none

/-- The record is provisioned for this tenant, on this disk. -/
structure Admitted (vol : ProxmoxVolume) (t : TenantCluster) (disk : Volume) (w : Ledger) : Prop
    extends Eligible vol t w where
  named : ∃ pluginType,
    pluginTypeOf vol.spec.region vol.spec.zone vol.spec.storage w.storages = .ok pluginType ∧
      disk = diskVolume t pluginType vol

/-- The calls that make the disk of a record. -/
inductive Making (vol : ProxmoxVolume) (disk : Volume) (w : Ledger) : OpCall → Prop
  | fresh (sizeBytes : ℤ) : Making vol disk w
      (.createDisk vol.spec.region vol.spec.zone vol.spec.storage disk.disk sizeBytes)
  | volume (name : String) (src : ProxmoxVolume) (hs : w.lookupVolume vol.ns name = some src)
      (hr : src.status.phase = .ready) : Making vol disk w
      (.copyDisk src.spec.region src.spec.zone src.spec.storage src.status.diskName vol.spec.zone
        vol.spec.storage disk.disk)
  | snapshot (snap : ProxmoxVolumeSnapshot) (v : Volume) (hs : snap ∈ w.snapshots)
      (hn : snap.ns = vol.ns) (hr : snap.readyToUse = true)
      (hv : parseVolumeID snap.snapshotID = some v) : Making vol disk w
      (.copyDisk v.region v.zone v.storage v.disk vol.spec.zone vol.spec.storage disk.disk)

/-- The calls of a ready record on the VM that holds its disk. -/
inductive Applying (r : Reconciler) (vol : ProxmoxVolume) (w : Ledger) : OpCall → Prop
  | modify (att : ProxmoxVolumeAttachment) (disk : Volume) (options : Params)
      (hm : att ∈ w.attachments) (hn : att.ns = vol.ns) (ha : att.volumeName = vol.name)
      (hd : parseVolumeID vol.status.volumeID = some disk)
      (ho : r.modifyOptions vol.spec.mutableParameters = .ok options) :
      Applying r vol w (.updateDisk disk.region att.vmid disk options)
  | expand (att : ProxmoxVolumeAttachment) (disk : Volume) (size : String)
      (hm : att ∈ w.attachments) (hn : att.ns = vol.ns) (ha : att.volumeName = vol.name)
      (hd : parseVolumeID vol.status.volumeID = some disk) :
      Applying r vol w (.resizeDisk disk.region att.vmid disk.zone ("scsi" ++ att.lun) size)

variable {a b vol : ProxmoxVolume} {t : TenantCluster} {disk : Volume} {w w' : Ledger} {c : OpCall}

theorem making_makesDisk (h : Making vol disk w c) : makesDisk c = true := by
  cases h with
  | fresh sizeBytes => rfl
  | volume name src hs hr => rfl
  | snapshot snap v hs hn hr hv => rfl

theorem applying_part {r : Reconciler} (h : Applying r vol w c) : part c = .nothing := by
  cases h with
  | modify att disk options hm hn ha hd ho => rfl
  | expand att disk size hm hn ha hd => rfl

theorem refusal_spec (t : TenantCluster) (h : a.spec = b.spec) : refusal t a = refusal t b := by
  obtain ⟨ns,name,uid,generation,created,labels,annotations,finalizers,deleting,spec,status⟩ := a
  simp only at h
  subst h
  rfl

theorem diskVolume_same (t : TenantCluster) (pluginType : String) (h : SameRecord a b) :
    diskVolume t pluginType a = diskVolume t pluginType b := by
  simp only [diskVolume, h.name, h.spec]

theorem admitted_revised (hr : Revised a b) (hl : Live b w') (ht : w'.tenants = w.tenants)
    (hs : w'.storages = w.storages) (h : Admitted a t disk w) : Admitted b t disk w' := by
  obtain ⟨⟨_,hready,hadopt,hdel,hten,href⟩,p,hp,hdisk⟩ := h
  refine ⟨⟨hl,?_,?_,?_,?_,?_⟩,p,?_,?_⟩
  · rw [revised_ready hr, hready]
  · rw [← hr.spec, hadopt]
  · rw [← hr.deleting, hdel]
  · rw [ht, ← hr.ns, hten]
  · rw [← refusal_spec t hr.spec, href]
  · rw [hs, ← hr.spec, hp]
  · rw [hdisk, diskVolume_same t p hr.toSameRecord]

theorem admitted_unsettled (h : Admitted vol t disk w) : Unsettled vol := .inl h.unready

end Calls

/-- `Good` is what holds of the ledger, `Ok` what holds of a record whose status may be
written, `Free` of one whose finalizer may be given up, and `owner` tells whose record a
task reconciles. -/
structure Discipline (ι : Type) extends Frame ι where
  Ok : ProxmoxVolume → Log ι → Ledger → Prop
  Free : ProxmoxVolume → Log ι → Ledger → Prop
  runs : Reconciler → Prop
  owner : ι → ProxmoxVolume → Prop
  owner_same : ∀ {i a b}, owner i a → SameRecord a b → owner i b
  good_apply : ∀ {i rc vol c r j w}, runs rc → owner i vol → Live vol w → isReady vol = true →
    Applying rc vol w c → OpOutcome c w r w → cond ⟨i,⟨c,r,w,w⟩⟩ j → Good j w →
    Good (⟨i,⟨c,r,w,w⟩⟩::j) w
  ok_live : ∀ {vol j w}, Good j w → Live vol w → Ok vol j w
  ok_alike : ∀ {a b j w}, Alike a b → Ok a j w → Ok b j w
  good_update : ∀ {i vol vol' r j w w'}, Live vol w → Revised vol vol' →
    vol.finalizers ⊆ vol'.finalizers → OpOutcome (.update vol') w r w' →
    cond ⟨i,⟨_,r,w,w'⟩⟩ j → Good j w → Good (⟨i,⟨_,r,w,w'⟩⟩::j) w'
  good_status : ∀ {i vol r j w w'}, Known vol w → Ok vol j w →
    OpOutcome (.updateStatus vol) w r w' → cond ⟨i,⟨_,r,w,w'⟩⟩ j → Good j w →
    Good (⟨i,⟨_,r,w,w'⟩⟩::j) w'
  good_make : ∀ {i vol t disk c r j w w'}, owner i vol → Admitted vol t disk w →
    Making vol disk w c → OpOutcome c w r w' → cond ⟨i,⟨c,r,w,w'⟩⟩ j → Good j w →
    Good (⟨i,⟨c,r,w,w'⟩⟩::j) w'
  good_destroy : ∀ {i vol j w w'}
    {r : OpReply (.deleteDisk vol.spec.region vol.spec.zone vol.spec.storage vol.status.diskName)},
    owner i vol → Live vol w → vol.spec.adopt = false → vol.status.diskName ≠ "" →
    OpOutcome _ w r w' → cond ⟨i,⟨_,r,w,w'⟩⟩ j → Good j w →
    Good (⟨i,⟨_,r,w,w'⟩⟩::j) w' ∧ (r = .ok () → Free vol (⟨i,⟨_,r,w,w'⟩⟩::j) w')
  free_unnamed : ∀ {vol j w}, Good j w → Live vol w → vol.deleting = true →
    vol.status.diskName = "" → Free vol j w
  free_kept : ∀ {rc vol j w}, runs rc → Good j w → Live vol w → vol.deleting = true →
    ¬(¬vol.status.adopted ∧ ¬vol.spec.adopt ∧ rc.writes) → Free vol j w
  good_release : ∀ {i vol r j w w'}, Live vol w → Free vol j w →
    OpOutcome (.update (unheld vol)) w r w' → cond ⟨i,⟨_,r,w,w'⟩⟩ j → Good j w →
    Good (⟨i,⟨_,r,w,w'⟩⟩::j) w'
  ok_read : ∀ {i a c r j w}, reads c → OpOutcome c w r w → cond ⟨i,⟨c,r,w,w⟩⟩ j → Ok a j w →
    Ok a (⟨i,⟨c,r,w,w⟩⟩::j) w
  ok_update : ∀ {i a vol vol' r j w w'}, Live vol w → Revised vol vol' →
    OpOutcome (.update vol') w r w' → cond ⟨i,⟨_,r,w,w'⟩⟩ j → Ok a j w →
    Ok a (⟨i,⟨_,r,w,w'⟩⟩::j) w'
  ok_status : ∀ {i a vol r j w w'}, isReady a = true → OpOutcome (.updateStatus vol) w r w' →
    cond ⟨i,⟨_,r,w,w'⟩⟩ j → Ok a j w → Ok a (⟨i,⟨_,r,w,w'⟩⟩::j) w'
  ok_make : ∀ {i vol t disk sizeBytes c r j w w'}, owner i vol → Admitted vol t disk w →
    Making vol disk w c → OpOutcome c w r w' → cond ⟨i,⟨c,r,w,w'⟩⟩ j → Good j w →
    Ok (published vol t disk sizeBytes) j w →
    Ok (published vol t disk sizeBytes) (⟨i,⟨c,r,w,w'⟩⟩::j) w'
  publish : ∀ {i vol t disk r j w}, owner i vol → Admitted vol t disk w →
    cond ⟨i,⟨.listStorages,r,w,w⟩⟩ j → Good j w →
    Ok (published vol t disk (roundUpSizeBytes vol.spec.capacityBytes minChunkSizeBytes)) j w
  adopt : ∀ {i vol t handle disks disk r j w}, owner i vol → Live vol w →
    tenantFor vol.ns w.tenants = some t → vol.spec.adopt = true → vol.spec.adoptVolumeID ≠ "" →
    parseVolumeID vol.spec.adoptVolumeID = some handle →
    adoptRefusal t vol handle = none → Unclaimed vol w →
    (answer w (.listDisks handle.region handle.zone handle.storage)).1 = .ok disks →
    findDisk disks handle = some disk →
    ownedVMID t (newVolume handle.region handle.zone handle.storage disk.name).vmid = true →
    OpOutcome (.listDisks handle.region handle.zone handle.storage) w r w →
    cond ⟨i,⟨_,r,w,w⟩⟩ j → Good j w → Ok (adoptedRecord vol t handle disk) (⟨i,⟨_,r,w,w⟩⟩::j) w

variable {ι : Type} {D : Discipline ι} {i : ι} {l : Log ι} {vol : ProxmoxVolume}

def Pass (D : Discipline ι) (vol : ProxmoxVolume) (j : Log ι) (w : Ledger) : Prop :=
  D.Good j w ∧ Live vol w

theorem pass_readable : Readable D.toFrame (Pass D vol) :=
  ⟨fun _ _ h => h.1,fun _ _ _ _ _ hc ho hx h => ⟨D.good_read hc ho hx h.1,h.2⟩⟩

section Status

def Writable (D : Discipline ι) (vol : ProxmoxVolume) (j : Log ι) (w : Ledger) : Prop :=
  D.Good j w ∧ Known vol w ∧ D.Ok vol j w

variable {vol' : ProxmoxVolume}

theorem pass_writable {j : Log ι} {w : Ledger} (ha : Alike vol vol') (h : Pass D vol j w) :
    Writable D vol' j w :=
  ⟨h.1,known_same ha.toSameRecord ha.deleting (known_live h.2),D.ok_alike ha (D.ok_live h.1 h.2)⟩

theorem writable_alike {j : Log ι} {w : Ledger} (ha : Alike vol vol') (h : Writable D vol j w) :
    Writable D vol' j w :=
  ⟨h.1,known_same ha.toSameRecord ha.deleting h.2.1,D.ok_alike ha h.2.2⟩

theorem status_known {r : OpReply (.updateStatus vol')} {w w' : Ledger} (hl : Live vol w)
    (hd : vol.deleting = false) (hs : SameRecord vol vol')
    (ho : OpOutcome (.updateStatus vol') w r w') : Known vol w' := by
  rcases outcome_record (by simp [part]) ho with ⟨rfl,_⟩ | ⟨rfl,_⟩
  · exact known_live hl
  · have hg : Ledger.volumeGone (reportedVolume vol' vol) = false := by
      simp [Ledger.volumeGone, reportedVolume, hd]
    have hl' : w.lookupVolume vol'.ns vol'.name = some vol := by
      rw [← hs.ns, ← hs.name]
      exact hl
    refine ⟨reportedVolume vol' vol,?_,rfl,rfl,rfl,rfl⟩
    rw [hs.ns, hs.name]
    exact putVolume_kept (reportedVolume_key vol') hl' hs.uid hg

theorem updateStatus_keeps : Keeps D.toFrame i l (Writable D vol) (updateStatus vol) := by
  refine triple_bind (Q := fun _ => Given D.cond D.Good i l) ?_
    (fun _ => keeps_pure (fun _ _ h => h))
  refine triple_given_call cluster_calm (fun _ _ h => h.1) ?_
  intro j w r w' h ho hx
  obtain ⟨hg,hk,hok⟩ := writable_alike (observed_alike vol) h
  have hs := D.good_status hk hok ho hx hg
  exact ⟨hs,fun _ _ => hs⟩

theorem settle_keeps {α : Type} {a : α} :
    Keeps D.toFrame i l (Writable D vol) (updateStatus vol >>= fun _ => (pure a : P α)) :=
  triple_bind updateStatus_keeps (fun _ => keeps_pure (fun _ _ h => h))

theorem report_leads {result : Result} {cause : String} {R : Result → Log ι → Ledger → Prop} :
    Leads D.toFrame i l (Writable D vol) (report vol result cause) R := by
  refine triple_bind (Q := fun _ => Given D.cond D.Good i l) ?_ ?_
  · refine triple_given_call cluster_calm (fun _ _ h => h.1) ?_
    intro j w r w' h ho hx
    obtain ⟨hg,hk,hok⟩ := writable_alike (observed_alike vol) h
    have hs := D.good_status hk hok ho hx hg
    exact ⟨hs,fun _ _ => hs⟩
  · intro r
    cases r with
    | ok u => exact leads_throw (fun _ _ h => h)
    | error e => exact leads_throw (fun _ _ h => h)

theorem pass_settles {α : Type} {a : α} (ha : Alike vol vol') :
    Keeps D.toFrame i l (Pass D vol) (updateStatus vol' >>= fun _ => (pure a : P α)) :=
  leads_from settle_keeps (fun _ _ h => pass_writable ha h)

theorem pass_reports {result : Result} {cause : String} {R : Result → Log ι → Ledger → Prop}
    (ha : Alike vol vol') : Leads D.toFrame i l (Pass D vol) (report vol' result cause) R :=
  leads_from report_leads (fun _ _ h => pass_writable ha h)

theorem rejected_alike (hu : Unsettled vol) (reason : Reason) (message : String) :
    Alike vol (withPhase (setCondition (setCondition vol .admitted false reason message) .ready false
      reason message) .rejected) :=
  alike_trans (conditioned_alike vol .admitted false reason message)
    (noted_alike (conditioned_unsettled hu) (by decide) .ready false reason message)

theorem reject_keeps (hu : Unsettled vol) {reason : Reason} {message : String} :
    Keeps D.toFrame i l (Pass D vol) (reject vol reason message) :=
  pass_settles (rejected_alike hu reason message)

theorem rejectDuplicate_keeps (hu : Unsettled vol) {other : ProxmoxVolume} :
    Keeps D.toFrame i l (Pass D vol) (rejectDuplicate vol other) := by
  have hc := conditioned_alike vol .degraded true .duplicateClaim
    (claim vol ++ " is already claimed by " ++ slashed other.ns other.name)
  exact pass_settles (alike_trans hc (rejected_alike (conditioned_unsettled hu) .duplicateClaim _))

end Status

section Hold

theorem update_keeps {vol' : ProxmoxVolume} {pre : String} (hr : Revised vol vol')
    (hf : vol.finalizers ⊆ vol'.finalizers) :
    Keeps D.toFrame i l (Pass D vol) (need (.update vol') pre) := by
  refine triple_given_call cluster_calm (fun _ _ h => h.1) ?_
  intro j w r w' h ho hx
  have hg := D.good_update h.2 hr hf ho hx h.1
  exact ⟨hg,fun _ _ => hg⟩

def Ahead (D : Discipline ι) (vol a : ProxmoxVolume) (j : Log ι) (w : Ledger) : Prop :=
  Pass D vol j w ∧ D.Ok a j w

theorem ahead_readable {a : ProxmoxVolume} : Readable D.toFrame (Ahead D vol a) :=
  ⟨fun _ _ h => h.1.1,fun _ _ _ _ _ hc ho hx h =>
    ⟨pass_readable.read _ _ _ _ _ hc ho hx h.1,D.ok_read hc ho hx h.2⟩⟩

theorem hold_leads {a : ProxmoxVolume} {F : ProxmoxVolume → Ledger → Prop} (t : TenantCluster)
    (hF : ∀ {b : ProxmoxVolume} {w w' : Ledger}, Revised vol b → Live b w' →
      w'.tenants = w.tenants → w'.storages = w.storages → F vol w → F b w') :
    Leads D.toFrame i l (fun j w => Ahead D vol a j w ∧ F vol w) (hold vol t)
      (fun b j w => (Ahead D b a j w ∧ F b w) ∧ Revised vol b) := by
  unfold hold
  split
  · exact triple_given_pure cluster_calm (fun _ _ h => ⟨h.1.1.1,h,revised_refl vol⟩)
  · have hr := held_revised vol t
    refine triple_bind (Q := fun _ => Given D.cond (fun j w => Ahead D (held vol t) a j w ∧
      F (held vol t) w) i l) ?_
      (fun _ => triple_given_pure cluster_calm (fun _ _ h => ⟨h.1.1.1,h,hr⟩))
    refine triple_given_call cluster_calm (fun _ _ h => h.1.1.1) ?_
    intro j w r w' h ho hx
    have hg := D.good_update h.1.1.2 hr (held_finalizers vol t).1 ho hx h.1.1.1
    refine ⟨hg,?_⟩
    intro u hu
    have hk := outcome_kept ho
    have hl : Live (held vol t) w' := by
      rcases outcome_record (by simp [part]) ho with ⟨_,e,_,rfl⟩ | ⟨rfl,_⟩
      · cases hu
      · exact update_live hr (List.ne_nil_of_mem (held_finalizers vol t).2) h.1.1.2
    exact ⟨⟨⟨hg,hl⟩,D.ok_update h.1.1.2 hr ho hx h.1.2⟩,
      hF hr hl (hk.tenants (by simp [part])) hk.storages h.2⟩

end Hold

section Provision

variable {t : TenantCluster} {disk : Volume} {sizeBytes : ℤ}

abbrev Due (D : Discipline ι) (vol : ProxmoxVolume) (t : TenantCluster) (disk : Volume)
    (sizeBytes : ℤ) (j : Log ι) (w : Ledger) : Prop :=
  Ahead D vol (published vol t disk sizeBytes) j w ∧ Admitted vol t disk w

def Publishable (D : Discipline ι) (t : TenantCluster) (disk : Volume) (sizeBytes : ℤ)
    (vol : ProxmoxVolume) (j : Log ι) (w : Ledger) : Prop :=
  Writable D (published vol t disk sizeBytes) j w

theorem due_readable : Readable D.toFrame (Due D vol t disk sizeBytes) := fact_readable ahead_readable

theorem due_publishable {j : Log ι} {w : Ledger} (h : Due D vol t disk sizeBytes j w) :
    Publishable D t disk sizeBytes vol j w :=
  ⟨h.1.1.1,known_same (published_same vol t disk sizeBytes) rfl (known_live h.1.1.2),h.1.2⟩

theorem due_done : Leads D.toFrame i l (Due D vol t disk sizeBytes) (pure vol : P ProxmoxVolume)
    (Publishable D t disk sizeBytes) :=
  triple_given_pure cluster_calm (fun _ _ h => ⟨h.1.1.1,due_publishable h⟩)

theorem due_reports {vol' : ProxmoxVolume} {result : Result} {cause : String}
    (ha : Unsettled vol → Alike vol vol') :
    Leads D.toFrame i l (Due D vol t disk sizeBytes)
      (report vol' result cause >>= fun _ => (pure vol : P ProxmoxVolume))
      (Publishable D t disk sizeBytes) := by
  refine triple_bind (Q := fun _ => Given D.cond (Due D vol t disk sizeBytes) i l) ?_
    (fun _ => due_done)
  exact leads_from report_leads (fun _ _ h => pass_writable (ha (admitted_unsettled h.2)) h.1.1)

/-- A refusal of the source is reported, and the record may still be published. -/
theorem reported_publishable {vol' : ProxmoxVolume} (ha : Unsettled vol → Alike vol vol') :
    Leads D.toFrame i l (Due D vol t disk sizeBytes) (updateStatus vol')
      (Publishable D t disk sizeBytes) := by
  refine triple_bind (Q := fun _ => Given D.cond
    (Publishable D t disk sizeBytes (VolumeReconciler.observed vol')) i l) ?_
    (fun _ => triple_given_pure cluster_calm (fun _ _ h => ⟨h.1,h⟩))
  refine triple_given_call cluster_calm (fun _ _ h => h.1.1.1) ?_
  intro j w r w' h ho hx
  have hal := alike_trans (ha (admitted_unsettled h.2)) (observed_alike vol')
  have hsame := published_alike hal.toSameRecord hal.deleting t disk sizeBytes
  obtain ⟨hg,hk,hok⟩ := pass_writable hal h.1.1
  have hs := D.good_status hk hok ho hx hg
  have hk' : Known (published (VolumeReconciler.observed vol') t disk sizeBytes) w' :=
    known_same (sameRecord_trans hal.toSameRecord (published_same _ t disk sizeBytes)) hal.deleting
      (status_known h.1.1.2 h.2.undeleted hal.toSameRecord ho)
  exact ⟨hs,fun _ _ => ⟨hs,hk',
    D.ok_status (published_ready _ t disk sizeBytes) ho hx (D.ok_alike hsame h.1.2)⟩⟩

theorem sourceRejected_leads {reason : Reason} {message : String} :
    Leads D.toFrame i l (Due D vol t disk sizeBytes) (sourceRejected vol reason message)
      (Publishable D t disk sizeBytes) :=
  reported_publishable (fun hu => noted_alike hu (by decide) _ _ _ _)

theorem sourcePending_leads {message : String} :
    Leads D.toFrame i l (Due D vol t disk sizeBytes) (sourcePending vol message)
      (Publishable D t disk sizeBytes) :=
  reported_publishable (fun hu => noted_alike hu (by decide) _ _ _ _)

theorem due_make {c : OpCall} {j : Log ι} {w w' : Ledger} {r : OpReply c}
    (h : Due D vol t disk sizeBytes j w) (hi : D.owner i vol) (hc : Making vol disk w c)
    (ho : OpOutcome c w r w') (hx : D.cond ⟨i,⟨c,r,w,w'⟩⟩ j) :
    Due D vol t disk sizeBytes (⟨i,⟨c,r,w,w'⟩⟩::j) w' := by
  have hp := part_makesDisk (making_makesDisk hc)
  have hk := outcome_kept ho
  have hl : Live vol w' := by
    rw [Live, Ledger.lookupVolume, hk.volumes (by simp [hp])]
    exact h.1.1.2
  exact ⟨⟨⟨D.good_make hi h.2 hc ho hx h.1.1.1,hl⟩,D.ok_make hi h.2 hc ho hx h.1.1.1 h.1.2⟩,
    admitted_revised (revised_refl vol) hl (hk.tenants (by simp [hp])) hk.storages h.2⟩

theorem copyTo_leads (hi : D.owner i vol) {region zone storage name : String} :
    Leads D.toFrame i l (fun j w => Due D vol t disk sizeBytes j w ∧ Making vol disk w
        (.copyDisk region zone storage name vol.spec.zone vol.spec.storage disk.disk))
      (copyTo vol disk region zone storage name) (Publishable D t disk sizeBytes) := by
  refine triple_bind (Q := fun _ => Given D.cond (Due D vol t disk sizeBytes) i l) ?_
    (fun _ => due_done)
  refine triple_given_call cluster_calm (fun _ _ h => h.1.1.1.1) ?_
  intro j w r w' h ho hx
  have hc := due_make h.1 hi h.2 ho hx
  exact ⟨hc.1.1.1,fun _ _ => hc⟩

theorem provisionFromVolume_leads (hi : D.owner i vol) (name : String) :
    Leads D.toFrame i l (Due D vol t disk sizeBytes) (provisionFromVolume vol name disk)
      (Publishable D t disk sizeBytes) := by
  refine triple_bind (ask_finds (c := .getVolume vol.ns name)
    (P := fun src w => w.lookupVolume vol.ns name = some src) due_readable rfl
    (fun w src h => foundOr_ok (.inl rfl) h)) ?_
  intro r
  cases r with
  | error e => exact leads_from sourceRejected_leads (fun _ _ h => h.1)
  | ok src =>
    show Leads D.toFrame i l _ (ite _ _ _) _
    split
    · exact leads_from sourcePending_leads (fun _ _ h => h.1)
    · rename_i hr
      exact leads_from (copyTo_leads hi)
        (fun _ _ h => ⟨h.1,.volume name src (h.2 src rfl) (not_not.mp hr)⟩)

theorem provisionFromFoundSnapshot_leads (hi : D.owner i vol) (snap : ProxmoxVolumeSnapshot) :
    Leads D.toFrame i l (fun j w => Due D vol t disk sizeBytes j w ∧ snap ∈ w.snapshots ∧
      snap.ns = vol.ns)
      (provisionFromFoundSnapshot vol snap disk) (Publishable D t disk sizeBytes) := by
  unfold provisionFromFoundSnapshot
  split
  · exact leads_from sourcePending_leads (fun _ _ h => h.1)
  · rename_i hr
    split
    · exact leads_from sourceRejected_leads (fun _ _ h => h.1)
    · rename_i v hv
      exact leads_from (copyTo_leads hi)
        (fun _ _ h => ⟨h.1,.snapshot snap v h.2.1 h.2.2 (by simpa using hr) hv⟩)

theorem provisionFromSnapshot_leads (hi : D.owner i vol) (name : String) :
    Leads D.toFrame i l (Due D vol t disk sizeBytes) (provisionFromSnapshot vol name disk)
      (Publishable D t disk sizeBytes) := by
  refine triple_bind (ask_finds (c := .getSnapshot vol.ns name)
    (P := fun snap w => w.lookupSnapshot vol.ns name = some snap) due_readable rfl
    (fun w snap h => foundOr_ok (.inl rfl) h)) ?_
  intro r
  cases r with
  | ok snap =>
    refine leads_from (provisionFromFoundSnapshot_leads hi snap) ?_
    intro j w h
    obtain ⟨hm,hk⟩ := find_some (h.2 snap rfl)
    exact ⟨h.1,hm,(Prod.mk.inj hk).1⟩
  | error e =>
    refine triple_bind (leads_from (ask_finds (c := .listSnapshots vol.ns)
      (P := fun snaps w => snaps = w.snapshots.filter (fun s => s.ns = vol.ns)) due_readable rfl ?_)
      (fun _ _ h => h.1)) ?_
    · intro w snaps h
      cases h
      rfl
    · intro r
      cases r with
      | error e => exact leads_from sourceRejected_leads (fun _ _ h => h.1)
      | ok snaps =>
        dsimp only
        split
        · exact leads_from sourceRejected_leads (fun _ _ h => h.1)
        · rename_i snap hf
          refine leads_from (provisionFromFoundSnapshot_leads hi snap) ?_
          intro j w h
          have hm := List.mem_of_find?_eq_some hf
          rw [h.2 snaps rfl, List.mem_filter, decide_eq_true_eq] at hm
          exact ⟨h.1,hm⟩

theorem provisionFresh_leads (hi : D.owner i vol) (size : ℤ) :
    Leads D.toFrame i l (Due D vol t disk sizeBytes) (provisionFresh vol disk size)
      (Publishable D t disk sizeBytes) := by
  refine triple_bind (ask_reads due_readable rfl) ?_
  intro r
  cases r with
  | error e => exact due_reports (fun _ => conditioned_alike vol _ _ _ _)
  | ok disks =>
    show Leads D.toFrame i l _ (createUnlessListed vol disk size disks) _
    unfold createUnlessListed
    split
    · exact due_done
    · refine triple_bind (Q := fun _ => Given D.cond (Due D vol t disk sizeBytes) i l) ?_ ?_
      · refine triple_given_call cluster_calm (fun _ _ h => h.1.1.1) ?_
        intro j w r w' h ho hx
        have hc := due_make h hi (.fresh size) ho hx
        exact ⟨hc.1.1.1,fun _ _ => hc⟩
      · intro r
        cases r with
        | ok u => exact due_done
        | error e => exact due_reports (fun hu => noted_alike hu (by decide) _ _ _ _)

theorem provisionDisk_leads (hi : D.owner i vol) (size : ℤ) :
    Leads D.toFrame i l (Due D vol t disk sizeBytes) (provisionDisk vol disk size)
      (Publishable D t disk sizeBytes) := by
  unfold provisionDisk
  split
  · unfold provisionFromSource
    split
    · exact provisionFromVolume_leads hi _
    · split
      · exact provisionFromSnapshot_leads hi _
      · exact leads_throw (fun _ _ h => h.1.1.1)
  · exact provisionFresh_leads hi size

theorem provisionOn_keeps (r : Reconciler) (t : TenantCluster) (pluginType : String)
    (hi : D.owner i vol) :
    Keeps D.toFrame i l (Due D vol t (diskVolume t pluginType vol)
      (roundUpSizeBytes vol.spec.capacityBytes minChunkSizeBytes))
      (provisionOn r vol t pluginType) := by
  refine triple_bind (hold_leads (F := fun b w => Admitted b t (diskVolume t pluginType vol) w) t
    admitted_revised) ?_
  intro a
  apply triple_given_fact
  intro hs
  refine triple_bind (leads_from (provisionDisk_leads (D.owner_same hi hs.toSameRecord) _)
    (fun _ _ h => ⟨⟨h.1.1,
      D.ok_alike (published_alike hs.toSameRecord hs.deleting t _ _) h.1.2⟩,h.2⟩)) ?_
  intro b
  exact settle_keeps

theorem duplicate_leads (vol : ProxmoxVolume) {fact : Ledger → Prop} :
    Leads D.toFrame i l (fun j w => Pass D vol j w ∧ fact w) (duplicate vol)
      (fun o j w => (Pass D vol j w ∧ fact w) ∧ (o = none → claim vol ≠ "" → Unclaimed vol w)) := by
  unfold duplicate
  split
  · rename_i hc
    exact triple_given_pure cluster_calm (fun _ _ h => ⟨h.1.1,h,fun _ hn => absurd hc hn⟩)
  · refine triple_bind (Q := fun others => Given D.cond (fun j w => (Pass D vol j w ∧ fact w) ∧
      others = w.volumes.filter (fun v => claim v = claim vol)) i l)
      (need_leads (fact_readable pass_readable) rfl ?_) ?_
    · intro w others h
      cases h
      rfl
    · intro others
      refine triple_given_pure cluster_calm (fun j w h => ⟨h.1.1.1,h.1,?_⟩)
      intro ho _
      rw [h.2] at ho
      exact ho

/-- The plugin decides the name of the disk, and the discipline whether it may be used. -/
theorem pluginType_leads {t : TenantCluster} (hi : D.owner i vol) :
    Leads D.toFrame i l (fun j w => Pass D vol j w ∧ Eligible vol t w)
      (storagePluginType vol.spec.region vol.spec.zone vol.spec.storage)
      (fun p j w => Pass D vol j w ∧ Eligible vol t w ∧ ∀ pluginType, p = .ok pluginType →
        Due D vol t (diskVolume t pluginType vol)
          (roundUpSizeBytes vol.spec.capacityBytes minChunkSizeBytes) j w) := by
  refine triple_bind (Q := fun r => Given D.cond (fun j w =>
    (Pass D vol j w ∧ Eligible vol t w) ∧ ∀ storages, r = .ok storages →
      ∀ pluginType, pluginTypeOf vol.spec.region vol.spec.zone vol.spec.storage storages =
        .ok pluginType → D.Ok (published vol t (diskVolume t pluginType vol)
          (roundUpSizeBytes vol.spec.capacityBytes minChunkSizeBytes)) j w ∧
          Admitted vol t (diskVolume t pluginType vol) w) i l) ?_ ?_
  · refine ask_leads (fact_readable pass_readable) rfl ?_
    intro j w r hq hr hx ho storages hs pluginType hp
    have hst : storages = w.storages := by
      subst hs
      rcases hr with hr | ⟨e,_,hr⟩
      · cases hr
        rfl
      · cases hr
    subst hst
    have ha : Admitted vol t (diskVolume t pluginType vol) w := ⟨hq.2,pluginType,hp,rfl⟩
    exact ⟨D.ok_read rfl ho hx (D.publish hi ha hx hq.1.1),ha⟩
  · intro r
    cases r with
    | error e =>
      refine triple_given_pure cluster_calm (fun _ _ h => ⟨h.1.1.1,h.1.1,h.1.2,?_⟩)
      intro pluginType hp
      cases hp
    | ok storages =>
      refine triple_given_pure cluster_calm (fun _ _ h => ⟨h.1.1.1,h.1.1,h.1.2,?_⟩)
      intro pluginType hp
      obtain ⟨hok,ha⟩ := h.2 storages rfl pluginType hp
      exact ⟨⟨h.1.1,hok⟩,ha⟩

theorem provisionFor_keeps (r : Reconciler) (t : TenantCluster) (hi : D.owner i vol) :
    Keeps D.toFrame i l (fun j w => Pass D vol j w ∧ Eligible vol t w) (provisionFor r vol t) := by
  have hu : (duplicate vol).run.Uses reads := by
    unfold duplicate
    split
    · trivial
    · exact uses_try_bind ⟨rfl,fun _ => trivial⟩ (fun _ => trivial)
  refine triple_bind (reads_lead (fact_readable pass_readable) hu) ?_
  intro o
  cases o with
  | some other =>
    refine leads_from (Q := fun j w => Pass D vol j w ∧ Unsettled vol) ?_
      (fun _ _ h => ⟨h.1,.inl h.2.unready⟩)
    exact triple_given_fact (fun hu => rejectDuplicate_keeps hu)
  | none =>
    refine triple_bind (pluginType_leads hi) ?_
    intro p
    cases p with
    | error text =>
      refine leads_from (Q := fun j w => Pass D vol j w ∧ Unsettled vol) ?_
        (fun _ _ h => ⟨h.1,.inl h.2.1.unready⟩)
      exact triple_given_fact (fun hu => reject_keeps hu)
    | ok pluginType =>
      exact leads_from (provisionOn_keeps r t pluginType hi) (fun _ _ h => h.2.2 _ rfl)

end Provision

section Ready

variable {r : Reconciler}

theorem recordAppliedParams_keeps (hash : String) :
    Keeps D.toFrame i l (Pass D vol) (recordAppliedParams r vol hash) :=
  triple_bind (update_keeps ⟨⟨rfl,rfl,rfl,rfl,rfl⟩,rfl,rfl⟩ (List.Subset.refl _))
    (fun _ => keeps_pure (fun _ _ h => h))

theorem invalidVolumeID_keeps : Keeps D.toFrame i l (Pass D vol) (invalidVolumeID vol) :=
  pass_settles (conditioned_alike vol _ _ _ _)

theorem apply_leads {c : OpCall} (hr : D.runs r) (hi : D.owner i vol) (hready : isReady vol = true) :
    Leads D.toFrame i l (fun j w => Pass D vol j w ∧ Applying r vol w c) (ask c)
      (fun _ => Pass D vol) := by
  refine triple_given_call cluster_calm (fun _ _ h => h.1.1) ?_
  intro j w res w' h ho hx
  obtain ⟨hw,_⟩ := outcome_reads (applying_part h.2) ho
  subst hw
  have hg := D.good_apply hr hi h.1.2 hready h.2 ho hx h.1.1
  exact ⟨hg,fun _ _ => ⟨hg,h.1.2⟩⟩

def Holds (vol : ProxmoxVolume) (att : ProxmoxVolumeAttachment) (w : Ledger) : Prop :=
  att ∈ w.attachments ∧ att.ns = vol.ns ∧ att.volumeName = vol.name

theorem attachmentOf_holds {as : List ProxmoxVolumeAttachment} {att : ProxmoxVolumeAttachment}
    {w : Ledger} (h : attachmentOf vol as = some att)
    (has : as = w.attachments.filter (fun a => a.ns = vol.ns)) : Holds vol att w := by
  have hm := List.mem_of_find?_eq_some h
  rw [has, List.mem_filter, decide_eq_true_eq] at hm
  have hp := List.find?_some h
  rw [decide_eq_true_eq] at hp
  exact ⟨hm.1,hm.2,hp.1⟩

theorem attachments_leads {pre : String} :
    Leads D.toFrame i l (Pass D vol) (need (.listAttachments vol.ns) pre)
      (fun as j w => Pass D vol j w ∧
      as = w.attachments.filter (fun a => a.ns = vol.ns)) := by
  refine need_leads (P := fun (as : OpAnswer (.listAttachments vol.ns)) w =>
    as = w.attachments.filter (fun a => a.ns = vol.ns)) pass_readable rfl ?_
  intro w as h
  cases h
  rfl

theorem modifyOn_keeps (hr : D.runs r) (hi : D.owner i vol) (hready : isReady vol = true)
    (hash : String) (att : ProxmoxVolumeAttachment) {disk : Volume}
    (hd : parseVolumeID vol.status.volumeID = some disk) :
    Keeps D.toFrame i l (fun j w => Pass D vol j w ∧ Holds vol att w)
      (modifyOn r vol hash att disk) := by
  unfold modifyOn
  split
  · exact leads_from (pass_settles (conditioned_alike vol _ _ _ _)) (fun _ _ h => h.1)
  · rename_i options ho
    refine triple_bind (leads_from (apply_leads hr hi hready)
      (fun _ _ h => ⟨h.1,.modify att disk options h.2.1 h.2.2.1 h.2.2.2 hd ho⟩)) ?_
    intro res
    cases res with
    | error e => exact pass_reports (conditioned_alike vol _ _ _ _)
    | ok u => exact recordAppliedParams_keeps hash

theorem reconcileModify_keeps (hr : D.runs r) (hi : D.owner i vol) (hready : isReady vol = true)
    (hash : String) : Keeps D.toFrame i l (Pass D vol) (reconcileModify r vol hash) := by
  refine triple_bind attachments_leads ?_
  intro as
  dsimp only
  split
  · exact leads_from (recordAppliedParams_keeps hash) (fun _ _ h => h.1)
  · rename_i att hatt
    split
    · exact leads_from invalidVolumeID_keeps (fun _ _ h => h.1)
    · rename_i disk hd
      exact leads_from (modifyOn_keeps hr hi hready hash att hd)
        (fun _ _ h => ⟨h.1,attachmentOf_holds hatt h.2⟩)

theorem resizeOn_keeps (hr : D.runs r) (hi : D.owner i vol) (hready : isReady vol = true)
    {disk : Volume} (hd : parseVolumeID vol.status.volumeID = some disk)
    (att : ProxmoxVolumeAttachment) :
    Keeps D.toFrame i l (fun j w => Pass D vol j w ∧ Holds vol att w)
      (resizeOn r vol (roundUpSizeBytes vol.spec.capacityBytes minChunkSizeBytes) disk att) := by
  refine triple_bind (leads_from (apply_leads hr hi hready)
    (fun _ _ h => ⟨h.1,.expand att disk _ h.2.1 h.2.2.1 h.2.2.2 hd⟩)) ?_
  intro res
  cases res with
  | error e => exact pass_reports (conditioned_alike vol _ _ _ _)
  | ok u => exact pass_settles (alike_same ⟨rfl,rfl,rfl,rfl,rfl⟩ rfl rfl rfl rfl (.inr rfl) rfl)

theorem reconcileExpand_keeps (hr : D.runs r) (hi : D.owner i vol) (hready : isReady vol = true) :
    Keeps D.toFrame i l (Pass D vol) (reconcileExpand r vol
      (roundUpSizeBytes vol.spec.capacityBytes minChunkSizeBytes)) := by
  unfold reconcileExpand
  split
  · exact invalidVolumeID_keeps
  · rename_i disk hd
    refine triple_bind attachments_leads ?_
    intro as
    dsimp only
    split
    · exact keeps_pure (fun _ _ h => h.1.1)
    · rename_i att hatt
      exact leads_from (resizeOn_keeps hr hi hready hd att)
        (fun _ _ h => ⟨h.1,attachmentOf_holds hatt h.2⟩)

theorem reconcileReadyVolume_keeps (hr : D.runs r) (hi : D.owner i vol)
    (hready : isReady vol = true) : Keeps D.toFrame i l (Pass D vol) (reconcileReadyVolume r vol) := by
  unfold reconcileReadyVolume
  simp only
  split
  · exact reconcileExpand_keeps hr hi hready
  · split
    · exact reconcileModify_keeps hr hi hready _
    · exact keeps_pure (fun _ _ h => h.1)

theorem reconcileProvision_keeps (hr : D.runs r) (hi : D.owner i vol)
    (ha : vol.spec.adopt = false) (hd : vol.deleting = false) :
    Keeps D.toFrame i l (Pass D vol) (reconcileProvision r vol) := by
  unfold reconcileProvision
  split
  · rename_i hready
    exact reconcileReadyVolume_keeps hr hi hready
  · rename_i hready
    have hready' : isReady vol = false := by simpa using hready
    refine triple_bind (tenant_leads pass_readable vol.ns) ?_
    intro o
    cases o with
    | none => exact leads_from (reject_keeps (.inl hready')) (fun _ _ h => h.1)
    | some t =>
      dsimp only
      split
      · exact leads_from (reject_keeps (.inl hready')) (fun _ _ h => h.1)
      · rename_i href
        exact leads_from (provisionFor_keeps r t hi)
          (fun _ _ h => ⟨h.1,h.1.2,hready',ha,hd,h.2.symm,href⟩)

end Ready

section Adopt

theorem adoptDisk_keeps (r : Reconciler) (t : TenantCluster) (handle : Volume)
    (disk : ListedDisk) (ha : vol.spec.adopt = true) :
    Keeps D.toFrame i l (fun j w => Pass D vol j w ∧
        (ownedVMID t (newVolume handle.region handle.zone handle.storage disk.name).vmid = true →
          D.Ok (adoptedRecord vol t handle disk) j w))
      (adoptDisk r vol t handle disk) := by
  unfold adoptDisk
  simp only
  split
  · exact leads_from (reject_keeps (.inr (.inr ha))) (fun _ _ h => h.1)
  · rename_i hown
    refine triple_bind (leads_from (hold_leads (a := adoptedRecord vol t handle disk)
      (F := fun _ _ => True) t (fun _ _ _ _ _ => trivial))
      (fun _ _ h => ⟨⟨h.1,h.2 (by simpa using hown)⟩,trivial⟩)) ?_
    intro a
    apply triple_given_fact
    intro hs
    refine leads_from settle_keeps ?_
    intro j w h
    have hdel := (adoptedRecord_marks a t handle disk).1
    exact ⟨h.1.1.1,
      known_same (adoptedRecord_fields a t handle disk).1 hdel.symm (known_live h.1.1.2),
      D.ok_alike (adoptedRecord_alike hs.toSameRecord hs.deleting t handle disk) h.1.2⟩

theorem adopt_keeps (r : Reconciler) (t : TenantCluster) {handle : Volume} (hi : D.owner i vol)
    (ha : vol.spec.adopt = true) (hne : vol.spec.adoptVolumeID ≠ "")
    (hh : parseVolumeID vol.spec.adoptVolumeID = some handle)
    (hd : adoptRefusal t vol handle = none) :
    Keeps D.toFrame i l (fun j w => Pass D vol j w ∧ tenantFor vol.ns w.tenants = some t ∧
      Unclaimed vol w)
      (adopt r vol t handle) := by
  refine triple_bind (Q := fun res => Given D.cond (fun j w =>
    (Pass D vol j w ∧ tenantFor vol.ns w.tenants = some t ∧ Unclaimed vol w) ∧
    ∀ disks, res = .ok disks → ∀ disk, findDisk disks handle = some disk →
      ownedVMID t (newVolume handle.region handle.zone handle.storage disk.name).vmid = true →
      D.Ok (adoptedRecord vol t handle disk) j w) i l) ?_ ?_
  · refine ask_leads (fact_readable pass_readable) rfl ?_
    intro j w res hq hres hx ho disks hok disk hf hown
    have hans : (answer w (.listDisks handle.region handle.zone handle.storage)).1 = .ok disks := by
      rcases hres with hres | ⟨e,_,hres⟩
      · rw [← hres, hok]
      · rw [hok] at hres
        cases hres
    exact D.adopt hi hq.1.2 hq.2.1 ha hne hh hd hq.2.2 hans hf hown ho hx hq.1.1
  · intro res
    cases res with
    | error e =>
      exact leads_from (pass_reports (conditioned_alike vol _ _ _ _)) (fun _ _ h => h.1.1)
    | ok disks =>
      dsimp only
      split
      · exact leads_from (pass_settles (alike_trans (conditioned_alike vol _ _ _ _)
          (noted_alike (conditioned_unsettled (.inr (.inr ha))) (by decide) _ _ _ _)))
          (fun _ _ h => h.1.1)
      · rename_i disk hf
        exact leads_from (adoptDisk_keeps r t handle disk ha)
          (fun _ _ h => ⟨h.1.1,h.2 _ rfl disk hf⟩)

theorem adoptHandle_keeps (r : Reconciler) (t : TenantCluster) (hi : D.owner i vol)
    (ha : vol.spec.adopt = true) (hne : vol.spec.adoptVolumeID ≠ "") :
    Keeps D.toFrame i l (fun j w => Pass D vol j w ∧ tenantFor vol.ns w.tenants = some t)
      (adoptHandle r vol t) := by
  have hclaim : claim vol ≠ "" := by
    unfold claim
    split
    · assumption
    · exact hne
  have hu : Unsettled vol := .inr (.inr ha)
  unfold adoptHandle
  split
  · exact leads_from (reject_keeps hu) (fun _ _ h => h.1)
  · rename_i handle hh
    split
    · exact leads_from (reject_keeps hu) (fun _ _ h => h.1)
    · rename_i hnone
      refine triple_bind (duplicate_leads vol) ?_
      intro o
      cases o with
      | some other => exact leads_from (rejectDuplicate_keeps hu) (fun _ _ h => h.1.1)
      | none =>
        exact leads_from (adopt_keeps r t hi ha hne hh hnone)
          (fun _ _ h => ⟨h.1.1,h.1.2,h.2 rfl hclaim⟩)

theorem reconcileAdopt_keeps (r : Reconciler) (hi : D.owner i vol) (ha : vol.spec.adopt = true) :
    Keeps D.toFrame i l (Pass D vol) (reconcileAdopt r vol) := by
  have hu : Unsettled vol := .inr (.inr ha)
  refine triple_bind (tenant_leads pass_readable vol.ns) ?_
  intro o
  cases o with
  | none => exact leads_from (reject_keeps hu) (fun _ _ h => h.1)
  | some t =>
    show Keeps D.toFrame i l _ (ite _ _ _)
    split
    · exact leads_from (reject_keeps hu) (fun _ _ h => h.1)
    · split
      · exact leads_from (reject_keeps hu) (fun _ _ h => h.1)
      · rename_i hne
        exact leads_from (adoptHandle_keeps r t hi ha hne) (fun _ _ h => ⟨h.1,h.2.symm⟩)

end Adopt

section Delete

theorem releaseRecord_keeps :
    Keeps D.toFrame i l (fun j w => Pass D vol j w ∧ D.Free vol j w) (releaseRecord vol) := by
  refine triple_bind (Q := fun _ => Given D.cond D.Good i l) ?_ (fun _ => keeps_pure (fun _ _ h => h))
  refine triple_given_call cluster_calm (fun _ _ h => h.1.1) ?_
  intro j w r w' h ho hx
  have hg := D.good_release h.1.2 h.2 ho hx h.1.1
  exact ⟨hg,fun _ _ => hg⟩

theorem destroyDisk_keeps (r : Reconciler) (hi : D.owner i vol) (ha : vol.spec.adopt = false)
    (hd : vol.deleting = true) : Keeps D.toFrame i l (Pass D vol) (destroyDisk r vol) := by
  unfold destroyDisk
  split
  · rename_i hn
    exact leads_from releaseRecord_keeps (fun _ _ h => ⟨h,D.free_unnamed h.1 h.2 hd hn⟩)
  · rename_i hn
    refine triple_bind (Q := fun res => Given D.cond (fun j w => Pass D vol j w ∧
      (res = .ok () → D.Free vol j w)) i l) ?_ ?_
    · refine triple_given_call cluster_calm (fun _ _ h => h.1) ?_
      intro j w res w' h ho hx
      obtain ⟨hg,hfree⟩ := D.good_destroy hi h.2 ha hn ho hx h.1
      refine ⟨hg,?_⟩
      intro a hres
      cases hres
      refine ⟨⟨hg,?_⟩,hfree⟩
      rw [Live, Ledger.lookupVolume, (outcome_kept ho).volumes (by simp [part])]
      exact h.2
    · intro res
      cases res with
      | error e =>
        exact leads_from (pass_reports (noted_alike (.inr (.inl hd)) (by decide) _ _ _ _))
          (fun _ _ h => h.1)
      | ok u => exact leads_from releaseRecord_keeps (fun _ _ h => ⟨h.1,h.2 rfl⟩)

theorem reconcileDeleteProvisioned_keeps (r : Reconciler) (hi : D.owner i vol)
    (ha : vol.spec.adopt = false) (hd : vol.deleting = true) :
    Keeps D.toFrame i l (Pass D vol) (reconcileDeleteProvisioned r vol) := by
  refine triple_bind (need_reads pass_readable rfl) ?_
  intro as
  dsimp only
  split
  · exact pass_settles (noted_alike (.inr (.inl hd)) (by decide) _ _ _ _)
  · exact destroyDisk_keeps r hi ha hd

theorem releaseAdopted_keeps (r : Reconciler) (o : Option TenantCluster) (hd : vol.deleting = true) :
    Keeps D.toFrame i l (fun j w => Pass D vol j w ∧ D.Free vol j w) (releaseAdopted r vol o) := by
  cases o with
  | none => exact releaseRecord_keeps
  | some t =>
    show Keeps D.toFrame i l _ (ite _ _ _)
    split
    · exact leads_from (pass_settles (noted_alike (.inr (.inl hd)) (by decide) _ _ _ _))
        (fun _ _ h => h.1)
    · exact releaseRecord_keeps

theorem reconcileDelete_keeps {r : Reconciler} (hr : D.runs r) (hi : D.owner i vol)
    (hd : vol.deleting = true) : Keeps D.toFrame i l (Pass D vol) (reconcileDelete r vol) := by
  unfold reconcileDelete
  split
  · exact keeps_pure (fun _ _ h => h.1)
  · split
    · rename_i hc
      refine triple_bind (tenant_leads pass_readable vol.ns) (fun _ => ?_)
      exact leads_from (reconcileDeleteProvisioned_keeps r hi (by simpa using hc.2.1) hd)
        (fun _ _ h => h.1)
    · rename_i hc
      refine triple_bind (tenant_leads pass_readable vol.ns) (fun o => ?_)
      exact leads_from (releaseAdopted_keeps r o hd)
        (fun _ _ h => ⟨h.1,D.free_kept hr h.1.1 h.1.2 hd hc⟩)

end Delete

section Reconcile

theorem reconcileRecord_keeps {r : Reconciler} (hr : D.runs r) (hi : D.owner i vol) :
    Keeps D.toFrame i l (Pass D vol) (reconcileRecord r vol) := by
  unfold reconcileRecord
  split
  · rename_i hd
    exact reconcileDelete_keeps hr hi hd
  · rename_i hd
    split
    · rename_i ha
      exact reconcileAdopt_keeps r hi ha
    · rename_i ha
      exact reconcileProvision_keeps hr hi (by simpa using ha) (by simpa using hd)

theorem reconcile_keeps {r : Reconciler} (hr : D.runs r) {ns name : String}
    (hi : ∀ vol : ProxmoxVolume, vol.ns = ns → vol.name = name → D.owner i vol) :
    Keeps D.toFrame i l D.Good (VolumeLifecycle.reconcile r ns name) := by
  refine triple_bind (ask_finds (c := .getVolume ns name) (P := fun vol w =>
    Live vol w ∧ vol.ns = ns ∧ vol.name = name) good_readable rfl ?_) ?_
  · intro w vol hv
    have hl := foundOr_ok (.inl rfl) hv
    have hk := (find_some hl).2
    rw [volumeKey, Prod.mk.injEq] at hk
    refine ⟨?_,hk⟩
    rw [Live, hk.1, hk.2]
    exact hl
  · intro res
    cases res with
    | error e => exact unread_keeps e (fun _ _ h => h.1)
    | ok vol =>
      refine leads_from (Q := fun j w => Pass D vol j w ∧ vol.ns = ns ∧ vol.name = name) ?_
        (fun _ _ h => ⟨⟨h.1,(h.2 vol rfl).1⟩,(h.2 vol rfl).2⟩)
      apply triple_given_fact
      intro hk
      exact reconcileRecord_keeps hr (hi vol hk.1 hk.2)

end Reconcile

end ProxmoxCSI.VolumePasses
