import ProxmoxCSI.DirectTracks
import ProxmoxCSI.DiskNames
import ProxmoxCSI.PassFootprints

/-!
# The names of snapshots

The disk of a snapshot lies next to its source. For a file the directory comes
from the vmid of the source and the name from the caller, and the source may go
by the vmid of the VM it is plugged into, so handle and directory of a snapshot
depend on where the source is.
-/

set_option autoImplicit false

namespace ProxmoxCSI.SnapshotIdentity
open CallProgram CallProgram.Prog CallSafety CallErrors CallTracks TextScan VolumeHandle DiskNames

section Names

def extension (disk : String) : Option String :=
  (cutList '.' disk.toList.reverse).map (fun p => String.ofList p.1.reverse)

def directory (disk : String) : Option (String × String) :=
  match vmidRun disk.toList with
  | some (dir,'/'::file) => some (String.ofList dir,String.ofList file)
  | _ => none

def DirsAgree (disk : String) : Prop := ∀ dir file, directory disk = some (dir,file) →
    ownerOf file = dir

variable {v v₁ v₂ : Volume} {name : String} {id : ℤ}

theorem copyName_disk : (copyName v name).disk = match extension v.disk with
    | some ext => v.vmid ++ "/" ++ name ++ "." ++ ext
    | none => name := by
  unfold copyName extension
  cases cutList '.' v.disk.toList.reverse with
  | none => rfl
  | some p => rfl

theorem directory_plain (name : String) : directory ("vm-" ++ name) = none := by
  have hl : ("vm-" ++ name).toList = 'v' :: 'm' :: '-' :: name.toList := by simp
  simp [directory, vmidRun, hl]

theorem copyName_same (he : extension v₁.disk = extension v₂.disk) :
    (copyName v₁ name).disk = (copyName v₂ name).disk ↔ extension v₁.disk = none ∨
      v₁.vmid = v₂.vmid := by
  rw [copyName_disk, copyName_disk, he]
  cases extension v₂.disk with
  | none => simp
  | some ext =>
    simp only [reduceCtorEq, false_or, String.append_assoc]
    exact ⟨fun h => String.append_left_inj _ |>.mp h,fun h => by rw [h]⟩

/-- The directory of a snapshot is the one its name asks for exactly if the source has none
of its own or carries the same vmid. -/
theorem copyName_dirs (h : Numbered id) : DirsAgree (copyName v
    ("vm-" ++ toString id ++ "-" ++ name)).disk ↔
    extension v.disk = none ∨ v.vmid = "" ∨ v.vmid = toString id := by
  rw [copyName_disk]
  cases extension v.disk with
  | none =>
    simp only [true_or, iff_true]
    intro dir file hd
    rw [String.append_assoc, String.append_assoc, directory_plain] at hd
    cases hd
  | some ext =>
    simp only [reduceCtorEq, false_or]
    have hfile : v.vmid ++ "/" ++ ("vm-" ++ toString id ++ "-" ++ name) ++ "." ++ ext =
        v.vmid ++ "/" ++ ("vm-" ++ toString id ++ "-" ++ (name ++ "." ++ ext)) := by
      simp only [String.append_assoc]
    rw [hfile]
    have hl : (v.vmid ++ "/" ++ ("vm-" ++ toString id ++ "-" ++ (name ++ "." ++ ext))).toList =
        v.vmid.toList ++ '/' :: ("vm-" ++ toString id ++ "-" ++ (name ++ "." ++ ext)).toList := by
      simp
    rcases vmid_run v with hv | hv
    · simp only [hv, true_or, iff_true]
      intro dir file hd
      simp [directory, vmidRun] at hd
    · have hd : directory (v.vmid ++ "/" ++ ("vm-" ++ toString id ++ "-" ++ (name ++ "." ++ ext))) =
          some (v.vmid,"vm-" ++ toString id ++ "-" ++ (name ++ "." ++ ext)) := by
        unfold directory
        rw [hl, vmidRun_run rfl hv]
        simp only [String.ofList_toList]
      have hne : v.vmid ≠ "" := by
        intro he
        have hlong := hv.long
        rw [he] at hlong
        simp at hlong
      simp only [DirsAgree, hd, hne, false_or, Option.some.injEq, Prod.mk.injEq]
      constructor
      · intro ha
        rw [← ha _ _ ⟨rfl,rfl⟩, ownerOf_name h]
      · rintro he dir file ⟨rfl,rfl⟩
        rw [ownerOf_name h, he]

end Names

section Suffix

theorem extension_suffix {disk : String} {pre suf : List Char} (hd : disk.toList = pre ++ suf)
    (hp : '.' ∉ pre) : extension disk = extension (String.ofList suf) := by
  unfold extension
  rw [hd, String.toList_ofList, List.reverse_append]
  cases hc : cutList '.' suf.reverse with
  | none =>
    have hn : cutList '.' (suf.reverse ++ pre.reverse) = none := by
      rw [cutList_eq_none] at hc ⊢
      simp only [List.mem_append, List.mem_reverse, not_or] at hc ⊢
      exact ⟨hc,hp⟩
    rw [hn]
  | some p =>
    obtain ⟨a,b⟩ := p
    obtain ⟨hs,ha⟩ := cutList_some hc
    rw [hs, List.append_assoc, List.cons_append, cutList_append '.' a _ ha]
    rfl

theorem run_undotted {ds : List Char} (h : Run ds) : '.' ∉ ds := by
  intro hm
  exact absurd (h.digits '.' hm) (by decide)

theorem vmForm_suffix {dir : Option (List Char)} {s : List Char} {p : DiskParts}
    (h : vmForm dir s = some p) : ∃ pre, s = pre ++ p.suffix ∧ '.' ∉ pre := by
  unfold vmForm at h
  split at h
  · rename_i rest
    split at h
    · rename_i ds suf hr
      split at h
      · cases h
        obtain ⟨hrun,hs⟩ := run_of_vmidRun hr
        refine ⟨'v' :: 'm' :: '-' :: (ds ++ ['-']),?_,?_⟩
        · simp [hs]
        · simp [run_undotted hrun]
      · cases h
    · cases h
  · cases h

theorem diskParts_suffix {s : List Char} {p : DiskParts} (h : diskParts s = some p) :
    ∃ pre, s = pre ++ p.suffix ∧ '.' ∉ pre := by
  unfold diskParts at h
  split at h
  · rename_i dir rest hr
    obtain ⟨hrun,hs⟩ := run_of_vmidRun hr
    obtain ⟨pre,hpre,hn⟩ := vmForm_suffix h
    refine ⟨dir ++ '/'::pre,by simp [hs, hpre],?_⟩
    simp [run_undotted hrun, hn]
  · exact vmForm_suffix h

end Suffix

section Direct
open DirectCalls DirectVolumes DirectTracks

variable {C : Type} {d : Controller} {vol : Volume}

def shows (region storage disk : String) : Event DirectCall DirectReply (Site C) → Bool
  | ⟨.storageContent region' _ storage',.ok items,_,_⟩ =>
      region' = region ∧ storage' = storage ∧ items.any (fun c => c.volid = storage ++ ":" ++ disk)
  | _ => false

/-- The name under which the disk of the volume was listed: the name in the handle or, with
reassignment on, that of another owner. -/
structure Carries (d : Controller) (vol : Volume) (disk : String) (h : Past C) : Prop where
  shown : ∃ e ∈ h, shows vol.region vol.storage disk e = true
  name : disk = vol.disk ∨ d.reassignVolumeOnAttach ∧ vol.diskSuffix ≠ "" ∧ matchesSuffix vol disk

variable {req : CreateSnapshotRequest} {h : Past C} {disk : String}

theorem carries_cons (e : Event DirectCall DirectReply (Site C)) (hc : Carries d vol disk h) :
    Carries d vol disk (e::h) := by
  obtain ⟨x,hx,hs⟩ := hc.shown
  exact ⟨⟨x,List.mem_cons_of_mem e hx,hs⟩,hc.name⟩

theorem carries_extension (hc : Carries d vol disk h) : extension disk = extension vol.disk := by
  rcases hc.name with rfl | ⟨_,hne,hm⟩
  · rfl
  · unfold matchesSuffix at hm
    split at hm
    · rename_i p hp
      obtain ⟨pre,hs,hn⟩ := diskParts_suffix hp
      rw [extension_suffix hs hn, of_decide_eq_true hm]
      unfold Volume.diskSuffix at hne ⊢
      split
      · rename_i hnone
        rw [hnone] at hne
        exact absurd rfl hne
      · rename_i q hq
        obtain ⟨pre',hs',hn'⟩ := diskParts_suffix hq
        rw [extension_suffix hs' hn']
    · cases hm

variable {fit : Event DirectCall DirectReply (Site C) → Prop}

theorem listed_shown {size : ℤ} (hl : Listed vol disk size h) :
    ∃ e ∈ h, shows vol.region vol.storage disk e = true := by
  obtain ⟨e,he,hs⟩ := hl
  refine ⟨e,he,?_⟩
  unfold lists at hs
  split at hs
  · obtain ⟨hr,hst,hm⟩ := hs
    simp only [shows, hr, hst, true_and, List.any_eq_true]
    exact decide_eq_true ⟨_,hm,decide_eq_true rfl⟩
  · exact hs.elim

theorem checkVolume_carries :
    Yields fit (fun a h => ∃ disk, a.2 = { vol with disk := disk } ∧ Carries d vol disk h)
      (checkVolume d vol) h := by
  refine tracks_mono checkVolume_finds ?_
  rintro a h ⟨disk,ha,hl,hm⟩
  exact ⟨disk,ha,listed_shown hl,hm⟩

def snapshotHandle (d : Controller) (req : CreateSnapshotRequest) (vol : Volume) (disk : String) :
    String :=
  ({ vol with
    zone := if req.zone = "" then vol.zone else req.zone
    disk := (copyName { vol with disk := disk } ("vm-" ++ toString d.vmID ++ "-" ++ req.name)).disk } :
      Volume).volumeID

/-- What the response tells about the name of the source. -/
structure Reports (d : Controller) (req : CreateSnapshotRequest) (vol : Volume) (disk : String)
    (res : CreatedSnapshot) : Prop where
  handle : res.snapshotID = res.disk.volumeID
  snapshot : res.snapshotID = snapshotHandle d req vol disk
  source : res.sourceVolumeID = ({ vol with disk := disk } : Volume).volumeID
  name : res.disk.disk =
    (copyName { vol with disk := disk } ("vm-" ++ toString d.vmID ++ "-" ++ req.name)).disk

theorem snapshotZone_place {config : StorageConfig} {zone : String} {snapshot : Volume}
    {P : Past C → Prop} (hp : P h) :
    Yields fit (fun v h => P h ∧ v.region = snapshot.region ∧ v.storage = snapshot.storage ∧
      v.disk = snapshot.disk ∧ v.zone = if zone = "" then snapshot.zone else zone)
      (snapshotZone config zone snapshot) h := by
  unfold snapshotZone
  split
  · exact tracks_pure ⟨hp,rfl,rfl,rfl,rfl⟩
  · refine tracks_require ?_
    intro _
    exact tracks_pure ⟨hp,rfl,rfl,rfl,rfl⟩

theorem placedVolume_keeps {found : Volume} {P : Past C → Prop} (hP : ∀ e h, P h → P (e::h))
    (hp : P h) : Yields fit (fun v h => P h ∧ ∃ node, v = { found with node := node })
      (placedVolume found) h := by
  unfold placedVolume
  split
  · exact tracks_pure ⟨hp,found.node,rfl⟩
  · refine tracks_bind (yields_after hP _ hp) ?_
    intro node h hp
    exact tracks_pure ⟨hp,node,rfl⟩

def Told (d : Controller) (req : CreateSnapshotRequest) (res : CreatedSnapshot) (h : Past C) : Prop :=
  ∃ vol disk, parseVolumeID req.sourceVolumeID = some vol ∧ Carries d vol disk h ∧
    Reports d req vol disk res

theorem planSnapshot_tells : Yields fit (fun a h => ∃ vol disk node,
    parseVolumeID req.sourceVolumeID = some vol ∧ Carries d vol disk h ∧
    a.1 = { vol with disk := disk, node := node } ∧
    a.2.region = vol.region ∧ a.2.storage = vol.storage ∧
    a.2.disk = (copyName { vol with disk := disk } ("vm-" ++ toString d.vmID ++ "-" ++
      req.name)).disk ∧
    a.2.zone = if req.zone = "" then vol.zone else req.zone)
      (planSnapshot d req) ([] : Past C) := by
  unfold planSnapshot parseHandle
  cases hp : parseVolumeID req.sourceVolumeID with
  | none => exact tracks_bind (Q := fun _ _ => False) tracks_throw (fun _ _ h => h.elim)
  | some vol =>
    refine tracks_bind (Q := fun v _ => v = vol) (tracks_pure rfl) ?_
    rintro vol h rfl
    refine tracks_require (fun _ => tracks_bind (yields_any _) ?_)
    intro _ h _
    refine tracks_bind (yields_any _) ?_
    intro config h _
    refine tracks_bind (yields_any _) ?_
    intro _ h _
    refine tracks_bind checkVolume_carries ?_
    rintro ⟨size,found⟩ h ⟨disk,hfound,hc⟩
    refine tracks_bind (placedVolume_keeps (fun e h hc => carries_cons e hc) hc) ?_
    rintro placed h ⟨hc,node,rfl⟩
    refine tracks_bind (snapshotZone_place hc) ?_
    rintro snapshot h ⟨hc,hr,hs,hd,hz⟩
    have hfound : found = { vol with disk := disk } := hfound
    subst hfound
    exact tracks_pure ⟨vol,disk,node,rfl,hc,rfl,hr,hs,hd,hz⟩

theorem createSnapshot_tells : Yields fit (Told d req) (createSnapshot d req) ([] : Past C) := by
  refine tracks_bind planSnapshot_tells ?_
  rintro ⟨placed,snapshot⟩ h ⟨vol,disk,node,hp,hc,rfl,hr,hs,hd,hz⟩
  refine tracks_bind (yields_after (fun e h hc => carries_cons e hc) _ hc) ?_
  intro size h hc
  refine tracks_pure ⟨vol,disk,hp,hc,rfl,?_,rfl,hd⟩
  show snapshot.volumeID = _
  unfold snapshotHandle Volume.volumeID
  rw [hr, hs, hd, hz]

/-- What the response to one request says, by the name its source was listed under. -/
structure Identified (d : Controller) (req : CreateSnapshotRequest) (vol : Volume) (disk : String)
    (res : CreatedSnapshot) : Prop where
  handle : res.snapshotID = res.disk.volumeID
  directories : DirsAgree res.disk.disk ↔
    extension vol.disk = none ∨ ownerOf disk = "" ∨ ownerOf disk = toString d.vmID
  source : res.sourceVolumeID = req.sourceVolumeID ↔ disk = vol.disk

theorem volumeID_disk (v : Volume) (a b : String) :
    ({ v with disk := a } : Volume).volumeID = ({ v with disk := b } : Volume).volumeID ↔ a = b := by
  unfold Volume.volumeID
  exact String.append_right_inj _

theorem reports_identified {res : CreatedSnapshot} (hd : Numbered d.vmID)
    (hp : parseVolumeID req.sourceVolumeID = some vol) (hc : Carries d vol disk h)
    (hr : Reports d req vol disk res) : Identified d req vol disk res := by
  refine ⟨hr.handle,?_,?_⟩
  · rw [hr.name, copyName_dirs hd]
    show extension disk = none ∨ _ ↔ _
    rw [carries_extension hc]
    rfl
  · rw [hr.source, ← volumeID_of_parse hp]
    exact volumeID_disk vol disk vol.disk

theorem snapshotHandle_same (disk₁ disk₂ : String) :
    snapshotHandle d req vol disk₁ = snapshotHandle d req vol disk₂ ↔
      (copyName { vol with disk := disk₁ } ("vm-" ++ toString d.vmID ++ "-" ++ req.name)).disk =
        (copyName { vol with disk := disk₂ } ("vm-" ++ toString d.vmID ++ "-" ++ req.name)).disk :=
  volumeID_disk { vol with zone := if req.zone = "" then vol.zone else req.zone } _ _

theorem reports_same {disk₁ disk₂ : String} {res₁ res₂ : CreatedSnapshot} {h₁ h₂ : Past C}
    (hc₁ : Carries d vol disk₁ h₁) (hc₂ : Carries d vol disk₂ h₂)
    (hr₁ : Reports d req vol disk₁ res₁) (hr₂ : Reports d req vol disk₂ res₂) :
    res₁.snapshotID = res₂.snapshotID ↔ extension vol.disk = none ∨ ownerOf disk₁ = ownerOf disk₂ := by
  have he : extension disk₁ = extension disk₂ := (carries_extension hc₁).trans
    (carries_extension hc₂).symm
  rw [hr₁.snapshot, hr₂.snapshot, ← carries_extension hc₁]
  exact (snapshotHandle_same disk₁ disk₂).trans (copyName_same he)

end Direct

section Operator
open OperatorRecords VolumeReconciler SnapshotReconciler PassFootprints

abbrev OpPast := History OpCall OpReply Ledger

def reads (vol : ProxmoxVolume) : Event OpCall OpReply Ledger → Prop
  | ⟨.getVolume _ _,.ok v,_,_⟩ => v = vol
  | _ => False

def finds (ns : String) (t : TenantCluster) : Event OpCall OpReply Ledger → Prop
  | ⟨.listTenants,.ok ts,_,_⟩ => tenantFor ns ts = some t
  | _ => False

/-- The disk a snapshot is copied to, named by the tenant next to the source. -/
structure Named (vol : ProxmoxVolume) (src : Volume) (t : TenantCluster) (disk : String)
    (h : OpPast) : Prop where
  read : ∃ e ∈ h, reads vol e
  found : ∃ ns, ∃ e ∈ h, finds ns t e
  source : parseVolumeID vol.status.volumeID = some src
  name : ∃ name, disk = (copyName src ("vm-" ++ toString t.placeholderVMID ++ "-" ++ name)).disk

variable {snap : ProxmoxVolumeSnapshot} {vol : ProxmoxVolume} {r : Snapshotter}

theorem named_cons {src : Volume} {t : TenantCluster} {disk : String} {h : OpPast}
    (e : Event OpCall OpReply Ledger) (hn : Named vol src t disk h) :
    Named vol src t disk (e::h) := by
  obtain ⟨x,hx,hr⟩ := hn.read
  obtain ⟨ns,y,hy,hf⟩ := hn.found
  exact ⟨⟨x,List.mem_cons_of_mem e hx,hr⟩,⟨ns,y,List.mem_cons_of_mem e hy,hf⟩,hn.source,hn.name⟩

def Copies (h : OpPast) : OpCall → Prop
  | .copyDisk _ _ _ _ _ _ disk => ∃ vol src t, Named vol src t disk h
  | _ => True

theorem copies_cons (e : Event OpCall OpReply Ledger) (h : OpPast) (c : OpCall) (hc : Copies h c) :
    Copies (e::h) c := by
  cases c with
  | copyDisk a b c d z s disk =>
    obtain ⟨vol,src,t,hn⟩ := hc
    exact ⟨vol,src,t,named_cons e hn⟩
  | _ => trivial

variable {fit : Event OpCall OpReply Ledger → Prop} {h : OpPast}

abbrev Copying {α : Type} (fit : Event OpCall OpReply Ledger → Prop) (x : P α) (h : OpPast) : Prop :=
  Tracks fit Copies (fun _ _ => True) x h

def copyless : OpCall → Prop
  | .copyDisk _ _ _ _ _ _ _ => False
  | _ => True

theorem copying_free {α : Type} {x : P α} (hx : x.run.Uses copyless) : Copying fit x h := by
  refine tracks_free ?_ hx
  intro h c hu
  cases c with
  | copyDisk a b d e z s k => exact absurd hu id
  | _ => trivial

theorem snapshotNotes_copyless (c : OpCall) (hc : snapshotNotes c) : copyless c := by
  cases c with
  | copyDisk a b d e z s k => exact absurd hc.2 (by simp [RecordWrites.isWriter])
  | _ => trivial

theorem copying_notes {α : Type} {x : P α} (hx : x.run.Uses snapshotNotes) : Copying fit x h :=
  copying_free (uses_mono hx snapshotNotes_copyless)

theorem reconcileDelete_copyless (r : Snapshotter) (snap : ProxmoxVolumeSnapshot) :
    (SnapshotReconciler.reconcileDelete r snap).run.Uses copyless := by
  have hrelease := uses_mono (releaseSnapshot_notes snap) snapshotNotes_copyless
  unfold SnapshotReconciler.reconcileDelete
  split
  · trivial
  · split
    · exact hrelease
    · split
      · exact uses_try_bind (uses_need trivial) (fun _ => trivial)
      · refine uses_either (uses_ask trivial) (fun _ => hrelease) (fun _ => ?_)
        exact uses_if hrelease (uses_mono (reportedSnapshot_notes _ _ _) snapshotNotes_copyless)

theorem snapshotDisk_disk (t : TenantCluster) (snap : ProxmoxVolumeSnapshot) (src : Volume) :
    (snapshotDisk t snap src).disk =
      (copyName src ("vm-" ++ toString t.placeholderVMID ++ "-" ++ snap.name)).disk := by
  unfold snapshotDisk
  split
  · rfl
  · rfl

theorem copyFrom_copies {t : TenantCluster} {src : Volume} {ns : String} (hv : ∃ e ∈ h, reads vol e)
    (ht : ∃ e ∈ h, finds ns t e) (hp : parseVolumeID vol.status.volumeID = some src) :
    Copying fit (copyFrom r snap t vol src) h := by
  have hn : Named vol src t (snapshotDisk t snap src).disk h :=
    ⟨hv,⟨ns,ht⟩,hp,snap.name,snapshotDisk_disk t snap src⟩
  have hhold : Tracks fit Copies (fun _ => Named vol src t (snapshotDisk t snap src).disk)
      (holdSnapshot snap t) h := by
    unfold holdSnapshot
    split
    · exact tracks_pure hn
    · refine tracks_call trivial ?_
      intro r w w' _ _ _
      exact tracks_pure (named_cons _ hn)
  refine tracks_bind hhold ?_
  intro snap' h hn
  refine tracks_perform (show ∃ vol src t, Named vol src t _ h from ⟨vol,src,t,hn⟩) ?_
  intro r w w' _
  cases r with
  | error e => exact copying_notes (reportedSnapshot_notes _ _ _)
  | ok u => exact copying_notes (settledSnapshot_notes _ _)

theorem snapshotFor_copies {t : TenantCluster} {ns : String} (hv : ∃ e ∈ h, reads vol e)
    (ht : ∃ e ∈ h, finds ns t e) : Copying fit (snapshotFor r snap t vol) h := by
  have hcheck : Tracks fit Copies (fun _ h => (∃ e ∈ h, reads vol e) ∧ ∃ e ∈ h, finds ns t e)
      (checkStorageForSnapshot vol.spec.region vol.spec.storage) h := by
    obtain ⟨x,hx,hr⟩ := hv
    obtain ⟨y,hy,hf⟩ := ht
    refine tracks_perform trivial ?_
    intro r w w' _
    have hkeep : (∃ e ∈ ⟨.listStorages,r,w,w'⟩::h, reads vol e) ∧
        ∃ e ∈ ⟨.listStorages,r,w,w'⟩::h, finds ns t e :=
      ⟨⟨x,List.mem_cons_of_mem _ hx,hr⟩,⟨y,List.mem_cons_of_mem _ hy,hf⟩⟩
    cases r with
    | error e => exact tracks_pure hkeep
    | ok storages => exact tracks_pure hkeep
  refine tracks_bind hcheck ?_
  rintro text h ⟨hv,ht⟩
  cases text with
  | some text => exact copying_notes (settledSnapshot_notes _ _)
  | none =>
    dsimp only
    split
    · exact copying_notes (settledSnapshot_notes _ _)
    · rename_i src hp
      exact copyFrom_copies hv ht hp

theorem snapshotOf_copies (hv : ∃ e ∈ h, reads vol e) : Copying fit (snapshotOf r snap vol) h := by
  have hfound : Tracks fit Copies (fun found h => (∃ e ∈ h, reads vol e) ∧
      ∀ t, found = some t → ∃ e ∈ h, finds snap.ns t e) (tenant snap.ns) h := by
    obtain ⟨x,hx,hr⟩ := hv
    refine tracks_call trivial ?_
    intro r w w' _ ts hts
    have hts := mapError_ok hts
    subst hts
    refine tracks_pure ⟨⟨x,List.mem_cons_of_mem _ hx,hr⟩,?_⟩
    intro t ht
    exact ⟨_,List.mem_cons_self,ht⟩
  refine tracks_bind hfound ?_
  rintro found h ⟨hv,ht⟩
  cases found with
  | none => exact copying_notes (settledSnapshot_notes _ _)
  | some t =>
    dsimp only
    split
    · exact copying_notes (settledSnapshot_notes _ _)
    · exact snapshotFor_copies hv (ht t rfl)

theorem reconcile_copies (r : Snapshotter) (ns name : String) :
    Copying fit (SnapshotReconciler.reconcile r ns name) h := by
  refine tracks_perform trivial ?_
  intro a w w' _
  cases a with
  | error e => exact copying_free (uses_unread e)
  | ok snap =>
    show Tracks _ _ _ (reconcileSnapshot r snap) _
    unfold reconcileSnapshot
    split
    · exact copying_free (reconcileDelete_copyless r snap)
    · unfold SnapshotReconciler.reconcileCreate
      split
      · exact tracks_pure trivial
      · refine tracks_perform trivial ?_
        intro a w w' _
        cases a with
        | error e => exact copying_notes (settledSnapshot_notes _ _)
        | ok vol =>
          show Tracks _ _ _ (ite _ _ _ : P Result) _
          split
          · exact copying_notes (settledSnapshot_notes _ _)
          · exact snapshotOf_copies ⟨_,List.mem_cons_self,rfl⟩

theorem copied_named {S : Service OpCall OpReply Ledger} {ns name : String} {l l' : Ledger}
    {p : Prog OpCall OpReply (Except Failure Result)}
    (hr : Runs S ⟨[],l,(SnapshotReconciler.reconcile r ns name).run⟩ ⟨h,l',p⟩)
    {e : Event OpCall OpReply Ledger} (he : e ∈ h) : Copies h e.call := by
  rcases runs_allowed copies_cons hr (reconcile_copies r ns name) e he with he | he
  · cases he
  · exact he

end Operator

section Identity
open DirectCalls DirectVolumes DirectLookup DirectTracks CallSchedule ClusterState

/-- The handle of a snapshot is the same for two states of its source, its directory that of
its name and the source reported under the handle of the request exactly if the source is no
file or carries the vmids named here. -/
theorem snapshot_identity_iff {C : Type} (env : Past C → Site C → Site C → Prop) (d : Controller)
    (hd : Numbered d.vmID) :
    (∀ (req : CreateSnapshotRequest) (w₁ w₂ w₁' w₂' : Site C) (h₁ h₂ : Past C)
      (res₁ res₂ : CreatedSnapshot),
      Runs (site env) ⟨[],w₁,(createSnapshot d req).run⟩ ⟨h₁,w₁',.done (.ok res₁)⟩ →
      Runs (site env) ⟨[],w₂,(createSnapshot d req).run⟩ ⟨h₂,w₂',.done (.ok res₂)⟩ →
      ∃ vol disk₁ disk₂, parseVolumeID req.sourceVolumeID = some vol ∧
        Carries d vol disk₁ h₁ ∧ Carries d vol disk₂ h₂ ∧
        (res₁.snapshotID = res₂.snapshotID ↔
          extension vol.disk = none ∨ ownerOf disk₁ = ownerOf disk₂) ∧
        Identified d req vol disk₁ res₁ ∧ Identified d req vol disk₂ res₂) ∧
    ∀ (S : Service OperatorRecords.OpCall OperatorRecords.OpReply OperatorRecords.Ledger)
      (r : SnapshotReconciler.Snapshotter) (ns name : String) (l l' : OperatorRecords.Ledger)
      (h : OpPast)
      (p : Prog OperatorRecords.OpCall OperatorRecords.OpReply
        (Except OperatorRecords.Failure OperatorRecords.Result)),
      Runs S ⟨[],l,(SnapshotReconciler.reconcile r ns name).run⟩ ⟨h,l',p⟩ →
      ∀ e ∈ h, ∀ region zone storage source dstZone dstStorage disk,
        e.call = .copyDisk region zone storage source dstZone dstStorage disk →
        ∃ vol src t, Named vol src t disk h ∧ (Numbered t.placeholderVMID →
          (DirsAgree disk ↔ extension src.disk = none ∨ src.vmid = "" ∨
            src.vmid = toString t.placeholderVMID)) := by
  refine ⟨?_,?_⟩
  · intro req w₁ w₂ w₁' w₂' h₁ h₂ res₁ res₂ hr₁ hr₂
    obtain ⟨vol,disk₁,hp,hc₁,ht₁⟩ := runs_follow hr₁ createSnapshot_tells
    obtain ⟨vol₂,disk₂,hp₂,hc₂,ht₂⟩ := runs_follow hr₂ createSnapshot_tells
    cases hp.symm.trans hp₂
    exact ⟨vol,disk₁,disk₂,hp,hc₁,hc₂,reports_same hc₁ hc₂ ht₁ ht₂,
      reports_identified hd hp hc₁ ht₁,reports_identified hd hp hc₂ ht₂⟩
  · intro S r ns name l l' h p hr e he region zone storage source dstZone dstStorage disk hcall
    have hc := copied_named hr he
    rw [hcall] at hc
    obtain ⟨vol,src,t,hn⟩ := hc
    refine ⟨vol,src,t,hn,?_⟩
    intro ht
    obtain ⟨name,hname⟩ := hn.name
    rw [hname]
    exact copyName_dirs ht

def siteOf (disk : String) : Site ℕ := siteWith "dir" disk ⟨10,7⟩ 0

def sampleController : Controller := controllerWith true

def sampleRequest : CreateSnapshotRequest := ⟨"r/n1/data/9999/vm-9999-pvc.raw","snap",""⟩

def respondsWith (snapshot source disk : String) (res : CreatedSnapshot) (_ : Site ℕ) : Bool :=
  res.snapshotID = snapshot ∧ res.sourceVolumeID = source ∧ res.disk.disk = disk

theorem resting_answer : passes (respondsWith "r/n1/data/9999/vm-9999-snap.raw"
    "r/n1/data/9999/vm-9999-pvc.raw" "9999/vm-9999-snap.raw")
    (finish served (createSnapshot sampleController sampleRequest).run []
      (siteOf "9999/vm-9999-pvc.raw")) := by
  decide +kernel

theorem attached_answer : passes (respondsWith "r/n1/data/101/vm-9999-snap.raw"
    "r/n1/data/101/vm-101-pvc.raw" "101/vm-9999-snap.raw")
    (finish served (createSnapshot sampleController sampleRequest).run []
      (siteOf "101/vm-101-pvc.raw")) := by
  decide +kernel

theorem responds {snapshot source disk : String} {w : Site ℕ}
    (hp : passes (respondsWith snapshot source disk)
      (finish served (createSnapshot sampleController sampleRequest).run [] w)) :
    ∃ h w' res, Runs alone ⟨[],w,(createSnapshot sampleController sampleRequest).run⟩
        ⟨h,w',.done (.ok res)⟩ ∧
      res.snapshotID = snapshot ∧ res.sourceVolumeID = source ∧ res.disk.disk = disk := by
  obtain ⟨h,w',res,hr,hres⟩ := passes_runs served_lawful hp
  exact ⟨h,w',res,hr,of_decide_eq_true hres⟩

theorem foreign_directory {disk : String} (dir file : String) (hd : directory disk = some (dir,file))
    (ho : ownerOf file ≠ dir) : ¬DirsAgree disk := fun h => ho (h dir file hd)

end Identity

section Legacy
open OperatorRecords VolumeReconciler SnapshotReconciler CallSchedule

def sampleVolume : ProxmoxVolume :=
  { requestedVolume "pvc" 1 with
    spec := ⟨"r1","n1","local",1073741824,∅,none,∅,"",true,"r1/n1/local/100/vm-100-pvc.raw"⟩
    status := ⟨"r1/n1/local/100/vm-100-pvc.raw","100/vm-100-pvc.raw",100,1073741824,["n1"],true,.ready,
      1,[]⟩ }

def sampleSnapshot : ProxmoxVolumeSnapshot :=
  ⟨"blue-ns","snap",2,1,∅,[],false,"pvc","local","","",false,0,0,[]⟩

def sampleLedger : Ledger :=
  { blueLedger { blueTenant with legacyControllerVMIDs := [100] } [sampleVolume]
      [⟨"r1","n1","local","100/vm-100-pvc.raw",1073741824⟩] with
    snapshots := [sampleSnapshot]
    storages := [⟨"r1","n1","local",false,"dir",0,0⟩] }

def samplePass : Prog OpCall OpReply (Except Failure Result) :=
  (SnapshotReconciler.reconcile ⟨0⟩ "blue-ns" "snap").run

def copiesTo (disk : String) (e : Event OpCall OpReply Ledger) : Bool :=
  match e.call with
  | .copyDisk _ _ _ _ _ _ dstDisk => dstDisk = disk
  | _ => false

theorem copiesTo_spec {disk : String} {e : Event OpCall OpReply Ledger} (h : copiesTo disk e) :
    ∃ region zone storage source dstZone dstStorage,
      e.call = .copyDisk region zone storage source dstZone dstStorage disk := by
  unfold copiesTo at h
  split at h
  · rename_i region zone storage source dstZone dstStorage dstDisk hc
    cases of_decide_eq_true h
    exact ⟨region,zone,storage,source,dstZone,dstStorage,hc⟩
  · cases h

/-- The pass over the snapshot of an adopted file copies it to this disk. -/
theorem legacy_copied : ∃ h l, Runs cluster ⟨[],sampleLedger,samplePass⟩
    ⟨h,l,.done (.ok ⟨defaultSyncPeriod⟩)⟩ ∧
    ∃ e ∈ h, ∃ region zone storage source dstZone dstStorage,
      e.call = .copyDisk region zone storage source dstZone dstStorage "100/vm-9999-snap.raw" := by
  have hr := finish_runs prompt_cluster samplePass [] sampleLedger
  have hv : (finish prompt samplePass [] sampleLedger).value = .ok ⟨defaultSyncPeriod⟩ := by
    decide +kernel
  have hc : (finish prompt samplePass [] sampleLedger).hist.any (copiesTo "100/vm-9999-snap.raw") := by
    decide +kernel
  obtain ⟨e,he,hc⟩ := List.any_eq_true.mp hc
  rw [hv] at hr
  exact ⟨_,_,hr,e,he,copiesTo_spec hc⟩

end Legacy

section Samples
open DirectCalls DirectVolumes DirectLookup OperatorRecords VolumeReconciler

/-- The snapshot of a file goes by the VM the file is plugged into, and the snapshot of an
adopted file lies in a directory of another vmid than its name. -/
theorem snapshot_named_by_owner :
    (∃ h₁ h₂ w₁ w₂ res₁ res₂,
      Runs alone ⟨[],siteOf "9999/vm-9999-pvc.raw",(createSnapshot sampleController sampleRequest).run⟩
        ⟨h₁,w₁,.done (.ok res₁)⟩ ∧
      Runs alone ⟨[],siteOf "101/vm-101-pvc.raw",(createSnapshot sampleController sampleRequest).run⟩
        ⟨h₂,w₂,.done (.ok res₂)⟩ ∧
      res₁.snapshotID ≠ res₂.snapshotID ∧ ¬DirsAgree res₂.disk.disk ∧
      res₂.sourceVolumeID ≠ sampleRequest.sourceVolumeID) ∧
    ∃ h l, Runs cluster ⟨[],sampleLedger,samplePass⟩ ⟨h,l,.done (.ok ⟨defaultSyncPeriod⟩)⟩ ∧
      ∃ e ∈ h, ∃ region zone storage source dstZone dstStorage disk,
        e.call = .copyDisk region zone storage source dstZone dstStorage disk ∧ ¬DirsAgree disk := by
  refine ⟨?_,?_⟩
  · obtain ⟨h₁,w₁,res₁,hr₁,hs₁,_,_⟩ := responds resting_answer
    obtain ⟨h₂,w₂,res₂,hr₂,hs₂,ho₂,hd₂⟩ := responds attached_answer
    refine ⟨h₁,h₂,w₁,w₂,res₁,res₂,hr₁,hr₂,?_,?_,?_⟩
    · rw [hs₁, hs₂]
      decide
    · rw [hd₂]
      exact foreign_directory "101" "vm-9999-snap.raw" (by decide +kernel)
        (by decide +kernel)
    · rw [ho₂]
      decide
  · obtain ⟨h,l,hr,e,he,region,zone,storage,source,dstZone,dstStorage,hc⟩ := legacy_copied
    refine ⟨h,l,hr,e,he,region,zone,storage,source,dstZone,dstStorage,_,hc,?_⟩
    exact foreign_directory "100" "vm-9999-snap.raw" (by decide +kernel)
      (by decide +kernel)

/-- The two answers have different handles, so the file went by two vmids. -/
theorem snapshot_identity_iff_moved : ∃ vol disk₁ disk₂,
    parseVolumeID sampleRequest.sourceVolumeID = some vol ∧ ownerOf disk₁ ≠ ownerOf disk₂ ∧
      disk₂ ≠ vol.disk := by
  obtain ⟨h₁,w₁,res₁,hr₁,hs₁,_,_⟩ := responds resting_answer
  obtain ⟨h₂,w₂,res₂,hr₂,hs₂,ho₂,hd₂⟩ := responds attached_answer
  obtain ⟨vol,disk₁,disk₂,hp,_,_,hsame,_,hid⟩ := (snapshot_identity_iff (fun _ _ _ => False)
    sampleController ⟨by decide,by decide⟩).1 _ _ _ _ _ _ _ _ _ hr₁ hr₂
  refine ⟨vol,disk₁,disk₂,hp,?_,?_⟩
  · intro he
    have hne := hsame.mpr (.inr he)
    rw [hs₁, hs₂] at hne
    exact absurd hne (by decide)
  · intro he
    have hsource := hid.source.mpr he
    rw [ho₂] at hsource
    exact absurd hsource (by decide)

end Samples

end ProxmoxCSI.SnapshotIdentity
