import Mathlib.Data.List.Dedup
import Mathlib.Data.List.Perm.Lattice
import Mathlib.Data.List.Sort
import Mathlib.Data.Prod.Lex
import Mathlib.Data.String.Basic
import ProxmoxCSI.RenamedDisks

/-!
# Drift between the ledger and the storages

A sweep lists every storage a tenant may use or a record names. It reports the
disks of the driver that no record claims and the records without a disk, both
told apart by the suffix that survives a rename. What could not be listed is
reported as such, and nothing else is said about it.
-/

set_option autoImplicit false

namespace ProxmoxCSI.DriftSweep
open TextScan VolumeHandle DiskNames OperatorRecords RenamedDisks

section Sorting

variable {α β : Type} [LinearOrder β] (f : α → β)

def sortBy (l : List α) : List α := l.insertionSort (fun a b => f a ≤ f b)

theorem sortBy_perm (l : List α) : (sortBy f l).Perm l := List.perm_insertionSort _ l

theorem mem_sortBy {l : List α} {a : α} : a ∈ sortBy f l ↔ a ∈ l := (sortBy_perm f l).mem_iff

theorem sortBy_sorted (l : List α) : (sortBy f l).Pairwise (fun a b => f a ≤ f b) := by
  have ht : Std.Total (fun a b => f a ≤ f b) := ⟨fun a b => le_total (f a) (f b)⟩
  have hr : IsTrans α (fun a b => f a ≤ f b) := ⟨fun _ _ _ h h' => le_trans h h'⟩
  exact List.pairwise_insertionSort _ l

/-- The order of the keys fixes the order of a list whose members have distinct keys. -/
theorem sortBy_congr {l l' : List α} (h : l.Perm l')
    (hf : ∀ a ∈ l, ∀ b ∈ l, f a = f b → a = b) : sortBy f l = sortBy f l' := by
  refine List.Perm.eq_of_pairwise ?_ (sortBy_sorted f l) (sortBy_sorted f l')
    ((sortBy_perm f l).trans (h.trans (sortBy_perm f l').symm))
  intro a b ha hb hab hba
  exact hf a ((mem_sortBy f).mp ha) b (h.mem_iff.mpr ((mem_sortBy f).mp hb)) (le_antisymm hab hba)

end Sorting

structure Target where
  region : String
  storage : String
  deriving DecidableEq

structure Disk where
  region : String
  node : String
  storage : String
  name : String
  vmid : ℤ
  sizeBytes : ℤ
  deriving DecidableEq

inductive DiskError where
  | storageNotFound
  | other (text : String)

/-- The disks of a storage on all nodes that serve it. -/
structure DiskReader where
  listDisks : Target → Except DiskError (List Disk)
  stamped : ∀ t ds, listDisks t = .ok ds → ∀ d ∈ ds, d.region = t.region ∧ d.storage = t.storage

structure Orphan where
  region : String
  storage : String
  name : String
  vmid : ℤ
  sizeBytes : ℤ
  deriving DecidableEq

structure Missing where
  ns : String
  name : String
  volumeID : String
  deriving DecidableEq

structure Report where
  orphans : List Orphan
  missing : List Missing
  unreadable : List String

section Sweep

def Disk.suffix (d : Disk) : String := (newVolume d.region "" d.storage d.name).diskSuffix

def Disk.target (d : Disk) : Target := ⟨d.region,d.storage⟩

def Disk.orphan (d : Disk) : Orphan := ⟨d.region,d.storage,d.name,d.vmid,d.sizeBytes⟩

def Target.text (t : Target) : String := t.region ++ "/" ++ t.storage

def claimKey (t : Target) (suffix : String) : String := t.text ++ "/" ++ suffix

def allTargets (tenants : List TenantCluster) (volumes : List ProxmoxVolume) : List Target :=
  tenants.flatMap (fun t => t.allowedStorages.map (fun s => ⟨t.region,s⟩)) ++
    volumes.filterMap (fun v => if v.spec.region = "" ∨ v.spec.storage = "" then none
      else some ⟨v.spec.region,v.spec.storage⟩)

def targets (tenants : List TenantCluster) (volumes : List ProxmoxVolume) : List Target :=
  sortBy (fun t => toLex (t.region,t.storage)) (allTargets tenants volumes).dedup

def entry (v : ProxmoxVolume) : Option (Target × String × Missing) :=
  if v.status.volumeID = "" then none
  else match parseVolumeID v.status.volumeID with
    | none => none
    | some handle =>
      if handle.diskSuffix = "" then none
      else some (⟨handle.region,handle.storage⟩,handle.diskSuffix,
        ⟨v.ns,v.name,v.status.volumeID⟩)

def claimed (volumes : List ProxmoxVolume) : List String :=
  (volumes.filterMap entry).map (fun e => claimKey e.1 e.2.1)

def ledger (volumes : List ProxmoxVolume) (t : Target) : List Missing :=
  ((volumes.filterMap entry).filter (fun e => e.1 = t)).map (fun e => e.2.2)

def driverDiskPrefix : String := "pvc-"

def orphansIn (disks : List Disk) (claimed : List String) : List Orphan :=
  (disks.filter (fun d => hasPrefix d.suffix driverDiskPrefix ∧
    claimKey d.target d.suffix ∉ claimed)).map Disk.orphan

def missingIn (disks : List Disk) (expected : List Missing) : List Missing :=
  expected.filter (fun m => match parseVolumeID m.volumeID with
    | none => false
    | some handle => handle.diskSuffix ∉ (disks.map Disk.suffix).filter (fun s => s ≠ ""))

def swept (r : Except DiskError (List Disk)) : Option (List Disk) :=
  match r with
  | .ok disks => some disks
  | .error .storageNotFound => some []
  | .error (.other _) => none

def orphansOf (volumes : List ProxmoxVolume) (reader : DiskReader) (t : Target) : List Orphan :=
  ((swept (reader.listDisks t)).map (fun disks => orphansIn disks (claimed volumes))).getD []

def missingOf (volumes : List ProxmoxVolume) (reader : DiskReader) (t : Target) : List Missing :=
  ((swept (reader.listDisks t)).map (fun disks => missingIn disks (ledger volumes t))).getD []

def reportOf (tenants : List TenantCluster) (volumes : List ProxmoxVolume) (reader : DiskReader) :
    Report where
  orphans := sortBy (fun o => toLex (o.region,toLex (o.storage,o.name)))
    ((targets tenants volumes).flatMap (orphansOf volumes reader))
  missing := sortBy (fun m => toLex (m.ns,m.name))
    ((targets tenants volumes).flatMap (missingOf volumes reader))
  unreadable := sortBy id (((targets tenants volumes).filter (fun t =>
    (swept (reader.listDisks t)).isNone)).map Target.text)

def sweep (volumes : Except String (List ProxmoxVolume)) (tenants : Except String (List TenantCluster))
    (reader : DiskReader) : Except String Report := do
  let volumes ← volumes.mapError (fun e => "listing volumes: " ++ e)
  let tenants ← tenants.mapError (fun e => "listing tenants: " ++ e)
  pure (reportOf tenants volumes reader)

end Sweep

section Membership

variable {tenants : List TenantCluster} {volumes : List ProxmoxVolume} {reader : DiskReader}
  {t : Target}

theorem mem_targets : t ∈ targets tenants volumes ↔ t ∈ allTargets tenants volumes := by
  rw [targets, mem_sortBy, List.mem_dedup]

theorem entry_some {v : ProxmoxVolume} {e : Target × String × Missing} (h : entry v = some e) :
    ∃ handle, parseVolumeID v.status.volumeID = some handle ∧ handle.diskSuffix ≠ "" ∧
      e = (⟨handle.region,handle.storage⟩,handle.diskSuffix,⟨v.ns,v.name,v.status.volumeID⟩) := by
  unfold entry at h
  split at h
  · cases h
  · split at h
    · cases h
    · rename_i handle hh
      split at h
      · cases h
      · rename_i hs
        cases h
        exact ⟨handle,hh,hs,rfl⟩

theorem entry_handle {v : ProxmoxVolume} {handle : Volume}
    (hh : parseVolumeID v.status.volumeID = some handle) (hs : handle.diskSuffix ≠ "") :
    entry v = some (⟨handle.region,handle.storage⟩,handle.diskSuffix,
      ⟨v.ns,v.name,v.status.volumeID⟩) := by
  have hid : v.status.volumeID ≠ "" := by
    intro h
    rw [h] at hh
    cases hh
  rw [entry, if_neg hid, hh]
  exact if_neg hs

/-- A record is missing when its storage was read and no disk there has its suffix. -/
theorem mem_missing {m : Missing} : m ∈ (reportOf tenants volumes reader).missing ↔
    ∃ v ∈ volumes, ∃ e, entry v = some e ∧ e.2.2 = m ∧ e.1 ∈ targets tenants volumes ∧
      ∃ disks, swept (reader.listDisks e.1) = some disks ∧ ∀ d ∈ disks, d.suffix ≠ e.2.1 := by
  have hfilter : ∀ {v : ProxmoxVolume} {e : Target × String × Missing}, entry v = some e →
      ∀ disks : List Disk, e.2.2 ∈ missingIn disks [e.2.2] ↔ ∀ d ∈ disks, d.suffix ≠ e.2.1 := by
    intro v e he disks
    obtain ⟨handle,hh,hs,rfl⟩ := entry_some he
    simp [missingIn, hh, hs]
  have hone : ∀ (disks : List Disk) (l : List Missing) (x : Missing),
      x ∈ missingIn disks l ↔ x ∈ l ∧ x ∈ missingIn disks [x] := by
    intro disks l x
    simp [missingIn, List.mem_filter]
  rw [reportOf, mem_sortBy, List.mem_flatMap]
  constructor
  · rintro ⟨t,ht,hm⟩
    unfold missingOf at hm
    cases hr : swept (reader.listDisks t) with
    | none => simp [hr] at hm
    | some disks =>
      rw [hr] at hm
      obtain ⟨hl,hself⟩ := (hone disks _ m).mp hm
      obtain ⟨e,hfe,rfl⟩ := List.mem_map.mp hl
      obtain ⟨hfe,het⟩ := List.mem_filter.mp hfe
      obtain ⟨v,hv,he⟩ := List.mem_filterMap.mp hfe
      obtain rfl := of_decide_eq_true het
      exact ⟨v,hv,e,he,rfl,ht,disks,hr,(hfilter he disks).mp hself⟩
  · rintro ⟨v,hv,e,he,rfl,ht,disks,hr,hd⟩
    refine ⟨e.1,ht,?_⟩
    unfold missingOf
    rw [hr]
    refine (hone disks _ _).mpr ⟨?_,(hfilter he disks).mpr hd⟩
    exact List.mem_map.mpr ⟨e,List.mem_filter.mpr ⟨List.mem_filterMap.mpr ⟨v,hv,he⟩,by simp⟩,rfl⟩

theorem mem_orphans {o : Orphan} : o ∈ (reportOf tenants volumes reader).orphans ↔
    ∃ t ∈ targets tenants volumes, ∃ disks, reader.listDisks t = .ok disks ∧ ∃ d ∈ disks,
      hasPrefix d.suffix driverDiskPrefix = true ∧
      claimKey d.target d.suffix ∉ claimed volumes ∧ d.orphan = o := by
  rw [reportOf, mem_sortBy, List.mem_flatMap]
  refine exists_congr fun t => and_congr_right fun _ => ?_
  unfold orphansOf
  cases reader.listDisks t with
  | error e => cases e <;> simp [swept, orphansIn]
  | ok disks => simp [swept, orphansIn, List.mem_map, List.mem_filter, and_assoc]

theorem cons_slash {r s x r' s' x' : List Char} (hr : '/' ∉ r) (hs : '/' ∉ s) (hr' : '/' ∉ r')
    (hs' : '/' ∉ s') (h : r ++ '/' :: (s ++ '/' :: x) = r' ++ '/' :: (s' ++ '/' :: x')) :
    r = r' ∧ s = s' ∧ x = x' := by
  have h₁ := congrArg (cutList '/') h
  rw [cutList_append _ _ _ hr, cutList_append _ _ _ hr'] at h₁
  obtain ⟨rfl,h₂⟩ := Prod.mk.inj (Option.some.inj h₁)
  have h₃ := congrArg (cutList '/') h₂
  rw [cutList_append _ _ _ hs, cutList_append _ _ _ hs'] at h₃
  obtain ⟨rfl,h₄⟩ := Prod.mk.inj (Option.some.inj h₃)
  exact ⟨rfl,rfl,h₄⟩

def Target.SlashFree (t : Target) : Prop := '/' ∉ t.region.toList ∧ '/' ∉ t.storage.toList

theorem claimKey_inj {t' : Target} {x x' : String} (h : t.SlashFree) (h' : t'.SlashFree)
    (he : claimKey t x = claimKey t' x') : t = t' ∧ x = x' := by
  have hl : ∀ (t : Target) (x : String), (claimKey t x).toList =
      t.region.toList ++ '/' :: (t.storage.toList ++ '/' :: x.toList) := by
    intro t x
    simp [claimKey, Target.text]
  have hs := congrArg String.toList he
  rw [hl, hl] at hs
  obtain ⟨h₁,h₂,h₃⟩ := cons_slash h.1 h.2 h'.1 h'.2 hs
  obtain ⟨r,s⟩ := t
  obtain ⟨r',s'⟩ := t'
  rw [String.toList_inj] at h₁ h₂ h₃
  simp only at h₁ h₂
  exact ⟨by rw [h₁, h₂],h₃⟩

end Membership

section Invariance

/-- The records have keys of their own and are where their handles say. -/
structure Orderly (volumes : List ProxmoxVolume) : Prop where
  keys : (volumes.map (fun v => (v.ns,v.name))).Nodup
  filled : ∀ v ∈ volumes, v.spec.region ≠ "" ∧ v.spec.storage ≠ ""
  slashFree : ∀ v ∈ volumes, (⟨v.spec.region,v.spec.storage⟩ : Target).SlashFree
  placed : ∀ v ∈ volumes, ∀ handle, parseVolumeID v.status.volumeID = some handle →
    handle.region = v.spec.region ∧ handle.storage = v.spec.storage

/-- The same disk, perhaps under the name for another owner. -/
structure Reowned (d d' : Disk) : Prop where
  place : d'.region = d.region ∧ d'.node = d.node ∧ d'.storage = d.storage
  size : d'.sizeBytes = d.sizeBytes
  name : d'.name = d.name ∨ ∃ a w, Numbered a ∧
    (newVolume d.region "" d.storage d.name).withVMID a = some w ∧ d'.name = w.disk

def Relisted (ds ds' : List Disk) : Prop := ∃ l, ds.Perm l ∧ List.Forall₂ Reowned l ds'

def Rereads (reader reader' : DiskReader) : Prop :=
  ∀ t, (∃ e, reader.listDisks t = .error e ∧ reader'.listDisks t = .error e) ∨
    ∃ ds ds', reader.listDisks t = .ok ds ∧ reader'.listDisks t = .ok ds' ∧ Relisted ds ds'

theorem reowned_suffix {d d' : Disk} (h : Reowned d d') : d'.suffix = d.suffix := by
  obtain ⟨hr,_,hs⟩ := h.place
  have hd : d'.suffix = (newVolume d.region "" d.storage d'.name).diskSuffix := by
    rw [Disk.suffix, hr, hs]
  rw [hd]
  rcases h.name with hn | ⟨a,w,ha,hw,hn⟩
  · rw [hn]
    rfl
  · rw [hn]
    exact (withVMID_renamed ha hw).diskSuffix

def Orphan.shape (o : Orphan) : String × String × ℤ × String :=
  (o.region,o.storage,o.sizeBytes,(newVolume o.region "" o.storage o.name).diskSuffix)

variable {tenants tenants' : List TenantCluster} {volumes volumes' : List ProxmoxVolume}
  {reader reader' : DiskReader}

theorem relisted_swept (h : Rereads reader reader') (t : Target) :
    (swept (reader.listDisks t) = none ∧ swept (reader'.listDisks t) = none) ∨
      ∃ ds ds', swept (reader.listDisks t) = some ds ∧ swept (reader'.listDisks t) = some ds' ∧
        Relisted ds ds' := by
  rcases h t with ⟨e,h₁,h₂⟩ | ⟨ds,ds',h₁,h₂,hr⟩
  · rw [h₁, h₂]
    cases e with
    | storageNotFound => exact .inr ⟨[],[],rfl,rfl,[],.nil,.nil⟩
    | other text => exact .inl ⟨rfl,rfl⟩
  · rw [h₁, h₂]
    exact .inr ⟨ds,ds',rfl,rfl,hr⟩

theorem relisted_suffixes {ds ds' : List Disk} (h : Relisted ds ds') :
    (ds.map Disk.suffix).Perm (ds'.map Disk.suffix) := by
  obtain ⟨l,hp,hf⟩ := h
  refine (hp.map _).trans (List.Perm.of_eq ?_)
  clear hp
  induction hf with
  | nil => rfl
  | cons h _ ih => rw [List.map_cons, List.map_cons, reowned_suffix h, ih]

theorem orphansIn_relisted {ds ds' : List Disk} (h : Relisted ds ds') {keys keys' : List String}
    (hk : ∀ k, k ∈ keys ↔ k ∈ keys') :
    ((orphansIn ds keys).map Orphan.shape).Perm ((orphansIn ds' keys').map Orphan.shape) := by
  obtain ⟨l,hp,hf⟩ := h
  refine (((hp.filter _).map _).map _).trans (List.Perm.of_eq ?_)
  clear hp
  induction hf with
  | nil => rfl
  | @cons d d' l l' h _ ih =>
    have hs := reowned_suffix h
    have ht : d'.target = d.target := by rw [Disk.target, Disk.target, h.place.1, h.place.2.2]
    have hshape : d'.orphan.shape = d.orphan.shape := by
      obtain ⟨hr,_,hst⟩ := h.place
      show (d'.region,d'.storage,d'.sizeBytes,d'.suffix) = (d.region,d.storage,d.sizeBytes,d.suffix)
      rw [hr, hst, h.size, hs]
    simp only [orphansIn, List.filter_cons, hs, ht, hk] at ih ⊢
    split
    · rw [List.map_cons, List.map_cons, List.map_cons, List.map_cons, hshape, ih]
    · exact ih

theorem targets_perm (ht : tenants.Perm tenants') (hv : volumes.Perm volumes') :
    targets tenants volumes = targets tenants' volumes' := by
  refine sortBy_congr _ (((ht.flatMap_right _).append (hv.filterMap _)).dedup) ?_
  intro a _ b _ h
  obtain ⟨h₁,h₂⟩ := Prod.mk.inj (toLex.injective h)
  obtain ⟨r,s⟩ := a
  simp only at h₁ h₂
  rw [h₁, h₂]

theorem missingIn_relisted {ds ds' : List Disk} (h : Relisted ds ds') (l : List Missing) :
    missingIn ds l = missingIn ds' l := by
  have hm : ∀ s, s ∈ (ds.map Disk.suffix).filter (fun s => s ≠ "") ↔
      s ∈ (ds'.map Disk.suffix).filter (fun s => s ≠ "") :=
    fun s => ((relisted_suffixes h).filter _).mem_iff
  unfold missingIn
  refine List.filter_congr fun m _ => ?_
  split
  · rfl
  · simp only [hm]

theorem missing_invariant (hk : Orderly volumes) (ht : tenants.Perm tenants')
    (hv : volumes.Perm volumes') (hr : Rereads reader reader') :
    (reportOf tenants volumes reader).missing = (reportOf tenants' volumes' reader').missing := by
  have hperm : ((targets tenants volumes).flatMap (missingOf volumes reader)).Perm
      ((targets tenants' volumes').flatMap (missingOf volumes' reader')) := by
    rw [← targets_perm ht hv]
    refine List.Perm.flatMap_left _ fun t _ => ?_
    unfold missingOf
    rcases relisted_swept hr t with ⟨h,h'⟩ | ⟨ds,ds',h,h',hl⟩
    · rw [h, h']
      exact .nil
    · rw [h, h']
      show (missingIn ds _).Perm (missingIn ds' _)
      rw [missingIn_relisted hl]
      exact ((((hv.filterMap entry).filter _).map _).filter _)
  refine sortBy_congr _ hperm ?_
  intro a ha b hb hab
  have hab := toLex.injective hab
  obtain ⟨v,hvm,e,he,rfl,_⟩ := mem_missing.mp ((mem_sortBy (fun m => toLex (m.ns,m.name))).mpr ha)
  obtain ⟨v',hvm',e',he',rfl,_⟩ := mem_missing.mp ((mem_sortBy (fun m => toLex (m.ns,m.name))).mpr hb)
  obtain ⟨_,_,_,rfl⟩ := entry_some he
  obtain ⟨_,_,_,rfl⟩ := entry_some he'
  obtain rfl := List.inj_on_of_nodup_map hk.keys hvm hvm' hab
  rfl

theorem orphans_invariant (ht : tenants.Perm tenants') (hv : volumes.Perm volumes')
    (hr : Rereads reader reader') :
    ((reportOf tenants volumes reader).orphans.map Orphan.shape).Perm
      ((reportOf tenants' volumes' reader').orphans.map Orphan.shape) := by
  refine ((sortBy_perm _ _).map _).trans (List.Perm.trans ?_ ((sortBy_perm _ _).map _).symm)
  rw [← targets_perm ht hv, List.map_flatMap, List.map_flatMap]
  refine List.Perm.flatMap_left _ fun t _ => ?_
  unfold orphansOf
  rcases relisted_swept hr t with ⟨h,h'⟩ | ⟨ds,ds',h,h',hl⟩
  · rw [h, h']
    exact .nil
  · rw [h, h']
    exact orphansIn_relisted hl (fun k => ((hv.filterMap entry).map _).mem_iff)

end Invariance

def Claims (volumes : List ProxmoxVolume) (d : Disk) : Prop :=
  ∃ v ∈ volumes, ∃ e, entry v = some e ∧ e.1 = d.target ∧ e.2.1 = d.suffix

/-- What a report says about records and disks. -/
structure Accounts (tenants : List TenantCluster) (volumes : List ProxmoxVolume) (reader : DiskReader)
    (r : Report) : Prop where
  missing : ∀ v ∈ volumes, ∀ e, entry v = some e → ∀ disks,
    swept (reader.listDisks e.1) = some disks → (e.2.2 ∈ r.missing ↔ ∀ d ∈ disks, d.suffix ≠ e.2.1)
  orphans : ∀ t ∈ targets tenants volumes, ∀ disks, reader.listDisks t = .ok disks → ∀ d ∈ disks,
    (Claims volumes d → ∀ o ∈ r.orphans, o ≠ d.orphan) ∧
      (¬Claims volumes d → hasPrefix d.suffix driverDiskPrefix = true → d.orphan ∈ r.orphans)
  unread : ∀ t, swept (reader.listDisks t) = none →
    (∀ o ∈ r.orphans, (⟨o.region,o.storage⟩ : Target) ≠ t) ∧
      ∀ v ∈ volumes, ∀ e, entry v = some e → e.1 = t → e.2.2 ∉ r.missing

section Accounting

variable {tenants : List TenantCluster} {volumes : List ProxmoxVolume} {reader : DiskReader}

theorem entry_unique (hk : Orderly volumes) {v v' : ProxmoxVolume} {e e' : Target × String × Missing}
    (hv : v ∈ volumes) (hv' : v' ∈ volumes) (he : entry v = some e) (he' : entry v' = some e')
    (h : e'.2.2 = e.2.2) : e' = e := by
  obtain ⟨_,_,_,rfl⟩ := entry_some he
  obtain ⟨_,_,_,rfl⟩ := entry_some he'
  obtain ⟨h₁,h₂,_⟩ := Missing.mk.inj h
  obtain rfl := List.inj_on_of_nodup_map hk.keys hv' hv (Prod.ext h₁ h₂)
  exact Option.some.inj (he'.symm.trans he)

theorem entry_target (tenants : List TenantCluster) (hk : Orderly volumes) {v : ProxmoxVolume}
    {e : Target × String × Missing} (hv : v ∈ volumes) (he : entry v = some e) :
    e.1 ∈ targets tenants volumes ∧ e.1.SlashFree := by
  obtain ⟨handle,hh,_,rfl⟩ := entry_some he
  obtain ⟨hr,hs⟩ := hk.placed v hv handle hh
  obtain ⟨hr',hs'⟩ := hk.filled v hv
  have ht : (⟨handle.region,handle.storage⟩ : Target) = ⟨v.spec.region,v.spec.storage⟩ := by
    rw [hr, hs]
  rw [ht]
  refine ⟨mem_targets.mpr (List.mem_append_right _ (List.mem_filterMap.mpr ⟨v,hv,?_⟩)),
    hk.slashFree v hv⟩
  exact if_neg (not_or.mpr ⟨hr',hs'⟩)

theorem accounts (hk : Orderly volumes)
    (ht : ∀ t ∈ targets tenants volumes, t.SlashFree) :
    Accounts tenants volumes reader (reportOf tenants volumes reader) := by
  refine ⟨?_,?_,?_⟩
  · intro v hv e he disks hr
    rw [mem_missing]
    constructor
    · rintro ⟨v',hv',e',he',hm,_,disks',hr',hd⟩
      obtain rfl := entry_unique hk hv hv' he he' hm
      cases hr.symm.trans hr'
      exact hd
    · exact fun hd => ⟨v,hv,e,he,rfl,(entry_target tenants hk hv he).1,disks,hr,hd⟩
  · intro t htm disks hl d hd
    obtain ⟨hdr,hds⟩ := reader.stamped t disks hl d hd
    have hdt : d.target = t := by
      rw [Disk.target, hdr, hds]
    have hkey : claimKey d.target d.suffix ∈ claimed volumes ↔ Claims volumes d := by
      rw [claimed, List.mem_map]
      constructor
      · rintro ⟨e,he,hke⟩
        obtain ⟨v,hv,he⟩ := List.mem_filterMap.mp he
        obtain ⟨h₁,h₂⟩ := claimKey_inj (entry_target tenants hk hv he).2
          (hdt ▸ ht t htm) hke
        exact ⟨v,hv,e,he,h₁,h₂⟩
      · rintro ⟨v,hv,e,he,h₁,h₂⟩
        exact ⟨e,List.mem_filterMap.mpr ⟨v,hv,he⟩,by rw [h₁, h₂]⟩
    constructor
    · rintro hc o ho rfl
      obtain ⟨_,_,_,_,d',_,_,hno,he⟩ := mem_orphans.mp ho
      obtain ⟨h₁,h₂,h₃,_⟩ := Orphan.mk.inj he
      have hsame : d'.target = d.target ∧ d'.suffix = d.suffix := by
        simp only [Disk.target, Disk.suffix, h₁, h₂, h₃, and_self]
      rw [hsame.1, hsame.2] at hno
      exact hno (hkey.mpr hc)
    · intro hc hp
      exact mem_orphans.mpr ⟨t,htm,disks,hl,d,hd,hp,fun h => hc (hkey.mp h),rfl⟩
  · intro t hr
    constructor
    · intro o ho hot
      obtain ⟨t',_,disks,hl,d,hd,_,_,rfl⟩ := mem_orphans.mp ho
      obtain ⟨hdr,hds⟩ := reader.stamped t' disks hl d hd
      have htt : t' = t := by
        rw [← hot]
        show t' = ⟨d.region,d.storage⟩
        rw [hdr, hds]
      rw [← htt, hl] at hr
      cases hr
    · rintro v hv e he rfl hm
      obtain ⟨v',hv',e',he',hme,_,disks,hr',_⟩ := mem_missing.mp hm
      obtain rfl := entry_unique hk hv hv' he he' hme
      cases hr.symm.trans hr'

end Accounting

/-- The report does not depend on the order of what is listed nor on the owners of the disks, and
says of every record and disk of a storage that was read what the listing says. -/
theorem drift_invariant (tenants tenants' : List TenantCluster)
    (volumes volumes' : List ProxmoxVolume) (reader reader' : DiskReader) (hk : Orderly volumes)
    (hf : ∀ t ∈ tenants, ∀ s ∈ t.allowedStorages, (⟨t.region,s⟩ : Target).SlashFree) :
    sweep (.ok volumes) (.ok tenants) reader = .ok (reportOf tenants volumes reader) ∧
    (tenants.Perm tenants' → volumes.Perm volumes' → Rereads reader reader' →
      (reportOf tenants volumes reader).missing = (reportOf tenants' volumes' reader').missing ∧
      ((reportOf tenants volumes reader).orphans.map Orphan.shape).Perm
        ((reportOf tenants' volumes' reader').orphans.map Orphan.shape)) ∧
    Accounts tenants volumes reader (reportOf tenants volumes reader) := by
  refine ⟨rfl,fun ht hv hr => ⟨missing_invariant hk ht hv hr,orphans_invariant ht hv hr⟩,
    accounts hk ?_⟩
  intro t ht
  rcases List.mem_append.mp (mem_targets.mp ht) with ht | ht
  · obtain ⟨c,hc,ht⟩ := List.mem_flatMap.mp ht
    obtain ⟨s,hs,rfl⟩ := List.mem_map.mp ht
    exact hf c hc s hs
  · obtain ⟨v,hv,ht⟩ := List.mem_filterMap.mp ht
    split at ht
    · cases ht
    · cases ht
      exact hk.slashFree v hv

section Samples

def sampleTenant (region : String) (storages : List String) : TenantCluster :=
  { blueTenant with
    region := region
    allowedStorages := storages }

def sampleRecord (region storage volumeID : String) : ProxmoxVolume :=
  { requestedVolume "v" 1 with
    ns := "t"
    spec := ⟨region,"",storage,1,∅,none,∅,"",false,""⟩
    status := ⟨volumeID,"",9999,1,[],false,.ready,1,[]⟩ }

def sampleDisk : Disk := ⟨"a/b","n","c","vm-200-pvc-x",200,1⟩

def sampleReader : DiskReader where
  listDisks t := .ok (if t = ⟨"a/b","c"⟩ then [sampleDisk] else [])
  stamped := by
    intro t ds h d hd
    cases h
    split at hd
    · rename_i ht
      rw [List.mem_singleton.mp hd, ht]
      exact ⟨rfl,rfl⟩
    · cases hd

def sampleLedger : List ProxmoxVolume := [sampleRecord "a" "b" "a//b/vm-100-c/pvc-x"]

theorem sampleLedger_orderly : Orderly sampleLedger where
  keys := List.nodup_singleton _
  filled v hv := by
    rw [List.mem_singleton.mp hv]
    decide
  slashFree v hv := by
    rw [List.mem_singleton.mp hv]
    exact ⟨by decide,by decide⟩
  placed v hv handle h := by
    rw [List.mem_singleton.mp hv] at h ⊢
    cases h
    exact ⟨rfl,rfl⟩

theorem drift_invariant_sample :
    Accounts [] sampleLedger sampleReader (reportOf [] sampleLedger sampleReader) :=
  (drift_invariant [] [] sampleLedger sampleLedger sampleReader sampleReader sampleLedger_orderly
    (by simp)).2.2

/-- A tenant whose region has a slash: the record on storage `b` of region `a` vouches for a disk on
storage `c` of region `a/b`. -/
theorem slashed_region_vouched :
    Orderly sampleLedger ∧
      (⟨"a/b","c"⟩ : Target) ∈ targets [sampleTenant "a/b" ["c"]] sampleLedger ∧
      sampleReader.listDisks ⟨"a/b","c"⟩ = .ok [sampleDisk] ∧
      hasPrefix sampleDisk.suffix driverDiskPrefix = true ∧ ¬Claims sampleLedger sampleDisk ∧
      (reportOf [sampleTenant "a/b" ["c"]] sampleLedger sampleReader).orphans = [] := by
  refine ⟨sampleLedger_orderly,?_,rfl,by decide,?_,by decide⟩
  · exact mem_targets.mpr List.mem_cons_self
  · rintro ⟨v,hv,e,he,ht,_⟩
    rw [List.mem_singleton.mp hv] at he
    cases he
    exact absurd ht (by decide)

end Samples

end ProxmoxCSI.DriftSweep
