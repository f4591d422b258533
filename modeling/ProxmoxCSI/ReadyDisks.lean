import ProxmoxCSI.VolumePasses
import Mathlib.Data.String.Basic

/-!
# One ready record for a disk

Records are provisioned and adopted by reconciles in any order, each of which
may stop anywhere. The name in the status of a ready record comes from the
record, its tenant and the storage, or from the handle it adopts; the claims on
one handle are told apart by age. Two names of one disk are not told apart.
-/

set_option autoImplicit false

namespace ProxmoxCSI.ReadyDisks
open CallProgram CallProgram.Prog CallSafety CallErrors CallSessions CallJournal CallSchedule
open TextScan VolumeHandle OperatorRecords RecordWrites DiskOwners ObjectStore VolumeReconciler
open VolumeLifecycle PassRules VolumePasses

abbrev Task := String × String

def program (r : Reconciler) (i : Task) : Prog OpCall OpReply (Except Failure Result) :=
  (VolumeLifecycle.reconcile r i.1 i.2).run

section Statement

def Ready (v : ProxmoxVolume) : Prop := v.status.phase = .ready

def OneRecord (w : Ledger) : Prop :=
  ∀ ns name v ns' name' v', w.lookupVolume ns name = some v → w.lookupVolume ns' name' = some v' →
    (ns,name) ≠ (ns',name') → Ready v → Ready v' → ∀ d ∈ w.disks, namesDisk v d → ¬namesDisk v' d

def MayName (w : Ledger) (v : ProxmoxVolume) (n : String) : Prop :=
  if v.spec.adopt then ∃ handle, parseVolumeID v.spec.adoptVolumeID = some handle ∧
    describes v handle = none ∧ (n = handle.disk ∨ handle.diskSuffix ≠ "" ∧
      (newVolume handle.region handle.zone handle.storage n).diskSuffix = handle.diskSuffix)
  else ∃ t pluginType, tenantFor v.ns w.tenants = some t ∧
    pluginTypeOf v.spec.region v.spec.zone v.spec.storage w.storages = .ok pluginType ∧
    n = (diskVolume t pluginType v).disk

def SameSpot (w : Ledger) (v v' : ProxmoxVolume) : Prop :=
  v.spec.region = v'.spec.region ∧ v.spec.storage = v'.spec.storage ∧
    (v.spec.zone = v'.spec.zone ∨ v.spec.zone = "" ∨ v'.spec.zone = "" ∨
      w.isShared v.spec.region v.spec.storage)

def NamesApart (w : Ledger) : Prop :=
  ∀ ns name v ns' name' v' n, w.lookupVolume ns name = some v →
    w.lookupVolume ns' name' = some v' → (ns,name) ≠ (ns',name') → SameSpot w v v' →
    MayName w v n → MayName w v' n →
    v.spec.adopt = true ∧ v'.spec.adopt = true ∧ v.spec.adoptVolumeID = v'.spec.adoptVolumeID

/-- Records that no reconcile has seen. -/
structure Unseen (w : Ledger) : Prop where
  keyed : Keyed volumeKey w.volumes
  spread : Spread w
  status : ∀ v ∈ w.volumes, v.status.phase ≠ .ready ∧ v.status.volumeID = ""

end Statement

section Claims

def Oldest (v : ProxmoxVolume) (w : Ledger) : Prop :=
  ∀ ns name o, w.lookupVolume ns name = some o → (ns,name) ≠ (v.ns,v.name) →
    o.spec.adopt = true → o.spec.adoptVolumeID = v.spec.adoptVolumeID → ¬olderClaim o v

theorem olderClaim_total (a b : ProxmoxVolume) (hne : (a.ns,a.name) ≠ (b.ns,b.name)) :
    olderClaim a b ∨ olderClaim b a := by
  unfold olderClaim
  by_cases hc : a.created = b.created
  · by_cases hn : a.ns = b.ns
    · have hm : a.name ≠ b.name := fun hm => hne (by rw [hn, hm])
      simp only [hc, hn, ne_eq, not_true_eq_false, if_false, decide_eq_true_eq]
      exact lt_or_gt_of_ne hm
    · simp only [hc, hn, Ne.symm hn, ne_eq, not_true_eq_false, not_false_eq_true, if_false, if_true,
        decide_eq_true_eq]
      exact lt_or_gt_of_ne hn
  · simp only [hc, Ne.symm hc, ne_eq, not_false_eq_true, if_true, decide_eq_true_eq]
    exact lt_or_gt_of_ne hc

theorem olderClaim_congr {a a' b b' : ProxmoxVolume} (ha : SameRecord a a') (hb : SameRecord b b') :
    olderClaim a b = olderClaim a' b' := by
  simp only [olderClaim, ha.ns, ha.name, ha.created, hb.ns, hb.name, hb.created]

end Claims

section Invariant

/-- What holds of a record whenever it is stored. -/
structure Sound (w : Ledger) (v : ProxmoxVolume) : Prop where
  named : Ready v → MayName w v v.status.diskName
  oldest : Ready v → v.spec.adopt = true → Oldest v w
  claims : v.spec.adopt = true → v.status.volumeID = "" ∨
    v.status.volumeID = v.spec.adoptVolumeID

/-- The records of the second ledger are those of the first, or some of them. -/
structure Descends (w w' : Ledger) : Prop where
  records : ∀ ns name v', w'.lookupVolume ns name = some v' →
    ∃ v, w.lookupVolume ns name = some v ∧ SameRecord v v'
  tenants : w'.tenants = w.tenants
  storages : w'.storages = w.storages

structure Good (w₀ : Ledger) (_ : Log Task) (w : Ledger) : Prop where
  keyed : Keyed volumeKey w.volumes
  spread : Spread w
  sound : ∀ ns name v, w.lookupVolume ns name = some v → Sound w v
  descends : Descends w₀ w

variable {w₀ w w' w'' : Ledger} {j : Log Task} {i : Task} {c : OpCall} {r : OpReply c}
  {a b vol v : ProxmoxVolume}

theorem sameRecord_symm (h : SameRecord a b) : SameRecord b a :=
  ⟨h.ns.symm,h.name.symm,h.uid.symm,h.created.symm,h.spec.symm⟩

theorem descends_refl (w : Ledger) : Descends w w :=
  ⟨fun _ _ v h => ⟨v,h,sameRecord_refl v⟩,rfl,rfl⟩

theorem descends_trans (h : Descends w w') (h' : Descends w' w'') : Descends w w'' := by
  refine ⟨?_,h'.tenants.trans h.tenants,h'.storages.trans h.storages⟩
  intro ns name v'' hv''
  obtain ⟨v',hv',hs'⟩ := h'.records ns name v'' hv''
  obtain ⟨v,hv,hs⟩ := h.records ns name v' hv'
  exact ⟨v,hv,sameRecord_trans hs hs'⟩

theorem mayName_congr {n : String} (ht : w'.tenants = w.tenants) (hst : w'.storages = w.storages)
    (hs : SameRecord a b) (h : MayName w a n) : MayName w' b n := by
  unfold MayName at h ⊢
  simp only [describes, diskVolume, ht, hst, ← hs.ns, ← hs.name, ← hs.spec]
  exact h

theorem oldest_congr (hd : Descends w w') (hs : SameRecord a b) (h : Oldest a w) : Oldest b w' := by
  intro ns name o ho hne hadopt hid
  obtain ⟨o',ho',hso⟩ := hd.records ns name o ho
  rw [← hs.ns, ← hs.name] at hne
  rw [← olderClaim_congr hso hs]
  exact h ns name o' ho' hne (by rw [hso.spec, hadopt]) (by rw [hso.spec, hid, hs.spec])

theorem sound_alike (hd : Descends w w') (ha : Alike a b) (h : Sound w a) : Sound w' b := by
  refine ⟨?_,?_,?_⟩
  · intro hr
    rw [← ha.diskName]
    exact mayName_congr hd.tenants hd.storages ha.toSameRecord (h.named (ha.ready hr))
  · intro hr hadopt
    exact oldest_congr hd ha.toSameRecord (h.oldest (ha.ready hr) (by rw [ha.spec, hadopt]))
  · intro hadopt
    rw [← ha.volumeID, ← ha.spec]
    exact h.claims (by rw [ha.spec, hadopt])

theorem sound_later (hd : Descends w w') (h : Sound w v) : Sound w' v :=
  sound_alike hd (revised_alike (revised_refl v)) h

theorem descends_of_eq (hv : w'.volumes = w.volumes) (ht : w'.tenants = w.tenants)
    (hs : w'.storages = w.storages) : Descends w w' := by
  refine ⟨?_,ht,hs⟩
  intro ns name v h
  rw [Ledger.lookupVolume, hv] at h
  exact ⟨v,h,sameRecord_refl v⟩

theorem descends_aside (hv : part c ≠ .volumes ∧ part c ≠ .tenants) (ho : OpOutcome c w r w') :
    Descends w w' := by
  have hk := outcome_kept ho
  exact descends_of_eq (hk.volumes hv.1) (hk.tenants hv.2) hk.storages

theorem good_aside (hg : Good w₀ j w) (hv : part c ≠ .volumes ∧ part c ≠ .tenants) (hs : Spread w')
    (ho : OpOutcome c w r w') : Good w₀ (⟨i,⟨c,r,w,w'⟩⟩::j) w' := by
  have hd := descends_aside hv ho
  refine ⟨outcome_keyed ho hg.keyed,hs,?_,descends_trans hg.descends hd⟩
  intro ns name v h
  rw [Ledger.lookupVolume, (outcome_kept ho).volumes hv.1] at h
  exact sound_later hd (hg.sound ns name v h)

theorem good_quiet (hg : Good w₀ j w) (hc : part c = .nothing) (ho : OpOutcome c w r w') :
    Good w₀ (⟨i,⟨c,r,w,w'⟩⟩::j) w' :=
  good_aside hg (by simp [hc]) (outcome_spread (.inr (by simp [hc])) ho hg.spread) ho

/-- After a call on the records each of them is an earlier one, or the one written. -/
theorem good_written (hg : Good w₀ j w) (hp : part c = .volumes) (ho : OpOutcome c w r w')
    (hw : ∀ ns name v', w'.lookupVolume ns name = some v' → w.lookupVolume ns name = some v' ∨
      ∃ v, w.lookupVolume ns name = some v ∧ SameRecord v v' ∧ Sound w v') :
    Good w₀ (⟨i,⟨c,r,w,w'⟩⟩::j) w' ∧ Descends w w' := by
  have hk := outcome_kept ho
  have hd : Descends w w' := by
    refine ⟨?_,hk.tenants (by simp [hp]),hk.storages⟩
    intro ns name v' hv'
    rcases hw ns name v' hv' with h | ⟨v,h,hs,_⟩
    · exact ⟨v',h,sameRecord_refl v'⟩
    · exact ⟨v,h,hs⟩
  refine ⟨⟨outcome_keyed ho hg.keyed,?_,?_,descends_trans hg.descends hd⟩,hd⟩
  · exact outcome_spread (.inr (by simp [hp])) ho hg.spread
  · intro ns name v' hv'
    rcases hw ns name v' hv' with h | ⟨v,h,hs,hsound⟩
    · exact sound_later hd (hg.sound ns name v' h)
    · exact sound_later hd hsound

theorem update_written {vol' : ProxmoxVolume} {r : OpReply (.update vol')} (hl : Live vol w)
    (hr : Revised vol vol') (ho : OpOutcome (.update vol') w r w') (ns name : String)
    (v' : ProxmoxVolume) (hv' : w'.lookupVolume ns name = some v') :
    w.lookupVolume ns name = some v' ∨ ∃ v, w.lookupVolume ns name = some v ∧ Alike v v' := by
  rcases outcome_record (by simp [part]) ho with ⟨rfl,_⟩ | ⟨rfl,_⟩
  · exact .inl hv'
  · rcases putVolume_lookup (writtenVolume_key vol') hv' with h | ⟨rfl,rfl,v₀,h,_,rfl⟩
    · exact .inl h
    · rw [Live, hr.ns, hr.name] at hl
      cases h.symm.trans hl
      refine .inr ⟨vol,h,?_⟩
      rw [written_revised hr]
      exact revised_alike hr

theorem good_update {vol' : ProxmoxVolume} {r : OpReply (.update vol')} (hg : Good w₀ j w)
    (hl : Live vol w) (hr : Revised vol vol') (ho : OpOutcome (.update vol') w r w') :
    Good w₀ (⟨i,⟨_,r,w,w'⟩⟩::j) w' ∧ Descends w w' := by
  refine good_written hg rfl ho ?_
  intro ns name v' hv'
  rcases update_written hl hr ho ns name v' hv' with h | ⟨v,h,ha⟩
  · exact .inl h
  · exact .inr ⟨v,h,ha.toSameRecord,sound_alike (descends_refl w) ha (hg.sound ns name v h)⟩

theorem status_written {r : OpReply (.updateStatus vol)}
    (ho : OpOutcome (.updateStatus vol) w r w') (ns name : String) (v' : ProxmoxVolume)
    (hv' : w'.lookupVolume ns name = some v') :
    w.lookupVolume ns name = some v' ∨ ns = vol.ns ∧ name = vol.name ∧
      ∃ v, w.lookupVolume ns name = some v ∧ v.uid = vol.uid ∧ v' = reportedVolume vol v := by
  rcases outcome_record (by simp [part]) ho with ⟨rfl,_⟩ | ⟨rfl,_⟩
  · exact .inl hv'
  · exact putVolume_lookup (reportedVolume_key vol) hv'

theorem reported_alike (hn : v.ns = vol.ns) (hm : v.name = vol.name) (hu : v.uid = vol.uid)
    (hs : v.spec = vol.spec) (hc : v.created = vol.created) (hd : v.deleting = vol.deleting) :
    Alike vol (reportedVolume vol v) :=
  alike_same ⟨hn.symm,hm.symm,hu.symm,hc.symm,hs.symm⟩ hd.symm rfl rfl rfl (.inl rfl) rfl

theorem good_status {r : OpReply (.updateStatus vol)} (hg : Good w₀ j w) (hk : Known vol w)
    (hok : Sound w vol) (ho : OpOutcome (.updateStatus vol) w r w') :
    Good w₀ (⟨i,⟨_,r,w,w'⟩⟩::j) w' := by
  refine (good_written hg rfl ho ?_).1
  intro ns name v' hv'
  rcases status_written ho ns name v' hv' with h | ⟨rfl,rfl,v,h,hu,rfl⟩
  · exact .inl h
  · have hkey := (find_some h).2
    rw [volumeKey, Prod.mk.injEq] at hkey
    obtain ⟨_,hs,hc,hd⟩ := known_found hk h
    exact .inr ⟨v,h,⟨rfl,rfl,rfl,rfl,rfl⟩,
      sound_alike (descends_refl w) (reported_alike hkey.1 hkey.2 hu hs hc hd) hok⟩

theorem descends_status {r : OpReply (.updateStatus vol)}
    (ho : OpOutcome (.updateStatus vol) w r w') : Descends w w' := by
  have hk := outcome_kept ho
  refine ⟨?_,hk.tenants (by simp [part]),hk.storages⟩
  intro ns name v' hv'
  rcases status_written ho ns name v' hv' with h | ⟨_,_,v,h,_,rfl⟩
  · exact ⟨v',h,sameRecord_refl v'⟩
  · exact ⟨v,h,⟨rfl,rfl,rfl,rfl,rfl⟩⟩

theorem descends_update {vol' : ProxmoxVolume} {r : OpReply (.update vol')} (hl : Live vol w)
    (hr : Revised vol vol') (ho : OpOutcome (.update vol') w r w') : Descends w w' := by
  have hk := outcome_kept ho
  refine ⟨?_,hk.tenants (by simp [part]),hk.storages⟩
  intro ns name v' hv'
  rcases update_written hl hr ho ns name v' hv' with h | ⟨v,h,ha⟩
  · exact ⟨v',h,sameRecord_refl v'⟩
  · exact ⟨v,h,ha.toSameRecord⟩

theorem sound_published {t : TenantCluster} {pluginType : String} {sizeBytes : ℤ}
    (ha : vol.spec.adopt = false) (ht : tenantFor vol.ns w.tenants = some t)
    (hp : pluginTypeOf vol.spec.region vol.spec.zone vol.spec.storage w.storages =
      .ok pluginType) :
    Sound w (published vol t (diskVolume t pluginType vol) sizeBytes) := by
  obtain ⟨hs,_,hname,_⟩ := published_fields vol t (diskVolume t pluginType vol) sizeBytes
  have hf : (published vol t (diskVolume t pluginType vol) sizeBytes).spec.adopt = false := by
    rw [← hs.spec, ha]
  refine ⟨?_,?_,?_⟩
  · intro _
    rw [hname]
    refine mayName_congr rfl rfl hs ?_
    simp only [MayName, ha, Bool.false_eq_true, if_false]
    exact ⟨t,pluginType,ht,hp,rfl⟩
  · intro _ h
    rw [hf] at h
    cases h
  · intro h
    rw [hf] at h
    cases h

/-- The disk a listing gives for a handle has its name or its suffix. -/
theorem findDisk_name {disks : List ListedDisk} {handle : Volume} {disk : ListedDisk}
    (h : findDisk disks handle = some disk) : disk.name = handle.disk ∨ handle.diskSuffix ≠ "" ∧
      (newVolume handle.region handle.zone handle.storage disk.name).diskSuffix =
        handle.diskSuffix := by
  unfold findDisk at h
  rcases Option.or_eq_some_iff.mp h with h | ⟨_,h⟩
  · exact .inl (by simpa using List.find?_some h)
  · split at h
    · cases h
    · rename_i hs
      exact .inr ⟨hs,by simpa using List.find?_some h⟩

theorem claim_adopted (h : v.status.volumeID = "" ∨ v.status.volumeID = v.spec.adoptVolumeID) :
    claim v = v.spec.adoptVolumeID := by
  unfold claim
  split
  · rename_i hne
    exact h.resolve_left hne
  · rfl

theorem oldest_unclaimed (hg : Good w₀ j w) (hl : Live vol w) (ha : vol.spec.adopt = true)
    (hu : Unclaimed vol w) : Oldest vol w := by
  intro ns name o ho hne hadopt hid hold
  obtain ⟨hm,hk⟩ := find_some ho
  rw [volumeKey, Prod.mk.injEq] at hk
  have hco := claim_adopted ((hg.sound ns name o ho).claims hadopt)
  have hcv := claim_adopted ((hg.sound _ _ vol hl).claims ha)
  rw [Unclaimed, olderAmong, List.find?_eq_none] at hu
  have hn := hu o (List.mem_filter.mpr ⟨hm,by simp [hco, hcv, hid]⟩)
  rw [← hk.1, ← hk.2] at hne
  have hne' : ¬(o.ns = vol.ns ∧ o.name = vol.name) := fun h => hne (by rw [h.1, h.2])
  exact hn (by simp only [hne', not_false_eq_true, hold, and_self, decide_true])

theorem sound_adopted {t : TenantCluster} {handle : Volume} {disks : List ListedDisk}
    {disk : ListedDisk} (hg : Good w₀ j w) (hl : Live vol w) (ha : vol.spec.adopt = true)
    (hh : parseVolumeID vol.spec.adoptVolumeID = some handle) (hd : describes vol handle = none)
    (hu : Unclaimed vol w) (hf : findDisk disks handle = some disk) :
    Sound w (adoptedRecord vol t handle disk) := by
  obtain ⟨hs,hid,hname,_⟩ := adoptedRecord_fields vol t handle disk
  refine ⟨?_,?_,?_⟩
  · intro _
    rw [hname]
    refine mayName_congr rfl rfl hs ?_
    simp only [MayName, ha, if_true]
    exact ⟨handle,hh,hd,findDisk_name hf⟩
  · intro _ _
    exact oldest_congr (descends_refl w) hs (oldest_unclaimed hg hl ha hu)
  · intro _
    rw [hid, hs.spec]
    exact .inr rfl

end Invariant

def discipline (w₀ : Ledger) : Discipline Task where
  cond _ _ := True
  Good := Good w₀
  Ok vol _ w := Sound w vol
  Free _ _ _ := True
  runs _ := True
  owner _ _ := True
  owner_same _ _ := trivial
  good_read hc ho _ hg := good_quiet hg (reads_part hc) ho
  good_apply _ _ _ _ ha ho _ hg := good_quiet hg (applying_part ha) ho
  ok_live hg hl := hg.sound _ _ _ hl
  ok_alike ha h := sound_alike (descends_refl _) ha h
  good_update hl hr _ ho _ hg := (good_update hg hl hr ho).1
  good_status hk hok ho _ hg := good_status hg hk hok ho
  good_make _ _ hm ho _ hg := good_aside hg (by simp [part_makesDisk (making_makesDisk hm)])
    (outcome_spread (.inl (making_makesDisk hm)) ho hg.spread) ho
  good_destroy _ _ _ _ ho _ hg := ⟨good_aside hg (by simp [part])
    (spread_congr (delete_outcome ho) (outcome_kept ho).storages hg.spread) ho,fun _ => trivial⟩
  free_unnamed _ _ _ _ := trivial
  free_kept _ _ _ _ _ := trivial
  good_release hl _ ho _ hg := (good_update hg hl (unheld_revised _) ho).1
  ok_read hc ho _ h := sound_later (descends_aside (by simp [reads_part hc]) ho) h
  ok_update hl hr ho _ h := sound_later (descends_update hl hr ho) h
  ok_status _ ho _ h := sound_later (descends_status ho) h
  ok_make _ _ hm ho _ _ h :=
    sound_later (descends_aside (by simp [part_makesDisk (making_makesDisk hm)]) ho) h
  publish _ ha _ _ := by
    obtain ⟨_,hp,rfl⟩ := ha.named
    exact sound_published ha.provisioned ha.tenant hp
  adopt _ hl _ ha _ hh href hu _ hf _ ho _ hg := sound_later (descends_aside (by simp [part]) ho)
    (sound_adopted hg hl ha hh (adoptRefusal_none href).1 hu hf)

section Work

theorem task_keeps (w₀ : Ledger) (r : Reconciler) (i : Task) (l : Log Task) (w : Ledger)
    (hw : Every (discipline w₀).cond l → Good w₀ l w) :
    Safe cluster (Given (discipline w₀).cond (Good w₀) i l) (fun _ _ _ => True) (program r i) []
      w := by
  have hk : Keeps (discipline w₀).toFrame i l (Good w₀) (VolumeLifecycle.reconcile r i.1 i.2) :=
    reconcile_keeps trivial (fun _ _ _ => trivial)
  exact triple_task hk hw

theorem unseen_good {w : Ledger} (h : Unseen w) : Good w [] w := by
  refine ⟨h.keyed,h.spread,?_,descends_refl w⟩
  intro ns name v hv
  obtain ⟨hp,hid⟩ := h.status v (find_some hv).1
  exact ⟨fun hr => absurd hr hp,fun hr => absurd hr hp,fun _ => .inl hid⟩

/-- A disk that two records name lies where both specs say. -/
theorem sameSpot_of_names {w : Ledger} {v v' : ProxmoxVolume} {d : ListedDisk} (hs : Spread w)
    (hd : d ∈ w.disks) (hn : namesDisk v d) (hn' : namesDisk v' d) :
    SameSpot w v v' ∧ v.status.diskName = v'.status.diskName := by
  rw [namesDisk, reaches, decide_eq_true_eq, decide_eq_true_eq] at hn hn'
  obtain ⟨_,hr,hz,hst,hname⟩ := hn
  obtain ⟨_,hr',hz',hst',hname'⟩ := hn'
  refine ⟨⟨hr.symm.trans hr',hst.symm.trans hst',?_⟩,hname.symm.trans hname'⟩
  by_cases hnode : d.node = ""
  · have hsh := hs d hd hnode
    rw [hr, hst] at hsh
    exact .inr (.inr (.inr hsh))
  · rcases hz with hz | hz | hz
    · exact .inr (.inl hz)
    · rcases hz' with hz' | hz' | hz'
      · exact .inr (.inr (.inl hz'))
      · exact .inl (hz.symm.trans hz')
      · exact absurd hz' hnode
    · exact absurd hz hnode

theorem good_oneRecord {w₀ w : Ledger} {j : Log Task} (ha : NamesApart w₀) (hg : Good w₀ j w) :
    OneRecord w := by
  intro ns name v ns' name' v' hv hv' hne hr hr' d hd hn hn'
  obtain ⟨hspot,hname⟩ := sameSpot_of_names hg.spread hd hn hn'
  obtain ⟨u,hu,hs⟩ := hg.descends.records ns name v hv
  obtain ⟨u',hu',hs'⟩ := hg.descends.records ns' name' v' hv'
  have hm := (hg.sound ns name v hv).named hr
  have hm' := (hg.sound ns' name' v' hv').named hr'
  rw [← hname] at hm'
  have hspot₀ : SameSpot w₀ u u' := by
    rw [SameSpot, hs.spec, hs'.spec, Ledger.isShared, ← hg.descends.storages]
    exact hspot
  obtain ⟨had,had',hid⟩ := ha ns name u ns' name' u' _ hu hu' hne hspot₀
    (mayName_congr hg.descends.tenants.symm hg.descends.storages.symm (sameRecord_symm hs) hm)
    (mayName_congr hg.descends.tenants.symm hg.descends.storages.symm (sameRecord_symm hs') hm')
  rw [hs.spec] at had hid
  rw [hs'.spec] at had' hid
  have hk := (find_some hv).2
  have hk' := (find_some hv').2
  rw [volumeKey] at hk hk'
  have hold := (hg.sound ns name v hv).oldest hr had ns' name' v' hv' (hk ▸ hne.symm) had' hid.symm
  have hold' := (hg.sound ns' name' v' hv').oldest hr' had' ns name v hv (hk' ▸ hne) had hid
  rcases olderClaim_total v v' (by rw [hk, hk']; exact hne) with h | h
  · exact hold' h
  · exact hold h

/-- As long as names of one disk are told apart, no two ready records have one disk,
wherever the reconciles are stopped. -/
theorem ready_records_name_distinct_disks (r : Reconciler) {w₀ : Ledger}
    {b : Stand Task OpCall OpReply Ledger} (h₀ : Unseen w₀) (ha : NamesApart w₀)
    (hw : Work cluster (program r) ⟨[],w₀⟩ b) : OneRecord b.world :=
  good_oneRecord ha (work_given (task_keeps w₀ r) hw (unseen_good h₀)
    (every_of_forall (fun _ _ _ => trivial)))

end Work

section Sample

def adopting (name handle : String) (age : ℕ) : ProxmoxVolume :=
  { requestedVolume name age with
    spec := ⟨"r1","n1","local",1073741824,∅,none,∅,"",true,"r1/n1/local/" ++ handle⟩ }

def sampleDisk : ListedDisk := blueDisk "pvc-a"

def sampleTenant : TenantCluster := { blueTenant with legacyControllerVMIDs := [100] }

def sampleLedger (volumes : List ProxmoxVolume) : Ledger :=
    blueLedger sampleTenant volumes [sampleDisk]

theorem sample_unseen (a b : ProxmoxVolume) (hk : volumeKey a ≠ volumeKey b)
    (ha : a.status = Ledger.emptyStatus) (hb : b.status = Ledger.emptyStatus) :
    Unseen (sampleLedger [a,b]) := by
  refine ⟨by simp [sampleLedger, blueLedger, Keyed, hk],?_,?_⟩
  · intro d hd hn
    rw [sampleLedger, blueLedger, List.mem_singleton] at hd
    subst hd
    exact absurd hn (by decide)
  · intro v hv
    simp only [sampleLedger, blueLedger, List.mem_cons, List.not_mem_nil, or_false] at hv
    rcases hv with rfl | rfl
    · rw [ha]
      exact ⟨by decide,rfl⟩
    · rw [hb]
      exact ⟨by decide,rfl⟩

def aliased : Ledger :=
  sampleLedger [adopting "one" "vm-9999-pvc-a" 0,adopting "two" "vm-100-pvc-a" 1]

def bothAdopt : Stand Task OpCall OpReply Ledger :=
  turns prompt (program plainReconciler) ⟨[],aliased⟩ [("blue-ns","one"),("blue-ns","two")]

def readyOn (w : Ledger) (ns name : String) (d : ListedDisk) : Bool :=
  (w.lookupVolume ns name).any (fun v => v.status.phase = .ready ∧ namesDisk v d)

theorem readyOn_some {w : Ledger} {ns name : String} {d : ListedDisk} (h : readyOn w ns name d) :
    ∃ v, w.lookupVolume ns name = some v ∧ Ready v ∧ namesDisk v d := by
  cases hv : w.lookupVolume ns name with
  | none => simp [readyOn, hv] at h
  | some v =>
    rw [readyOn, hv, Option.any_some, decide_eq_true_eq] at h
    exact ⟨v,rfl,h.1,h.2⟩

/-- Both records are ready on the one disk there is. -/
theorem aliases_adopted_twice : Unseen aliased ∧
    Work cluster (program plainReconciler) ⟨[],aliased⟩ bothAdopt ∧
    ¬OneRecord bothAdopt.world := by
  refine ⟨sample_unseen _ _ (by decide) rfl rfl,turns_work prompt_cluster _ _ _,?_⟩
  intro h
  obtain ⟨hone,htwo,hdisk⟩ : readyOn bothAdopt.world "blue-ns" "one" sampleDisk ∧
      readyOn bothAdopt.world "blue-ns" "two" sampleDisk ∧ sampleDisk ∈ bothAdopt.world.disks := by
    decide +kernel
  obtain ⟨v,hv,hr,hn⟩ := readyOn_some hone
  obtain ⟨v',hv',hr',hn'⟩ := readyOn_some htwo
  exact h _ _ v _ _ v' hv hv' (by decide) hr hr' sampleDisk hdisk hn hn'

def separate : Ledger :=
  sampleLedger [adopting "one" "vm-9999-pvc-a" 0,requestedVolume "pvc-b" 1]

def adoptAndProvision : Stand Task OpCall OpReply Ledger :=
  turns prompt (program plainReconciler) ⟨[],separate⟩ [("blue-ns","pvc-b"),("blue-ns","one")]

theorem separate_cases {ns name : String} {v : ProxmoxVolume}
    (h : separate.lookupVolume ns name = some v) :
    (ns,name) = ("blue-ns","one") ∧ v = adopting "one" "vm-9999-pvc-a" 0 ∨
      (ns,name) = ("blue-ns","pvc-b") ∧ v = requestedVolume "pvc-b" 1 := by
  obtain ⟨hm,hk⟩ := find_some h
  simp only [separate, sampleLedger, blueLedger, List.mem_cons, List.not_mem_nil, or_false] at hm
  rcases hm with rfl | rfl
  · exact .inl ⟨hk.symm,rfl⟩
  · exact .inr ⟨hk.symm,rfl⟩

theorem separate_apart_names {n : String} (h : MayName separate (adopting "one" "vm-9999-pvc-a" 0) n)
    (h' : MayName separate (requestedVolume "pvc-b" 1) n) : False := by
  have hparse : parseVolumeID (adopting "one" "vm-9999-pvc-a" 0).spec.adoptVolumeID =
      some ⟨"r1","n1","n1","local","vm-9999-pvc-a"⟩ := by decide +kernel
  have hplugin : pluginTypeOf "r1" "n1" "local" separate.storages = .ok "lvmthin" := by
    decide +kernel
  obtain ⟨handle,hh,_,hn⟩ := h
  obtain ⟨t,p,ht,hp,rfl⟩ := h'
  cases hparse.symm.trans hh
  cases hplugin.symm.trans hp
  have ht' : t = sampleTenant := by
    have hm := List.mem_of_find?_eq_some ht
    simpa [separate, sampleLedger, blueLedger] using hm
  subst ht'
  have hd : (diskVolume sampleTenant "lvmthin" (requestedVolume "pvc-b" 1)).disk =
    "vm-9999-pvc-b" := by
    decide +kernel
  rw [hd] at hn
  rcases hn with hn | ⟨_,hn⟩
  · exact absurd hn (by decide)
  · exact absurd hn (by decide +kernel)

theorem separate_namesApart : NamesApart separate := by
  intro ns name v ns' name' v' n hv hv' hne _ hm hm'
  rcases separate_cases hv with ⟨hk,rfl⟩ | ⟨hk,rfl⟩
  · rcases separate_cases hv' with ⟨hk',rfl⟩ | ⟨hk',rfl⟩
    · exact absurd (hk.trans hk'.symm) hne
    · exact (separate_apart_names hm hm').elim
  · rcases separate_cases hv' with ⟨hk',rfl⟩ | ⟨hk',rfl⟩
    · exact (separate_apart_names hm' hm).elim
    · exact absurd (hk.trans hk'.symm) hne

theorem separate_records_ready_apart :
    readyOn adoptAndProvision.world "blue-ns" "one" sampleDisk ∧
    readyOn adoptAndProvision.world "blue-ns" "pvc-b" ⟨"r1","n1","local","vm-9999-pvc-b",1073741824⟩ ∧
    OneRecord adoptAndProvision.world :=
  ⟨by decide +kernel,by decide +kernel,ready_records_name_distinct_disks plainReconciler
    (sample_unseen _ _ (by decide) rfl rfl) separate_namesApart (turns_work prompt_cluster _ _ _)⟩

end Sample

end ProxmoxCSI.ReadyDisks
