import ProxmoxCSI.MigratorRules

/-!
# Conversion on the helper VM

Between its creation and the move of the converted copy, a helper VM that
nobody else touches carries the source volume, then a copy of it, in its slot.
The move therefore writes the content of the source. Destroying a VM frees only
disks whose name carries its vmid.
-/

set_option autoImplicit false

namespace ProxmoxCSI.HelperConversion
open CallProgram CallProgram.Prog CallSafety CallErrors TextScan VolumeHandle ClusterState
open ClusterService MigratorCalls MigrateProgram MigratorRules

variable {C : Type}

theorem targetDiskName_vmid (v v' : Volume) (h : v'.disk = targetDiskName v.disk) :
    v'.vmid = v.vmid := by
  by_cases h1 : hasSuffix v.disk ".qcow2"
  · have hs := hasSuffix_split h1
    rw [targetDiskName, if_pos h1] at h
    refine vmid_extension v' v (trimSuffix v.disk ".qcow2").toList "raw".toList "qcow2".toList
      ?_ hs (by simp) (by simp)
    rw [h, String.toList_append]
    rfl
  · by_cases h2 : hasSuffix v.disk ".vmdk"
    · have hs := hasSuffix_split h2
      rw [targetDiskName, if_neg h1, if_pos h2] at h
      refine vmid_extension v' v (trimSuffix v.disk ".vmdk").toList "raw".toList "vmdk".toList
        ?_ hs (by simp) (by simp)
      rw [h, String.toList_append]
      rfl
    · rw [targetDiskName, if_neg h1, if_neg h2] at h
      unfold Volume.vmid
      rw [h]

variable {w w' : World C} {vmid : ℤ} {storage disk : String}

theorem count_zero_of_plain (h : plainVolid (storage ++ ":" ++ disk)) :
    ':' ∉ storage.toList ∧ ',' ∉ storage.toList ∧ ',' ∉ disk.toList := by
  obtain ⟨hc,hk⟩ := of_decide_eq_true h
  have hl : (storage ++ ":" ++ disk).toList = storage.toList ++ ':' :: disk.toList := by
    rw [String.toList_append, String.toList_append]
    simp
  rw [hl] at hc hk
  rw [List.count_append, List.count_cons_self] at hc
  have hs : storage.toList.count ':' = 0 := by omega
  rw [List.mem_append, List.mem_cons, not_or, not_or] at hk
  exact ⟨List.count_eq_zero.mp hs,hk.1,hk.2.2⟩

theorem cut_volid (h : ':' ∉ storage.toList) :
    cut (storage ++ ":" ++ disk) ':' = some (storage,disk) := by
  have hl : (storage ++ ":" ++ disk).toList = storage.toList ++ ':' :: disk.toList := by
    rw [String.toList_append, String.toList_append]
    simp
  rw [cut, hl, cutList_append ':' _ _ h]
  simp

theorem firstPiece_of_notMem {s : String} (h : ',' ∉ s.toList) : firstPiece s ',' = s := by
  rw [firstPiece, cut, (cutList_eq_none ',' s.toList).mpr h]
  rfl

theorem volidKey_plain (w : World C) (region node : String) (hs : ':' ∉ storage.toList)
    (hk : ',' ∉ storage.toList) (hd : ',' ∉ disk.toList) :
    w.volidKey region node (storage ++ ":" ++ disk) = some (w.location region node storage,disk) := by
  have hn : ',' ∉ (storage ++ ":" ++ disk).toList := by
    rw [String.toList_append, String.toList_append, List.mem_append, List.mem_append, not_or, not_or]
    exact ⟨⟨hk,by decide⟩,hd⟩
  rw [World.volidKey, firstPiece_of_notMem hn, cut_volid hs]
  rfl

theorem freshDisk_spec {w : World C} {loc : ℕ} {name : String}
    (h : w.freshDisk loc vmid = some name) :
    w.disks.lookup (loc,name) = none ∧ ',' ∉ name.toList := by
  unfold World.freshDisk at h
  have hn := List.find?_some h
  rw [decide_eq_true_eq] at hn
  obtain ⟨n,_,rfl⟩ := List.mem_map.mp (List.mem_of_find?_eq_some h)
  refine ⟨AList.lookup_eq_none.mpr hn,?_⟩
  simp only [String.toList_append, List.mem_append, not_or]
  have hvmid : ',' ∉ (toString vmid).toList := numeral_notMem rfl (by decide) vmid
  exact ⟨⟨⟨⟨⟨hvmid,by decide⟩,hvmid⟩,by decide⟩,numeral_notMem rfl (by decide) (n : ℤ)⟩,by decide⟩

/-- What the others leave alone while the helper VM carries the volume: the VM, and
the disks of the volume's storage. -/
structure Quiet (vol : Volume) (vmid : ℤ) (w w' : World C) : Prop where
  vm : w'.vms.lookup (vol.region,vmid) = w.vms.lookup (vol.region,vmid)
  location : w'.location = w.location
  disks : ∀ name d, w.disks.lookup (w.location vol.region vol.node vol.storage,name) = some d →
    w'.disks.lookup (w.location vol.region vol.node vol.storage,name) = some d

theorem quiet_refl (vol : Volume) (vmid : ℤ) (w : World C) : Quiet vol vmid w w :=
  ⟨rfl,rfl,fun _ _ h => h⟩

theorem quiet_trans {vol : Volume} {a b c : World C} (h : Quiet vol vmid a b)
    (k : Quiet vol vmid b c) : Quiet vol vmid a c := by
  refine ⟨k.vm.trans h.vm,k.location.trans h.location,fun name d hd => ?_⟩
  have hk := k.disks name d
  rw [h.location] at hk
  exact hk (h.disks name d hd)

theorem quiet_hosted {vol : Volume} (h : Quiet vol vmid w w') (node : String) :
    hosted w' vol.region node vmid = hosted w vol.region node vmid := by
  rw [hosted, hosted, h.vm]

theorem hosted_setSlot {w : World C} {region node : String} {vm : VM} (volid : String)
    (h : hosted w region node vmid = some vm) :
    hosted (setSlot w region vmid vm volid) region node vmid =
      some { vm with scsi := vm.scsi.insert helperSlot volid } := by
  have hn : vm.node = node := by
    rw [hosted, Option.filter_eq_some_iff] at h
    exact of_decide_eq_true h.2
  rw [hosted, setSlot]
  simp [hn]

theorem serve_createVM {region node name : String} {u : Unit}
    (h : serve w (.createVM region node vmid name) = (.ok u,w')) :
    hosted w' region node vmid = some ⟨node,name,true,∅⟩ ∧ w'.disks = w.disks ∧
      w'.location = w.location := by
  simp only [serve] at h
  split at h
  · cases h
  · cases h
    simp [hosted]

theorem serve_attachSlot {region node volid : String} {u : Unit}
    (h : serve w (.attachSlot region node vmid volid) = (.ok u,w')) :
    ∃ vm, hosted w region node vmid = some vm ∧ plainVolid volid ∧
      w' = setSlot w region vmid vm volid := by
  simp only [serve] at h
  split at h
  · cases h
  · rename_i vm hv
    by_cases hp : plainVolid volid
    · rw [if_pos hp] at h
      cases h
      exact ⟨vm,hv,hp,rfl⟩
    · rw [if_neg hp] at h
      cases h

theorem serve_moveDisk {region node storage : String} {u : Unit}
    (h : serve w (.moveDisk region node vmid storage) = (.ok u,w')) :
    ∃ vm d name, hosted w region node vmid = some vm ∧
      ((vm.scsi.lookup helperSlot).bind (w.volidKey region node)).bind w.disks.lookup = some d ∧
      w.freshDisk (w.location region node storage) vmid = some name ∧
      w' = setSlot { w with disks := w.disks.insert (w.location region node storage,name) d }
        region vmid vm (storage ++ ":" ++ name) := by
  simp only [serve, convertSlot] at h
  split at h
  · cases h
  · rename_i vm hv
    split at h
    · rename_i d name hd hn
      cases h
      exact ⟨vm,d,name,hv,hd,hn,rfl⟩
    · cases h

theorem serve_slotConfig {region node x : String}
    (h : serve w (.slotConfig region node vmid) = (.ok x,w')) :
    ∃ vm, hosted w region node vmid = some vm ∧ x = (vm.scsi.lookup helperSlot).getD "" ∧ w' = w := by
  simp only [serve] at h
  split at h
  · cases h
  · rename_i vm hv
    cases h
    exact ⟨vm,hv,rfl,rfl⟩

theorem serve_copyContent {e : CopyEndpoint} {source target : Volume} {node : String} {u : Unit}
    (h : serve w (.copyContent e source node target) = (.ok u,w')) :
    ∃ d, w.disks.lookup (w.key source) = some d ∧ w.disks.lookup (w.keyOn target node) = none ∧
      w' = { w with disks := w.disks.insert (w.keyOn target node) d } := by
  simp only [serve, copyDisk] at h
  split at h
  · rename_i d hd ht
    cases h
    exact ⟨d,hd,ht,rfl⟩
  · cases h
  · cases h

theorem eraseKeys_lookup {ks : List DiskKey} {k : DiskKey} (h : k ∉ ks)
    (t : Table DiskKey (Disk C)) : (World.eraseKeys t ks).lookup k = t.lookup k := by
  induction ks generalizing t with
  | nil => rfl
  | cons x ks ih =>
    rw [List.mem_cons, not_or] at h
    show (World.eraseKeys (t.erase x) ks).lookup k = _
    rw [ih h.2, AList.lookup_erase_ne h.1]

theorem vmid_of_disk {v v' : Volume} (h : v.disk = v'.disk) : v.vmid = v'.vmid := by
  unfold Volume.vmid
  rw [h]

theorem deleteVM_keeps (w : World C) (region node : String) (vmid : ℤ) (v : Volume)
    (hv : v.vmid ≠ toString vmid) (loc : ℕ) :
    (serve w (.deleteVM region node vmid)).2.disks.lookup (loc,v.disk) =
      w.disks.lookup (loc,v.disk) := by
  simp only [serve]
  split
  · rfl
  · rename_i vm _
    apply eraseKeys_lookup
    intro hm
    obtain ⟨value,_,hf⟩ := List.mem_filterMap.mp hm
    have hd := of_decide_eq_true (Option.filter_eq_some_iff.mp hf).2
    exact hv (hd ▸ vmid_of_disk rfl)

theorem outcome_deleteVM_keeps {region node : String}
    {r : Except ApiError (Answer (.deleteVM region node vmid))}
    (h : ApiOutcome (.deleteVM region node vmid) w r w') (v : Volume) (hv : v.vmid ≠ toString vmid)
    (loc : ℕ) : w'.disks.lookup (loc,v.disk) = w.disks.lookup (loc,v.disk) := by
  cases h with
  | served => exact deleteVM_keeps w region node vmid v hv loc
  | failed => rfl
  | lost => exact deleteVM_keeps w region node vmid v hv loc

/-- `Win` holds from the creation of the helper VM up to the copy, and the
others are quiet as long as it does. -/
structure Undisturbed (vol : Volume) (vmid : ℤ)
    (env : History Call Reply (World C) → World C → World C → Prop)
    (Win : History Call Reply (World C) → Prop) : Prop where
  quiet : ∀ h w w', Win h → env h w w' → Quiet vol vmid w w'
  stays : ∀ h a r w w', Win h → (∀ e s n t, a ≠ .copyContent e s n t) → Win (⟨.api a,r,w,w'⟩::h)

section Chain

variable {env : History Call Reply (World C) → World C → World C → Prop}
  {Win : History Call Reply (World C) → Prop} {h h' : History Call Reply (World C)}
  {w w' : World C} {vol : Volume} {vmid : ℤ}

theorem quiet_interference (hu : Undisturbed vol vmid env Win) (hw : Win h)
    (hi : Interference (cluster env) h w w') : Quiet vol vmid w w' := by
  induction hi with
  | refl => exact quiet_refl vol vmid w
  | tail _ he ih => exact quiet_trans ih (hu.quiet _ _ _ hw he)

/-- A served call inside the window, with the quiet steps around it. -/
theorem window_need (hu : Undisturbed vol vmid env Win) (hw : Win h) {a : Api}
    (hc : ∀ e s n t, a ≠ .copyContent e s n t) (hn : ∀ n, a ≠ .nextEvent n)
    {wrap : ApiError → GoError} {x : Answer a}
    (hr : Runs (cluster env) ⟨h,w,(need a wrap).run⟩ ⟨h',w',.done (.ok x)⟩) :
    ∃ w₁ w₂, Quiet vol vmid w w₁ ∧ serve w₁ a = (.ok x,w₂) ∧ Quiet vol vmid w₂ w' ∧ Win h' := by
  obtain ⟨w₁,w₂,hi,ho,rfl,hi'⟩ := runs_need hr
  have hw' := hu.stays h a (.ok x) w₁ w₂ hw hc
  exact ⟨w₁,w₂,quiet_interference hu hw hi,outcome_ok hn ho,quiet_interference hu hw' hi',hw'⟩

theorem attachDisk_slot (hu : Undisturbed vol vmid env Win) (hw : Win h)
    {node volid : String} {u : Unit}
    (hr : Runs (cluster env) ⟨h,w,(attachDisk vol.region node vmid volid).run⟩
      ⟨h',w',.done (.ok u)⟩) :
    ∃ vm, hosted w' vol.region node vmid = some vm ∧ vm.scsi.lookup helperSlot = some volid ∧
      plainVolid volid ∧ Win h' := by
  obtain ⟨w₁,w₂,_,hs,hq,hw'⟩ := window_need hu hw (by simp) (by simp) hr
  obtain ⟨vm,hv,hp,rfl⟩ := serve_attachSlot hs
  refine ⟨{ vm with scsi := vm.scsi.insert helperSlot volid },?_,AList.lookup_insert _,hp,hw'⟩
  rw [quiet_hosted hq, hosted_setSlot volid hv]

theorem convertDiskToRaw_copies (hu : Undisturbed vol vmid env Win) (hw : Win h) {vm : VM}
    {x : String} (hv : hosted w vol.region vol.node vmid = some vm)
    (hslot : vm.scsi.lookup helperSlot = some vol.volID) (hp : plainVolid vol.volID)
    (hr : Runs (cluster env) ⟨h,w,(convertDiskToRaw vol.region vol.node vmid vol.storage).run⟩
      ⟨h',w',.done (.ok x)⟩) :
    ∃ d name, x = vol.storage ++ ":" ++ name ∧ w'.disks.lookup (w'.key vol) = some d ∧
      w'.disks.lookup (w'.location vol.region vol.node vol.storage,name) = some d ∧ Win h' := by
  obtain ⟨hs,hk,hd⟩ := count_zero_of_plain hp
  obtain ⟨h₁,w₁,u,hmove,hr₁⟩ := runs_ok_bind hr
  obtain ⟨h₂,w₂,scsi0,hread,hr₂⟩ := runs_ok_bind hr₁
  obtain ⟨h₃,w₃,u',hreq,hr₃⟩ := runs_ok_bind hr₂
  obtain ⟨_,rfl,hi₃⟩ := runs_ok_require hreq
  obtain ⟨rfl,rfl,hi₄⟩ := runs_ok_pure hr₃
  obtain ⟨a,b,hqa,hsb,hqb,hw₁⟩ := window_need hu hw (by simp) (by simp) hmove
  obtain ⟨vm',d,name,hv',hdisk,hname,rfl⟩ := serve_moveDisk hsb
  obtain ⟨c,e,hqc,hse,hqe,hw₂⟩ := window_need hu hw₁ (by simp) (by simp) hread
  obtain ⟨vm'',hv'',rfl,rfl⟩ := serve_slotConfig hse
  have hvm : vm' = vm := by
    rw [quiet_hosted hqa, hv] at hv'
    exact (Option.some.inj hv').symm
  subst hvm
  have hvol : a.volidKey vol.region vol.node vol.volID = some (a.key vol) :=
    volidKey_plain a _ _ hs hk hd
  have hsource : a.disks.lookup (a.key vol) = some d := by
    rw [hslot, Option.bind_some, hvol, Option.bind_some] at hdisk
    exact hdisk
  obtain ⟨hfresh,hcomma⟩ := freshDisk_spec hname
  have hne : a.key vol ≠ (a.location vol.region vol.node vol.storage,name) := by
    intro he
    rw [he, hfresh] at hsource
    cases hsource
  have hx : (vm''.scsi.lookup helperSlot).getD "" = vol.storage ++ ":" ++ name := by
    have hset := hosted_setSlot
      (w := { a with disks := a.disks.insert (a.location vol.region vol.node vol.storage,name) d })
      (vol.storage ++ ":" ++ name) hv'
    rw [quiet_hosted hqc, quiet_hosted hqb, hset] at hv''
    cases hv''
    rw [AList.lookup_insert, Option.getD_some]
  have hquiet := quiet_trans hqb (quiet_trans hqc (quiet_trans hqe (quiet_trans
    (quiet_interference hu hw₂ hi₃) (quiet_interference hu hw₂ hi₄))))
  have hloc : w'.location = a.location := hquiet.location
  have hkey : w'.key vol = a.key vol := by rw [World.key, World.key, hloc]
  refine ⟨d,name,?_,?_,?_,hw₂⟩
  · rw [hx]
    apply firstPiece_of_notMem
    rw [String.toList_append, String.toList_append, List.mem_append, List.mem_append, not_or, not_or]
    exact ⟨⟨hk,by decide⟩,hcomma⟩
  · rw [hkey]
    apply hquiet.disks
    show (a.disks.insert (a.location vol.region vol.node vol.storage,name) d).lookup (a.key vol) = _
    rw [AList.lookup_insert_ne hne, hsource]
  · rw [hloc]
    apply hquiet.disks
    exact AList.lookup_insert _

theorem moveConverted_copies (hu : Undisturbed vol vmid env Win) (hw : Win h) {m : Migrator}
    {targetVol : Volume} {targetNode name : String} {d : Disk C} {u : Unit}
    (hs : ':' ∉ vol.storage.toList) (hsource : w.disks.lookup (w.key vol) = some d)
    (hraw : w.disks.lookup (w.location vol.region vol.node vol.storage,name) = some d)
    (hr : Runs (cluster env)
      ⟨h,w,(moveConverted m vol targetVol targetNode (vol.storage ++ ":" ++ name)).run⟩
      ⟨h',w',.done (.ok u)⟩) :
    ∃ w₁, w₁.disks.lookup (w₁.key vol) = some d ∧
      w₁.disks.lookup (w₁.keyOn targetVol targetNode) = some d ∧
      Interference (cluster env) h' w₁ w' := by
  rw [moveConverted, cut_volid hs] at hr
  obtain ⟨a,b,hi,ho,_,hi'⟩ := runs_need hr
  obtain ⟨d',hd',ht,rfl⟩ := serve_copyContent (outcome_ok (by simp) ho)
  have hq := quiet_interference hu hw hi
  have hraw' : a.disks.lookup (a.location vol.region vol.node vol.storage,name) = some d := by
    rw [hq.location]
    exact hq.disks _ _ hraw
  have hdd : d' = d := by
    have he : a.disks.lookup (a.location vol.region vol.node vol.storage,name) = some d' := hd'
    rw [hraw'] at he
    exact (Option.some.inj he).symm
  have hsource' : a.disks.lookup (a.key vol) = some d := by
    rw [World.key, hq.location]
    exact hq.disks _ _ hsource
  have hne : a.key vol ≠ a.keyOn targetVol targetNode := by
    intro he
    rw [he, ht] at hsource'
    cases hsource'
  refine ⟨_,?_,?_,hi'⟩
  · show (a.disks.insert (a.keyOn targetVol targetNode) d').lookup (a.key vol) = _
    rw [AList.lookup_insert_ne hne, hsource']
  · rw [hdd]
    exact AList.lookup_insert _

/-- Undisturbed, the helper VM hands the content of the source to the target. -/
theorem convertOnHelper_copies (hu : Undisturbed vol vmid env Win) (hw : Win h) {m : Migrator}
    {targetVol : Volume} {targetNode : String} {u : Unit}
    (hr : Runs (cluster env) ⟨h,w,(convertOnHelper m vol targetVol targetNode vmid).run⟩
      ⟨h',w',.done (.ok u)⟩) :
    ∃ w₁ d, w₁.disks.lookup (w₁.key vol) = some d ∧
      w₁.disks.lookup (w₁.keyOn targetVol targetNode) = some d ∧
      Interference (cluster env) h' w₁ w' := by
  obtain ⟨h₁,w₁,u₁,hattach,hr⟩ := runs_ok_bind hr
  obtain ⟨h₂,w₂,x,hconvert,hr⟩ := runs_ok_bind hr
  obtain ⟨vm,hv,hslot,hp,hw₁⟩ := attachDisk_slot hu hw hattach
  obtain ⟨d,name,rfl,hsource,hraw,hw₂⟩ := convertDiskToRaw_copies hu hw₁ hv hslot hp hconvert
  obtain ⟨w₃,ha,hb,hi⟩ := moveConverted_copies hu hw₂ (count_zero_of_plain hp).1 hsource hraw hr
  exact ⟨w₃,d,ha,hb,hi⟩

end Chain

end ProxmoxCSI.HelperConversion
