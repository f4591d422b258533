import ProxmoxCSI.DriftSweep

/-!
# The sweep and the nodes

A listing asks every node that is online and serves the storage, and keeps one
disk of a name. Which node a disk is on is not compared with the record, and a
node that is offline is not asked at all.
-/

set_option autoImplicit false

namespace ProxmoxCSI.DriftNodes
open TextScan VolumeHandle OperatorRecords RenamedDisks DriftSweep

structure Content where
  volid : String
  vmid : ℕ
  size : ℕ

/-- A node and what is on the storages it serves. -/
structure PVENode where
  name : String
  online : Bool
  contents : List (String × List Content)

structure Cell where
  nodes : List PVENode
  configured : List String

abbrev Estate := String → Except String Cell

def serves (n : PVENode) (storage : String) : Prop := storage ∈ n.contents.map Prod.fst

instance (n : PVENode) (storage : String) : Decidable (serves n storage) := by
  unfold serves
  infer_instance

def getNodesForStorage (c : Cell) (storage : String) : List PVENode :=
  c.nodes.filter (fun n => n.online = true ∧ serves n storage)

def storageContent (n : PVENode) (storage : String) : List Content :=
  (n.contents.find? (fun x => x.1 = storage)).elim [] Prod.snd

def clampVMID (vmid : ℕ) : ℤ := if 999999999 < vmid then 0 else vmid

def clampToInt64 (v : ℕ) : ℤ := if 2^63 - 1 < v then 2^63 - 1 else v

def disksOn (t : Target) (n : PVENode) : List Disk :=
  (storageContent n t.storage).filterMap (fun item => (diskName item.volid t.storage).map
    (fun name => ⟨t.region,n.name,t.storage,name,clampVMID item.vmid,clampToInt64 item.size⟩))

/-- The first disk of every name. On one storage a name is a volid. -/
def firsts (seen : List String) : List Disk → List Disk
  | [] => []
  | d :: ds => if d.name ∈ seen then firsts seen ds else d :: firsts (d.name :: seen) ds

/-- A sweep names no node, so all that serve the storage are asked. -/
def listDisks (estate : Estate) (t : Target) : Except DiskError (List Disk) :=
  match estate t.region with
  | .error text => .error (.other ("region " ++ t.region ++ ": " ++ text))
  | .ok c =>
    if getNodesForStorage c t.storage = [] then
      if t.storage ∈ c.configured then
        .error (.other ("region " ++ t.region ++ ": locating storage " ++ t.storage ++ ": not found"))
      else .error .storageNotFound
    else .ok (sortBy (fun d => toLex (d.name,d.node)) (firsts []
      ((sortBy PVENode.name (getNodesForStorage c t.storage)).flatMap (disksOn t))))

section Listing

variable {estate : Estate} {t : Target} {c : Cell} {n : PVENode}

theorem disksOn_target {d : Disk} (h : d ∈ disksOn t n) : d.region = t.region ∧
    d.storage = t.storage := by
  obtain ⟨item,_,h⟩ := List.mem_filterMap.mp h
  obtain ⟨name,_,rfl⟩ := Option.map_eq_some_iff.mp h
  exact ⟨rfl,rfl⟩

theorem firsts_subset {seen : List String} {ds : List Disk} {d : Disk} (h : d ∈ firsts seen ds) :
    d ∈ ds := by
  induction ds generalizing seen with
  | nil => exact h
  | cons x ds ih =>
    rw [firsts] at h
    split at h
    · exact List.mem_cons_of_mem x (ih h)
    · rcases List.mem_cons.mp h with rfl | h
      · exact List.mem_cons_self
      · exact List.mem_cons_of_mem x (ih h)

theorem firsts_name (seen : List String) {ds : List Disk} {d : Disk} (hd : d ∈ ds)
    (hs : d.name ∉ seen) : ∃ x ∈ firsts seen ds, x.name = d.name := by
  induction ds generalizing seen with
  | nil => cases hd
  | cons y ds ih =>
    rw [firsts]
    by_cases hy : d.name = y.name
    · rw [if_neg (hy ▸ hs)]
      exact ⟨y,List.mem_cons_self,hy.symm⟩
    · have hm : d ∈ ds := (List.mem_cons.mp hd).resolve_left (fun h => hy (congrArg Disk.name h))
      split
      · exact ih seen hm hs
      · obtain ⟨x,hx,hn⟩ := ih (y.name :: seen) hm (by simp [hy, hs])
        exact ⟨x,List.mem_cons_of_mem y hx,hn⟩

theorem firsts_nodup (seen : List String) (ds : List Disk) :
    ((firsts seen ds).map Disk.name).Nodup ∧ ∀ d ∈ firsts seen ds, d.name ∉ seen := by
  induction ds generalizing seen with
  | nil => exact ⟨List.nodup_nil,fun _ h => absurd h List.not_mem_nil⟩
  | cons x ds ih =>
    rw [firsts]
    split
    · exact ih seen
    · rename_i hx
      obtain ⟨hn,hs⟩ := ih (x.name :: seen)
      refine ⟨?_,?_⟩
      · rw [List.map_cons, List.nodup_cons]
        refine ⟨fun h => ?_,hn⟩
        obtain ⟨d,hd,he⟩ := List.mem_map.mp h
        exact hs d hd (he ▸ List.mem_cons_self)
      · intro d hd hmem
        rcases List.mem_cons.mp hd with rfl | hd
        · exact hx hmem
        · exact hs d hd (List.mem_cons_of_mem _ hmem)

def Seen (estate : Estate) (t : Target) (d : Disk) : Prop :=
  ∃ c, estate t.region = .ok c ∧ ∃ n ∈ getNodesForStorage c t.storage, d ∈ disksOn t n

theorem listDisks_ok {disks : List Disk} (h : listDisks estate t = .ok disks) :
    (∀ d ∈ disks, Seen estate t d) ∧ ∀ d, Seen estate t d → ∃ x ∈ disks, x.name = d.name := by
  unfold listDisks at h
  split at h
  · cases h
  · rename_i c hc
    split at h
    · split at h <;> cases h
    · cases h
      constructor
      · intro d hd
        obtain ⟨n,hn,hd⟩ := List.mem_flatMap.mp (firsts_subset ((mem_sortBy _).mp hd))
        exact ⟨c,hc,n,(mem_sortBy _).mp hn,hd⟩
      · rintro d ⟨c',hc',n,hn,hd⟩
        cases hc.symm.trans hc'
        obtain ⟨x,hx,hxn⟩ := firsts_name [] (List.mem_flatMap.mpr
          ⟨n,(mem_sortBy PVENode.name).mpr hn,hd⟩) List.not_mem_nil
        exact ⟨x,(mem_sortBy _).mpr hx,hxn⟩

theorem listDisks_nodup {disks : List Disk} (h : listDisks estate t = .ok disks) :
    (disks.map Disk.name).Nodup := by
  unfold listDisks at h
  split at h
  · cases h
  · split at h
    · split at h <;> cases h
    · cases h
      exact ((sortBy_perm _ _).map _).nodup_iff.mpr (firsts_nodup [] _).1

theorem listDisks_served {d : Disk} (h : Seen estate t d) :
    ∃ disks, listDisks estate t = .ok disks := by
  obtain ⟨c,hc,n,hn,_⟩ := h
  unfold listDisks
  simp only [hc]
  rw [if_neg (List.ne_nil_of_mem hn)]
  exact ⟨_,rfl⟩

def readerOf (estate : Estate) : DiskReader where
  listDisks := listDisks estate
  stamped := by
    intro t ds h d hd
    obtain ⟨_,_,n,_,hd⟩ := (listDisks_ok h).1 d hd
    exact disksOn_target hd

theorem suffix_of_name {d x : Disk} (hr : x.region = d.region) (hs : x.storage = d.storage)
    (hn : x.name = d.name) : x.suffix = d.suffix := by
  rw [Disk.suffix, Disk.suffix, hr, hs, hn]

theorem seen_target {d : Disk} (h : Seen estate t d) : d.region = t.region ∧
    d.storage = t.storage := by
  obtain ⟨_,_,n,_,hd⟩ := h
  exact disksOn_target hd

def Unreadable (estate : Estate) (t : Target) : Prop :=
  (∃ text, estate t.region = .error text) ∨ ∃ c, estate t.region = .ok c ∧
    t.storage ∈ c.configured ∧ ∀ n ∈ c.nodes, n.online = true → ¬serves n t.storage

theorem swept_none : swept (listDisks estate t) = none ↔ Unreadable estate t := by
  unfold listDisks Unreadable
  cases hc : estate t.region with
  | error text => simp [swept]
  | ok c =>
    have hnone : getNodesForStorage c t.storage = [] ↔
        ∀ n ∈ c.nodes, n.online = true → ¬serves n t.storage := by
      simp [getNodesForStorage, List.filter_eq_nil_iff]
    simp only [reduceCtorEq, exists_false, false_or, Except.ok.injEq, exists_eq_left', ← hnone]
    by_cases hn : getNodesForStorage c t.storage = []
    · by_cases hs : t.storage ∈ c.configured <;> simp [hn, hs, swept]
    · simp [hn, swept]

/-- A storage that was read has a disk of this suffix when a node that was asked has one. -/
theorem swept_suffix {disks : List Disk} (h : swept (listDisks estate t) = some disks) (s : String) :
    (∀ d ∈ disks, d.suffix ≠ s) ↔ ∀ d, Seen estate t d → d.suffix ≠ s := by
  cases hl : listDisks estate t with
  | error e =>
    have hnone : ∀ d, ¬Seen estate t d := by
      intro d hd
      obtain ⟨_,hok⟩ := listDisks_served hd
      rw [hl] at hok
      cases hok
    rw [hl] at h
    cases e with
    | storageNotFound =>
      cases h
      exact iff_of_true (by simp) (fun d hd => absurd hd (hnone d))
    | other text => cases h
  | ok ds =>
    rw [hl] at h
    cases h
    obtain ⟨h₁,h₂⟩ := listDisks_ok hl
    constructor
    · intro hno d hd
      obtain ⟨x,hx,hn⟩ := h₂ d hd
      obtain ⟨hr,hs⟩ := seen_target hd
      obtain ⟨hr',hs'⟩ := seen_target (h₁ x hx)
      rw [← suffix_of_name (hr'.trans hr.symm) (hs'.trans hs.symm) hn]
      exact hno x hx
    · exact fun hno d hd => hno d (h₁ d hd)

end Listing

section Truth

variable {tenants : List TenantCluster} {volumes : List ProxmoxVolume} {estate : Estate}

def Home (handle : Volume) (n : PVENode) : Prop := handle.zone = "" ∨ n.name = handle.zone

def Asked (estate : Estate) (t : Target) (n : PVENode) : Prop :=
  ∃ c, estate t.region = .ok c ∧ n ∈ getNodesForStorage c t.storage

def OnNode (estate : Estate) (n : PVENode) (d : Disk) : Prop :=
  Asked estate d.target n ∧ d ∈ disksOn d.target n ∧ hasPrefix d.suffix driverDiskPrefix = true

def AccountsFor (volumes : List ProxmoxVolume) (n : PVENode) (d : Disk) : Prop :=
  ∃ v ∈ volumes, ∃ handle, parseVolumeID v.status.volumeID = some handle ∧ Home handle n ∧
    (⟨handle.region,handle.storage⟩ : Target) = d.target ∧ handle.diskSuffix = d.suffix

def Unrecorded (volumes : List ProxmoxVolume) (estate : Estate) (d : Disk) : Prop :=
  ∃ n, OnNode estate n d ∧ ¬AccountsFor volumes n d

/-- The report against what is on the nodes: every unrecorded disk has an entry of its own. -/
structure Truthful (volumes : List ProxmoxVolume) (estate : Estate) (r : Report) : Prop where
  missing : ∀ v ∈ volumes, ∀ handle, parseVolumeID v.status.volumeID = some handle →
    handle.diskSuffix ≠ "" → (⟨v.ns,v.name,v.status.volumeID⟩ : Missing) ∈ r.missing →
    ∃ n, Asked estate ⟨handle.region,handle.storage⟩ n ∧ Home handle n ∧
      ∀ d ∈ disksOn ⟨handle.region,handle.storage⟩ n, d.suffix ≠ handle.diskSuffix
  orphans : ∀ ds : List Disk, ds.Nodup → (∀ d ∈ ds, Unrecorded volumes estate d) →
    (ds.map Disk.orphan).Subperm r.orphans

/-- The nodes of all records answer or their disks are elsewhere; every other disk of the driver
is on a storage that is swept, no record has its suffix there and no other node its name. -/
structure Watched (tenants : List TenantCluster) (volumes : List ProxmoxVolume) (estate : Estate) :
    Prop where
  homes : ∀ v ∈ volumes, ∀ handle, parseVolumeID v.status.volumeID = some handle →
    handle.diskSuffix ≠ "" →
    (⟨handle.region,handle.storage⟩ : Target) ∈ targets tenants volumes →
    (∀ n, Asked estate ⟨handle.region,handle.storage⟩ n → ¬Home handle n) →
    Unreadable estate ⟨handle.region,handle.storage⟩ ∨
      ∃ d, Seen estate ⟨handle.region,handle.storage⟩ d ∧ d.suffix = handle.diskSuffix
  others : ∀ d, Unrecorded volumes estate d →
    d.target ∈ targets tenants volumes ∧ claimKey d.target d.suffix ∉ claimed volumes
  alone : ∀ d d', Unrecorded volumes estate d → Unrecorded volumes estate d' →
    d.target = d'.target → d.name = d'.name → d = d'

theorem missing_iff {v : ProxmoxVolume} {handle : Volume} (hv : v ∈ volumes)
    (hh : parseVolumeID v.status.volumeID = some handle) (hs : handle.diskSuffix ≠ "") :
    (⟨v.ns,v.name,v.status.volumeID⟩ : Missing) ∈
        (reportOf tenants volumes (readerOf estate)).missing ↔
      (⟨handle.region,handle.storage⟩ : Target) ∈ targets tenants volumes ∧
        ¬Unreadable estate ⟨handle.region,handle.storage⟩ ∧
        ∀ d, Seen estate ⟨handle.region,handle.storage⟩ d → d.suffix ≠ handle.diskSuffix := by
  rw [mem_missing]
  constructor
  · rintro ⟨v',_,e,he,hm,ht,disks,hr,hd⟩
    obtain ⟨handle',hh',_,rfl⟩ := entry_some he
    obtain ⟨_,_,hid⟩ := Missing.mk.inj hm
    rw [hid, hh] at hh'
    cases hh'
    have hread : ¬Unreadable estate ⟨handle.region,handle.storage⟩ := by
      intro hnone
      cases (swept_none.mpr hnone).symm.trans hr
    exact ⟨ht,hread,(swept_suffix hr _).mp hd⟩
  · rintro ⟨ht,hr,hd⟩
    obtain ⟨disks,hr⟩ := Option.ne_none_iff_exists'.mp (mt swept_none.mp hr)
    exact ⟨v,hv,_,entry_handle hh hs,rfl,ht,disks,hr,(swept_suffix hr _).mpr hd⟩

theorem accounted_claimed {n : PVENode} {d : Disk} (h : AccountsFor volumes n d)
    (hd : hasPrefix d.suffix driverDiskPrefix = true) :
    claimKey d.target d.suffix ∈ claimed volumes := by
  obtain ⟨v,hv,handle,hh,_,ht,hs⟩ := h
  have hne : handle.diskSuffix ≠ "" := by
    intro he
    rw [← hs, he] at hd
    exact absurd hd (by decide)
  refine List.mem_map.mpr ⟨_,List.mem_filterMap.mpr ⟨v,hv,entry_handle hh hne⟩,?_⟩
  rw [← ht, ← hs]

/-- No two entries are about one name on one storage. -/
theorem orphans_nodup (tenants : List TenantCluster) (volumes : List ProxmoxVolume)
    (estate : Estate) : ((reportOf tenants volumes (readerOf estate)).orphans.map
      (fun o => ((⟨o.region,o.storage⟩ : Target),o.name))).Nodup := by
  refine ((sortBy_perm _ _).map _).nodup_iff.mpr ?_
  rw [List.map_flatMap, List.nodup_flatMap]
  have hmem : ∀ t x, x ∈ (orphansOf volumes (readerOf estate) t).map
      (fun o => ((⟨o.region,o.storage⟩ : Target),o.name)) → x.1 = t := by
    intro t x hx
    obtain ⟨o,ho,rfl⟩ := List.mem_map.mp hx
    unfold orphansOf at ho
    cases hl : (readerOf estate).listDisks t with
    | error e => cases e <;> simp [hl, swept, orphansIn] at ho
    | ok disks =>
      rw [hl] at ho
      obtain ⟨d,hd,rfl⟩ := List.mem_map.mp ho
      obtain ⟨hr,hs⟩ := (readerOf estate).stamped t disks hl d (List.mem_of_mem_filter hd)
      exact congrArg₂ Target.mk hr hs
  refine ⟨?_,?_⟩
  · intro t _
    unfold orphansOf
    cases hl : (readerOf estate).listDisks t with
    | error e => cases e <;> simp [swept, orphansIn]
    | ok disks =>
      have hnames : (((disks.filter (fun d => hasPrefix d.suffix driverDiskPrefix ∧
          claimKey d.target d.suffix ∉ claimed volumes)).map Disk.name)).Nodup :=
        (listDisks_nodup hl).sublist (List.filter_sublist.map _)
      refine List.Nodup.of_map Prod.snd ?_
      simpa [swept, orphansIn, Function.comp_def, Disk.orphan] using hnames
  · have hdistinct : (targets tenants volumes).Nodup :=
      (sortBy_perm _ _).nodup_iff.mpr (List.nodup_dedup _)
    refine hdistinct.imp ?_
    intro t t' hne x hx hx'
    exact hne ((hmem t x hx).symm.trans (hmem t' x hx'))

theorem orphan_iff {d : Disk} (ha : ∀ d', Unrecorded volumes estate d' → d.target = d'.target →
      d.name = d'.name → d = d') (hd : Unrecorded volumes estate d) :
    d.orphan ∈ (reportOf tenants volumes (readerOf estate)).orphans ↔
      d.target ∈ targets tenants volumes ∧ claimKey d.target d.suffix ∉ claimed volumes := by
  obtain ⟨n,⟨⟨c,hc,hn⟩,hdn,hp⟩,_⟩ := hd
  have hseen : Seen estate d.target d := ⟨c,hc,n,hn,hdn⟩
  constructor
  · intro ho
    obtain ⟨t,ht,disks,hl,x,hx,_,hno,he⟩ := mem_orphans.mp ho
    obtain ⟨hxr,hxs⟩ := (readerOf estate).stamped t disks hl x hx
    obtain ⟨hr,hs,hname,_⟩ := Orphan.mk.inj he
    have hxt : x.target = d.target := congrArg₂ Target.mk hr hs
    have htx : x.target = t := congrArg₂ Target.mk hxr hxs
    rw [hxt, suffix_of_name hr hs hname] at hno
    exact ⟨hxt ▸ htx ▸ ht,hno⟩
  · rintro ⟨ht,hno⟩
    obtain ⟨disks,hl⟩ := listDisks_served hseen
    obtain ⟨x,hx,hname⟩ := (listDisks_ok hl).2 d hseen
    obtain ⟨hr,hs⟩ := (readerOf estate).stamped d.target disks hl x hx
    have hxt : x.target = d.target := congrArg₂ Target.mk hr hs
    have hsuf : x.suffix = d.suffix := suffix_of_name hr hs hname
    obtain ⟨c',hc',n',hn',hxn⟩ := (listDisks_ok hl).1 x hx
    have hpx : hasPrefix x.suffix driverDiskPrefix = true := hsuf ▸ hp
    have hun : Unrecorded volumes estate x := by
      refine ⟨n',⟨hxt ▸ ⟨c',hc',hn'⟩,hxt ▸ hxn,hpx⟩,fun h => hno ?_⟩
      rw [← hxt, ← hsuf]
      exact accounted_claimed h hpx
    obtain rfl := ha x hun hxt.symm hname.symm
    exact mem_orphans.mpr ⟨d.target,ht,disks,hl,d,hx,hp,hno,rfl⟩

theorem truthful_iff (tenants : List TenantCluster) (volumes : List ProxmoxVolume) (estate : Estate) :
    Truthful volumes estate (reportOf tenants volumes (readerOf estate)) ↔
      Watched tenants volumes estate := by
  constructor
  · intro h
    have halone : ∀ d d', Unrecorded volumes estate d → Unrecorded volumes estate d' →
        d.target = d'.target → d.name = d'.name → d = d' := by
      intro d d' hd hd' ht hn
      by_contra hne
      obtain ⟨l,hperm,hsub⟩ := h.orphans [d,d'] (by simpa using hne) (by simp [hd, hd'])
      have hkeys := (hperm.map (fun o => ((⟨o.region,o.storage⟩ : Target),o.name))).nodup_iff.mp
        ((orphans_nodup tenants volumes estate).sublist (hsub.map _))
      have hkey : ((⟨d.region,d.storage⟩ : Target),d.name) = (⟨d'.region,d'.storage⟩,d'.name) :=
        congrArg₂ Prod.mk ht hn
      simp [Disk.orphan, hkey] at hkeys
    refine ⟨?_,fun d hd => (orphan_iff (halone d · hd) hd).mp ?_,halone⟩
    · intro v hv handle hh hs ht hhome
      by_contra hcon
      rw [not_or] at hcon
      obtain ⟨n,hn,hhn,_⟩ := h.missing v hv handle hh hs ((missing_iff hv hh hs).mpr
        ⟨ht,hcon.1,fun d hd he => hcon.2 ⟨d,hd,he⟩⟩)
      exact hhome n hn hhn
    · exact (h.orphans [d] (List.nodup_singleton d) (by simpa using hd)).subset List.mem_cons_self
  · intro h
    refine ⟨?_,?_⟩
    · intro v hv handle hh hs hm
      obtain ⟨ht,hr,hd⟩ := (missing_iff hv hh hs).mp hm
      by_contra hcon
      have hhome : ∀ n, Asked estate ⟨handle.region,handle.storage⟩ n → ¬Home handle n := by
        rintro n ⟨c,hc,hn⟩ hhn
        exact hcon ⟨n,⟨c,hc,hn⟩,hhn,fun d hdn => hd d ⟨c,hc,n,hn,hdn⟩⟩
      rcases h.homes v hv handle hh hs ht hhome with hnone | ⟨d,hseen,he⟩
      · exact hr hnone
      · exact hd d hseen he
    · intro ds hnodup hds
      refine List.subperm_of_subset (hnodup.map_on ?_) ?_
      · intro d hd d' hd' he
        obtain ⟨hr,hs,hname,_⟩ := Orphan.mk.inj he
        exact h.alone d d' (hds d hd) (hds d' hd') (congrArg₂ Target.mk hr hs) hname
      · intro o ho
        obtain ⟨d,hd,rfl⟩ := List.mem_map.mp ho
        exact (orphan_iff (h.alone d · (hds d hd)) (hds d hd)).mpr (h.others d (hds d hd))

end Truth

def halfDown : Estate := fun region => if region = "r" then .ok
  ⟨[⟨"n1",true,[("local",[])]⟩,⟨"n2",false,[("local",[⟨"local:vm-100-pvc-a",100,1⟩])]⟩],["local"]⟩
  else .error "not found"

theorem offline_reported_missing :
    (reportOf [] [sampleRecord "r" "local" "r/n2/local/vm-100-pvc-a"] (readerOf halfDown)).missing =
        [⟨"t","v","r/n2/local/vm-100-pvc-a"⟩] ∧
      (∀ c, halfDown "r" = .ok c → (getNodesForStorage c "local").map PVENode.name = ["n1"]) ∧
      ¬Truthful [sampleRecord "r" "local" "r/n2/local/vm-100-pvc-a"] halfDown
        (reportOf [] [sampleRecord "r" "local" "r/n2/local/vm-100-pvc-a"] (readerOf halfDown)) := by
  have hm : (reportOf [] [sampleRecord "r" "local" "r/n2/local/vm-100-pvc-a"]
      (readerOf halfDown)).missing = [⟨"t","v","r/n2/local/vm-100-pvc-a"⟩] := by decide
  have hnames : ∀ c, halfDown "r" = .ok c →
      (getNodesForStorage c "local").map PVENode.name = ["n1"] := by
    rintro c ⟨⟩
    decide
  refine ⟨hm,hnames,fun h => ?_⟩
  obtain ⟨n,⟨c,hc,hn⟩,hz | hz,_⟩ := h.missing _ List.mem_cons_self
    ⟨"r","n2","n2","local","vm-100-pvc-a"⟩ (by decide) (by decide)
      (by rw [hm]; exact List.mem_cons_self)
  · exact absurd hz (by decide)
  · have := hnames c hc ▸ List.mem_map.mpr ⟨n,hn,hz⟩
    exact absurd this (by decide)

end ProxmoxCSI.DriftNodes
