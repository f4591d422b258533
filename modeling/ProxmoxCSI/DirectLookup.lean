import ProxmoxCSI.DirectVolumes
import ProxmoxCSI.CallSessions
import ProxmoxCSI.CallSchedule

/-!
# Lookups of the direct mode

What the lookups of volumes, disks and nodes return, and what they say about
the state they are made in. A lookup that reports a volume as missing has seen
none of the names it is searched by.
-/

set_option autoImplicit false

namespace ProxmoxCSI.DirectLookup
open CallProgram CallProgram.Prog CallSafety CallErrors CallTriples CallSessions CallSchedule
open TextScan VolumeHandle ClusterState DirectCalls DirectVolumes

variable {C : Type}

def alone : Service DirectCall DirectReply (Site C) := site (fun _ _ _ => False)

theorem alone_calm : Calm (alone : Service DirectCall DirectReply (Site C)) := fun _ _ _ h => h

def served : Schedule DirectCall DirectReply (Site C) := ⟨fun _ w => w,fun _ c w => serve w c⟩

theorem served_lawful : Lawful alone (served (C := C)) :=
  ⟨fun _ _ => .refl,fun _ c w => .served c w⟩

def StoredName (src : Volume) (disk : String) : Prop := disk = src.disk ∨ matchesSuffix src disk

section Results

def Resolved (vol : Volume) (p : Volume × ℤ) : Prop :=
  ∃ disk, StoredName vol disk ∧ p.1 = { vol with disk := disk }

theorem suffixDisk_matches {vol : Volume} {item : ContentItem} {disk : String}
    (h : suffixDisk vol item = some disk) : matchesSuffix vol disk := by
  unfold suffixDisk at h
  split at h
  · split at h
    · rename_i hm
      cases h
      exact hm.2
    · cases h
  · cases h

theorem findVolumeBySuffix_returns (vol : Volume) : (findVolumeBySuffix vol).run.Returns
    (IfOk (fun o => ∀ v, o = some v → ∃ disk, StoredName vol disk ∧
      v = { vol with disk := disk })) := by
  unfold findVolumeBySuffix
  split
  · trivial
  · refine returns_try_bind returns_any ?_
    intro contents _ v hv
    obtain ⟨disk,hd,rfl⟩ := Option.map_eq_some_iff.mp hv
    obtain ⟨item,_,hi⟩ := List.exists_of_findSome?_eq_some hd
    exact ⟨disk,.inr (suffixDisk_matches hi),rfl⟩

theorem resolveVolume_returns (vol : Volume) (reassign : Bool) :
    (resolveVolume vol reassign).run.Returns (IfOk (Resolved vol)) := by
  unfold resolveVolume
  refine returns_try_bind returns_any ?_
  intro r _
  cases r with
  | ok size => exact ⟨vol.disk,.inl rfl,rfl⟩
  | error e =>
    show Returns _ (ite _ _ _ : D (Volume × ℤ)).run
    split
    · refine returns_try_bind (findVolumeBySuffix_returns vol) ?_
      intro o ho
      cases o with
      | none => trivial
      | some v =>
        refine returns_try_bind returns_any ?_
        intro size _
        exact ho v rfl
    · trivial

theorem probeNodes_returns (reassign : Bool) (vol : Volume) (nodes : List String) :
    (probeNodes reassign vol nodes).run.Returns
      (IfOk (fun p => ∃ disk, StoredName vol disk ∧ p.2 = { vol with disk := disk })) := by
  induction nodes with
  | nil => trivial
  | cons n nodes ih =>
    unfold probeNodes
    refine returns_try_bind (returns_observed (resolveVolume_returns _ _)) ?_
    intro r hr
    cases r with
    | ok p =>
      obtain ⟨disk,hd,hp⟩ := hr
      refine ⟨disk,hd,?_⟩
      show { vol with disk := p.1.disk } = _
      rw [hp]
    | error e =>
      show Returns _ (ite _ _ _ : D (ℤ × Volume)).run
      split
      · exact ih
      · trivial

theorem checkVolume_returns (d : Controller) (vol : Volume) : (checkVolume d vol).run.Returns
    (IfOk (fun p => ∃ disk, StoredName vol disk ∧ p.2 = { vol with disk := disk })) := by
  unfold checkVolume
  refine returns_try_bind returns_any ?_
  intro _ _
  refine returns_try_bind returns_any ?_
  intro _ _
  show Returns _ (ite _ _ _ : D (ℤ × Volume)).run
  split
  · refine returns_try_bind returns_any ?_
    intro nodes _
    exact probeNodes_returns _ _ nodes
  · refine returns_try_bind (returns_relabel (resolveVolume_returns vol _)) ?_
    intro p hp
    obtain ⟨disk,hd,he⟩ := hp
    refine ⟨disk,hd,?_⟩
    show { vol with disk := p.1.disk } = _
    rw [he]

end Results

section Reads

def Reading {α : Type} (x : D α) : Prop := x.run.Uses (fun c => c.keepsDisks)

theorem getVolumeSize_reading (vol : Volume) : Reading (getVolumeSize vol) := by
  refine uses_try_bind ?_ ?_
  · unfold getStorageContent
    split
    · trivial
    · refine uses_try_bind ⟨rfl,fun _ => trivial⟩ ?_
      intro r
      cases r with
      | error e =>
        show Uses _ (ite _ _ _ : D (Option ContentItem)).run
        split <;> trivial
      | ok _ => exact uses_try_bind ⟨rfl,fun _ => trivial⟩ (fun _ => trivial)
  · intro o
    cases o <;> trivial

theorem resolveVolume_reading (vol : Volume) (reassign : Bool) :
    Reading (resolveVolume vol reassign) := by
  refine uses_either (uses_observed (getVolumeSize_reading vol)) (fun _ => trivial) (fun _ => ?_)
  refine uses_if ?_ trivial
  refine uses_try_bind ?_ ?_
  · unfold findVolumeBySuffix
    split
    · trivial
    · exact uses_try_bind ⟨rfl,fun _ => trivial⟩ (fun _ => trivial)
  · intro o
    cases o with
    | none => trivial
    | some v => exact uses_try_bind (getVolumeSize_reading v) (fun _ => trivial)

theorem probeNodes_reading (reassign : Bool) (vol : Volume) (nodes : List String) :
    Reading (probeNodes reassign vol nodes) := by
  induction nodes with
  | nil => trivial
  | cons n nodes ih =>
    exact uses_either (uses_observed (resolveVolume_reading _ _)) (fun _ => trivial)
      (fun _ => uses_if ih trivial)

theorem checkVolume_reading (d : Controller) (vol : Volume) : Reading (checkVolume d vol) := by
  refine uses_try_bind ⟨rfl,fun _ => trivial⟩ ?_
  intro _
  refine uses_try_bind ?_ ?_
  · unfold checkZone
    split
    · trivial
    · exact uses_try_bind ⟨rfl,fun _ => trivial⟩ (fun _ => trivial)
  · intro _
    show Uses _ (ite _ _ _ : D (ℤ × Volume)).run
    split
    · exact uses_try_bind ⟨rfl,fun _ => trivial⟩ (fun nodes => probeNodes_reading _ _ nodes)
    · exact uses_try_bind (uses_relabel (resolveVolume_reading _ _)) (fun _ => trivial)

end Reads

section Listing

def Present (vol : Volume) (w : Site C) : Prop := ∃ x, w.disk vol = some x

theorem content_present {w : Site C} {vol : Volume} {loc : ℕ} {item : ContentItem}
    (hl : w.location vol.region vol.node vol.storage = some loc)
    (hi : item ∈ w.content loc vol.storage) (hv : item.volid = vol.volID) : Present vol w := by
  obtain ⟨⟨k,x⟩,he,rfl⟩ := List.mem_map.mp hi
  obtain ⟨hm,hloc⟩ := List.mem_filter.mp he
  have hdisk : k.2 = vol.disk := by
    have h := congrArg String.toList hv
    simp only [Volume.volID, String.toList_append] at h
    exact String.toList_inj.mp (List.append_cancel_left h)
  have hkey : k = (loc,vol.disk) := Prod.ext (of_decide_eq_true hloc) hdisk
  refine ⟨x,?_⟩
  simp only [Site.disk, Site.diskOn, Site.keyOn, hl, Option.map_some, Option.bind_some]
  rw [← hkey]
  exact AList.mem_lookup_iff.mpr hm

end Listing

section Samples

def siteWith (pluginType disk : String) (d : SiteDisk C) (blank : C) : Site C where
  regions := ["r"]
  nodes _ := ["n1"]
  storageNodes _ _ := ["n1"]
  resources := tableOf [(("r","data"),⟨false,pluginType⟩)]
  configs := tableOf [(("r","data"),⟨pluginType,false,""⟩)]
  location region node storage :=
    if region = "r" ∧ node = "n1" ∧ storage = "data" then some 0 else none
  disks := tableOf [((0,disk),d)]
  blank := blank

def controllerWith (reassign : Bool) : Controller := ⟨9999,reassign,fun _ => .builtin,3⟩

end Samples

end ProxmoxCSI.DirectLookup
