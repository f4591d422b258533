import ProxmoxCSI.DiskNames

/-!
# Reading handles back

A text is a handle exactly when it has three separators, and nothing of it is
lost. What is made for a disk `vm-<vmid>-<name>`, bare or in a file of a given
format, reads back to its place, its owner and its name, in the plain form and in
the form without a zone.
-/

set_option autoImplicit false

namespace ProxmoxCSI.HandleCodec
open TextScan VolumeHandle DiskNames

def volumeSharedID (v : Volume) : String := v.region ++ "//" ++ v.storage ++ "/" ++ v.disk

def diskOf (id : ℤ) (name : String) : String := "vm-" ++ toString id ++ "-" ++ name

def extension (format : String) : String := if format = "" then "" else "." ++ format

section Separators

variable {α : Type} [DecidableEq α]

theorem length_splitList (c : α) (n : ℕ) (s : List α) :
    (splitList c (n+1) s).length = min (n+1) (s.count c + 1) := by
  induction n generalizing s with
  | zero => simp [splitList]
  | succ n ih =>
    rw [splitList]
    cases hc : cutList c s with
    | none =>
      have h0 : s.count c = 0 := List.count_eq_zero.mpr ((cutList_eq_none c s).mp hc)
      simp [h0]
    | some p =>
      obtain ⟨a,b⟩ := p
      obtain ⟨rfl,ha⟩ := cutList_some hc
      have h0 : a.count c = 0 := List.count_eq_zero.mpr ha
      simp only [List.length_cons, ih, List.count_append, h0, List.count_cons_self]
      omega

theorem parse_isSome_iff (s : String) :
    (parseVolumeID s).isSome = true ↔ 3 ≤ s.toList.count '/' := by
  have hl : (splitN s '/' 4).length = min 4 (s.toList.count '/' + 1) := by
    rw [splitN, List.length_map, length_splitList]
  unfold parseVolumeID
  split
  · rename_i h
    rw [h] at hl
    simp only [List.length_cons, List.length_nil] at hl
    simp only [Option.isSome_some, true_iff]
    omega
  · rename_i hne
    simp only [Option.isSome_none, Bool.false_eq_true, false_iff]
    intro h3
    have h4 : (splitN s '/' 4).length = 4 := by omega
    obtain ⟨a,b,c,d,hs⟩ := List.length_eq_four.mp h4
    exact hne a b c d hs

end Separators

section Disks

variable {id : ℤ}

theorem newVolumeFormat_disk (h : Numbered id) (region zone storage name format : String) :
    (newVolumeFormat region zone storage (diskOf id name) format).disk =
      (if format = "" then "" else toString id ++ "/") ++ diskOf id name ++ extension format := by
  unfold newVolumeFormat diskOf extension
  split
  · simp [newVolume]
  · rw [splitN_name h]
    simp only [newVolume, String.append_assoc]

theorem vmForm_run {ds : List Char} (h : Run ds) (dir : Option (List Char)) {suffix : List Char}
    (hs : suffix ≠ []) (hn : '\n' ∉ suffix) :
    vmForm dir ('v' :: 'm' :: '-' :: (ds ++ '-' :: suffix)) = some ⟨dir,ds,suffix⟩ := by
  simp only [vmForm, vmidRun_run (c := '-') rfl h]
  rw [if_pos ⟨hs,hn⟩]

theorem diskParts_bare {ds : List Char} (h : Run ds) {suffix : List Char}
    (hs : suffix ≠ []) (hn : '\n' ∉ suffix) :
    diskParts ('v' :: 'm' :: '-' :: (ds ++ '-' :: suffix)) = some ⟨none,ds,suffix⟩ :=
  vmForm_run h none hs hn

theorem diskParts_file {dir ds : List Char} (hd : Run dir) (h : Run ds) {suffix : List Char}
    (hs : suffix ≠ []) (hn : '\n' ∉ suffix) :
    diskParts (dir ++ '/' :: 'v' :: 'm' :: '-' :: (ds ++ '-' :: suffix)) =
      some ⟨some dir,ds,suffix⟩ := by
  unfold diskParts
  rw [vmidRun_run (c := '/') rfl hd]
  exact vmForm_run h (some dir) hs hn

theorem newVolumeFormat_suffix (h : Numbered id) (region zone storage : String) {name format : String}
    (hn : name ≠ "") (hname : '\n' ∉ name.toList) (hformat : '\n' ∉ format.toList) :
    (newVolumeFormat region zone storage (diskOf id name) format).diskSuffix =
      name ++ extension format := by
  have hs : (name ++ extension format).toList ≠ [] := by
    rw [String.toList_append]
    exact List.append_ne_nil_of_left_ne_nil (by simpa using hn) _
  have hl : '\n' ∉ (name ++ extension format).toList := by
    unfold extension
    split
    · simpa using hname
    · simp [hname, hformat]
  have hd := newVolumeFormat_disk h region zone storage name format
  have hrun := numbered_run h
  unfold Volume.diskSuffix
  rw [hd]
  by_cases hf : format = ""
  · have hl' : ((if format = "" then "" else toString id ++ "/") ++ diskOf id name ++
        extension format).toList = 'v' :: 'm' :: '-' :: ((toString id).toList ++
          '-' :: (name ++ extension format).toList) := by
      simp [hf, diskOf]
    rw [hl', diskParts_bare hrun hs hl]
    simp
  · have hl' : ((if format = "" then "" else toString id ++ "/") ++ diskOf id name ++
        extension format).toList = (toString id).toList ++ '/' :: 'v' :: 'm' :: '-' ::
          ((toString id).toList ++ '-' :: (name ++ extension format).toList) := by
      simp [hf, diskOf]
    rw [hl', diskParts_file hrun hrun hs hl]
    simp

theorem numeral_inj {id' : ℤ} (h : Numbered id) (h' : Numbered id')
    (he : toString id = toString id') : id = id' := by
  obtain ⟨n,rfl⟩ : ∃ n : ℕ, id = n := ⟨id.toNat,by have := h.1; omega⟩
  obtain ⟨m,rfl⟩ : ∃ m : ℕ, id' = m := ⟨id'.toNat,by have := h'.1; omega⟩
  have hn : digitsValue (toString (n : ℤ)).toList = some n := digitsValue_repr n
  have hm : digitsValue (toString (m : ℤ)).toList = some m := digitsValue_repr m
  rw [he] at hn
  exact congrArg _ (Option.some.inj (hn.symm.trans hm))

/-- The owner and the name are both in the disk. -/
theorem newVolumeFormat_disk_inj {id' : ℤ} (h : Numbered id) (h' : Numbered id')
    {region zone storage region' zone' storage' name name' format : String}
    (he : (newVolumeFormat region zone storage (diskOf id name) format).disk =
      (newVolumeFormat region' zone' storage' (diskOf id' name') format).disk) :
    id = id' ∧ name = name' := by
  have hv : toString id = toString id' := by
    have ho := newVolumeFormat_owner h region zone storage name format
    have ho' := newVolumeFormat_owner h' region' zone' storage' name' format
    unfold diskOf at he
    rw [← ho, ← ho', he]
  have hid : id = id' := numeral_inj h h' hv
  subst hid
  rw [newVolumeFormat_disk h, newVolumeFormat_disk h] at he
  refine ⟨rfl,?_⟩
  apply String.toList_inj.mp
  have hl := congrArg String.toList he
  simpa [diskOf] using hl

end Disks

/-- What a handle of the disk of `name` says. -/
structure ReadsBack (region zone storage disk : String) (id : ℤ) (name format : String)
    (v : Volume) : Prop where
  region : v.region = region
  zone : v.zone = zone
  storage : v.storage = storage
  disk : v.disk = disk
  vmid : v.vmid = toString id
  diskSuffix : '\n' ∉ name.toList → v.diskSuffix = name ++ extension format

section RoundTrip

variable {region zone storage name format : String} {id : ℤ}

theorem newVolumeFormat_eq (region zone storage disk format : String) :
    newVolumeFormat region zone storage disk format = ⟨region,zone,zone,storage,
      (newVolumeFormat region zone storage disk format).disk⟩ := by
  obtain ⟨hr,hz,hn,hs⟩ := newVolumeFormat_place region zone storage disk format
  generalize newVolumeFormat region zone storage disk format = v at hr hz hn hs ⊢
  obtain ⟨r,z,n,s,d⟩ := v
  simp only at hr hz hn hs
  subst hr hz hn hs
  rfl

theorem volumeSharedID_eq (v : Volume) :
    volumeSharedID v = Volume.volumeID ⟨v.region,"","",v.storage,v.disk⟩ := by
  apply String.toList_inj.mp
  rw [volumeID_toList]
  simp [volumeSharedID]

theorem readsBack (h : Numbered id) (hn : name ≠ "") (hf : '\n' ∉ format.toList)
    (region zone storage zone' : String) :
    ReadsBack region zone' storage
      (newVolumeFormat region zone storage (diskOf id name) format).disk id name format
      ⟨region,zone',zone',storage,
        (newVolumeFormat region zone storage (diskOf id name) format).disk⟩ where
  region := rfl
  zone := rfl
  storage := rfl
  disk := rfl
  vmid := newVolumeFormat_owner h region zone storage name format
  diskSuffix := fun hname => newVolumeFormat_suffix h region zone storage hn hname hf

theorem parse_volumeID (format disk : String) (hr : '/' ∉ region.toList) (hz : '/' ∉ zone.toList)
    (hs : '/' ∉ storage.toList) :
    parseVolumeID (newVolumeFormat region zone storage disk format).volumeID =
      some ⟨region,zone,zone,storage,(newVolumeFormat region zone storage disk format).disk⟩ := by
  rw [newVolumeFormat_eq region zone storage disk format]
  exact parseVolumeID_volumeID _ rfl hr hz hs

theorem parse_volumeSharedID (disk : String) (hr : '/' ∉ region.toList)
    (hs : '/' ∉ storage.toList) :
    parseVolumeID (volumeSharedID (newVolumeFormat region zone storage disk format)) =
      some ⟨region,"","",storage,(newVolumeFormat region zone storage disk format).disk⟩ := by
  rw [volumeSharedID_eq, newVolumeFormat_eq region zone storage disk format]
  exact parseVolumeID_volumeID _ rfl hr (by simp) hs

end RoundTrip

theorem handle_codec :
    (∀ s : String, ((parseVolumeID s).isSome = true ↔ 3 ≤ s.toList.count '/') ∧
      ∀ v, parseVolumeID s = some v → v.volumeID = s) ∧
    ∀ (region zone storage name format : String) (id : ℤ), '/' ∉ region.toList → '/' ∉ zone.toList →
      '/' ∉ storage.toList → Numbered id → name ≠ "" → '\n' ∉ format.toList →
      let v := newVolumeFormat region zone storage (diskOf id name) format
      (∃ w, parseVolumeID v.volumeID = some w ∧
        ReadsBack region zone storage v.disk id name format w) ∧
      (∃ w, parseVolumeID (volumeSharedID v) = some w ∧
        ReadsBack region "" storage v.disk id name format w) ∧
      ∀ (region' zone' storage' name' : String) (id' : ℤ), '/' ∉ region'.toList →
        '/' ∉ zone'.toList → '/' ∉ storage'.toList → Numbered id' → name' ≠ "" →
        v.volumeID = (newVolumeFormat region' zone' storage' (diskOf id' name') format).volumeID →
        (region,zone,storage,id,name) = (region',zone',storage',id',name') := by
  refine ⟨fun s => ⟨parse_isSome_iff s,fun v => volumeID_of_parse⟩,?_⟩
  intro region zone storage name format id hr hz hs hid hn hf v
  refine ⟨⟨_,parse_volumeID _ _ hr hz hs,readsBack hid hn hf region zone storage zone⟩,
    ⟨_,parse_volumeSharedID _ hr hs,readsBack hid hn hf region zone storage ""⟩,?_⟩
  intro region' zone' storage' name' id' hr' hz' hs' hid' _ he
  have hp := parse_volumeID format (diskOf id name) hr hz hs
  have hp' := parse_volumeID format (diskOf id' name') hr' hz' hs'
  have hv := Option.some.inj (hp.symm.trans ((congrArg parseVolumeID he).trans hp'))
  obtain ⟨h₁,h₂,_,h₃,hd⟩ := Volume.mk.inj hv
  obtain ⟨h₄,h₅⟩ := newVolumeFormat_disk_inj hid hid' hd
  rw [h₁, h₂, h₃, h₄, h₅]

theorem handle_codec_file :
    ∃ w, parseVolumeID (newVolumeFormat "r" "n1" "dir" "vm-9999-pvc-a" "raw").volumeID = some w ∧
      ReadsBack "r" "n1" "dir" "9999/vm-9999-pvc-a.raw" 9999 "pvc-a" "raw" w :=
  (handle_codec.2 "r" "n1" "dir" "pvc-a" "raw" 9999 (by decide) (by decide) (by decide)
    ⟨by decide,by decide⟩ (by decide) (by decide)).1

end ProxmoxCSI.HandleCodec
