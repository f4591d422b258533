import ProxmoxCSI.TextScan

/-!
# Volume handles and Proxmox disk names

A handle is `region/zone/storage/disk`; Proxmox names the same disk
`storage:disk`. The disk name carries the vmid of its owner once or twice, and
the part behind it survives a reassignment to another VM.
-/

set_option autoImplicit false

namespace ProxmoxCSI.VolumeHandle
open TextScan

structure Volume where
  region : String
  zone : String
  node : String
  storage : String
  disk : String
  deriving DecidableEq, Repr

def newVolume (region zone storage disk : String) : Volume := ⟨region,zone,zone,storage,disk⟩

/-- The directory plugin stores a disk as `<vmid>/<disk>.<format>`. -/
def newVolumeFormat (region zone storage disk format : String) : Volume :=
  if format = "" then newVolume region zone storage disk
  else match splitN disk '-' 3 with
    | [_,vmid,_] => newVolume region zone storage (vmid ++ "/" ++ disk ++ "." ++ format)
    | _ => newVolume region zone storage (disk ++ "." ++ format)

def parseVolumeID (vol : String) : Option Volume :=
  match splitN vol '/' 4 with
  | [region,zone,storage,disk] => some ⟨region,zone,zone,storage,disk⟩
  | _ => none

namespace Volume

def volumeID (v : Volume) : String :=
  v.region ++ "/" ++ v.zone ++ "/" ++ v.storage ++ "/" ++ v.disk

def volID (v : Volume) : String := v.storage ++ ":" ++ v.disk

end Volume

theorem volumeID_toList (v : Volume) : v.volumeID.toList = v.region.toList ++ '/' ::
    (v.zone.toList ++ '/' :: (v.storage.toList ++ '/' :: v.disk.toList)) := by
  simp [Volume.volumeID]

theorem volumeID_ne_empty (v : Volume) : v.volumeID ≠ "" := by
  intro h
  have hl := volumeID_toList v
  rw [h] at hl
  simp at hl

/-- A handle reads back, unless one of its first three parts has a separator. -/
theorem parseVolumeID_volumeID (v : Volume) (hn : v.node = v.zone) (hr : '/' ∉ v.region.toList)
    (hz : '/' ∉ v.zone.toList) (hs : '/' ∉ v.storage.toList) :
    parseVolumeID v.volumeID = some v := by
  obtain ⟨region,zone,node,storage,disk⟩ := v
  simp only at hn hr hz hs
  subst hn
  rw [parseVolumeID, splitN, volumeID_toList]
  simp only [splitList, cutList_append _ _ _ hr, cutList_append _ _ _ hz, cutList_append _ _ _ hs,
    List.map_cons, List.map_nil, String.ofList_toList]

theorem parseVolumeID_form {s : String} {v : Volume} (h : parseVolumeID s = some v) :
    v.volumeID = s ∧ v.node = v.zone ∧ '/' ∉ v.region.toList ∧ '/' ∉ v.zone.toList ∧
      '/' ∉ v.storage.toList := by
  unfold parseVolumeID at h
  split at h
  · rename_i region zone storage disk hs
    cases h
    simp only [splitN, splitList] at hs
    cases hc : cutList '/' s.toList with
    | none => simp [hc] at hs
    | some p =>
      cases hc' : cutList '/' p.2 with
      | none => simp [hc, hc'] at hs
      | some q =>
        cases hc'' : cutList '/' q.2 with
        | none => simp [hc, hc', hc''] at hs
        | some r =>
          simp only [hc, hc', hc'', List.map_cons, List.map_nil, List.cons.injEq, and_true] at hs
          obtain ⟨rfl,rfl,rfl,rfl⟩ := hs
          refine ⟨?_,rfl,?_⟩
          · apply String.toList_inj.mp
            rw [volumeID_toList]
            simp only [String.toList_ofList]
            rw [(cutList_some hc).1, (cutList_some hc').1, (cutList_some hc'').1]
          · simp only [String.toList_ofList]
            exact ⟨(cutList_some hc).2,(cutList_some hc').2,(cutList_some hc'').2⟩
  · cases h

theorem parseVolumeID_some {s : String} {v : Volume} (h : parseVolumeID s = some v) :
    v.node = v.zone ∧ '/' ∉ v.region.toList ∧ '/' ∉ v.zone.toList ∧ '/' ∉ v.storage.toList :=
  (parseVolumeID_form h).2

theorem volumeID_of_parse {s : String} {v : Volume} (h : parseVolumeID s = some v) : v.volumeID = s :=
  (parseVolumeID_form h).1

theorem newVolume_of_parse {s : String} {v : Volume} (h : parseVolumeID s = some v) :
    newVolume v.region v.node v.storage v.disk = v := by
  have hn := (parseVolumeID_some h).1
  obtain ⟨region,zone,node,storage,disk⟩ := v
  cases hn
  rfl

/-- `[1-9][0-9]{2,8}` in front of a character that is no digit. -/
def vmidRun (s : List Char) : Option (List Char × List Char) :=
  let ds := s.takeWhile Char.isDigit
  if 3 ≤ ds.length ∧ ds.length ≤ 9 ∧ ds.head? ≠ some '0' then
    some (ds,s.dropWhile Char.isDigit) else none

structure DiskParts where
  dir : Option (List Char)
  vmid : List Char
  suffix : List Char
  deriving DecidableEq, Repr

/-- `vm-([1-9][0-9]{2,8})-(.+)$`, where the dot excludes the newline. -/
def vmForm (dir : Option (List Char)) (s : List Char) : Option DiskParts :=
  match s with
  | 'v' :: 'm' :: '-' :: rest => match vmidRun rest with
    | some (vmid,'-' :: suffix) =>
      if suffix ≠ [] ∧ '\n' ∉ suffix then some ⟨dir,vmid,suffix⟩ else none
    | _ => none
  | _ => none

/-- The groups of `^(?:([1-9][0-9]{2,8})/)?vm-([1-9][0-9]{2,8})-(.+)$`. -/
def diskParts (s : List Char) : Option DiskParts :=
  match vmidRun s with
  | some (dir,'/' :: rest) => vmForm (some dir) rest
  | _ => vmForm none s

def ownerHere (s : List Char) : Option (List Char) :=
  match s with
  | 'v' :: 'm' :: '-' :: rest => match vmidRun rest with
    | some (vmid,[]) => some vmid
    | some (vmid,'-' :: _) => some vmid
    | _ => none
  | _ => none

def ownerBehind : List Char → Option (List Char)
  | [] => none
  | c::s => if c = '-' ∨ c = '/' then (ownerHere s).or (ownerBehind s) else ownerBehind s

namespace Volume

/-- The vmid of the leftmost match of `(^|-|/)vm-([1-9][0-9]{2,8})(-|$)`. -/
def vmid (v : Volume) : String :=
  match (ownerHere v.disk.toList).or (ownerBehind v.disk.toList) with
  | none => ""
  | some ds => String.ofList ds

def diskName (v : Volume) : String :=
  match cutList '/' v.disk.toList.reverse with
  | none => v.disk
  | some (name,_) => String.ofList name.reverse

def diskSuffix (v : Volume) : String :=
  match diskParts v.disk.toList with
  | none => ""
  | some p => String.ofList p.suffix

def withVMID (v : Volume) (vmid : ℤ) : Option Volume :=
  (diskParts v.disk.toList).map (fun p =>
    let disk := "vm-" ++ toString vmid ++ "-" ++ String.ofList p.suffix
    { v with disk := if p.dir.isSome then toString vmid ++ "/" ++ disk else disk })

end Volume

def pvName (vol : Volume) : String :=
  match splitN vol.disk '-' 3 with
  | [_,_,name] => firstPiece name '.'
  | _ => ""

def copyName (v : Volume) (name : String) : Volume :=
  { v with disk := match cutList '.' v.disk.toList.reverse with
    | some (ext,_) => v.vmid ++ "/" ++ name ++ "." ++ String.ofList ext.reverse
    | none => name }

def setZone (v : Volume) (zone : String) : Volume :=
  { v with zone := zone, node := if v.node = v.zone ∨ v.node = "" then zone else v.node }

theorem vmidRun_dot (p q : List Char) :
    vmidRun (p ++ '.' :: q) = (vmidRun p).map (fun x => (x.1,x.2 ++ '.' :: q)) := by
  have ht : (p ++ '.' :: q).takeWhile Char.isDigit = p.takeWhile Char.isDigit := by
    induction p with
    | nil => rfl
    | cons c p ih => simp [List.takeWhile_cons, ih]
  have hd : (p ++ '.' :: q).dropWhile Char.isDigit = p.dropWhile Char.isDigit ++ '.' :: q := by
    clear ht
    induction p with
    | nil => rfl
    | cons c p ih =>
      by_cases hc : c.isDigit
      · simp [hc, ih]
      · simp [hc]
  unfold vmidRun
  rw [ht, hd]
  by_cases h : 3 ≤ (p.takeWhile Char.isDigit).length ∧ (p.takeWhile Char.isDigit).length ≤ 9 ∧
      (p.takeWhile Char.isDigit).head? ≠ some '0'
  · simp only [h, if_true, Option.map_some, ne_eq, not_false_eq_true, and_self]
  · simp only [h, if_false, Option.map_none]

theorem ownerHere_dot (p q q' : List Char) :
    ownerHere (p ++ '.' :: q) = ownerHere (p ++ '.' :: q') := by
  match p with
  | [] => rfl
  | [a] =>
    by_cases ha : a = 'v' <;> simp [ownerHere, ha]
  | [a,b] =>
    by_cases ha : a = 'v' <;> by_cases hb : b = 'm' <;> simp [ownerHere, ha, hb]
  | a::b::c::rest =>
    by_cases ha : a = 'v' ∧ b = 'm' ∧ c = '-'
    · obtain ⟨rfl,rfl,rfl⟩ := ha
      simp only [ownerHere, List.cons_append, vmidRun_dot]
      cases vmidRun rest with
      | none => rfl
      | some x =>
        obtain ⟨v,s⟩ := x
        cases s with
        | nil => rfl
        | cons y s =>
          by_cases hy : y = '-'
          · subst hy; rfl
          · simp [hy]
    · unfold ownerHere
      split
      · simp_all
      · split
        · simp_all
        · rfl

theorem ownerBehind_none {q : List Char} (h : ∀ c ∈ q, c ≠ '-' ∧ c ≠ '/') : ownerBehind q = none := by
  induction q with
  | nil => rfl
  | cons c q ih =>
    have hc := h c List.mem_cons_self
    rw [ownerBehind, if_neg (by simpa using hc)]
    exact ih (fun x hx => h x (List.mem_cons_of_mem c hx))

theorem ownerBehind_dot (p : List Char) {q q' : List Char} (hq : ∀ c ∈ q, c ≠ '-' ∧ c ≠ '/')
    (hq' : ∀ c ∈ q', c ≠ '-' ∧ c ≠ '/') :
    ownerBehind (p ++ '.' :: q) = ownerBehind (p ++ '.' :: q') := by
  induction p with
  | nil =>
    show ownerBehind q = ownerBehind q'
    rw [ownerBehind_none hq, ownerBehind_none hq']
  | cons c p ih =>
    simp only [List.cons_append, ownerBehind, ih, ownerHere_dot p q q']

/-- The owner in a disk name does not depend on its file extension. -/
theorem vmid_extension (v v' : Volume) (p q q' : List Char)
    (hv : v.disk.toList = p ++ '.' :: q) (hv' : v'.disk.toList = p ++ '.' :: q')
    (hq : ∀ c ∈ q, c ≠ '-' ∧ c ≠ '/') (hq' : ∀ c ∈ q', c ≠ '-' ∧ c ≠ '/') : v.vmid = v'.vmid := by
  unfold Volume.vmid
  rw [hv, hv', ownerHere_dot p q q', ownerBehind_dot p hq hq']

end ProxmoxCSI.VolumeHandle
