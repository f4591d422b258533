import ProxmoxCSI.DirectVolumes
import ProxmoxCSI.HandleCodec
import ProxmoxCSI.VolumeLifecycle

/-!
# Disks under another owner

A disk that is reassigned to another VM keeps its suffix. The driver looks for a
renamed disk with a regular expression made of the suffix, the operator by equal
suffixes; both find the same disks.
-/

set_option autoImplicit false

namespace ProxmoxCSI.RenamedDisks
open TextScan VolumeHandle DiskNames HandleCodec DirectCalls DirectVolumes OperatorRecords
open VolumeLifecycle (findDisk)
open ClusterState (ContentItem)

section Digits

theorem digitChar_toNat {c : Char} (h : c.isDigit = true) : Nat.digitChar (c.toNat-48) = c := by
  have hr : 48 ≤ c.toNat ∧ c.toNat ≤ 57 := by
    simpa [Char.isDigit, UInt32.le_iff_toNat_le] using h
  have hall : ∀ n ∈ List.range' 48 10, Nat.digitChar (n-48) = Char.ofNat n := by decide
  have hc := hall c.toNat (List.mem_range'_1.mpr ⟨hr.1,by omega⟩)
  rwa [Char.ofNat_toNat] at hc

theorem digit_lt {c : Char} (h : c.isDigit = true) : c.toNat-48 < 10 := by
  have hr : 48 ≤ c.toNat ∧ c.toNat ≤ 57 := by
    simpa [Char.isDigit, UInt32.le_iff_toNat_le] using h
  omega

/-- A numeral without a leading zero is the numeral of its value. -/
theorem toDigits_ofDigitChars {ds : List Char} (hd : ∀ c ∈ ds, c.isDigit = true) (hne : ds ≠ [])
    (h0 : ds.head? ≠ some '0') :
    0 < Nat.ofDigitChars 10 ds 0 ∧ Nat.toDigits 10 (Nat.ofDigitChars 10 ds 0) = ds := by
  induction ds using List.reverseRecOn with
  | nil => exact absurd rfl hne
  | append_singleton ds c ih =>
    have hc := hd c (by simp)
    have hval : Nat.ofDigitChars 10 (ds ++ [c]) 0 = 10 * Nat.ofDigitChars 10 ds 0 + (c.toNat-48) := by
      rw [Nat.ofDigitChars_append, Nat.ofDigitChars_cons, Nat.ofDigitChars_nil]
      rfl
    have hlt := digit_lt hc
    have hchar := digitChar_toNat hc
    rw [hval]
    by_cases hds : ds = []
    · subst hds
      have hz : c.toNat-48 ≠ 0 := by
        intro hz
        rw [hz] at hchar
        exact h0 (by rw [← hchar]; rfl)
      rw [Nat.ofDigitChars_nil, Nat.mul_zero, Nat.zero_add]
      refine ⟨by omega,?_⟩
      rw [Nat.toDigits_eq_if (by decide), if_pos hlt, hchar]
      rfl
    · obtain ⟨hpos,hih⟩ := ih (fun x hx => hd x (by simp [hx])) hds
        (by rwa [List.head?_append_of_ne_nil _ hds] at h0)
      refine ⟨by omega,?_⟩
      rw [Nat.toDigits_eq_if (by decide), if_neg (by omega)]
      rw [show (10 * Nat.ofDigitChars 10 ds 0 + (c.toNat-48))/10 = Nat.ofDigitChars 10 ds 0 by omega,
        show (10 * Nat.ofDigitChars 10 ds 0 + (c.toNat-48))%10 = c.toNat-48 by omega, hih, hchar]

theorem run_numbered {ds : List Char} (h : Run ds) :
    ∃ a, Numbered a ∧ toString a = String.ofList ds := by
  have hne : ds ≠ [] := by
    rintro rfl
    exact absurd h.long (by decide)
  obtain ⟨_,hv⟩ := toDigits_ofDigitChars h.digits hne h.head
  generalize Nat.ofDigitChars 10 ds 0 = n at hv
  have hlen := congrArg List.length hv
  refine ⟨(n : ℤ),⟨?_,?_⟩,?_⟩
  · by_contra hlt
    have h2 := (Nat.length_toDigits_le_iff (b := 10) (n := n) (k := 2) (by decide) (by decide)).mpr
      (by omega)
    have := h.long
    omega
  · have h9 := (Nat.length_toDigits_le_iff (b := 10) (n := n) (k := 9) (by decide) (by decide)).mp
      (by have := h.short; omega)
    omega
  · apply String.toList_inj.mp
    rw [String.toList_ofList, ← hv]
    show (toString n).toList = _
    simp

end Digits

section Forms

def build (dir : Option (List Char)) (vmid suffix : List Char) : List Char :=
  (match dir with
    | none => []
    | some d => d ++ ['/']) ++ 'v' :: 'm' :: '-' :: (vmid ++ '-' :: suffix)

/-- What the groups of a disk name look like. -/
structure Formed (p : DiskParts) : Prop where
  dir : ∀ d, p.dir = some d → Run d
  vmid : Run p.vmid
  filled : p.suffix ≠ []
  line : '\n' ∉ p.suffix

variable {s : List Char} {p : DiskParts} {v w : Volume} {a b : ℤ}

theorem vmForm_some {dir : Option (List Char)} (h : vmForm dir s = some p) :
    p.dir = dir ∧ Run p.vmid ∧ p.suffix ≠ [] ∧ '\n' ∉ p.suffix ∧ s = build none p.vmid p.suffix := by
  unfold vmForm at h
  split at h
  · split at h
    · rename_i vmid suffix hr
      split at h
      · rename_i hs
        cases h
        obtain ⟨hrun,rfl⟩ := run_of_vmidRun hr
        exact ⟨rfl,hrun,hs.1,hs.2,rfl⟩
      · cases h
    · cases h
  · cases h

theorem diskParts_some (h : diskParts s = some p) : Formed p ∧ s = build p.dir p.vmid p.suffix := by
  unfold diskParts at h
  split at h
  · rename_i dir rest hr
    obtain ⟨hrun,rfl⟩ := run_of_vmidRun hr
    obtain ⟨hd,hv,hf,hl,rfl⟩ := vmForm_some h
    refine ⟨⟨fun d he => ?_,hv,hf,hl⟩,?_⟩
    · cases hd.symm.trans he
      exact hrun
    · rw [hd]
      simp [build]
  · obtain ⟨hd,hv,hf,hl,rfl⟩ := vmForm_some h
    exact ⟨⟨fun d he => (by cases hd.symm.trans he),hv,hf,hl⟩,by rw [hd]⟩

theorem diskParts_build (h : Formed p) : diskParts (build p.dir p.vmid p.suffix) = some p := by
  obtain ⟨dir,vmid,suffix⟩ := p
  cases dir with
  | none => exact diskParts_bare h.vmid h.filled h.line
  | some d =>
    have he : build (some d) vmid suffix = d ++ '/' :: 'v' :: 'm' :: '-' ::
      (vmid ++ '-' :: suffix) := by
      simp [build]
    rw [he]
    exact diskParts_file (h.dir d rfl) h.vmid h.filled h.line

theorem vmid_build (h : Formed p) (hv : v.disk.toList = build p.dir p.vmid p.suffix) :
    v.vmid = String.ofList p.vmid := by
  obtain ⟨dir,vmid,suffix⟩ := p
  unfold Volume.vmid
  rw [hv]
  cases dir with
  | none =>
    have he : ownerHere (build none vmid suffix) = some vmid := ownerHere_run h.vmid
    rw [he]
    rfl
  | some d =>
    have he : build (some d) vmid suffix = d ++ '/' :: 'v' :: 'm' :: '-' ::
      (vmid ++ '-' :: suffix) := by
      simp [build]
    rw [he, ownerHere_dir (h.dir d rfl).digits, ownerBehind_dir (h.dir d rfl).digits h.vmid]
    rfl

theorem run_undashed {ds : List Char} (h : Run ds) : '-' ∉ ds := by
  intro hm
  exact absurd (h.digits '-' hm) (by decide)

theorem pvName_build (h : Formed p) (hv : v.disk.toList = build p.dir p.vmid p.suffix) :
    pvName v = firstPiece (String.ofList p.suffix) '.' := by
  have hform : ∃ x, '-' ∉ x ∧ v.disk.toList = x ++ '-' :: (p.vmid ++ '-' :: p.suffix) := by
    rw [hv]
    cases hd : p.dir with
    | none => exact ⟨['v','m'],by decide,rfl⟩
    | some d =>
      refine ⟨d ++ ['/','v','m'],?_,by simp [build]⟩
      rw [List.mem_append, not_or]
      exact ⟨run_undashed (h.dir d hd),by decide⟩
  obtain ⟨x,hx,he⟩ := hform
  have hs : splitN v.disk '-' 3 = [String.ofList x,String.ofList p.vmid,String.ofList p.suffix] := by
    rw [splitN, he]
    simp only [splitList, cutList_append _ _ _ hx, cutList_append _ _ _ (run_undashed h.vmid),
      List.map_cons, List.map_nil]
  rw [pvName, hs]

def renamed (p : DiskParts) (a : ℤ) : DiskParts :=
  ⟨p.dir.map (fun _ => (toString a).toList),(toString a).toList,p.suffix⟩

theorem renamed_formed (h : Formed p) (ha : Numbered a) : Formed (renamed p a) := by
  refine ⟨fun d hd => ?_,numbered_run ha,h.filled,h.line⟩
  obtain ⟨_,_,rfl⟩ := Option.map_eq_some_iff.mp hd
  exact numbered_run ha

theorem withVMID_parts (hp : diskParts v.disk.toList = some p) (h : v.withVMID a = some w) :
    w = { v with disk := w.disk } ∧
      w.disk.toList = build (renamed p a).dir (renamed p a).vmid (renamed p a).suffix := by
  unfold Volume.withVMID at h
  rw [hp] at h
  cases h
  refine ⟨rfl,?_⟩
  obtain ⟨dir,vmid,suffix⟩ := p
  cases dir with
  | none => simp [renamed, build]
  | some d => simp [renamed, build]

theorem withVMID_none_iff : v.withVMID a = none ↔ v.diskSuffix = "" := by
  unfold Volume.withVMID Volume.diskSuffix
  cases hp : diskParts v.disk.toList with
  | none => simp
  | some p => simp [(diskParts_some hp).1.filled]

/-- What a rename changes and what it keeps. -/
structure Renamed (v w : Volume) (a : ℤ) : Prop where
  vmid : w.vmid = toString a
  diskSuffix : w.diskSuffix = v.diskSuffix
  pv : pvName w = pvName v
  place : w.region = v.region ∧ w.zone = v.zone ∧ w.node = v.node ∧ w.storage = v.storage

theorem diskSuffix_parts (hp : diskParts v.disk.toList = some p) :
    v.diskSuffix = String.ofList p.suffix := by
  rw [Volume.diskSuffix, hp]

theorem withVMID_some (h : v.withVMID a = some w) : ∃ p, diskParts v.disk.toList = some p := by
  cases hp : diskParts v.disk.toList with
  | none => simp [Volume.withVMID, hp] at h
  | some p => exact ⟨p,rfl⟩

theorem withVMID_diskParts (ha : Numbered a) (hp : diskParts v.disk.toList = some p)
    (h : v.withVMID a = some w) : diskParts w.disk.toList = some (renamed p a) := by
  rw [(withVMID_parts hp h).2]
  exact diskParts_build (renamed_formed (diskParts_some hp).1 ha)

theorem withVMID_renamed (ha : Numbered a) (h : v.withVMID a = some w) : Renamed v w a := by
  obtain ⟨p,hp⟩ := withVMID_some h
  obtain ⟨hf,hv⟩ := diskParts_some hp
  obtain ⟨hw,hd⟩ := withVMID_parts hp h
  have hf' := renamed_formed hf ha
  refine ⟨?_,?_,?_,?_⟩
  · rw [vmid_build hf' hd]
    exact String.ofList_toList
  · rw [diskSuffix_parts (withVMID_diskParts ha hp h), diskSuffix_parts hp]
    rfl
  · rw [pvName_build hf' hd, pvName_build hf hv]
    rfl
  · rw [hw]
    exact ⟨rfl,rfl,rfl,rfl⟩

theorem withVMID_again (ha : Numbered a) (h : v.withVMID a = some w) :
    w.withVMID b = v.withVMID b := by
  obtain ⟨p,hp⟩ := withVMID_some h
  have hw := withVMID_diskParts ha hp h
  obtain ⟨hv,_⟩ := withVMID_parts hp h
  unfold Volume.withVMID
  rw [hw, hp, hv]
  cases hd : p.dir with
  | none => simp [renamed, hd]
  | some d => simp [renamed, hd]

def Agrees (v : Volume) : Prop := ∀ p, diskParts v.disk.toList = some p → ∀ d, p.dir = some d →
    d = p.vmid

theorem withVMID_self (hs : v.diskSuffix ≠ "") (hg : Agrees v) :
    ∃ a, Numbered a ∧ toString a = v.vmid ∧ v.withVMID a = some v := by
  cases hp : diskParts v.disk.toList with
  | none => exact absurd (by rw [Volume.diskSuffix, hp]) hs
  | some p =>
    obtain ⟨hf,hv⟩ := diskParts_some hp
    obtain ⟨a,ha,he⟩ := run_numbered hf.vmid
    refine ⟨a,ha,he.trans (vmid_build hf hv).symm,?_⟩
    cases hw : v.withVMID a with
    | none => exact absurd (withVMID_none_iff.mp hw) hs
    | some w =>
      obtain ⟨hwv,hd⟩ := withVMID_parts hp hw
      have hl : (toString a).toList = p.vmid := by rw [he, String.toList_ofList]
      have hdir : (renamed p a).dir = p.dir := by
        show p.dir.map (fun _ => (toString a).toList) = p.dir
        cases hd' : p.dir with
        | none => rfl
        | some d => rw [Option.map_some, hl, hg p hp d hd']
      have hdisk : w.disk = v.disk := by
        apply String.toList_inj.mp
        rw [hd, hv, hdir]
        show build p.dir (toString a).toList p.suffix = _
        rw [hl]
      rw [hwv, hdisk]

end Forms

section Lookup

variable {v w : Volume} {s suffix : List Char}

/-- `vm-[1-9][0-9]{2,8}-<suffix>$` -/
def builtTail (suffix : List Char) : List Char → Bool
  | 'v' :: 'm' :: '-' :: rest => match vmidRun rest with
    | some (_,'-' :: t) => t = suffix
    | _ => false
  | _ => false

/-- `^(?:[1-9][0-9]{2,8}/)?vm-[1-9][0-9]{2,8}-<suffix>$` -/
def builtRegexp (suffix s : List Char) : Bool :=
  builtTail suffix s || match vmidRun s with
    | some (_,'/' :: rest) => builtTail suffix rest
    | _ => false

theorem builtTail_iff (dir : Option (List Char)) (hs : suffix ≠ []) (hl : '\n' ∉ suffix) :
    builtTail suffix s = true ↔ ∃ p, vmForm dir s = some p ∧ p.suffix = suffix := by
  constructor
  · intro h
    unfold builtTail at h
    split at h
    · split at h
      · rename_i vmid t hr
        obtain rfl := of_decide_eq_true h
        exact ⟨⟨dir,vmid,t⟩,by simp [vmForm, hr, hs, hl],rfl⟩
      · cases h
    · cases h
  · rintro ⟨p,hp,rfl⟩
    unfold vmForm at hp
    split at hp
    · split at hp
      · rename_i vmid t hr
        split at hp
        · cases hp
          simp [builtTail, hr]
        · cases hp
      · cases hp
    · cases hp

theorem builtTail_digits {ds : List Char} (h : Run ds) : builtTail suffix (ds ++ s) = false := by
  obtain ⟨c,ds,rfl⟩ := List.exists_cons_of_ne_nil
    (show ds ≠ [] by rintro rfl; exact absurd h.long (by decide))
  have hc := h.digits c List.mem_cons_self
  rw [List.cons_append]
  unfold builtTail
  split
  · rename_i he
    rw [(List.cons.inj he).1] at hc
    exact absurd hc (by decide)
  · rfl

theorem builtRegexp_iff (hs : suffix ≠ []) (hl : '\n' ∉ suffix) :
    builtRegexp suffix s = true ↔ ∃ p, diskParts s = some p ∧ p.suffix = suffix := by
  by_cases h : ∃ dir rest, vmidRun s = some (dir,'/' :: rest)
  · obtain ⟨dir,rest,hr⟩ := h
    obtain ⟨hrun,hsplit⟩ := run_of_vmidRun hr
    have hno : builtTail suffix s = false := hsplit ▸ builtTail_digits hrun
    simp only [builtRegexp, diskParts, hr, hno, Bool.false_or]
    exact builtTail_iff (some dir) hs hl
  · have hd : diskParts s = vmForm none s := by
      unfold diskParts
      split
      · rename_i hr
        exact absurd ⟨_,_,hr⟩ h
      · rfl
    have hb : builtRegexp suffix s = builtTail suffix s := by
      unfold builtRegexp
      split
      · rename_i hr
        exact absurd ⟨_,_,hr⟩ h
      · exact Bool.or_false _
    rw [hd, hb]
    exact builtTail_iff none hs hl

/-- The expression made of the volume's suffix accepts the disks of equal suffix. -/
theorem matchesSuffix_built (hv : v.diskSuffix ≠ "") (disk : String) :
    matchesSuffix v disk = builtRegexp v.diskSuffix.toList disk.toList := by
  cases hp : diskParts v.disk.toList with
  | none => exact absurd (by rw [Volume.diskSuffix, hp]) hv
  | some p =>
    have hf := (diskParts_some hp).1
    have he : v.diskSuffix.toList = p.suffix := by rw [diskSuffix_parts hp, String.toList_ofList]
    rw [Bool.eq_iff_iff, he, builtRegexp_iff hf.filled hf.line, matchesSuffix, diskSuffix_parts hp]
    cases diskParts disk.toList with
    | none => simp
    | some q => simp [String.ofList_inj]

theorem matchesSuffix_iff (hv : v.diskSuffix ≠ "") (disk : String) :
    matchesSuffix v disk = true ↔ ({ v with disk := disk } : Volume).diskSuffix = v.diskSuffix := by
  rw [matchesSuffix]
  generalize v.diskSuffix = suffix at hv
  rw [Volume.diskSuffix]
  cases diskParts disk.toList with
  | none => simp [hv.symm]
  | some p => simp

def diskName (volid storage : String) : Option String :=
  match cut volid ':' with
  | some (pre,name) => if pre = storage ∧ name ≠ "" then some name else none
  | none => none

def builtDisk (v : Volume) (item : ContentItem) : Option String :=
  match cut item.volid ':' with
  | some (storage,disk) =>
    if storage = v.storage ∧ builtRegexp v.diskSuffix.toList disk.toList then some disk else none
  | none => none

def findBySuffix (v : Volume) (contents : List ContentItem) : Option Volume :=
  (contents.findSome? (builtDisk v)).map (fun disk => { v with disk := disk })

theorem suffixDisk_built (hv : v.diskSuffix ≠ "") : suffixDisk v = builtDisk v := by
  funext item
  unfold suffixDisk builtDisk
  cases cut item.volid ':' with
  | none => rfl
  | some x => simp only [matchesSuffix_built hv]

/-- The driver's lookup is this search of the listing. -/
theorem findVolumeBySuffix_eq (hv : v.diskSuffix ≠ "") : findVolumeBySuffix v = (do
    let contents ← need (.storageContent v.region v.node v.storage)
      (labelled ("failed to list storage content on node " ++ v.node ++ ": "))
    pure (findBySuffix v contents)) := by
  rw [findVolumeBySuffix, if_neg hv, suffixDisk_built hv]
  rfl

def Carries (v : Volume) (contents : List ContentItem) (disk : String) : Prop :=
  (∃ item ∈ contents, diskName item.volid v.storage = some disk) ∧
    ({ v with disk := disk } : Volume).diskSuffix = v.diskSuffix

theorem suffixDisk_iff (hv : v.diskSuffix ≠ "") (item : ContentItem) (disk : String) :
    suffixDisk v item = some disk ↔ diskName item.volid v.storage = some disk ∧
      ({ v with disk := disk } : Volume).diskSuffix = v.diskSuffix := by
  unfold suffixDisk diskName
  cases cut item.volid ':' with
  | none => simp
  | some x =>
    obtain ⟨storage,name⟩ := x
    have hne : matchesSuffix v name = true → name ≠ "" := by
      rintro h rfl
      exact absurd h (by simp [matchesSuffix, diskParts, vmidRun, vmForm])
    simp only
    constructor
    · intro h
      split at h
      · rename_i hm
        cases h
        exact ⟨if_pos ⟨hm.1,hne hm.2⟩,(matchesSuffix_iff hv _).mp hm.2⟩
      · cases h
    · rintro ⟨h,hs⟩
      split at h
      · rename_i hm
        cases h
        exact if_pos ⟨hm.1,(matchesSuffix_iff hv _).mpr hs⟩
      · cases h

theorem findBySuffix_spec (hv : v.diskSuffix ≠ "") (contents : List ContentItem) :
    (∀ found, findBySuffix v contents = some found →
        ∃ disk, Carries v contents disk ∧ found = { v with disk := disk }) ∧
      ((∃ disk, Carries v contents disk) → ∃ found, findBySuffix v contents = some found) := by
  rw [findBySuffix, ← suffixDisk_built hv]
  constructor
  · intro found h
    obtain ⟨disk,hf,rfl⟩ := Option.map_eq_some_iff.mp h
    obtain ⟨item,hm,hs⟩ := List.exists_of_findSome?_eq_some hf
    obtain ⟨hn,hs⟩ := (suffixDisk_iff hv item disk).mp hs
    exact ⟨disk,⟨⟨item,hm,hn⟩,hs⟩,rfl⟩
  · rintro ⟨disk,⟨item,hm,hn⟩,hs⟩
    cases hf : contents.findSome? (suffixDisk v) with
    | some d => exact ⟨_,rfl⟩
    | none =>
      have := List.findSome?_eq_none_iff.mp hf item hm
      rw [(suffixDisk_iff hv item disk).mpr ⟨hn,hs⟩] at this
      cases this

def Lists (v : Volume) (contents : List ContentItem) (disks : List ListedDisk) : Prop :=
  ∀ name, (∃ d ∈ disks, d.name = name) ↔ ∃ item ∈ contents, diskName item.volid v.storage = some name

theorem newVolume_diskSuffix (region zone storage disk : String) (v : Volume) :
    (newVolume region zone storage disk).diskSuffix = ({ v with disk := disk } : Volume).diskSuffix :=
  rfl

theorem findDisk_spec (hv : v.diskSuffix ≠ "") {contents : List ContentItem} {disks : List ListedDisk}
    (hl : Lists v contents disks) :
    (∀ d, findDisk disks v = some d → d ∈ disks ∧ Carries v contents d.name) ∧
      ((∃ disk, Carries v contents disk) → ∃ d, findDisk disks v = some d) := by
  unfold findDisk
  rw [if_neg hv]
  constructor
  · intro d h
    have hd : d ∈ disks ∧ ({ v with disk := d.name } : Volume).diskSuffix = v.diskSuffix := by
      rcases Option.or_eq_some_iff.mp h with h | ⟨_,h⟩
      · have hn : d.name = v.disk := by simpa using List.find?_some h
        refine ⟨List.mem_of_find?_eq_some h,?_⟩
        rw [hn]
      · have hn : (newVolume v.region v.zone v.storage d.name).diskSuffix = v.diskSuffix := by
          simpa using List.find?_some h
        exact ⟨List.mem_of_find?_eq_some h,hn⟩
    exact ⟨hd.1,(hl d.name).mp ⟨d,hd.1,rfl⟩,hd.2⟩
  · rintro ⟨disk,hm,hs⟩
    obtain ⟨d,hd,rfl⟩ := (hl disk).mpr hm
    cases hf : disks.find? (fun d => (newVolume v.region v.zone v.storage d.name).diskSuffix =
        v.diskSuffix) with
    | none =>
      have hn := List.find?_eq_none.mp hf d hd
      rw [newVolume_diskSuffix _ _ _ _ v, decide_eq_true_iff] at hn
      exact absurd hs hn
    | some x =>
      cases disks.find? (fun d => d.name = v.disk) with
      | none => exact ⟨x,rfl⟩
      | some y => exact ⟨y,rfl⟩

/-- Both searches of one listing. -/
structure Agreed (v : Volume) (contents : List ContentItem) (disks : List ListedDisk) : Prop where
  driver : (∃ found, findBySuffix v contents = some found) ↔ ∃ disk, Carries v contents disk
  operator : (∃ d, findDisk disks v = some d) ↔ ∃ disk, Carries v contents disk
  suffixes : (∀ found, findBySuffix v contents = some found → found.diskSuffix = v.diskSuffix) ∧
    ∀ d, findDisk disks v = some d → ({ v with disk := d.name } : Volume).diskSuffix = v.diskSuffix
  unique : ∀ disk, Carries v contents disk → (∀ other, Carries v contents other → other = disk) →
    findBySuffix v contents = some { v with disk := disk } ∧
      ∃ d, findDisk disks v = some d ∧ d.name = disk

theorem agreed (hv : v.diskSuffix ≠ "") {contents : List ContentItem} {disks : List ListedDisk}
    (hl : Lists v contents disks) : Agreed v contents disks := by
  obtain ⟨h₁,h₂⟩ := findBySuffix_spec hv contents
  obtain ⟨k₁,k₂⟩ := findDisk_spec hv hl
  refine ⟨⟨?_,h₂⟩,⟨?_,k₂⟩,⟨?_,fun d hd => (k₁ d hd).2.2⟩,?_⟩
  · rintro ⟨found,h⟩
    obtain ⟨disk,hc,_⟩ := h₁ found h
    exact ⟨disk,hc⟩
  · rintro ⟨d,h⟩
    exact ⟨d.name,(k₁ d h).2⟩
  · intro found h
    obtain ⟨disk,hc,rfl⟩ := h₁ found h
    exact hc.2
  · intro disk hc hu
    obtain ⟨found,hf⟩ := h₂ ⟨disk,hc⟩
    obtain ⟨d,hd⟩ := k₂ ⟨disk,hc⟩
    obtain ⟨x,hx,rfl⟩ := h₁ found hf
    refine ⟨?_,d,hd,hu _ (k₁ d hd).2⟩
    rw [hf, hu x hx]

end Lookup

theorem rename_algebra (v : Volume) (a b : ℤ) (ha : Numbered a) :
    (v.withVMID a = none ↔ v.diskSuffix = "") ∧
    (∀ w, v.withVMID a = some w → Renamed v w a ∧ w.withVMID b = v.withVMID b) ∧
    (v.diskSuffix ≠ "" → Agrees v → ∃ n, toString n = v.vmid ∧ v.withVMID n = some v) ∧
    (v.diskSuffix ≠ "" → findVolumeBySuffix v = (do
      let contents ← need (.storageContent v.region v.node v.storage)
        (labelled ("failed to list storage content on node " ++ v.node ++ ": "))
      pure (findBySuffix v contents))) ∧
    (v.diskSuffix ≠ "" → ∀ contents disks, Lists v contents disks → Agreed v contents disks ∧
      ∀ w, v.withVMID a = some w → Agreed w contents disks ∧ ∀ disk, Carries v contents disk →
        (∀ other, Carries v contents other → other = disk) →
        findBySuffix w contents = findBySuffix v contents ∧
          ∃ d, findDisk disks w = some d ∧ d.name = disk) := by
  refine ⟨withVMID_none_iff,fun w h => ⟨withVMID_renamed ha h,withVMID_again ha h⟩,?_,
    findVolumeBySuffix_eq,?_⟩
  · intro hs hg
    obtain ⟨n,_,hn,hw⟩ := withVMID_self hs hg
    exact ⟨n,hn,hw⟩
  · intro hs contents disks hl
    refine ⟨agreed hs hl,fun w h => ?_⟩
    have hr := withVMID_renamed ha h
    obtain ⟨p,hp⟩ := withVMID_some h
    have hw := (withVMID_parts hp h).1
    have hdisk : ∀ disk, ({ w with disk := disk } : Volume) = { v with disk := disk } := by
      intro disk
      rw [hw]
    have hlw : Lists w contents disks := by
      intro name
      rw [hl name, hr.place.2.2.2]
    have hcarries : ∀ disk, Carries w contents disk ↔ Carries v contents disk := by
      intro disk
      unfold Carries
      rw [hdisk, hr.place.2.2.2, hr.diskSuffix]
    have hagreed := agreed (hr.diskSuffix ▸ hs) hlw
    refine ⟨hagreed,fun disk hc hu => ?_⟩
    obtain ⟨hf,hd⟩ := hagreed.unique disk ((hcarries disk).mpr hc)
      (fun other ho => hu other ((hcarries other).mp ho))
    refine ⟨?_,hd⟩
    rw [hf, ((agreed hs hl).unique disk hc hu).1, hdisk]

theorem rename_algebra_file :
    Volume.withVMID ⟨"r","n","n","dir","9999/vm-9999-pvc-a.raw"⟩ 100 =
        some ⟨"r","n","n","dir","100/vm-100-pvc-a.raw"⟩ ∧
      Renamed ⟨"r","n","n","dir","9999/vm-9999-pvc-a.raw"⟩
        ⟨"r","n","n","dir","100/vm-100-pvc-a.raw"⟩ 100 := by
  have h : Volume.withVMID ⟨"r","n","n","dir","9999/vm-9999-pvc-a.raw"⟩ 100 =
      some ⟨"r","n","n","dir","100/vm-100-pvc-a.raw"⟩ := by decide
  exact ⟨h,((rename_algebra _ 100 100 ⟨by decide,by decide⟩).2.1 _ h).1⟩

end ProxmoxCSI.RenamedDisks
