import ProxmoxCSI.VolumeHandle
import ProxmoxCSI.CallErrors
import Mathlib.Data.List.AList
import Mathlib.Data.List.Perm.Basic

/-!
# Looking up a volume among the disks of a VM

The lookup searches every drive value for the part of the disk name a rename
leaves alone. It is exact when the values that contain this text are those of
the volume and no two slots name it; attaching, detaching and updating then act
on no slot of another disk.
-/

set_option autoImplicit false

namespace ProxmoxCSI.AttachedSlots
open CallProgram CallProgram.Prog CallErrors TextScan VolumeHandle

abbrev Slots := AList (fun _ : Fin 31 => String)

instance slots_neZero : NeZero 31 := ⟨by decide⟩

def deviceNamePrefix : String := "scsi"

def device (lun : ℕ) : String := deviceNamePrefix ++ toString lun

/-- The configured drives; the source enumerates them in any order. -/
def mergeSCSIs (s : Slots) : List (String × String) :=
  (s.entries.filter (fun e => e.2 ≠ "")).map (fun e => (device e.1,e.2))

def volumeMatch (vol : Volume) : String := if vol.diskSuffix ≠ "" then vol.diskSuffix else vol.disk

def lunOf (key : String) : Option ℤ := atoi (trimPrefix (firstPiece key ':') deviceNamePrefix)

def isVolumeAttached (disks : List (String × String)) (pvc : String) : ℤ × Bool :=
  if pvc = "" then (0,false)
  else match disks.find? (fun d => contains d.2 pvc) with
    | none => (0,false)
    | some d => match lunOf d.1 with
      | none => (0,false)
      | some lun => (lun,true)

def Holds (s : Slots) (n : Fin 31) (v : String) : Prop := s.lookup n = some v ∧ v ≠ ""

def SameDisk (vol : Volume) (name : String) : Prop :=
  name = vol.disk ∨ ∃ vmid : ℕ, 100 ≤ vmid ∧ vmid < 10^9 ∧
    (vol.withVMID vmid).map Volume.disk = some name

def Names (vol : Volume) (value : String) : Prop :=
  ∃ name, cut (firstPiece value ',') ':' = some (vol.storage,name) ∧ SameDisk vol name

def Found (vol : Volume) (value : String) : Prop :=
  volumeMatch vol ≠ "" ∧ contains value (volumeMatch vol)

theorem lunOf_device : ∀ n : Fin 31, lunOf (device n) = some (n.val : ℤ) := by decide +kernel

theorem device_injective {n n' : Fin 31} (h : device n = device n') : n = n' := by
  have hl := lunOf_device n
  rw [h, lunOf_device n'] at hl
  have hv := Option.some.inj hl
  omega

theorem mem_mergeSCSIs {s : Slots} {d : String × String} :
    d ∈ mergeSCSIs s ↔ ∃ (n : Fin 31) (v : String), d = (device n,v) ∧ Holds s n v := by
  constructor
  · intro h
    obtain ⟨⟨n,v⟩,he,rfl⟩ := List.mem_map.mp h
    obtain ⟨hm,hv⟩ := List.mem_filter.mp he
    exact ⟨n,v,rfl,AList.mem_lookup_iff.mpr hm,of_decide_eq_true hv⟩
  · rintro ⟨n,v,rfl,hl,hv⟩
    refine List.mem_map.mpr ⟨⟨n,v⟩,List.mem_filter.mpr ⟨AList.mem_lookup_iff.mp hl,?_⟩,rfl⟩
    exact decide_eq_true hv

section Texts

theorem firstPiece_isPrefix (s : String) (c : Char) : (firstPiece s c).toList <+: s.toList := by
  unfold firstPiece cut
  cases h : cutList c s.toList with
  | none => exact List.prefix_rfl
  | some p =>
    obtain ⟨a,b⟩ := p
    obtain ⟨hs,_⟩ := cutList_some h
    rw [hs]
    simp

theorem cut_isSuffix {s a b : String} {c : Char} (h : cut s c = some (a,b)) :
    b.toList <:+ s.toList := by
  unfold cut at h
  obtain ⟨⟨x,y⟩,hc,hp⟩ := Option.map_eq_some_iff.mp h
  obtain ⟨hs,_⟩ := cutList_some hc
  cases hp
  rw [hs, String.toList_ofList]
  exact ⟨x ++ [c],by simp⟩

theorem vmForm_isSuffix {dir : Option (List Char)} {s : List Char} {p : DiskParts}
    (h : vmForm dir s = some p) : p.suffix <:+ s := by
  unfold vmForm at h
  split at h
  · rename_i rest
    split at h
    · rename_i vmid suffix hr
      split at h
      · cases h
        have hd : rest.dropWhile Char.isDigit = '-' :: suffix := by
          unfold vmidRun at hr
          simp only [Option.ite_none_right_eq_some, Option.some.injEq, Prod.mk.injEq] at hr
          exact hr.2.2
        have hs : '-' :: suffix <:+ rest := hd ▸ List.dropWhile_suffix _
        exact (List.suffix_cons '-' suffix).trans (hs.trans ⟨['v','m','-'],rfl⟩)
      · cases h
    · cases h
  · cases h

theorem diskParts_isSuffix {s : List Char} {p : DiskParts} (h : diskParts s = some p) :
    p.suffix <:+ s := by
  unfold diskParts at h
  split at h
  · rename_i dir rest hr
    have hd : s.dropWhile Char.isDigit = '/' :: rest := by
      unfold vmidRun at hr
      simp only [Option.ite_none_right_eq_some, Option.some.injEq, Prod.mk.injEq] at hr
      exact hr.2.2
    have hs : '/' :: rest <:+ s := hd ▸ List.dropWhile_suffix _
    exact (vmForm_isSuffix h).trans ((List.suffix_cons '/' rest).trans hs)
  · exact vmForm_isSuffix h

theorem diskParts_suffix_ne {s : List Char} {p : DiskParts} (h : diskParts s = some p) :
    p.suffix ≠ [] := by
  have hform : ∀ {dir s}, vmForm dir s = some p → p.suffix ≠ [] := by
    intro dir s h
    unfold vmForm at h
    split at h
    · split at h
      · split at h
        · rename_i hs
          cases h
          exact hs.1
        · cases h
      · cases h
    · cases h
  unfold diskParts at h
  split at h
  · exact hform h
  · exact hform h

theorem diskSuffix_isSuffix (vol : Volume) : vol.diskSuffix.toList <:+ vol.disk.toList := by
  unfold Volume.diskSuffix
  cases h : diskParts vol.disk.toList with
  | none => exact List.nil_suffix
  | some p =>
    rw [String.toList_ofList]
    exact diskParts_isSuffix h

/-- A name that is the volume's up to the vmid ends in the text searched for. -/
theorem sameDisk_isSuffix {vol : Volume} {name : String} (h : SameDisk vol name) :
    (volumeMatch vol).toList <:+ name.toList := by
  rcases h with rfl | ⟨vmid,_,_,hn⟩
  · unfold volumeMatch
    split
    · exact diskSuffix_isSuffix vol
    · exact List.suffix_rfl
  · unfold Volume.withVMID at hn
    cases hp : diskParts vol.disk.toList with
    | none =>
      rw [hp] at hn
      cases hn
    | some p =>
      have hs : vol.diskSuffix.toList = p.suffix := by
        rw [Volume.diskSuffix, hp, String.toList_ofList]
      have hne : vol.diskSuffix ≠ "" := by
        intro he
        rw [he] at hs
        exact diskParts_suffix_ne hp hs.symm
      rw [hp] at hn
      simp only [Option.map_some, Option.some.injEq] at hn
      rw [volumeMatch, if_pos hne, hs, ← hn]
      split
      · simp only [String.toList_append, String.toList_ofList]
        exact (List.suffix_append _ _).trans (List.suffix_append _ _)
      · simp only [String.toList_append, String.toList_ofList]
        exact List.suffix_append _ _

theorem names_contains {vol : Volume} {value : String} (h : Names vol value) :
    contains value (volumeMatch vol) := by
  obtain ⟨name,hc,hd⟩ := h
  rw [contains_iff]
  have hname : name.toList <:+: value.toList :=
    (cut_isSuffix hc).isInfix.trans (firstPiece_isPrefix value ',').isInfix
  exact (sameDisk_isSuffix hd).isInfix.trans hname

end Texts

section Lookup

variable {s : Slots} {vol : Volume} {order : List (String × String)}

/-- The lookup reports a slot whenever one is found first in the enumeration. -/
theorem isVolumeAttached_iff (ho : order.Perm (mergeSCSIs s)) (lun : ℤ) :
    isVolumeAttached order (volumeMatch vol) = (lun,true) ↔
      volumeMatch vol ≠ "" ∧ ∃ (n : Fin 31) (v : String), lun = n.val ∧
        order.find? (fun d => contains d.2 (volumeMatch vol)) = some (device n,v) := by
  unfold isVolumeAttached
  by_cases hm : volumeMatch vol = ""
  · simp [hm]
  · simp only [hm, if_false, ne_eq, not_false_eq_true, true_and]
    cases hf : order.find? (fun d => contains d.2 (volumeMatch vol)) with
    | none => simp
    | some d =>
      obtain ⟨n,v,rfl,hh⟩ := mem_mergeSCSIs.mp (ho.subset (List.mem_of_find?_eq_some hf))
      simp only [lunOf_device, Prod.mk.injEq, and_true, Option.some.injEq]
      constructor
      · intro h
        exact ⟨n,v,h.symm,rfl,rfl⟩
      · rintro ⟨n',v',h,hd,_⟩
        rw [h, device_injective hd]

def LookupExact (s : Slots) (vol : Volume) : Prop :=
  ∀ order, order.Perm (mergeSCSIs s) → ∀ lun : ℤ,
    isVolumeAttached order (volumeMatch vol) = (lun,true) ↔
      ∃ (n : Fin 31) (v : String), lun = n.val ∧ Holds s n v ∧ Names vol v

/-- The searched text occurs in the values that name the volume and in no other,
and at most one slot names it. -/
structure Unambiguous (s : Slots) (vol : Volume) : Prop where
  only : ∀ n v, Holds s n v → (Found vol v ↔ Names vol v)
  once : ∀ n n' v v', Holds s n v → Holds s n' v' → Names vol v → Names vol v' → n = n'

theorem attached_names (hu : Unambiguous s vol) (ho : order.Perm (mergeSCSIs s)) {lun : ℤ}
    (h : isVolumeAttached order (volumeMatch vol) = (lun,true)) :
    ∃ (n : Fin 31) (v : String), lun = n.val ∧ Holds s n v ∧ Names vol v := by
  obtain ⟨hm,n,v,hl,hf⟩ := (isVolumeAttached_iff ho lun).mp h
  obtain ⟨n',v',hd,hh⟩ := mem_mergeSCSIs.mp (ho.subset (List.mem_of_find?_eq_some hf))
  obtain ⟨hdev,rfl⟩ := Prod.mk.inj hd
  have hn : n = n' := device_injective hdev
  subst hn
  have hc := List.find?_some hf
  exact ⟨n,v,hl,hh,(hu.only n v hh).mp ⟨hm,hc⟩⟩

theorem lookupExact_of_unambiguous (hu : Unambiguous s vol) : LookupExact s vol := by
  intro order ho lun
  constructor
  · exact attached_names hu ho
  · rintro ⟨n,v,rfl,hh,hn⟩
    obtain ⟨hm,hc⟩ := (hu.only n v hh).mpr hn
    have hmem : (device n,v) ∈ order := ho.symm.subset (mem_mergeSCSIs.mpr ⟨n,v,rfl,hh⟩)
    cases hf : order.find? (fun d => contains d.2 (volumeMatch vol)) with
    | none =>
      have hno := List.find?_eq_none.mp hf (device n,v) hmem
      exact absurd hc hno
    | some d =>
      obtain ⟨n',v',rfl,hh'⟩ := mem_mergeSCSIs.mp (ho.subset (List.mem_of_find?_eq_some hf))
      have hc' := List.find?_some hf
      have hn' := (hu.only n' v' hh').mp ⟨hm,hc'⟩
      have he := hu.once n n' v v' hh hh' hn hn'
      subst he
      exact (isVolumeAttached_iff ho _).mpr ⟨hm,n,v',rfl,hf⟩

theorem found_first {d : String × String} (hd : d ∈ mergeSCSIs s)
    (hc : contains d.2 (volumeMatch vol)) : ∃ order : List (String × String), order.Perm
      (mergeSCSIs s) ∧
      order.find? (fun d => contains d.2 (volumeMatch vol)) = some d := by
  refine ⟨d :: (mergeSCSIs s).erase d,(List.perm_cons_erase hd).symm,?_⟩
  simp [hc]

theorem unambiguous_of_lookupExact (he : LookupExact s vol) : Unambiguous s vol := by
  have hfound : ∀ n v, Holds s n v → Names vol v → volumeMatch vol ≠ "" := by
    intro n v hh hn
    have hr := (he _ (List.Perm.refl _) n.val).mpr ⟨n,v,rfl,hh,hn⟩
    exact ((isVolumeAttached_iff (List.Perm.refl _) _).mp hr).1
  constructor
  · intro n v hh
    constructor
    · rintro ⟨hm,hc⟩
      obtain ⟨order,ho,hf⟩ := found_first (mem_mergeSCSIs.mpr ⟨n,v,rfl,hh⟩) hc
      have hr := (isVolumeAttached_iff ho n.val).mpr ⟨hm,n,v,rfl,hf⟩
      obtain ⟨n',v',hl,hh',hn'⟩ := (he order ho n.val).mp hr
      have hnn : n = n' := by omega
      subst hnn
      have hv := hh.1.symm.trans hh'.1
      rw [Option.some.inj hv]
      exact hn'
    · intro hn
      exact ⟨hfound n v hh hn,names_contains hn⟩
  · intro n n' v v' hh hh' hn hn'
    have hr := (he _ (List.Perm.refl _) n.val).mpr ⟨n,v,rfl,hh,hn⟩
    have hr' := (he _ (List.Perm.refl _) n'.val).mpr ⟨n',v',rfl,hh',hn'⟩
    have hl := (Prod.mk.inj (hr.symm.trans hr')).1
    omega

end Lookup

inductive VMCall where
  | getVMConfig (id : ℤ)
  | config (id : ℤ) (name value : String)
  | unlinkDisk (id : ℤ) (device : String)

inductive VMError where
  | notFound
  | other (msg : String)
  | task (msg : String)
  deriving DecidableEq, Repr

def VMError.text : VMError → String
  | .notFound => "virtual machine not found"
  | .other msg => msg
  | .task msg => msg

abbrev VMReply : VMCall → Type
  | .getVMConfig _ => Except VMError (List (String × String))
  | _ => Except VMError Unit

abbrev V := Fallible VMCall VMReply String

def request (c : VMCall) : V (VMReply c) := perform (issue c)

def deviceAt (lun : ℤ) : String := deviceNamePrefix ++ toString lun

def valueAt (disks : List (String × String)) (key : String) : String :=
  ((disks.find? (fun d => d.1 = key)).map Prod.snd).getD ""

def hexDigits : List Char := "0123456789abcdef".toList

def hexEncode (s : String) : String :=
  String.ofList (s.toList.flatMap (fun c =>
    [hexDigits.getD (c.toNat/16) '0',hexDigits.getD (c.toNat%16) '0']))

def twoDigits (n : ℤ) : String := if 0 ≤ n ∧ n < 10 then "0" ++ toString n else toString n

def wwnOf (lun : ℤ) : String := hexEncode ("PVC-ID" ++ twoDigits lun)

abbrev Options := AList (fun _ : String => String)

def renderOptions (o : Options) : String :=
  String.intercalate "," (o.entries.map (fun e => e.1 ++ "=" ++ e.2))

def awaitAttached (id : ℤ) (vol : Volume) (again : Unit → V Unit) (_ : Unit) : V Unit := do
  match ← request (.getVMConfig id) with
  | .error e => throw ("failed to get vm config: " ++ e.text)
  | .ok disks => if (isVolumeAttached disks (volumeMatch vol)).2 then pure () else again ()

def waitAttachVolume (polls : ℕ) (id : ℤ) (vol : Volume) : V Unit :=
  rounds (awaitAttached id vol) (fun _ => throw ("volume " ++ vol.volumeID ++
    " is not attached to VM " ++ toString id)) polls ()

def freeLun (disks : List (String × String)) : Option ℕ :=
  ((List.range 29).map (fun n => n+1)).find? (fun lun => valueAt disks (device lun) = "")

def publishContext (lun : ℤ) : String × String :=
  ("/dev/disk/by-id/wwn-0x" ++ wwnOf lun,toString lun)

def plug (polls : ℕ) (id : ℤ) (vol : Volume) (options : Options) (lun : ℕ) : V Unit := do
  let value := vol.storage ++ ":" ++ vol.disk ++ "," ++
    renderOptions (options.insert "wwn" ("0x" ++ wwnOf lun))
  match ← request (.config id (device lun) value) with
  | .error (.task msg) => throw ("unable to attach virtual machine disk: " ++ msg)
  | .error e => throw ("unable to attach disk: " ++ e.text ++ ", options=\x7bName:" ++ device lun ++
      " Value:" ++ value ++ "\x7d")
  | .ok _ => waitAttachVolume polls id vol

def attachTo (polls : ℕ) (id : ℤ) (vol : Volume) (options : Options)
    (disks : List (String × String)) : V (String × String) :=
  match isVolumeAttached disks (volumeMatch vol) with
  | (lun,true) => pure (publishContext lun)
  | (_,false) => match freeLun disks with
    | none => throw "no free lun found"
    | some lun => do
      plug polls id vol options lun
      pure (publishContext lun)

def attachVolume (polls : ℕ) (id : ℤ) (vol : Volume) (options : Options) : V (String × String) := do
  match ← request (.getVMConfig id) with
  | .error e => throw ("failed to get vm config: " ++ e.text)
  | .ok disks => attachTo polls id vol options disks

def isHotUnplugTimeout (e : VMError) : Bool := contains e.text "still busy in guest"

def unlinkResult : Except VMError Unit → V Unit
  | .ok _ => pure ()
  | .error (.task msg) => throw ("unable to detach virtual machine disk: " ++ msg)
  | .error e => throw ("failed to unlink disk: " ++ e.text)

/-- A second unlink applies the removal a guest left pending. -/
def unlink (id : ℤ) (dev : String) : V Unit := do
  match ← request (.unlinkDisk id dev) with
  | .error (.other msg) =>
    if isHotUnplugTimeout (.other msg) then do
      let r ← request (.unlinkDisk id dev)
      unlinkResult r
    else unlinkResult (.error (.other msg))
  | r => unlinkResult r

def detachFrom (id : ℤ) (vol : Volume) (disks : List (String × String)) : V Unit :=
  match isVolumeAttached disks (volumeMatch vol) with
  | (lun,true) => unlink id (deviceAt lun)
  | (_,false) => pure ()

def detachVolume (id : ℤ) (vol : Volume) : V Unit := do
  match ← request (.getVMConfig id) with
  | .error .notFound => pure ()
  | .error e => throw ("failed to get vm config: " ++ e.text)
  | .ok disks => detachFrom id vol disks

def awaitDetached (id : ℤ) (vol : Volume) (again : Unit → V Unit) (_ : Unit) : V Unit := do
  match ← request (.getVMConfig id) with
  | .error .notFound => pure ()
  | .error e => throw ("failed to get vm config: " ++ e.text)
  | .ok disks => if (isVolumeAttached disks (volumeMatch vol)).2 then again () else pure ()

def waitDetachVolume (polls : ℕ) (id : ℤ) (vol : Volume) : V Unit :=
  rounds (awaitDetached id vol) (fun _ => throw ("volume " ++ vol.volumeID ++
    " still attached to VM " ++ toString id)) polls ()

def keepOption (o : Options) (param : String) : Options :=
  match split param '=' with
  | [k,v] => if (o.lookup k).getD "" = "" then o.insert k v else o
  | _ => o

def updatedValue (vol : Volume) (options : Options) (disk : String) : String :=
  if disk = "" then vol.storage ++ ":" ++ vol.disk ++ "," ++ renderOptions options
  else firstPiece disk ',' ++ "," ++ renderOptions ((split disk ',').tail.foldl keepOption options)

def updateOn (id : ℤ) (vol : Volume) (options : Options) (disks : List (String × String)) : V Unit :=
  match isVolumeAttached disks (volumeMatch vol) with
  | (_,false) => throw ("volume is not attached to VM " ++ toString id)
  | (lun,true) => do
    let value := updatedValue vol options (valueAt disks (deviceAt lun))
    match ← request (.config id (deviceAt lun) value) with
    | .error (.task msg) => throw ("unable to update virtual machine disk: " ++ msg)
    | .error e => throw ("unable to update disk: " ++ e.text ++ ", options=\x7bName:" ++
        deviceAt lun ++ " Value:" ++ value ++ "\x7d")
    | .ok _ => pure ()

def updateVolume (id : ℤ) (vol : Volume) (options : Options) : V Unit := do
  match ← request (.getVMConfig id) with
  | .error e => throw ("failed to get vm config: " ++ e.text)
  | .ok disks => updateOn id vol options disks

section Callers

variable {s : Slots} {vol : Volume} {order : List (String × String)}

def OwnSlot (s : Slots) (vol : Volume) (dev : String) : Prop :=
  ∃ (n : Fin 31) (v : String), dev = device n ∧ Holds s n v ∧ Names vol v

def FreeSlot (s : Slots) (dev : String) : Prop := ∀ v, (dev,v) ∉ mergeSCSIs s

theorem attached_ownSlot (hu : Unambiguous s vol) (ho : order.Perm (mergeSCSIs s)) {lun : ℤ}
    (h : isVolumeAttached order (volumeMatch vol) = (lun,true)) : OwnSlot s vol (deviceAt lun) := by
  obtain ⟨n,v,rfl,hh,hn⟩ := attached_names hu ho h
  exact ⟨n,v,rfl,hh,hn⟩

theorem valueAt_of_mem (ho : order.Perm (mergeSCSIs s)) {n : Fin 31} {v : String}
    (hh : Holds s n v) : valueAt order (device n) = v := by
  have hmem : (device n,v) ∈ order := ho.symm.subset (mem_mergeSCSIs.mpr ⟨n,v,rfl,hh⟩)
  unfold valueAt
  cases hf : order.find? (fun d => d.1 = device n) with
  | none => exact absurd (decide_eq_true rfl) (List.find?_eq_none.mp hf _ hmem)
  | some d =>
    obtain ⟨n',v',rfl,hh'⟩ := mem_mergeSCSIs.mp (ho.subset (List.mem_of_find?_eq_some hf))
    have hd := List.find?_some hf
    have he : n' = n := device_injective (of_decide_eq_true hd)
    subst he
    exact Option.some.inj (hh'.1.symm.trans hh.1)

theorem freeLun_free (ho : order.Perm (mergeSCSIs s)) {lun : ℕ} (h : freeLun order = some lun) :
    FreeSlot s (device lun) := by
  intro v hm
  have hv : valueAt order (device lun) = "" := by simpa using List.find?_some h
  obtain ⟨n,v',hd,hh⟩ := mem_mergeSCSIs.mp hm
  rw [(Prod.mk.inj hd).1, valueAt_of_mem ho hh] at hv
  exact hh.2 hv

def PublishedOwn (s : Slots) (vol : Volume) : Except String (String × String) → Prop
  | .ok p => ∃ lun : ℤ, p = publishContext lun ∧
      (OwnSlot s vol (deviceAt lun) ∨ FreeSlot s (deviceAt lun))
  | .error _ => True

def WritesFree (s : Slots) : VMCall → Prop
  | .getVMConfig _ => True
  | .config _ name _ => FreeSlot s name
  | .unlinkDisk _ _ => False

def UnlinksOwn (s : Slots) (vol : Volume) : VMCall → Prop
  | .getVMConfig _ => True
  | .config _ _ _ => False
  | .unlinkDisk _ dev => OwnSlot s vol dev

def RewritesOwn (s : Slots) (vol : Volume) : VMCall → Prop
  | .getVMConfig _ => True
  | .config _ name value => ∃ (n : Fin 31) (v : String), name = device n ∧ Holds s n v ∧
      Names vol v ∧ firstPiece value ',' = firstPiece v ','
  | .unlinkDisk _ _ => False

theorem attachTo_published (hu : Unambiguous s vol) (ho : order.Perm (mergeSCSIs s)) (polls : ℕ)
    (id : ℤ) (options : Options) :
    (attachTo polls id vol options order).run.Returns (PublishedOwn s vol) := by
  unfold attachTo
  split
  · rename_i lun h
    exact ⟨lun,rfl,.inl (attached_ownSlot hu ho h)⟩
  · split
    · trivial
    · rename_i lun h
      rw [run_bind]
      refine returns_bind (returns_trivial _) ?_
      intro r _
      cases r with
      | error e => trivial
      | ok _ => exact ⟨lun,rfl,.inr (freeLun_free ho h)⟩

theorem attachTo_writesFree (ho : order.Perm (mergeSCSIs s)) (polls : ℕ) (id : ℤ)
    (options : Options) :
    (attachTo polls id vol options order).run.Uses (WritesFree s) := by
  unfold attachTo
  split
  · trivial
  · split
    · trivial
    · rename_i lun h
      refine uses_try_bind (uses_try_bind ⟨freeLun_free ho h,fun _ => trivial⟩ ?_) (fun _ => trivial)
      intro r
      split
      · trivial
      · trivial
      · apply uses_rounds
        · intro _
          trivial
        · intro again hagain u
          refine uses_try_bind ⟨trivial,fun _ => trivial⟩ ?_
          intro r
          cases r with
          | error e => trivial
          | ok disks =>
            exact uses_if trivial (hagain ())

theorem unlink_uses {ok : VMCall → Prop} {id : ℤ} {dev : String} (h : ok (.unlinkDisk id dev)) :
    (unlink id dev).run.Uses ok := by
  have hres : ∀ r, (unlinkResult r).run.Uses ok := by
    intro r
    unfold unlinkResult
    split <;> trivial
  refine uses_try_bind ⟨h,fun _ => trivial⟩ ?_
  intro r
  split
  · split
    · exact uses_try_bind ⟨h,fun _ => trivial⟩ hres
    · exact hres _
  · exact hres _

theorem detachFrom_unlinksOwn (hu : Unambiguous s vol) (ho : order.Perm (mergeSCSIs s)) (id : ℤ) :
    (detachFrom id vol order).run.Uses (UnlinksOwn s vol) := by
  unfold detachFrom
  split
  · rename_i lun h
    apply unlink_uses
    exact attached_ownSlot hu ho h
  · trivial

theorem firstPiece_append {a b : String} (h : ',' ∉ a.toList) :
    firstPiece (a ++ "," ++ b) ',' = a := by
  refine firstPiece_cut (b := b) ?_ h
  rw [String.toList_append, String.toList_append]
  simp

theorem updateOn_rewritesOwn (hu : Unambiguous s vol) (ho : order.Perm (mergeSCSIs s)) (id : ℤ)
    (options : Options) : (updateOn id vol options order).run.Uses (RewritesOwn s vol) := by
  unfold updateOn
  split
  · trivial
  · rename_i lun h
    obtain ⟨n,v,rfl,hh,hn⟩ := attached_names hu ho h
    have hv : valueAt order (deviceAt n.val) = v := valueAt_of_mem ho hh
    refine uses_try_bind ⟨⟨n,v,rfl,hh,hn,?_⟩,fun _ => trivial⟩ ?_
    · rw [hv, updatedValue, if_neg hh.2, firstPiece_append (firstPiece_notMem v)]
    · intro r
      split <;> trivial

end Callers

/-- The first call of the program reads the configuration; `Q` holds of the
program once that is answered by an enumeration of the slots. -/
def AfterRead {α : Type} (s : Slots) (id : ℤ) (p : V α)
    (Q : Prog VMCall VMReply (Except String α) → Prop) : Prop :=
  ∃ next, p.run = .call (.getVMConfig id) next ∧
    ∀ order, order.Perm (mergeSCSIs s) → Q (next (.ok order))

theorem afterRead_request {α : Type} {s : Slots} {id : ℤ}
    {f : Except VMError (List (String × String)) → V α}
    {Q : Prog VMCall VMReply (Except String α) → Prop}
    (h : ∀ order, order.Perm (mergeSCSIs s) → Q (f (.ok order)).run) :
    AfterRead s id (request (.getVMConfig id) >>= f) Q := ⟨fun r => (f r).run,rfl,h⟩

/-- Whatever order the configuration is enumerated in, the callers touch no slot
of another disk. -/
structure CallersExact (s : Slots) (vol : Volume) : Prop where
  attach : ∀ polls id options, AfterRead s id (attachVolume polls id vol options)
    (fun p => p.Returns (PublishedOwn s vol) ∧ p.Uses (WritesFree s))
  detach : ∀ id, AfterRead s id (detachVolume id vol) (Uses (UnlinksOwn s vol))
  update : ∀ id options, AfterRead s id (updateVolume id vol options) (Uses (RewritesOwn s vol))

/-- The lookup is exact, and its callers with it, for exactly the configurations
in which the searched text identifies the volume. -/
theorem lookup_exact_iff (s : Slots) (vol : Volume) :
    LookupExact s vol ∧ CallersExact s vol ↔ Unambiguous s vol := by
  constructor
  · intro h
    exact unambiguous_of_lookupExact h.1
  · intro hu
    refine ⟨lookupExact_of_unambiguous hu,?_⟩
    constructor
    · intro polls id options
      apply afterRead_request
      intro order ho
      exact ⟨attachTo_published hu ho polls id options,attachTo_writesFree ho polls id options⟩
    · intro id
      apply afterRead_request
      intro order ho
      exact detachFrom_unlinksOwn hu ho id
    · intro id options
      apply afterRead_request
      intro order ho
      exact updateOn_rewritesOwn hu ho id options

def crowdedSlots : Slots := (∅ : Slots).insert 2 "data:vm-9999-pvc-10,size=1G"

def soughtVolume : Volume := newVolume "r" "n1" "data" "vm-9999-pvc-1"

theorem crowded_mergeSCSIs : mergeSCSIs crowdedSlots = [("scsi2","data:vm-9999-pvc-10,size=1G")] := by
  decide +kernel

theorem crowded_not_named : ¬Names soughtVolume "data:vm-9999-pvc-10,size=1G" := by
  rintro ⟨name,hc,hd⟩
  have hname : name = "vm-9999-pvc-10" := by
    have hcut : cut (firstPiece "data:vm-9999-pvc-10,size=1G" ',') ':' =
        some ("data","vm-9999-pvc-10") := by decide +kernel
    rw [hcut] at hc
    exact (Prod.mk.inj (Option.some.inj hc)).2.symm
  have hs := sameDisk_isSuffix hd
  rw [hname] at hs
  exact absurd hs (by decide +kernel)

/-- The slot of another volume is reported as this volume's, and detaching
unlinks it. -/
theorem lookup_confuses_volumes :
    isVolumeAttached (mergeSCSIs crowdedSlots) (volumeMatch soughtVolume) = (2,true) ∧
    ¬LookupExact crowdedSlots soughtVolume ∧ ¬CallersExact crowdedSlots soughtVolume := by
  have hfound : isVolumeAttached (mergeSCSIs crowdedSlots) (volumeMatch soughtVolume) = (2,true) := by
    decide +kernel
  have hslot : ∀ n v, Holds crowdedSlots n v → ¬Names soughtVolume v := by
    intro n v hh hn
    have hm : (device n,v) ∈ mergeSCSIs crowdedSlots := mem_mergeSCSIs.mpr ⟨n,v,rfl,hh⟩
    rw [crowded_mergeSCSIs, List.mem_singleton] at hm
    exact crowded_not_named ((Prod.mk.inj hm).2 ▸ hn)
  refine ⟨hfound,?_,?_⟩
  · intro he
    obtain ⟨n,v,_,hh,hn⟩ := (he _ (List.Perm.refl _) 2).mp hfound
    exact hslot n v hh hn
  · intro hc
    obtain ⟨next,hnext,hq⟩ := hc.detach 100
    cases hnext
    have hd : (detachFrom 100 soughtVolume (mergeSCSIs crowdedSlots)).run.Uses
        (UnlinksOwn crowdedSlots soughtVolume) := hq _ (List.Perm.refl _)
    unfold detachFrom at hd
    rw [hfound] at hd
    obtain ⟨n,v,_,hh,hn⟩ := hd.1
    exact hslot n v hh hn

end ProxmoxCSI.AttachedSlots
