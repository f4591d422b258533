import Mathlib.Data.Nat.Digits.Defs
import ProxmoxCSI.VolumeHandle

/-!
# The vmid in a disk name

A name of the form `vm-<vmid>-...`, with or without a directory in front, carries
that vmid and no other, whatever follows. The names that are made for a tenant
all have this form.
-/

set_option autoImplicit false

namespace ProxmoxCSI.DiskNames
open TextScan VolumeHandle

def Numbered (id : ℤ) : Prop := 100 ≤ id ∧ id ≤ 999999999

def ownerOf (disk : String) : String := (newVolume "" "" "" disk).vmid

section Digits

theorem head_toDigits (n : ℕ) (hn : 0 < n) : (Nat.toDigits 10 n).head? ≠ some '0' := by
  induction n using Nat.strongRecOn with
  | ind n ih =>
    rw [Nat.toDigits_eq_if (by decide)]
    split
    · rename_i hlt
      have hd : ∀ k : Fin 10, 0 < k.val → [Nat.digitChar k].head? ≠ some '0' := by decide
      exact hd ⟨n,hlt⟩ hn
    · have hne : Nat.toDigits 10 (n/10) ≠ [] := Nat.toDigits_ne_nil
      rw [List.head?_append_of_ne_nil _ hne]
      exact ih (n/10) (by omega) (by omega)

/-- What the numeral of a vmid looks like. -/
structure Run (ds : List Char) : Prop where
  digits : ∀ c ∈ ds, c.isDigit = true
  long : 3 ≤ ds.length
  short : ds.length ≤ 9
  head : ds.head? ≠ some '0'

theorem numbered_run {id : ℤ} (h : Numbered id) : Run (toString id).toList := by
  obtain ⟨n,rfl⟩ : ∃ n : ℕ, id = n := ⟨id.toNat,by have := h.1; omega⟩
  have hl : (toString (n : ℤ)).toList = Nat.toDigits 10 n := by
    show (toString n).toList = Nat.toDigits 10 n
    simp
  have hlo : 100 ≤ n := by exact_mod_cast h.1
  have hhi : n ≤ 999999999 := by exact_mod_cast h.2
  rw [hl]
  refine ⟨fun c hc => Nat.isDigit_of_mem_toDigits (by decide) (by decide) hc,?_,?_,
    head_toDigits n (by omega)⟩
  · by_contra hlen
    have h2 := (Nat.length_toDigits_le_iff (b := 10) (n := n) (k := 2) (by decide) (by decide)).mp
      (by omega)
    omega
  · exact (Nat.length_toDigits_le_iff (b := 10) (n := n) (k := 9) (by decide) (by decide)).mpr
      (by omega)

end Digits

section Owner

variable {ds rest : List Char}

theorem vmidRun_run {c : Char} (hc : c.isDigit = false) (h : Run ds) :
    vmidRun (ds ++ c :: rest) = some (ds,c :: rest) := by
  have ht : (ds ++ c :: rest).takeWhile Char.isDigit = ds := by
    rw [List.takeWhile_append_of_pos h.digits]
    simp [hc]
  have hd : (ds ++ c :: rest).dropWhile Char.isDigit = c :: rest := by
    rw [List.dropWhile_append_of_pos h.digits]
    simp [hc]
  unfold vmidRun
  simp only [ht, hd, h.long, h.short, h.head, ne_eq, not_false_eq_true, and_self, if_true]

theorem ownerHere_run (h : Run ds) : ownerHere ('v' :: 'm' :: '-' :: (ds ++ '-' :: rest)) = some
    ds := by
  simp only [ownerHere, vmidRun_run (c := '-') rfl h]

theorem ownerBehind_dir {dir : List Char} (hd : ∀ c ∈ dir, c.isDigit = true) (h : Run ds) :
    ownerBehind (dir ++ '/' :: 'v' :: 'm' :: '-' :: (ds ++ '-' :: rest)) = some ds := by
  induction dir with
  | nil => simp [ownerBehind, ownerHere_run h]
  | cons c dir ih =>
    have hc := hd c List.mem_cons_self
    have hne : ¬(c = '-' ∨ c = '/') := by
      rintro (rfl | rfl)
      · exact absurd hc (by decide)
      · exact absurd hc (by decide)
    rw [List.cons_append, ownerBehind, if_neg hne]
    exact ih (fun x hx => hd x (List.mem_cons_of_mem c hx))

theorem ownerHere_dir {dir : List Char} (hd : ∀ c ∈ dir, c.isDigit = true) (s : List Char) :
    ownerHere (dir ++ '/' :: s) = none := by
  cases dir with
  | nil => rfl
  | cons c dir =>
    have hc := hd c List.mem_cons_self
    have hv : c ≠ 'v' := by
      rintro rfl
      exact absurd hc (by decide)
    unfold ownerHere
    split
    · rename_i h
      exact absurd (List.cons.inj h).1 hv
    · rfl

theorem vmName_toList (id rest : String) :
    ("vm-" ++ id ++ "-" ++ rest).toList = 'v' :: 'm' :: '-' :: (id.toList ++ '-' :: rest.toList) := by
  simp

/-- `vm-<vmid>-...` -/
theorem ownerOf_name {id : ℤ} (h : Numbered id) (rest : String) :
    ownerOf ("vm-" ++ toString id ++ "-" ++ rest) = toString id := by
  unfold ownerOf Volume.vmid
  have hn : (newVolume "" "" "" ("vm-" ++ toString id ++ "-" ++ rest)).disk.toList = _ :=
    vmName_toList (toString id) rest
  rw [hn, ownerHere_run (numbered_run h)]
  simp

/-- `<directory>/vm-<vmid>-...` -/
theorem ownerOf_file {id : ℤ} {dir : String} (h : Numbered id)
    (hd : ∀ c ∈ dir.toList, c.isDigit = true) (rest : String) :
    ownerOf (dir ++ "/" ++ ("vm-" ++ toString id ++ "-" ++ rest)) = toString id := by
  unfold ownerOf Volume.vmid
  have hn : (newVolume "" "" "" (dir ++ "/" ++ ("vm-" ++ toString id ++ "-" ++ rest))).disk.toList =
      dir.toList ++ '/' :: 'v' :: 'm' :: '-' :: ((toString id).toList ++ '-' :: rest.toList) := by
    show (dir ++ "/" ++ ("vm-" ++ toString id ++ "-" ++ rest)).toList = _
    rw [String.toList_append, String.toList_append, vmName_toList]
    simp
  rw [hn, ownerHere_dir hd, ownerBehind_dir hd (numbered_run h)]
  simp

theorem run_of_vmidRun {s t : List Char} (h : vmidRun s = some (ds,t)) : Run ds ∧ s = ds ++ t := by
  unfold vmidRun at h
  simp only at h
  split at h
  · rename_i hr
    cases h
    exact ⟨⟨fun c hc => List.all_eq_true.mp List.all_takeWhile c hc,hr.1,hr.2.1,hr.2.2⟩,
      List.takeWhile_append_dropWhile.symm⟩
  · cases h

theorem run_of_ownerHere {s : List Char} (h : ownerHere s = some ds) : Run ds := by
  unfold ownerHere at h
  split at h
  · split at h
    · rename_i hr
      cases h
      exact (run_of_vmidRun hr).1
    · rename_i hr
      cases h
      exact (run_of_vmidRun hr).1
    · cases h
  · cases h

theorem run_of_ownerBehind {s : List Char} (h : ownerBehind s = some ds) : Run ds := by
  induction s with
  | nil => cases h
  | cons c s ih =>
    rw [ownerBehind] at h
    split at h
    · rcases Option.or_eq_some_iff.mp h with h | ⟨_,h⟩
      · exact run_of_ownerHere h
      · exact ih h
    · exact ih h

/-- A vmid that is carried is one of Proxmox. -/
theorem vmid_run (v : Volume) : v.vmid = "" ∨ Run v.vmid.toList := by
  unfold Volume.vmid
  split
  · exact .inl rfl
  · rename_i ds h
    rw [String.toList_ofList]
    rcases Option.or_eq_some_iff.mp h with h | ⟨_,h⟩
    · exact .inr (run_of_ownerHere h)
    · exact .inr (run_of_ownerBehind h)

end Owner

section Forms

variable {id : ℤ} {v d : Volume}

theorem numeral_undashed (h : Numbered id) : '-' ∉ (toString id).toList := by
  intro hm
  exact absurd ((numbered_run h).digits '-' hm) (by decide)

theorem splitN_name (h : Numbered id) (name : String) :
    splitN ("vm-" ++ toString id ++ "-" ++ name) '-' 3 = ["vm",toString id,name] := by
  have hl : ("vm-" ++ toString id ++ "-" ++ name).toList =
      ['v','m'] ++ '-' :: ((toString id).toList ++ '-' :: name.toList) := vmName_toList _ _
  rw [splitN, hl]
  simp only [splitList, cutList_append '-' ['v','m'] _ (by decide),
    cutList_append _ _ _ (numeral_undashed h), List.map_cons, List.map_nil, String.ofList_toList]

theorem newVolumeFormat_owner (h : Numbered id) (region zone storage name format : String) :
    ownerOf (newVolumeFormat region zone storage ("vm-" ++ toString id ++ "-" ++ name) format).disk =
      toString id := by
  unfold newVolumeFormat
  split
  · exact ownerOf_name h name
  · rw [splitN_name h]
    show ownerOf (toString id ++ "/" ++ ("vm-" ++ toString id ++ "-" ++ name) ++ "." ++ format) = _
    have ha : toString id ++ "/" ++ ("vm-" ++ toString id ++ "-" ++ name) ++ "." ++ format =
        toString id ++ "/" ++ ("vm-" ++ toString id ++ "-" ++ (name ++ "." ++ format)) := by
      simp only [String.append_assoc]
    rw [ha]
    exact ownerOf_file h (numbered_run h).digits _

theorem newVolumeFormat_place (region zone storage disk format : String) :
    (newVolumeFormat region zone storage disk format).region = region ∧
      (newVolumeFormat region zone storage disk format).zone = zone ∧
      (newVolumeFormat region zone storage disk format).node = zone ∧
      (newVolumeFormat region zone storage disk format).storage = storage := by
  unfold newVolumeFormat
  split
  · exact ⟨rfl,rfl,rfl,rfl⟩
  · split
    · exact ⟨rfl,rfl,rfl,rfl⟩
    · exact ⟨rfl,rfl,rfl,rfl⟩

end Forms

end ProxmoxCSI.DiskNames
