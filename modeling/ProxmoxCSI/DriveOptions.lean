import ProxmoxCSI.VolumeReconciler

/-!
# The options of a drive

The parameters a volume was created with, and the mutable ones over them, become
the options of its drive. A text that is no truth value counts as false, one that
is no number is an error, and a number that is not positive sets no throttle.
-/

set_option autoImplicit false

namespace ProxmoxCSI.DriveOptions
open TextScan OperatorRecords

section Fields

/-- An error of `strconv.ParseBool` is ignored. -/
def parseBool (s : String) : Bool := s ∈ ["1","t","T","TRUE","true","True"]

def flagOf (m : Params) (key : String) : Option Bool :=
  if valueOf m key = "" then none else some (parseBool (valueOf m key))

def numberOf (m : Params) (key : String) : Except String (Option ℤ) :=
  if valueOf m key = "" then .ok none
  else match atoi (valueOf m key) with
    | none => .error ("parameters " ++ key ++ " must be a number")
    | some n => .ok (some n)

def positive (n : Option ℤ) : Option ℤ := n.filter (fun n => 0 < n)

def textOption (v : String) : Option String := if v = "" then none else some v

def flagOption (b : Option Bool) : Option String := b.map (fun b => if b then "1" else "0")

def numberOption (n : Option ℤ) : Option String := (n.filter (fun n => n ≠ 0)).map toString

def put (tag : String) (value : Option String) (m : Params) : Params :=
  match value with
  | none => m
  | some v => m.insert tag v

theorem lookup_put (tag : String) (value : Option String) (m : Params) (k : String) :
    (put tag value m).lookup k = if k = tag then value.or (m.lookup k) else m.lookup k := by
  cases value with
  | none => simp [put]
  | some v =>
    by_cases hk : k = tag
    · subst hk
      simp [put]
    · simp [put, hk]

end Fields

section Creation

/-- The parameters that become options. -/
structure StorageParameters where
  aio : String
  backup : Option Bool
  cache : String
  discard : String
  ioThread : Bool
  iopsRead : Option ℤ
  iopsWrite : Option ℤ
  readSpeedMbps : Option ℤ
  writeSpeedMbps : Option ℤ
  ssd : Option Bool
  readOnly : Option Bool
  replicate : Bool

def discardOf (m : Params) : String :=
  if valueOf m "discard" = "" ∧ flagOf m "ssd" = some true then "on" else valueOf m "discard"

def extractParameters (m : Params) : Except String StorageParameters := do
  let iops ← numberOf m "diskIOPS"
  let speed ← numberOf m "diskMBps"
  let _ ← numberOf m "blockSize"
  let _ ← numberOf m "inodeSize"
  let _ ← numberOf m "resizeSizeBytes"
  pure ⟨valueOf m "aio",some ((flagOf m "backup").getD false),valueOf m "cache",discardOf m,
    (flagOf m "iothread").getD true,positive iops,positive iops,positive speed,positive speed,
    flagOf m "ssd",none,(flagOf m "replicate").getD false⟩

def StorageParameters.toCFG (p : StorageParameters) : Params :=
  put "replicate" (flagOption (some p.replicate)) <|
  put "ro" (flagOption p.readOnly) <|
  put "ssd" (flagOption p.ssd) <|
  put "mbps_wr" (numberOption p.writeSpeedMbps) <|
  put "mbps_rd" (numberOption p.readSpeedMbps) <|
  put "iops_wr" (numberOption p.iopsWrite) <|
  put "iops_rd" (numberOption p.iopsRead) <|
  put "iothread" (flagOption (some p.ioThread)) <|
  put "discard" (textOption p.discard) <|
  put "cache" (textOption p.cache) <|
  put "backup" (flagOption p.backup) <|
  put "aio" (textOption p.aio) ∅

end Creation

section Modification

structure ModifyVolumeParameters where
  backup : Option Bool
  discard : String
  iopsRead : Option ℤ
  iopsWrite : Option ℤ
  readSpeedMbps : Option ℤ
  writeSpeedMbps : Option ℤ

def extractModifyVolumeParameters (m : Params) : Except String ModifyVolumeParameters := do
  let iops ← numberOf m "diskIOPS"
  let speed ← numberOf m "diskMBps"
  pure ⟨flagOf m "backup",valueOf m "discard",positive iops,positive iops,positive speed,
    positive speed⟩

def ModifyVolumeParameters.toCFG (p : ModifyVolumeParameters) : Params :=
  put "mbps_wr" (numberOption p.writeSpeedMbps) <|
  put "mbps_rd" (numberOption p.readSpeedMbps) <|
  put "iops_wr" (numberOption p.iopsWrite) <|
  put "iops_rd" (numberOption p.iopsRead) <|
  put "discard" (textOption p.discard) <|
  put "backup" (flagOption p.backup) ∅

def fill (m : Params) (e : Sigma (fun _ : String => String)) : Params :=
  if valueOf m e.1 ≠ "" then m else m.insert e.1 e.2

def ModifyVolumeParameters.mergeMap (p : ModifyVolumeParameters) (orig : Params) : Params :=
  orig.entries.foldl fill p.toCFG

end Modification

def driveOptions (params mutable : Params) (readonly : Bool) : Except String Params := do
  let p ← extractParameters params
  let cfg := { p with readOnly := if readonly then some true else p.readOnly }.toCFG
  if mutable.entries = [] then pure cfg
  else do
    let vac ← extractModifyVolumeParameters mutable
    pure (vac.mergeMap cfg)

def diskOptions (vol : ProxmoxVolume) (readonly : Bool) : Except String Params :=
  driveOptions vol.spec.parameters vol.spec.mutableParameters readonly

def modifyOptions (mutable : Params) : Except String Params := do
  let p ← extractModifyVolumeParameters mutable
  pure p.toCFG

section Effective

theorem lookup_fill (es : List (Sigma (fun _ : String => String))) (hn : (es.map Sigma.fst).Nodup)
    (m : Params) (k : String) : (es.foldl fill m).lookup k =
      if valueOf m k ≠ "" then m.lookup k else (es.dlookup k).or (m.lookup k) := by
  induction es generalizing m with
  | nil => simp
  | cons e es ih =>
    rw [List.map_cons, List.nodup_cons] at hn
    rw [List.foldl_cons, ih hn.2]
    by_cases hk : k = e.1
    · subst hk
      have hnone : es.dlookup e.1 = none := List.dlookup_eq_none.mpr hn.1
      by_cases hv : valueOf m e.1 = ""
      · have hf : (fill m e).lookup e.1 = some e.2 := by simp [fill, hv]
        have hd : (e::es).dlookup e.1 = some e.2 := List.dlookup_cons_eq _ _ _
        rw [if_neg (not_not.mpr hv), hd, hf, hnone]
        simp
      · have hf : fill m e = m := by simp [fill, hv]
        simp [hf, hv]
    · have hl : (fill m e).lookup k = m.lookup k := by
        unfold fill
        split
        · rfl
        · exact AList.lookup_insert_ne hk
      have hd : (e::es).dlookup k = es.dlookup k := List.dlookup_cons_ne _ _ hk
      simp [valueOf, hl, hd]

end Effective

end ProxmoxCSI.DriveOptions
