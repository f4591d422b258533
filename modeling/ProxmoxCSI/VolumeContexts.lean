import ProxmoxCSI.DriveOptions

/-!
# The context of a volume

In direct mode the parameters a volume is created with travel with it as a map
of texts, into which the options of the class of that time are merged. They are
read back when the volume is published, and the options of the current class go
before them. The operator keeps the parameters themselves.
-/

set_option autoImplicit false

namespace ProxmoxCSI.VolumeContexts
open TextScan OperatorRecords DriveOptions

section Context

/-- The parameters that are no options of the drive. -/
structure ContextFields where
  storageID : String
  storageFormat : String
  iops : Option ℤ
  speedMbps : Option ℤ
  blockSize : Option ℤ
  inodeSize : Option ℤ
  rootDirPermissions : String
  encryptionAllowDiscards : Option Bool
  kataDirectVolume : Option Bool
  replicateSchedule : String
  replicateZones : String
  resizeRequired : Option Bool
  resizeSizeBytes : Option ℤ

def extractFields (m : Params) : Except String (StorageParameters × ContextFields) := do
  let p ← extractParameters m
  let iops ← numberOf m "diskIOPS"
  let speed ← numberOf m "diskMBps"
  let block ← numberOf m "blockSize"
  let inode ← numberOf m "inodeSize"
  let resize ← numberOf m "resizeSizeBytes"
  pure (p,⟨valueOf m "storage",valueOf m "storageFormat",iops,speed,block,inode,
    valueOf m "rootDirPermissions",flagOf m "encryptionAllowDiscards",flagOf m "kataDirectVolume",
    valueOf m "replicateSchedule",valueOf m "replicateZones",flagOf m "resizeRequired",resize⟩)

def toMap (p : StorageParameters) (f : ContextFields) : Params :=
  put "resizeSizeBytes" (numberOption f.resizeSizeBytes) <|
  put "resizeRequired" (flagOption f.resizeRequired) <|
  put "replicateZones" (textOption f.replicateZones) <|
  put "replicateSchedule" (textOption f.replicateSchedule) <|
  put "replicate" (flagOption (some p.replicate)) <|
  put "kataDirectVolume" (flagOption f.kataDirectVolume) <|
  put "encryptionAllowDiscards" (flagOption f.encryptionAllowDiscards) <|
  put "rootDirPermissions" (textOption f.rootDirPermissions) <|
  put "inodeSize" (numberOption f.inodeSize) <|
  put "blockSize" (numberOption f.blockSize) <|
  put "diskMBps" (numberOption f.speedMbps) <|
  put "diskIOPS" (numberOption f.iops) <|
  put "ssd" (flagOption p.ssd) <|
  put "iothread" (flagOption (some p.ioThread)) <|
  put "discard" (textOption p.discard) <|
  put "cache" (textOption p.cache) <|
  put "backup" (flagOption p.backup) <|
  put "aio" (textOption p.aio) <|
  put "storageFormat" (textOption f.storageFormat) <|
  put "storage" (textOption f.storageID) ∅

def volumeContext (parameters mutableParameters : Params) : Except String Params := do
  let (p,f) ← extractFields parameters
  let vac ← extractModifyVolumeParameters mutableParameters
  pure (vac.mergeMap (toMap p f))

end Context

section Publish

def withClass (cfg : Params) : Option Params → Params
  | none => cfg
  | some m => match extractModifyVolumeParameters m with
    | .error _ => cfg
    | .ok vac => vac.mergeMap cfg

def publishOptions (unsafeMount : Bool) (context : Params) (current : Option Params)
    (readonly : Bool) : Except String Params := do
  let p ← extractParameters context
  let cfg := { p with
    backup := if unsafeMount then none else p.backup
    readOnly := if readonly then some true else p.readOnly }.toCFG
  pure (withClass cfg current)

end Publish

section Reading

variable {m : Params} {key : String}

theorem flagOf_text {b : Option Bool} (h : m.lookup key = flagOption b) : flagOf m key = b := by
  unfold flagOf valueOf
  rw [h]
  cases b with
  | none => rfl
  | some b => cases b <;> decide

theorem valueOf_text {v : String} (h : m.lookup key = textOption v) : valueOf m key = v := by
  unfold valueOf
  rw [h, textOption]
  split
  · rename_i hv
    rw [hv]
    rfl
  · rfl

theorem filter_nonzero {x : ℤ} (hx : x ≠ 0) : (some x).filter (fun x => x ≠ 0) = some x :=
  if_pos (decide_eq_true hx)

/-- A number is read back, except that a zero counts as none. -/
theorem numberOf_text {n : Option ℤ} (hr : ∀ x, n = some x → -2^63 ≤ x ∧ x < 2^63)
    (h : m.lookup key = numberOption n) : numberOf m key = .ok (n.filter (fun x => x ≠ 0)) := by
  unfold numberOf valueOf
  rw [h]
  cases n with
  | none => rfl
  | some x =>
    by_cases hx : x = 0
    · subst hx
      rfl
    · obtain ⟨h₁,h₂⟩ := hr x rfl
      have hn : numberOption (some x) = some (toString x) := by simp [numberOption, hx]
      rw [hn, Option.getD_some, if_neg (numeral_ne x), atoi_numeral h₁ h₂, filter_nonzero hx]

theorem numberOf_range {n : Option ℤ} (h : numberOf m key = .ok n) :
    ∀ x, n = some x → -2^63 ≤ x ∧ x < 2^63 := by
  rintro x rfl
  unfold numberOf at h
  split at h
  · cases h
  · split at h
    · cases h
    · rename_i k hk
      cases h
      exact atoi_range hk

theorem positive_filter (n : Option ℤ) : positive (n.filter (fun x => x ≠ 0)) = positive n := by
  cases n with
  | none => rfl
  | some x =>
    by_cases hx : x = 0
    · subst hx
      rfl
    · rw [filter_nonzero hx]

end Reading

section Roundtrip

def parametersOf (m : Params) (iops speed : Option ℤ) : StorageParameters :=
  ⟨valueOf m "aio",some ((flagOf m "backup").getD false),valueOf m "cache",discardOf m,
    (flagOf m "iothread").getD true,positive iops,positive iops,positive speed,positive speed,
    flagOf m "ssd",none,(flagOf m "replicate").getD false⟩

theorem extractParameters_ok {m : Params} {p : StorageParameters} :
    extractParameters m = .ok p ↔ ∃ iops speed block inode resize,
      numberOf m "diskIOPS" = .ok iops ∧ numberOf m "diskMBps" = .ok speed ∧
      numberOf m "blockSize" = .ok block ∧ numberOf m "inodeSize" = .ok inode ∧
      numberOf m "resizeSizeBytes" = .ok resize ∧ p = parametersOf m iops speed := by
  unfold extractParameters
  cases numberOf m "diskIOPS" with
  | error e => simp [bind, Except.bind]
  | ok iops =>
    cases numberOf m "diskMBps" with
    | error e => simp [bind, Except.bind]
    | ok speed =>
      cases numberOf m "blockSize" with
      | error e => simp [bind, Except.bind]
      | ok block =>
        cases numberOf m "inodeSize" with
        | error e => simp [bind, Except.bind]
        | ok inode =>
          cases numberOf m "resizeSizeBytes" with
          | error e => simp [bind, Except.bind]
          | ok resize =>
            simp [bind, Except.bind, pure, Except.pure, parametersOf, eq_comm]

variable {P : Params} {p : StorageParameters} {f : ContextFields} {vac : ModifyVolumeParameters}

theorem extractFields_ok (h : extractFields P = .ok (p,f)) :
    p = parametersOf P f.iops f.speedMbps ∧ numberOf P "diskIOPS" = .ok f.iops ∧
      numberOf P "diskMBps" = .ok f.speedMbps ∧ numberOf P "blockSize" = .ok f.blockSize ∧
      numberOf P "inodeSize" = .ok f.inodeSize ∧
      numberOf P "resizeSizeBytes" = .ok f.resizeSizeBytes := by
  unfold extractFields at h
  cases hp : extractParameters P with
  | error e => simp [hp, bind, Except.bind] at h
  | ok p' =>
    obtain ⟨iops,speed,block,inode,resize,hi,hs,hb,hn,hr,he⟩ := extractParameters_ok.mp hp
    simp only [hp, hi, hs, hb, hn, hr, bind, Except.bind, pure, Except.pure, Except.ok.injEq,
      Prod.mk.injEq] at h
    obtain ⟨rfl,rfl⟩ := h
    exact ⟨he,hi,hs,hb,hn,hr⟩

theorem mergeMap_lookup (vac : ModifyVolumeParameters) (orig : Params) (k : String) :
    (vac.mergeMap orig).lookup k = if valueOf vac.toCFG k ≠ "" then vac.toCFG.lookup k
      else (orig.lookup k).or (vac.toCFG.lookup k) :=
  lookup_fill orig.entries orig.nodupKeys vac.toCFG k

def classTags : List String := ["backup","discard","iops_rd","iops_wr","mbps_rd","mbps_wr"]

theorem toCFG_other (vac : ModifyVolumeParameters) {k : String} (hk : k ∉ classTags) :
    vac.toCFG.lookup k = none := by
  simp only [classTags, List.mem_cons, List.not_mem_nil, or_false, not_or] at hk
  obtain ⟨h₁,h₂,h₃,h₄,h₅,h₆⟩ := hk
  simp [ModifyVolumeParameters.toCFG, lookup_put, h₁, h₂, h₃, h₄, h₅, h₆]

theorem mergeMap_other (vac : ModifyVolumeParameters) (orig : Params) {k : String}
    (hk : k ∉ classTags) : (vac.mergeMap orig).lookup k = orig.lookup k := by
  have hn := toCFG_other vac hk
  rw [mergeMap_lookup, valueOf, hn]
  simp

/-- What the map holds under the keys that are read back. -/
theorem toMap_lookup (p : StorageParameters) (f : ContextFields) :
    (toMap p f).lookup "aio" = textOption p.aio ∧ (toMap p f).lookup "cache" = textOption p.cache ∧
    (toMap p f).lookup "backup" = flagOption p.backup ∧
    (toMap p f).lookup "discard" = textOption p.discard ∧
    (toMap p f).lookup "iothread" = flagOption (some p.ioThread) ∧
    (toMap p f).lookup "ssd" = flagOption p.ssd ∧
    (toMap p f).lookup "replicate" = flagOption (some p.replicate) ∧
    (toMap p f).lookup "diskIOPS" = numberOption f.iops ∧
    (toMap p f).lookup "diskMBps" = numberOption f.speedMbps ∧
    (toMap p f).lookup "blockSize" = numberOption f.blockSize ∧
    (toMap p f).lookup "inodeSize" = numberOption f.inodeSize ∧
    (toMap p f).lookup "resizeSizeBytes" = numberOption f.resizeSizeBytes := by
  refine ⟨?_,?_,?_,?_,?_,?_,?_,?_,?_,?_,?_,?_⟩ <;> simp [toMap, lookup_put]

def frozen (p : StorageParameters) (vac : ModifyVolumeParameters) : StorageParameters :=
  { p with
    backup := some (vac.backup.getD (p.backup.getD false))
    discard := if vac.discard = "" then p.discard else vac.discard }

theorem flagOption_ne {b : Option Bool} {v : String} (h : flagOption b = some v) : v ≠ "" := by
  cases b with
  | none => cases h
  | some b => cases b <;> (cases h; decide)

theorem merged_backup (hb : p.backup = some (p.backup.getD false)) :
    flagOf (vac.mergeMap (toMap p f)) "backup" = some (vac.backup.getD (p.backup.getD false)) := by
  have hvac : vac.toCFG.lookup "backup" = flagOption vac.backup := by
    simp [ModifyVolumeParameters.toCFG, lookup_put]
  refine flagOf_text ?_
  rw [mergeMap_lookup, valueOf, hvac, (toMap_lookup p f).2.2.1]
  cases hv : vac.backup with
  | none =>
    rw [hb]
    rfl
  | some b => cases b <;> rfl

theorem merged_discard :
    valueOf (vac.mergeMap (toMap p f)) "discard" =
      if vac.discard = "" then p.discard else vac.discard := by
  have hvac : vac.toCFG.lookup "discard" = textOption vac.discard := by
    simp [ModifyVolumeParameters.toCFG, lookup_put]
  refine valueOf_text ?_
  rw [mergeMap_lookup, valueOf, hvac, (toMap_lookup p f).2.2.2.1]
  by_cases hd : vac.discard = ""
  · simp [hd, textOption]
  · simp [hd, textOption]

theorem discardOf_ssd {m : Params} (h : flagOf m "ssd" = some true) : discardOf m ≠ "" := by
  unfold discardOf
  split
  · decide
  · rename_i hn
    exact fun he => hn ⟨he,h⟩

/-- The options of the drive are read back from every map that agrees with the context away from
the options of a class. -/
theorem parameters_read {m : Params} {b : Bool} {d : String} (h : extractFields P = .ok (p,f))
    (hm : ∀ k, k ∉ classTags → m.lookup k = (toMap p f).lookup k) (hb : flagOf m "backup" = some b)
    (hd : valueOf m "discard" = d) (he : d = "" → p.discard = "") :
    extractParameters m = .ok { p with backup := some b, discard := d } := by
  obtain ⟨hp,hi,hs,hblock,hn,hr⟩ := extractFields_ok h
  obtain ⟨laio,lcache,_,_,lio,lssd,lrep,liops,lspeed,lblock,linode,lresize⟩ := toMap_lookup p f
  have hother : ∀ {k : String} {o : Option String}, k ∉ classTags → (toMap p f).lookup k = o →
      m.lookup k = o :=
    fun {k} {_} hk hl => (hm k hk).trans hl
  have hread : ∀ {k : String} {n : Option ℤ}, k ∉ classTags → numberOf P k = .ok n →
      (toMap p f).lookup k = numberOption n →
      numberOf m k = .ok (n.filter (fun x => x ≠ 0)) :=
    fun hk hP hl => numberOf_text (numberOf_range hP) (hother hk hl)
  refine extractParameters_ok.mpr ⟨_,_,_,_,_,hread (by decide) hi liops,hread (by decide) hs lspeed,
    hread (by decide) hblock lblock,hread (by decide) hn linode,hread (by decide) hr lresize,?_⟩
  have hssd : flagOf m "ssd" = p.ssd := flagOf_text (hother (by decide) lssd)
  have hdiscard : discardOf m = d := by
    rw [discardOf, hd, hssd]
    refine if_neg ?_
    rintro ⟨hempty,hon⟩
    refine absurd (he hempty) ?_
    rw [hp] at hon ⊢
    exact discardOf_ssd hon
  rw [parametersOf, hdiscard, hssd, hb, positive_filter, positive_filter,
    valueOf_text (hother (by decide) laio), valueOf_text (hother (by decide) lcache),
    flagOf_text (hother (by decide) lio), flagOf_text (hother (by decide) lrep)]
  rw [hp]
  rfl

theorem extracted_backup (h : extractFields P = .ok (p,f)) :
    p.backup = some (p.backup.getD false) := by
  rw [(extractFields_ok h).1]
  rfl

/-- Reading the context back gives the parameters with the frozen options. -/
theorem context_extracts (h : extractFields P = .ok (p,f)) :
    extractParameters (vac.mergeMap (toMap p f)) = .ok (frozen p vac) := by
  refine parameters_read h (fun k hk => mergeMap_other vac _ hk) (merged_backup (extracted_backup h))
    merged_discard ?_
  intro he
  split at he
  · exact he
  · rename_i hne
    exact absurd he hne

/-- The other keys of the context. -/
theorem toMap_lookup_rest (p : StorageParameters) (f : ContextFields) :
    (toMap p f).lookup "storage" = textOption f.storageID ∧
    (toMap p f).lookup "storageFormat" = textOption f.storageFormat ∧
    (toMap p f).lookup "rootDirPermissions" = textOption f.rootDirPermissions ∧
    (toMap p f).lookup "encryptionAllowDiscards" = flagOption f.encryptionAllowDiscards ∧
    (toMap p f).lookup "kataDirectVolume" = flagOption f.kataDirectVolume ∧
    (toMap p f).lookup "replicateSchedule" = textOption f.replicateSchedule ∧
    (toMap p f).lookup "replicateZones" = textOption f.replicateZones ∧
    (toMap p f).lookup "resizeRequired" = flagOption f.resizeRequired := by
  refine ⟨?_,?_,?_,?_,?_,?_,?_,?_⟩ <;> simp [toMap, lookup_put]

/-- A zero is not written, so it is read back as no number. -/
def written (f : ContextFields) : ContextFields :=
  { f with
    iops := f.iops.filter (fun x => x ≠ 0)
    speedMbps := f.speedMbps.filter (fun x => x ≠ 0)
    blockSize := f.blockSize.filter (fun x => x ≠ 0)
    inodeSize := f.inodeSize.filter (fun x => x ≠ 0)
    resizeSizeBytes := f.resizeSizeBytes.filter (fun x => x ≠ 0) }

theorem numberOption_filter (n : Option ℤ) :
    numberOption (n.filter (fun x => x ≠ 0)) = numberOption n := by
  cases n with
  | none => rfl
  | some x =>
    by_cases hx : x = 0
    · subst hx
      rfl
    · rw [filter_nonzero hx]

theorem toMap_written (p : StorageParameters) (f : ContextFields) :
    toMap p (written f) = toMap p f := by
  simp only [toMap, written, numberOption_filter]

theorem toMap_extracts (h : extractFields P = .ok (p,f)) :
    extractFields (toMap p f) = .ok (p,written f) := by
  have hb := extracted_backup h
  obtain ⟨_,hi,hs,hblock,hn,hr⟩ := extractFields_ok h
  obtain ⟨_,_,lbackup,ldiscard,_,_,_,liops,lspeed,lblock,linode,lresize⟩ := toMap_lookup p f
  obtain ⟨lstorage,lformat,lroot,lallow,lkata,lschedule,lzones,lrequired⟩ := toMap_lookup_rest p f
  have hread : ∀ {k : String} {n : Option ℤ}, numberOf P k = .ok n →
      (toMap p f).lookup k = numberOption n →
      numberOf (toMap p f) k = .ok (n.filter (fun x => x ≠ 0)) :=
    fun hP hl => numberOf_text (numberOf_range hP) hl
  have hp : extractParameters (toMap p f) = .ok p := by
    have hr := parameters_read h (fun _ _ => rfl) ((flagOf_text lbackup).trans hb)
      (valueOf_text ldiscard) id
    rwa [← hb] at hr
  unfold extractFields
  rw [hp, hread hi liops, hread hs lspeed, hread hblock lblock, hread hn linode, hread hr lresize]
  simp only [bind, Except.bind, pure, Except.pure]
  rw [valueOf_text lstorage, valueOf_text lformat, valueOf_text lroot, flagOf_text lallow,
    flagOf_text lkata, valueOf_text lschedule, valueOf_text lzones, flagOf_text lrequired]
  rfl

/-- Storing and reading the parameters once more changes neither the context nor the options of the
drive. -/
theorem parameters_reproduced (m : Params) (p : StorageParameters) (f : ContextFields)
    (h : extractFields m = .ok (p,f)) :
    ∃ p' f', extractFields (toMap p f) = .ok (p',f') ∧ toMap p' f' = toMap p f ∧
      p'.toCFG = p.toCFG :=
  ⟨p,written f,toMap_extracts h,toMap_written p f,rfl⟩

/-- Emulated solid state, a limit of zero and a switch written as a word. -/
theorem parameters_reproduced_ssd :
    ∃ p' f', extractFields (toMap
        ⟨"",some true,"","on",true,none,none,none,none,some true,none,false⟩
        ⟨"data","",some 0,none,none,none,"",none,none,"","",none,none⟩) = .ok (p',f') ∧
      p'.toCFG = StorageParameters.toCFG
        ⟨"",some true,"","on",true,none,none,none,none,some true,none,false⟩ := by
  obtain ⟨p',f',h,_,hc⟩ := parameters_reproduced
    (put "backup" (some "true") (put "diskIOPS" (some "0") (put "ssd" (some "1")
      (put "storage" (some "data") ∅)))) _ _ rfl
  exact ⟨p',f',h,hc⟩

end Roundtrip

section Agreement

variable {P V₀ : Params} {p : StorageParameters} {vac : ModifyVolumeParameters}

def created (p : StorageParameters) (readonly : Bool) : Params :=
  { p with readOnly := if readonly then some true else p.readOnly }.toCFG

theorem created_backup (p : StorageParameters) (readonly : Bool) :
    (created p readonly).lookup "backup" = flagOption p.backup := by
  simp [created, StorageParameters.toCFG, lookup_put]

theorem created_discard (p : StorageParameters) (readonly : Bool) :
    (created p readonly).lookup "discard" = textOption p.discard := by
  simp [created, StorageParameters.toCFG, lookup_put]

theorem created_frozen (p : StorageParameters) (vac : ModifyVolumeParameters) (readonly : Bool)
    {k : String} (hb : k ≠ "backup") (hd : k ≠ "discard") :
    (created (frozen p vac) readonly).lookup k = (created p readonly).lookup k := by
  simp [created, frozen, StorageParameters.toCFG, lookup_put, hb, hd]

def classFirst (vac : ModifyVolumeParameters) (cfg : Params) (k : String) : Option String :=
  if valueOf vac.toCFG k ≠ "" then vac.toCFG.lookup k
  else (cfg.lookup k).or (vac.toCFG.lookup k)

theorem extractModify_empty {vac : ModifyVolumeParameters}
    (h : extractModifyVolumeParameters ∅ = .ok vac) (k : String) : vac.toCFG.lookup k = none := by
  have he : extractModifyVolumeParameters ∅ = .ok ⟨none,"",none,none,none,none⟩ := rfl
  rw [he] at h
  cases h
  simp [ModifyVolumeParameters.toCFG, flagOption, textOption, numberOption, put]

theorem over_empty {cfg : Params} (h : extractModifyVolumeParameters ∅ = .ok vac) (k : String) :
    classFirst vac cfg k = cfg.lookup k := by
  have hn := extractModify_empty h k
  rw [classFirst, valueOf, hn]
  simp

theorem driveOptions_lookup {mutable : Params} (readonly : Bool)
    (hp : extractParameters P = .ok p) (hm : extractModifyVolumeParameters mutable = .ok vac) :
    ∃ a, driveOptions P mutable readonly = .ok a ∧
      ∀ k, a.lookup k = classFirst vac (created p readonly) k := by
  by_cases he : mutable.entries = []
  · have hempty : mutable = ∅ := AList.ext he
    subst hempty
    refine ⟨created p readonly,?_,fun k => (over_empty hm k).symm⟩
    simp only [driveOptions, hp, bind, Except.bind, pure, Except.pure]
    rfl
  · refine ⟨vac.mergeMap (created p readonly),?_,fun k => mergeMap_lookup vac _ k⟩
    simp only [driveOptions, hp, hm, he, bind, Except.bind, pure, Except.pure, if_false]
    rfl

theorem publishOptions_lookup {context : Params} {current : Option Params} (readonly : Bool)
    (hp : extractParameters context = .ok p)
    (hm : extractModifyVolumeParameters (current.getD ∅) = .ok vac) :
    ∃ b, publishOptions false context current readonly = .ok b ∧
      ∀ k, b.lookup k = classFirst vac (created p readonly) k := by
  have hrun : publishOptions false context current readonly =
      .ok (withClass (created p readonly) current) := by
    simp only [publishOptions, hp, bind, Except.bind, pure, Except.pure]
    rfl
  refine ⟨_,hrun,?_⟩
  intro k
  cases current with
  | none => exact (over_empty hm k).symm
  | some m =>
    have hw : withClass (created p readonly) (some m) = vac.mergeMap (created p readonly) := by
      have hm' : extractModifyVolumeParameters m = .ok vac := hm
      simp only [withClass, hm']
    rw [hw]
    exact mergeMap_lookup vac _ k

/-- What the class of the creation set and the current one leaves open is what the parameters say. -/
structure Inherits (P V₀ V : Params) : Prop where
  backup : flagOf V "backup" = none → ∀ b, flagOf V₀ "backup" = some b →
    b = (flagOf P "backup").getD false
  discard : valueOf V "discard" = "" → valueOf V₀ "discard" ≠ "" → valueOf V₀ "discard" = discardOf P

theorem extractModify_fields {m : Params} (h : extractModifyVolumeParameters m = .ok vac) :
    vac.backup = flagOf m "backup" ∧ vac.discard = valueOf m "discard" := by
  unfold extractModifyVolumeParameters at h
  cases hi : numberOf m "diskIOPS" with
  | error e => simp [hi, bind, Except.bind] at h
  | ok iops =>
    cases hs : numberOf m "diskMBps" with
    | error e => simp [hi, hs, bind, Except.bind] at h
    | ok speed =>
      simp only [hi, hs, bind, Except.bind, pure, Except.pure, Except.ok.injEq] at h
      subst h
      exact ⟨rfl,rfl⟩

theorem flagOption_inj {a b : Bool} (h : flagOption (some a) = flagOption (some b)) : a = b := by
  revert h
  cases a <;> cases b <;> decide

theorem textOption_inj {a b : String} (h : textOption a = textOption b) : a = b := by
  unfold textOption at h
  split at h
  · rename_i ha
    split at h
    · rename_i hb
      rw [ha, hb]
    · cases h
  · split at h
    · cases h
    · exact Option.some.inj h

theorem over_backup {V cfg : Params} (hm : extractModifyVolumeParameters V = .ok vac) :
    classFirst vac cfg "backup" = if flagOf V "backup" = none then cfg.lookup "backup"
      else flagOption (flagOf V "backup") := by
  have hvac : vac.toCFG.lookup "backup" = flagOption (flagOf V "backup") := by
    rw [← (extractModify_fields hm).1]
    simp [ModifyVolumeParameters.toCFG, lookup_put]
  rw [classFirst, valueOf, hvac]
  cases flagOf V "backup" with
  | none => simp [flagOption]
  | some b => cases b <;> rfl

theorem over_discard {V cfg : Params} (hm : extractModifyVolumeParameters V = .ok vac) :
    classFirst vac cfg "discard" = if valueOf V "discard" = "" then cfg.lookup "discard"
      else some (valueOf V "discard") := by
  have hvac : vac.toCFG.lookup "discard" = textOption (valueOf V "discard") := by
    rw [← (extractModify_fields hm).2]
    simp [ModifyVolumeParameters.toCFG, lookup_put]
  rw [classFirst, valueOf, hvac, textOption]
  by_cases hv : valueOf V "discard" = ""
  · simp [hv]
  · simp [hv]

/-- The two maps agree exactly when the frozen options are what the parameters say, where the
current class leaves them open. -/
theorem classFirst_frozen_iff {V : Params} {vac₀ : ModifyVolumeParameters} {f : ContextFields}
    (hP : extractFields P = .ok (p,f)) (h₀ : extractModifyVolumeParameters V₀ = .ok vac₀)
    (hm : extractModifyVolumeParameters V = .ok vac) (readonly : Bool) :
    (∀ k, classFirst vac (created p readonly) k =
        classFirst vac (created (frozen p vac₀) readonly) k) ↔
      Inherits P V₀ V := by
  obtain ⟨hp,_⟩ := extractFields_ok hP
  obtain ⟨hb₀,hd₀⟩ := extractModify_fields h₀
  have hbackup : p.backup = some ((flagOf P "backup").getD false) := by
    rw [hp]
    rfl
  have hdiscard : p.discard = discardOf P := by
    rw [hp]
    rfl
  constructor
  · intro h
    constructor
    · intro hV b hb
      have hk := h "backup"
      rw [over_backup hm, over_backup hm, if_pos hV, if_pos hV, created_backup, created_backup] at hk
      rw [frozen, hbackup, hb₀, hb] at hk
      exact (flagOption_inj hk).symm
    · intro hV hne
      have hk := h "discard"
      rw [over_discard hm, over_discard hm, if_pos hV, if_pos hV, created_discard,
        created_discard] at hk
      rw [frozen, hdiscard, hd₀, if_neg hne] at hk
      exact (textOption_inj hk).symm
  · intro h k
    by_cases hkb : k = "backup"
    · subst hkb
      rw [over_backup hm, over_backup hm]
      split
      · rename_i hV
        rw [created_backup, created_backup, frozen, hbackup, hb₀]
        cases hf : flagOf V₀ "backup" with
        | none => rfl
        | some b =>
          rw [h.backup hV b hf]
          rfl
      · rfl
    · by_cases hkd : k = "discard"
      · subst hkd
        rw [over_discard hm, over_discard hm]
        split
        · rename_i hV
          rw [created_discard, created_discard, frozen, hdiscard, hd₀]
          by_cases hne : valueOf V₀ "discard" = ""
          · rw [if_pos hne]
          · rw [if_neg hne, h.discard hV hne]
        · rfl
      · rw [classFirst, classFirst, created_frozen p vac₀ readonly hkb hkd]

theorem volumeContext_ok {context : Params} (h : volumeContext P V₀ = .ok context) :
    ∃ p f vac, extractFields P = .ok (p,f) ∧ extractModifyVolumeParameters V₀ = .ok vac ∧
      context = vac.mergeMap (toMap p f) := by
  unfold volumeContext at h
  cases hP : extractFields P with
  | error e => simp [hP, bind, Except.bind] at h
  | ok x =>
    cases h₀ : extractModifyVolumeParameters V₀ with
    | error e => simp [hP, h₀, bind, Except.bind] at h
    | ok vac =>
      simp only [hP, h₀, bind, Except.bind, pure, Except.pure, Except.ok.injEq] at h
      exact ⟨x.1,x.2,vac,rfl,rfl,h.symm⟩

theorem extractFields_parameters {f : ContextFields} (h : extractFields P = .ok (p,f)) :
    extractParameters P = .ok p := by
  obtain ⟨hp,hi,hs,hb,hn,hr⟩ := extractFields_ok h
  exact extractParameters_ok.mpr ⟨_,_,_,_,_,hi,hs,hb,hn,hr,hp⟩

theorem driveOptions_parameters {mutable a : Params} {readonly : Bool}
    (h : driveOptions P mutable readonly = .ok a) : ∃ p, extractParameters P = .ok p := by
  cases hp : extractParameters P with
  | error e => simp [driveOptions, hp, bind, Except.bind] at h
  | ok p => exact ⟨p,rfl⟩

theorem driveOptions_class {mutable a : Params} {readonly : Bool}
    (h : driveOptions P mutable readonly = .ok a) :
    ∃ vac, extractModifyVolumeParameters mutable = .ok vac := by
  unfold driveOptions at h
  cases hp : extractParameters P with
  | error e => simp [hp, bind, Except.bind] at h
  | ok p =>
    simp only [hp, bind, Except.bind] at h
    split at h
    · rename_i he
      rw [show mutable = ∅ from AList.ext he]
      exact ⟨_,rfl⟩
    · cases hm : extractModifyVolumeParameters mutable with
      | error e => simp [hm] at h
      | ok vac => exact ⟨vac,rfl⟩

end Agreement

/-- The operator and the direct mode plug a disk with the same options exactly when the current
class is readable and what the class of the creation has frozen is what the parameters say. -/
theorem attach_options_agree_iff (vol : ProxmoxVolume) (V₀ : Params) (current : Option Params)
    (readonly : Bool) {context : Params}
    (hcontext : volumeContext vol.spec.parameters V₀ = .ok context)
    (hcurrent : vol.spec.mutableParameters = current.getD ∅) :
    (∃ a b, diskOptions vol readonly = .ok a ∧ publishOptions false context current readonly = .ok b ∧
      ∀ k, a.lookup k = b.lookup k) ↔
    (∃ vac, extractModifyVolumeParameters (current.getD ∅) = .ok vac) ∧
      Inherits vol.spec.parameters V₀ (current.getD ∅) := by
  obtain ⟨p,f,vac₀,hP,h₀,rfl⟩ := volumeContext_ok hcontext
  have hp : extractParameters vol.spec.parameters = .ok p := extractFields_parameters hP
  have hback : extractParameters (vac₀.mergeMap (toMap p f)) = .ok (frozen p vac₀) :=
    context_extracts hP
  constructor
  · rintro ⟨a,b,ha,hb,hab⟩
    rw [diskOptions, hcurrent] at ha
    obtain ⟨vac,hm⟩ := driveOptions_class ha
    obtain ⟨a',ha',hla⟩ := driveOptions_lookup readonly hp hm
    obtain ⟨b',hb',hlb⟩ := publishOptions_lookup readonly hback hm
    rw [ha] at ha'
    cases ha'
    rw [hb] at hb'
    cases hb'
    refine ⟨⟨vac,hm⟩,(classFirst_frozen_iff hP h₀ hm readonly).mp ?_⟩
    intro k
    rw [← hla k, hab k, hlb k]
  · rintro ⟨⟨vac,hm⟩,hin⟩
    obtain ⟨a,ha,hla⟩ := driveOptions_lookup readonly hp hm
    obtain ⟨b,hb,hlb⟩ := publishOptions_lookup readonly hback hm
    refine ⟨a,b,?_,hb,?_⟩
    · rw [diskOptions, hcurrent]
      exact ha
    · intro k
      rw [hla k, hlb k]
      exact (classFirst_frozen_iff hP h₀ hm readonly).mpr hin k

section Samples

def classOf (parameters mutable : Params) : ProxmoxVolume :=
  ⟨"t","a",0,0,0,∅,∅,[],false,⟨"r","z","data",1,parameters,none,mutable,"",false,""⟩,
    Ledger.emptyStatus⟩

def storageOnly : Params := (∅ : Params).insert "storage" "data"

def backedUp : Params := (∅ : Params).insert "backup" "true"

def optionAt (o : Except String Params) (k : String) : Option String :=
  match o with
  | .ok m => m.lookup k
  | .error _ => none

def contextOf (parameters mutable : Params) : Params :=
  match volumeContext parameters mutable with
  | .ok m => m
  | .error _ => ∅

/-- The class of the creation is gone, and its option stays in direct mode only. -/
theorem frozen_class_differs :
    volumeContext storageOnly backedUp = .ok (contextOf storageOnly backedUp) ∧
    optionAt (diskOptions (classOf storageOnly ∅) false) "backup" = some "0" ∧
    optionAt (publishOptions false (contextOf storageOnly backedUp) none false) "backup" = some "1" :=
  ⟨rfl,by decide +kernel,by decide +kernel⟩

/-- The class of the creation is still the one of the claim. -/
theorem attach_options_agree_iff_kept :
    ∃ a b, diskOptions (classOf storageOnly backedUp) true = .ok a ∧
      publishOptions false (contextOf storageOnly backedUp) (some backedUp) true = .ok b ∧
      ∀ k, a.lookup k = b.lookup k := by
  have hclass : flagOf backedUp "backup" = some true ∧ valueOf backedUp "discard" = "" := by
    decide +kernel
  refine (attach_options_agree_iff (classOf storageOnly backedUp) backedUp (some backedUp) true rfl
    rfl).mpr ⟨⟨_,rfl⟩,?_,?_⟩
  · intro hn
    rw [Option.getD_some, hclass.1] at hn
    cases hn
  · intro _ hne
    exact absurd hclass.2 hne

end Samples

end ProxmoxCSI.VolumeContexts
