import ProxmoxCSI.DriveOverlay
import ProxmoxCSI.VolumeContexts
import ProxmoxCSI.SlotAllocation

/-!
# Modifying a plugged drive

A class that is applied to a plugged drive is laid over the options the drive
has, and those include the options of the class before it. A drive that is
plugged anew only has the options of the parameters and of the new class.
-/

set_option autoImplicit false

namespace ProxmoxCSI.LiveModification
open CallProgram CallProgram.Prog CallErrors TextScan SeparatedTexts VolumeHandle AttachedSlots
open OperatorRecords DriveOptions DriveOverlay VolumeContexts
open SlotAllocation (plugged)

section Drives

def Drive (vol : Volume) (o : Options) (value : String) : Prop :=
  firstPiece value ',' = vol.storage ++ ":" ++ vol.disk ∧
    ∃ e : Options, Clean e ∧ (∀ p, p ∈ optionTexts value ↔ ∃ k x, e.lookup k = some x ∧
      p = optionText k x) ∧ ∀ k, k ≠ "size" → k ≠ "wwn" → e.lookup k = o.lookup k

def optionTags : List String :=
  ["aio","backup","cache","discard","iothread","iops_rd","iops_wr","mbps_rd","mbps_wr","ssd","ro",
    "replicate"]

def Tagged (o : Params) : Prop := ∀ k v, o.lookup k = some v → k ∈ optionTags ∧ ',' ∉ v.toList

theorem tagged_clean {o : Options} (h : Tagged o) : Clean o := by
  have htags : ∀ k ∈ optionTags, ',' ∉ k.toList ∧ '=' ∉ k.toList := by decide
  constructor
  · intro k hk
    obtain ⟨v,hv⟩ := Option.isSome_iff_exists.mp (AList.lookup_isSome.mpr hk)
    exact htags k (h k v hv).1
  · exact fun k x hx => (h k x hx).2

theorem clean_insert {o : Options} {k x : String} (h : Clean o) (hk : ',' ∉ k.toList ∧ '=' ∉ k.toList)
    (hx : ',' ∉ x.toList) : Clean (o.insert k x) := by
  constructor
  · intro k' hk'
    rcases (AList.mem_insert _).mp hk' with rfl | hk'
    · exact hk
    · exact h.keys k' hk'
  · intro k' y hy
    by_cases he : k' = k
    · subst he
      rw [AList.lookup_insert] at hy
      cases hy
      exact hx
    · rw [AList.lookup_insert_ne he] at hy
      exact h.values k' y hy

theorem wwn_plain (lun : Fin 31) : ',' ∉ ("0x" ++ wwnOf lun.val).toList := by
  rw [String.toList_append, List.mem_append, not_or]
  refine ⟨by decide,fun hm => ?_⟩
  rcases SlotAllocation.wwnOf_chars lun _ hm with h | h
  · exact absurd h (by decide)
  · exact absurd h (by decide)

theorem insert_ne {o : Options} {k x : String} : (o.insert k x).entries ≠ [] := by
  simp [AList.insert, List.kinsert]

theorem plugged_drive {vol : Volume} {o : Options} (hvol : ',' ∉
    (vol.storage ++ ":" ++ vol.disk).toList)
    (ho : Tagged o) (lun : Fin 31) : Drive vol o (plugged vol o lun.val) := by
  have hclean : Clean (o.insert "wwn" ("0x" ++ wwnOf lun.val)) :=
    clean_insert (tagged_clean ho) (by decide) (wwn_plain lun)
  refine ⟨firstPiece_append hvol,_,hclean,fun p => mem_render hvol hclean insert_ne,?_⟩
  intro k _ hk
  exact AList.lookup_insert_ne hk

end Drives

section Tags

theorem tagged_put {tag : String} {value : Option String} {m : Params} (ht : tag ∈ optionTags)
    (hv : ∀ v, value = some v → ',' ∉ v.toList) (hm : Tagged m) : Tagged (put tag value m) := by
  intro k v hk
  rw [lookup_put] at hk
  split at hk
  · rename_i he
    subst he
    cases value with
    | none => exact hm k v hk
    | some u => exact ⟨ht,hv v (by simpa using hk)⟩
  · exact hm k v hk

theorem flag_plain {b : Option Bool} {v : String} (h : flagOption b = some v) : ',' ∉ v.toList := by
  cases b with
  | none => cases h
  | some b => cases b <;> (cases h; decide)

theorem number_plain {n : Option ℤ} {v : String} (h : numberOption n = some v) : ',' ∉ v.toList := by
  obtain ⟨x,_,rfl⟩ := Option.map_eq_some_iff.mp h
  exact numeral_notMem rfl (by decide) x

theorem text_plain {t v : String} (ht : ',' ∉ t.toList) (h : textOption t = some v) :
    ',' ∉ v.toList := by
  unfold textOption at h
  split at h
  · cases h
  · cases h
    exact ht

theorem tagged_empty : Tagged ∅ := by
  intro k v h
  rw [AList.lookup_empty] at h
  cases h

theorem created_tagged {p : StorageParameters} (readonly : Bool) (ha : ',' ∉ p.aio.toList)
    (hc : ',' ∉ p.cache.toList) (hd : ',' ∉ p.discard.toList) : Tagged (created p readonly) := by
  unfold created StorageParameters.toCFG
  refine tagged_put (by decide) (fun v => flag_plain) ?_
  refine tagged_put (by decide) (fun v => flag_plain) ?_
  refine tagged_put (by decide) (fun v => flag_plain) ?_
  refine tagged_put (by decide) (fun v => number_plain) ?_
  refine tagged_put (by decide) (fun v => number_plain) ?_
  refine tagged_put (by decide) (fun v => number_plain) ?_
  refine tagged_put (by decide) (fun v => number_plain) ?_
  refine tagged_put (by decide) (fun v => flag_plain) ?_
  refine tagged_put (by decide) (fun v => text_plain hd) ?_
  refine tagged_put (by decide) (fun v => text_plain hc) ?_
  refine tagged_put (by decide) (fun v => flag_plain) ?_
  exact tagged_put (by decide) (fun v => text_plain ha) tagged_empty

theorem class_tagged {vac : ModifyVolumeParameters} (hd : ',' ∉ vac.discard.toList) :
    Tagged vac.toCFG := by
  unfold ModifyVolumeParameters.toCFG
  refine tagged_put (by decide) (fun v => number_plain) ?_
  refine tagged_put (by decide) (fun v => number_plain) ?_
  refine tagged_put (by decide) (fun v => number_plain) ?_
  refine tagged_put (by decide) (fun v => number_plain) ?_
  refine tagged_put (by decide) (fun v => text_plain hd) ?_
  exact tagged_put (by decide) (fun v => flag_plain) tagged_empty

theorem class_nonempty (vac : ModifyVolumeParameters) {k v : String}
    (h : vac.toCFG.lookup k = some v) : v ≠ "" := by
  have hput : ∀ {tag : String} {value : Option String} {m : Params}, (∀ v, value = some v → v ≠ "") →
      (∀ v, m.lookup k = some v → v ≠ "") → ∀ v, (put tag value m).lookup k = some v → v ≠ "" := by
    intro tag value m hv hm v hk
    rw [lookup_put] at hk
    split at hk
    · cases value with
      | none => exact hm v hk
      | some u => exact hv v (by simpa using hk)
    · exact hm v hk
  have hnum : ∀ {n : Option ℤ} v, numberOption n = some v → v ≠ "" := by
    intro n v hn
    obtain ⟨x,_,rfl⟩ := Option.map_eq_some_iff.mp hn
    exact numeral_ne x
  have htext : ∀ {t : String} v, textOption t = some v → v ≠ "" := by
    intro t v ht
    unfold textOption at ht
    split at ht
    · cases ht
    · rename_i hne
      cases ht
      exact hne
  refine hput hnum (hput hnum (hput hnum (hput hnum (hput htext (hput (fun _ => flagOption_ne) ?_)))))
    v h
  intro v hv
  rw [AList.lookup_empty] at hv
  cases hv

end Tags

section Updating

variable {vol : Volume} {o e : Options} {value k : String}

theorem kept_other {ps : List String} {o : Options} (hk : ∀ p ∈ ps, ∀ x, split p '=' ≠ [k,x]) :
    (ps.foldl keepOption o).lookup k = o.lookup k := by
  induction ps generalizing o with
  | nil => rfl
  | cons p ps ih =>
    rw [List.foldl_cons, ih (fun q hq => hk q (List.mem_cons_of_mem _ hq)),
      keepOption_other (hk p List.mem_cons_self)]

/-- What an update leaves under a key: the requested option, or the one of the drive if its value
can be read back. -/
theorem merged_lookup (he : Clean e) (ht : ∀ p, p ∈ optionTexts value ↔ ∃ k x, e.lookup k = some x ∧
      p = optionText k x) (ho : ∀ v, o.lookup k = some v → v ≠ "") :
    (merged value o).lookup k = (o.lookup k).or ((e.lookup k).filter (fun x => '=' ∉ x.toList)) := by
  have hpairs : ∀ p ∈ optionTexts value, ∀ x, split p '=' = [k,x] → e.lookup k = some x := by
    intro p hp x hs
    obtain ⟨k',x',hl,rfl⟩ := (ht p).mp hp
    have hk' := (he.keys k' (AList.lookup_isSome.mp (by rw [hl]; rfl))).2
    have hkk : k' = k := by rw [← optionKey_text hk', pair_key hs]
    subst hkk
    rw [hl, optionText_inj (text_of_pair hs)]
  cases hl : o.lookup k with
  | some v =>
    have hv : valueIn o k ≠ "" := by
      rw [valueIn, hl]
      exact ho v hl
    rw [merged, kept_value _ hv, hl]
    rfl
  | none =>
    have hv : valueIn o k = "" := by
      rw [valueIn, hl]
      rfl
    rw [Option.none_or]
    cases hx : e.lookup k with
    | none =>
      rw [merged, kept_other, hl]
      · rfl
      · intro p hp x hs
        rw [hpairs p hp x hs] at hx
        cases hx
    | some x =>
      have hk := (he.keys k (AList.lookup_isSome.mp (by rw [hx]; rfl))).2
      by_cases hq : '=' ∈ x.toList
      · rw [merged, kept_other, hl]
        · simp [Option.filter, hq]
        · intro p hp y hs
          have hy := hpairs p hp y hs
          rw [hx] at hy
          cases hy
          exact (split_pair.mp hs).2.2 hq
      · have hs : split (optionText k x) '=' = [k,x] :=
          split_pair.mpr ⟨optionText_toList k x,hk,hq⟩
        have hp : optionText k x ∈ optionTexts value := (ht _).mpr ⟨k,x,hx,rfl⟩
        rw [merged, kept_single hp hs ?_ hv]
        · simp [Option.filter, hq]
        · intro q hq y hsq
          have hy := hpairs q hq y hsq
          rw [hx] at hy
          cases hy
          rfl

end Updating

section Classes

def classOption (V : Params) (k : String) : Option String :=
  match extractModifyVolumeParameters V with
  | .ok vac => vac.toCFG.lookup k
  | .error _ => none

def creationOption (P : Params) (readonly : Bool) (k : String) : Option String :=
  match extractParameters P with
  | .ok p => (created p readonly).lookup k
  | .error _ => none

/-- Where the new class leaves an option open, the drive has what the parameters give it, and it can
be read back. -/
def Reattachable (P V₁ V₂ : Params) (readonly : Bool) : Prop :=
  ∀ k v, classOption V₂ k = none → (classOption V₁ k).or (creationOption P readonly k) = some v →
    creationOption P readonly k = if '=' ∈ v.toList then none else some v

/-- No text that becomes an option holds the sign between two options. -/
structure CommaFree (P V : Params) : Prop where
  aio : ',' ∉ (valueOf P "aio").toList
  cache : ',' ∉ (valueOf P "cache").toList
  created : ',' ∉ (valueOf P "discard").toList
  discard : ',' ∉ (valueOf V "discard").toList

variable {P V : Params} {readonly : Bool} {o : Options}

/-- The options of a drive are those of the class over those of the creation. -/
theorem driveOptions_option (h : driveOptions P V readonly = .ok o) (k : String) :
    o.lookup k = (classOption V k).or (creationOption P readonly k) := by
  obtain ⟨vac,hm⟩ := driveOptions_class h
  obtain ⟨p,hp⟩ := driveOptions_parameters h
  obtain ⟨o',ho',hl⟩ := driveOptions_lookup readonly hp hm
  rw [h] at ho'
  cases ho'
  have hclass : classOption V k = vac.toCFG.lookup k := by rw [classOption, hm]
  have hcreation : creationOption P readonly k = (created p readonly).lookup k := by
    rw [creationOption, hp]
  rw [hl k, hclass, hcreation, classFirst]
  cases hk : vac.toCFG.lookup k with
  | none => simp [valueOf, hk]
  | some v =>
    have hv : valueOf vac.toCFG k ≠ "" := by
      rw [valueOf, hk]
      exact class_nonempty vac hk
    rw [if_pos hv]
    rfl

theorem creation_tagged (hc : CommaFree P V) {k v : String}
    (h : creationOption P readonly k = some v) : k ∈ optionTags ∧ ',' ∉ v.toList := by
  unfold creationOption at h
  split at h
  · rename_i p hp
    obtain ⟨iops,speed,_,_,_,_,_,_,_,_,rfl⟩ := extractParameters_ok.mp hp
    have hdiscard : ',' ∉ (discardOf P).toList := by
      unfold discardOf
      split
      · decide
      · exact hc.created
    have haio := hc.aio
    have hcache := hc.cache
    exact created_tagged readonly (p := parametersOf P iops speed) haio hcache hdiscard k v h
  · cases h

theorem classOption_tagged (hc : CommaFree P V) {k v : String} (h : classOption V k = some v) :
    k ∈ optionTags ∧ ',' ∉ v.toList := by
  unfold classOption at h
  split at h
  · rename_i vac hm
    refine class_tagged ?_ k v h
    rw [(extractModify_fields hm).2]
    exact hc.discard
  · cases h

theorem driveOptions_tagged (hc : CommaFree P V) (h : driveOptions P V readonly = .ok o) :
    Tagged o := by
  intro k v hk
  rw [driveOptions_option h] at hk
  cases hv : classOption V k with
  | some u =>
    rw [hv] at hk
    cases hk
    exact classOption_tagged hc hv
  | none =>
    rw [hv, Option.none_or] at hk
    exact creation_tagged hc hk

theorem classOption_key {k v : String} (h : classOption V k = some v) : k ∈ classTags := by
  by_contra hk
  unfold classOption at h
  split at h
  · rw [toCFG_other _ hk] at h
    cases h
  · cases h

theorem classOption_other (V : Params) {k : String} (hk : k ∉ classTags) :
    classOption V k = none := by
  cases h : classOption V k with
  | none => rfl
  | some v => exact absurd (classOption_key h) hk

theorem classTags_optionTags {k : String} (hk : k ∈ classTags) : k ∈ optionTags := by
  have hall : ∀ k ∈ classTags, k ∈ optionTags := by decide
  exact hall k hk

theorem texts_same {e e' : Options} (he : Clean e) (he' : Clean e')
    (h : ∀ p, (∃ k x, e.lookup k = some x ∧ p = optionText k x) ↔
      ∃ k x, e'.lookup k = some x ∧ p = optionText k x) (k : String) : e.lookup k = e'.lookup k := by
  have hdir : ∀ {e e' : Options}, Clean e → Clean e' →
      (∀ p, (∃ k x, e.lookup k = some x ∧ p = optionText k x) →
        ∃ k x, e'.lookup k = some x ∧ p = optionText k x) →
      ∀ x, e.lookup k = some x → e'.lookup k = some x := by
    intro e e' he he' h x hx
    obtain ⟨k',y,hy,ht⟩ := h _ ⟨k,x,hx,rfl⟩
    have hk := (he.keys k (AList.lookup_isSome.mp (by rw [hx]; rfl))).2
    have hk' := (he'.keys k' (AList.lookup_isSome.mp (by rw [hy]; rfl))).2
    have hkk : k = k' := by rw [← optionKey_text hk, ht, optionKey_text hk']
    subst hkk
    rw [hy, optionText_inj ht]
  refine Option.ext ?_
  intro x
  exact ⟨hdir he he' (fun p => (h p).mp) x,hdir he' he (fun p => (h p).mpr) x⟩

end Classes

section Modifying

variable {vol : Volume} {P V₁ V₂ : Params} {readonly : Bool} {o₁ o₂ : Options} {value : String}

theorem creation_iothread (h : driveOptions P V₁ readonly = .ok o₁) :
    ∃ v, creationOption P readonly "iothread" = some v ∧ '=' ∉ v.toList := by
  obtain ⟨p,hp⟩ := driveOptions_parameters h
  refine ⟨if p.ioThread then "1" else "0",?_,by cases p.ioThread <;> decide⟩
  simp [creationOption, hp, created, StorageParameters.toCFG, lookup_put, flagOption]

/-- An update leaves a drive with the options of the new class over those of the creation exactly
when nothing of the class before it is left and everything else can be read back. -/
theorem updated_drive_iff {vac : ModifyVolumeParameters} (h₁ : driveOptions P V₁ readonly = .ok o₁)
    (h₂ : driveOptions P V₂ readonly = .ok o₂) (hm : extractModifyVolumeParameters V₂ = .ok vac)
    (hc : CommaFree P V₂) (hd : Drive vol o₁ value) :
    Drive vol o₂ (updated value vac.toCFG) ↔ Reattachable P V₁ V₂ readonly := by
  obtain ⟨hdisk,e,he,ht,hsame⟩ := hd
  have hclass : ∀ k, classOption V₂ k = vac.toCFG.lookup k := fun k => by rw [classOption, hm]
  have hclean : Clean vac.toCFG := tagged_clean (fun k v hk =>
    classOption_tagged hc ((hclass k).trans hk))
  have hmerged : ∀ k, k ≠ "size" → k ≠ "wwn" → (merged value vac.toCFG).lookup k =
      (classOption V₂ k).or (((classOption V₁ k).or (creationOption P readonly k)).filter
        (fun x => '=' ∉ x.toList)) := by
    intro k hs hw
    rw [merged_lookup he ht (fun v hv => class_nonempty vac hv), hsame k hs hw,
      driveOptions_option h₁, hclass]
  have hne : (merged value vac.toCFG).entries ≠ [] := by
    obtain ⟨v,hv,hq⟩ := creation_iothread h₁
    have hio := hmerged "iothread" (by decide) (by decide)
    rw [classOption_other V₁ (by decide), classOption_other V₂ (by decide), hv] at hio
    intro hempty
    rw [show merged value vac.toCFG = ∅ from AList.ext hempty, AList.lookup_empty] at hio
    simp [Option.filter, hq] at hio
  have hmc : Clean (merged value vac.toCFG) := merged_clean hclean
  have htexts := fun p => mem_render (p := p) (firstPiece_notMem value) hmc hne
  constructor
  · rintro ⟨_,e',he',ht',hs'⟩ k v hopen hv
    have hkey : k ≠ "size" ∧ k ≠ "wwn" := by
      have htag : k ∈ optionTags := by
        cases hk : classOption V₁ k with
        | some u => exact classTags_optionTags (classOption_key hk)
        | none =>
          rw [hk, Option.none_or] at hv
          exact (creation_tagged hc hv).1
      constructor <;> (rintro rfl; exact absurd htag (by decide))
    have hk := hmerged k hkey.1 hkey.2
    rw [← texts_same he' hmc (fun p => (ht' p).symm.trans (htexts p)) k,
      hs' k hkey.1 hkey.2, driveOptions_option h₂, hopen, hv] at hk
    rw [Option.none_or, Option.none_or] at hk
    rw [hk]
    by_cases hq : '=' ∈ v.toList <;> simp [Option.filter, hq]
  · intro hre
    refine ⟨(firstPiece_append (firstPiece_notMem value)).trans hdisk,_,hmc,htexts,?_⟩
    intro k hs hw
    rw [hmerged k hs hw, driveOptions_option h₂]
    cases hopen : classOption V₂ k with
    | some u => rfl
    | none =>
      rw [Option.none_or, Option.none_or]
      cases hv : (classOption V₁ k).or (creationOption P readonly k) with
      | none =>
        obtain ⟨_,hcr⟩ := Option.or_eq_none_iff.mp hv
        rw [hcr]
        rfl
      | some v =>
        rw [hre k v hopen hv]
        by_cases hq : '=' ∈ v.toList <;> simp [Option.filter, hq]

end Modifying

/-- Plugging the disk again gives a drive with the options of the new class, and applying the class
to the plugged drive gives one exactly when nothing of the class before is left on it. -/
theorem live_modification_iff (id : ℤ) {s : Slots} {vol : Volume} {order : List (String × String)}
    {n : Fin 31} {value : String} {P V₁ V₂ : Params} {readonly : Bool} {o₁ o₂ : Options}
    {vac : ModifyVolumeParameters} (ho : order.Perm (mergeSCSIs s)) (hh : Holds s n value)
    (hfound : isVolumeAttached order (volumeMatch vol) = ((n.val : ℤ),true))
    (hvol : ',' ∉ (vol.storage ++ ":" ++ vol.disk).toList)
    (h₁ : driveOptions P V₁ readonly = .ok o₁) (h₂ : driveOptions P V₂ readonly = .ok o₂)
    (hm : extractModifyVolumeParameters V₂ = .ok vac) (hc : CommaFree P V₂)
    (hd : Drive vol o₁ value) :
    (∀ lun : Fin 31, Drive vol o₂ (plugged vol o₂ lun.val)) ∧
    ((∃ next, (updateVolume id vol vac.toCFG).run = .call (.getVMConfig id) next ∧
      ∃ written rest, next (.ok order) = .call (.config id (device n) written) rest ∧
        Drive vol o₂ written) ↔ Reattachable P V₁ V₂ readonly) := by
  refine ⟨plugged_drive hvol (driveOptions_tagged hc h₂),?_⟩
  rw [updateVolume_writes_iff id vac.toCFG (Drive vol o₂) ho hh hfound]
  exact updated_drive_iff h₁ h₂ hm hc hd

section Samples

def optionsOf (P V : Params) : Options :=
  match driveOptions P V false with
  | .ok o => o
  | .error _ => ∅

def classCFG (V : Params) : Options :=
  match extractModifyVolumeParameters V with
  | .ok vac => vac.toCFG
  | .error _ => ∅

def throttled : Params := (∅ : Params).insert "diskIOPS" "100"

def notBackedUp : Params := (∅ : Params).insert "backup" "false"

def pluggedSlots (V : Params) : Slots :=
  (∅ : Slots).insert 1 (plugged soughtVolume (optionsOf storageOnly V) 1)

theorem pluggedSlots_hold (V : Params) (h : plugged soughtVolume (optionsOf storageOnly V) 1 ≠ "") :
    Holds (pluggedSlots V) 1 (plugged soughtVolume (optionsOf storageOnly V) 1) :=
  ⟨AList.lookup_insert _,h⟩

/-- The throttle of the class before stays on the drive. -/
theorem throttle_survives :
    ∃ next, (updateVolume 100 soughtVolume (classCFG backedUp)).run = .call (.getVMConfig 100) next ∧
      ∃ written rest, next (.ok (mergeSCSIs (pluggedSlots throttled))) =
          .call (.config 100 "scsi1" written) rest ∧ "iops_rd=100" ∈ optionTexts written ∧
        ¬Drive soughtVolume (optionsOf storageOnly backedUp) written := by
  obtain ⟨hne,hkept,hfound⟩ : plugged soughtVolume (optionsOf storageOnly throttled) 1 ≠ "" ∧
      "iops_rd=100" ∈ optionTexts (updated (plugged soughtVolume
        (optionsOf storageOnly throttled) 1) (classCFG backedUp)) ∧
      isVolumeAttached (mergeSCSIs (pluggedSlots throttled)) (volumeMatch soughtVolume) =
        (((1 : Fin 31).val : ℤ),true) := by decide +kernel
  have hopen : (optionsOf storageOnly backedUp).lookup "iops_rd" = none := by decide +kernel
  refine (updateVolume_writes_iff 100 (classCFG backedUp) (fun written => "iops_rd=100" ∈
    optionTexts written ∧ ¬Drive soughtVolume (optionsOf storageOnly backedUp) written)
    (List.Perm.refl _) (pluggedSlots_hold throttled hne) hfound).mpr ⟨hkept,?_⟩
  rintro ⟨_,e,he,ht,hs⟩
  obtain ⟨k,x,hl,hp⟩ := (ht _).mp hkept
  have hkey : k = "iops_rd" := by
    rw [← optionKey_text (x := x) (he.keys k (AList.lookup_isSome.mp (by rw [hl]; rfl))).2, ← hp]
    decide +kernel
  subst hkey
  rw [hs _ (by decide) (by decide), hopen] at hl
  cases hl

/-- Both classes set the same option. -/
theorem live_modification_iff_same_option :
    ∃ next, (updateVolume 100 soughtVolume (classCFG notBackedUp)).run =
        .call (.getVMConfig 100) next ∧
      ∃ written rest, next (.ok (mergeSCSIs (pluggedSlots backedUp))) =
          .call (.config 100 "scsi1" written) rest ∧
        Drive soughtVolume (optionsOf storageOnly notBackedUp) written := by
  have hfound : isVolumeAttached (mergeSCSIs (pluggedSlots backedUp)) (volumeMatch soughtVolume) =
      (((1 : Fin 31).val : ℤ),true) := by decide +kernel
  have hc₁ : CommaFree storageOnly backedUp := ⟨by decide +kernel,by decide +kernel,
    by decide +kernel,by decide +kernel⟩
  have hc₂ : CommaFree storageOnly notBackedUp := ⟨by decide +kernel,by decide +kernel,
    by decide +kernel,by decide +kernel⟩
  have hvol : ',' ∉ (soughtVolume.storage ++ ":" ++ soughtVolume.disk).toList := by decide +kernel
  have hd : Drive soughtVolume (optionsOf storageOnly backedUp)
      (plugged soughtVolume (optionsOf storageOnly backedUp) 1) :=
    plugged_drive hvol (driveOptions_tagged hc₁ rfl) 1
  have hall : ∀ k ∈ optionTags, classOption notBackedUp k = none → classOption backedUp k = none ∧
      (creationOption storageOnly false k).all (fun v => '=' ∉ v.toList) = true := by decide +kernel
  have h₁ : driveOptions storageOnly backedUp false = .ok (optionsOf storageOnly backedUp) := rfl
  refine (live_modification_iff 100 (List.Perm.refl _) (pluggedSlots_hold backedUp (by decide +kernel))
    hfound hvol h₁ rfl rfl hc₂ hd).2.mpr ?_
  intro k v hopen hv
  have htag : k ∈ optionTags := by
    cases hk : classOption backedUp k with
    | some u => exact classTags_optionTags (classOption_key hk)
    | none =>
      rw [hk, Option.none_or] at hv
      exact (creation_tagged hc₂ hv).1
  obtain ⟨hnone,hread⟩ := hall k htag hopen
  rw [hnone, Option.none_or] at hv
  rw [hv] at hread ⊢
  rw [if_neg (of_decide_eq_true hread)]

end Samples

end ProxmoxCSI.LiveModification
