import ProxmoxCSI.SlotAllocation
import ProxmoxCSI.OperatorRecords
import ProxmoxCSI.MigratorCalls
import Mathlib.Data.Fintype.Card

/-!
# The number of volumes a node offers

The limit is read from a label of the node, the slots are handed out by a loop.
A VM whose slots are all taken has as many volumes as the loop has slots, one
less than the largest limit a label may ask for.
-/

set_option autoImplicit false

namespace ProxmoxCSI.AdvertisedLimit
open CallProgram CallProgram.Prog CallSafety CallErrors CallTriples CallSessions CallSchedule
open TextScan VolumeHandle ClusterState OperatorRecords AttachedSlots VMConfigs SlotAllocation
open MigratorCalls (driverName)

section Node

def nodeLabelMaxVolumeAttachments : String := driverName ++ "/max-volume-attachments"

def defaultMaxVolumesPerNode : ℤ := 24

def volumesPerNodeHardLimit : ℤ := 30

def maxVolumes (labels : Params) : ℤ :=
  let volumes := (atoi ((labels.lookup nodeLabelMaxVolumeAttachments).getD "")).getD
    defaultMaxVolumesPerNode
  if volumes < 0 ∨ volumes > volumesPerNodeHardLimit then defaultMaxVolumesPerNode else volumes

end Node

section Counting

variable {s s' : Slots} {order : List (String × String)}

def attachedVolumes (s : Slots) : Finset String :=
  ((((List.finRange 31).filter (fun n => n ≠ 0)).filterMap (fun n => s.lookup n)).filter
    (fun v => v ≠ "")).map (fun v => firstPiece v ',') |>.toFinset

theorem mem_attachedVolumes {n : Fin 31} {v : String} (hn : n ≠ 0) (hh : Holds s n v) :
    firstPiece v ',' ∈ attachedVolumes s := by
  unfold attachedVolumes
  rw [List.mem_toFinset]
  refine List.mem_map_of_mem (List.mem_filter.mpr ⟨List.mem_filterMap.mpr ⟨n,?_,hh.1⟩,?_⟩)
  · simpa using hn
  · simpa using hh.2

def Distinct (s : Slots) : Prop := ∀ n m v v', n ≠ 0 → m ≠ 0 → Holds s n v → Holds s m v' →
  firstPiece v ',' = firstPiece v' ',' → n = m

theorem usable_ne {n : Fin 31} (h : Usable n) : n ≠ 0 := by
  rintro rfl
  exact absurd h.1 (by decide)

theorem freeLun_none (ho : order.Perm (mergeSCSIs s)) (h : freeLun order = none) {n : Fin 31}
    (hn : Usable n) : ∃ v, Holds s n v := by
  have hmem : n.val ∈ (List.range 29).map (fun n => n+1) := by
    have h₁ := hn.1
    have h₂ := hn.2
    exact List.mem_map.mpr ⟨n.val-1,List.mem_range.mpr (by omega),by omega⟩
  have hfull := List.find?_eq_none.mp h n.val hmem
  unfold valueAt at hfull
  cases hf : order.find? (fun d => d.1 = device n.val) with
  | none =>
    rw [hf] at hfull
    exact absurd (decide_eq_true rfl) hfull
  | some d =>
    obtain ⟨m,v,rfl,hh⟩ := mem_mergeSCSIs.mp (ho.subset (List.mem_of_find?_eq_some hf))
    have hd := List.find?_some hf
    have he : m = n := device_injective (of_decide_eq_true hd)
    exact ⟨v,he ▸ hh⟩

/-- A VM without a free slot has a volume in each of them. -/
theorem full_card (hd : Distinct s) (hfull : ∀ n, Usable n → ∃ v, Holds s n v) :
    29 ≤ (attachedVolumes s).card := by
  have huse : (Finset.univ.filter Usable).card = 29 := by decide
  choose! value hvalue using hfull
  rw [← huse]
  refine Finset.card_le_card_of_injOn (fun n => firstPiece (value n) ',') ?_ ?_
  · intro n hn
    have hu : Usable n := (Finset.mem_filter.mp hn).2
    exact mem_attachedVolumes (usable_ne hu) (hvalue n hu)
  · intro n hn m hm he
    have hu : Usable n := (Finset.mem_filter.mp hn).2
    have hu' : Usable m := (Finset.mem_filter.mp hm).2
    exact hd n m _ _ (usable_ne hu) (usable_ne hu') (hvalue n hu) (hvalue m hu') he

end Counting

/-- A volume has a disk, and its reference ends where the options of a drive begin. -/
structure ProperVolume where
  volume : Volume
  named : volumeMatch volume ≠ ""
  plain : ',' ∉ (volume.storage ++ ":" ++ volume.disk).toList

section Runs

variable {s s' : Slots}

theorem firstPiece_plugged (vol : ProperVolume) (o : Options) (lun : ℕ) :
    firstPiece (plugged vol.volume o lun) ',' = vol.volume.storage ++ ":" ++ vol.volume.disk :=
  firstPiece_append vol.plain

theorem match_reference (vol : Volume) {v : String}
    (h : firstPiece v ',' = vol.storage ++ ":" ++ vol.disk) :
    contains v (volumeMatch vol) = true := by
  rw [contains_iff]
  have hdisk : vol.disk.toList <:+ (firstPiece v ',').toList := by
    rw [h, String.toList_append]
    exact List.suffix_append _ _
  exact (sameDisk_isSuffix (.inl rfl)).isInfix.trans
    (hdisk.isInfix.trans (firstPiece_isPrefix v ',').isInfix)

theorem changes_distinct {op : Operation ProperVolume} (hd : Distinct s)
    (hc : Changes ProperVolume.volume s op s') : Distinct s' := by
  cases op with
  | attach vol options =>
    rcases hc with rfl | ⟨hno,k,_,_,hset⟩
    · exact hd
    · have hold : ∀ {m v}, m ≠ k → Holds s' m v → Holds s m v := fun hm hh =>
        ⟨(hset.2 _ hm).symm.trans hh.1,hh.2⟩
      have hnew : ∀ {v}, Holds s' k v → firstPiece v ',' =
          vol.volume.storage ++ ":" ++ vol.volume.disk := by
        intro v hh
        rw [Option.some.inj (hh.1.symm.trans hset.1), firstPiece_plugged]
      intro n m v v' hn hm hh hh' he
      by_cases hnk : n = k
      · by_cases hmk : m = k
        · rw [hnk, hmk]
        · rw [hnk] at hh
          exact absurd ⟨v',hold hmk hh',match_reference _ (he.symm.trans (hnew hh))⟩ (hno m)
      · by_cases hmk : m = k
        · rw [hmk] at hh'
          exact absurd ⟨v,hold hnk hh,match_reference _ (he.trans (hnew hh'))⟩ (hno n)
        · exact hd n m v v' hn hm (hold hnk hh) (hold hmk hh') he
  | detach vol =>
    rcases hc with rfl | ⟨k,_,hset⟩
    · exact hd
    · have hold : ∀ {m v}, Holds s' m v → Holds s m v := by
        intro m v hh
        by_cases hm : m = k
        · rw [hm, Holds, hset.1] at hh
          cases hh.1
        · exact ⟨(hset.2 m hm).symm.trans hh.1,hh.2⟩
      intro n m v v' hn hm hh hh' he
      exact hd n m v v' hn hm (hold hh) (hold hh') he

theorem session_distinct {region : String} {id : ℤ} {polls : ℕ} {w₀ : VMs} {s₀ : Slots}
    {h₀ : History VMCall VMReply VMs} {b : Point VMCall VMReply VMs}
    (hs : w₀.lookup (region,id) = some s₀) (hd : Distinct s₀)
    (hb : Session (machines region) (fun op : Operation ProperVolume =>
      (operation ProperVolume.volume polls id op).run) ⟨h₀,w₀⟩ b) :
    ∃ s, b.world.lookup (region,id) = some s ∧ Distinct s := by
  refine session_invariant (I := fun _ w => ∃ s, w.lookup (region,id) = some s ∧ Distinct s)
    ?_ hb ⟨s₀,hs,hd⟩
  rintro op h w ⟨s,hs,hd⟩
  refine safe_mono (operation_performs ProperVolume.named h w (reached_start hs)) ?_
    (fun _ _ _ _ _ => trivial)
  rintro h' w' ⟨_,_,_,s',hs',hc⟩
  exact ⟨s',hs',changes_distinct hd hc⟩

def Refused {α : Type} (full : Prop) (r : Except String α) : Prop :=
  r = .error "no free lun found" → full

theorem refused_other {α : Type} {full : Prop} {e : String}
    (h : e.toList.head? ≠ "no free lun found".toList.head?) :
      Refused full (.error e : Except String α) := by
  intro he
  exact absurd (congrArg (fun e : String => e.toList.head?) (Except.error.inj he)) h

theorem plug_refused {full : Prop} (polls : ℕ) (id : ℤ) (vol : Volume) (o : Options) (lun : ℕ) :
    (plug polls id vol o lun).run.Returns (Refused full) := by
  have hthrow : ∀ {e : String}, e.toList.head? ≠ "no free lun found".toList.head? →
      (throw e : V Unit).run.Returns (Refused full) := fun h => refused_other h
  have hround : ∀ {again : Unit → V Unit}, (again ()).run.Returns (Refused full) →
      (awaitAttached id vol again ()).run.Returns (Refused full) := by
    intro again hagain r
    cases r with
    | error e => exact hthrow (by simp)
    | ok disks =>
      show Returns _ (ite _ _ _ : V Unit).run
      split
      · exact fun hc => by cases hc
      · exact hagain
  have hwait : (waitAttachVolume polls id vol).run.Returns (Refused full) := by
    unfold waitAttachVolume
    induction polls with
    | zero => exact hround (hthrow (by simp))
    | succ polls ih => exact hround ih
  intro r
  cases r with
  | ok _ => exact hwait
  | error e =>
    cases e with
    | task msg => exact hthrow (by simp)
    | notFound => exact hthrow (by simp)
    | other msg => exact hthrow (by simp)

theorem attachTo_refused (polls : ℕ) (id : ℤ) (vol : Volume) (o : Options)
    (disks : List (String × String)) :
    (attachTo polls id vol o disks).run.Returns (Refused (freeLun disks = none)) := by
  unfold attachTo
  split
  · exact fun hc => by cases hc
  · split
    · rename_i hfree
      exact fun _ => hfree
    · rw [run_bind]
      have hplug : ∀ lun, (plug polls id vol o lun).run.Returns (Refused (freeLun disks = none)) :=
        plug_refused polls id vol o
      refine returns_bind (hplug _) ?_
      intro r hr
      cases r with
      | ok _ => exact fun hc => by cases hc
      | error e => exact fun hc => hr (by rw [Except.error.inj hc])

theorem refused_runs {region : String} {h h' : History VMCall VMReply VMs} {w w' : VMs} {α : Type}
    {full : Prop} {p : Prog VMCall VMReply (Except String α)} (hp : p.Returns (Refused full))
    (hr : Runs (machines region) ⟨h,w,p⟩ ⟨h',w',.done (.error "no free lun found")⟩) : full :=
  runs_returns hr hp rfl

theorem attachVolume_run (polls : ℕ) (id : ℤ) (vol : Volume) (o : Options) :
    (attachVolume polls id vol o).run = .call (.getVMConfig id) (fun r => (match r with
      | .error e => throw ("failed to get vm config: " ++ e.text)
      | .ok disks => attachTo polls id vol o disks : V (String × String)).run) := rfl

/-- Whoever is refused a slot finds each of them taken. -/
theorem attachVolume_refused {region : String} {id : ℤ} {polls : ℕ} {vol : Volume} {o : Options}
    {h h' : History VMCall VMReply VMs} {w w' : VMs} (hs : w.lookup (region,id) = some s)
    (hr : Runs (machines region) ⟨h,w,(attachVolume polls id vol o).run⟩
      ⟨h',w',.done (.error "no free lun found")⟩) : ∀ n, Usable n → ∃ v, Holds s n v := by
  rw [attachVolume_run] at hr
  rcases runs_call hr with ⟨_,hp,_⟩ | ⟨w₁,r,w₂,hi,ho,hr'⟩
  · cases hp
  · rw [calm_interference (machines_calm region) hi] at ho
    have hother : ∀ {e : VMError}, r ≠ .error e := by
      rintro e rfl
      have hfail : ("failed to get vm config: " ++ e.text).toList.head? ≠
          "no free lun found".toList.head? := by simp
      obtain ⟨_,hp,_⟩ := runs_done hr'
      exact refused_other hfail (Prog.done.inj hp).symm
    cases ho with
    | read _ _ s' order hs' hperm =>
      cases Option.some.inj (hs.symm.trans hs')
      have hnone := refused_runs (attachTo_refused polls id vol o order) hr'
      exact fun n hn => freeLun_none hperm hnone hn
    | absent _ _ _ => exact absurd rfl hother
    | unread _ _ e _ => exact absurd rfl hother

def succeeds : Event VMCall VMReply VMs → Bool
  | ⟨.getVMConfig _,.ok _,_,_⟩ => true
  | ⟨.config _ _ _,.ok _,_,_⟩ => true
  | ⟨.unlinkDisk _ _,.ok _,_,_⟩ => true
  | _ => false

/-- On a VM with no disk above the first slot, no attach is refused a slot while fewer volumes than
the limit are attached. -/
def Attainable (limit : ℤ) : Prop :=
  ∀ (region : String) (id : ℤ) (polls : ℕ) (w₀ : VMs) (s₀ : Slots)
    (b : Point VMCall VMReply VMs) (s : Slots) (vol : ProperVolume) (o : Options)
    (h : History VMCall VMReply VMs) (w : VMs),
    w₀.lookup (region,id) = some s₀ → (∀ n, n ≠ 0 → Empty s₀ n) →
    Session (machines region) (fun op : Operation ProperVolume =>
      (operation ProperVolume.volume polls id op).run) ⟨[],w₀⟩ b →
    b.world.lookup (region,id) = some s → (attachedVolumes s).card < limit →
    Runs (machines region) ⟨b.hist,b.world,(attachVolume polls id vol.volume o).run⟩
      ⟨h,w,.done (.error "no free lun found")⟩ → h.all succeeds = true → False

theorem attainable_of_le {limit : ℤ} (hl : limit ≤ 29) : Attainable limit := by
  intro region id polls w₀ s₀ b s vol o h w hs₀ hempty hb hs hcard hr _
  have hstart : Distinct s₀ := fun n _ v _ hn _ hh _ _ => absurd hh (hempty n hn v)
  obtain ⟨s',hs',hd⟩ := session_distinct hs₀ hstart hb
  cases Option.some.inj (hs.symm.trans hs')
  have hfull := full_card hd (attachVolume_refused hs hr)
  omega

end Runs

section Busy

variable {s : Slots} {region : String} {id : ℤ} {polls : ℕ} {vol : Volume} {o : Options} {w : VMs}

theorem usable_of_ne {n : Fin 31} (h : n ≠ 0) (h' : n ≠ 30) : Usable n := by
  revert n
  decide

theorem card_le (h : Empty s 30) : (attachedVolumes s).card ≤ 29 := by
  have hsub : attachedVolumes s ⊆ (Finset.univ.filter Usable).image
      (fun n => firstPiece ((s.lookup n).getD "") ',') := by
    intro x hx
    simp only [attachedVolumes, List.mem_toFinset, List.mem_map, List.mem_filter,
      List.mem_filterMap] at hx
    obtain ⟨v,⟨⟨n,hn,hl⟩,hv⟩,rfl⟩ := hx
    have hne : n ≠ 0 := by simpa using hn
    have hlast : n ≠ 30 := by
      rintro rfl
      exact h v ⟨hl,by simpa using hv⟩
    exact Finset.mem_image.mpr ⟨n,by simpa using usable_of_ne hne hlast,by rw [hl]; rfl⟩
  exact (Finset.card_le_card hsub).trans (Finset.card_image_le.trans (by decide))

theorem plugged_found {n : Fin 31} (hm : volumeMatch vol ≠ "") :
    (isVolumeAttached (mergeSCSIs (s.insert n (plugged vol o n.val))) (volumeMatch vol)).2 = true := by
  by_contra hc
  have hh : Holds (s.insert n (plugged vol o n.val)) n (plugged vol o n.val) :=
    ⟨AList.lookup_insert _,plugged_ne vol o n.val⟩
  have hno := unheld_of_lookup (List.Perm.refl _) hm (by simpa using hc) n _ hh
  rw [contains_plugged] at hno
  cases hno

theorem attachTo_free {disks : List (String × String)} {lun : ℤ} {n : ℕ}
    (hfound : isVolumeAttached disks (volumeMatch vol) = (lun,false))
    (hfree : freeLun disks = some n) : attachTo polls id vol o disks =
      (do plug polls id vol o n; pure (publishContext n)) := by
  unfold attachTo
  rw [hfound, hfree]

theorem attachTo_full {disks : List (String × String)} {lun : ℤ}
    (hfound : isVolumeAttached disks (volumeMatch vol) = (lun,false)) (hfull : freeLun disks = none) :
    attachTo polls id vol o disks = throw "no free lun found" := by
  unfold attachTo
  rw [hfound, hfull]

theorem waitAttachVolume_served {h : History VMCall VMReply VMs} {disks : List (String × String)}
    (hread : VMOutcome region (.getVMConfig id) w (.ok disks) w)
    (hfound : (isVolumeAttached disks (volumeMatch vol)).2 = true) :
    Runs (machines region) ⟨h,w,(waitAttachVolume polls id vol).run⟩
      ⟨⟨.getVMConfig id,.ok disks,w,w⟩::h,w,.done (.ok ())⟩ := by
  have hround : ∀ again : Unit → V Unit, Runs (machines region)
      ⟨h,w,(awaitAttached id vol again ()).run⟩
      ⟨⟨.getVMConfig id,.ok disks,w,w⟩::h,w,.done (.ok ())⟩ := by
    intro again
    refine .head (.call hread) ?_
    show Runs _ ⟨_,_,(ite _ _ _ : V Unit).run⟩ _
    rw [if_pos hfound]
    exact .refl
  unfold waitAttachVolume
  cases polls with
  | zero => exact hround _
  | succ polls => exact hround _

theorem attach_served (h : History VMCall VMReply VMs) (hs : w.lookup (region,id) = some s)
    {lun : ℤ} {n : Fin 31} (hfound : isVolumeAttached (mergeSCSIs s) (volumeMatch vol) = (lun,false))
    (hfree : freeLun (mergeSCSIs s) = some n.val) (hm : volumeMatch vol ≠ "")
    (hh : h.all succeeds = true) :
    ∃ h' w', Runs (machines region) ⟨h,w,(attachVolume polls id vol o).run⟩
        ⟨h',w',.done (.ok (publishContext n.val))⟩ ∧ h'.all succeeds = true ∧
      w'.lookup (region,id) = some (s.insert n (plugged vol o n.val)) := by
  obtain ⟨w',hw⟩ : ∃ w', configured w region (.config id (device n.val) (plugged vol o n.val)) = w' :=
    ⟨_,rfl⟩
  have hwritten : w'.lookup (region,id) = some (s.insert n (plugged vol o n.val)) := by
    simp only [← hw, configured, hs, slotOf_device, AList.lookup_insert]
  have hwrite : VMOutcome region (.config id (device n.val) (plugged vol o n.val)) w (.ok ()) w' := by
    rw [← hw]
    exact .write id _ _ w
  refine ⟨⟨.getVMConfig id,.ok (mergeSCSIs (s.insert n (plugged vol o n.val))),w',w'⟩ ::
    ⟨.config id (device n.val) (plugged vol o n.val),.ok (),w,w'⟩ ::
    ⟨.getVMConfig id,.ok (mergeSCSIs s),w,w⟩ :: h,w',?_,by simpa [succeeds] using hh,hwritten⟩
  rw [attachVolume_run]
  refine .head (.call (.read id w s _ hs (List.Perm.refl _))) ?_
  show Runs _ ⟨_,_,(attachTo polls id vol o (mergeSCSIs s)).run⟩ _
  rw [attachTo_free hfound hfree, run_bind]
  have hplug : Runs (machines region) ⟨⟨.getVMConfig id,.ok (mergeSCSIs s),w,w⟩::h,w,
      (plug polls id vol o n.val).run⟩
      ⟨⟨.getVMConfig id,.ok (mergeSCSIs (s.insert n (plugged vol o n.val))),w',w'⟩ ::
        ⟨.config id (device n.val) (plugged vol o n.val),.ok (),w,w'⟩ ::
        ⟨.getVMConfig id,.ok (mergeSCSIs s),w,w⟩ :: h,w',.done (.ok ())⟩ :=
    .head (.call hwrite) (waitAttachVolume_served (.read id w' _ _ hwritten (List.Perm.refl _))
      (plugged_found hm))
  exact runs_trans_bind _ hplug

theorem freeLun_lowest {n : Fin 31} (hu : Usable n) (he : Empty s n)
    (hlow : ∀ m : Fin 31, Usable m → m < n → ∃ v, Holds s m v) :
    freeLun (mergeSCSIs s) = some n.val := by
  have hvalue : ∀ m : Fin 31, valueAt (mergeSCSIs s) (device m.val) = "" ↔ Empty s m := by
    intro m
    constructor
    · intro hv v hh
      rw [valueAt_of_mem (List.Perm.refl _) hh] at hv
      exact hh.2 hv
    · intro hempty
      unfold valueAt
      cases hf : (mergeSCSIs s).find? (fun d => d.1 = device m.val) with
      | none => rfl
      | some d =>
        obtain ⟨k,v,rfl,hh⟩ := mem_mergeSCSIs.mp (List.mem_of_find?_eq_some hf)
        have hd := List.find?_some hf
        have hk : k = m := device_injective (of_decide_eq_true hd)
        exact absurd (hk ▸ hh) (hempty v)
  obtain ⟨h₁,h₂⟩ := hu
  refine List.find?_eq_some_iff_getElem.mpr ⟨by simpa using (hvalue n).mpr he,n.val-1,?_,?_,?_⟩
  · simp only [List.length_map, List.length_range]
    omega
  · simp only [List.getElem_map, List.getElem_range]
    omega
  · intro j hj
    simp only [List.getElem_map, List.getElem_range, Bool.not_eq_true']
    have hm : Usable ⟨j+1,by omega⟩ := ⟨by simp,by simp; omega⟩
    obtain ⟨v,hh⟩ := hlow ⟨j+1,by omega⟩ hm (by rw [Fin.lt_def]; simp; omega)
    simpa using fun hv => (hvalue ⟨j+1,by omega⟩).mp hv v hh

end Busy

section Samples

def letters : List Char := "ABCDEFHIJKLMNOPQRSTUVWXYZghjlo".toList

def letter (k : Fin 30) : Char := letters.getD k.val 'A'

def lettered (k : Fin 30) : Volume :=
  newVolume "r" "n1" "data" (String.ofList ("vm-9999-pvc-".toList ++ [letter k]))

theorem lettered_match (k : Fin 30) : letter k ∈ (volumeMatch (lettered k)).toList := by
  revert k
  decide +kernel

theorem letter_injective {j k : Fin 30} (h : letter j = letter k) : j = k := by
  revert j k
  decide +kernel

theorem lettered_text (k : Fin 30) (n : Fin 31) : (plugged (lettered k) ∅ n.val).toList =
    "data:vm-9999-pvc-".toList ++ letter k :: ",wwn=0x".toList ++ (wwnOf n.val).toList := by
  have hr : ∀ x, renderOptions ((∅ : Options).insert "wwn" x) = "wwn=" ++ x := by
    intro x
    simp [renderOptions]
  rw [plugged, hr]
  simp [lettered, newVolume, String.toList_append]

theorem hexEncode_digits (x : String) {c : Char} (h : c ∈ (hexEncode x).toList) : c ∈ hexDigits := by
  have hdigit : ∀ i, hexDigits.getD i '0' ∈ hexDigits := by
    intro i
    rw [List.getD_eq_getElem?_getD]
    cases hi : hexDigits[i]? with
    | none => decide
    | some d => exact List.mem_of_getElem? hi
  rw [hexEncode, String.toList_ofList] at h
  obtain ⟨d,_,hc⟩ := List.mem_flatMap.mp h
  simp only [List.mem_cons, List.not_mem_nil, or_false] at hc
  rcases hc with rfl | rfl
  · exact hdigit _
  · exact hdigit _

theorem letter_fresh (k : Fin 30) : letter k ∉ "data:vm-9999-pvc-".toList ∧
    letter k ∉ ",wwn=0x".toList ∧ letter k ∉ "data:vm-100-disk-0,size=8G".toList ∧
    letter k ∉ hexDigits := by
  revert k
  decide +kernel

theorem contains_letter {k : Fin 30} {v : String}
    (h : contains v (volumeMatch (lettered k)) = true) : letter k ∈ v.toList :=
  ((contains_iff _ _).mp h).subset (lettered_match k)

theorem lettered_apart {j k : Fin 30} (hne : j ≠ k) (n : Fin 31) :
    contains (plugged (lettered j) ∅ n.val) (volumeMatch (lettered k)) = false := by
  by_contra hc
  have hmem := contains_letter (by simpa using hc)
  obtain ⟨h₁,h₂,_,h₃⟩ := letter_fresh k
  rw [lettered_text] at hmem
  rcases List.mem_append.mp hmem with hmem | hmem
  · rcases List.mem_append.mp hmem with hmem | hmem
    · exact h₁ hmem
    · rcases List.mem_cons.mp hmem with heq | hmem
      · exact hne (letter_injective heq.symm)
      · exact h₂ hmem
  · exact h₃ (hexEncode_digits _ hmem)

theorem lettered_named (k : Fin 30) : volumeMatch (lettered k) ≠ "" := by
  intro h
  have hmem := lettered_match k
  rw [h] at hmem
  cases hmem

theorem lettered_plain (k : Fin 30) :
    ',' ∉ ((lettered k).storage ++ ":" ++ (lettered k).disk).toList := by
  have htext : ((lettered k).storage ++ ":" ++ (lettered k).disk).toList =
      "data:vm-9999-pvc-".toList ++ [letter k] := by
    simp [lettered, newVolume, String.toList_append]
  rw [htext, List.mem_append, not_or]
  refine ⟨by decide,?_⟩
  intro hc
  rw [List.mem_singleton] at hc
  exact (letter_fresh k).2.1 (hc ▸ by decide)

def properLettered (k : Fin 30) : ProperVolume := ⟨lettered k,lettered_named k,lettered_plain k⟩

/-- The first slots hold one of the volumes each, and the later ones are empty. -/
structure Filled (k : ℕ) (s : Slots) : Prop where
  root : s.lookup 0 = startSlots.lookup 0
  held : ∀ n : Fin 31, 1 ≤ n.val → n.val ≤ k → ∃ j : Fin 30, j.val < k ∧
    s.lookup n = some (plugged (lettered j) ∅ n.val)
  empty : ∀ n : Fin 31, k < n.val → s.lookup n = none

theorem root_apart (j : Fin 30) {v : String} (hv : startSlots.lookup 0 = some v) :
    contains v (volumeMatch (lettered j)) = false := by
  have htext : v = "data:vm-100-disk-0,size=8G" :=
    Option.some.inj (hv.symm.trans (AList.lookup_insert _))
  by_contra hc
  rw [htext] at hc
  exact (letter_fresh j).2.2.1 (contains_letter (by simpa using hc))

theorem filled_apart {k : ℕ} {s : Slots} (hf : Filled k s) {j : Fin 30} (hj : k ≤ j.val) {n : Fin 31}
    {v : String} (hl : s.lookup n = some v) : contains v (volumeMatch (lettered j)) = false := by
  by_cases hn : n.val ≤ k
  · by_cases h0 : 1 ≤ n.val
    · obtain ⟨i,hi,ht⟩ := hf.held n h0 hn
      have hne : i ≠ j := by
        rintro rfl
        omega
      rw [Option.some.inj (hl.symm.trans ht)]
      exact lettered_apart hne n
    · have hz : n = 0 := Fin.ext (by simp; omega)
      rw [hz, hf.root] at hl
      exact root_apart j hl
  · rw [hf.empty n (by omega)] at hl
    cases hl

theorem filled_unattached {k : ℕ} {s : Slots} (hf : Filled k s) {j : Fin 30} (hj : k ≤ j.val) :
    ∃ lun, isVolumeAttached (mergeSCSIs s) (volumeMatch (lettered j)) = (lun,false) := by
  rcases hpair : isVolumeAttached (mergeSCSIs s) (volumeMatch (lettered j)) with ⟨lun,found⟩
  cases found with
  | false => exact ⟨lun,rfl⟩
  | true =>
    obtain ⟨n,_,v,hh,hv⟩ := attached_at (List.Perm.refl _) hpair
    rw [filled_apart hf hj hh.1] at hv
    cases hv

theorem filled_free {k : ℕ} {s : Slots} (hf : Filled k s) {n : Fin 31} (hn : n.val = k+1)
    (hu : Usable n) : freeLun (mergeSCSIs s) = some n.val := by
  refine freeLun_lowest hu ?_ ?_
  · intro v hv
    rw [Holds, hf.empty n (by omega)] at hv
    cases hv.1
  · intro m hm hlt
    have hlt' : m.val < n.val := hlt
    obtain ⟨j,_,hl⟩ := hf.held m hm.1 (by omega)
    exact ⟨_,hl,plugged_ne _ _ _⟩

theorem filled_insert {k : ℕ} {s : Slots} (hf : Filled k s) {n : Fin 31} {j : Fin 30}
    (hn : n.val = k+1) (hj : j.val = k) : Filled (k+1) (s.insert n
      (plugged (lettered j) ∅ n.val)) := by
  have hother : ∀ m, m ≠ n → (s.insert n (plugged (lettered j) ∅ n.val)).lookup m = s.lookup m :=
    fun m hm => AList.lookup_insert_ne hm
  constructor
  · have h0 : (0 : Fin 31) ≠ n := by
      rintro rfl
      simp at hn
    rw [hother 0 h0, hf.root]
  · intro m h₁ h₂
    by_cases hm : m = n
    · subst hm
      exact ⟨j,by omega,AList.lookup_insert _⟩
    · have hle : m.val ≤ k := by
        have hv : m.val ≠ n.val := fun h => hm (Fin.ext h)
        omega
      obtain ⟨i,hi,hl⟩ := hf.held m h₁ hle
      exact ⟨i,by omega,(hother m hm).trans hl⟩
  · intro m hm
    have hne : m ≠ n := by
      rintro rfl
      omega
    exact (hother m hne).trans (hf.empty m (by omega))

abbrev BusySession (b : Point VMCall VMReply VMs) : Prop :=
  Session (machines "r") (fun op : Operation ProperVolume =>
    (operation ProperVolume.volume 0 100 op).run) ⟨[],startMachines⟩ b

theorem filled_start : Filled 0 startSlots := by
  refine ⟨rfl,fun n h₁ h₂ => by omega,?_⟩
  decide +kernel

theorem visit_attach {b : Point VMCall VMReply VMs} (vol : ProperVolume)
    {h : History VMCall VMReply VMs} {w : VMs} {p : String × String}
    (hr : Runs (machines "r") ⟨b.hist,b.world,(attachVolume 0 100 vol.volume ∅).run⟩
      ⟨h,w,.done (.ok p)⟩) :
    Visit (machines "r") (fun op : Operation ProperVolume =>
      (operation ProperVolume.volume 0 100 op).run) b ⟨h,w⟩ := by
  refine ⟨.attach vol ∅,.done (.ok (some p)),?_⟩
  show Runs _ ⟨_,_,(attachVolume 0 100 vol.volume ∅ >>= fun p => pure (some p)).run⟩ _
  rw [run_bind]
  exact runs_trans_bind _ hr

theorem filled_session (k : ℕ) (hk : k ≤ 29) :
    ∃ b, BusySession b ∧ b.hist.all succeeds = true ∧
      ∃ s, b.world.lookup ("r",100) = some s ∧ Filled k s := by
  induction k with
  | zero => exact ⟨_,.refl,rfl,startSlots,AList.lookup_insert _,filled_start⟩
  | succ k ih =>
    obtain ⟨b,hb,hh,s,hs,hf⟩ := ih (by omega)
    obtain ⟨n,hn⟩ : ∃ n : Fin 31, n.val = k+1 := ⟨⟨k+1,by omega⟩,rfl⟩
    obtain ⟨j,hj⟩ : ∃ j : Fin 30, j.val = k := ⟨⟨k,by omega⟩,rfl⟩
    obtain ⟨lun,hfound⟩ := filled_unattached hf (le_of_eq hj.symm)
    have hfree := filled_free hf hn ⟨by omega,by omega⟩
    obtain ⟨h',w',hr,hh',hw'⟩ := attach_served b.hist hs hfound hfree (properLettered j).named hh
    exact ⟨⟨h',w'⟩,hb.tail (visit_attach (properLettered j) hr),hh',_,hw',filled_insert hf hn hj⟩

/-- With a volume in each of the slots that are handed out, the next one is refused. -/
theorem filled_refused {b : Point VMCall VMReply VMs} {s : Slots}
    (hs : b.world.lookup ("r",100) = some s) (hf : Filled 29 s) (hh : b.hist.all succeeds = true) :
    ∃ h w, Runs (machines "r") ⟨b.hist,b.world,(attachVolume 0 100 (lettered 29) ∅).run⟩
      ⟨h,w,.done (.error "no free lun found")⟩ ∧ h.all succeeds = true := by
  obtain ⟨lun,hfound⟩ := filled_unattached hf (j := 29) (by decide)
  have hfull : freeLun (mergeSCSIs s) = none := by
    rw [freeLun, List.find?_eq_none]
    intro n hn
    simp only [List.mem_map, List.mem_range] at hn
    obtain ⟨k,hk,rfl⟩ := hn
    obtain ⟨j,_,hl⟩ := hf.held ⟨k+1,by omega⟩ (by simp) (by simp; omega)
    have hheld : Holds s ⟨k+1,by omega⟩ _ := ⟨hl,plugged_ne _ _ _⟩
    have hvalue := valueAt_of_mem (List.Perm.refl _) hheld
    simpa [hvalue] using plugged_ne _ _ _
  refine ⟨⟨.getVMConfig 100,.ok (mergeSCSIs s),b.world,b.world⟩::b.hist,b.world,?_,
    by simpa [succeeds] using hh⟩
  rw [attachVolume_run]
  refine .head (.call (.read 100 b.world s _ hs (List.Perm.refl _))) ?_
  show Runs _ ⟨_,_,(attachTo 0 100 (lettered 29) ∅ (mergeSCSIs s)).run⟩ _
  rw [attachTo_full hfound hfull]
  exact .refl

theorem busy_node : ∃ b s h w, BusySession b ∧ b.world.lookup ("r",100) = some s ∧
    (attachedVolumes s).card ≤ 29 ∧
    Runs (machines "r") ⟨b.hist,b.world,(attachVolume 0 100 (lettered 29) ∅).run⟩
      ⟨h,w,.done (.error "no free lun found")⟩ ∧ h.all succeeds = true := by
  obtain ⟨b,hb,hh,s,hs,hf⟩ := filled_session 29 le_rfl
  obtain ⟨h,w,hr,hh'⟩ := filled_refused hs hf hh
  refine ⟨b,s,h,w,hb,hs,card_le ?_,hr,hh'⟩
  intro v hv
  rw [Holds, hf.empty 30 (by decide)] at hv
  cases hv.1

theorem startSlots_empty (n : Fin 31) (hn : n ≠ 0) : Empty startSlots n := by
  rintro v ⟨hl,_⟩
  have hnone : ∀ n : Fin 31, n ≠ 0 → startSlots.lookup n = none := by decide +kernel
  rw [hnone n hn] at hl
  cases hl

/-- The advertised limit is attainable for exactly the labels that do not ask for the hard limit. -/
theorem limit_attainable_iff (labels : Params) :
    Attainable (maxVolumes labels) ↔ maxVolumes labels < volumesPerNodeHardLimit := by
  constructor
  · intro hall
    by_contra hc
    obtain ⟨b,s,h,w,hb,hs,hcard,hr,hh⟩ := busy_node
    refine hall "r" 100 0 startMachines startSlots b s (properLettered 29) ∅ h w
      (AList.lookup_insert _) startSlots_empty hb hs ?_ hr hh
    have hlimit : volumesPerNodeHardLimit = 30 := rfl
    omega
  · intro hlt
    have hlimit : volumesPerNodeHardLimit = 30 := rfl
    exact attainable_of_le (by omega)

def thirtyLabel : Params := (∅ : Params).insert nodeLabelMaxVolumeAttachments "30"

/-- The node asks for thirty volumes and the thirtieth is refused. -/
theorem thirtieth_refused : maxVolumes thirtyLabel = 30 ∧
    ∃ b s h w, BusySession b ∧ b.world.lookup ("r",100) = some s ∧
      (attachedVolumes s).card < maxVolumes thirtyLabel ∧
      Runs (machines "r") ⟨b.hist,b.world,(attachVolume 0 100 (lettered 29) ∅).run⟩
        ⟨h,w,.done (.error "no free lun found")⟩ ∧ h.all succeeds = true := by
  have hlimit : maxVolumes thirtyLabel = 30 := by decide +kernel
  obtain ⟨b,s,h,w,hb,hs,hcard,hr,hh⟩ := busy_node
  exact ⟨hlimit,b,s,h,w,hb,hs,by omega,hr,hh⟩

end Samples

end ProxmoxCSI.AdvertisedLimit
