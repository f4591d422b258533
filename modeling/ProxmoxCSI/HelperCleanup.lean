import ProxmoxCSI.HelperRuns

/-!
# Cleaning up after the helper VM

Destroying a VM frees the volumes its config references whose name carries its
id. In any interleaving of conversions the VM under the helper's id is either
the one that was there from the start or one that `CreateHelperVM` made, and
the config of the latter names volumes of other owners and copies made by
`move_disk`. The deletes of a conversion therefore reach nothing else.
-/

set_option autoImplicit false

namespace ProxmoxCSI.HelperCleanup
open CallProgram CallProgram.Prog CallSafety CallErrors CallSystem TextScan VolumeHandle
open ClusterState ClusterService MigratorCalls MigrateProgram MigratorRules HelperConversion
open HelperRuns

variable {C ι : Type}

/-- The other parties neither create nor reconfigure VMs with the helper's id. -/
structure Bystander (helper : ℤ) (w w' : World C) : Prop where
  location : w'.location = w.location
  vms : ∀ region vm, w'.vms.lookup (region,helper) = some vm →
    w.vms.lookup (region,helper) = some vm

def shared (helper : ℤ) : Shared Call Reply (World C) := ⟨CallOutcome,Bystander helper⟩

abbrev Log (ι C : Type) := List (ι × Event Call Reply (World C))

def Made (h : Log ι C) (region : String) (vmid : ℤ) : Prop :=
  ∃ i e node, (i,e) ∈ h ∧ e.call = .api (.createVM region node vmid helperVMName) ∧
    e.before.vms.lookup (region,vmid) = none ∧ (e.after.vms.lookup (region,vmid)).isSome

def Converted (h : Log ι C) (k : DiskKey) : Prop :=
  ∃ i e region node vmid storage, (i,e) ∈ h ∧ e.call = .api (.moveDisk region node vmid storage) ∧
    e.before.disks.lookup k = none ∧ (e.after.disks.lookup k).isSome

def Destroyed (w w' : World C) (region : String) (vmid : ℤ) : Prop :=
  (w.vms.lookup (region,vmid)).isSome ∧ w'.vms.lookup (region,vmid) = none

def Freed (w w' : World C) (k : DiskKey) : Prop :=
  (w.disks.lookup k).isSome ∧ w'.disks.lookup k = none

variable {h : Log ι C} {f : Sharing ι} {region : String} {w w' : World C} {i : ι}

theorem made_cons {vmid : ℤ} (x : ι × Event Call Reply (World C)) (hm : Made h region vmid) :
    Made (x::h) region vmid := by
  obtain ⟨i,e,node,he,hrest⟩ := hm
  exact ⟨i,e,node,List.mem_cons_of_mem x he,hrest⟩

theorem converted_cons {k : DiskKey} (x : ι × Event Call Reply (World C)) (hc : Converted h k) :
    Converted (x::h) k := by
  obtain ⟨i,e,region,node,vmid,storage,he,hrest⟩ := hc
  exact ⟨i,e,region,node,vmid,storage,List.mem_cons_of_mem x he,hrest⟩

theorem made_of_cons {e : Event Call Reply (World C)} {vmid : ℤ} {vm : VM}
    (hm : Made ((i,e)::h) region vmid) (hv : e.before.vms.lookup (region,vmid) = some vm) :
    Made h region vmid := by
  obtain ⟨j,e',node,he,hcall,hnone,hsome⟩ := hm
  rcases List.mem_cons.mp he with heq | he
  · cases heq
    rw [hv] at hnone
    cases hnone
  · exact ⟨j,e',node,he,hcall,hnone,hsome⟩

theorem values_insert {κ β : Type} [DecidableEq κ] {t : Table κ β} {k : κ} {v b : β}
    (h : b ∈ values (t.insert k v)) : b = v ∨ b ∈ values t := by
  obtain ⟨k',hk⟩ := mem_values.mp h
  by_cases he : k' = k
  · subst he
    rw [AList.lookup_insert] at hk
    exact .inl (Option.some.inj hk).symm
  · rw [AList.lookup_insert_ne he] at hk
    exact .inr (mem_values.mpr ⟨k',hk⟩)

section Effects

def Api.keepsVMs : Api → Bool
  | .createVM _ _ _ _ | .deleteVM _ _ _ | .attachSlot _ _ _ _ | .moveDisk _ _ _ _ => false
  | _ => true

theorem serve_keepsVMs (w : World C) {a : Api} (h : Api.keepsVMs a) :
    (serve w a).2.vms = w.vms := by
  cases a <;> first
    | exact Bool.noConfusion h
    | (simp only [serve, amend, patchVolumeName, copyDisk] <;> repeat' (first | rfl | split))

variable {w w' : World C} {c : Conversion} {h : History Call Reply (World C)} {node : String}

theorem outcome_keepsVMs {a : Api} (ha : Api.keepsVMs a) {r : Except ApiError (Answer a)}
    (h : ApiOutcome a w r w') : w'.vms = w.vms := by
  cases h with
  | served => exact serve_keepsVMs w ha
  | failed => rfl
  | lost => exact serve_keepsVMs w ha
  | truncated => rfl
  | watched => rfl

/-- What a proper call does to the VM under the helper's id in a region. -/
inductive Touched (c : Conversion) (region : String) : Api → World C → World C → Prop
  | kept {a : Api} {w w' : World C}
      (h : w'.vms.lookup (region,c.helper) = w.vms.lookup (region,c.helper)) :
      Touched c region a w w'
  | gone {a : Api} {w w' : World C} (h : w'.vms.lookup (region,c.helper) = none) :
      Touched c region a w w'
  | made {node : String} {w w' : World C} (hb : w.vms.lookup (region,c.helper) = none)
      (ha : w'.vms.lookup (region,c.helper) = some ⟨node,helperVMName,true,∅⟩) :
      Touched c region (.createVM region node c.helper helperVMName) w w'
  | attached {a : Api} {w w' : World C} {vm : VM} (hb : w.vms.lookup (region,c.helper) = some vm)
      (ha : w'.vms.lookup (region,c.helper) =
        some { vm with scsi := vm.scsi.insert helperSlot c.vol.volID })
      (hp : plainVolid c.vol.volID) (hv : c.vol.vmid ≠ toString c.helper) : Touched c region a w w'
  | converted {w w' : World C} {vm : VM} {name : String}
      (hb : w.vms.lookup (region,c.helper) = some vm)
      (ha : w'.vms.lookup (region,c.helper) =
        some { vm with scsi := vm.scsi.insert helperSlot (c.vol.storage ++ ":" ++ name) })
      (hp : plainVolid c.vol.volID)
      (hf : w.freshDisk (w.location region vm.node c.vol.storage) c.helper = some name)
      (hd : (w'.disks.lookup (w.location region vm.node c.vol.storage,name)).isSome) :
      Touched c region (.moveDisk region vm.node c.helper c.vol.storage) w w'

theorem hosted_some {w : World C} {region node : String} {vmid : ℤ} {vm : VM}
    (h : hosted w region node vmid = some vm) :
    w.vms.lookup (region,vmid) = some vm ∧ vm.node = node := by
  rw [hosted, Option.filter_eq_some_iff] at h
  exact ⟨h.1,of_decide_eq_true h.2⟩

theorem createVM_touched {u : Unit}
    (h : serve w (.createVM c.vol.region node c.helper helperVMName) = (.ok u,w'))
    (region : String) :
    Touched c region (.createVM c.vol.region node c.helper helperVMName) w w' := by
  simp only [serve] at h
  split at h
  · cases h
  · rename_i hn
    cases h
    by_cases hr : region = c.vol.region
    · subst hr
      exact .made hn (AList.lookup_insert _)
    · exact .kept (AList.lookup_insert_ne (by simp [hr]))

theorem deleteVM_touched {u : Unit}
    (h : serve w (.deleteVM c.vol.region node c.helper) = (.ok u,w')) (region : String) :
    Touched c region (.deleteVM c.vol.region node c.helper) w w' := by
  simp only [serve] at h
  split at h
  · cases h
  · cases h
    by_cases hr : region = c.vol.region
    · subst hr
      exact .gone (AList.lookup_erase _ _)
    · exact .kept (AList.lookup_erase_ne (by simp [hr]))

theorem attachSlot_touched {u : Unit} (hv : c.vol.vmid ≠ toString c.helper)
    (h : serve w (.attachSlot c.vol.region node c.helper c.vol.volID) = (.ok u,w'))
    (region : String) :
    Touched c region (.attachSlot c.vol.region node c.helper c.vol.volID) w w' := by
  obtain ⟨vm,hh,hp,rfl⟩ := serve_attachSlot h
  by_cases hr : region = c.vol.region
  · subst hr
    exact .attached (hosted_some hh).1 (AList.lookup_insert _) hp hv
  · exact .kept (AList.lookup_insert_ne (by simp [hr]))

theorem moveDisk_touched {u : Unit} (hp : plainVolid c.vol.volID)
    (h : serve w (.moveDisk c.vol.region node c.helper c.vol.storage) = (.ok u,w'))
    (region : String) :
    Touched c region (.moveDisk c.vol.region node c.helper c.vol.storage) w w' := by
  obtain ⟨vm,d,name,hh,_,hf,rfl⟩ := serve_moveDisk h
  by_cases hr : region = c.vol.region
  · subst hr
    obtain ⟨hl,rfl⟩ := hosted_some hh
    refine .converted hl (AList.lookup_insert _) hp hf ?_
    rw [setSlot, AList.lookup_insert]
    rfl
  · exact .kept (AList.lookup_insert_ne (by simp [hr]))

theorem proper_touched {a : Api} (hp : Proper c h (.api a)) {r : Except ApiError (Answer a)}
    (ho : ApiOutcome a w r w') (region : String) : Touched c region a w w' := by
  by_cases ha : Api.keepsVMs a
  · exact .kept (by rw [outcome_keepsVMs ha ho])
  · cases a <;> first | exact absurd rfl ha | skip
    case createVM =>
      obtain ⟨rfl,rfl,rfl⟩ := hp
      rcases outcome_cases (by simp) ho with rfl | ⟨u,hs⟩
      · exact .kept rfl
      · exact createVM_touched hs region
    case deleteVM =>
      obtain ⟨rfl,rfl,_⟩ := hp
      rcases outcome_cases (by simp) ho with rfl | ⟨u,hs⟩
      · exact .kept rfl
      · exact deleteVM_touched hs region
    case attachSlot =>
      obtain ⟨rfl,rfl,rfl,hv⟩ := hp
      rcases outcome_cases (by simp) ho with rfl | ⟨u,hs⟩
      · exact .kept rfl
      · exact attachSlot_touched hv hs region
    case moveDisk =>
      obtain ⟨rfl,rfl,rfl,hplain⟩ := hp
      rcases outcome_cases (by simp) ho with rfl | ⟨u,hs⟩
      · exact .kept rfl
      · exact moveDisk_touched hplain hs region

theorem lookup_insert_isSome {κ β : Type} [DecidableEq κ] {t : Table κ β} {k k' : κ} {v : β}
    (h : (t.lookup k).isSome) : ((t.insert k' v).lookup k).isSome := by
  by_cases hk : k = k'
  · subst hk
    rw [AList.lookup_insert]
    rfl
  · rw [AList.lookup_insert_ne hk]
    exact h

/-- A proper call destroys no VM but the one under the helper's id. -/
theorem proper_destroyed {a : Api} (hp : Proper c h (.api a)) {r : Except ApiError (Answer a)}
    (ho : ApiOutcome a w r w') {region : String} {vmid : ℤ} (hd : Destroyed w w' region vmid) :
    region = c.vol.region ∧ vmid = c.helper ∧ Entitled c h := by
  obtain ⟨hb,hn⟩ := hd
  have hkept : ¬(w'.vms.lookup (region,vmid)).isSome := by
    rw [hn]
    exact Bool.false_ne_true
  by_cases ha : Api.keepsVMs a
  · exact absurd (outcome_keepsVMs ha ho ▸ hb) hkept
  · cases a <;> first | exact absurd rfl ha | skip
    case createVM =>
      rcases outcome_cases (by simp) ho with rfl | ⟨u,hs⟩
      · exact absurd hb hkept
      · simp only [serve] at hs
        split at hs <;> cases hs
        exact absurd (lookup_insert_isSome hb) hkept
    case attachSlot =>
      rcases outcome_cases (by simp) ho with rfl | ⟨u,hs⟩
      · exact absurd hb hkept
      · obtain ⟨vm,_,_,rfl⟩ := serve_attachSlot hs
        exact absurd (lookup_insert_isSome hb) hkept
    case moveDisk =>
      rcases outcome_cases (by simp) ho with rfl | ⟨u,hs⟩
      · exact absurd hb hkept
      · obtain ⟨vm,d,name,_,_,_,rfl⟩ := serve_moveDisk hs
        exact absurd (lookup_insert_isSome hb) hkept
    case deleteVM =>
      obtain ⟨rfl,rfl,he⟩ := hp
      rcases outcome_cases (by simp) ho with rfl | ⟨u,hs⟩
      · exact absurd hb hkept
      · simp only [serve] at hs
        split at hs <;> cases hs
        by_cases hk : (region,vmid) = (c.vol.region,c.helper)
        · cases hk
          exact ⟨rfl,rfl,he⟩
        · exact absurd ((AList.lookup_erase_ne hk).symm ▸ hb) hkept

theorem insert_free_keeps {t : Table DiskKey (Disk C)} {k k' : DiskKey} {d : Disk C}
    (hn : t.lookup k' = none) (hk : (t.lookup k).isSome) : (t.insert k' d).lookup k = t.lookup k := by
  refine AList.lookup_insert_ne ?_
  rintro rfl
  rw [hn] at hk
  cases hk

theorem copyContent_keeps {e : CopyEndpoint} {source target : Volume} {r : Except ApiError Unit}
    (ho : ApiOutcome (.copyContent e source node target) w r w') {k : DiskKey}
    (hk : (w.disks.lookup k).isSome) : w'.disks.lookup k = w.disks.lookup k := by
  have hserve : (serve w (.copyContent e source node target)).2.disks.lookup k =
      w.disks.lookup k := by
    cases hs : serve w (.copyContent e source node target) with
    | mk r₁ w₁ =>
      cases r₁ with
      | error x => rw [← serve_error w (.copyContent e source node target) (e := x) (by rw [hs]), hs]
      | ok u =>
        obtain ⟨d,_,hn,rfl⟩ := serve_copyContent hs
        exact insert_free_keeps hn hk
  cases ho with
  | served => exact hserve
  | failed => rfl
  | lost => exact hserve
  | truncated e s t n w d x hx hst hn => exact insert_free_keeps hn hk

theorem moveDisk_keeps {region node storage : String} {vmid : ℤ} {r : Except ApiError Unit}
    (ho : ApiOutcome (.moveDisk region node vmid storage) w r w') {k : DiskKey}
    (hk : (w.disks.lookup k).isSome) : w'.disks.lookup k = w.disks.lookup k := by
  rcases outcome_cases (by simp) ho with rfl | ⟨u,hs⟩
  · rfl
  · obtain ⟨vm,d,name,_,_,hf,rfl⟩ := serve_moveDisk hs
    exact insert_free_keeps (freshDisk_spec hf).1 hk

/-- A proper call changes an existing disk only by destroying the VM that owns it. -/
theorem proper_changed {a : Api} (hp : Proper c h (.api a)) {r : Except ApiError (Answer a)}
    (ho : ApiOutcome a w r w') {k : DiskKey} (hb : (w.disks.lookup k).isSome)
    (hkept : w'.disks.lookup k ≠ w.disks.lookup k) :
    Entitled c h ∧ ∃ vm, w.vms.lookup (c.vol.region,c.helper) = some vm ∧
      k ∈ w.ownedKeys c.vol.region c.helper vm := by
  by_cases ha : Api.keepsDisks a
  · exact absurd (by rw [outcome_keepsDisks ha ho]) hkept
  · cases a <;> first | exact absurd rfl ha | skip
    case deleteContent => exact Bool.noConfusion hp
    case copyContent => exact absurd (copyContent_keeps ho hb) hkept
    case moveDisk => exact absurd (moveDisk_keeps ho hb) hkept
    case deleteVM region node vmid =>
      obtain ⟨rfl,rfl,he⟩ := hp
      rcases outcome_cases (by simp) ho with rfl | ⟨u,hs⟩
      · exact absurd rfl hkept
      · simp only [serve] at hs
        split at hs
        · cases hs
        · rename_i vm hv
          cases hs
          refine ⟨he,vm,(hosted_some hv).1,?_⟩
          by_contra hk
          exact hkept (eraseKeys_lookup hk w.disks)

end Effects

/-- What is known about the VM under the helper's id at every moment. -/
structure Owned (f : Sharing ι) (h : Log ι C) (w : World C) : Prop where
  seen : ∀ i e, (i,e) ∈ h → ∀ region vm, e.after.vms.lookup (region,f.helper) = some vm →
    vm.name = helperVMName → Made h region f.helper
  named : ∀ region vm, w.vms.lookup (region,f.helper) = some vm → vm.name = helperVMName →
    Made h region f.helper
  config : ∀ region vm, w.vms.lookup (region,f.helper) = some vm → Made h region f.helper →
    ∀ value ∈ values vm.scsi, ∀ k, w.volidKey region vm.node value = some k →
      (newVolume region vm.node "" k.2).vmid = toString f.helper → Converted h k

theorem owned_bystander (ho : Owned f h w) (hb : Bystander f.helper w w') : Owned f h w' := by
  refine ⟨ho.seen,?_,?_⟩
  · intro region vm hv hn
    exact ho.named region vm (hb.vms region vm hv) hn
  · intro region vm hv hm value hval k hk hid
    refine ho.config region vm (hb.vms region vm hv) hm value hval k ?_ hid
    rw [World.volidKey, ← hb.location]
    exact hk

theorem owned_named (ho : Owned f h w) {a : Api} {r : Except ApiError (Answer a)}
    (ht : Touched (f.run i) region a w w') {vm : VM}
    (hv : w'.vms.lookup (region,f.helper) = some vm) (hn : vm.name = helperVMName) :
    Made ((i,⟨.api a,r,w,w'⟩)::h) region f.helper := by
  rw [← f.shared i] at hv ⊢
  cases ht with
  | kept hk =>
    rw [hk, f.shared i] at hv
    exact f.shared i ▸ made_cons _ (ho.named region vm hv hn)
  | gone hg => rw [hg] at hv; cases hv
  | @made node _ _ hb ha =>
    refine ⟨i,_,node,List.mem_cons_self,rfl,hb,?_⟩
    show (w'.vms.lookup _).isSome
    rw [ha]
    rfl
  | attached hb ha =>
    rw [ha] at hv
    cases hv
    rw [f.shared i] at hb ⊢
    exact made_cons _ (ho.named region _ hb hn)
  | converted hb ha =>
    rw [ha] at hv
    cases hv
    rw [f.shared i] at hb ⊢
    exact made_cons _ (ho.named region _ hb hn)

theorem owned_config (ho : Owned f h w) {a : Api} {r : Except ApiError (Answer a)}
    (hloc : w'.location = w.location) (ht : Touched (f.run i) region a w w') {vm : VM}
    (hv : w'.vms.lookup (region,f.helper) = some vm)
    (hm : Made ((i,⟨.api a,r,w,w'⟩)::h) region f.helper) {value : String}
    (hval : value ∈ values vm.scsi) {k : DiskKey} (hk : w'.volidKey region vm.node value = some k)
    (hid : (newVolume region vm.node "" k.2).vmid = toString f.helper) :
    Converted ((i,⟨.api a,r,w,w'⟩)::h) k := by
  have hkey : w.volidKey region vm.node value = some k := by
    rw [World.volidKey, ← hloc]
    exact hk
  have hold : ∀ vm', w.vms.lookup (region,f.helper) = some vm' → vm'.node = vm.node →
      value ∈ values vm'.scsi → Converted ((i,⟨.api a,r,w,w'⟩)::h) k := by
    intro vm' hl hnode hin
    have hm' := made_of_cons hm hl
    rw [← hnode] at hkey hid
    exact converted_cons _ (ho.config region vm' hl hm' value hin k hkey hid)
  have hshared := f.shared i
  cases ht with
  | kept hkept =>
    rw [hshared] at hkept
    exact hold vm (hkept ▸ hv) rfl hval
  | gone hg =>
    rw [hshared, hv] at hg
    cases hg
  | made hb ha =>
    rw [hshared, hv] at ha
    cases ha
    obtain ⟨n,hn⟩ := mem_values.mp hval
    cases hn
  | attached hb ha hp hne =>
    rw [hshared] at hb ha hne
    rw [hv] at ha
    cases ha
    rcases values_insert hval with rfl | hin
    · obtain ⟨hs,hc,hd⟩ := count_zero_of_plain hp
      rw [Volume.volID, volidKey_plain w _ _ hs hc hd] at hkey
      cases hkey
      exact absurd ((vmid_of_disk rfl).trans hid) hne
    · exact hold _ hb rfl hin
  | @converted _ _ vm₀ name hb ha hp hf hdisk =>
    rw [hshared] at hb ha
    rw [hv] at ha
    cases ha
    rcases values_insert hval with rfl | hin
    · obtain ⟨hs,hc,_⟩ := count_zero_of_plain hp
      obtain ⟨hfree,hcomma⟩ := freshDisk_spec hf
      rw [volidKey_plain w _ _ hs hc hcomma] at hkey
      cases hkey
      exact ⟨i,_,region,_,_,_,List.mem_cons_self,rfl,hfree,hdisk⟩
    · exact hold _ hb rfl hin

theorem owned_call [DecidableEq ι] (ho : Owned f h w) {a : Api}
    (hp : Proper (f.run i) (own i h) (.api a)) {r : Except ApiError (Answer a)}
    (hout : ApiOutcome a w r w') : Owned f ((i,⟨.api a,r,w,w'⟩)::h) w' := by
  have htouch := proper_touched hp hout
  have hnamed : ∀ region vm, w'.vms.lookup (region,f.helper) = some vm → vm.name = helperVMName →
      Made ((i,⟨.api a,r,w,w'⟩)::h) region f.helper := by
    intro region vm hv hn
    exact owned_named ho (htouch region) hv hn
  refine ⟨?_,hnamed,?_⟩
  · intro j e he region vm hv hn
    rcases List.mem_cons.mp he with heq | he
    · cases heq
      exact hnamed region vm hv hn
    · exact made_cons _ (ho.seen j e he region vm hv hn)
  · intro region vm hv hm value hval k hk hid
    exact owned_config ho (outcome_location hout) (htouch region) hv hm hval hk hid

theorem proper_api {c : Conversion} {h : History Call Reply (World C)} {x : Call}
    (hp : Proper c h x) : ∃ a, x = .api a := by
  cases x with
  | api a => exact ⟨a,rfl⟩
  | _ => exact hp.elim

theorem moves_owned [DecidableEq ι] {w₀ : World C}
    (hw : ∀ region vm, w₀.vms.lookup (region,f.helper) = some vm → vm.name ≠ helperVMName)
    {s : System ι Call Reply (World C) (Except GoError Unit)}
    (hr : Moves (shared f.helper) (f.start w₀) s) : Owned f s.hist s.world := by
  induction hr with
  | refl =>
    refine ⟨?_,?_,?_⟩
    · intro i e he
      cases he
    · intro region vm hv hn
      exact absurd hn (hw region vm hv)
    · rintro region vm hv ⟨i,e,node,he,_⟩
      cases he
  | tail hr hs ih =>
    cases hs with
    | outside hb => exact owned_bystander ih hb
    | call i hp ho =>
      have hproper := moves_proper hr hp ho
      obtain ⟨a,rfl⟩ := proper_api hproper
      cases ho with
      | api ho => exact owned_call ih hproper ho

theorem entitled_made [DecidableEq ι] {w : World C} (ho : Owned f h w)
    (he : Entitled (f.run i) (own i h)) : Made h (f.run i).vol.region f.helper := by
  obtain ⟨e,hm,vm,hv,hn⟩ := he
  rw [f.shared i] at hv
  exact ho.seen i e (mem_own.mp hm) _ vm hv hn

theorem ownedKeys_spec {w : World C} {vmid : ℤ} {vm : VM} {k : DiskKey}
    (h : k ∈ w.ownedKeys region vmid vm) : ∃ value ∈ values vm.scsi,
      w.volidKey region vm.node value = some k ∧
        (newVolume region vm.node "" k.2).vmid = toString vmid := by
  obtain ⟨value,hval,hf⟩ := List.mem_filterMap.mp h
  obtain ⟨hk,hid⟩ := Option.filter_eq_some_iff.mp hf
  exact ⟨value,hval,hk,of_decide_eq_true hid⟩

/-- Only VMs made by `CreateHelperVM` are destroyed, and only copies made by
`move_disk` are freed; a volume that is not named for the helper, and its
target, are never among them. -/
theorem helper_cleanup_harmless [DecidableEq ι] (f : Sharing ι) {w₀ : World C}
    (hw : ∀ region vm, w₀.vms.lookup (region,f.helper) = some vm → vm.name ≠ helperVMName)
    {s : System ι Call Reply (World C) (Except GoError Unit)}
    (hr : Moves (shared f.helper) (f.start w₀) s) {i : ι} {x : Call}
    {next : Reply x → Act (Except GoError Unit)} (hp : s.procs i = .call x next) {r : Reply x}
    {w' : World C} (ho : CallOutcome x s.world r w') :
    (∀ region vmid, Destroyed s.world w' region vmid → Made s.hist region vmid) ∧
    ∀ k, Freed s.world w' k → Converted s.hist k ∧
      ∀ j, (f.run j).vol.vmid ≠ toString f.helper → k ≠ s.world.key (f.run j).vol ∧
        k ≠ s.world.keyOn (f.run j).targetVol (f.run j).targetNode := by
  have howned := moves_owned hw hr
  have hproper := moves_proper hr hp ho
  obtain ⟨a,rfl⟩ := proper_api hproper
  cases ho with
  | api ho =>
    refine ⟨?_,?_⟩
    · intro region vmid hd
      obtain ⟨rfl,rfl,he⟩ := proper_destroyed hproper ho hd
      rw [f.shared i]
      exact entitled_made howned he
    · intro k hf
      have hne : w'.disks.lookup k ≠ s.world.disks.lookup k := by
        intro heq
        have hb := hf.1
        rw [← heq, hf.2] at hb
        cases hb
      obtain ⟨he,vm,hv,hk⟩ := proper_changed hproper ho hf.1 hne
      obtain ⟨value,hval,hkey,hid⟩ := ownedKeys_spec hk
      rw [f.shared i] at hv hid
      refine ⟨howned.config _ vm hv (entitled_made howned he) value hval k hkey hid,?_⟩
      intro j hj
      constructor
      · rintro rfl
        exact hj ((vmid_of_disk rfl).trans hid)
      · rintro rfl
        rw [← targetVol_vmid] at hj
        exact hj ((vmid_of_disk rfl).trans hid)

def beforeDiscard : System Bool Call Reply (World ℕ) (Except GoError Unit) :=
  play served [false,false,false,false,false,false] (sampleSharing.start sampleDisks)

theorem sample_cleanup_frees_copy : ∃ w' k, Freed beforeDiscard.world w' k ∧
    Made beforeDiscard.hist "r" 9998 ∧ Converted beforeDiscard.hist k := by
  have hwait : waiting (beforeDiscard.procs false) := by decide +kernel
  obtain ⟨x,next,hp⟩ := waiting_call hwait
  have hr : Moves (shared sampleSharing.helper) (sampleSharing.start sampleDisks) beforeDiscard :=
    play_moves served served_outcome _ _
  have hw : ∀ region vm, sampleDisks.vms.lookup (region,sampleSharing.helper) = some vm →
      vm.name ≠ helperVMName := by
    intro region vm hv
    cases hv
  have hharm := helper_cleanup_harmless sampleSharing hw hr hp (served_outcome x _)
  have hnext : (served x beforeDiscard.world).2 = (play served [false] beforeDiscard).world := by
    rw [play_single served hp]
    rfl
  rw [hnext] at hharm
  have hfreed : Freed beforeDiscard.world (play served [false] beforeDiscard).world
      (1,"9998/vm-9998-disk-0.raw") := ⟨by decide +kernel,by decide +kernel⟩
  have hdestroyed : Destroyed beforeDiscard.world (play served [false] beforeDiscard).world
      "r" 9998 := ⟨by decide +kernel,by
    apply Option.not_isSome_iff_eq_none.mp
    decide +kernel⟩
  exact ⟨_,_,hfreed,hharm.1 "r" 9998 hdestroyed,(hharm.2 _ hfreed).1⟩

end ProxmoxCSI.HelperCleanup
