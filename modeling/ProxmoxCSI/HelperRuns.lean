import ProxmoxCSI.CallSystem
import ProxmoxCSI.HelperConversion

/-!
# Conversions that share one helper VM id

Any number of conversions run side by side on one helper id. Whatever the
others do, a conversion calls the cluster only in the ways listed by `Proper`:
it names the helper and its own volume, it converts after a volid without
further separators was attached, and it deletes a VM only after it has seen a
VM of the helper's name under the id.
-/

set_option autoImplicit false

namespace ProxmoxCSI.HelperRuns
open CallProgram CallProgram.Prog CallSafety CallErrors CallTriples CallSystem TextScan VolumeHandle
open ClusterState ClusterService MigratorCalls MigrateProgram MigratorRules HelperConversion

variable {C : Type}

/-- One call of `convertAndMove`, with the target `Migrate` plans for the disk. -/
structure Conversion where
  migrator : Migrator
  vol : Volume
  targetVol : Volume
  targetNode : String
  named : targetVol.disk = targetDiskName vol.disk

namespace Conversion

def helper (c : Conversion) : ℤ := helperVMIDOf c.migrator

def prog (c : Conversion) : Act (Except GoError Unit) :=
  (convertAndMove c.migrator c.vol c.targetVol c.targetNode).run

end Conversion

theorem targetVol_vmid (c : Conversion) : c.targetVol.vmid = c.vol.vmid :=
  targetDiskName_vmid c.vol c.targetVol c.named

/-- Conversions of any volumes, in any clusters, with one helper id. -/
structure Sharing (ι : Type) where
  run : ι → Conversion
  helper : ℤ
  shared : ∀ i, (run i).helper = helper

def Sharing.start {ι : Type} (f : Sharing ι) (w : World C) :
    System ι Call Reply (World C) (Except GoError Unit) := ⟨[],w,fun i => (f.run i).prog⟩

def Entitled (c : Conversion) (h : History Call Reply (World C)) : Prop :=
  ∃ e ∈ h, ∃ vm, e.after.vms.lookup (c.vol.region,c.helper) = some vm ∧ vm.name = helperVMName

def Proper (c : Conversion) (h : History Call Reply (World C)) : Call → Prop
  | .api (.createVM region _ vmid name) =>
      region = c.vol.region ∧ vmid = c.helper ∧ name = helperVMName
  | .api (.deleteVM region _ vmid) => region = c.vol.region ∧ vmid = c.helper ∧ Entitled c h
  | .api (.attachSlot region _ vmid volid) => region = c.vol.region ∧ vmid = c.helper ∧
      volid = c.vol.volID ∧ c.vol.vmid ≠ toString c.helper
  | .api (.moveDisk region _ vmid storage) => region = c.vol.region ∧ vmid = c.helper ∧
      storage = c.vol.storage ∧ plainVolid c.vol.volID
  | .api (.copyContent _ _ _ _) => True
  | .api a => Api.readOnly a
  | _ => False

def Sound (c : Conversion) : History Call Reply (World C) → Prop
  | [] => True
  | e::h => Proper c h e.call ∧ Sound c h

theorem entitled_cons {c : Conversion} {h : History Call Reply (World C)}
    {e : Event Call Reply (World C)} (he : Entitled c h) : Entitled c (e::h) := by
  obtain ⟨x,hx,hv⟩ := he
  exact ⟨x,List.mem_cons_of_mem e hx,hv⟩

theorem guests_lookup {w : World C} {region : String} {g : GuestEntry} (h : g ∈ w.guests region) :
    ∃ vm, w.vms.lookup (region,g.vmid) = some vm ∧ vm.name = g.name := by
  obtain ⟨e,he,rfl⟩ := List.mem_map.mp h
  obtain ⟨hm,hk⟩ := List.mem_filter.mp he
  have hr : e.1.1 = region := of_decide_eq_true hk
  subst hr
  exact ⟨e.2,AList.mem_lookup_iff.mpr hm,rfl⟩

abbrev anyone : Service Call Reply (World C) := cluster (fun _ _ _ => True)

abbrev sound (c : Conversion) : Assertion Call Reply (World C) := fun h _ => Sound c h

abbrev entitled (c : Conversion) : Assertion Call Reply (World C) :=
  fun h _ => Sound c h ∧ Entitled c h

theorem steady_history {I : Assertion Call Reply (World C)}
    {P : History Call Reply (World C) → Prop} (hI : ∀ h w, P h → I h w) :
    Steady anyone I (fun h _ => P h) := ⟨fun _ _ _ _ hp => hp,hI⟩

theorem steady_sound (c : Conversion) : Steady anyone (sound c) (sound (C := C) c) :=
  steady_history (fun _ _ hp => hp)

theorem steady_entitled (c : Conversion) : Steady anyone (entitled c) (entitled (C := C) c) :=
  steady_history (fun _ _ hp => hp)

theorem findVMNode_triple (c : Conversion) :
    Triple anyone (sound c) (sound (C := C) c) (findVMNode c.vol.region c.helper)
      (fun stale h _ => Sound c h ∧ ∀ vm, stale = some vm → vm.2 = helperVMName → Entitled c h) := by
  have hlist : Triple anyone (sound c) (sound (C := C) c)
      (need (.listVMs c.vol.region) (apiError "failed to list cluster resources: "))
      (fun guests h _ => Sound c h ∧ ∀ g ∈ guests, g.vmid = c.helper → g.name = helperVMName →
        Entitled c h) := by
    refine triple_need (R := fun r h _ => Sound c h ∧ ∀ guests, r = .ok guests → ∀ g ∈ guests,
      g.vmid = c.helper → g.name = helperVMName → Entitled c h) (steady_sound c) ?_ ?_ |>
      fun ht => triple_mono ht (fun _ _ hp => hp) (fun guests h w hp => ⟨hp.1,hp.2 guests rfl⟩)
    · intro r
      exact steady_history (fun _ _ hp => hp.1)
    · intro h w r w' hs ho
      refine ⟨⟨rfl,hs⟩,?_⟩
      rintro guests rfl g hg hv hn
      have hser := outcome_ok (by simp) ho
      cases hser
      obtain ⟨vm,hl,hname⟩ := guests_lookup hg
      rw [hv] at hl
      exact ⟨_,List.mem_cons_self,vm,hl,hname.trans hn⟩
  refine triple_bind hlist ?_
  intro guests
  refine triple_pure (steady_history (fun _ _ hp => hp.1)) ?_
  intro h w hp
  refine ⟨hp.1,?_⟩
  intro vm hvm hn
  obtain ⟨g,hg,rfl⟩ := Option.map_eq_some_iff.mp hvm
  have hq := List.find?_some hg
  simp only [decide_eq_true_eq] at hq
  exact hp.2 g (List.mem_of_find?_eq_some hg) hq.2 hn

theorem deleteVM_triple (c : Conversion) (node : String) :
    Triple anyone (sound c) (entitled (C := C) c) (deleteVM c.vol.region node c.helper)
      (fun _ => entitled c) := by
  refine triple_need (R := fun _ => entitled c) (steady_history (fun _ _ hp => hp.1))
    (fun _ => steady_history (fun _ _ hp => hp.1)) ?_
  intro h w r w' hp _
  exact ⟨⟨⟨rfl,rfl,hp.2⟩,hp.1⟩,entitled_cons hp.2⟩

theorem removeStaleHelper_triple (c : Conversion) (stale : Option (String × String)) :
    Triple anyone (sound c)
      (fun h _ => Sound c h ∧ ∀ vm, stale = some vm → vm.2 = helperVMName → Entitled (C := C) c h)
      (removeStaleHelper c.vol.region c.helper stale) (fun _ => sound c) := by
  cases stale with
  | none => exact triple_pure (steady_history (fun _ _ hp => hp.1)) (fun _ _ hp => hp.1)
  | some vm =>
    refine triple_bind (triple_require (steady_history (fun _ _ hp => hp.1))) ?_
    intro _
    refine triple_mono (triple_relabel (deleteVM_triple c vm.1)) ?_ (fun _ _ _ hp => hp.1)
    rintro h w ⟨⟨hs,he⟩,hn⟩
    exact ⟨hs,he vm rfl hn⟩

theorem createHelperVM_triple (c : Conversion) (node : String) :
    Triple anyone (sound c) (sound (C := C) c) (createHelperVM c.vol.region node c.helper)
      (fun _ => entitled c) := by
  refine triple_mono (triple_need (R := fun r h _ => Sound c h ∧ (r = .ok () → Entitled c h))
    (steady_sound c) (fun _ => steady_history (fun _ _ hp => hp.1)) ?_) (fun _ _ hp => hp)
    (fun _ _ _ hp => ⟨hp.1,hp.2 rfl⟩)
  · intro h w r w' hs ho
    refine ⟨⟨⟨rfl,rfl,rfl⟩,hs⟩,?_⟩
    rintro rfl
    obtain ⟨hv,_,_⟩ := serve_createVM (outcome_ok (by simp) ho)
    exact ⟨_,List.mem_cons_self,_,(Option.filter_eq_some_iff.mp hv).1,rfl⟩

theorem attachDisk_triple (c : Conversion) (node : String) (hv : c.vol.vmid ≠ toString c.helper) :
    Triple anyone (entitled c) (entitled (C := C) c)
      (attachDisk c.vol.region node c.helper c.vol.volID)
      (fun _ h w => entitled c h w ∧ plainVolid c.vol.volID) := by
  refine triple_mono (triple_need
    (R := fun r h _ => (Sound c h ∧ Entitled c h) ∧ (r = .ok () → plainVolid c.vol.volID))
    (steady_entitled c) (fun _ => steady_history (fun _ _ hp => hp.1)) ?_) (fun _ _ hp => hp)
    (fun _ _ _ hp => ⟨hp.1,hp.2 rfl⟩)
  · intro h w r w' hp ho
    refine ⟨⟨⟨⟨rfl,rfl,rfl,hv⟩,hp.1⟩,entitled_cons hp.2⟩,?_⟩
    rintro rfl
    obtain ⟨_,_,hplain,_⟩ := serve_attachSlot (outcome_ok (by simp) ho)
    exact hplain

def Converts (c : Conversion) : Call → Prop
  | .api (.moveDisk region _ vmid storage) =>
      region = c.vol.region ∧ vmid = c.helper ∧ storage = c.vol.storage
  | .api (.copyContent _ _ _ _) => True
  | .api (.slotConfig _ _ _) => True
  | _ => False

theorem converts_proper {c : Conversion} {x : Call} (hx : Converts c x)
    (hp : plainVolid c.vol.volID) (h : History Call Reply (World C)) : Proper c h x := by
  cases x with
  | api a =>
    cases a <;> first
      | exact hx.elim
      | trivial
      | exact rfl
      | exact ⟨hx.1,hx.2.1,hx.2.2,hp⟩
  | _ => exact hx.elim

theorem convertDiskToRaw_converts (c : Conversion) (node : String) :
    (convertDiskToRaw c.vol.region node c.helper c.vol.storage).run.Uses (Converts c) := by
  refine uses_try_bind (uses_need ⟨rfl,rfl,rfl⟩) ?_
  intro _
  refine uses_try_bind (uses_need trivial) ?_
  intro scsi0
  exact uses_try_bind uses_require (fun _ => trivial)

theorem moveConverted_converts (c : Conversion) (m : Migrator) (vol targetVol : Volume)
    (node volid : String) : (moveConverted m vol targetVol node volid).run.Uses (Converts c) := by
  unfold moveConverted
  split
  · trivial
  · exact uses_need trivial

theorem convertOnHelper_triple (c : Conversion) (hv : c.vol.vmid ≠ toString c.helper) :
    Triple anyone (entitled c) (entitled (C := C) c)
      (convertOnHelper c.migrator c.vol c.targetVol c.targetNode c.helper)
      (fun _ _ _ => True) := by
  refine triple_bind (attachDisk_triple c c.vol.node hv) ?_
  intro _
  refine triple_fact ?_
  intro hplain
  have hcall : ∀ x h (w : World C) r w', Converts c x → (anyone (C := C)).outcome x w r w' →
      entitled c h w → entitled c (⟨x,r,w,w'⟩::h) w' := by
    intro x h w r w' hx _ hp
    exact ⟨⟨converts_proper hx hplain h,hp.1⟩,entitled_cons hp.2⟩
  refine triple_mono (triple_uses (steady_entitled c) hcall ?_) (fun _ _ hp => hp)
    (fun _ _ _ _ => trivial)
  refine uses_try_bind (convertDiskToRaw_converts c _) ?_
  intro rawVolid
  exact moveConverted_converts c _ _ _ _ _

theorem discardHelper_safe (c : Conversion) (node : String) {h : History Call Reply (World C)}
    {w : World C} (hp : entitled c h w) :
    Safe anyone (sound c) (fun _ _ _ => True) (discardHelper c.vol.region node c.helper) h w := by
  refine safe_bind (deleteVM_triple c node h w hp) ?_
  intro r h₁ w₁ hs w₂ hi
  exact ⟨(hs w₂ hi).1,trivial⟩

theorem convertAndMove_triple (c : Conversion) :
    Triple anyone (sound c) (sound (C := C) c)
      (convertAndMove c.migrator c.vol c.targetVol c.targetNode) (fun _ _ _ => True) := by
  refine triple_bind (triple_require (steady_sound c)) ?_
  intro _
  refine triple_fact ?_
  intro hv
  refine triple_bind (findVMNode_triple c) ?_
  intro stale
  refine triple_bind (removeStaleHelper_triple c stale) ?_
  intro _
  refine triple_bind (createHelperVM_triple c c.vol.node) ?_
  intro _
  exact triple_deferred (convertOnHelper_triple c (Ne.symm hv)) (fun _ _ hp => hp.1)
    (fun _ _ hp => discardHelper_safe c c.vol.node hp)

/-- A conversion calls the cluster only in the proper ways, in every system. -/
theorem moves_proper {ι : Type} [DecidableEq ι] {f : Sharing ι} {outside : World C → World C → Prop}
    {w₀ : World C} {s : System ι Call Reply (World C) (Except GoError Unit)}
    (hr : Moves ⟨CallOutcome,outside⟩ (f.start w₀) s) {i : ι} {x : Call}
    {next : Reply x → Act (Except GoError Unit)} (hp : s.procs i = .call x next) {r : Reply x}
    {w' : World C} (ho : CallOutcome x s.world r w') : Proper (f.run i) (own i s.hist) x := by
  have hruns := moves_runs i hr
  rw [hp] at hruns
  have hstep := hruns.tail (.call ho)
  have hstart : sound (f.run i) [] w₀ := trivial
  have hsound := triple_invariant (convertAndMove_triple (f.run i)) hstart hstep
  exact hsound.1

section Samples

def sampleConversion (b : Bool) : Conversion where
  migrator := sampleMigrator
  vol := newVolume "r" "n1" "data" (if b then "100/vm-100-b.qcow2" else "100/vm-100-a.qcow2")
  targetVol := newVolume "r" "n2" "data" (if b then "100/vm-100-b.raw" else "100/vm-100-a.raw")
  targetNode := "n2"
  named := by cases b <;> decide +kernel

def sampleSharing : Sharing Bool := ⟨sampleConversion,defaultHelperVMID,fun _ => rfl⟩

def sampleDisks : World ℕ :=
  { (World.empty : World ℕ) with
    location := fun _ node _ => if node = "n1" then 1 else 2
    disks := tableOf [((1,"100/vm-100-a.qcow2"),⟨10,7,1⟩),((1,"100/vm-100-b.qcow2"),⟨10,8,1⟩)] }

def served (c : Call) (w : World C) : Reply c × World C := (faulty []).answer 0 c w

theorem served_outcome (c : Call) (w : World C) :
    CallOutcome c w (served c w).1 (served c w).2 := by
  have h : CallSchedule.Lawful (anyone (C := C)) (faulty []) := faulty_lawful []
  exact h.answer 0 c w

end Samples

end ProxmoxCSI.HelperRuns
