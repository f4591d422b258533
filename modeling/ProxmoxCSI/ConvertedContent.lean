import ProxmoxCSI.HelperCleanup
import ProxmoxCSI.CopyFreshness

/-!
# What a shared helper VM writes to the target

Conversions on one helper id share a VM and its slot, and the migrator does not
lock them out from each other. A conversion whose helper VM is left alone from
its creation up to the copy hands the content of its own source to its target;
one whose VM is replaced in between hands over what the slot names then.
-/

set_option autoImplicit false

namespace ProxmoxCSI.ConvertedContent
open CallProgram CallProgram.Prog CallSafety CallErrors CallSystem VolumeHandle ClusterState
open ClusterService MigratorCalls MigrateProgram MigratorRules HelperConversion HelperRuns
open HelperCleanup CopyFreshness

variable {C ι : Type} [DecidableEq ι]

structure Still (w w' : World C) : Prop where
  vms : w'.vms = w.vms
  location : w'.location = w.location
  disks : ∀ k d, w.disks.lookup k = some d → w'.disks.lookup k = some d

/-- Other parties leave the VMs and the existing disks alone. -/
def shared : Shared Call Reply (World C) := ⟨CallOutcome,Still⟩

def CreatesHelper : Event Call Reply (World C) → Prop
  | ⟨.api (.createVM _ _ _ _),.ok _,_,_⟩ => True
  | _ => False

def InWindow (h : History Call Reply (World C)) : Prop :=
  (∃ e ∈ h, CreatesHelper e) ∧ ∀ e ∈ h, ¬CopyCall e.call

/-- The helper VM of the conversion's region stays as it is, and so do the disks of
its name on the storage of the source. The latter can go without the former only
through the helper VM of another region on a storage that both regions share. -/
structure Spares (c : Conversion) (w w' : World C) : Prop where
  vm : w'.vms.lookup (c.vol.region,c.helper) = w.vms.lookup (c.vol.region,c.helper)
  copies : ∀ (v : Volume) d, v.vmid = toString c.helper →
    w.disks.lookup (w.location c.vol.region c.vol.node c.vol.storage,v.disk) = some d →
    w'.disks.lookup (w.location c.vol.region c.vol.node c.vol.storage,v.disk) = some d

def Exclusive (f : Sharing ι) (s s' : System ι Call Reply (World C) (Except GoError Unit)) : Prop :=
  ∀ i j e, s'.hist = (j,e)::s.hist → j ≠ i → InWindow (own i s.hist) →
    Spares (f.run i) e.before e.after

/-- Disks that are not named for the helper stay. -/
structure Keeps (helper : ℤ) (w w' : World C) : Prop where
  location : w'.location = w.location
  disks : ∀ (v : Volume) (loc : ℕ) d, v.vmid ≠ toString helper →
    w.disks.lookup (loc,v.disk) = some d → w'.disks.lookup (loc,v.disk) = some d

variable {w w' : World C}

theorem keeps_twin {helper : ℤ} (hk : Keeps helper w w') {vol targetVol : Volume} {node : String}
    (hv : vol.vmid ≠ toString helper) (ht : targetVol.vmid ≠ toString helper)
    (h : Twin w vol targetVol node) : Twin w' vol targetVol node := by
  obtain ⟨d,hs,htar⟩ := h
  refine ⟨d,?_,?_⟩
  · rw [World.key, hk.location]
    exact hk.disks vol _ d hv hs
  · rw [World.keyOn, hk.location]
    exact hk.disks targetVol _ d ht htar

theorem still_keeps {helper : ℤ} (h : Still w w') : Keeps helper w w' :=
  ⟨h.location,fun _ _ d _ hd => h.disks _ d hd⟩

theorem still_quiet (vol : Volume) (vmid : ℤ) (h : Still w w') : Quiet vol vmid w w' :=
  ⟨by rw [h.vms],h.location,fun _ d hd => h.disks _ d hd⟩

theorem spares_quiet {c : Conversion} (hk : Keeps c.helper w w') (hs : Spares c w w') :
    Quiet c.vol c.helper w w' := by
  refine ⟨hs.vm,hk.location,fun name d hd => ?_⟩
  by_cases hv : (newVolume c.vol.region c.vol.zone c.vol.storage name).vmid = toString c.helper
  · exact hs.copies _ d hv hd
  · exact hk.disks _ _ d hv hd

theorem proper_keeps {c : Conversion} {h : History Call Reply (World C)} {a : Api}
    (hp : Proper c h (.api a)) {r : Except ApiError (Answer a)} (ho : ApiOutcome a w r w') :
    Keeps c.helper w w' := by
  refine ⟨outcome_location ho,?_⟩
  intro v loc d hv hd
  have hsome : (w.disks.lookup (loc,v.disk)).isSome := by
    rw [hd]
    rfl
  by_cases hn : w'.disks.lookup (loc,v.disk) = w.disks.lookup (loc,v.disk)
  · exact hn.trans hd
  · obtain ⟨_,vm,_,hk⟩ := proper_changed hp ho hsome hn
    obtain ⟨_,_,_,hid⟩ := ownedKeys_spec hk
    exact absurd ((vmid_of_disk rfl).trans hid) hv

def around (c : Conversion) : History Call Reply (World C) → World C → World C → Prop :=
  fun h w w' => Keeps c.helper w w' ∧ (InWindow h → Quiet c.vol c.helper w w')

theorem around_undisturbed (c : Conversion) :
    Undisturbed c.vol c.helper (around (C := C) c) InWindow := by
  constructor
  · intro h w w' hwin he
    exact he.2 hwin
  · rintro h a r w w' ⟨⟨e,hm,hc⟩,hno⟩ ha
    refine ⟨⟨e,List.mem_cons_of_mem _ hm,hc⟩,?_⟩
    intro x hx
    rcases List.mem_cons.mp hx with rfl | hx
    · intro hcopy
      cases a <;> first | exact hcopy | exact ha _ _ _ _ rfl
    · exact hno x hx

theorem trace_around {f : Sharing ι} {w₀ : World C}
    {s : System ι Call Reply (World C) (Except GoError Unit)}
    (hr : Trace shared (Exclusive f) (f.start w₀) s) (i : ι) :
    Runs (cluster (around (f.run i))) ⟨[],w₀,(f.run i).prog⟩ ⟨own i s.hist,s.world,s.procs i⟩ := by
  refine trace_runs i ?_ ?_ hr
  · intro t w' _ ho _
    exact ⟨still_keeps ho,fun _ => still_quiet _ _ ho⟩
  · intro t j c next r w' hreach hj hp ho hadm
    have hproper := moves_proper (trace_moves hreach) hp ho
    obtain ⟨a,rfl⟩ := proper_api hproper
    cases ho with
    | api ho =>
      have hkeep : Keeps (f.run i).helper t.world w' :=
        (f.shared i).trans (f.shared j).symm ▸ proper_keeps hproper ho
      exact ⟨hkeep,fun hwin => spares_quiet hkeep (hadm i j _ rfl hj hwin)⟩

/-- In every run in which no call changes the helper VM that another conversion
needs in its region, a conversion that succeeds has written the content of its own source. -/
theorem converted_content_is_source (f : Sharing ι) {w₀ : World C}
    {s : System ι Call Reply (World C) (Except GoError Unit)}
    (hr : Trace shared (Exclusive f) (f.start w₀) s) {i : ι} {u : Unit}
    (hd : s.procs i = .done (.ok u)) :
    Twin s.world (f.run i).vol (f.run i).targetVol (f.run i).targetNode := by
  have hruns := trace_around hr i
  rw [hd] at hruns
  have hid := targetVol_vmid (f.run i)
  refine convertAndMove_shared (N := fun h => ∀ e ∈ h, ¬CopyCall e.call)
    (around_undisturbed (f.run i)) ?_ ?_ ?_ hid (fun _ he => absurd he List.not_mem_nil) hruns
  · intro e h he hn x hx
    rcases List.mem_cons.mp hx with rfl | hx
    · exact he
    · exact hn x hx
  · intro h host w w' hn
    refine ⟨⟨_,List.mem_cons_self,trivial⟩,?_⟩
    intro x hx
    rcases List.mem_cons.mp hx with rfl | hx
    · exact fun hc => hc
    · exact hn x hx
  · intro hv h w w' he
    exact keeps_twin he.1 hv (hid.symm ▸ hv)

def loneSharing : Sharing Unit := ⟨fun _ => sampleConversion false,defaultHelperVMID,fun _ => rfl⟩

def loneRun : System Unit Call Reply (World ℕ) (Except GoError Unit) :=
  play served (List.replicate 7 ()) (loneSharing.start sampleDisks)

theorem lone_conversion_content : succeeded (loneRun.procs ()) ∧
    Twin loneRun.world (sampleConversion false).vol (sampleConversion false).targetVol "n2" := by
  have hdone : succeeded (loneRun.procs ()) := by decide +kernel
  obtain ⟨u,hu⟩ := succeeded_done hdone
  have hr : Trace shared (Exclusive loneSharing) (loneSharing.start sampleDisks) loneRun :=
    moves_trace (fun _ _ _ _ _ _ hne => absurd rfl hne) (play_moves served served_outcome _ _)
  exact ⟨hdone,converted_content_is_source loneSharing hr hu⟩

def takenOver : System Bool Call Reply (World ℕ) (Except GoError Unit) :=
  play served [false,false,false,true,true,true,true,false,false,false,false]
    (sampleSharing.start sampleDisks)

theorem converted_content_swapped : ∃ s u, Moves shared (sampleSharing.start sampleDisks) s ∧
    s.procs false = .done (.ok u) ∧
    ¬Twin s.world (sampleConversion false).vol (sampleConversion false).targetVol "n2" := by
  have hdone : succeeded (takenOver.procs false) := by decide +kernel
  obtain ⟨u,hu⟩ := succeeded_done hdone
  refine ⟨takenOver,u,play_moves served served_outcome _ _,hu,?_⟩
  rintro ⟨d,hs,ht⟩
  have hsource : (takenOver.world.disks.lookup (takenOver.world.key
      (sampleConversion false).vol)).map Disk.content = some 7 := by decide +kernel
  have htarget : (takenOver.world.disks.lookup (takenOver.world.keyOn
      (sampleConversion false).targetVol "n2")).map Disk.content = some 8 := by decide +kernel
  rw [hs] at hsource
  rw [ht] at htarget
  rw [hsource] at htarget
  cases htarget

end ProxmoxCSI.ConvertedContent
