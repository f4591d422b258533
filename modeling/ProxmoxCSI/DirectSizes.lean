import ProxmoxCSI.ChunkRounding
import ProxmoxCSI.DirectTracks

/-!
# The size of a volume in direct mode

The controller reports the size that was asked for and takes a disk as it finds
it. The response carries a size to grow to when the disk is smaller and has a
source; the attach grows the disk to the size it is handed.
-/

set_option autoImplicit false

namespace ProxmoxCSI.DirectSizes
open CallProgram CallProgram.Prog CallSafety CallErrors CallTracks TextScan VolumeHandle ClusterState
open DirectCalls DirectVolumes DirectTracks DirectLookup ChunkRounding
open VolumeReconciler (mib)
open CallSchedule (Finished finish finish_runs)

variable {C : Type} {fit : Event DirectCall DirectReply (Site C) → Prop} {h : Past C}

theorem parseOptional_yields {o : Option String} :
    Yields fit (fun v _ => v.isSome = o.isSome) (parseOptional o) h := by
  cases o with
  | none => exact tracks_pure rfl
  | some id =>
    refine tracks_bind (yields_any _) ?_
    intro v h _
    exact tracks_pure rfl

theorem parseSources_yields {req : CreateVolumeRequest} :
    Yields fit (fun v _ => v.isSome = (sourceHandle req).isSome) (parseSources req) h := by
  refine tracks_bind parseOptional_yields ?_
  intro vol h hv
  refine tracks_bind parseOptional_yields ?_
  intro snapshot h hs
  refine tracks_pure ?_
  unfold sourceHandle
  rw [Option.isSome_or, Option.isSome_or, hs, hv]

theorem checkSource_yields {d : Controller} {region : String} {source : Option Volume} :
    Yields fit (fun v _ => v.isSome = source.isSome) (checkSource d region source) h := by
  cases source with
  | none => exact tracks_pure rfl
  | some src =>
    refine tracks_require ?_
    intro _
    refine tracks_bind (yields_any _) ?_
    intro a h _
    exact tracks_pure rfl

def Planned (req : CreateVolumeRequest) (p : VolumePlan) : Prop :=
  p.volSizeBytes = requestedBytes req ∧ p.srcVol.isSome = (sourceHandle req).isSome

theorem planVolume_yields {d : Controller} {req : CreateVolumeRequest} :
    Yields fit (fun p _ => Planned req p) (planVolume d req) h := by
  refine tracks_require ?_
  intro _
  refine tracks_require ?_
  intro _
  split
  · exact tracks_throw
  · exact tracks_throw
  · refine tracks_require ?_
    intro _
    refine tracks_require ?_
    intro _
    refine tracks_bind parseSources_yields ?_
    intro source h hs
    refine tracks_bind checkSource_yields ?_
    intro srcVol h hv
    refine tracks_bind (yields_any _) ?_
    intro _ h _
    refine tracks_bind (yields_any _) ?_
    intro zone h _
    refine tracks_bind (yields_any _) ?_
    intro r h _
    refine tracks_bind (yields_any _) ?_
    intro topology h _
    refine tracks_bind (yields_any _) ?_
    intro id h _
    exact tracks_pure ⟨rfl,hv.trans hs⟩

theorem sizeAfterCreation_lists {polls : ℕ} {vol : Volume} :
    Yields fit (Listed vol vol.disk) (sizeAfterCreation polls vol) h := by
  refine tracks_relabel (tracks_rounds ?_ ?_ polls () h)
  · exact fun _ _ => tracks_throw
  · intro again hagain _ h
    refine tracks_bind (Q := fun r h => ∀ size, r = .ok size → Listed vol vol.disk size h) ?_ ?_
    · refine tracks_observed (follows_mono getVolumeSize_lists ?_)
      intro r h hr size hs
      subst hs
      exact hr
    · intro r h hr
      cases r with
      | ok size => exact tracks_pure (hr size rfl)
      | error e =>
        show Tracks _ _ _ (ite _ _ _) _
        split
        · exact hagain () h
        · exact tracks_throw

theorem ensureDisk_lists {d : Controller} {p : VolumePlan} :
    Yields fit (fun a => Listed a.2 a.2.disk a.1) (ensureDisk d p) h := by
  refine tracks_bind (Q := fun r h => ∀ size, r = .ok size → Listed p.vol p.vol.disk size h) ?_ ?_
  · refine tracks_observed (follows_mono getVolumeSize_lists ?_)
    intro r h hr size hs
    subst hs
    exact hr
  · intro r h hr
    cases r with
    | ok size => exact tracks_pure (hr size rfl)
    | error e =>
      show Tracks _ _ _ (ite _ _ _) _
      split
      · exact tracks_throw
      · refine tracks_bind (yields_any _) ?_
        intro vol h _
        refine tracks_bind sizeAfterCreation_lists ?_
        intro size h hs
        exact tracks_pure hs

def Created (req : CreateVolumeRequest) (res : CreatedVolume) (size : ℤ) (h : Past C) : Prop :=
  Listed res.disk res.disk.disk size h ∧ res.capacityBytes = requestedBytes req ∧
    res.resize = if size < res.capacityBytes ∧ (sourceHandle req).isSome then
      some res.capacityBytes else none

theorem createVolume_yields {d : Controller} {req : CreateVolumeRequest} :
    Yields fit (fun res h => ∃ size, Created req res size h) (createVolume d req) h := by
  refine tracks_bind planVolume_yields ?_
  intro p h hp
  refine tracks_bind ensureDisk_lists ?_
  rintro ⟨size,vol⟩ h hl
  refine tracks_require ?_
  intro _
  refine tracks_bind (yields_after listed_cons _ hl) ?_
  intro _ h hl
  refine tracks_pure ⟨size,hl,hp.1,?_⟩
  show (if size < p.volSizeBytes ∧ p.srcVol.isSome then some p.volSizeBytes else none) = _
  rw [hp.2]
  rfl

section Samples

def publishController : Controller := controllerWith false

def publishHandle : String := "r/n1/data/vm-9999-pvc-a"

def publishVolume : Volume := newVolume "r" "n1" "data" "vm-9999-pvc-a"

def gib : ℤ := 1024*mib

def parameters : StorageParameters := ⟨"data","raw",false,"",""⟩

def sampleRequest (source : Option String) : CreateVolumeRequest where
  name := "pvc-a"
  capabilities := true
  parameters := .ok parameters
  mutableParameters := .ok ∅
  requiredBytes := some (10*gib)
  region := "r"
  zone := "n1"
  sourceVolume := source
  sourceSnapshot := none

def sampleSite (disk : String) : Site Unit := siteWith "lvmthin" disk ⟨gib,()⟩ ()

def creation (source : Option String) (disk : String) : Finished DirectCall DirectReply (Site Unit)
    (Except RpcError CreatedVolume) :=
  finish DirectLookup.served (createVolume publishController (sampleRequest source)).run []
    (sampleSite disk)

def reported (r : Except RpcError CreatedVolume) : Option (String × ℤ × Option ℤ) :=
  r.toOption.map (fun res => (res.volumeID,res.capacityBytes,res.resize))

theorem creation_runs (source : Option String) (disk : String) {x : String × ℤ × Option ℤ}
    (hx : reported (creation source disk).value = some x) :
    ∃ res : CreatedVolume, (res.volumeID,res.capacityBytes,res.resize) = x ∧
      Runs alone ⟨[],sampleSite disk,(createVolume publishController (sampleRequest source)).run⟩
        ⟨(creation source disk).hist,(creation source disk).world,.done (.ok res)⟩ := by
  have hr := finish_runs served_lawful
    (createVolume publishController (sampleRequest source)).run [] (sampleSite disk)
  cases hv : (creation source disk).value with
  | error e =>
    rw [hv] at hx
    cases hx
  | ok res =>
    rw [hv] at hx
    refine ⟨res,Option.some.inj hx,?_⟩
    rw [← hv]
    exact hr

end Samples

end ProxmoxCSI.DirectSizes
