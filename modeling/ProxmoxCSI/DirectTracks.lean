import ProxmoxCSI.CallTracks
import ProxmoxCSI.DirectLookup

/-!
# What the controller has seen of a volume

The volume a lookup returns was listed under the name and with the size it is
returned with: by the name in its handle or, with reassignment on, by the part
of the name that no owner changes.
-/

set_option autoImplicit false

namespace ProxmoxCSI.DirectTracks
open CallProgram CallProgram.Prog CallSafety CallErrors CallTracks VolumeHandle ClusterState
open DirectCalls DirectVolumes
open DirectLookup (suffixDisk_matches)

variable {C : Type} {vol : Volume} {fit : Event DirectCall DirectReply (Site C) → Prop}

abbrev Past (C : Type) := History DirectCall DirectReply (Site C)

abbrev Yields {α : Type} (fit : Event DirectCall DirectReply (Site C) → Prop)
    (Q : α → Past C → Prop) (x : D α) (h : Past C) : Prop := Tracks fit (fun _ _ => True) Q x h

variable {h : Past C}

theorem yields_after {α : Type} {P : Past C → Prop} (hP : ∀ e h, P h → P (e::h)) (x : D α)
    (hp : P h) : Yields fit (fun _ => P) x h :=
  tracks_uses (fun _ _ _ _ => trivial) (fun e h _ hp => hP e h hp) (uses_any x.run) hp

theorem yields_any {α : Type} (x : D α) : Yields fit (fun _ _ => True) x h :=
  yields_after (fun _ _ _ => trivial) x trivial

def lists (region storage disk : String) (size : ℤ) : Event DirectCall DirectReply (Site C) → Prop
  | ⟨.storageContent region' _ storage',.ok items,_,_⟩ =>
      region' = region ∧ storage' = storage ∧ ⟨storage ++ ":" ++ disk,size⟩ ∈ items
  | _ => False

def Listed (vol : Volume) (disk : String) (size : ℤ) (h : Past C) : Prop :=
  ∃ e ∈ h, lists vol.region vol.storage disk size e

theorem listed_cons {disk : String} {size : ℤ} (e : Event DirectCall DirectReply (Site C)) (h : Past C)
    (hl : Listed vol disk size h) : Listed vol disk size (e::h) := by
  obtain ⟨x,hx,hs⟩ := hl
  exact ⟨x,List.mem_cons_of_mem e hx,hs⟩

theorem getStorageContent_lists :
    Yields fit (fun o h => ∀ c, o = some c → Listed vol vol.disk c.size h) (getStorageContent vol)
      h := by
  unfold getStorageContent
  split
  · exact tracks_throw
  · refine tracks_perform trivial ?_
    intro r w w' _
    cases r with
    | error e =>
      show Tracks _ _ _ (ite _ _ _) _
      split
      · exact tracks_throw
      · exact tracks_throw
    | ok u =>
      refine tracks_call trivial ?_
      intro r w w' _ items hr
      have hr := mapError_ok hr
      subst hr
      refine tracks_pure ?_
      intro c hc
      have hid : c.volid = vol.volID := by simpa using List.find?_some hc
      have hm := List.mem_of_find?_eq_some hc
      have hitem : (⟨vol.storage ++ ":" ++ vol.disk,c.size⟩ : ContentItem) = c := by
        rw [show vol.storage ++ ":" ++ vol.disk = c.volid from hid.symm]
      exact ⟨_,List.mem_cons_self,rfl,rfl,hitem ▸ hm⟩

theorem getVolumeSize_lists : Yields fit (Listed vol vol.disk) (getVolumeSize vol) h := by
  refine tracks_bind getStorageContent_lists ?_
  intro o h ho
  cases o with
  | none => exact tracks_throw
  | some c => exact tracks_pure (ho c rfl)

theorem findVolumeBySuffix_finds : Yields fit (fun o _ => ∀ found, o = some found →
    vol.diskSuffix ≠ "" ∧ ∃ disk, found = { vol with disk := disk } ∧ matchesSuffix vol disk)
      (findVolumeBySuffix vol) h := by
  unfold findVolumeBySuffix
  split
  · exact tracks_throw
  · rename_i hne
    refine tracks_call trivial ?_
    intro r w w' _ items _
    refine tracks_pure ?_
    intro found hf
    obtain ⟨disk,hd,rfl⟩ := Option.map_eq_some_iff.mp hf
    obtain ⟨item,_,hs⟩ := List.exists_of_findSome?_eq_some hd
    exact ⟨hne,disk,rfl,suffixDisk_matches hs⟩

def Accepts (reassign : Bool) (vol : Volume) (disk : String) : Prop :=
  disk = vol.disk ∨ reassign ∧ vol.diskSuffix ≠ "" ∧ matchesSuffix vol disk

def Resolved (reassign : Bool) (vol : Volume) (a : Volume × ℤ) (h : Past C) : Prop :=
  ∃ disk, a.1 = { vol with disk := disk } ∧ Listed vol disk a.2 h ∧ Accepts reassign vol disk

theorem resolveVolume_finds {reassign : Bool} :
    Yields fit (Resolved reassign vol) (resolveVolume vol reassign) h := by
  refine tracks_bind (Q := fun r h => ∀ size, r = .ok size → Listed vol vol.disk size h) ?_ ?_
  · refine tracks_observed (follows_mono getVolumeSize_lists ?_)
    intro r h hr size hs
    subst hs
    exact hr
  · intro r h hr
    cases r with
    | ok size => exact tracks_pure ⟨vol.disk,rfl,hr size rfl,.inl rfl⟩
    | error e =>
      show Tracks _ _ _ (ite _ _ _) _
      split
      · rename_i hsearch
        refine tracks_bind findVolumeBySuffix_finds ?_
        intro o h ho
        cases o with
        | none => exact tracks_throw
        | some found =>
          obtain ⟨hne,disk,rfl,hm⟩ := ho found rfl
          refine tracks_bind getVolumeSize_lists ?_
          intro size h hs
          exact tracks_pure ⟨disk,rfl,hs,.inr ⟨(of_decide_eq_true hsearch).1,hne,hm⟩⟩
      · exact tracks_throw

def Checked (reassign : Bool) (vol : Volume) (a : ℤ × Volume) (h : Past C) : Prop :=
  ∃ disk, a.2 = { vol with disk := disk } ∧ Listed vol disk a.1 h ∧ Accepts reassign vol disk

theorem probeNodes_finds {reassign : Bool} (nodes : List String) :
    Yields fit (Checked reassign vol) (probeNodes reassign vol nodes) h := by
  induction nodes generalizing h with
  | nil => exact tracks_throw
  | cons n nodes ih =>
    refine tracks_bind (Q := fun r h => ∀ a, r = .ok a →
      Resolved reassign { vol with node := n } a h) ?_ ?_
    · refine tracks_observed (follows_mono resolveVolume_finds ?_)
      intro r h hr a ha
      subst ha
      exact hr
    · intro r h hr
      cases r with
      | ok a =>
        obtain ⟨resolved,size⟩ := a
        obtain ⟨disk,rfl,hs,hm⟩ := hr _ rfl
        exact tracks_pure ⟨disk,rfl,hs,hm⟩
      | error e =>
        show Tracks _ _ _ (ite _ _ _) _
        split
        · exact ih
        · exact tracks_throw

theorem checkVolume_finds {d : Controller} :
    Yields fit (Checked d.reassignVolumeOnAttach vol) (checkVolume d vol) h := by
  refine tracks_bind (yields_any _) ?_
  intro _ h _
  refine tracks_bind (yields_any _) ?_
  intro _ h _
  show Tracks _ _ _ (ite _ _ _) _
  split
  · refine tracks_bind (yields_any _) ?_
    intro nodes h _
    exact probeNodes_finds nodes
  · refine tracks_bind (tracks_relabel resolveVolume_finds) ?_
    rintro ⟨resolved,size⟩ h ⟨disk,rfl,hl,hm⟩
    exact tracks_pure ⟨disk,rfl,hl,hm⟩

end ProxmoxCSI.DirectTracks
