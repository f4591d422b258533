import ProxmoxCSI.RequestFootprints
import ProxmoxCSI.VolumePasses

/-!
# Requests on volumes

What the requests of the volume API do to the records, once for all invariants:
a record is created or marked for deletion, or a ready one is found by its handle
and its spec is written with another size or with other mutable parameters.
-/

set_option autoImplicit false

namespace ProxmoxCSI.RequestPasses
open CallProgram CallProgram.Prog CallSafety CallErrors CallTriples CallSessions CallJournal
open OperatorRecords RecordWrites DiskOwners ObjectStore VolumeReconciler VolumeService
open PassRules RequestFootprints VolumePasses

/-- The record a request writes to, for this tenant. -/
structure Found (t : TenantCluster) (vol : ProxmoxVolume) (w : Ledger) : Prop where
  live : Live vol w
  ns : vol.ns = t.ns
  ready : vol.status.phase = .ready

/-- `tenant` tells for whom a task makes its request. -/
structure Discipline (ι : Type) extends Frame ι where
  tenant : ι → TenantCluster → Prop
  keyed : ∀ {j w}, Good j w → Keyed volumeKey w.volumes
  good_create : ∀ {i t req j w w'} {r : OpReply (.createVolume (newRecord t req))}, tenant i t →
    0 < req.capacityBytes → OpOutcome _ w r w' → cond ⟨i,⟨_,r,w,w'⟩⟩ j → Good j w →
      Good (⟨i,⟨_,r,w,w'⟩⟩::j) w'
  good_removal : ∀ {i c r j w w'}, removals c → OpOutcome c w r w' → cond ⟨i,⟨c,r,w,w'⟩⟩ j →
    Good j w → Good (⟨i,⟨c,r,w,w'⟩⟩::j) w'
  good_expand : ∀ {i t vol n j w w'} {r : OpReply (.update (expanded vol n))}, tenant i t →
    Found t vol w → vol.spec.capacityBytes < n → OpOutcome _ w r w' → cond ⟨i,⟨_,r,w,w'⟩⟩ j →
    Good j w → Good (⟨i,⟨_,r,w,w'⟩⟩::j) w'
  good_modify : ∀ {i t vol params j w w'} {r : OpReply (.update (modified vol params))},
    tenant i t → Found t vol w → mutableRefusal t.parameterPolicy params = none →
    OpOutcome _ w r w' → cond ⟨i,⟨_,r,w,w'⟩⟩ j → Good j w → Good (⟨i,⟨_,r,w,w'⟩⟩::j) w'

variable {ι : Type} {D : Discipline ι} {i : ι} {l : Log ι} {t : TenantCluster}
  {vol : ProxmoxVolume}

section Records

theorem removal_keeps {α : Type} {x : A α} (hu : x.run.Uses removals) :
    Keeps D.toFrame i l D.Good x :=
  triple_given_uses cluster_calm (fun _ _ h => h)
    (fun _ _ _ _ _ hc ho hg hx => D.good_removal hc ho hx hg) hu

theorem createVolume_keeps (s : Service) (t : Option TenantCluster) (req : CreateVolumeRequest)
    (hi : ∀ t' ∈ t, D.tenant i t') : Keeps D.toFrame i l D.Good (createVolume s t req) := by
  refine triple_given_uses cluster_calm (fun _ _ h => h) ?_
    (uses_and (createVolume_uses s t req) (createVolume_positive s t req))
  rintro c j w r w' ⟨hc,hn⟩ ho hg hx
  cases c with
  | createVolume vol =>
    obtain ⟨t',ht,rfl⟩ := hc
    exact D.good_create (hi t' ht) hn ho hx hg
  | _ => exact D.good_removal hc ho hx hg

theorem deleteVolume_keeps (t : Option TenantCluster) (volumeID : String) :
    Keeps D.toFrame i l D.Good (deleteVolume t volumeID) :=
  removal_keeps (deleteVolume_uses t volumeID)

theorem attachVolume_keeps (s : Service) (t : Option TenantCluster) (req : AttachVolumeRequest) :
    Keeps D.toFrame i l D.Good (attachVolume s t req) :=
  removal_keeps (uses_mono (attachVolume_uses s t req) (fun _ => aside_removals))

theorem detachVolume_keeps (s : Service) (t : Option TenantCluster) (volumeID nodeID : String) :
    Keeps D.toFrame i l D.Good (detachVolume s t volumeID nodeID) :=
  removal_keeps (uses_mono (detachVolume_uses s t volumeID nodeID) (fun _ => aside_removals))

end Records

section Writes

def Pass (D : Discipline ι) (t : TenantCluster) (vol : ProxmoxVolume) (j : Log ι) (w : Ledger) :
    Prop := D.Good j w ∧ Found t vol w

theorem pass_readable : Readable D.toFrame (Pass D t vol) := fact_readable good_readable

theorem volumeByID_leads (ns volumeID : String) :
    Leads D.toFrame i l D.Good (volumeByID ns volumeID)
      (fun vol j w => D.Good j w ∧ Live vol w ∧ vol.ns = ns) := by
  refine triple_bind (Q := fun vols => Given D.cond (fun j w => D.Good j w ∧
    ∀ vol ∈ vols, Live vol w ∧ vol.ns = ns) i l) ?_ ?_
  · refine triple_given_call cluster_calm (fun _ _ h => h) ?_
    intro j w r w' hg ho hx
    obtain ⟨hw,hr⟩ := outcome_reads rfl ho
    subst hw
    have h := D.good_read (c := .volumesByID ns volumeID) rfl ho hx hg
    refine ⟨h,fun vols hv => ⟨h,?_⟩⟩
    intro vol hm
    rcases hr with rfl | ⟨e,_,rfl⟩
    · cases hv
      obtain ⟨hmem,hp⟩ := List.mem_filter.mp hm
      exact ⟨find_of_mem (D.keyed hg) hmem,(of_decide_eq_true hp).1⟩
    · cases hv
  · intro vols
    cases vols with
    | nil => exact leads_throw (fun _ _ h => h.1)
    | cons vol rest =>
      exact leads_pure (fun _ _ h => ⟨h.1,h.1,h.2 vol List.mem_cons_self⟩)

theorem readyVolumeByID_leads (t : TenantCluster) (volumeID : String) :
    Leads D.toFrame i l D.Good (readyVolumeByID t.ns volumeID) (Pass D t) := by
  refine triple_bind (volumeByID_leads t.ns volumeID) (fun vol => ?_)
  refine triple_bind (require_leads (fun _ _ h => h.1)) (fun _ => ?_)
  exact leads_pure (fun _ _ h => ⟨h.1.1,h.1.1,h.1.2.1,h.1.2.2,h.2⟩)

theorem expansionOf_reads (vol : ProxmoxVolume) (n : ℤ) : (expansionOf vol n).run.Uses reads := by
  refine uses_try_bind (uses_demand rfl) ?_
  intro v
  exact uses_if trivial trivial

theorem expandRecord_keeps (hi : D.tenant i t) (n : ℤ) :
    Keeps D.toFrame i l (Pass D t vol) (expandRecord t vol n) := by
  unfold expandRecord
  split
  · exact keeps_pure (fun _ _ h => h.1)
  · refine triple_bind (reads_lead pass_readable uses_require) (fun _ => ?_)
    refine triple_bind (Q := fun _ => Given D.cond D.Good i l) ?_
      (fun _ => reads_lead good_readable (expansionOf_reads vol n))
    unfold growSpec
    split
    · rename_i hn
      refine triple_given_call cluster_calm (fun _ _ h => h.1) ?_
      intro j w r w' h ho hx
      have hg := D.good_expand hi h.2 hn ho hx h.1
      exact ⟨hg,fun _ _ => hg⟩
    · exact keeps_pure (fun _ _ h => h.1)

theorem expandVolume_keeps (t : Option TenantCluster) (volumeID : String) (n : ℤ)
    (hi : ∀ t' ∈ t, D.tenant i t') : Keeps D.toFrame i l D.Good (expandVolume t volumeID n) := by
  refine triple_bind (reads_lead good_readable uses_given) (fun _ => ?_)
  refine triple_bind (reads_lead good_readable uses_require) (fun _ => ?_)
  cases t with
  | none => exact leads_throw (fun _ _ h => h)
  | some t =>
    exact triple_bind (readyVolumeByID_leads t volumeID)
      (fun vol => expandRecord_keeps (hi t rfl) n)

theorem modifyRecord_keeps (s : Service) (params : Params) (hi : D.tenant i t)
    (hp : mutableRefusal t.parameterPolicy params = none) :
    Keeps D.toFrame i l (Pass D t vol) (modifyRecord s vol params) := by
  refine triple_bind (Q := fun _ => Given D.cond D.Good i l) ?_ (fun _ => ?_)
  · refine triple_given_call cluster_calm (fun _ _ h => h.1) ?_
    intro j w r w' h ho hx
    have hg := D.good_modify hi h.2 hp ho hx h.1
    exact ⟨hg,fun _ _ => hg⟩
  · refine reads_lead good_readable (uses_try_bind (uses_demand rfl) ?_)
    intro as
    split
    · trivial
    · refine uses_try_bind (uses_demand rfl) ?_
      intro v
      exact uses_if trivial trivial

theorem modifyVolume_keeps (s : Service) (t : Option TenantCluster) (volumeID : String)
    (params : Params) (hi : ∀ t' ∈ t, D.tenant i t') :
    Keeps D.toFrame i l D.Good (modifyVolume s t volumeID params) := by
  refine triple_bind (reads_lead good_readable uses_given) (fun _ => ?_)
  cases t with
  | none => exact leads_throw (fun _ _ h => h)
  | some t =>
    refine triple_bind (readyVolumeByID_leads t volumeID) (fun vol => ?_)
    dsimp only
    split
    · exact leads_throw (fun _ _ h => h.1)
    · rename_i hp
      exact modifyRecord_keeps s params (hi t rfl) hp

end Writes

end ProxmoxCSI.RequestPasses
