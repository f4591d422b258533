import ProxmoxCSI.SnapshotReconciler
import ProxmoxCSI.PassRules

/-!
# Passes of the snapshot reconciler

What a pass does to its record, once for all invariants: the record is read, held,
copied, reported on, or its disk is deleted and the record released. A
discipline says what has to hold of the ledger, of a record whose status is
written and of one that is released; every pass keeps a discipline that the
single calls keep.
-/

set_option autoImplicit false

namespace ProxmoxCSI.SnapshotPasses
open CallProgram CallProgram.Prog CallSafety CallErrors CallTriples CallSessions CallJournal
open TextScan VolumeHandle OperatorRecords RecordWrites DiskOwners VolumeReconciler
open SnapshotReconciler PassRules

section Copies

def Live (snap : ProxmoxVolumeSnapshot) (w : Ledger) : Prop :=
  w.lookupSnapshot snap.ns snap.name = some snap

/-- Two copies of a record that agree about its disk. -/
structure SameHandle (a b : ProxmoxVolumeSnapshot) : Prop where
  ns : a.ns = b.ns
  name : a.name = b.name
  uid : a.uid = b.uid
  snapshotID : a.snapshotID = b.snapshotID

theorem conditioned_same (snap : ProxmoxVolumeSnapshot) (t : ConditionType) (status : Bool)
    (reason : Reason) (message : String) :
    SameHandle snap (conditioned snap t status reason message) := ⟨rfl,rfl,rfl,rfl⟩

def recorded (snap : ProxmoxVolumeSnapshot) (disk : Volume) : ProxmoxVolumeSnapshot :=
  { snap with snapshotID := disk.volumeID }

theorem copyFailed_same (snap : ProxmoxVolumeSnapshot) (disk : Volume) (text : String) :
    SameHandle (recorded snap disk) (copyFailed snap disk text) := ⟨rfl,rfl,rfl,rfl⟩

theorem copied_same (snap : ProxmoxVolumeSnapshot) (t : TenantCluster) (vol : ProxmoxVolume)
    (disk : Volume) : SameHandle (recorded snap disk) (copied snap t vol disk) := ⟨rfl,rfl,rfl,rfl⟩

theorem seen_same (snap : ProxmoxVolumeSnapshot) : SameHandle snap (seen snap) := ⟨rfl,rfl,rfl,rfl⟩

theorem held_live {snap : ProxmoxVolumeSnapshot} {t : TenantCluster} {w : Ledger}
    (hl : Live snap w) :
    Live (heldSnapshot snap t) (answer w (.updateSnapshot (heldSnapshot snap t))).2 := by
  have hk : ∀ s, snapshotKey s = snapshotKey (heldSnapshot snap t) → snapshotKey
      (writtenSnapshot (heldSnapshot snap t) s) = snapshotKey (heldSnapshot snap t) := fun _ _ => rfl
  refine putSnapshot_kept (s := snap) hk hl rfl ?_
  have hf : (heldSnapshot snap t).finalizers ≠ [] := by
    simp only [heldSnapshot, withFinalizer]
    split
    · rename_i hm
      exact List.ne_nil_of_mem hm
    · simp
  simp [Ledger.snapshotGone, writtenSnapshot, hf]

theorem target_handle {handle : String} {src : Volume} (t : TenantCluster)
    (snap : ProxmoxVolumeSnapshot) (hs : parseVolumeID handle = some src)
    (hz : '/' ∉ (snapshotDisk t snap src).zone.toList) :
    parseVolumeID (snapshotDisk t snap src).volumeID = some (snapshotDisk t snap src) ∧
      (snapshotDisk t snap src).region = src.region ∧
      (snapshotDisk t snap src).storage = src.storage ∧
      Ledger.copyNode src.zone (snapshotDisk t snap src).zone = (snapshotDisk t snap src).zone := by
  obtain ⟨hn,hr,_,hst⟩ := parseVolumeID_some hs
  have hparts : (snapshotDisk t snap src).node = (snapshotDisk t snap src).zone ∧
      (snapshotDisk t snap src).region = src.region ∧
      (snapshotDisk t snap src).storage = src.storage ∧
      Ledger.copyNode src.zone (snapshotDisk t snap src).zone = (snapshotDisk t snap src).zone := by
    unfold snapshotDisk
    by_cases hzone : snap.zone = ""
    · simp [hzone, copyName, hn, Ledger.copyNode]
    · simp [hzone, copyName, setZone, hn, Ledger.copyNode]
  obtain ⟨h₁,h₂,h₃,h₄⟩ := hparts
  exact ⟨parseVolumeID_volumeID _ h₁ (h₂ ▸ hr) hz (h₃ ▸ hst),h₂,h₃,h₄⟩

end Copies

section Facts

variable {ι : Type}

def isCopy : OpCall → Bool
  | .copyDisk _ _ _ _ _ _ _ => true
  | _ => false

def Quiet (j : Log ι) : Prop := ∀ x ∈ j.head?, isCopy x.event.call = false

theorem quiet_cons {x : Line ι} {j : Log ι} (h : isCopy x.event.call = false) : Quiet (x::j) := by
  intro y hy
  cases hy
  exact h

/-- What is known when a copy is made: the source is ready and allowed, and its handle
tells where the copy goes. -/
structure Source (snap : ProxmoxVolumeSnapshot) (t : TenantCluster) (vol : ProxmoxVolume)
    (src : Volume) (w : Ledger) : Prop where
  tenant : tenantFor snap.ns w.tenants = some t
  volume : w.lookupVolume snap.ns snap.sourceVolumeName = some vol
  ready : vol.status.phase = .ready
  admitted : snapshotRefusal t vol = none
  handle : parseVolumeID vol.status.volumeID = some src

abbrev copyCall (vol : ProxmoxVolume) (src disk : Volume) : OpCall :=
  .copyDisk vol.spec.region src.zone vol.spec.storage (sourceDiskName vol src) disk.zone
    vol.spec.storage disk.disk

theorem source_kept {snap snap' : ProxmoxVolumeSnapshot} {t : TenantCluster} {vol : ProxmoxVolume}
    {src : Volume} {w w' : Ledger} (hn : snap'.ns = snap.ns)
    (hs : snap'.sourceVolumeName = snap.sourceVolumeName) (ht : w'.tenants = w.tenants)
    (hv : w'.volumes = w.volumes) (h : Source snap t vol src w) : Source snap' t vol src w' := by
  refine ⟨?_,?_,h.ready,h.admitted,h.handle⟩
  · rw [hn, ht]
    exact h.tenant
  · rw [Ledger.lookupVolume, hv, hn, hs]
    exact h.volume

end Facts

/-- `Good` is what holds of the ledger, `Ok` what holds of a record whose status may be
written, `Free` what holds of one that may be released, and `owner` tells whose record
a task reconciles. -/
structure Discipline (ι : Type) extends Frame ι where
  Ok : ProxmoxVolumeSnapshot → Log ι → Ledger → Prop
  Free : ProxmoxVolumeSnapshot → Log ι → Ledger → Prop
  owner : ι → String → String → Prop
  ok_live : ∀ {snap j w}, Good j w → Live snap w → Quiet j → Ok snap j w
  ok_same : ∀ {a b j w}, SameHandle a b → Ok a j w → Ok b j w
  free_unnamed : ∀ {snap j w}, Good j w → Live snap w → Quiet j →
    parseVolumeID snap.snapshotID = none → Free snap j w
  good_hold : ∀ {i snap t j w w'} {r : OpReply (.updateSnapshot (heldSnapshot snap t))},
    owner i snap.ns snap.name → Live snap w → Quiet j → OpOutcome _ w r w' →
    cond ⟨i,⟨_,r,w,w'⟩⟩ j → Good j w → Good (⟨i,⟨_,r,w,w'⟩⟩::j) w'
  good_status : ∀ {i snap j w w'} {r : OpReply (.updateSnapshotStatus snap)}, Ok snap j w →
    owner i snap.ns snap.name → OpOutcome _ w r w' → cond ⟨i,⟨_,r,w,w'⟩⟩ j → Good j w →
    Good (⟨i,⟨_,r,w,w'⟩⟩::j) w'
  good_copy : ∀ {i snap t vol src j w w'} {r : OpReply (copyCall vol src (snapshotDisk t snap src))},
    owner i snap.ns snap.name → Live snap w → Quiet j → Source snap t vol src w →
    OpOutcome _ w r w' → cond ⟨i,⟨_,r,w,w'⟩⟩ j → Good j w → Good (⟨i,⟨_,r,w,w'⟩⟩::j) w' ∧
      Ok (recorded snap (snapshotDisk t snap src)) (⟨i,⟨_,r,w,w'⟩⟩::j) w'
  good_destroy : ∀ {i snap v j w w'} {r : OpReply (.deleteDisk v.region v.zone v.storage v.disk)},
    owner i snap.ns snap.name → Live snap w → Quiet j → snap.deleting = true →
    parseVolumeID snap.snapshotID = some v → OpOutcome _ w r w' → cond ⟨i,⟨_,r,w,w'⟩⟩ j → Good j w →
    Good (⟨i,⟨_,r,w,w'⟩⟩::j) w' ∧ Ok snap (⟨i,⟨_,r,w,w'⟩⟩::j) w' ∧
      ((∀ e, r = .error e → isNotFound e) → Free snap (⟨i,⟨_,r,w,w'⟩⟩::j) w')
  good_release : ∀ {i snap j w w'} {r : OpReply (.updateSnapshot (releasedSnapshot snap))},
    owner i snap.ns snap.name → Live snap w → Free snap j w → OpOutcome _ w r w' →
    cond ⟨i,⟨_,r,w,w'⟩⟩ j → Good j w → Good (⟨i,⟨_,r,w,w'⟩⟩::j) w'

variable {ι : Type} {D : Discipline ι} {i : ι} {l : Log ι} {snap : ProxmoxVolumeSnapshot}

section Rules

variable {α : Type}

/-- The record is as it was read. -/
structure Pass (D : Discipline ι) (snap : ProxmoxVolumeSnapshot) (j : Log ι) (w : Ledger) :
    Prop where
  good : D.Good j w
  live : Live snap w
  quiet : Quiet j

def Writable (D : Discipline ι) (snap : ProxmoxVolumeSnapshot) (j : Log ι) (w : Ledger) : Prop :=
  D.Good j w ∧ D.Ok snap j w

theorem read_quiet {c : OpCall} {r : OpReply c} {j : Log ι} {w w' : Ledger} (hc : reads c) :
    Quiet ((⟨i,⟨c,r,w,w'⟩⟩ : Line ι)::j) := by
  refine quiet_cons ?_
  cases c <;> first | rfl | cases hc

theorem pass_read {c : OpCall} {r : OpReply c} {j : Log ι} {w : Ledger} (hc : reads c)
    (ho : OpOutcome c w r w) (hx : D.cond ⟨i,⟨c,r,w,w⟩⟩ j) (h : Pass D snap j w) :
    Pass D snap (⟨i,⟨c,r,w,w⟩⟩::j) w :=
  ⟨D.good_read hc ho hx h.good,h.live,read_quiet hc⟩

theorem pass_writable {snap' : ProxmoxVolumeSnapshot} {j : Log ι} {w : Ledger}
    (hs : SameHandle snap snap') (h : Pass D snap j w) : Writable D snap' j w :=
  ⟨h.good,D.ok_same hs (D.ok_live h.good h.live h.quiet)⟩

theorem read_leads {c : OpCall} {g : OpReply c → Except Failure α} {F : α → Ledger → Prop}
    {fact : Ledger → Prop} (hc : reads c)
    (hF : ∀ w r a, OpOutcome c w r w → g r = .ok a → F a w) :
    Leads D.toFrame i l (fun j w => Pass D snap j w ∧ fact w)
      (ExceptT.mk (.call c fun r => .done (g r)) : P α)
      (fun a j w => (Pass D snap j w ∧ fact w) ∧ F a w) := by
  refine triple_given_call cluster_calm (fun _ _ h => h.1.good) ?_
  intro j w r w' h ho hx
  have hw := (outcome_reads (reads_part hc) ho).1
  subst hw
  have hp := pass_read hc ho hx h.1
  exact ⟨hp.good,fun a ha => ⟨⟨hp,h.2⟩,hF w' r a ho ha⟩⟩

end Rules

section Status

theorem settled_keeps {result : Result} (hi : D.owner i snap.ns snap.name) :
    Keeps D.toFrame i l (Writable D snap) (settled snap result) := by
  refine triple_bind (Q := fun _ => Given D.cond D.Good i l) ?_
    (fun _ => keeps_pure (fun _ _ h => h))
  refine triple_given_call cluster_calm (fun _ _ h => h.1) ?_
  intro j w r w' h ho hx
  have hok : D.Ok (seen snap) j w := D.ok_same (seen_same snap) h.2
  have hs := D.good_status hok hi ho hx h.1
  exact ⟨hs,fun _ _ => hs⟩

theorem reported_keeps {result : Result} {cause : String} (hi : D.owner i snap.ns snap.name) :
    Keeps D.toFrame i l (Writable D snap) (reported snap result cause) := by
  refine triple_bind (Q := fun _ => Given D.cond D.Good i l) ?_ ?_
  · refine triple_given_call cluster_calm (fun _ _ h => h.1) ?_
    intro j w r w' h ho hx
    have hok : D.Ok (seen snap) j w := D.ok_same (seen_same snap) h.2
    have hs := D.good_status hok hi ho hx h.1
    exact ⟨hs,fun _ _ => hs⟩
  · intro r
    cases r with
    | ok u => exact triple_given_throw cluster_calm (fun _ _ h => h)
    | error e => exact triple_given_throw cluster_calm (fun _ _ h => h)

theorem conditioned_keeps {t : ConditionType} {status : Bool} {reason : Reason} {message : String}
    {result : Result} (hi : D.owner i snap.ns snap.name) :
    Keeps D.toFrame i l (Pass D snap) (settled (conditioned snap t status reason message) result) := by
  have hs : Keeps D.toFrame i l (Writable D (conditioned snap t status reason message))
    (settled _ result) :=
    settled_keeps hi
  exact leads_from hs (fun _ _ h => pass_writable (conditioned_same snap _ _ _ _) h)

end Status

section Copy

variable {t : TenantCluster} {vol : ProxmoxVolume} {src : Volume}

theorem hold_leads (hi : D.owner i snap.ns snap.name) :
    Leads D.toFrame i l (fun j w => Pass D snap j w ∧ Source snap t vol src w) (holdSnapshot snap t)
      (fun s j w => (Pass D s j w ∧ Source s t vol src w) ∧ s.ns = snap.ns ∧ s.name = snap.name ∧
        s.zone = snap.zone) := by
  unfold holdSnapshot
  split
  · exact triple_given_pure cluster_calm (fun _ _ h => ⟨h.1.good,h,rfl,rfl,rfl⟩)
  · refine triple_bind (Q := fun _ => Given D.cond (fun j w => Pass D (heldSnapshot snap t) j w ∧
      Source (heldSnapshot snap t) t vol src w) i l) ?_
      (fun _ => triple_given_pure cluster_calm (fun _ _ h => ⟨h.1.good,h,rfl,rfl,rfl⟩))
    refine triple_given_call cluster_calm (fun _ _ h => h.1.good) ?_
    intro j w r w' h ho hx
    have hg := D.good_hold hi h.1.live h.1.quiet ho hx h.1.good
    refine ⟨hg,?_⟩
    intro u hu
    have hk := outcome_kept ho
    have hsource : Source (heldSnapshot snap t) t vol src w' := by
      refine source_kept ?_ ?_ (hk.tenants (by simp [part])) (hk.volumes (by simp [part])) h.2
      · rfl
      · rfl
    refine ⟨⟨hg,?_,quiet_cons rfl⟩,hsource⟩
    rcases outcome_record (by simp [part]) ho with ⟨_,e,_,rfl⟩ | ⟨rfl,_⟩
    · cases hu
    · exact held_live h.1.live

theorem snapshotDisk_congr {snap' : ProxmoxVolumeSnapshot} (hm : snap'.name = snap.name)
    (hz : snap'.zone = snap.zone) : snapshotDisk t snap src = snapshotDisk t snap' src := by
  simp only [snapshotDisk, hm, hz]

theorem copyOf_keeps (r : Snapshotter) (hi : D.owner i snap.ns snap.name) :
    Keeps D.toFrame i l (fun j w => Pass D snap j w ∧ Source snap t vol src w)
      (copyOf r snap t vol src (snapshotDisk t snap src)) := by
  refine triple_bind (Q := fun _ => Given D.cond (Writable D
    (recorded snap (snapshotDisk t snap src))) i l) ?_ ?_
  · refine triple_given_call cluster_calm (fun _ _ h => h.1.good) ?_
    intro j w res w' h ho hx
    have hc := D.good_copy hi h.1.live h.1.quiet h.2 ho hx h.1.good
    exact ⟨hc.1,fun _ _ => hc⟩
  · intro res
    cases res with
    | error e =>
      have hr : Keeps D.toFrame i l (Writable D (copyFailed snap (snapshotDisk t snap src) e.text))
        (reported _ ⟨0⟩ e.text) := reported_keeps hi
      exact leads_from hr (fun _ _ h => ⟨h.1,D.ok_same (copyFailed_same _ _ _) h.2⟩)
    | ok u =>
      have hs : Keeps D.toFrame i l (Writable D (copied snap t vol (snapshotDisk t snap src)))
        (settled _ ⟨r.period⟩) := settled_keeps hi
      exact leads_from hs (fun _ _ h => ⟨h.1,D.ok_same (copied_same _ _ _ _) h.2⟩)

theorem copyFrom_keeps (r : Snapshotter) (hi : D.owner i snap.ns snap.name) :
    Keeps D.toFrame i l (fun j w => Pass D snap j w ∧ Source snap t vol src w)
      (copyFrom r snap t vol src) := by
  refine triple_bind (hold_leads hi) ?_
  intro s
  apply triple_given_fact
  rintro ⟨hn,hm,hz⟩
  rw [snapshotDisk_congr hm hz]
  exact copyOf_keeps r (by rw [hn, hm]; exact hi)

theorem checkStorage_leads {fact : Ledger → Prop} (region storage : String) :
    Leads D.toFrame i l (fun j w => Pass D snap j w ∧ fact w) (checkStorageForSnapshot region storage)
      (fun _ j w => Pass D snap j w ∧ fact w) := by
  refine triple_bind (read_leads (F := fun _ _ => True) rfl (fun _ _ _ _ _ => trivial)) ?_
  intro r
  cases r with
  | error e => exact triple_given_pure cluster_calm (fun _ _ h => ⟨h.1.1.good,h.1⟩)
  | ok storages => exact triple_given_pure cluster_calm (fun _ _ h => ⟨h.1.1.good,h.1⟩)

theorem snapshotFor_keeps (r : Snapshotter) (hi : D.owner i snap.ns snap.name)
    (hp : vol.status.phase = .ready) (ha : snapshotRefusal t vol = none) :
    Keeps D.toFrame i l (fun j w => Pass D snap j w ∧ tenantFor snap.ns w.tenants = some t ∧
      w.lookupVolume snap.ns snap.sourceVolumeName = some vol) (snapshotFor r snap t vol) := by
  refine triple_bind (checkStorage_leads _ _) ?_
  intro res
  cases res with
  | some text => exact leads_from (conditioned_keeps hi) (fun _ _ h => h.1)
  | none =>
    dsimp only
    split
    · exact leads_from (conditioned_keeps hi) (fun _ _ h => h.1)
    · rename_i src hs
      exact leads_from (copyFrom_keeps r hi) (fun _ _ h => ⟨h.1,h.2.1,h.2.2,hp,ha,hs⟩)

theorem tenant_leads {fact : Ledger → Prop} (ns : String) :
    Leads D.toFrame i l (fun j w => Pass D snap j w ∧ fact w) (tenant ns)
      (fun o j w => (Pass D snap j w ∧ fact w) ∧ tenantFor ns w.tenants = o) := by
  refine triple_bind (read_leads (F := fun ts w => ts = w.tenants) rfl ?_) ?_
  · intro w r ts ho hr
    exact read_tenants ho (mapError_ok hr)
  · intro ts
    refine triple_given_pure cluster_calm ?_
    rintro j w ⟨h,rfl⟩
    exact ⟨h.1.good,h,rfl⟩

theorem snapshotOf_keeps (r : Snapshotter) (hi : D.owner i snap.ns snap.name)
    (hp : vol.status.phase = .ready) :
    Keeps D.toFrame i l (fun j w => Pass D snap j w ∧
      w.lookupVolume snap.ns snap.sourceVolumeName = some vol) (snapshotOf r snap vol) := by
  refine triple_bind (tenant_leads snap.ns) ?_
  intro o
  cases o with
  | none => exact leads_from (conditioned_keeps hi) (fun _ _ h => h.1.1)
  | some t =>
    dsimp only
    split
    · exact leads_from (conditioned_keeps hi) (fun _ _ h => h.1.1)
    · rename_i ha
      exact leads_from (snapshotFor_keeps r hi hp ha) (fun _ _ h => ⟨h.1.1,h.2,h.1.2⟩)

theorem reconcileCreate_keeps (r : Snapshotter) (hi : D.owner i snap.ns snap.name) :
    Keeps D.toFrame i l (Pass D snap) (reconcileCreate r snap) := by
  unfold reconcileCreate
  split
  · exact keeps_pure (fun _ _ h => h.good)
  · refine leads_from (Q := fun j w => Pass D snap j w ∧ True) ?_ (fun _ _ h => ⟨h,trivial⟩)
    refine triple_bind (read_leads (F := fun res w => ∀ vol, res = .ok vol →
      w.lookupVolume snap.ns snap.sourceVolumeName = some vol) rfl ?_) ?_
    · rintro w res _ ho ⟨⟩ vol hv
      exact (read_volume ho hv).1
    · intro res
      cases res with
      | error e => exact leads_from (conditioned_keeps hi) (fun _ _ h => h.1.1)
      | ok vol =>
        show Keeps D.toFrame i l _ (ite _ _ _)
        split
        · exact leads_from (conditioned_keeps hi) (fun _ _ h => h.1.1)
        · rename_i hp
          exact leads_from (snapshotOf_keeps r hi (not_not.mp hp))
            (fun _ _ h => ⟨h.1.1,h.2 vol rfl⟩)

end Copy

section Delete

theorem release_keeps (hi : D.owner i snap.ns snap.name) (pre : String) (result : Result) :
    Keeps D.toFrame i l (fun j w => D.Good j w ∧ Live snap w ∧ D.Free snap j w)
      (need (.updateSnapshot (releasedSnapshot snap)) pre >>= fun _ => pure result) := by
  refine triple_bind (Q := fun _ => Given D.cond D.Good i l) ?_
    (fun _ => keeps_pure (fun _ _ h => h))
  refine triple_given_call cluster_calm (fun _ _ h => h.1) ?_
  intro j w r w' h ho hx
  have hg := D.good_release hi h.2.1 h.2.2 ho hx h.1
  exact ⟨hg,fun _ _ => hg⟩

theorem deleteSnapshotDisk_keeps {v : Volume} (r : Snapshotter) (hi : D.owner i snap.ns snap.name)
    (hd : snap.deleting = true) (hv : parseVolumeID snap.snapshotID = some v) :
    Keeps D.toFrame i l (Pass D snap) (deleteSnapshotDisk r snap v) := by
  refine triple_bind (Q := fun res => Given D.cond (fun j w => D.Good j w ∧ Live snap w ∧
    D.Ok snap j w ∧ ((∀ e, res = .error e → isNotFound e) → D.Free snap j w)) i l) ?_ ?_
  · refine triple_given_call cluster_calm (fun _ _ h => h.good) ?_
    intro j w res w' h ho hx
    obtain ⟨hg,hok,hfree⟩ := D.good_destroy hi h.live h.quiet hd hv ho hx h.good
    refine ⟨hg,?_⟩
    rintro _ ⟨⟩
    refine ⟨hg,?_,hok,hfree⟩
    rw [Live, Ledger.lookupSnapshot, (outcome_kept ho).snapshots (by simp [part])]
    exact h.live
  · intro res
    cases res with
    | ok u =>
      refine leads_from (release_keeps hi _ _) (fun _ _ h => ⟨h.1,h.2.1,h.2.2.2 ?_⟩)
      rintro e ⟨⟩
    | error e =>
      show Keeps D.toFrame i l _ (ite _ _ _)
      split
      · rename_i hn
        refine leads_from (release_keeps hi _ _) (fun _ _ h => ⟨h.1,h.2.1,h.2.2.2 ?_⟩)
        rintro e ⟨⟩
        exact hn
      · have hr : Keeps D.toFrame i l (Writable D (conditioned snap .ready false .proxmoxError
          ("deleting snapshot disk: " ++ e.text))) (reported _ ⟨r.period⟩ e.text) :=
          reported_keeps hi
        exact leads_from hr
          (fun _ _ h => ⟨h.1,D.ok_same (conditioned_same snap _ _ _ _) h.2.2.1⟩)

theorem reconcileDelete_keeps (r : Snapshotter) (hi : D.owner i snap.ns snap.name)
    (hd : snap.deleting = true) :
    Keeps D.toFrame i l (Pass D snap) (reconcileDelete r snap) := by
  have hfree : ∀ j w, parseVolumeID snap.snapshotID = none → Pass D snap j w →
      D.Good j w ∧ Live snap w ∧ D.Free snap j w :=
    fun j w hv h => ⟨h.good,h.live,D.free_unnamed h.good h.live h.quiet hv⟩
  unfold reconcileDelete
  split
  · exact keeps_pure (fun _ _ h => h.good)
  · split
    · rename_i he
      exact leads_from (release_keeps hi _ _) (fun j w h => hfree j w (by rw [he]; rfl) h)
    · split
      · rename_i hv
        exact leads_from (release_keeps hi _ _) (fun j w h => hfree j w hv h)
      · rename_i v hv
        exact deleteSnapshotDisk_keeps r hi hd hv

end Delete

theorem reconcile_keeps (r : Snapshotter) {ns name : String} (hi : D.owner i ns name) :
    Keeps D.toFrame i l D.Good (SnapshotReconciler.reconcile r ns name) := by
  refine triple_bind (Q := fun res => Given D.cond (fun j w => (D.Good j w ∧
    ∀ snap, res = .ok snap → Pass D snap j w) ∧ ∀ snap, res = .ok snap →
      snap.ns = ns ∧ snap.name = name) i l) ?_ ?_
  · refine triple_given_call cluster_calm (fun _ _ h => h) ?_
    intro j w res w' hg ho hx
    have hw := (outcome_reads rfl ho).1
    subst hw
    have hg' := D.good_read (c := .getSnapshot ns name) rfl ho hx hg
    refine ⟨hg',?_⟩
    rintro _ ⟨⟩
    have hkey : ∀ snap, res = .ok snap → w'.lookupSnapshot ns name = some snap ∧
        snap.ns = ns ∧ snap.name = name := by
      intro snap hs
      have hl := (read_snapshot ho hs).1
      have hk := (ObjectStore.find_some hl).2
      rw [snapshotKey, Prod.mk.injEq] at hk
      exact ⟨hl,hk⟩
    refine ⟨⟨hg',?_⟩,fun snap hs => (hkey snap hs).2⟩
    intro snap hs
    obtain ⟨hl,hn,hm⟩ := hkey snap hs
    refine ⟨hg',?_,read_quiet rfl⟩
    rw [Live, hn, hm]
    exact hl
  · intro res
    apply triple_given_fact
    intro hk
    cases res with
    | error e =>
      exact unread_keeps e (fun _ _ h => h.1)
    | ok snap =>
      have ho : D.owner i snap.ns snap.name := by
        rw [(hk snap rfl).1, (hk snap rfl).2]
        exact hi
      refine leads_from (Q := Pass D snap) ?_ (fun _ _ h => h.2 snap rfl)
      show Keeps D.toFrame i l (Pass D snap) (reconcileSnapshot r snap)
      unfold reconcileSnapshot
      split
      · rename_i hd
        exact reconcileDelete_keeps r ho hd
      · exact reconcileCreate_keeps r ho

end ProxmoxCSI.SnapshotPasses
