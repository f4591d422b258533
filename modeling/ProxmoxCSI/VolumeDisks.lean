import ProxmoxCSI.RequestPasses

/-!
# The disks volumes delete

Requests and reconciles of volumes are run one after the other, each of which
may stop anywhere. The record of a provisioned volume takes the disk in its
status with it. Provisioning takes a disk of the right name for its own earlier
work, so the disk is the record's own only when no disk of anybody else has
that name.
-/

set_option autoImplicit false

namespace ProxmoxCSI.VolumeDisks
open CallProgram CallProgram.Prog CallSafety CallErrors CallTriples CallSessions CallJournal
open CallSchedule TextScan VolumeHandle OperatorRecords RecordWrites DiskOwners ObjectStore
open VolumeReconciler VolumeLifecycle VolumeService PassRules VolumePasses RequestFootprints
open DirectCalls (RpcError)

inductive Task where
  | create (t : Option TenantCluster) (req : CreateVolumeRequest)
  | delete (t : Option TenantCluster) (volumeID : String)
  | expand (t : Option TenantCluster) (volumeID : String) (capacityBytes : ℤ)
  | modify (t : Option TenantCluster) (volumeID : String) (params : Params)
  | attach (t : Option TenantCluster) (req : AttachVolumeRequest)
  | detach (t : Option TenantCluster) (volumeID nodeID : String)
  | reconcile (ns name : String)

abbrev TaskResult : Task → Type
  | .create _ _ => Except RpcError CreateVolumeResponse
  | .delete _ _ => Except RpcError Unit
  | .expand _ _ _ => Except RpcError ExpandVolumeResponse
  | .modify _ _ _ => Except RpcError Unit
  | .attach _ _ => Except RpcError AttachVolumeResponse
  | .detach _ _ _ => Except RpcError Unit
  | .reconcile _ _ => Except Failure Result

def program (s : Service) (r : Reconciler) : (i : Task) → Prog OpCall OpReply (TaskResult i)
  | .create t req => (createVolume s t req).run
  | .delete t volumeID => (deleteVolume t volumeID).run
  | .expand t volumeID capacityBytes => (expandVolume t volumeID capacityBytes).run
  | .modify t volumeID params => (modifyVolume s t volumeID params).run
  | .attach t req => (attachVolume s t req).run
  | .detach t volumeID nodeID => (detachVolume s t volumeID nodeID).run
  | .reconcile ns name => (VolumeLifecycle.reconcile r ns name).run

section Statement

def byProvision (ns name : String) (uid : ℕ) (x : Line Task) : Prop :=
  x.task = .reconcile ns name ∧ makesDisk x.event.call ∧
    ∃ v, x.event.before.lookupVolume ns name = some v ∧ v.uid = uid

/-- What a reconcile deletes was made for the same record, and is no disk of a record
that adopts. -/
def DestroysOwn (x : Line Task) (j : Log Task) : Prop :=
  ∀ region zone storage disk, x.event.call = .deleteDisk region zone storage disk →
    ∃ ns name v, x.task = .reconcile ns name ∧ x.event.before.lookupVolume ns name = some v ∧
      v.spec.adopt = false ∧
      Owned (byProvision ns name v.uid) region zone storage disk j x.event.before ∧
      ∀ ns' name' a, x.event.before.lookupVolume ns' name' = some a → a.spec.adopt = true →
        ∀ d ∈ x.event.before.disks, reaches region zone storage disk d → ¬namesDisk a d

/-- When a record is about to be provisioned, every disk of the name it will get was
made for it. -/
def FindsOwn (x : Line Task) (j : Log Task) : Prop :=
  ∀ ns name v t pluginType, x.task = .reconcile ns name → x.event.call = .listStorages →
    x.event.before.lookupVolume ns name = some v → v.spec.adopt = false →
    tenantFor ns x.event.before.tenants = some t →
    pluginTypeOf v.spec.region v.spec.zone v.spec.storage x.event.before.storages =
      .ok pluginType →
    Owned (byProvision ns name v.uid) v.spec.region v.spec.zone v.spec.storage
      (diskVolume t pluginType v).disk j x.event.before

def MakesApart (x : Line Task) : Prop :=
  ∀ ns name, x.task = .reconcile ns name → ∀ ns' name' v,
    x.event.before.lookupVolume ns' name' = some v → (ns',name') ≠ (ns,name) →
    ∀ d, Adds d x → ¬namesDisk v d

def Unmade (d : ListedDisk) (j : Log Task) : Prop := ∀ x ∈ j, ¬Adds d x

def AdoptsForeign (x : Line Task) (j : Log Task) : Prop :=
  ∀ ns name v region zone storage handle disks disk, x.task = .reconcile ns name →
    x.event.before.lookupVolume ns name = some v → v.spec.adopt = true →
    x.event.call = .listDisks region zone storage →
    parseVolumeID v.spec.adoptVolumeID = some handle →
    (answer x.event.before (.listDisks region zone storage)).1 = .ok disks →
    findDisk disks handle = some disk →
    ∀ d ∈ x.event.before.disks, reaches region zone storage disk.name d → Unmade d j

def Apart (x : Line Task) (j : Log Task) : Prop :=
  FindsOwn x j ∧ MakesApart x ∧ AdoptsForeign x j

/-- No record has been provisioned yet. -/
structure Unprovisioned (w : Ledger) : Prop where
  keyed : Keyed volumeKey w.volumes
  volumes : ∀ v ∈ w.volumes, v.spec.adopt = true ∨ v.status.diskName = ""

end Statement

section Invariant

def Fits (ns name : String) (v : ProxmoxVolume) (j : Log Task) (w : Ledger) : Prop :=
  ∀ d ∈ w.disks, namesDisk v d →
    if v.spec.adopt then Unmade d j else MadeBy (byProvision ns name v.uid) d j

structure Good (j : Log Task) (w : Ledger) : Prop where
  keyed : Keyed volumeKey w.volumes
  fits : ∀ ns name v, w.lookupVolume ns name = some v → Fits ns name v j w
  justified : Every DestroysOwn j

def Fitting (v : ProxmoxVolume) (j : Log Task) (w : Ledger) : Prop := Fits v.ns v.name v j w

variable {i : Task} {j l : Log Task} {w w' : Ledger} {x : Line Task} {c : OpCall} {r : OpReply c}
  {ns name : String} {vol v v' : ProxmoxVolume}

theorem fits_unnamed (h : v.status.diskName = "") : Fits ns name v j w := by
  intro d _ hn
  simp [namesDisk, h] at hn

/-- The place the spec gives the disk. -/
structure SamePlace (a b : VolumeSpec) : Prop where
  adopt : a.adopt = b.adopt
  region : a.region = b.region
  zone : a.zone = b.zone
  storage : a.storage = b.storage

theorem samePlace_of_eq {a b : VolumeSpec} (h : a = b) : SamePlace a b := by
  subst h
  exact ⟨rfl,rfl,rfl,rfl⟩

theorem fits_congr (hu : v.uid = v'.uid) (hs : SamePlace v.spec v'.spec)
    (hd : v.status.diskName = v'.status.diskName) (h : Fits ns name v j w) :
    Fits ns name v' j w := by
  intro d hm hn
  rw [namesDisk, ← hs.region, ← hs.zone, ← hs.storage, ← hd] at hn
  rw [← hu, ← hs.adopt]
  exact h d hm hn

theorem fits_step (hb : x.event.before = w) (ha : x.event.after = w')
    (hx : ∀ d, Adds d x → namesDisk v d → v.spec.adopt = false ∧ byProvision ns name v.uid x)
    (h : Fits ns name v j w) : Fits ns name v (x::j) w' := by
  intro d hd hn
  by_cases hadd : Adds d x
  · obtain ⟨hf,hown⟩ := hx d hadd hn
    rw [hf]
    exact latest_here hadd hown
  · have hd' : d ∈ w.disks := by
      rw [Adds, hb, ha] at hadd
      by_contra hm
      exact hadd ⟨hm,hd⟩
    have hold := h d hd' hn
    split
    · rename_i hf
      rw [if_pos hf] at hold
      intro y hy
      rcases List.mem_cons.mp hy with rfl | hy
      · exact hadd
      · exact hold y hy
    · rename_i hf
      rw [if_neg hf] at hold
      exact latest_keep hadd hold

theorem fits_shrink (hb : x.event.before = w) (ha : x.event.after = w') (hs : w'.disks ⊆ w.disks)
    (h : Fits ns name v j w) : Fits ns name v (x::j) w' :=
  fits_step hb ha (fun _ hx => absurd hx (no_adds hb ha hs)) h

theorem fits_aside (hd : part c ≠ .disks) (ho : OpOutcome c w r w') (h : Fits ns name v j w) :
    Fits ns name v (⟨i,⟨c,r,w,w'⟩⟩::j) w' :=
  fits_shrink rfl rfl ((outcome_kept ho).disks hd ▸ List.Subset.refl _) h

theorem destroysOwn_other (h : ∀ region zone storage disk,
    x.event.call ≠ .deleteDisk region zone storage disk) : DestroysOwn x j :=
  fun region zone storage disk hc => absurd hc (h region zone storage disk)

theorem good_records (hg : Good j w) (ho : OpOutcome c w r w') (hd : part c ≠ .disks)
    (hs : ∀ ns name v, w'.lookupVolume ns name = some v → Fits ns name v j w) :
    Good (⟨i,⟨c,r,w,w'⟩⟩::j) w' := by
  refine ⟨outcome_keyed ho hg.keyed,?_,destroysOwn_other ?_,hg.justified⟩
  · intro ns name v h
    exact fits_aside hd ho (hs ns name v h)
  · intro region zone storage disk hc
    have hc' : c = .deleteDisk region zone storage disk := hc
    rw [hc'] at hd
    exact hd rfl

theorem good_aside (hg : Good j w) (hv : part c ≠ .volumes) (hd : part c ≠ .disks)
    (ho : OpOutcome c w r w') : Good (⟨i,⟨c,r,w,w'⟩⟩::j) w' := by
  refine good_records hg ho hd ?_
  intro ns name v h
  rw [Ledger.lookupVolume, (outcome_kept ho).volumes hv] at h
  exact hg.fits ns name v h

theorem good_quiet (hg : Good j w) (hc : part c = .nothing) (ho : OpOutcome c w r w') :
    Good (⟨i,⟨c,r,w,w'⟩⟩::j) w' := good_aside hg (by simp [hc]) (by simp [hc]) ho

theorem good_written (hg : Good j w) (hp : part c = .volumes) (ho : OpOutcome c w r w')
    (hs : ∀ ns name v, (answer w c).2.lookupVolume ns name = some v →
      w.lookupVolume ns name = some v ∨ Fits ns name v j w) : Good (⟨i,⟨c,r,w,w'⟩⟩::j) w' := by
  refine good_records hg ho (by simp [hp]) ?_
  intro ns name v hv
  rcases outcome_record (by simp [hp]) ho with ⟨rfl,_⟩ | ⟨rfl,_⟩
  · exact hg.fits ns name v hv
  · exact (hs ns name v hv).elim (hg.fits ns name v) id

theorem good_create {r : OpReply (.createVolume vol)} (hg : Good j w)
    (ho : OpOutcome (.createVolume vol) w r w') : Good (⟨i,⟨_,r,w,w'⟩⟩::j) w' := by
  refine good_written hg rfl ho (fun ns name v hv => (createVolume_lookup hv).imp_right ?_)
  intro h
  exact fits_unnamed (by rw [h]; rfl)

theorem good_delete {m n : String} {r : OpReply (.deleteVolume m n)} (hg : Good j w)
    (ho : OpOutcome (.deleteVolume m n) w r w') : Good (⟨i,⟨_,r,w,w'⟩⟩::j) w' := by
  refine good_written hg rfl ho (fun ns name v hv => (deleteVolume_lookup hv).imp_right ?_)
  rintro ⟨v₀,h,rfl⟩
  exact hg.fits ns name v₀ h

theorem good_update {r : OpReply (.update v')} (hg : Good j w) (hl : Live vol w)
    (hn : vol.ns = v'.ns) (hm : vol.name = v'.name) (hp : SamePlace vol.spec v'.spec)
    (ho : OpOutcome (.update v') w r w') : Good (⟨i,⟨_,r,w,w'⟩⟩::j) w' := by
  refine good_written hg rfl ho (fun ns name v hv =>
    (putVolume_lookup (writtenVolume_key v') hv).imp_right ?_)
  rintro ⟨rfl,rfl,v₀,h,_,rfl⟩
  rw [Live, hn, hm] at hl
  cases h.symm.trans hl
  exact fits_congr (v := vol) rfl hp rfl (hg.fits _ _ vol h)

theorem good_status {r : OpReply (.updateStatus vol)} (hg : Good j w) (hk : Known vol w)
    (hf : Fits vol.ns vol.name vol j w) (ho : OpOutcome (.updateStatus vol) w r w') :
    Good (⟨i,⟨_,r,w,w'⟩⟩::j) w' := by
  refine good_written hg rfl ho (fun ns name v hv =>
    (putVolume_lookup (reportedVolume_key vol) hv).imp_right ?_)
  rintro ⟨rfl,rfl,v₀,h,hu,rfl⟩
  exact fits_congr (v := vol) hu.symm (samePlace_of_eq (known_found hk h).2.1.symm) rfl hf

theorem good_make (hg : Good j w) (hi : i = .reconcile vol.ns vol.name) (hl : Live vol w)
    (ha : vol.spec.adopt = false) (hc : makesDisk c) (ho : OpOutcome c w r w')
    (hx : MakesApart ⟨i,⟨c,r,w,w'⟩⟩) : Good (⟨i,⟨c,r,w,w'⟩⟩::j) w' := by
  have hp : part c ≠ .volumes := by simp [part_makesDisk hc]
  refine ⟨outcome_keyed ho hg.keyed,?_,destroysOwn_other ?_,hg.justified⟩
  · intro ns name v h
    rw [Ledger.lookupVolume, (outcome_kept ho).volumes hp] at h
    refine fits_step rfl rfl ?_ (hg.fits ns name v h)
    intro d hd hn
    by_cases hne : (ns,name) = (vol.ns,vol.name)
    · cases hne
      cases hl.symm.trans h
      exact ⟨ha,hi,hc,vol,hl,rfl⟩
    · exact absurd hn (hx _ _ hi ns name v h hne d hd)
  · intro region zone storage disk hd
    have hd' : c = .deleteDisk region zone storage disk := hd
    rw [hd'] at hc
    cases hc

theorem madeBy_not_unmade {own : Line Task → Prop} {d : ListedDisk} (h : MadeBy own d j) :
    ¬Unmade d j := by
  intro hu
  obtain ⟨x,hx,ha,_⟩ := latest_exists h
  exact hu x hx ha

theorem good_destroy
    {r : OpReply (.deleteDisk vol.spec.region vol.spec.zone vol.spec.storage vol.status.diskName)}
    (hg : Good j w) (hi : i = .reconcile vol.ns vol.name) (hl : Live vol w)
    (ha : vol.spec.adopt = false) (hn : vol.status.diskName ≠ "") (ho : OpOutcome _ w r w') :
    Good (⟨i,⟨_,r,w,w'⟩⟩::j) w' := by
  have hown : Owned (byProvision vol.ns vol.name vol.uid) vol.spec.region vol.spec.zone
      vol.spec.storage vol.status.diskName j w := by
    intro d hd hr
    have h := hg.fits vol.ns vol.name vol hl d hd (by simp [namesDisk, hn, hr])
    rwa [ha] at h
  refine ⟨outcome_keyed ho hg.keyed,?_,?_,hg.justified⟩
  · intro ns name v h
    rw [Ledger.lookupVolume, (outcome_kept ho).volumes (by simp [part])] at h
    exact fits_shrink rfl rfl (delete_outcome ho) (hg.fits ns name v h)
  · intro region zone storage disk hc
    cases hc
    refine ⟨vol.ns,vol.name,vol,hi,hl,ha,hown,?_⟩
    intro ns' name' a hla had d hd hr hnd
    have hun := hg.fits ns' name' a hla d hd hnd
    rw [had] at hun
    exact madeBy_not_unmade (hown d hd hr) hun

/-- Provisioning may publish a disk all namesakes of which are its own. -/
theorem fitting_published {t : TenantCluster} {pluginType : String} {sizeBytes : ℤ}
    {r : OpReply .listStorages} (hi : i = .reconcile vol.ns vol.name) (hl : Live vol w)
    (ha : vol.spec.adopt = false) (ht : tenantFor vol.ns w.tenants = some t)
    (hp : pluginTypeOf vol.spec.region vol.spec.zone vol.spec.storage w.storages = .ok pluginType)
    (hx : FindsOwn ⟨i,⟨.listStorages,r,w,w⟩⟩ j) :
    Fitting (published vol t (diskVolume t pluginType vol) sizeBytes) j w := by
  have hown := hx vol.ns vol.name vol t pluginType hi rfl hl ha ht hp
  obtain ⟨hs,_,hname,_⟩ := published_fields vol t (diskVolume t pluginType vol) sizeBytes
  intro d hd hn
  rw [namesDisk, decide_eq_true_eq, ← hs.spec, hname] at hn
  rw [← hs.spec, ha, ← hs.ns, ← hs.name, ← hs.uid]
  exact hown d hd hn.2

/-- Adoption may take a disk that no call has made. -/
theorem fitting_adopted {t : TenantCluster} {handle : Volume} {disks : List ListedDisk}
    {disk : ListedDisk} {r : OpReply (.listDisks handle.region handle.zone handle.storage)}
    (hi : i = .reconcile vol.ns vol.name) (hl : Live vol w) (ha : vol.spec.adopt = true)
    (hh : parseVolumeID vol.spec.adoptVolumeID = some handle) (hd : describes vol handle = none)
    (hans : (answer w (.listDisks handle.region handle.zone handle.storage)).1 = .ok disks)
    (hf : findDisk disks handle = some disk) (hx : AdoptsForeign ⟨i,⟨_,r,w,w⟩⟩ j) :
    Fitting (adoptedRecord vol t handle disk) j w := by
  have hun := hx vol.ns vol.name vol _ _ _ handle disks disk hi hl ha rfl hh hans hf
  obtain ⟨hs,_,hname,_⟩ := adoptedRecord_fields vol t handle disk
  obtain ⟨hr,hz,hst⟩ := describes_none hd
  intro d hm hn
  rw [namesDisk, decide_eq_true_eq, ← hs.spec, hname, hr, hz, hst] at hn
  rw [← hs.spec, ha, ← hs.ns, ← hs.name]
  exact hun d hm hn.2

end Invariant

def discipline : Discipline Task where
  cond := Apart
  Good := Good
  Ok := Fitting
  Free _ _ _ := True
  runs _ := True
  owner i vol := i = .reconcile vol.ns vol.name
  owner_same hi hs := by rw [hi, hs.ns, hs.name]
  good_read hc ho _ hg := good_quiet hg (reads_part hc) ho
  good_apply _ _ _ _ ha ho _ hg := good_quiet hg (applying_part ha) ho
  ok_live hg hl := hg.fits _ _ _ hl
  ok_alike ha h := by
    rw [Fitting, ← ha.ns, ← ha.name]
    exact fits_congr ha.uid (samePlace_of_eq ha.spec) ha.diskName h
  good_update hl hr _ ho _ hg := good_update hg hl hr.ns hr.name (samePlace_of_eq hr.spec) ho
  good_status hk hok ho _ hg := good_status hg hk hok ho
  good_make hi ha hm ho hx hg :=
    good_make hg hi ha.live ha.provisioned (making_makesDisk hm) ho hx.2.1
  good_destroy hi hl ha hn ho _ hg := ⟨good_destroy hg hi hl ha hn ho,fun _ => trivial⟩
  free_unnamed _ _ _ _ := trivial
  free_kept _ _ _ _ _ := trivial
  good_release hl _ ho _ hg := good_update hg hl rfl rfl (samePlace_of_eq rfl) ho
  ok_read hc ho _ h := fits_aside (by simp [reads_part hc]) ho h
  ok_update _ _ ho _ h := fits_aside (by simp [part]) ho h
  ok_status _ ho _ h := fits_aside (by simp [part]) ho h
  ok_make hi ha hm ho _ _ h := fits_step rfl rfl
    (fun _ _ _ => ⟨ha.provisioned,hi,making_makesDisk hm,_,ha.live,rfl⟩) h
  publish hi ha hx _ := by
    obtain ⟨_,hp,rfl⟩ := ha.named
    exact fitting_published hi ha.live ha.provisioned ha.tenant hp hx.1
  adopt hi hl _ ha _ hh href _ hans hf _ ho hx _ := fits_aside (by simp [part]) ho
    (fitting_adopted hi hl ha hh (adoptRefusal_none href).1 hans hf hx.2.2)

theorem good_removal {i : Task} {j : Log Task} {w w' : Ledger} {c : OpCall} {r : OpReply c}
    (hc : removals c) (ho : OpOutcome c w r w') (hg : Good j w) : Good (⟨i,⟨c,r,w,w'⟩⟩::j) w' := by
  rcases removals_cases hc with ⟨ns,name,rfl⟩ | ha
  · exact good_delete hg ho
  · exact good_aside hg (aside_part ha (by simp) (by simp)) (aside_part ha (by simp) (by simp)) ho

def requests : RequestPasses.Discipline Task where
  toFrame := discipline.toFrame
  tenant _ _ := True
  keyed hg := hg.keyed
  good_create _ _ ho _ hg := good_create hg ho
  good_removal hc ho _ hg := good_removal hc ho hg
  good_expand _ hf _ ho _ hg := good_update hg hf.live rfl rfl ⟨rfl,rfl,rfl,rfl⟩ ho
  good_modify _ hf _ ho _ hg := good_update hg hf.live rfl rfl ⟨rfl,rfl,rfl,rfl⟩ ho

section Work

theorem task_keeps (s : Service) (r : Reconciler) (i : Task) (l : Log Task) (w : Ledger)
    (hw : Every Apart l → Good l w) :
    Safe cluster (Given Apart Good i l) (fun _ _ _ => True) (program s r i) [] w := by
  cases i with
  | create t req =>
    exact triple_task (RequestPasses.createVolume_keeps (D := requests) s t req
      (by simp [requests])) hw
  | delete t volumeID =>
    exact triple_task (RequestPasses.deleteVolume_keeps (D := requests) t volumeID) hw
  | expand t volumeID n =>
    exact triple_task (RequestPasses.expandVolume_keeps (D := requests) t volumeID n
      (by simp [requests])) hw
  | modify t volumeID params =>
    exact triple_task (RequestPasses.modifyVolume_keeps (D := requests) s t volumeID params
      (by simp [requests])) hw
  | attach t req =>
    exact triple_task (RequestPasses.attachVolume_keeps (D := requests) s t req) hw
  | detach t volumeID nodeID =>
    exact triple_task (RequestPasses.detachVolume_keeps (D := requests) s t volumeID nodeID) hw
  | reconcile ns name =>
    have hk : Keeps discipline.toFrame (.reconcile ns name) l Good
      (VolumeLifecycle.reconcile r ns name) :=
      reconcile_keeps trivial (fun _ hn hm => by rw [← hn, ← hm]; rfl)
    exact triple_task hk hw

theorem unprovisioned_good {w : Ledger} (h : Unprovisioned w) : Good [] w := by
  refine ⟨h.keyed,?_,trivial⟩
  intro ns name v hv
  rcases h.volumes v (find_some hv).1 with ha | hd
  · intro d _ _
    rw [ha]
    intro x hx
    cases hx
  · exact fits_unnamed hd

/-- As long as disks are made, found and adopted apart, a volume deletes only disks
made for it, and none of a record that adopts. -/
theorem volume_destroys_own_disks (s : Service) (r : Reconciler) {w₀ : Ledger}
    {b : Stand Task OpCall OpReply Ledger} (h₀ : Unprovisioned w₀)
    (hw : Work cluster (program s r) ⟨[],w₀⟩ b) (hc : Every Apart b.journal) :
    Every DestroysOwn b.journal :=
  (work_given (task_keeps s r) hw (unprovisioned_good h₀) hc).justified

end Work

section Sample

def sampleService : Service := ⟨fun id node => id ++ node,fun p _ => .ok p,fun _ => "",false⟩

def adoptedSample (name : String) : ProxmoxVolume :=
  { requestedVolume "legacy" 0 with
    finalizers := [volumeFinalizer]
    spec := ⟨"r1","n1","local",1073741824,∅,none,∅,"",true,"r1/n1/local/vm-100-" ++ name⟩
    status := ⟨"r1/n1/local/vm-100-" ++ name,"vm-9999-" ++ name,9999,1073741824,[],true,.ready,1,[]⟩ }

def sampleLedger (name : String) : Ledger :=
  blueLedger blueTenant [adoptedSample name] [blueDisk name]

theorem sample_unprovisioned (name : String) : Unprovisioned (sampleLedger name) := by
  refine ⟨by simp [sampleLedger, blueLedger, Keyed],?_⟩
  intro v hv
  rw [sampleLedger, blueLedger, List.mem_singleton] at hv
  subst hv
  exact .inl rfl

def createSample : Task :=
  .create (some blueTenant) ⟨"pvc-a",1073741824,"r1","n1","local",∅,∅,"",none⟩

def lifetime (name : String) : Stand Task OpCall OpReply Ledger :=
  turns prompt (program sampleService plainReconciler) ⟨[],sampleLedger name⟩
    [createSample,.reconcile "blue-ns" "pvc-a",
      .delete (some blueTenant) "r1/n1/local/vm-9999-pvc-a",.reconcile "blue-ns" "pvc-a"]

/-- The disk of the adopted record has the name the new volume gets, and is deleted
with the new volume. -/
theorem namesake_volume_destroys_adopted : Unprovisioned (sampleLedger "pvc-a") ∧
    Work cluster (program sampleService plainReconciler) ⟨[],sampleLedger "pvc-a"⟩
      (lifetime "pvc-a") ∧
    (lifetime "pvc-a").world.disks = [] ∧
    ¬Every DestroysOwn (lifetime "pvc-a").journal := by
  obtain ⟨hgone,hlen,htarget,hthere,hp⟩ : (lifetime "pvc-a").world.disks = [] ∧
      ∃ hlen : 1 < (lifetime "pvc-a").journal.length,
      deletionTarget ((lifetime "pvc-a").journal.get ⟨1,hlen⟩).event.call =
        some ("r1","n1","local","vm-9999-pvc-a") ∧
      blueDisk "pvc-a" ∈ ((lifetime "pvc-a").journal.get ⟨1,hlen⟩).event.before.disks ∧
      ((lifetime "pvc-a").journal.drop 2).all
        (fun x => blueDisk "pvc-a" ∈ x.event.before.disks) = true := by decide +kernel
  refine ⟨sample_unprovisioned _,turns_work prompt_cluster _ _ _,hgone,?_⟩
  intro h
  have hx := every_get h ⟨1,hlen⟩
  have hc := deletionTarget_some htarget
  obtain ⟨ns,name,v,_,_,_,hown,_⟩ := hx _ _ _ _ hc
  have hm := hown (blueDisk "pvc-a") hthere (by decide +kernel)
  exact present_unmade (fun x hx => of_decide_eq_true (List.all_eq_true.mp hp x hx)) hm

def listsStorages : OpCall → Bool
  | .listStorages => true
  | _ => false

def staysApart (x : Line Task) : Bool :=
  match x.task with
  | .reconcile ns name => match x.event.before.lookupVolume ns name with
    | none => false
    | some v => v.spec.adopt = false ∧
        (listsStorages x.event.call → ∀ t ∈ x.event.before.tenants, ∀ s ∈ x.event.before.storages,
          x.event.before.lookupDisk v.spec.region v.spec.zone v.spec.storage
            (diskVolume t s.pluginType v).disk = none) ∧
        ∀ d ∈ x.event.after.disks, d ∈ x.event.before.disks ∨
          ∀ v' ∈ x.event.before.volumes, volumeKey v' = (ns,name) ∨ ¬namesDisk v' d
  | _ => true

theorem pluginTypeOf_ok {region zone storage p : String} {storages : List ProxmoxStorage}
    (h : pluginTypeOf region zone storage storages = .ok p) : ∃ s ∈ storages, s.pluginType = p := by
  unfold pluginTypeOf at h
  split at h
  · rename_i s hs
    split at h
    · cases h
    · cases h
      exact ⟨s,List.mem_of_find?_eq_some hs,rfl⟩
  · cases h

theorem staysApart_reconcile {x : Line Task} {ns name : String} (h : staysApart x)
    (ht : x.task = .reconcile ns name) : ∃ v, x.event.before.lookupVolume ns name = some v ∧
      v.spec.adopt = false ∧
      (listsStorages x.event.call → ∀ t ∈ x.event.before.tenants, ∀ s ∈ x.event.before.storages,
        x.event.before.lookupDisk v.spec.region v.spec.zone v.spec.storage
          (diskVolume t s.pluginType v).disk = none) ∧
      ∀ d ∈ x.event.after.disks, d ∈ x.event.before.disks ∨
        ∀ v' ∈ x.event.before.volumes, volumeKey v' = (ns,name) ∨ ¬namesDisk v' d := by
  rw [staysApart, ht] at h
  simp only at h
  split at h
  · cases h
  · rename_i v hv
    exact ⟨v,hv,of_decide_eq_true h⟩

theorem staysApart_apart {x : Line Task} {j : Log Task} (h : staysApart x) : Apart x j := by
  refine ⟨?_,?_,?_⟩
  · intro ns name v t p ht hc hv _ hten hp
    obtain ⟨v₀,hv₀,_,hfree,_⟩ := staysApart_reconcile h ht
    cases hv₀.symm.trans hv
    obtain ⟨s,hs,rfl⟩ := pluginTypeOf_ok hp
    exact owned_none (hfree (by rw [hc]; rfl) t (List.mem_of_find?_eq_some hten) s hs)
  · intro ns name ht ns' name' v' hv' hne d hd
    obtain ⟨_,_,_,_,hnew⟩ := staysApart_reconcile h ht
    obtain ⟨hm,hk⟩ := find_some hv'
    rcases hnew d hd.2 with hb | hall
    · exact absurd hb hd.1
    · rcases hall v' hm with hk' | hn
      · exact absurd (hk.symm.trans hk') hne
      · exact hn
  · intro ns name v region zone storage handle disks disk ht hv ha
    obtain ⟨v₀,hv₀,hf,_⟩ := staysApart_reconcile h ht
    cases hv₀.symm.trans hv
    rw [hf] at ha
    cases ha

theorem volume_destroys_its_disk :
    (lifetime "pvc-b").world.disks = [blueDisk "pvc-b"] ∧
    (lifetime "pvc-b").world.volumes.length = 1 ∧
    Every DestroysOwn (lifetime "pvc-b").journal := by
  obtain ⟨hdisks,hvols,hf⟩ : (lifetime "pvc-b").world.disks = [blueDisk "pvc-b"] ∧
      (lifetime "pvc-b").world.volumes.length = 1 ∧
      (lifetime "pvc-b").journal.all staysApart = true := by decide +kernel
  refine ⟨hdisks,hvols,?_⟩
  apply volume_destroys_own_disks sampleService plainReconciler
    (sample_unprovisioned "pvc-b") (turns_work prompt_cluster _ _ _)
  exact every_of_forall (fun x hx _ => staysApart_apart (List.all_eq_true.mp hf x hx))

end Sample

end ProxmoxCSI.VolumeDisks
