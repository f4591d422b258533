import ProxmoxCSI.DriveOptions
import ProxmoxCSI.PassFootprints
import ProxmoxCSI.VolumePasses
import ProxmoxCSI.VolumeService

/-!
# Modifying a volume again

A request to modify stores the parameters and compares their fingerprint with the
one the reconciler recorded. The reconciler records a fingerprint for a volume it
provisioned, once no expansion is left to do and when the parameters are not empty.
-/

set_option autoImplicit false

namespace ProxmoxCSI.ModifyConvergence
open CallProgram CallProgram.Prog CallErrors CallSchedule TextScan VolumeHandle OperatorRecords
open RecordWrites ObjectStore VolumeReconciler VolumeLifecycle VolumePasses
open VolumeService
open DirectCalls (RpcError)

section Statement

def Attached (l : Ledger) (vol : ProxmoxVolume) : Prop :=
  ∃ att, attachmentOf vol (l.attachments.filter (fun a => a.ns = vol.ns)) = some att

def paired (s : VolumeService.Service) (r : Reconciler) : Reconciler :=
  { r with paramsHash := s.paramsHash, modifyOptions := DriveOptions.modifyOptions }

def retried (s : VolumeService.Service) (r : Reconciler) (t : TenantCluster) (l : Ledger)
    (vol : ProxmoxVolume) (params : Params) : Except RpcError Unit :=
  let request := (modifyVolume s (some t) vol.status.volumeID params).run
  let l₁ := (finish prompt request [] l).world
  let l₂ := (finish prompt (reconcile (paired s r) vol.ns vol.name).run [] l₁).world
  (finish prompt request [] l₂).value

def Recorded (s : VolumeService.Service) (vol : ProxmoxVolume) (params : Params) : Prop :=
  valueOf vol.annotations appliedMutableParamsAnnotation = s.paramsHash params

/-- The pass comes to the parameters and has something to record. -/
structure Applies (vol : ProxmoxVolume) (params : Params) : Prop where
  alive : vol.deleting = false
  provisioned : vol.spec.adopt = false
  grown : roundUpSizeBytes vol.spec.capacityBytes minChunkSizeBytes ≤ vol.status.capacityBytes
  filled : params.entries ≠ []
  handle : ∃ disk, parseVolumeID vol.status.volumeID = some disk

/-- The deletion leaves the record as it is, but for the finalizer. -/
structure Released (r : Reconciler) (l : Ledger) (vol : ProxmoxVolume) : Prop where
  held : (unheld vol).finalizers ≠ []
  kept : volumeFinalizer ∈ vol.finalizers →
    vol.status.adopted = true ∨ vol.spec.adopt = true ∨ r.writes = false
  tenant : volumeFinalizer ∈ vol.finalizers →
    ∀ t, tenantFor vol.ns l.tenants = some t → t.mode ≠ .decommission

def listing (l : Ledger) (handle : Volume) : List ListedDisk :=
  l.disks.filter (fun d => d.region = handle.region ∧
    (handle.zone = "" ∨ d.node = handle.zone ∨ d.node = "") ∧ d.storage = handle.storage)

/-- The disk is adopted once more, under the handle the record has. -/
structure Readopts (l : Ledger) (vol : ProxmoxVolume) (t : TenantCluster) (handle : Volume)
    (disk : ListedDisk) : Prop where
  tenant : tenantFor vol.ns l.tenants = some t
  active : t.mode ≠ .suspended
  parsed : parseVolumeID vol.spec.adoptVolumeID = some handle
  accepted : adoptRefusal t vol handle = none
  alone : Unclaimed vol l
  found : findDisk (listing l handle) handle = some disk
  owned : ownedVMID t (newVolume handle.region handle.zone handle.storage disk.name).vmid = true
  named : vol.spec.adoptVolumeID = vol.status.volumeID

/-- The pass leaves the record ready under its handle; for a volume that was
provisioned and is not deleted it always does. -/
structure Stays (r : Reconciler) (l : Ledger) (vol : ProxmoxVolume) : Prop where
  deleted : vol.deleting = true → Released r l vol
  adopted : vol.deleting = false → vol.spec.adopt = true → ∃ t handle disk, Readopts l vol t handle
    disk

structure Converges (s : VolumeService.Service) (r : Reconciler) (t : TenantCluster) (l : Ledger)
    (vol : ProxmoxVolume) (params : Params) : Prop where
  accepted : mutableRefusal t.parameterPolicy params = none
  stays : Stays (paired s r) l vol
  applied : Recorded s vol params ∨ Applies vol params

end Statement

section Evaluation

variable {c : OpCall} {r : OpReply c} {l l' : Ledger}

theorem volume_read {ns name : String} {o : Option ProxmoxVolume} (ho : l.lookupVolume ns name = o) :
    Evaluates prompt (ask (.getVolume ns name)).run l (.ok (foundOr name o)) l := by
  refine evaluates_answer (r := foundOr name o) (fun _ => ?_) rfl
  show answer l _ = _
  rw [answer, ho]

theorem tenant_evaluates {ns : String} {t : Option TenantCluster} (ht : tenantFor ns l.tenants = t) :
    Evaluates prompt (tenant ns).run l (.ok t) l := by
  refine evaluates_try_bind (evaluates_answer (r := Except.ok l.tenants) (fun _ => rfl) rfl) ?_
  rw [ht]
  exact evaluates_done _

end Evaluation

section Store

variable {l l' : Ledger} {id : String} {v w : ProxmoxVolume} {f : ProxmoxVolume → ProxmoxVolume}

/-- The record is stored, and no other one of its namespace has the handle. -/
structure Holds (l : Ledger) (id : String) (v : ProxmoxVolume) : Prop where
  keyed : Keyed volumeKey l.volumes
  found : l.lookupVolume v.ns v.name = some v
  only : ∀ u ∈ l.volumes, u.ns = v.ns → u.status.volumeID = id → volumeKey u = volumeKey v

def Unready (l : Ledger) (id ns : String) : Prop :=
  ∀ u ∈ l.volumes, u.ns = ns → u.status.volumeID = id → u.status.phase ≠ .ready

/-- The record is there, ready under the handle and with this fingerprint. -/
structure Ready (l : Ledger) (id hash : String) (v : ProxmoxVolume) : Prop extends Holds l id v where
  handle : v.status.volumeID = id
  phase : v.status.phase = .ready
  stored : Ledger.volumeGone v = false
  applied : valueOf v.annotations appliedMutableParamsAnnotation = hash

theorem holds_eq (hl : Holds l id v) {u : ProxmoxVolume} (hu : u ∈ l.volumes)
    (hk : volumeKey u = volumeKey v) : u = v := by
  have hf := find_of_mem hl.keyed hu
  rw [hk] at hf
  exact Option.some.inj (hf.symm.trans hl.found)

theorem holds_mem (hl : Holds l id v) : v ∈ l.volumes := (find_some hl.found).1

theorem holds_unready (hl : Holds l id v)
    (hp : v.status.volumeID = id → v.status.phase ≠ .ready) : Unready l id v.ns := by
  intro u hu hn hi
  have hv := holds_eq hl hu (hl.only u hu hn hi)
  rw [hv] at hi ⊢
  exact hp hi

theorem holds_listed (hl : Holds l id v) (hid : id ≠ "") (hv : v.status.volumeID = id) :
    l.volumes.filter (fun u => u.ns = v.ns ∧ id ≠ "" ∧ u.status.volumeID = id) = [v] := by
  have hall : ∀ u ∈ l.volumes.filter (fun u => u.ns = v.ns ∧ id ≠ "" ∧ u.status.volumeID = id),
      u = v := by
    intro u hu
    obtain ⟨hm,hc⟩ := List.mem_filter.mp hu
    have hc := of_decide_eq_true hc
    exact holds_eq hl hm (hl.only u hm hc.1 hc.2.2)
  have hmem : v ∈ l.volumes.filter (fun u => u.ns = v.ns ∧ id ≠ "" ∧ u.status.volumeID = id) :=
    List.mem_filter.mpr ⟨holds_mem hl,decide_eq_true ⟨rfl,hid,hv⟩⟩
  have hnodup : (l.volumes.filter
      (fun u => u.ns = v.ns ∧ id ≠ "" ∧ u.status.volumeID = id)).Nodup :=
    (List.Nodup.of_map volumeKey hl.keyed).filter _
  generalize l.volumes.filter (fun u => u.ns = v.ns ∧ id ≠ "" ∧ u.status.volumeID = id) = us
    at hall hmem hnodup
  match us with
  | [] => cases hmem
  | [u] => rw [hall u List.mem_cons_self]
  | u::u'::_ =>
    have hu := hall u List.mem_cons_self
    have hu' := hall u' (List.mem_cons_of_mem _ List.mem_cons_self)
    rw [hu, hu', List.nodup_cons] at hnodup
    exact absurd List.mem_cons_self hnodup.1

theorem holds_of_listed (hk : Keyed volumeKey l.volumes) {ns : String}
    (hv : (answer l (.volumesByID ns id)).1 = .ok [v]) :
    Holds l id v ∧ v.ns = ns ∧ id ≠ "" ∧ v.status.volumeID = id := by
  have hf : l.volumes.filter (fun u => u.ns = ns ∧ id ≠ "" ∧ u.status.volumeID = id) = [v] :=
    Except.ok.inj hv
  have hmem : v ∈ l.volumes.filter (fun u => u.ns = ns ∧ id ≠ "" ∧ u.status.volumeID = id) := by
    rw [hf]
    exact List.mem_cons_self
  obtain ⟨hm,hc⟩ := List.mem_filter.mp hmem
  obtain ⟨hn,hid,hi⟩ := of_decide_eq_true hc
  refine ⟨⟨hk,find_of_mem hk hm,?_⟩,hn,hid,hi⟩
  intro u hu hun hui
  have hl : u ∈ l.volumes.filter (fun u => u.ns = ns ∧ id ≠ "" ∧ u.status.volumeID = id) :=
    List.mem_filter.mpr ⟨hu,decide_eq_true ⟨hun.trans hn,hid,hui⟩⟩
  rw [hf] at hl
  rw [List.mem_singleton.mp hl]

/-- The other records and the rest of the ledger are as before. -/
structure Besides (l l' : Ledger) (v : ProxmoxVolume) : Prop extends Kept .volumes l l' where
  others : ∀ u, volumeKey u ≠ volumeKey v → (u ∈ l'.volumes ↔ u ∈ l.volumes)

theorem mem_settle_ne {k : String × String} (hf : ∀ u, volumeKey u = k → volumeKey (f u) = k)
    {us : List ProxmoxVolume} {u : ProxmoxVolume} (hu : volumeKey u ≠ k) :
    u ∈ settle volumeKey Ledger.volumeGone us k f ↔ u ∈ us := by
  unfold settle
  split
  · rfl
  · split
    · simp [remove, hu]
    · rw [ObjectStore.modify, List.mem_map]
      constructor
      · rintro ⟨o,ho,rfl⟩
        split at hu
        · rename_i hk
          exact absurd (hf o hk) hu
        · rename_i hk
          rw [if_neg hk]
          exact ho
      · intro hm
        exact ⟨u,hm,if_neg hu⟩

theorem put_holds (hl : Holds l id v) (hk : volumeKey w = volumeKey v) (hu : w.uid = v.uid)
    (hf : ∀ u, volumeKey u = volumeKey w → volumeKey (f u) = volumeKey w)
    (hg : Ledger.volumeGone (f v) = false) (hans : Kept .volumes l (l.putVolume w f).2) :
    ∃ l', l.putVolume w f = (.ok (),l') ∧ Holds l' id (f v) ∧ Besides l l' v := by
  have hn : w.ns = v.ns := congrArg Prod.fst hk
  have hm : w.name = v.name := congrArg Prod.snd hk
  have hfv : volumeKey (f v) = volumeKey v := (hf v hk.symm).trans hk
  have hfound : l.lookupVolume w.ns w.name = some v := by
    rw [hn, hm]
    exact hl.found
  have hput : (l.putVolume w f).2.volumes =
      settle volumeKey Ledger.volumeGone l.volumes (volumeKey w) f := by
    simp only [Ledger.putVolume, hfound, hu, ne_eq, not_true_eq_false, if_false]
  refine ⟨(l.putVolume w f).2,Prod.ext ?_ rfl,⟨putVolume_keyed hf hl.keyed,?_,?_⟩,⟨hans,?_⟩⟩
  · simp only [Ledger.putVolume, hfound, hu, ne_eq, not_true_eq_false, if_false]
  · have h := putVolume_kept hf hfound hu.symm hg
    have hfn : (f v).ns = w.ns := (congrArg Prod.fst hfv).trans hn.symm
    have hfm : (f v).name = w.name := (congrArg Prod.snd hfv).trans hm.symm
    rw [hfn, hfm]
    exact h
  · intro u hmem hun hui
    rw [hput] at hmem
    rw [hfv]
    by_cases hne : volumeKey u = volumeKey w
    · exact hne.trans hk
    · exact hl.only u ((mem_settle_ne hf hne).mp hmem) (hun.trans (congrArg Prod.fst hfv)) hui
  · intro u hne
    rw [hput]
    exact mem_settle_ne hf (fun h => hne (h.trans hk))

theorem put_gone (hl : Holds l id v) (hk : volumeKey w = volumeKey v) (hu : w.uid = v.uid)
    (hg : Ledger.volumeGone (f v) = true) : ∃ l', l.putVolume w f = (.ok (),l') ∧
      l'.attachments = l.attachments ∧ l'.lookupVolume v.ns v.name = none ∧ Unready l' id v.ns := by
  have hfound : l.lookupVolume w.ns w.name = some v := by
    rw [show w.ns = v.ns from congrArg Prod.fst hk, show w.name = v.name from congrArg Prod.snd hk]
    exact hl.found
  have hput : l.putVolume w f =
      (.ok (),{ l with volumes := remove volumeKey l.volumes (volumeKey v) }) := by
    have hf : find volumeKey l.volumes (volumeKey v) = some v := hl.found
    simp only [Ledger.putVolume, hfound, hu, ne_eq, not_true_eq_false, if_false, settle, hk, hf, hg,
      if_true]
  refine ⟨_,hput,rfl,find_remove_self,?_⟩
  intro u hm hn hi
  obtain ⟨hm,hne⟩ := List.mem_filter.mp hm
  exact absurd (hl.only u hm hn hi) (of_decide_eq_true hne)

end Store

section Requests

variable {l l' : Ledger} {id : String} {v : ProxmoxVolume} {s : VolumeService.Service}
  {t : TenantCluster} {p : Params}

theorem readyVolumeByID_evaluates (hl : Holds l id v) (hid : id ≠ "") (hv : v.status.volumeID = id)
    (hp : v.status.phase = .ready) :
    Evaluates prompt (readyVolumeByID v.ns id).run l (.ok v) l := by
  have hlist : answer l (.volumesByID v.ns id) = (.ok [v],l) := by
    rw [answer, holds_listed hl hid hv]
  have hfound : Evaluates prompt (volumeByID v.ns id).run l (.ok v) l :=
    evaluates_try_bind (evaluates_answer (fun _ => hlist) rfl) (evaluates_done _)
  exact evaluates_try_bind hfound (evaluates_try_bind (evaluates_require hp) (evaluates_done _))

theorem readyVolumeByID_fails {ns : String} (hu : Unready l id ns) :
    ∃ e, Evaluates prompt (readyVolumeByID ns id).run l (.error e) l := by
  cases hf : l.volumes.filter (fun u => u.ns = ns ∧ id ≠ "" ∧ u.status.volumeID = id) with
  | nil =>
    have hlist : answer l (.volumesByID ns id) = (.ok [],l) := by
      rw [answer, hf]
    exact ⟨_,evaluates_try_error (evaluates_try_bind (evaluates_answer (fun _ => hlist) rfl)
      (evaluates_done _))⟩
  | cons u us =>
    have hlist : answer l (.volumesByID ns id) = (.ok (u::us),l) := by
      rw [answer, hf]
    have hmem : u ∈ l.volumes.filter (fun u => u.ns = ns ∧ id ≠ "" ∧ u.status.volumeID = id) := by
      rw [hf]
      exact List.mem_cons_self
    obtain ⟨hm,hc⟩ := List.mem_filter.mp hmem
    have hc := of_decide_eq_true hc
    have hfound : Evaluates prompt (volumeByID ns id).run l (.ok u) l :=
      evaluates_try_bind (evaluates_answer (fun _ => hlist) rfl) (evaluates_done _)
    exact ⟨_,evaluates_try_bind hfound
      (evaluates_try_error (evaluates_require_error (hu u hm hc.1 hc.2.2)))⟩

theorem modifyVolume_fails (hu : Unready l id t.ns) :
    ∃ e, Evaluates prompt (modifyVolume s (some t) id p).run l (.error e) l := by
  by_cases hid : id = ""
  · exact ⟨_,evaluates_try_error (evaluates_require_error (not_not_intro hid))⟩
  · obtain ⟨e,he⟩ := readyVolumeByID_fails hu
    exact ⟨e,evaluates_try_bind (evaluates_require hid) (evaluates_try_error he)⟩

def modifyAnswer (s : VolumeService.Service) (v : ProxmoxVolume) (p : Params) :
    Except RpcError Unit :=
  if valueOf v.annotations appliedMutableParamsAnnotation = s.paramsHash p then .ok ()
  else .error (DirectCalls.status .unavailable ("modifying volume " ++ v.name))

theorem modifyAnswer_ok : modifyAnswer s v p = .ok () ↔ Recorded s v p := by
  unfold modifyAnswer Recorded
  split
  · rename_i h
    exact iff_of_true rfl h
  · rename_i h
    exact iff_of_false (fun h => by cases h) h

theorem modificationOf_evaluates (hl : Holds l id (modified v p)) :
    Evaluates prompt (modificationOf s v p).run l (modifyAnswer s v p) l := by
  have hread : answer l (.getVolume v.ns v.name) = (.ok (modified v p),l) := by
    rw [answer, show l.lookupVolume v.ns v.name = some (modified v p) from hl.found]
    rfl
  refine evaluates_try_bind (evaluates_answer (fun _ => hread) rfl) ?_
  show Evaluates prompt (ite (valueOf v.annotations appliedMutableParamsAnnotation =
    s.paramsHash p) _ _ : A Unit).run l _ l
  unfold modifyAnswer
  split
  · exact evaluates_done _
  · exact evaluates_done _

theorem modifyRecord_evaluates (hl : Holds l id v) (hg : Ledger.volumeGone v = false)
    (ha : Attached l v) : ∃ l', Holds l' id (modified v p) ∧ Besides l l' v ∧
      Evaluates prompt (modifyRecord s v p).run l (modifyAnswer s v p) l' := by
  obtain ⟨l',hput,hl',hb⟩ := put_holds (w := modified v p)
    (f := writtenVolume (modified v p)) hl rfl rfl (writtenVolume_key _) hg
    (answer_kept (.update (modified v p)) l)
  refine ⟨l',hl',hb,?_⟩
  obtain ⟨att,hatt⟩ := ha
  refine evaluates_try_bind (evaluates_answer (fun _ => hput) rfl) ?_
  refine evaluates_try_bind (evaluates_answer
    (r := Except.ok (l'.attachments.filter (fun a => a.ns = v.ns))) (fun _ => rfl) rfl) ?_
  rw [hb.attachments (by decide)]
  simp only [hatt]
  exact modificationOf_evaluates hl'

theorem modifyVolume_evaluates {x : Except RpcError Unit} (hl : Holds l id v) (hid : id ≠ "")
    (hn : v.ns = t.ns) (hv : v.status.volumeID = id) (hp : v.status.phase = .ready)
    (hr : mutableRefusal t.parameterPolicy p = none)
    (hx : Evaluates prompt (modifyRecord s v p).run l x l') :
    Evaluates prompt (modifyVolume s (some t) id p).run l x l' := by
  refine evaluates_try_bind (evaluates_require hid) ?_
  show Evaluates prompt (readyVolumeByID t.ns id >>= _ : A Unit).run l _ l'
  rw [← hn]
  refine evaluates_try_bind (readyVolumeByID_evaluates hl hid hv hp) ?_
  simp only [hr]
  exact hx

/-- The update of a record that nothing holds back removes it. -/
theorem modifyRecord_removes (hl : Holds l id v) (hg : Ledger.volumeGone v = true)
    (ha : Attached l v) : ∃ e l', Evaluates prompt (modifyRecord s v p).run l (.error e) l' ∧
      l'.lookupVolume v.ns v.name = none ∧ Unready l' id v.ns := by
  obtain ⟨l',hput,hatts,hnone,hu⟩ := put_gone (w := modified v p)
    (f := writtenVolume (modified v p)) hl rfl rfl hg
  obtain ⟨att,hatt⟩ := ha
  have hread : answer l' (.getVolume v.ns v.name) = (.error (missing v.name),l') := by
    rw [answer, hnone]
    rfl
  refine ⟨internal ("re-reading volume: " ++ (missing v.name).text),l',?_,hnone,hu⟩
  refine evaluates_try_bind (evaluates_answer (fun _ => hput) rfl) ?_
  refine evaluates_try_bind (evaluates_answer
    (r := Except.ok (l'.attachments.filter (fun a => a.ns = v.ns))) (fun _ => rfl) rfl) ?_
  rw [hatts]
  simp only [hatt]
  exact evaluates_try_error (evaluates_answer (fun _ => hread) rfl)

/-- Only parameters the policy accepts are answered with success. -/
theorem modifyVolume_returns (s : VolumeService.Service) (t : TenantCluster) (id : String)
    (p : Params) : (modifyVolume s (some t) id p).run.Returns
      (IfOk (fun _ => mutableRefusal t.parameterPolicy p = none)) := by
  refine returns_try_bind (P := fun _ => True) returns_any ?_
  intro _ _
  refine returns_try_bind (P := fun _ => True) returns_any ?_
  intro vol _
  cases hr : mutableRefusal t.parameterPolicy p with
  | some text => trivial
  | none =>
    have h : (modifyRecord s vol p).run.Returns (IfOk (fun _ => (none : Option String) = none)) := by
      simpa using returns_any (x := modifyRecord s vol p)
    exact h

end Requests

section Passes

variable {l l₁ l' : Ledger} {id hash ns : String} {v w : ProxmoxVolume} {r : Reconciler}
  {t : TenantCluster} {x : Result} {α : Type}

def EndsUnready (y : P Result) (l : Ledger) (id ns : String) : Prop :=
  ∃ a l', Evaluates prompt y.run l a l' ∧ Unready l' id ns

def EndsReady (y : P Result) (l : Ledger) (id hash : String) (v : ProxmoxVolume) : Prop :=
  ∃ a l' v', Evaluates prompt y.run l a l' ∧ l'.attachments = l.attachments ∧
    Ready l' id hash v' ∧ volumeKey v' = volumeKey v

theorem endsUnready_bind {y : P α} {f : α → P Result} {a : α}
    (hy : Evaluates prompt y.run l (.ok a) l₁) (hf : EndsUnready (f a) l₁ id ns) :
    EndsUnready (y >>= f) l id ns := by
  obtain ⟨b,l',he,hu⟩ := hf
  exact ⟨b,l',evaluates_try_bind hy he,hu⟩

theorem endsReady_bind {y : P α} {f : α → P Result} {a : α}
    (hy : Evaluates prompt y.run l (.ok a) l₁) (hatts : l₁.attachments = l.attachments)
    (hk : volumeKey w = volumeKey v) (hf : EndsReady (f a) l₁ id hash w) :
    EndsReady (y >>= f) l id hash v := by
  obtain ⟨b,l',v',he,ha,hr,hkey⟩ := hf
  exact ⟨b,l',v',evaluates_try_bind hy he,ha.trans hatts,hr,hkey.trans hk⟩

theorem endsReady_pure (hr : Ready l id hash v) : EndsReady (pure x) l id hash v :=
  ⟨_,l,v,evaluates_done _,rfl,hr,rfl⟩

theorem updateStatus_evaluates (hl : Holds l id v) (hg : Ledger.volumeGone v = false)
    (hk : volumeKey w = volumeKey v) (hu : w.uid = v.uid) : ∃ l',
      Evaluates prompt (updateStatus w).run l (.ok (VolumeReconciler.observed w)) l' ∧
      Holds l' id (reportedVolume (VolumeReconciler.observed w) v) ∧ Besides l l' v := by
  obtain ⟨l',hput,hl',hb⟩ := put_holds (w := VolumeReconciler.observed w)
    (f := reportedVolume (VolumeReconciler.observed w)) hl hk hu (reportedVolume_key _) hg
    (answer_kept (.updateStatus (VolumeReconciler.observed w)) l)
  have hneed : Evaluates prompt (need (.updateStatus (VolumeReconciler.observed w))
      ("updating " ++ slashed w.ns w.name ++ " status: ")).run l (.ok ()) l' :=
    evaluates_answer (fun _ => hput) rfl
  exact ⟨l',evaluates_try_bind hneed (evaluates_done _),hl',hb⟩

theorem noted_unready (hl : Holds l id v) (hg : Ledger.volumeGone v = false)
    (hk : volumeKey w = volumeKey v) (hu : w.uid = v.uid)
    (hp : w.status.volumeID = id → w.status.phase ≠ .ready) :
    EndsUnready (do let _ ← updateStatus w; pure x) l id v.ns := by
  obtain ⟨l',he,hl',_⟩ := updateStatus_evaluates hl hg hk hu
  have hend : Unready l' id v.ns :=
    holds_unready (v := reportedVolume (VolumeReconciler.observed w) v) hl' hp
  exact endsUnready_bind he ⟨_,l',evaluates_done _,hend⟩

theorem noted_ready (hr : Ready l id hash v) (hk : volumeKey w = volumeKey v) (hu : w.uid = v.uid)
    (hi : w.status.volumeID = id) (hp : w.status.phase = .ready) :
    EndsReady (do let _ ← updateStatus w; pure x) l id hash v := by
  obtain ⟨l',he,hl',hb⟩ := updateStatus_evaluates hr.toHolds hr.stored hk hu
  refine endsReady_bind (w := reportedVolume (VolumeReconciler.observed w) v) he
    (hb.attachments (by decide)) rfl (endsReady_pure ?_)
  exact ⟨hl',hi,hp,hr.stored,hr.applied⟩

theorem reject_unready (hl : Holds l id v) (hg : Ledger.volumeGone v = false)
    (hk : volumeKey w = volumeKey v) (hu : w.uid = v.uid) {reason : Reason} {message : String} :
    EndsUnready (reject w reason message) l id v.ns :=
  noted_unready hl hg (w := withPhase (setCondition (setCondition w .admitted false reason message)
    .ready false reason message) .rejected) hk hu (fun _ h => by cases h)

theorem attachments_evaluates {pre ns : String} :
    Evaluates prompt (need (.listAttachments ns) pre).run l
    (.ok (l.attachments.filter (fun a => a.ns = ns))) l :=
  evaluates_answer (r := Except.ok (l.attachments.filter (fun a => a.ns = ns))) (fun _ => rfl) rfl

section Provisioned

theorem invalidVolumeID_ready (hr : Ready l id hash v) : EndsReady (invalidVolumeID v) l id hash v :=
  noted_ready hr rfl rfl hr.handle hr.phase

theorem reconcileExpand_ready (hr : Ready l id hash v) (ha : Attached l v) (sizeBytes : ℤ) :
    EndsReady (reconcileExpand r v sizeBytes) l id hash v := by
  obtain ⟨att,hatt⟩ := ha
  unfold reconcileExpand
  cases parseVolumeID v.status.volumeID with
  | none => exact invalidVolumeID_ready hr
  | some disk =>
    refine endsReady_bind attachments_evaluates rfl rfl ?_
    simp only [hatt]
    refine endsReady_bind (evaluates_answer (r := Except.ok ()) (fun _ => rfl) rfl) rfl rfl ?_
    exact noted_ready hr rfl rfl hr.handle hr.phase

def stamped (v : ProxmoxVolume) (applied : String) : ProxmoxVolume :=
  { v with annotations := v.annotations.insert appliedMutableParamsAnnotation applied }

theorem recordAppliedParams_ready (hr : Ready l id hash v) (applied : String) :
    EndsReady (recordAppliedParams r v applied) l id applied v := by
  obtain ⟨l',hput,hl',hb⟩ := put_holds (w := stamped v applied)
    (f := writtenVolume (stamped v applied)) hr.toHolds rfl rfl (writtenVolume_key _) hr.stored
    (answer_kept (.update (stamped v applied)) l)
  have hneed : Evaluates prompt (need (.update (stamped v applied))
      ("recording applied params on " ++ slashed v.ns v.name ++ ": ")).run l (.ok ()) l' :=
    evaluates_answer (fun _ => hput) rfl
  refine endsReady_bind (w := stamped v applied) hneed (hb.attachments (by decide)) rfl
    (endsReady_pure ?_)
  refine ⟨hl',hr.handle,hr.phase,hr.stored,?_⟩
  show ((v.annotations.insert appliedMutableParamsAnnotation applied).lookup _).getD "" = applied
  rw [AList.lookup_insert]
  rfl

theorem modifyOn_ready (hr : Ready l id hash v) {options : Params} {applied : String}
    (ho : r.modifyOptions v.spec.mutableParameters = .ok options) (att : ProxmoxVolumeAttachment)
    (disk : Volume) : EndsReady (modifyOn r v applied att disk) l id applied v := by
  unfold modifyOn
  rw [ho]
  refine endsReady_bind (evaluates_answer (r := Except.ok ()) (fun _ => rfl) rfl) rfl rfl ?_
  exact recordAppliedParams_ready hr applied

theorem reconcileModify_ready (hr : Ready l id hash v) (ha : Attached l v) {options : Params}
    (ho : r.modifyOptions v.spec.mutableParameters = .ok options) (applied : String) :
    (∃ disk, parseVolumeID v.status.volumeID = some disk) ∧
        EndsReady (reconcileModify r v applied) l id applied v ∨
      (¬∃ disk, parseVolumeID v.status.volumeID = some disk) ∧
        EndsReady (reconcileModify r v applied) l id hash v := by
  obtain ⟨att,hatt⟩ := ha
  cases hd : parseVolumeID v.status.volumeID with
  | none =>
    refine .inr ⟨by simp,endsReady_bind attachments_evaluates rfl rfl ?_⟩
    simp only [hatt, hd]
    exact invalidVolumeID_ready hr
  | some disk =>
    refine .inl ⟨⟨disk,rfl⟩,endsReady_bind attachments_evaluates rfl rfl ?_⟩
    simp only [hatt, hd]
    exact modifyOn_ready hr ho att disk

/-- The pass over a provisioned record leaves it ready. The fingerprint is recorded
when the pass comes to the parameters, and is the old one otherwise. -/
theorem reconcileReadyVolume_ready (hr : Ready l id hash v) (ha : Attached l v) {options : Params}
    (ho : r.modifyOptions v.spec.mutableParameters = .ok options) (hd : v.deleting = false)
    (hs : v.spec.adopt = false) : ∃ applied, EndsReady (reconcileReadyVolume r v) l id applied v ∧
      (Applies v v.spec.mutableParameters → applied = r.paramsHash v.spec.mutableParameters) ∧
      (¬Applies v v.spec.mutableParameters → applied = hash) := by
  unfold reconcileReadyVolume
  dsimp only
  split
  · rename_i hgrow
    refine ⟨hash,reconcileExpand_ready hr ha _,?_,fun _ => rfl⟩
    intro happ
    exact absurd hgrow (Int.not_lt.mpr happ.grown)
  · rename_i hgrow
    split
    · rename_i hc
      rcases reconcileModify_ready hr ha ho (r.paramsHash v.spec.mutableParameters) with
        ⟨hdisk,he⟩ | ⟨hdisk,he⟩
      · exact ⟨_,he,fun _ => rfl,fun hn => absurd ⟨hd,hs,Int.not_lt.mp hgrow,hc.1,hdisk⟩ hn⟩
      · exact ⟨hash,he,fun happ => absurd happ.handle hdisk,fun _ => rfl⟩
    · rename_i hc
      refine ⟨hash,endsReady_pure hr,?_,fun _ => rfl⟩
      intro happ
      by_contra hne
      refine hc ⟨happ.filled,?_⟩
      rw [hr.applied]
      exact fun h => hne h.symm

end Provisioned

section Deleted

theorem releaseRecord_ends (hr : Ready l id hash v) (hd : v.deleting = true) :
    ((unheld v).finalizers ≠ [] → EndsReady (releaseRecord v) l id hash v) ∧
      ((unheld v).finalizers = [] → EndsUnready (releaseRecord v) l id v.ns) := by
  constructor
  · intro hf
    have hg : Ledger.volumeGone (unheld v) = false := by
      simp [Ledger.volumeGone, hf]
    obtain ⟨l',hput,hl',hb⟩ := put_holds (w := unheld v) (f := writtenVolume (unheld v))
      hr.toHolds rfl rfl (writtenVolume_key _) hg (answer_kept (.update (unheld v)) l)
    have hneed : Evaluates prompt (need (.update (unheld v))
        ("releasing " ++ slashed v.ns v.name ++ ": ")).run l (.ok ()) l' :=
      evaluates_answer (fun _ => hput) rfl
    refine endsReady_bind (w := unheld v) hneed (hb.attachments (by decide)) rfl
      (endsReady_pure ?_)
    exact ⟨hl',hr.handle,hr.phase,hg,hr.applied⟩
  · intro hf
    have hg : Ledger.volumeGone (writtenVolume (unheld v) v) = true := by
      simp [Ledger.volumeGone, writtenVolume, hd, hf]
    obtain ⟨l',hput,_,_,hu⟩ := put_gone (w := unheld v) (f := writtenVolume (unheld v))
      hr.toHolds rfl rfl hg
    have hneed : Evaluates prompt (need (.update (unheld v))
        ("releasing " ++ slashed v.ns v.name ++ ": ")).run l (.ok ()) l' :=
      evaluates_answer (fun _ => hput) rfl
    exact endsUnready_bind hneed ⟨_,l',evaluates_done _,hu⟩

theorem reconcileDeleteProvisioned_unready (hr : Ready l id hash v) (ha : Attached l v) :
    EndsUnready (reconcileDeleteProvisioned r v) l id v.ns := by
  obtain ⟨att,hatt⟩ := ha
  refine endsUnready_bind attachments_evaluates ?_
  have hsome : ((l.attachments.filter (fun a => a.ns = v.ns)).find?
      (fun a => a.volumeName = v.name)).isSome := by
    rw [List.find?_isSome]
    have hsome := List.find?_some (p := fun a : ProxmoxVolumeAttachment =>
      a.volumeName = v.name ∧ a.attached) hatt
    exact ⟨att,List.mem_of_find?_eq_some hatt,decide_eq_true (of_decide_eq_true hsome).1⟩
  obtain ⟨other,hother⟩ := Option.isSome_iff_exists.mp hsome
  simp only [hother]
  exact noted_unready hr.toHolds hr.stored rfl rfl (fun _ h => by cases h)

theorem reconcileDelete_ends (hr : Ready l id hash v) (ha : Attached l v) (hd : v.deleting = true) :
    (Released r l v → EndsReady (reconcileDelete r v) l id hash v) ∧
      (¬Released r l v → EndsUnready (reconcileDelete r v) l id v.ns) := by
  have hheld : v.finalizers ≠ [] := by
    have hg := hr.stored
    simp only [Ledger.volumeGone, hd, true_and, decide_eq_false_iff_not] at hg
    exact hg
  unfold reconcileDelete
  by_cases hf : volumeFinalizer ∈ v.finalizers
  · rw [if_neg (not_not_intro hf)]
    by_cases hw : ¬v.status.adopted ∧ ¬v.spec.adopt ∧ r.writes
    · rw [if_pos hw]
      have hnot : ¬Released r l v := by
        intro h
        have := h.kept hf
        simp_all
      refine ⟨fun h => absurd h hnot,fun _ => ?_⟩
      exact endsUnready_bind (tenant_evaluates rfl) (reconcileDeleteProvisioned_unready hr ha)
    · rw [if_neg hw]
      have hkept : v.status.adopted = true ∨ v.spec.adopt = true ∨ r.writes = false := by
        by_contra hno
        simp only [not_or, Bool.not_eq_true, Bool.not_eq_false] at hno
        exact hw (by simp [hno])
      obtain ⟨hready,hgone⟩ := releaseRecord_ends hr hd
      have hrelease : (∀ t, tenantFor v.ns l.tenants = some t → t.mode ≠ .decommission) →
          (Released r l v → EndsReady (releaseRecord v) l id hash v) ∧
            (¬Released r l v → EndsUnready (releaseRecord v) l id v.ns) := by
        intro ht
        refine ⟨fun h => hready h.held,fun h => hgone ?_⟩
        by_contra hne
        exact h ⟨hne,fun _ => hkept,fun _ => ht⟩
      cases ht : tenantFor v.ns l.tenants with
      | none =>
        obtain ⟨h₁,h₂⟩ := hrelease (by simp [ht])
        exact ⟨fun h => endsReady_bind (tenant_evaluates ht) rfl rfl (h₁ h),
          fun h => endsUnready_bind (tenant_evaluates ht) (h₂ h)⟩
      | some t =>
        by_cases hm : t.mode = .decommission
        · have hnot : ¬Released r l v := fun h => h.tenant hf t ht hm
          refine ⟨fun h => absurd h hnot,fun _ => endsUnready_bind (tenant_evaluates ht) ?_⟩
          rw [releaseAdopted, if_pos hm]
          exact noted_unready hr.toHolds hr.stored rfl rfl (fun _ h => by cases h)
        · obtain ⟨h₁,h₂⟩ := hrelease (fun t' ht' => by cases ht.symm.trans ht'; exact hm)
          refine ⟨fun h => endsReady_bind (tenant_evaluates ht) rfl rfl ?_,
            fun h => endsUnready_bind (tenant_evaluates ht) ?_⟩
          · rw [releaseAdopted, if_neg hm]
            exact h₁ h
          · rw [releaseAdopted, if_neg hm]
            exact h₂ h
  · rw [if_pos hf]
    have hsame : (unheld v).finalizers = v.finalizers := by
      refine List.filter_eq_self.mpr ?_
      intro f hmem
      exact decide_eq_true (fun h => hf (h ▸ hmem))
    refine ⟨fun _ => endsReady_pure hr,fun h => absurd ⟨?_,?_,?_⟩ h⟩
    · rw [hsame]
      exact hheld
    · exact fun h => absurd h hf
    · exact fun h => absurd h hf

end Deleted

section Adopted

theorem addLabel_annotations (v : ProxmoxVolume) (label : String × String) :
    (addLabel v label).annotations = v.annotations := by
  unfold addLabel
  split
  · rfl
  · rfl

theorem held_annotations (v : ProxmoxVolume) (t : TenantCluster) :
    (held v t).annotations = v.annotations := by
  simp only [held, ownerLabels, List.foldl_cons, List.foldl_nil, addLabel_annotations]

theorem hold_evaluates (hr : Ready l id hash v) : ∃ l₁ v₁,
    Evaluates prompt (hold v t).run l (.ok v₁) l₁ ∧ l₁.attachments = l.attachments ∧
      Ready l₁ id hash v₁ ∧ volumeKey v₁ = volumeKey v ∧ v₁.spec = v.spec := by
  unfold hold
  split
  · exact ⟨l,v,evaluates_done _,rfl,hr,rfl,rfl⟩
  · have hrev := held_revised v t
    have hkey : volumeKey (held v t) = volumeKey v := Prod.ext hrev.ns.symm hrev.name.symm
    have hw : writtenVolume (held v t) v = held v t := written_revised hrev
    have hg : Ledger.volumeGone (held v t) = false := by
      have hne : (held v t).finalizers ≠ [] :=
        List.ne_nil_of_mem (held_finalizers v t).2
      simp [Ledger.volumeGone, hne]
    obtain ⟨l₁,hput,hl₁,hb⟩ := put_holds (w := held v t) (f := writtenVolume (held v t)) hr.toHolds
      hkey hrev.uid.symm (writtenVolume_key _) (by rw [hw]; exact hg)
      (answer_kept (.update (held v t)) l)
    rw [hw] at hl₁
    have hneed : Evaluates prompt (need (.update (held v t))
        ("holding " ++ slashed v.ns v.name ++ ": ")).run l (.ok ()) l₁ :=
      evaluates_answer (fun _ => hput) rfl
    refine ⟨l₁,held v t,evaluates_try_bind hneed (evaluates_done _),hb.attachments (by decide),?_,
      hkey,hrev.spec.symm⟩
    refine ⟨hl₁,?_,?_,hg,?_⟩
    · rw [← hrev.status]
      exact hr.handle
    · rw [← hrev.status]
      exact hr.phase
    · rw [held_annotations]
      exact hr.applied

theorem adoptDisk_ends (hr : Ready l id hash v) {handle : Volume} {disk : ListedDisk}
    (ho : ownedVMID t (newVolume handle.region handle.zone handle.storage disk.name).vmid = true) :
    (v.spec.adoptVolumeID = id → EndsReady (adoptDisk r v t handle disk) l id hash v) ∧
      (v.spec.adoptVolumeID ≠ id → EndsUnready (adoptDisk r v t handle disk) l id v.ns) := by
  obtain ⟨l₁,v₁,he,hatts,hr₁,hk,hs⟩ := hold_evaluates (t := t) hr
  obtain ⟨hsame,hi,_,hp⟩ := adoptedRecord_fields v₁ t handle disk
  have hkey : volumeKey (adoptedRecord v₁ t handle disk) = volumeKey v₁ :=
    Prod.ext hsame.ns.symm hsame.name.symm
  rw [hs] at hi
  unfold adoptDisk
  dsimp only
  rw [if_neg (by simp [ho])]
  constructor
  · intro hid
    refine endsReady_bind he hatts hk ?_
    exact noted_ready hr₁ hkey hsame.uid.symm (hi.trans hid) hp
  · intro hid
    have hns : v₁.ns = v.ns := congrArg Prod.fst hk
    rw [← hns]
    refine endsUnready_bind he ?_
    refine noted_unready hr₁.toHolds hr₁.stored hkey hsame.uid.symm ?_
    intro h
    exact absurd (hi.symm.trans h) hid

theorem duplicate_answers (hc : claim v ≠ "") : Evaluates prompt (duplicate v).run l
    (.ok (olderAmong v (l.volumes.filter (fun u => claim u = claim v)))) l := by
  unfold duplicate
  rw [if_neg hc]
  exact evaluates_try_bind (evaluates_answer
    (r := Except.ok (l.volumes.filter (fun u => claim u = claim v))) (fun _ => rfl) rfl)
    (evaluates_done _)

theorem listDisks_evaluates (handle : Volume) :
    Evaluates prompt (ask (.listDisks handle.region handle.zone handle.storage)).run l
      (.ok (.ok (listing l handle))) l := evaluates_answer (fun _ => rfl) rfl

theorem claim_handle (hr : Ready l id hash v) (hid : id ≠ "") : claim v = id := by
  unfold claim
  rw [hr.handle, if_pos hid]

theorem reconcileAdopt_ready (hr : Ready l id hash v) (hid : id ≠ "") {handle : Volume}
    {disk : ListedDisk} (h : Readopts l v t handle disk) :
    EndsReady (reconcileAdopt r v) l id hash v := by
  have hnamed : v.spec.adoptVolumeID = id := h.named.trans hr.handle
  have halone : olderAmong v (l.volumes.filter (fun u => claim u = claim v)) = none := h.alone
  refine endsReady_bind (tenant_evaluates h.tenant) rfl rfl ?_
  dsimp only
  rw [if_neg h.active, if_neg (by rw [hnamed]; exact hid)]
  unfold adoptHandle
  rw [h.parsed]
  dsimp only
  rw [h.accepted]
  refine endsReady_bind (duplicate_answers (by rw [claim_handle hr hid]; exact hid)) rfl rfl ?_
  rw [halone]
  refine endsReady_bind (listDisks_evaluates handle) rfl rfl ?_
  simp only [h.found]
  exact (adoptDisk_ends hr h.owned).1 hnamed

/-- A pass that does not adopt the disk again takes the record out of use. -/
theorem reconcileAdopt_unready (hr : Ready l id hash v) (hid : id ≠ "")
    (h : ¬∃ t handle disk, Readopts l v t handle disk) :
    EndsUnready (reconcileAdopt r v) l id v.ns := by
  have hreject : ∀ {w : ProxmoxVolume} {reason : Reason} {message : String},
      volumeKey w = volumeKey v → w.uid = v.uid → EndsUnready (reject w reason message) l id v.ns :=
    fun hk hu => reject_unready hr.toHolds hr.stored hk hu
  cases ht : tenantFor v.ns l.tenants with
  | none => exact endsUnready_bind (tenant_evaluates ht) (hreject rfl rfl)
  | some t =>
    refine endsUnready_bind (tenant_evaluates ht) ?_
    dsimp only
    by_cases hm : t.mode = .suspended
    · rw [if_pos hm]
      exact hreject rfl rfl
    · rw [if_neg hm]
      by_cases hn : v.spec.adoptVolumeID = ""
      · rw [if_pos hn]
        exact hreject rfl rfl
      · rw [if_neg hn]
        unfold adoptHandle
        cases hp : parseVolumeID v.spec.adoptVolumeID with
        | none => exact hreject rfl rfl
        | some handle =>
          dsimp only
          cases ha : adoptRefusal t v handle with
          | some reason => exact hreject rfl rfl
          | none =>
            dsimp only
            refine endsUnready_bind
              (duplicate_answers (by rw [claim_handle hr hid]; exact hid)) ?_
            cases hu : olderAmong v (l.volumes.filter (fun u => claim u = claim v)) with
            | some other => exact hreject rfl rfl
            | none =>
              refine endsUnready_bind (listDisks_evaluates handle) ?_
              dsimp only
              cases hd : findDisk (listing l handle) handle with
              | none => exact noted_unready hr.toHolds hr.stored rfl rfl (fun _ h => by cases h)
              | some disk =>
                dsimp only
                by_cases ho : ownedVMID t
                    (newVolume handle.region handle.zone handle.storage disk.name).vmid = true
                · refine (adoptDisk_ends hr ho).2 ?_
                  intro hid'
                  exact h ⟨t,handle,disk,ht,hm,hp,ha,hu,hd,ho,hid'.trans hr.handle.symm⟩
                · unfold adoptDisk
                  dsimp only
                  rw [if_pos ho]
                  exact hreject rfl rfl

end Adopted

theorem reconcileRecord_ready (hr : Ready l id hash v) (hid : id ≠ "") (ha : Attached l v)
    {options : Params} (ho : r.modifyOptions v.spec.mutableParameters = .ok options)
    (hs : Stays r l v) : ∃ applied, EndsReady (reconcileRecord r v) l id applied v ∧
      (Applies v v.spec.mutableParameters → applied = r.paramsHash v.spec.mutableParameters) ∧
      (¬Applies v v.spec.mutableParameters → applied = hash) := by
  unfold reconcileRecord
  cases hd : v.deleting with
  | true =>
    refine ⟨hash,?_,fun h => ?_,fun _ => rfl⟩
    · rw [if_pos rfl]
      exact (reconcileDelete_ends hr ha hd).1 (hs.deleted hd)
    · cases hd.symm.trans h.alive
  | false =>
    rw [if_neg (by simp)]
    cases hadopt : v.spec.adopt with
    | true =>
      obtain ⟨t,handle,disk,h⟩ := hs.adopted hd hadopt
      refine ⟨hash,?_,fun h => ?_,fun _ => rfl⟩
      · rw [if_pos rfl]
        exact reconcileAdopt_ready hr hid h
      · cases hadopt.symm.trans h.provisioned
    | false =>
      rw [if_neg (by simp)]
      have hready : isReady v = true := decide_eq_true ⟨hr.phase,by rw [hr.handle]; exact hid⟩
      unfold reconcileProvision
      rw [if_pos hready]
      exact reconcileReadyVolume_ready hr ha ho hd hadopt

theorem reconcileRecord_unready (hr : Ready l id hash v) (hid : id ≠ "") (ha : Attached l v)
    (hs : ¬Stays r l v) : EndsUnready (reconcileRecord r v) l id v.ns := by
  unfold reconcileRecord
  cases hd : v.deleting with
  | true =>
    rw [if_pos rfl]
    refine (reconcileDelete_ends hr ha hd).2 ?_
    intro h
    exact hs ⟨fun _ => h,fun h' => by cases hd.symm.trans h'⟩
  | false =>
    rw [if_neg (by simp)]
    cases hadopt : v.spec.adopt with
    | true =>
      rw [if_pos rfl]
      refine reconcileAdopt_unready hr hid ?_
      intro h
      exact hs ⟨fun h' => by (cases hd.symm.trans h'),fun _ _ => h⟩
    | false =>
      exact absurd ⟨fun h => by (cases hd.symm.trans h),
        fun _ h => by (cases hadopt.symm.trans h)⟩ hs

theorem reconcile_ends (hl : Holds l id v) {a : Except Failure Result}
    (he : Evaluates prompt (reconcileRecord r v).run l a l') :
    Evaluates prompt (reconcile r v.ns v.name).run l a l' :=
  evaluates_try_bind (volume_read hl.found) he

end Passes

section Convergence

variable {l l₁ : Ledger} {id : String} {vol : ProxmoxVolume} {s : VolumeService.Service}
  {r : Reconciler} {t : TenantCluster} {p : Params}

theorem unclaimed_iff {v : ProxmoxVolume} : Unclaimed v l ↔ ∀ u ∈ l.volumes, claim u = claim v →
    volumeKey u ≠ volumeKey v → olderClaim u v = false := by
  unfold Unclaimed olderAmong
  rw [List.find?_eq_none]
  constructor
  · intro h u hu hc hk
    have hno := h u (List.mem_filter.mpr ⟨hu,decide_eq_true hc⟩)
    by_contra hold
    refine hno (decide_eq_true ⟨fun hkey => hk (Prod.ext hkey.1 hkey.2),?_⟩)
    simpa using hold
  · intro h u hu hold
    obtain ⟨hm,hc⟩ := List.mem_filter.mp hu
    obtain ⟨hk,ho⟩ := of_decide_eq_true hold
    have hno := h u hm (of_decide_eq_true hc)
      (fun hkey => hk ⟨congrArg Prod.fst hkey,congrArg Prod.snd hkey⟩)
    rw [hno] at ho
    cases ho

theorem unclaimed_modified (hb : Besides l l₁ vol) :
    Unclaimed (modified vol p) l₁ ↔ Unclaimed vol l := by
  rw [unclaimed_iff, unclaimed_iff]
  constructor
  · intro h u hu hc hk
    exact h u ((hb.others u hk).mpr hu) hc hk
  · intro h u hu hc hk
    exact h u ((hb.others u hk).mp hu) hc hk

/-- Whether the record stays does not depend on its parameters. -/
theorem stays_modified (hb : Besides l l₁ vol) :
    Stays r l₁ (modified vol p) ↔ Stays r l vol := by
  have ht := hb.tenants (by decide)
  have hd := hb.disks (by decide)
  have hrel : Released r l₁ (modified vol p) ↔ Released r l vol := by
    constructor
    · intro h
      exact ⟨h.held,h.kept,fun hf => by (rw [← ht]; exact h.tenant hf)⟩
    · intro h
      exact ⟨h.held,h.kept,fun hf => by (rw [ht]; exact h.tenant hf)⟩
  have hlist : ∀ handle, listing l₁ handle = listing l handle := by
    intro handle
    rw [listing, listing, hd]
  have hadopt : ∀ t handle disk, Readopts l₁ (modified vol p) t handle disk ↔
      Readopts l vol t handle disk := by
    intro t handle disk
    constructor
    · intro h
      exact ⟨by (rw [← ht]; exact h.tenant),h.active,h.parsed,h.accepted,
        (unclaimed_modified hb).mp h.alone,by (rw [← hlist]; exact h.found),h.owned,h.named⟩
    · intro h
      exact ⟨by (rw [ht]; exact h.tenant),h.active,h.parsed,h.accepted,
        (unclaimed_modified hb).mpr h.alone,by (rw [hlist]; exact h.found),h.owned,h.named⟩
  constructor
  · intro h
    refine ⟨fun hdel => hrel.mp (h.deleted hdel),fun hdel had => ?_⟩
    obtain ⟨t,handle,disk,hre⟩ := h.adopted hdel had
    exact ⟨t,handle,disk,(hadopt t handle disk).mp hre⟩
  · intro h
    refine ⟨fun hdel => hrel.mpr (h.deleted hdel),fun hdel had => ?_⟩
    obtain ⟨t,handle,disk,hre⟩ := h.adopted hdel had
    exact ⟨t,handle,disk,(hadopt t handle disk).mpr hre⟩

theorem retried_eq {l₂ l₃ : Ledger} {a c : Except RpcError Unit} {b : Except Failure Result}
    (h₁ : Evaluates prompt (modifyVolume s (some t) vol.status.volumeID p).run l a l₁)
    (h₂ : Evaluates prompt (reconcile (paired s r) vol.ns vol.name).run l₁ b l₂)
    (h₃ : Evaluates prompt (modifyVolume s (some t) vol.status.volumeID p).run l₂ c l₃) :
    retried s r t l vol p = c := by
  unfold retried
  dsimp only
  rw [evaluates_world h₁, evaluates_world h₂, evaluates_value h₃]

theorem retried_accepted (h : retried s r t l vol p = .ok ()) :
    mutableRefusal t.parameterPolicy p = none := by
  have hr := finish_runs prompt_cluster (modifyVolume s (some t) vol.status.volumeID p).run []
    (finish prompt (reconcile (paired s r) vol.ns vol.name).run []
      (finish prompt (modifyVolume s (some t) vol.status.volumeID p).run [] l).world).world
  have hret := runs_returns hr (modifyVolume_returns s t vol.status.volumeID p)
  have hv : (finish prompt (modifyVolume s (some t) vol.status.volumeID p).run []
    (finish prompt (reconcile (paired s r) vol.ns vol.name).run []
      (finish prompt (modifyVolume s (some t) vol.status.volumeID p).run [] l).world).world).value =
      .ok () := h
  rw [hv] at hret
  exact hret

/-- A record that the first request removes is not there for the second one. -/
theorem removed_fails (hl : Holds l vol.status.volumeID vol) (hid : vol.status.volumeID ≠ "")
    (hn : vol.ns = t.ns) (hp : vol.status.phase = .ready) (ha : Attached l vol)
    (hr : mutableRefusal t.parameterPolicy p = none) (hg : Ledger.volumeGone vol = true) :
    retried s r t l vol p ≠ .ok () := by
  obtain ⟨e,l₁,he,hnone,hu⟩ := modifyRecord_removes (s := s) (p := p) hl hg ha
  have h₁ := modifyVolume_evaluates hl hid hn rfl hp hr he
  have h₂ : Evaluates prompt (reconcile (paired s r) vol.ns vol.name).run l₁ (.ok ⟨0⟩) l₁ :=
    evaluates_try_bind (volume_read hnone) (evaluates_done _)
  rw [hn] at hu
  obtain ⟨e',h₃⟩ := modifyVolume_fails (s := s) (p := p) hu
  rw [retried_eq h₁ h₂ h₃]
  exact fun h => by cases h

/-- The same request is answered with success after one pass exactly when the policy
accepts the parameters, the pass leaves the record ready and the fingerprint was
recorded before or is recorded by the pass. -/
theorem modify_converges_iff {q : DriveOptions.ModifyVolumeParameters}
    (hkeyed : Keyed volumeKey l.volumes)
    (hvol : (answer l (.volumesByID t.ns vol.status.volumeID)).1 = .ok [vol])
    (hready : vol.status.phase = .ready) (hatt : Attached l vol)
    (hparams : DriveOptions.extractModifyVolumeParameters p = .ok q) :
    retried s r t l vol p = .ok () ↔ Converges s r t l vol p := by
  obtain ⟨hl,hn,hid,_⟩ := holds_of_listed hkeyed hvol
  cases hr : mutableRefusal t.parameterPolicy p with
  | some text =>
    refine iff_of_false (fun h => ?_) (fun h => ?_)
    · cases hr.symm.trans (retried_accepted h)
    · cases hr.symm.trans h.accepted
  | none =>
    cases hg : Ledger.volumeGone vol with
    | true =>
      refine iff_of_false (removed_fails hl hid hn hready hatt hr hg) (fun h => ?_)
      obtain ⟨hd,hf⟩ := of_decide_eq_true hg
      refine (h.stays.deleted hd).held ?_
      simp [unheld, hf]
    | false =>
      obtain ⟨l₁,hl₁,hb₁,he₁⟩ := modifyRecord_evaluates (s := s) (p := p) hl hg hatt
      have h₁ := modifyVolume_evaluates hl hid hn rfl hready hr he₁
      have hr₁ : Ready l₁ vol.status.volumeID (valueOf vol.annotations appliedMutableParamsAnnotation)
          (modified vol p) := ⟨hl₁,rfl,hready,hg,rfl⟩
      have hatt₁ : Attached l₁ (modified vol p) := by
        obtain ⟨att,h⟩ := hatt
        refine ⟨att,?_⟩
        rw [hb₁.attachments (by decide)]
        exact h
      have ho : (paired s r).modifyOptions (modified vol p).spec.mutableParameters =
          .ok q.toCFG := by
        show DriveOptions.modifyOptions p = .ok q.toCFG
        rw [DriveOptions.modifyOptions, hparams]
        rfl
      by_cases hs : Stays (paired s r) l₁ (modified vol p)
      · obtain ⟨applied,⟨b,l₂,v₂,he₂,hatts,hr₂,hk₂⟩,happ,hnot⟩ :=
          reconcileRecord_ready hr₁ hid hatt₁ ho hs
        have h₂ := reconcile_ends hl₁ he₂
        have hatt₂ : Attached l₂ v₂ := by
          obtain ⟨att,h⟩ := hatt₁
          refine ⟨att,?_⟩
          rw [hatts]
          have hns : v₂.ns = (modified vol p).ns := congrArg Prod.fst hk₂
          have hname : v₂.name = (modified vol p).name := congrArg Prod.snd hk₂
          unfold attachmentOf
          rw [hns, hname]
          exact h
        obtain ⟨l₃,_,_,he₃⟩ := modifyRecord_evaluates (s := s) (p := p) hr₂.toHolds
          hr₂.stored hatt₂
        have h₃ := modifyVolume_evaluates hr₂.toHolds hid ((congrArg Prod.fst hk₂).trans hn)
          hr₂.handle hr₂.phase hr he₃
        have hsame : Applies (modified vol p) p ↔ Applies vol p :=
          ⟨fun h => ⟨h.1,h.2,h.3,h.4,h.5⟩,fun h => ⟨h.1,h.2,h.3,h.4,h.5⟩⟩
        rw [retried_eq h₁ h₂ h₃, modifyAnswer_ok, Recorded, hr₂.applied]
        constructor
        · intro h
          refine ⟨hr,(stays_modified hb₁).mp hs,?_⟩
          by_cases ha : Applies vol p
          · exact .inr ha
          · exact .inl ((hnot (fun h => ha (hsame.mp h))).symm.trans h)
        · intro h
          by_cases ha : Applies vol p
          · exact happ (hsame.mpr ha)
          · exact (hnot (fun h => ha (hsame.mp h))).trans (h.applied.resolve_right ha)
      · obtain ⟨b,l₂,he₂,hu⟩ := reconcileRecord_unready hr₁ hid hatt₁ hs
        have h₂ := reconcile_ends hl₁ he₂
        rw [show (modified vol p).ns = t.ns from hn] at hu
        obtain ⟨e,h₃⟩ := modifyVolume_fails (s := s) (p := p) hu
        rw [retried_eq h₁ h₂ h₃]
        refine iff_of_false (fun h => by cases h) (fun h => hs ?_)
        exact (stays_modified hb₁).mpr h.stays

end Convergence

section Samples

def sampleService : VolumeService.Service :=
  ⟨fun v n => v ++ "-" ++ n,fun _ _ => .ok ∅,fun p => "h" ++ toString p.entries.length,true⟩

def sampleVolume : ProxmoxVolume := provisionedVolume [volumeFinalizer]

def sampleAttachment : ProxmoxVolumeAttachment where
  ns := "blue-ns"
  name := "pvc-a-node"
  version := 2
  generation := 1
  labels := ∅
  finalizers := []
  deleting := false
  volumeName := "pvc-a"
  volumeID := "r1/n1/local/vm-9999-pvc-a"
  nodeID := "node"
  vmid := 101
  readonly := false
  attached := true
  devicePath := ""
  lun := "1"
  resizeRequired := false
  observedGeneration := 1
  conditions := []

def sampleLedger : Ledger :=
  { blueLedger blueTenant [sampleVolume] [] with attachments := [sampleAttachment] }

theorem sample_keyed : Keyed volumeKey sampleLedger.volumes := List.nodup_singleton _

theorem sample_listed : (answer sampleLedger (.volumesByID blueTenant.ns
    sampleVolume.status.volumeID)).1 = .ok [sampleVolume] := rfl

theorem sample_attached : Attached sampleLedger sampleVolume := ⟨sampleAttachment,rfl⟩

/-- No fingerprint is ever recorded for the empty parameters. -/
theorem empty_parameters_unapplied : Keyed volumeKey sampleLedger.volumes ∧
    (answer sampleLedger (.volumesByID blueTenant.ns sampleVolume.status.volumeID)).1 =
      .ok [sampleVolume] ∧ sampleVolume.status.phase = .ready ∧
    Attached sampleLedger sampleVolume ∧
    (∃ q, DriveOptions.extractModifyVolumeParameters ∅ = .ok q) ∧
    retried sampleService plainReconciler blueTenant sampleLedger sampleVolume ∅ ≠ .ok () := by
  refine ⟨sample_keyed,sample_listed,rfl,sample_attached,⟨_,rfl⟩,?_⟩
  have hfail : (retried sampleService plainReconciler blueTenant sampleLedger sampleVolume
    ∅).isOk = false := by decide +kernel
  intro h
  rw [h] at hfail
  cases hfail

def sampleParams : Params := (∅ : Params).insert "backup" "1"

theorem modify_converges_iff_backup : Keyed volumeKey sampleLedger.volumes ∧
    (answer sampleLedger (.volumesByID blueTenant.ns sampleVolume.status.volumeID)).1 =
      .ok [sampleVolume] ∧ sampleVolume.status.phase = .ready ∧
    Attached sampleLedger sampleVolume ∧
    (∃ q, DriveOptions.extractModifyVolumeParameters sampleParams = .ok q) ∧
    retried sampleService plainReconciler blueTenant sampleLedger sampleVolume sampleParams =
      .ok () := by
  refine ⟨sample_keyed,sample_listed,rfl,sample_attached,⟨_,rfl⟩,?_⟩
  refine (modify_converges_iff sample_keyed sample_listed rfl sample_attached rfl).mpr
    ⟨rfl,⟨fun h => by (cases h),fun _ h => by (cases h)⟩,.inr ⟨rfl,rfl,by decide,by decide,?_⟩⟩
  exact Option.isSome_iff_exists.mp (by decide +kernel)

end Samples

end ProxmoxCSI.ModifyConvergence
