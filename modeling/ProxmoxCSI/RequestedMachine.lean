import ProxmoxCSI.RemoteController
import ProxmoxCSI.CreateIdempotency

/-!
# The VM a volume is attached to

An attach is answered from an attachment that exists already. The volume, the
node and the VM of that attachment are compared with the request; whether it is
read only, and whether the VM is the one the node ID names, are not.
-/

set_option autoImplicit false

namespace ProxmoxCSI.RequestedMachine
open CallProgram CallProgram.Prog CallSafety CallErrors CallTracks OperatorRecords RecordWrites
open VolumeReconciler (int32)
open VolumeService RemoteController CallSchedule
open CreateIdempotency (sampleService readyLedger)
open MigratorCalls (parseNodeID)
open DirectCalls (RpcError status)

abbrev Past := History OpCall OpReply Ledger

def crowded : CallProgram.Service OpCall OpReply Ledger := ⟨OpOutcome,fun _ _ _ => True⟩

abbrev Finds {α : Type} (Q : α → Past → Prop) (x : A α) (h : Past) : Prop :=
  Tracks (fun e => crowded.outcome e.call e.before e.reply e.after) (fun _ _ => True) Q x h

def Stored (ns name : String) (att : ProxmoxVolumeAttachment) (h : Past) : Prop :=
  ∃ e ∈ h, e.call = .getAttachment ns name ∧ e.before.lookupAttachment ns name = some att

def OnlyNamed (t : TenantCluster) (name : String) (vmid : ℤ) (h : Past) : Prop :=
  ∃ e ∈ h, e.call = .listVMs t.region ∧
    vmsNamed t name (e.before.listedVMs.filter (fun vm => vm.region = t.region)) = [vmid]

/-- The VM is one of the tenant's, found in one of three ways. -/
structure Resolved (t : TenantCluster) (nodeID : String) (reqVMID vmid : ℤ) (h : Past) : Prop where
  own : vmid ∈ t.resolvedVMIDs
  requested : reqVMID ≠ 0 → vmid = reqVMID
  carried : reqVMID = 0 → ∀ id name, parseNodeID nodeID = some (id,name) → id ≠ 0 → vmid = int32 id
  named : reqVMID = 0 → ∀ name, parseNodeID nodeID = some (0,name) → OnlyNamed t name vmid h
  parsed : reqVMID = 0 → (parseNodeID nodeID).isSome

/-- The attachment is what was asked for. -/
structure Requested (t : TenantCluster) (req : AttachVolumeRequest) (att : ProxmoxVolumeAttachment)
    (h : Past) : Prop where
  volume : att.volumeID = req.volumeID
  node : att.nodeID = req.nodeID
  readonly : att.readonly = req.readonly
  own : att.vmid ∈ t.resolvedVMIDs
  requested : req.vmid ≠ 0 → att.vmid = req.vmid
  exact : ∀ id name, parseNodeID req.nodeID = some (id,name) → id ≠ 0 → att.vmid = id
  named : req.vmid = 0 → (∀ id name, parseNodeID req.nodeID = some (id,name) → id = 0) →
    ∃ name, parseNodeID req.nodeID = some (0,name) ∧ OnlyNamed t name att.vmid h

def Agrees (req : AttachVolumeRequest) (att : ProxmoxVolumeAttachment) : Prop :=
  att.readonly = req.readonly ∧ ∀ id name, parseNodeID req.nodeID = some (id,name) → id ≠ 0 →
    if req.vmid ≠ 0 then id = req.vmid else int32 id = id

def Answered (s : Service) (t : TenantCluster) (req : AttachVolumeRequest)
    (resp : AttachVolumeResponse) (h : Past) : Prop :=
  ∃ att, Stored t.ns (s.attachmentName req.volumeID req.nodeID) att h ∧ att.attached = true ∧
    resp = ⟨att.devicePath,lunFromStatus att.lun,att.resizeRequired⟩ ∧
    (Requested t req att h ↔ Agrees req att)

section Resolution

variable {s : Service} {t : TenantCluster} {nodeID : String} {reqVMID : ℤ} {h : Past}
  {name : String}

theorem onlyNamed_cons {vmid : ℤ} {e : Event OpCall OpReply Ledger} (hn : OnlyNamed t name vmid h) :
    OnlyNamed t name vmid (e::h) := by
  obtain ⟨e',he,hl⟩ := hn
  exact ⟨e',List.mem_cons_of_mem _ he,hl⟩

theorem resolved_cons {vmid : ℤ} {e : Event OpCall OpReply Ledger}
    (hr : Resolved t nodeID reqVMID vmid h) : Resolved t nodeID reqVMID vmid (e::h) :=
  ⟨hr.own,hr.requested,hr.carried,fun h0 name hp => onlyNamed_cons (hr.named h0 name hp),hr.parsed⟩

theorem chosenVMID_finds {ids : List ℤ} :
    Finds (fun vmid h' => ids = [vmid] ∧ h' = h) (chosenVMID t name ids) h := by
  unfold chosenVMID
  split
  · exact ⟨rfl,rfl⟩
  · trivial
  · trivial

theorem vmsNamed_own {vms : List ListedVM} {vmid : ℤ} (hv : vmid ∈ vmsNamed t name vms) :
    vmid ∈ t.resolvedVMIDs := by
  unfold vmsNamed at hv
  obtain ⟨vm,hm,rfl⟩ := List.mem_map.mp hv
  have hc := (List.mem_filter.mp hm).2
  simp only [decide_eq_true_eq] at hc
  exact hc.2

theorem resolveVMIDByName_finds :
    Finds (fun vmid h => vmid ∈ t.resolvedVMIDs ∧ OnlyNamed t name vmid h)
      (resolveVMIDByName s t name) h := by
  unfold resolveVMIDByName
  split
  · trivial
  · refine tracks_call trivial ?_
    intro r w w' ho vms hr
    have hok : r = .ok vms := by
      cases r with
      | ok a => exact congrArg Except.ok (Except.ok.inj hr)
      | error e => cases hr
    have hvms : vms = w.listedVMs.filter (fun vm => vm.region = t.region) :=
      (Except.ok.inj (reads_ok rfl ho hok)).symm
    refine tracks_mono chosenVMID_finds ?_
    rintro vmid h' ⟨hids,rfl⟩
    have hmem : vmid ∈ vmsNamed t name vms := hids ▸ List.mem_singleton_self _
    refine ⟨vmsNamed_own hmem,_,List.mem_cons_self,rfl,?_⟩
    rw [← hvms]
    exact hids

theorem ownVMID_finds {id : ℤ} {source : String} :
    Finds (fun vmid h' => vmid = id ∧ id ∈ t.resolvedVMIDs ∧ h' = h) (ownVMID t id source) h :=
  tracks_require (fun hown => ⟨rfl,hown,rfl⟩)

theorem resolveVMID_finds :
    Finds (fun vmid h' => Resolved t nodeID reqVMID vmid h') (resolveVMID s t nodeID reqVMID) h := by
  unfold resolveVMID
  split
  · rename_i hne
    refine tracks_mono ownVMID_finds ?_
    rintro vmid h' ⟨rfl,hown,_⟩
    exact ⟨hown,fun _ => rfl,fun h0 => absurd h0 hne,fun h0 => absurd h0 hne,fun h0 => absurd h0 hne⟩
  · rename_i hzero
    split
    · trivial
    · rename_i id name hparse
      split
      · rename_i hid
        refine tracks_mono ownVMID_finds ?_
        rintro vmid h' ⟨rfl,hown,_⟩
        refine ⟨hown,fun hne => absurd hne hzero,?_,?_,fun _ => by rw [hparse]; rfl⟩
        · intro _ id' name' hp _
          cases hparse.symm.trans hp
          rfl
        · intro _ name' hp
          cases hparse.symm.trans hp
          exact absurd rfl hid
      · rename_i hid
        refine tracks_mono resolveVMIDByName_finds ?_
        rintro vmid h' ⟨hown,hnamed⟩
        refine ⟨hown,fun hne => absurd hne hzero,?_,?_,fun _ => by rw [hparse]; rfl⟩
        · intro _ id' name' hp hid'
          cases hparse.symm.trans hp
          exact absurd hid' hid
        · intro _ name' hp
          cases hparse.symm.trans hp
          exact hnamed

end Resolution

section Attachment

variable {s : Service} {t : TenantCluster} {req : AttachVolumeRequest} {h : Past}
  {att : ProxmoxVolumeAttachment}

theorem stored_read {ns name : String} {w w' : Ledger} {r : OpReply (.getAttachment ns name)}
    (ho : OpOutcome (.getAttachment ns name) w r w') (hr : r = .ok att) :
    Stored ns name att (⟨.getAttachment ns name,r,w,w'⟩::h) :=
  ⟨_,List.mem_cons_self,rfl,(read_attachment ho hr).1⟩

theorem created_unattached {new att : ProxmoxVolumeAttachment} {w w' : Ledger}
    {r : OpReply (.createAttachment new)} (ho : OpOutcome (.createAttachment new) w r w')
    (hr : r = .ok att) : att.attached = false := by
  rcases outcome_record (by simp [part]) ho with ⟨_,e,_,he⟩ | ⟨_,ha | ⟨e,_,he⟩⟩
  · cases he.symm.trans hr
  · have hans : (w.createAttachment new).1 = .ok att := ha.symm.trans hr
    unfold Ledger.createAttachment at hans
    split at hans
    · cases hans
    · cases hans
      rfl
  · cases he.symm.trans hr

/-- Whatever attachment a request goes on with is new, or was stored under its name. -/
theorem ensureAttachment_finds {new : ProxmoxVolumeAttachment} {P : Past → Prop}
    (hP : ∀ e h, P h → P (e::h)) (hp : P h) :
    Finds (fun att h' => P h' ∧ (att.attached = true → Stored new.ns new.name att h'))
      (ensureAttachment new) h := by
  refine tracks_perform trivial ?_
  intro r w w' ho
  cases r with
  | ok att => exact ⟨hP _ _ hp,fun _ => stored_read ho rfl⟩
  | error e =>
    show Tracks _ _ _ (ite _ _ _ : A ProxmoxVolumeAttachment) _
    split
    · refine tracks_perform trivial ?_
      intro r₁ w₁ w₁' ho₁
      cases r₁ with
      | ok att =>
        refine ⟨hP _ _ (hP _ _ hp),fun ha => ?_⟩
        rw [created_unattached ho₁ rfl] at ha
        cases ha
      | error e₁ =>
        show Tracks _ _ _ (ite _ _ _ : A ProxmoxVolumeAttachment) _
        split
        · refine ⟨trivial,?_⟩
          intro r₂ w₂ w₂' ho₂
          cases r₂ with
          | ok att => exact ⟨hP _ _ (hP _ _ (hP _ _ hp)),fun _ => stored_read ho₂ rfl⟩
          | error e₂ => trivial
        · trivial
    · trivial

theorem requested_iff {vmid : ℤ} (hr : Resolved t req.nodeID req.vmid vmid h)
    (hv : att.volumeID = req.volumeID) (hn : att.nodeID = req.nodeID) (hm : att.vmid = vmid) :
    Requested t req att h ↔ Agrees req att := by
  subst hm
  constructor
  · intro hreq
    refine ⟨hreq.readonly,?_⟩
    intro id name hp hid
    have hexact := hreq.exact id name hp hid
    split
    · rename_i hne
      rw [← hexact, hreq.requested hne]
    · rename_i hzero
      rw [← hr.carried (by simpa using hzero) id name hp hid, hexact]
  · rintro ⟨hflag,hid⟩
    refine ⟨hv,hn,hflag,hr.own,hr.requested,?_,?_⟩
    · intro id name hp hne
      have hagree := hid id name hp hne
      split at hagree
      · rename_i hreq
        rw [hagree, hr.requested hreq]
      · rename_i hzero
        rw [hr.carried (by simpa using hzero) id name hp hne, hagree]
    · intro hzero hnone
      obtain ⟨⟨id,name⟩,hp⟩ := Option.isSome_iff_exists.mp (hr.parsed hzero)
      cases hnone id name hp
      exact ⟨name,hp,hr.named hzero name hp⟩

theorem unattached_finds {vol : ProxmoxVolume} {vmid : ℤ} {Q : AttachVolumeResponse → Past → Prop} :
    Finds Q (unattached att vol vmid) h := by
  unfold unattached
  split
  · trivial
  · split
    · trivial
    · unfold refusedAttachment
      split
      · trivial
      · refine tracks_perform trivial ?_
        intro r w w' _
        cases r with
        | ok _ => trivial
        | error e =>
          show Tracks _ _ _ (ite _ _ _ : A AttachVolumeResponse) _
          split <;> trivial

theorem attachmentAnswer_finds {vol : ProxmoxVolume} {vmid : ℤ}
    (hr : Resolved t req.nodeID req.vmid vmid h)
    (hs : att.attached = true → Stored t.ns (s.attachmentName req.volumeID req.nodeID) att h) :
    Finds (Answered s t req) (attachmentAnswer req vol vmid att) h := by
  refine tracks_require ?_
  rintro ⟨hv,hn,hm⟩
  show Tracks _ _ _ (ite _ _ _ : A AttachVolumeResponse) _
  split
  · rename_i ha
    exact ⟨att,hs ha,ha,rfl,requested_iff hr hv hn hm⟩
  · exact unattached_finds

theorem attachVolume_finds : Finds (Answered s t req) (attachVolume s (some t) req) h := by
  refine tracks_require (fun _ => tracks_require (fun _ => ?_))
  refine tracks_bind (Q := fun _ _ => True) (tracks_free (fun _ _ _ => trivial) (uses_any _)) ?_
  intro vol h₁ _
  refine tracks_bind resolveVMID_finds ?_
  intro vmid h₂ hr
  refine tracks_bind (ensureAttachment_finds (fun _ _ hr => resolved_cons hr) hr) ?_
  rintro att h₃ ⟨hr',hs⟩
  exact attachmentAnswer_finds hr' hs

end Attachment

/-- What an answered attach is about, asked for directly or through the remote controller. -/
theorem requested_machine_iff (s : Service) (t : TenantCluster) :
    (∀ req l h l' resp, Runs crowded ⟨[],l,(attachVolume s (some t) req).run⟩
      ⟨h,l',.done (.ok resp)⟩ → Answered s t req resp h) ∧
    ∀ volumeID nodeID readonly l h l' context, Runs crowded
      ⟨[],l,(controllerPublishVolume s (some t) volumeID nodeID readonly).run⟩
      ⟨h,l',.done (.ok context)⟩ → ∃ resp, context = ⟨resp.devicePath,toString resp.lun,
        resp.resizeRequired⟩ ∧ Answered s t (attachRequest volumeID nodeID readonly) resp h := by
  constructor
  · intro req l h l' resp hr
    exact runs_follow hr attachVolume_finds
  · intro volumeID nodeID readonly l h l' context hr
    have hp : Finds (fun context h => ∃ resp : AttachVolumeResponse, context = ⟨resp.devicePath,
        toString resp.lun,resp.resizeRequired⟩ ∧
        Answered s t (attachRequest volumeID nodeID readonly) resp h)
        (controllerPublishVolume s (some t) volumeID nodeID readonly) [] := by
      refine tracks_require (fun _ => tracks_require (fun _ => ?_))
      refine tracks_bind (tracks_relabel attachVolume_finds) ?_
      intro resp h₁ ha
      exact ⟨resp,rfl,ha⟩
    exact runs_follow hr hp

section Samples

def ownerTenant : TenantCluster := { blueTenant with resolvedVMIDs := [100] }

def attachmentOn (nodeID : String) : ProxmoxVolumeAttachment :=
  { newAttachment ownerTenant ⟨"r1/n1/local/vm-9999-pvc-a",nodeID,100,false⟩
      (CreateIdempotency.sampleRecord false) ("r1/n1/local/vm-9999-pvc-a" ++ nodeID) 100 with
    attached := true }

def attachedLedger (nodeID : String) : Ledger :=
  { readyLedger false with attachments := [attachmentOn nodeID] }

abbrev publish (nodeID : String) (readonly : Bool) : A PublishContext :=
  controllerPublishVolume sampleService (some ownerTenant) "r1/n1/local/vm-9999-pvc-a" nodeID readonly

def publication (nodeID : String) (readonly : Bool) :
    Finished OpCall OpReply Ledger (Except RpcError PublishContext) :=
  finish prompt (publish nodeID readonly).run [] (attachedLedger nodeID)

theorem prompt_crowded : Lawful crowded prompt := ⟨fun _ _ => .refl,fun _ c l => .served c l⟩

def readsSuch (p : ProxmoxVolumeAttachment → Bool) (h : Past) : Bool :=
  h.any (fun e => match e.call with
    | .getAttachment ns name => (e.before.lookupAttachment ns name).any p
    | _ => false)

theorem readsSuch_stored {p : ProxmoxVolumeAttachment → Bool} {h : Past} (hr : readsSuch p h = true) :
    ∃ ns name att, Stored ns name att h ∧ p att = true := by
  obtain ⟨e,he,hp⟩ := List.any_eq_true.mp hr
  obtain ⟨c,r,w,w'⟩ := e
  cases c with
  | getAttachment ns name =>
    cases hl : w.lookupAttachment ns name with
    | none =>
      simp only [hl] at hp
      cases hp
    | some att =>
      simp only [hl] at hp
      exact ⟨ns,name,att,⟨_,he,rfl,hl⟩,hp⟩
  | _ => cases hp

def answeredFrom (p : ProxmoxVolumeAttachment → Bool) (nodeID : String) (readonly : Bool) : Bool :=
  passes (fun _ _ => true) (publication nodeID readonly) && readsSuch p
    (publication nodeID readonly).hist

theorem answeredFrom_runs {p : ProxmoxVolumeAttachment → Bool} {nodeID : String} {readonly : Bool}
    (ha : answeredFrom p nodeID readonly = true) :
    ∃ h l context ns name att, Runs crowded ⟨[],attachedLedger nodeID,(publish nodeID readonly).run⟩
      ⟨h,l,.done (.ok context)⟩ ∧ Stored ns name att h ∧ p att = true := by
  rw [answeredFrom, Bool.and_eq_true] at ha
  obtain ⟨hpass,hread⟩ := ha
  obtain ⟨ns,name,att,hs,hp⟩ := readsSuch_stored hread
  have hr := finish_runs prompt_crowded (publish nodeID readonly).run [] (attachedLedger nodeID)
  unfold passes at hpass
  split at hpass
  · rename_i context hval
    refine ⟨_,(publication nodeID readonly).world,context,ns,name,att,?_,hs,hp⟩
    rw [← hval]
    exact hr
  · cases hpass

/-- A request to attach read only is answered from an attachment that is not, and a node ID with a
large integer from one of another VM. -/
theorem other_attachments_answered :
    (∃ h l context ns name att, Runs crowded ⟨[],attachedLedger "k1/100",(publish "k1/100" true).run⟩
      ⟨h,l,.done (.ok context)⟩ ∧ Stored ns name att h ∧ att.readonly = false) ∧
    parseNodeID "k1/4294967396" = some (4294967396,"k1") ∧
    ∃ h l context ns name att, Runs crowded ⟨[],attachedLedger "k1/4294967396",
      (publish "k1/4294967396" false).run⟩ ⟨h,l,.done (.ok context)⟩ ∧ Stored ns name att h ∧
      att.vmid = 100 := by
  have hflag : answeredFrom (fun att => att.readonly = false) "k1/100" true = true := by
    decide +kernel
  have hwide : answeredFrom (fun att => att.vmid = 100) "k1/4294967396" false = true := by
    decide +kernel
  refine ⟨?_,by decide +kernel,?_⟩
  · obtain ⟨h,l,context,ns,name,att,hr,hs,hp⟩ := answeredFrom_runs hflag
    exact ⟨h,l,context,ns,name,att,hr,hs,of_decide_eq_true hp⟩
  · obtain ⟨h,l,context,ns,name,att,hr,hs,hp⟩ := answeredFrom_runs hwide
    exact ⟨h,l,context,ns,name,att,hr,hs,of_decide_eq_true hp⟩

/-- The node ID names the VM the volume is attached to. -/
theorem requested_machine_iff_same_node :
    ∃ h resp, Answered sampleService ownerTenant
      (attachRequest "r1/n1/local/vm-9999-pvc-a" "k1/100" false) resp h := by
  have hsame : answeredFrom (fun att => att.vmid = 100) "k1/100" false = true := by decide +kernel
  obtain ⟨h,l,context,ns,name,att,hr,_⟩ := answeredFrom_runs hsame
  obtain ⟨resp,_,ha⟩ := (requested_machine_iff sampleService ownerTenant).2 _ _ _ _ h l context hr
  exact ⟨h,resp,ha⟩

end Samples

end ProxmoxCSI.RequestedMachine
