import ProxmoxCSI.CallTracks
import ProxmoxCSI.VolumeService
import ProxmoxCSI.RecordWrites

/-!
# Repeated requests for one volume

A request that finds a record compares part of its spec and answers by its phase.
Source and parameters are not compared, nor whether the record is being deleted,
and a request that lost the race to create the record compares nothing at all.
-/

set_option autoImplicit false

namespace ProxmoxCSI.CreateIdempotency
open CallProgram CallProgram.Prog CallSafety CallErrors CallSystem CallTracks OperatorRecords
open RecordWrites VolumeService
open DirectCalls (RpcError Code status)

abbrev Past := History OpCall OpReply Ledger

section Statement

/-- The request asks for what the record is. -/
structure Agrees (vol : ProxmoxVolume) (req : CreateVolumeRequest) : Prop where
  region : vol.spec.region = req.region
  zone : vol.spec.zone = req.zone
  storage : vol.spec.storage = req.storage
  capacity : vol.spec.capacityBytes = req.capacityBytes
  source : vol.spec.source = req.source
  parameters : ∀ key, vol.spec.parameters.lookup key = req.parameters.lookup key

def finds : Event OpCall OpReply Ledger → Bool
  | ⟨.getVolume _ _,.ok _,_,_⟩ => true
  | _ => false

def stored (ns name : String) (h : Past) : Option ProxmoxVolume :=
  (h.find? finds).bind (fun e => e.before.lookupVolume ns name)

def creates : OpCall → Bool
  | .createVolume _ => true
  | _ => false

def tried (h : Past) : Bool := h.any (fun e => creates e.call)

/-- Only an agreeing record that stays is reported, and a disagreeing one is a conflict. -/
structure Idempotent (req : CreateVolumeRequest) (found : Option ProxmoxVolume)
    (res : Except RpcError CreateVolumeResponse) : Prop where
  answered : ∀ a, res = .ok a → ∃ vol, found = some vol ∧ vol.deleting = false ∧ Agrees vol req
  refused : ∀ vol, found = some vol → ¬Agrees vol req →
    ∃ text, res = .error (status .alreadyExists text)

def Reportable (s : Service) (vol : ProxmoxVolume) : Prop :=
  vol.status.phase = .ready ∧ ∃ context, s.volumeContext
    (vol.spec.parameters.insert "storage" vol.spec.storage) vol.spec.mutableParameters = .ok context

def Comparable (s : Service) (req : CreateVolumeRequest) (raced : Bool)
    (found : Option ProxmoxVolume) : Prop :=
  ∀ vol, found = some vol → raced ∨ specMatchesRequest vol req →
    Agrees vol req ∧ (Reportable s vol → vol.deleting = false)

end Statement

section Answers

variable {s : Service} {req : CreateVolumeRequest} {vol : ProxmoxVolume} {raced : Bool}
  {found : Option ProxmoxVolume} {res : Except RpcError CreateVolumeResponse}

/-- The answer by the phase of the record. -/
structure ByPhase (s : Service) (vol : ProxmoxVolume) (res : Except RpcError CreateVolumeResponse) :
    Prop where
  reported : (∃ a, res = .ok a) ↔ Reportable s vol
  final : ∀ text, res ≠ .error (status .alreadyExists text)

theorem byPhase_error {e : RpcError} (hn : ¬Reportable s vol)
    (he : ∀ text, e ≠ status .alreadyExists text) : ByPhase s vol (.error e) := by
  refine ⟨⟨?_,fun hr => absurd hr hn⟩,fun text h => he text (Except.error.inj h)⟩
  rintro ⟨a,ha⟩
  cases ha

theorem nothing_found (hr : ∀ a, res ≠ .ok a) :
    Idempotent req none res ↔ Comparable s req raced none := by
  constructor
  · intro _ vol h
    cases h
  · intro _
    refine ⟨fun a ha => absurd ha (hr a),?_⟩
    intro vol h
    cases h

theorem conflict_found {text : String} (hs : ¬specMatchesRequest vol req) :
    Idempotent req (some vol) (.error (status .alreadyExists text)) ↔
      Comparable s req false (some vol) := by
  constructor
  · rintro _ _ ⟨⟩ (h | h)
    · cases h
    · exact absurd h hs
  · intro _
    refine ⟨?_,fun _ _ _ => ⟨text,rfl⟩⟩
    intro a ha
    cases ha

theorem phase_found (hgo : raced ∨ specMatchesRequest vol req) (hb : ByPhase s vol res) :
    Idempotent req (some vol) res ↔ Comparable s req raced (some vol) := by
  constructor
  · rintro hi _ ⟨⟩ _
    have ha : Agrees vol req := by
      by_contra hn
      obtain ⟨text,ht⟩ := hi.refused vol rfl hn
      exact hb.final text ht
    refine ⟨ha,?_⟩
    intro hrep
    obtain ⟨a,hres⟩ := hb.reported.mpr hrep
    obtain ⟨_,⟨⟩,hdel,_⟩ := hi.answered a hres
    exact hdel
  · intro hc
    obtain ⟨ha,hdel⟩ := hc vol rfl hgo
    refine ⟨?_,?_⟩
    · intro a hres
      exact ⟨vol,rfl,hdel (hb.reported.mp ⟨a,hres⟩),ha⟩
    · rintro _ ⟨⟩ hn
      exact absurd ha hn

end Answers

section Program

variable {s : Service} {t : TenantCluster} {req : CreateVolumeRequest} {vol : ProxmoxVolume}
  {h : Past}

def served (e : Event OpCall OpReply Ledger) : Prop := OpOutcome e.call e.before e.reply e.after

abbrev Ends {α : Type} (Q : Except RpcError α → Past → Prop) (x : A α) (h : Past) : Prop :=
  Follows served (fun _ _ => True) Q x.run h

theorem stored_cons {e : Event OpCall OpReply Ledger} {ns name : String} (he : finds e = false) :
    stored ns name (e::h) = stored ns name h := by
  simp [stored, he]

theorem tried_cons {e : Event OpCall OpReply Ledger} (he : creates e.call = false) :
    tried (e::h) = tried h := by
  simp [tried, he]

theorem mapRejectionCode_final (text : String) :
    mapRejectionCode vol ≠ status .alreadyExists text := by
  unfold mapRejectionCode
  split
  · intro h
    cases h
  · rename_i c _
    intro h
    have hc : rejectionCode c.reason = .alreadyExists := by
      injection h with hk _
      injection hk
    cases hr : c.reason <;> simp [hr, rejectionCode] at hc

theorem internal_final (text text' : String) : internal text ≠ status .alreadyExists text' := by
  intro h
  cases h

theorem volumeAnswer_ends (ns name : String) : Ends (fun res h' => ByPhase s vol res ∧
    stored ns name h' = stored ns name h ∧ tried h' = tried h) (volumeAnswer s vol) h := by
  have hphase : vol.status.phase ≠ .ready → ¬Reportable s vol := fun hp hr => hp hr.1
  unfold volumeAnswer
  split
  · rename_i hp
    unfold readyVolume
    split
    · rename_i text ht
      refine ⟨byPhase_error ?_ (internal_final _),rfl,rfl⟩
      rintro ⟨_,context,hc⟩
      cases ht.symm.trans hc
    · rename_i context hc
      refine ⟨⟨⟨fun _ => ⟨hp,context,hc⟩,fun _ => ⟨_,rfl⟩⟩,?_⟩,rfl,rfl⟩
      intro text he
      cases he
  · rename_i hp
    exact ⟨byPhase_error (hphase (by simp [hp])) mapRejectionCode_final,rfl,rfl⟩
  · rename_i hp
    have hfail : ∀ text, ByPhase s vol (.error (internal text)) := fun text =>
      byPhase_error (hphase (by simp [hp])) (internal_final text)
    unfold failedVolume
    split
    · exact ⟨hfail _,rfl,rfl⟩
    · refine ⟨trivial,?_⟩
      intro r w w' _
      cases r with
      | ok a => exact ⟨hfail _,stored_cons rfl,tried_cons rfl⟩
      | error e =>
        show Follows served _ _ (ite _ _ _ : A CreateVolumeResponse).run _
        split
        · exact ⟨hfail _,stored_cons rfl,tried_cons rfl⟩
        · exact ⟨hfail _,stored_cons rfl,tried_cons rfl⟩
  · rename_i hready _ _
    refine ⟨byPhase_error (hphase hready) ?_,rfl,rfl⟩
    intro text he
    cases he

def Ensured (s : Service) (t : TenantCluster) (req : CreateVolumeRequest) :
    Except RpcError ProxmoxVolume → Past → Prop
  | .ok vol, h => stored t.ns req.name h = none ∧ ¬Reportable s vol ∨
      stored t.ns req.name h = some vol ∧ (tried h ∨ specMatchesRequest vol req)
  | .error e, h => stored t.ns req.name h = none ∨ tried h = false ∧
      ∃ vol text, stored t.ns req.name h = some vol ∧ ¬specMatchesRequest vol req ∧
        e = status .alreadyExists text

theorem stored_read {ns name : String} {w w' : Ledger} (ho : served
    ⟨.getVolume ns name,.ok vol,w,w'⟩) :
    stored ns name (⟨.getVolume ns name,.ok vol,w,w'⟩::h) = some vol := by
  simp only [stored, finds, List.find?_cons, Option.bind_some]
  exact foundOr_ok (.inl rfl) (reads_ok rfl ho rfl)

theorem created_unset {c : ProxmoxVolume} {w w' : Ledger}
    (ho : served ⟨.createVolume c,.ok vol,w,w'⟩) : vol.status = Ledger.emptyStatus := by
  rcases outcome_record (by simp [part]) ho with ⟨_,e,_,he⟩ | ⟨_,hr | ⟨e,_,he⟩⟩
  · cases he
  · have ha : (w.createVolume c).1 = .ok vol := hr.symm
    unfold Ledger.createVolume at ha
    split at ha
    · cases ha
    · cases ha
      rfl
  · cases he

theorem ensureRecord_ends : Ends (Ensured s t req) (ensureRecord t req) [] := by
  refine ⟨trivial,?_⟩
  intro r w w' ho
  cases r with
  | ok vol =>
    show Follows served _ _ (ite _ _ _ : A ProxmoxVolume).run _
    split
    · rename_i hm
      exact .inr ⟨stored_read ho,.inr hm⟩
    · rename_i hm
      exact .inr ⟨rfl,vol,_,stored_read ho,hm,rfl⟩
  | error e =>
    show Follows served _ _ (ite _ _ _ : A ProxmoxVolume).run _
    split
    · refine ⟨trivial,?_⟩
      intro r₁ w₁ w₁' ho₁
      cases r₁ with
      | ok vol =>
        refine .inl ⟨rfl,?_⟩
        rintro ⟨hp,_⟩
        rw [created_unset ho₁] at hp
        cases hp
      | error e₁ =>
        show Follows served _ _ (ite _ _ _ : A ProxmoxVolume).run _
        split
        · refine ⟨trivial,?_⟩
          intro r₂ w₂ w₂' ho₂
          cases r₂ with
          | ok vol => exact .inr ⟨stored_read ho₂,.inl rfl⟩
          | error e₂ => exact .inl rfl
        · exact .inl rfl
    · exact .inl rfl

theorem require_ends {α : Type} {c : Prop} [Decidable c] {e : RpcError} {x : A α}
    {Q : Except RpcError α → Past → Prop} (he : Q (.error e) h) (hx : Ends Q x h) :
    Ends Q (do require c e; x) h := by
  refine follows_try_bind (P := fun r h' => h' = h ∧ ∀ e', r = .error e' → e' = e) ?_ ?_ ?_
  · refine ⟨rfl,?_⟩
    intro e' hr
    split at hr
    · cases hr
    · cases hr
      rfl
  · rintro _ _ ⟨rfl,_⟩
    exact hx
  · rintro e' _ ⟨rfl,hr⟩
    rw [hr e' rfl]
    exact he

/-- One request, whatever happens between its calls. -/
theorem createVolume_ends : Ends (fun res h => Idempotent req (stored t.ns req.name h) res ↔
    Comparable s req (tried h) (stored t.ns req.name h)) (createVolume s (some t) req) [] := by
  have hrefused : ∀ (e : RpcError), Idempotent req (stored t.ns req.name []) (.error e) ↔
      Comparable s req (tried []) (stored t.ns req.name []) := fun e =>
    nothing_found (fun a ha => by cases ha)
  refine require_ends (hrefused _) (require_ends (hrefused _) (require_ends (hrefused _)
    (require_ends (hrefused _) ?_)))
  refine follows_try_bind (ensureRecord_ends (s := s)) ?_ ?_
  · intro vol h hv
    refine follows_mono (volumeAnswer_ends t.ns req.name) ?_
    rintro res h' ⟨hb,hs,ht⟩
    rw [hs, ht]
    rcases hv with ⟨hnone,hn⟩ | ⟨hsome,hgo⟩
    · rw [hnone]
      exact nothing_found (fun a ha => hn (hb.reported.mp ⟨a,ha⟩))
    · rw [hsome]
      exact phase_found hgo hb
  · intro e h he
    rcases he with hnone | ⟨ht,vol,text,hsome,hm,rfl⟩
    · rw [hnone]
      exact nothing_found (fun a ha => by cases ha)
    · rw [hsome, ht]
      exact conflict_found hm

end Program

section System

def shared : Shared OpCall OpReply Ledger := ⟨OpOutcome,fun _ _ => True⟩

variable {ι : Type} [DecidableEq ι]

def requests (s : Service) (t : TenantCluster) (name : String)
    (bodies : ι → CreateVolumeRequest) (l : Ledger) :
    System ι OpCall OpReply Ledger (Except RpcError CreateVolumeResponse) :=
  ⟨[],l,fun i => (createVolume s (some t) { bodies i with name := name }).run⟩

/-- A request is answered as it should be exactly if what it went on with agrees with it. -/
theorem requests_idempotent_iff (s : Service) (t : TenantCluster) (name : String)
    (bodies : ι → CreateVolumeRequest) (l : Ledger)
    (b : System ι OpCall OpReply Ledger (Except RpcError CreateVolumeResponse))
    (hb : Moves shared (requests s t name bodies l) b) (i : ι)
    (res : Except RpcError CreateVolumeResponse) (hi : b.procs i = .done res) :
    Idempotent { bodies i with name := name } (stored t.ns name (own i b.hist)) res ↔
      Comparable s { bodies i with name := name } (tried (own i b.hist))
        (stored t.ns name (own i b.hist)) := by
  have hp : Ends _ (createVolume s t { bodies i with name := name }) [] := createVolume_ends
  have hf := moves_follow hb i hp
  rw [hi] at hf
  exact hf

section Samples

def sampleService : Service := ⟨fun v n => v ++ n,fun p _ => .ok p,fun _ => "",true⟩

def sampleRequest (capacity : ℤ) (parameters : Params) : CreateVolumeRequest :=
  ⟨"pvc-a",capacity,"r1","n1","local",parameters,∅,"",none⟩

def sampleRecord (deleting : Bool) : ProxmoxVolume :=
  { newRecord blueTenant (sampleRequest 1 ∅) with
    deleting := deleting
    status := ⟨"r1/n1/local/vm-9999-pvc-a","vm-9999-pvc-a",9999,1,["n1"],false,.ready,1,[]⟩ }

def emptyLedger : Ledger := ⟨[blueTenant],[],[],[],[],[],[],∅,1,0⟩

def readyLedger (deleting : Bool) : Ledger := { emptyLedger with volumes := [sampleRecord deleting] }

def answerTo (c : OpCall) (l : Ledger) : OpReply c × Ledger := answer l c

@[irreducible] def race : System Bool OpCall OpReply Ledger (Except RpcError CreateVolumeResponse) :=
  play answerTo [false,true,false,true,true] (requests sampleService blueTenant "pvc-a"
    (fun i => sampleRequest (if i then 2 else 1) ∅) emptyLedger)

@[irreducible] def retry (deleting : Bool) (parameters : Params) :
    System Bool OpCall OpReply Ledger (Except RpcError CreateVolumeResponse) :=
  play answerTo [true] (requests sampleService blueTenant "pvc-a"
    (fun _ => sampleRequest 1 parameters) (readyLedger deleting))

theorem race_moves : Moves shared (requests sampleService blueTenant "pvc-a"
    (fun i => sampleRequest (if i then 2 else 1) ∅) emptyLedger) race := by
  unfold race
  exact play_moves answerTo (fun c w => OpOutcome.served c w) _ _

theorem retry_moves (deleting : Bool) (parameters : Params) :
    Moves shared (requests sampleService blueTenant "pvc-a"
      (fun _ => sampleRequest 1 parameters) (readyLedger deleting)) (retry deleting parameters) := by
  unfold retry
  exact play_moves answerTo (fun c w => OpOutcome.served c w) _ _

def unavailable (p : Prog OpCall OpReply (Except RpcError CreateVolumeResponse)) : Bool :=
  match p with
  | .done (.error ⟨.status .unavailable,_⟩) => true
  | _ => false

def ssd : Params := (∅ : Params).insert "ssd" "true"

theorem race_unavailable : unavailable (race.procs true) = true ∧
    (stored "blue-ns" "pvc-a" (own true race.hist)).any
      (fun v => v.spec.capacityBytes = 1) = true := by
  unfold race
  decide +kernel

theorem retry_answered : succeeded ((retry true ssd).procs true) = true ∧
    (stored "blue-ns" "pvc-a" (own true (retry true ssd).hist)).any
      (fun v => v.deleting ∧ v.spec.parameters.lookup "ssd" = none) = true := by
  unfold retry
  decide +kernel

/-- The loser of a race is told to wait for a record of another size, and a request with
other parameters is given a record that is being deleted. -/
theorem disagreeing_requests_accepted :
    (∃ b res, Moves shared (requests sampleService blueTenant "pvc-a"
        (fun i => sampleRequest (if i then 2 else 1) ∅) emptyLedger) b ∧ b.procs true = .done res ∧
      ¬Idempotent (sampleRequest 2 ∅) (stored "blue-ns" "pvc-a" (own true b.hist)) res) ∧
    ∃ b a, Moves shared (requests sampleService blueTenant "pvc-a"
        (fun _ => sampleRequest 1 ssd) (readyLedger true)) b ∧ b.procs true = .done (.ok a) ∧
      ∃ vol, stored "blue-ns" "pvc-a" (own true b.hist) = some vol ∧ vol.deleting ∧
        ¬Agrees vol (sampleRequest 1 ssd) := by
  constructor
  · obtain ⟨hu,hs⟩ := race_unavailable
    unfold unavailable at hu
    split at hu
    · rename_i text hres
      refine ⟨race,_,race_moves,hres,?_⟩
      intro hi
      obtain ⟨vol,hvol,hcap⟩ := (Option.any_eq_true _ _).mp hs
      have hn : ¬Agrees vol (sampleRequest 2 ∅) := by
        intro ha
        have h2 : vol.spec.capacityBytes = 2 := ha.capacity
        rw [of_decide_eq_true hcap] at h2
        cases h2
      obtain ⟨text',ht⟩ := hi.refused vol hvol hn
      cases ht
    · cases hu
  · obtain ⟨hr,hs⟩ := retry_answered
    obtain ⟨a,hres⟩ := succeeded_done hr
    obtain ⟨vol,hvol,hv⟩ := (Option.any_eq_true _ _).mp hs
    obtain ⟨hdel,hnone⟩ := of_decide_eq_true hv
    refine ⟨retry true ssd,a,retry_moves true ssd,hres,vol,hvol,hdel,?_⟩
    intro ha
    have hp := ha.parameters "ssd"
    rw [hnone] at hp
    cases hp

theorem retry_agrees : succeeded ((retry false ∅).procs true) = true ∧
    (stored "blue-ns" "pvc-a" (own true (retry false ∅).hist)).all (fun v =>
      v.deleting = false ∧ v.spec.region = "r1" ∧ v.spec.zone = "n1" ∧ v.spec.storage = "local" ∧
      v.spec.capacityBytes = 1 ∧ v.spec.source = none ∧ v.spec.parameters.entries = []) = true := by
  unfold retry
  decide +kernel

/-- A request repeated as it was. -/
theorem requests_idempotent_iff_repeated : ∃ b a, Moves shared
    (requests sampleService blueTenant "pvc-a" (fun _ => sampleRequest 1 ∅) (readyLedger false)) b ∧
    b.procs true = .done (.ok a) ∧
    Idempotent (sampleRequest 1 ∅) (stored "blue-ns" "pvc-a" (own true b.hist)) (.ok a) := by
  obtain ⟨hr,hs⟩ := retry_agrees
  obtain ⟨a,hres⟩ := succeeded_done hr
  refine ⟨retry false ∅,a,retry_moves false ∅,hres,?_⟩
  refine (requests_idempotent_iff sampleService blueTenant "pvc-a" (fun _ => sampleRequest 1 ∅)
    (readyLedger false) (retry false ∅) (retry_moves false ∅) true (.ok a) hres).mpr ?_
  intro vol hvol _
  have hv := (Option.all_eq_true _ _).mp hs vol hvol
  obtain ⟨hdel,hregion,hzone,hstorage,hcap,hsource,hparams⟩ := of_decide_eq_true hv
  refine ⟨⟨hregion,hzone,hstorage,hcap,hsource,?_⟩,fun _ => hdel⟩
  intro key
  have he : vol.spec.parameters = ∅ := AList.ext hparams
  rw [he]
  rfl

end Samples

end System

end ProxmoxCSI.CreateIdempotency
