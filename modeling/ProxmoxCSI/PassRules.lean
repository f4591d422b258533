import ProxmoxCSI.VolumeLifecycle
import ProxmoxCSI.DiskOwners

/-!
# Rules for passes

A pass works on a ledger of which something holds as long as every entry of the
journal meets a condition. The rules lead from one assertion to the next through
the calls of a pass; calls that only read leave most assertions alone.
-/

set_option autoImplicit false

namespace ProxmoxCSI.PassRules
open CallProgram CallProgram.Prog CallSafety CallErrors CallTriples CallSessions CallJournal
open OperatorRecords RecordWrites DiskOwners VolumeReconciler

def reads : OpCall → Prop
  | .updateDisk _ _ _ _ | .resizeDisk _ _ _ _ _ | .clearUnusedDisk _ _ _ => False
  | c => part c = .nothing

variable {c : OpCall}

theorem reads_part (h : reads c) : part c = .nothing := by
  unfold reads at h
  split at h
  · cases h
  · cases h
  · cases h
  · exact h

/-- What holds of the ledger as long as every entry meets the condition. -/
structure Frame (ι : Type) where
  cond : Line ι → Log ι → Prop
  Good : Log ι → Ledger → Prop
  good_read : ∀ {i c r j w}, reads c → OpOutcome c w r w → cond ⟨i,⟨c,r,w,w⟩⟩ j → Good j w →
    Good (⟨i,⟨c,r,w,w⟩⟩::j) w

variable {ι : Type} {F : Frame ι} {i : ι} {l : Log ι} {ε α β : Type} {Q Q' : Log ι → Ledger → Prop}
  {R : α → Log ι → Ledger → Prop}

def Leads (F : Frame ι) (i : ι) (l : Log ι) (Q : Log ι → Ledger → Prop)
    (x : Fallible OpCall OpReply ε α) (R : α → Log ι → Ledger → Prop) : Prop :=
  Triple cluster (Given F.cond F.Good i l) (Given F.cond Q i l) x (fun a => Given F.cond (R a) i l)

def Keeps (F : Frame ι) (i : ι) (l : Log ι) (Q : Log ι → Ledger → Prop)
    (x : Fallible OpCall OpReply ε α) : Prop := Leads F i l Q x (fun _ => F.Good)

theorem leads_pure {a : α} (h : ∀ j w, Q j w → F.Good j w ∧ R a j w) :
    Leads F i l Q (pure a : Fallible OpCall OpReply ε α) R := triple_given_pure cluster_calm h

theorem keeps_pure {a : α} (h : ∀ j w, Q j w → F.Good j w) :
    Keeps F i l Q (pure a : Fallible OpCall OpReply ε α) :=
  leads_pure (fun _ _ hq => ⟨h _ _ hq,h _ _ hq⟩)

theorem leads_throw {e : ε} (h : ∀ j w, Q j w → F.Good j w) :
    Leads F i l Q (throw e : Fallible OpCall OpReply ε α) R :=
  triple_given_throw cluster_calm h

theorem leads_from {x : Fallible OpCall OpReply ε α} (hx : Leads F i l Q x R)
    (h : ∀ j w, Q' j w → Q j w) : Leads F i l Q' x R :=
  triple_given_mono hx h (fun _ _ _ hr => hr)

theorem require_leads {c : Prop} [Decidable c] {e : ε} (h : ∀ j w, Q j w → F.Good j w) :
    Leads F i l Q (require c e : Fallible OpCall OpReply ε Unit) (fun _ j w => Q j w ∧ c) := by
  have hs : Steady cluster (Given F.cond F.Good i l) (Given F.cond Q i l) :=
    calm_steady cluster_calm (fun _ _ hq he => h _ _ (hq he))
  exact triple_mono (triple_require hs) (fun _ _ hq => hq) (fun _ _ _ hq he => ⟨hq.1 he,hq.2⟩)

/-- An assertion that reading calls leave alone. -/
structure Readable (F : Frame ι) (Q : Log ι → Ledger → Prop) : Prop where
  good : ∀ j w, Q j w → F.Good j w
  read : ∀ i c r j w, reads c → OpOutcome c w r w → F.cond ⟨i,⟨c,r,w,w⟩⟩ j → Q j w →
    Q (⟨i,⟨c,r,w,w⟩⟩::j) w

theorem reads_lead {x : Fallible OpCall OpReply ε α} (hQ : Readable F Q)
    (hu : x.run.Uses reads) : Leads F i l Q x (fun _ => Q) := by
  refine triple_given_uses cluster_calm hQ.good ?_ hu
  intro c j w r w' hc ho hq hx
  have hw := (outcome_reads (reads_part hc) ho).1
  subst hw
  exact hQ.read i c r j w' hc ho hx hq

theorem good_readable : Readable F F.Good :=
  ⟨fun _ _ h => h,fun _ _ _ _ _ hc ho hx hg => F.good_read hc ho hx hg⟩

theorem fact_readable {fact : Ledger → Prop} (hQ : Readable F Q) :
    Readable F (fun j w => Q j w ∧ fact w) :=
  ⟨fun j w h => hQ.good j w h.1,fun i c r j w hc ho hx h => ⟨hQ.read i c r j w hc ho hx h.1,h.2⟩⟩

theorem ask_leads {P : OpReply c → Log ι → Ledger → Prop} (hQ : Readable F Q) (hc : reads c)
    (hP : ∀ j w r, Q j w → (r = (answer w c).1 ∨ ∃ e, Passing e ∧ r = .error e) →
      F.cond ⟨i,⟨c,r,w,w⟩⟩ j → OpOutcome c w r w → P r (⟨i,⟨c,r,w,w⟩⟩::j) w) :
    Leads F i l Q (ask c) (fun r j w => Q j w ∧ P r j w) := by
  refine triple_given_call cluster_calm hQ.good ?_
  intro j w r w' hq ho hx
  obtain ⟨hw,hr⟩ := outcome_reads (reads_part hc) ho
  subst hw
  have h := hQ.read i c r j w' hc ho hx hq
  refine ⟨hQ.good _ _ h,?_⟩
  intro a ha
  cases ha
  exact ⟨h,hP j w' r hq hr hx ho⟩

theorem ask_finds {P : OpAnswer c → Ledger → Prop} (hQ : Readable F Q) (hc : reads c)
    (hP : ∀ w a, (answer w c).1 = .ok a → P a w) :
    Leads F i l Q (ask c) (fun r j w => Q j w ∧ ∀ a, r = .ok a → P a w) := by
  refine ask_leads (P := fun r _ w => ∀ a, r = .ok a → P a w) hQ hc ?_
  intro j w r _ hr _ _ a ha
  rcases hr with rfl | ⟨e,_,rfl⟩
  · exact hP w a ha
  · cases ha

theorem need_leads {pre : String} {P : OpAnswer c → Ledger → Prop} (hQ : Readable F Q)
    (hc : reads c) (hP : ∀ w a, (answer w c).1 = .ok a → P a w) :
    Leads F i l Q (need c pre) (fun a j w => Q j w ∧ P a w) := by
  refine triple_given_call cluster_calm hQ.good ?_
  intro j w r w' hq ho hx
  obtain ⟨hw,hr⟩ := outcome_reads (reads_part hc) ho
  subst hw
  have h := hQ.read i c r j w' hc ho hx hq
  refine ⟨hQ.good _ _ h,?_⟩
  intro a ha
  refine ⟨h,hP w' a ?_⟩
  rcases hr with rfl | ⟨e,_,rfl⟩
  · cases hs : (answer w' c).1 with
    | ok b =>
      rw [hs] at ha
      cases ha
      rfl
    | error e =>
      rw [hs] at ha
      cases ha
  · cases ha

theorem need_reads {pre : String} (hQ : Readable F Q) (hc : reads c) :
    Leads F i l Q (need c pre) (fun _ => Q) := reads_lead hQ ⟨hc,fun _ => trivial⟩

theorem ask_reads (hQ : Readable F Q) (hc : reads c) :
    Leads F i l Q (ask c) (fun _ => Q) := reads_lead hQ ⟨hc,fun _ => trivial⟩

theorem tenant_leads (hQ : Readable F Q) (ns : String) :
    Leads F i l Q (tenant ns) (fun o j w => Q j w ∧ o = tenantFor ns w.tenants) := by
  refine triple_bind (Q := fun ts => Given F.cond (fun j w => Q j w ∧ ts = w.tenants) i l)
    (need_leads hQ rfl ?_) ?_
  · intro w ts h
    cases h
    rfl
  · intro ts
    refine leads_pure (fun j w h => ⟨hQ.good j w h.1,h.1,?_⟩)
    rw [h.2]

theorem unread_keeps (e : Fault) (h : ∀ j w, Q j w → F.Good j w) :
    Keeps F i l Q (VolumeLifecycle.unread e) := by
  unfold VolumeLifecycle.unread
  split
  · exact keeps_pure h
  · exact leads_throw h

end ProxmoxCSI.PassRules
