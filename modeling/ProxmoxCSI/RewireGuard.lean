import ProxmoxCSI.RewireEffects

/-!
# The rewire, step by step

Every part of the rewire is followed under interference. The stages record
which volume holds the moved disk, what the run has read so far, and that each
deletion was preceded by the step that makes it harmless.
-/

set_option autoImplicit false

namespace ProxmoxCSI.RewireGuard
open CallProgram CallProgram.Prog CallSafety CallErrors CallTriples ClusterState ClusterService
open MigratorCalls RewireProgram MigratorRules RewireEffects

variable {C : Type}

abbrev Hist (C : Type) := History Call Reply (World C)

/-- The claim, the handle of the moved disk and the old volume of a rewire. -/
structure Job where
  ns : String
  name : String
  handle : String
  old : PersistentVolume

def Carried (j : Job) (n : String) (w : World C) : Prop :=
  ∃ p, w.pvs.lookup n = some p ∧ volumeHandleOf p = j.handle ∧ refNames p.claimRef j.ns j.name

def Reserved (j : Job) (n : String) (w : World C) : Prop :=
  ∃ p, w.pvs.lookup n = some p ∧ volumeHandleOf p = j.handle ∧ refNames p.claimRef j.ns j.name ∧
    p.reclaimPolicy = .retain

def Held (j : Job) (w : World C) : Prop := ∃ n, Reserved j n w

def BoundTo (j : Job) (n : String) (w : World C) : Prop :=
  ∃ c, w.pvcs.lookup (j.ns,j.name) = some c ∧ c.volumeName = n

def Guarded (j : Job) (w : World C) : Prop :=
  ∃ n p, w.pvs.lookup n = some p ∧ volumeHandleOf p = j.handle ∧
    (p.reclaimPolicy = .retain ∨ BoundTo j n w)

def OldIs (j : Job) (policy : ReclaimPolicy) (w : World C) : Prop :=
  ∃ p, w.pvs.lookup j.old.name = some p ∧ volumeHandleOf p = volumeHandleOf j.old ∧
    p.reclaimPolicy = policy

theorem reserved_carried {j : Job} {n : String} {w : World C} (h : Reserved j n w) :
    Carried j n w := by
  obtain ⟨p,hp,hh,hc,_⟩ := h
  exact ⟨p,hp,hh,hc⟩

theorem held_guarded {j : Job} {w : World C} (h : Held j w) : Guarded j w := by
  obtain ⟨n,p,hp,hh,_,hr⟩ := h
  exact ⟨n,p,hp,hh,.inl hr⟩

theorem carried_lasting (j : Job) (n : String) : Lasting (Carried (C := C) j n) := by
  rintro w w' ho ⟨p,hp,hh,hc⟩
  obtain ⟨p',hp',hs⟩ := ho.kept n p hp
  exact ⟨p',hp',(same_handle hs).trans hh,hs.claim _ _ hc⟩

theorem reserved_lasting (j : Job) (n : String) : Lasting (Reserved (C := C) j n) := by
  rintro w w' ho ⟨p,hp,hh,hc,hr⟩
  obtain ⟨p',hp',hs⟩ := ho.kept n p hp
  exact ⟨p',hp',(same_handle hs).trans hh,hs.claim _ _ hc,hs.policy.trans hr⟩

theorem held_lasting (j : Job) : Lasting (Held (C := C) j) := by
  rintro w w' ho ⟨n,hn⟩
  exact ⟨n,reserved_lasting j n w w' ho hn⟩

theorem oldIs_lasting (j : Job) (policy : ReclaimPolicy) : Lasting (OldIs (C := C) j policy) := by
  rintro w w' ho ⟨p,hp,hh,hr⟩
  obtain ⟨p',hp',hs⟩ := ho.kept _ p hp
  exact ⟨p',hp',(same_handle hs).trans hh,hs.policy.trans hr⟩

theorem reserved_congr {j : Job} {n : String} {w w' : World C} (h : Reserved j n w)
    (he : w'.pvs.lookup n = w.pvs.lookup n) : Reserved j n w' := by
  obtain ⟨p,hp,hrest⟩ := h
  exact ⟨p,he.trans hp,hrest⟩

theorem reserved_patchRetain {j : Job} {m n : String} {r : Except ApiError Unit} {w w' : World C}
    (ho : ApiOutcome (.patchPVReclaimPolicy m .retain) w r w') (h : Reserved j n w) :
    Reserved j n w' := by
  obtain ⟨p,hp,hh,hc,hr⟩ := h
  rcases patchPolicy_rest ho hp with hp' | ⟨_,hp'⟩
  · exact ⟨p,hp',hh,hc,hr⟩
  · exact ⟨_,hp',hh,hc,rfl⟩

theorem old_ne_reserved {j : Job} {policy : ReclaimPolicy} {n : String} {w : World C}
    (hne : volumeHandleOf j.old ≠ j.handle) (ho : OldIs j policy w) (hn : Reserved j n w) :
    n ≠ j.old.name := by
  obtain ⟨p,hp,hh,_⟩ := ho
  obtain ⟨q,hq,hh',_⟩ := hn
  rintro rfl
  rw [hp] at hq
  cases hq
  exact hne (hh.symm.trans hh')

section Past

def clockReads (h : Hist C) : List ℕ :=
  h.filterMap (fun e => match e with
    | ⟨.now,t,_,_⟩ => some t
    | _ => none)

def Retired (j : Job) (h : Hist C) : Prop :=
  ∃ e ∈ h, e.call = .api (.deletePV j.old.name .oldPV)

def Proper (j : Job) (h : Hist C) : Event Call Reply (World C) → Prop
  | ⟨.api (.deletePVC _ _),_,w,_⟩ => OldIs j .retain w ∨ Retired j h
  | ⟨.api (.deletePV _ .oldPV),_,w,_⟩ => OldIs j .retain w
  | ⟨.api (.deletePV n .racing),_,w,_⟩ => ∀ p, w.pvs.lookup n = some p →
      volumeHandleOf p ≠ j.handle ∧ refNames p.claimRef j.ns j.name ∧
        ∃ t ∈ clockReads h, t < p.created
  | _ => True

def Orderly (j : Job) : Hist C → Prop
  | [] => True
  | e::h => Proper j h e ∧ Orderly j h

def isReReservation (e : Event Call Reply (World C)) : Bool :=
  match e.call with
  | .api (.createPV _ .reReservation) => true
  | _ => false

def reReservations (h : Hist C) : ℕ := h.countP isReReservation

def Reserving (j : Job) (h : Hist C) : Prop := ∃ e ∈ h, Held j e.after

def ReadBound (j : Job) : Event Call Reply (World C) → Prop
  | ⟨.api (.getPVC ns name),.ok c,w,_⟩ => ns = j.ns ∧ name = j.name ∧ Carried j c.volumeName w
  | _ => False

def ReadUnbound (j : Job) (className : String) : Event Call Reply (World C) → Prop
  | ⟨.api (.getPVC ns name),.ok c,_,_⟩ =>
      ns = j.ns ∧ name = j.name ∧ c.volumeName = "" ∧ pvcClassName c = className
  | _ => False

def ListsWaiting (className : String) : Event Call Reply (World C) → Prop
  | ⟨.api .listStorageClasses,.ok scs,_,_⟩ =>
      ∃ sc ∈ scs, sc.name = className ∧ sc.volumeBindingMode = some .waitForFirstConsumer
  | _ => False

def ListsIdle (j : Job) : Event Call Reply (World C) → Prop
  | ⟨.api (.listPods ns),.ok pods,w,_⟩ => ns = j.ns ∧ Held j w ∧
      ∀ p ∈ pods, p.phase ≠ .succeeded → p.phase ≠ .failed → j.name ∉ p.claims
  | _ => False

def SeenBound (j : Job) (h : Hist C) : Prop := ∃ e ∈ h, ReadBound j e

def SeenIdle (j : Job) (h : Hist C) : Prop := ∃ e ∈ h, ListsIdle j e

def SeenWaiting (j : Job) (h : Hist C) : Prop :=
  ∃ className, (∃ e ∈ h, ReadUnbound j className e) ∧ (∃ e ∈ h, ListsWaiting className e) ∧
    SeenIdle j h

def Grows (B : Hist C → Prop) : Prop := ∀ e h, B h → B (e::h)

theorem grows_exists (F : Event Call Reply (World C) → Prop) :
    Grows (fun h : Hist C => ∃ e ∈ h, F e) := by
  rintro e h ⟨x,hx,hf⟩
  exact ⟨x,List.mem_cons_of_mem e hx,hf⟩

theorem grows_and {B B' : Hist C → Prop} (hB : Grows B) (hB' : Grows B') :
    Grows (fun h => B h ∧ B' h) := fun e h hb => ⟨hB e h hb.1,hB' e h hb.2⟩

theorem grows_const (c : Prop) : Grows (fun _ : Hist C => c) := fun _ _ hc => hc

theorem grows_clock (t : ℕ) : Grows (fun h : Hist C => t ∈ clockReads h) := by
  intro e h ht
  obtain ⟨x,hx,hf⟩ := List.mem_filterMap.mp ht
  exact List.mem_filterMap.mpr ⟨x,List.mem_cons_of_mem e hx,hf⟩

theorem grows_waiting (j : Job) : Grows (SeenWaiting (C := C) j) := by
  rintro e h ⟨className,hu,hw,hi⟩
  exact ⟨className,grows_exists _ e h hu,grows_exists _ e h hw,grows_exists _ e h hi⟩

end Past

def Keeping (j : Job) (env : Hist C → World C → World C → Prop) : Prop :=
  ∀ h w w', env h w w' → SeenBound j h → ∀ n, BoundTo j n w → BoundTo j n w'

/-- The invariant of the rewire: its deletions are justified, re-reservations
are bounded and, where `spared` holds, the moved disk is guarded. -/
def Guard (j : Job) (spared : Hist C → Prop) : Assertion Call Reply (World C) :=
  fun h w => Orderly j h ∧ reReservations h ≤ maxClassReconciliations ∧
    (spared h → Reserving j h → Guarded j w)

/-- A point of the rewire before the policy is restored: `A` holds of the
cluster, `B` of the calls made, and `k` re-reservations are accounted for. -/
structure Stage (j : Job) (k : ℕ) (A : World C → Prop) (B : Hist C → Prop) (h : Hist C)
    (w : World C) : Prop where
  named : WellNamed w
  orderly : Orderly j h
  count : reReservations h ≤ k
  guard : Reserving j h → Held j w
  world : A w
  past : B h

section Stages

variable {j : Job} {k : ℕ} {A D : World C → Prop} {B E : Hist C → Prop} {h : Hist C} {w w' : World C}

theorem stage_mono (hs : Stage j k A B h w) (hA : A w → D w) (hB : B h → E h) :
    Stage j k D E h w := ⟨hs.named,hs.orderly,hs.count,hs.guard,hA hs.world,hB hs.past⟩

theorem stage_start (hw : WellNamed w) (hA : A w) : Stage j 0 A (fun _ => True) [] w := by
  refine ⟨hw,trivial,Nat.le_refl 0,?_,hA,trivial⟩
  rintro ⟨e,he,_⟩
  cases he

theorem stage_event {e : Event Call Reply (World C)} {k' : ℕ} (hs : Stage j k A B h e.before)
    (hn : WellNamed e.before → WellNamed e.after) (hp : Proper j h e)
    (hc : reReservations (e::h) ≤ k') (hg : Held j e.before → Held j e.after) (hA : D e.after)
    (hB : E (e::h)) : Stage j k' D E (e::h) e.after := by
  refine ⟨hn hs.named,⟨hp,hs.orderly⟩,hc,?_,hA,hB⟩
  rintro ⟨x,hx,hh⟩
  rcases List.mem_cons.mp hx with rfl | hx
  · exact hh
  · exact hg (hs.guard ⟨x,hx,hh⟩)

theorem reads_proper {e : Event Call Reply (World C)} (he : Reads e.call) : Proper j h e := by
  obtain ⟨c,r,w,w'⟩ := e
  cases c with
  | api a => cases a <;> trivial
  | _ => trivial

theorem reads_count {e : Event Call Reply (World C)} (he : Reads e.call) :
    reReservations (e::h) = reReservations h := by
  obtain ⟨c,r,w,w'⟩ := e
  rw [reReservations, List.countP_cons_of_neg]
  · rfl
  · cases c with
    | api a => cases a <;> first | exact Bool.false_ne_true | exact Bool.noConfusion he
    | _ => exact Bool.false_ne_true

theorem stage_read {c : Call} {r : Reply c} (hs : Stage j k A B h w) (hc : Reads c)
    (ho : CallOutcome c w r w') (hA : A w → D w) (hB : E (⟨c,r,w,w⟩::h)) :
    Stage j k D E (⟨c,r,w,w'⟩::h) w' := by
  have hw := reads_outcome hc ho
  subst hw
  exact stage_event hs (fun hn => hn) (reads_proper hc) ((reads_count hc).trans_le hs.count)
    (fun hg => hg) (hA hs.world) hB

theorem stage_add {a : Api} {r : Except ApiError (Answer a)} (hs : Stage j k A B h w)
    (ho : Others w w') (hp : Proper j h ⟨.api a,r,w,w'⟩)
    (hc : reReservations (⟨.api a,r,w,w'⟩::h) ≤ k) (hA : Lasting A) (hB : Grows B) :
    Stage j k A B (⟨.api a,r,w,w'⟩::h) w' :=
  stage_event (e := ⟨.api a,r,w,w'⟩) hs ho.named hp hc (held_lasting j w w' ho)
    (hA w w' ho hs.world) (hB _ h hs.past)

variable {env : Hist C → World C → World C → Prop} {spared : Hist C → Prop}

theorem stage_steady (henv : ∀ h w w', env h w w' → Others w w')
    (hk : k ≤ maxClassReconciliations) (hA : Lasting A) :
    Steady (cluster env) (Guard j spared) (Stage j k A B) where
  stable := by
    intro h w w' he hs
    have ho := henv h w w' he
    exact ⟨ho.named hs.named,hs.orderly,hs.count,fun hr => held_lasting j w w' ho (hs.guard hr),
      hA w w' ho hs.world,hs.past⟩
  safe := fun h w hs => ⟨hs.orderly,hs.count.trans hk,fun _ hr => held_guarded (hs.guard hr)⟩

theorem steady_and {S : Service Call Reply (World C)} {I P T : Assertion Call Reply (World C)}
    (hP : Steady S I P) (hT : Stable S T) : Steady S I (fun h w => P h w ∧ T h w) where
  stable := fun h w w' he hp => ⟨hP.stable h w w' he hp.1,hT h w w' he hp.2⟩
  safe := fun h w hp => hP.safe h w hp.1

theorem triple_stage_reads {α : Type} {x : M α} (henv : ∀ h w w', env h w w' → Others w w')
    (hk : k ≤ maxClassReconciliations) (hA : Lasting A) (hB : Grows B) (hu : x.run.Uses Reads) :
    Triple (cluster env) (Guard j spared) (Stage j k A B) x (fun _ => Stage j k A B) := by
  refine triple_uses (stage_steady henv hk hA) ?_ hu
  intro c h w r w' hc ho hs
  exact stage_read hs hc ho (fun ha => ha) (hB _ h hs.past)

theorem triple_stage_ask {a : Api} (henv : ∀ h w w', env h w w' → Others w w')
    (hk : k ≤ maxClassReconciliations) (hA : Lasting A) (ha : Api.readOnly a)
    {F : Except ApiError (Answer a) → World C → Prop}
    {G : Except ApiError (Answer a) → Hist C → Prop} (hF : ∀ r, Lasting (F r))
    (ho : ∀ h w r, Stage j k A B h w → ApiOutcome a w r w → F r w ∧ G r (⟨.api a,r,w,w⟩::h)) :
    Triple (cluster env) (Guard j spared) (Stage j k A B) (ask a)
      (fun r => Stage j k (F r) (G r)) := by
  refine triple_ask (stage_steady henv hk hA) (fun r => stage_steady henv hk (hF r)) ?_
  intro h w r w' hs hc
  have hw := outcome_readOnly ha hc
  subst hw
  have hf := ho h w' r hs hc
  exact stage_read hs ha (.api hc) (fun _ => hf.1) hf.2

theorem triple_stage_need {a : Api} {wrap : ApiError → GoError}
    (henv : ∀ h w w', env h w w' → Others w w') (hk : k ≤ maxClassReconciliations)
    (hA : Lasting A) (ha : Api.readOnly a) {F : Answer a → World C → Prop}
    {G : Answer a → Hist C → Prop} (hF : ∀ x, Lasting (F x))
    (ho : ∀ h w x, Stage j k A B h w → serve w a = (.ok x,w) →
      F x w ∧ G x (⟨.api a,.ok x,w,w⟩::h)) (hn : ∀ n, a ≠ .nextEvent n) :
    Triple (cluster env) (Guard j spared) (Stage j k A B) (need a wrap)
      (fun x => Stage j k (F x) (G x)) := by
  have hr : ∀ r : Except ApiError (Answer a),
      Lasting (fun w : World C => ∀ x, r = .ok x → F x w) := by
    intro r w w' hw h x hx
    exact hF x w w' hw (h x hx)
  refine triple_mono (P := Stage j k A B)
    (Q := fun x => Stage j k (fun w => ∀ y, (.ok x : Except ApiError (Answer a)) = .ok y → F y w)
      (fun h => ∀ y, (.ok x : Except ApiError (Answer a)) = .ok y → G y h))
    (triple_need (R := fun r => Stage j k (fun w => ∀ x, r = .ok x → F x w)
      (fun h => ∀ x, r = .ok x → G x h)) (stage_steady henv hk hA)
      (fun r => stage_steady henv hk (hr r)) ?_) (fun h w hs => hs) ?_
  · intro h w r w' hs hc
    have hw := outcome_readOnly ha hc
    subst hw
    refine stage_read hs ha (.api hc) ?_ ?_
    · rintro _ x rfl
      exact (ho h w' x hs (outcome_ok hn hc)).1
    · rintro x rfl
      exact (ho h w' x hs (outcome_ok hn hc)).2
  · intro x h w hs
    exact stage_mono hs (fun hf => hf x rfl) (fun hg => hg x rfl)

end Stages

end ProxmoxCSI.RewireGuard
