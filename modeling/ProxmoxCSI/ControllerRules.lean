import ProxmoxCSI.MigrationController
import ProxmoxCSI.AnnotationPatches
import ProxmoxCSI.PlacementOrder
import ProxmoxCSI.CallSessions
import ProxmoxCSI.CallSchedule

/-!
# Rules for the controller's programs

What a request of the controller may do to the cluster, what its helpers say
about the cluster they are asked in, and which calls they issue at all.
-/

set_option autoImplicit false

namespace ProxmoxCSI.ControllerRules
open CallProgram CallProgram.Prog CallSafety CallErrors CallTriples CallSessions CallSchedule
open ClusterState ClusterService MigratorCalls MigrationAnnotations TargetSelection PlacementOrder
open ControllerCalls MigrationController

variable {C : Type} {env : History Duty DutyReply (Realm C) → Realm C → Realm C → Prop}

section Outcomes

def Query.readOnly : Query → Bool
  | .migrator a => Api.readOnly a
  | .patchClaim _ _ _ | .patchNode _ _ => false
  | _ => true

variable {q : Query} {w w' : Realm C}

theorem answer_readOnly (w : Realm C) (hq : Query.readOnly q) : (answer w q).2 = w := by
  cases q with
  | migrator a =>
    show (⟨(serve w.world a).2,w.side⟩ : Realm C) = w
    rw [serve_readOnly w.world hq]
  | patchClaim => cases hq
  | patchNode => cases hq
  | _ => rfl

theorem query_readOnly (hq : Query.readOnly q) {r : Except ApiError (Found q)}
    (h : QueryOutcome q w r w') : w' = w := by
  cases h with
  | served => exact answer_readOnly w hq
  | failed => rfl
  | lost => exact answer_readOnly w hq
  | migrator h => rw [outcome_readOnly hq h]

theorem query_ok (hq : ∀ a, q ≠ .migrator a) {x : Found q} (h : QueryOutcome q w (.ok x) w') :
    answer w q = (.ok x,w') := by
  generalize hr : (Except.ok x : Except ApiError (Found q)) = r at h
  cases h with
  | served => rfl
  | failed => cases hr
  | lost => cases hr
  | migrator => exact absurd rfl (hq _)

/-- Only a served request reports that an object does not exist. -/
theorem query_notFound (hq : ∀ a, q ≠ .migrator a) (h : QueryOutcome q w (.error .notFound) w') :
    answer w q = (.error .notFound,w') := by
  generalize hr : (Except.error .notFound : Except ApiError (Found q)) = r at h
  cases h with
  | served => rfl
  | failed _ _ e he =>
    cases hr
    exact he.elim
  | lost _ _ e he =>
    cases hr
    exact he.elim
  | migrator => exact absurd rfl (hq _)

theorem query_effect (hq : ∀ a, q ≠ .migrator a) {r : Except ApiError (Found q)}
    (h : QueryOutcome q w r w') : w' = w ∨ w' = (answer w q).2 := by
  cases h with
  | served => exact .inr rfl
  | failed => exact .inl rfl
  | lost => exact .inr rfl
  | migrator => exact absurd rfl (hq _)

theorem found_map {α β : Type} {f : α → β} {o : Option α} {x : β} (h : (found o).map f = .ok x) :
    ∃ a, o = some a ∧ f a = x := by
  cases o with
  | none => cases h
  | some a =>
    cases h
    exact ⟨a,rfl,rfl⟩

theorem found_missing {α β : Type} {f : α → β} {o : Option α}
    (h : (found o).map f = .error .notFound) : o = none := by
  cases o with
  | none => rfl
  | some a => cases h

theorem getClaim_ok {ns name : String} {x : ClaimObject}
    (h : QueryOutcome (.getClaim ns name) w (.ok x) w') :
    w.world.pvcs.lookup (ns,name) = some x.pvc ∧ w' = w := by
  obtain ⟨hf,hw⟩ := Prod.mk.inj (query_ok (by simp) h)
  obtain ⟨pvc,hl,rfl⟩ := found_map hf
  exact ⟨hl,hw.symm⟩

theorem getClaim_missing {ns name : String}
    (h : QueryOutcome (.getClaim ns name) w (.error .notFound) w') :
    w.world.pvcs.lookup (ns,name) = none :=
  found_missing (Prod.mk.inj (query_notFound (by simp) h)).1

theorem patchClaim_missing {k : String × String} {p : Patch}
    (ho : QueryOutcome (.patchClaim k.1 k.2 p) w (.error .notFound) w') :
    w.world.pvcs.lookup k = none ∧ w' = w := by
  obtain ⟨hr,hw⟩ := Prod.mk.inj (query_notFound (by simp) ho)
  cases hl : w.world.pvcs.lookup (k.1,k.2) with
  | none =>
    refine ⟨rfl,hw.symm.trans ?_⟩
    simp only [annotateClaim, hl]
  | some pvc =>
    simp only [annotateClaim, hl] at hr
    cases hr

end Outcomes

section Triples

variable {I P : Assertion Duty DutyReply (Realm C)} {q : Query}
  {T : Except ApiError (Found q) → Assertion Duty DutyReply (Realm C)}

theorem triple_inquire (hP : Steady (controller env) I P) (hT : ∀ r, Steady (controller env) I (T r))
    (ho : ∀ h w r w', P h w → QueryOutcome q w r w' → T r (⟨.api q,r,w,w'⟩::h) w') :
    Triple (controller env) I P (inquire q) T := by
  refine triple_perform hP hT ?_
  intro h w r w' hp hc
  cases hc with
  | api hc => exact ho h w r w' hp hc

theorem triple_obtainOf {wrap : ApiError → GoError} (hP : Steady (controller env) I P)
    (hT : ∀ r, Steady (controller env) I (T r))
    (ho : ∀ h w r w', P h w → QueryOutcome q w r w' → T r (⟨.api q,r,w,w'⟩::h) w') :
    Triple (controller env) I P (obtainOf q wrap) (fun x => T (.ok x)) := by
  refine triple_call hP hT ?_ ?_
  · intro h w r w' hp hc
    cases hc with
    | api hc => exact ho h w r w' hp hc
  · intro r x h w hg hr
    cases r with
    | ok y =>
      cases hg
      exact hr
    | error e => cases hg

def lookedUp (x : Option (Found q)) : Except ApiError (Found q) :=
  match x with
  | some a => .ok a
  | none => .error .notFound

theorem triple_lookUp (hP : Steady (controller env) I P) (hT : ∀ r, Steady (controller env) I (T r))
    (ho : ∀ h w r w', P h w → QueryOutcome q w r w' → T r (⟨.api q,r,w,w'⟩::h) w') :
    Triple (controller env) I P (lookUp q) (fun x => T (lookedUp x)) := by
  refine triple_bind (triple_inquire hP hT ho) ?_
  intro r
  cases r with
  | ok x => exact triple_pure (hT _) (fun h w ht => ht)
  | error e =>
    by_cases he : e = .notFound
    · simp only [he, if_true]
      exact triple_pure (hT _) (fun h w ht => ht)
    · simp only [he, if_false]
      exact triple_throw (hT _)

theorem triple_unlessMissing {Q : Assertion Duty DutyReply (Realm C)}
    (hP : Steady (controller env) I P) (hT : ∀ r, Steady (controller env) I (T r))
    (ho : ∀ h w r w', P h w → QueryOutcome q w r w' → T r (⟨.api q,r,w,w'⟩::h) w')
    (hok : ∀ x h w, T (.ok x) h w → Q h w) (hmiss : ∀ h w, T (.error .notFound) h w → Q h w) :
    Triple (controller env) I P (unlessMissing q) (fun _ => Q) := by
  refine triple_bind (triple_inquire hP hT ho) ?_
  intro r
  cases r with
  | ok x => exact triple_pure (hT _) (fun h w ht => hok x h w ht)
  | error e =>
    by_cases he : e = .notFound
    · simp only [he, if_true]
      exact triple_pure (hT _) (fun h w ht => hmiss h w ht)
    · simp only [he, if_false]
      exact triple_throw (hT _)

theorem triple_record {Q : Assertion Duty DutyReply (Realm C)} {subject : Subject} {type : EventType}
    {reason : String} {message : List String} (hP : Steady (controller env) I P)
      (hQ : Steady (controller env) I Q)
    (ho : ∀ h w, P h w → Q (⟨.event subject type reason message,(),w,w⟩::h) w) :
    Triple (controller env) I P (record subject type reason message) (fun _ => Q) := by
  refine triple_perform hP (fun _ => hQ) ?_
  intro h w r w' hp hc
  cases hc with
  | event => exact ho h w hp

end Triples

section Footprints

variable {ok : Duty → Prop}

theorem uses_inquire {q : Query} (h : ok (.api q)) : (inquire q).run.Uses ok := ⟨h,fun _ => trivial⟩

theorem uses_obtainOf {q : Query} {wrap : ApiError → GoError} (h : ok (.api q)) :
    (obtainOf q wrap).run.Uses ok := ⟨h,fun _ => trivial⟩

theorem uses_lookUp {q : Query} (h : ok (.api q)) : (lookUp q).run.Uses ok := by
  refine uses_either (uses_inquire h) (fun _ => trivial) (fun e => ?_)
  by_cases he : e = .notFound <;> simp only [he, if_true, if_false] <;> trivial

theorem uses_unlessMissing {q : Query} (h : ok (.api q)) : (unlessMissing q).run.Uses ok := by
  refine uses_either (uses_inquire h) (fun _ => trivial) (fun e => ?_)
  by_cases he : e = .notFound <;> simp only [he, if_true, if_false] <;> trivial

theorem uses_record {subject : Subject} {type : EventType} {reason : String}
    {message : List String} (h : ok (.event subject type reason message)) :
    (record subject type reason message).run.Uses ok := uses_perform ⟨h,fun _ => trivial⟩

theorem patchPVCAnnotations_uses {ns name : String} {p : Patch} (hget : ok (.api (.getClaim ns name)))
    (hpatch : ∀ p, ok (.api (.patchClaim ns name p))) :
    (patchPVCAnnotations ns name p).run.Uses ok := by
  refine uses_try_bind (uses_lookUp hget) ?_
  intro x
  cases x with
  | none => trivial
  | some current => exact uses_unlessMissing (hpatch _)

def Surveys : Duty → Prop
  | .api (.migrator (.nodesForStorage _ _)) => True
  | .api (.storageStatus _ _ _) => True
  | .api .listClasses => True
  | _ => False

theorem zoneStatuses_surveys (region storageID : String) (zones : List String) :
    (zoneStatuses region storageID zones).run.Uses Surveys := by
  induction zones with
  | nil => trivial
  | cons zone zones ih =>
    refine uses_try_bind (uses_try_bind (uses_obtainOf trivial) (fun _ => trivial)) ?_
    intro c
    exact uses_try_bind ih (fun _ => trivial)

theorem zoneCapacities_surveys (region storageID : String) :
    (zoneCapacities region storageID).run.Uses Surveys := by
  refine uses_try_bind (uses_inquire trivial) ?_
  intro r
  split
  · trivial
  · trivial
  · exact uses_try_bind (zoneStatuses_surveys _ _ _) (fun _ => trivial)

theorem gatherCapacities_surveys (region : String) (storages : List String)
    (t : Table String (List ZoneCapacity)) :
    (gatherCapacities region storages t).run.Uses Surveys := by
  induction storages generalizing t with
  | nil => trivial
  | cons storage storages ih =>
    refine uses_try_bind (zoneCapacities_surveys _ _) ?_
    intro zones
    cases zones with
    | none => exact ih t
    | some zones => exact ih _

theorem gatherStorageCandidates_surveys (region sourceStorage : String) :
    (gatherStorageCandidates region sourceStorage).run.Uses Surveys := by
  refine uses_try_bind (uses_inquire trivial) ?_
  intro scs
  exact uses_try_bind (gatherCapacities_surveys _ _ _) (fun _ => trivial)

theorem autoTarget_surveys (c : Controller) (pv : PersistentVolume) (sourceZone : String) :
    (autoTarget c pv sourceZone).run.Uses Surveys := by
  refine uses_try_bind ?_ ?_
  · unfold parseHandle
    split <;> trivial
  intro vol
  refine uses_try_bind uses_require ?_
  intro _
  refine uses_try_bind (gatherStorageCandidates_surveys _ _) ?_
  intro candidates
  unfold targetFor
  split <;> trivial

theorem surveys_outcome {d : Duty} (hd : Surveys d) {w w' : Realm C} {r : DutyReply d}
    (h : DutyOutcome d w r w') : w' = w := by
  cases h with
  | @api q _ _ _ h =>
    refine query_readOnly ?_ h
    cases q with
    | migrator a => cases a <;> first | rfl | exact hd.elim
    | patchClaim => exact hd.elim
    | patchNode => exact hd.elim
    | _ => rfl
  | _ => rfl

end Footprints

section Targets

/-- A chosen zone has a name and is not the source. -/
theorem autoTarget_zone (c : Controller) (pv : PersistentVolume) (sourceZone : String) :
    (autoTarget c pv sourceZone).run.Returns
      (IfOk (fun place => place.1 ≠ "" ∧ place.1 ≠ sourceZone)) := by
  refine returns_try_bind returns_any ?_
  intro vol _
  refine returns_try_bind returns_any ?_
  intro _ _
  refine returns_try_bind returns_any ?_
  intro candidates _
  rcases selectCrossStorageTarget_cases float64Bytes candidates sourceZone vol.storage pv.capacity
      defaultHeadroom with ⟨x,hx,he⟩ | ⟨⟨e,he⟩,_⟩
  · rw [he]
    exact chosen_place hx
  · rw [he]
    trivial

end Targets

section Alone

def alone : Service Duty DutyReply (Realm C) := controller (fun _ _ _ => False)

theorem alone_calm : Calm (alone : Service Duty DutyReply (Realm C)) := fun _ _ _ h => h

theorem alone_steady {I P : Assertion Duty DutyReply (Realm C)} (h : ∀ h w, P h w → I h w) :
    Steady alone I P := calm_steady alone_calm h

def faulty (fails : List ℕ) : Schedule Duty DutyReply (Realm C) where
  others := fun _ w => w
  answer := fun n d w => match d with
    | .api q => if n ∈ fails then (.error (.other "unavailable"),w) else answer w q
    | .newUUID => (toString n,w)
    | .now => (w.world.time,w)
    | .event _ _ _ _ => ((),w)

theorem faulty_lawful (fails : List ℕ) : Lawful (controller env) (faulty fails) := by
  constructor
  · intro h w
    exact .refl
  · intro n d w
    cases d with
    | api q =>
      by_cases hn : n ∈ fails
      · simp only [faulty, hn, if_true]
        exact .api (.failed q w _ trivial)
      · simp only [faulty, hn, if_false]
        exact .api (.served q w)
    | newUUID => exact .newUUID w _
    | now => exact .now w
    | event subject type reason message => exact .event w _ _ _ _

end Alone

end ProxmoxCSI.ControllerRules
