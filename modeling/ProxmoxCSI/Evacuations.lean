import ProxmoxCSI.ControllerRules
import ProxmoxCSI.MigratorRules

/-!
# Evacuating a node

The evacuation of a node becomes one request for each claim whose volume is in
the zone of the node; then the evacuation itself is consumed. A claim that could
not be read is passed over, so what the evacuation covers are the claims that
were read and those that carried a request before.
-/

set_option autoImplicit false

namespace ProxmoxCSI.Evacuations
open CallProgram CallProgram.Prog CallSafety CallErrors CallTriples CallSessions CallSchedule
open ClusterState ClusterService MigratorCalls MigrationAnnotations AnnotationPatches
open ControllerCalls MigrationController ControllerRules

variable {C : Type}

abbrev Hist (C : Type) := History Duty DutyReply (Realm C)

abbrev ClaimKey := String × String

def Exists (w : Realm C) (k : ClaimKey) : Prop := (w.world.pvcs.lookup k).isSome

def Requested (w : Realm C) (k : ClaimKey) : Prop :=
  ∃ pvc, w.world.pvcs.lookup k = some pvc ∧
    getAnnotation pvc.annotations annotationMigrateNode ≠ ""

def reportCall (node : String) (k : ClaimKey) (text : String) : Duty :=
  .event (.node node) .warning "EvacuationFailed" ["no target for ",k.1,"/",k.2,": ",text]

def Reported (node : String) (k : ClaimKey) (h : Hist C) : Prop :=
  ∃ e ∈ h, ∃ text, e.call = reportCall node k text

def Read (k : ClaimKey) (h : Hist C) : Prop := ∃ e ∈ h, e.call = .api (.getClaim k.1 k.2)

def Answered (k : ClaimKey) (h : Hist C) : Prop :=
  ∃ (x : ClaimObject) (w w' : Realm C),
    (⟨.api (.getClaim k.1 k.2),.ok x,w,w'⟩ : Event Duty DutyReply (Realm C)) ∈ h

def Covered (node : String) (k : ClaimKey) (h : Hist C) (w : Realm C) : Prop :=
  Requested w k ∨ Reported node k h

section Events

theorem getClaim_ne {j k : ClaimKey} (h : j ≠ k) :
    Duty.api (.getClaim k.1 k.2) ≠ .api (.getClaim j.1 j.2) := by
  intro he
  obtain ⟨h₁,h₂⟩ := Query.getClaim.inj (Duty.api.inj he)
  exact h (Prod.ext h₁.symm h₂.symm)

theorem api_ne_report (q : Query) (node : String) (k : ClaimKey) (text : String) :
    Duty.api q ≠ reportCall node k text := by
  intro he
  unfold reportCall at he
  cases he

theorem report_ne_api (q : Query) (node : String) (k : ClaimKey) (text : String) :
    reportCall node k text ≠ Duty.api q := (api_ne_report q node k text).symm

variable {node : String} {k : ClaimKey} {h : Hist C} {e : Event Duty DutyReply (Realm C)}

theorem read_cons (hr : Read k h) : Read k (e::h) := by
  obtain ⟨x,hx,hc⟩ := hr
  exact ⟨x,List.mem_cons_of_mem _ hx,hc⟩

theorem answered_cons (ha : Answered k h) : Answered k (e::h) := by
  obtain ⟨x,w,w',hm⟩ := ha
  exact ⟨x,w,w',List.mem_cons_of_mem _ hm⟩

theorem answered_other (he : e.call ≠ .api (.getClaim k.1 k.2)) :
    Answered k (e::h) ↔ Answered k h := by
  refine ⟨?_,answered_cons⟩
  rintro ⟨x,w,w',hm⟩
  rcases List.mem_cons.mp hm with heq | hm
  · exact absurd (congrArg Event.call heq.symm) he
  · exact ⟨x,w,w',hm⟩

theorem reported_cons (hr : Reported node k h) : Reported node k (e::h) := by
  obtain ⟨x,hx,hc⟩ := hr
  exact ⟨x,List.mem_cons_of_mem _ hx,hc⟩

theorem reported_other (he : ∀ text, e.call ≠ reportCall node k text) :
    Reported node k (e::h) ↔ Reported node k h := by
  refine ⟨?_,reported_cons⟩
  rintro ⟨x,hx,text,hc⟩
  rcases List.mem_cons.mp hx with rfl | hx
  · exact absurd hc (he text)
  · exact ⟨x,hx,text,hc⟩

end Events

section Invariant

variable {w₀ : Realm C} {node : String} {h : Hist C} {w : Realm C} {skip : Option ClaimKey}

/-- What is covered, except for the claim that is being dealt with. -/
structure Sound (w₀ : Realm C) (node : String) (skip : Option ClaimKey) (h : Hist C)
    (w : Realm C) : Prop where
  kept : ∀ k, Exists w k ↔ Exists w₀ k
  covered : ∀ k, Exists w₀ k → skip ≠ some k →
    (Covered node k h w ↔ Requested w₀ k ∨ Answered k h)
  skipped : ∀ k, skip = some k → Answered k h

theorem sound_start (w₀ : Realm C) (node : String) : Sound w₀ node none [] w₀ where
  kept := fun _ => Iff.rfl
  covered := by
    intro k _ _
    constructor
    · rintro (hr | ⟨e,he,_⟩)
      · exact .inl hr
      · cases he
    · rintro (hr | ⟨_,_,_,hm⟩)
      · exact .inl hr
      · cases hm
  skipped := fun _ hk => nomatch hk

def Aside : Duty → Prop
  | .api q => ∀ ns name, q ≠ .getClaim ns name
  | .event _ type _ _ => type = .normal
  | _ => True

theorem sound_aside (hs : Sound w₀ node skip h w) {d : Duty} (hd : Aside d) {r : DutyReply d}
    {w' : Realm C} (hw : w'.world.pvcs = w.world.pvcs) :
    Sound w₀ node skip (⟨d,r,w,w'⟩::h) w' := by
  have hget : ∀ k : ClaimKey, d ≠ .api (.getClaim k.1 k.2) := by
    rintro k rfl
    exact hd k.1 k.2 rfl
  have hrep : ∀ (k : ClaimKey) (text : String), d ≠ reportCall node k text := by
    rintro k text rfl
    cases hd
  have hreq : ∀ k, Requested w' k ↔ Requested w k := by
    intro k
    unfold Requested
    rw [hw]
  refine ⟨?_,?_,fun k hk => answered_cons (hs.skipped k hk)⟩
  · intro k
    rw [← hs.kept k, Exists, Exists, hw]
  · intro k hk hne
    rw [Covered, hreq, reported_other (hrep k), answered_other (hget k)]
    exact hs.covered k hk hne

/-- A claim that is read has been dealt with, or is about to be. -/
theorem sound_read {k : ClaimKey} (hs : Sound w₀ node skip h w) (hskip : skip = none ∨ skip = some k)
    (x : ClaimObject) {w' : Realm C} (hw : w' = w) :
    Sound w₀ node (some k) (⟨.api (.getClaim k.1 k.2),.ok x,w,w'⟩::h) w' := by
  subst hw
  refine ⟨hs.kept,?_,?_⟩
  · intro j hj hne
    have hjk : j ≠ k := fun he => hne (congrArg some he.symm)
    have hskip' : skip ≠ some j := by
      rcases hskip with rfl | rfl
      · exact fun he => nomatch he
      · exact hne
    rw [Covered, reported_other (api_ne_report _ _ _), answered_other (getClaim_ne hjk)]
    exact hs.covered j hj hskip'
  · intro j hj
    cases hj
    exact ⟨x,w',w',List.mem_cons_self⟩

theorem sound_failed {k : ClaimKey} (hs : Sound w₀ node skip h w) (e : ApiError) {w' : Realm C}
    (hw : w' = w) :
    Sound w₀ node skip (⟨.api (.getClaim k.1 k.2),.error e,w,w'⟩::h) w' := by
  subst hw
  have hans : ∀ j, Answered j ((⟨.api (.getClaim k.1 k.2),.error e,w',w'⟩ :
      Event Duty DutyReply (Realm C))::h) ↔ Answered j h := by
    intro j
    refine ⟨?_,answered_cons⟩
    rintro ⟨x,a,b,hm⟩
    rcases List.mem_cons.mp hm with heq | hm
    · by_cases hjk : j = k
      · subst hjk
        cases heq
      · exact absurd (congrArg Event.call heq.symm) (getClaim_ne hjk)
    · exact ⟨x,a,b,hm⟩
  refine ⟨hs.kept,?_,fun j hj => answered_cons (hs.skipped j hj)⟩
  intro j hj hne
  rw [Covered, reported_other (api_ne_report _ _ _), hans]
  exact hs.covered j hj hne

theorem sound_close {k : ClaimKey} (hs : Sound w₀ node (some k) h w)
    (hc : Exists w₀ k → Covered node k h w) : Sound w₀ node none h w := by
  refine ⟨hs.kept,?_,fun j hj => nomatch hj⟩
  intro j hj _
  by_cases hjk : j = k
  · subst hjk
    exact ⟨fun _ => .inr (hs.skipped j rfl),fun _ => hc hj⟩
  · exact hs.covered j hj (fun he => hjk (Option.some.inj he).symm)

theorem sound_report {k : ClaimKey} (hs : Sound w₀ node (some k) h w) (text : String) :
    Sound w₀ node none (⟨reportCall node k text,(),w,w⟩::h) w := by
  refine sound_close (k := k) ⟨hs.kept,?_,fun j hj => answered_cons (hs.skipped j hj)⟩ ?_
  · intro j hj hne
    have hjk : j ≠ k := fun he => hne (congrArg some he.symm)
    have hcall : ∀ t, reportCall node k text ≠ reportCall node j t := by
      intro t he
      have hp := (Duty.event.inj he).2.2.2
      simp only [List.cons.injEq, true_and] at hp
      exact hjk (Prod.ext hp.1.symm hp.2.1.symm)
    rw [Covered, reported_other hcall, answered_other (report_ne_api _ _ _ _)]
    exact hs.covered j hj hne
  · intro _
    exact .inr ⟨_,List.mem_cons_self,text,rfl⟩

theorem sound_stamp {k : ClaimKey} (hs : Sound w₀ node (some k) h w) {p : Patch} {w' : Realm C}
    (hw : answer w (.patchClaim k.1 k.2 p) = (.ok (),w'))
    (hp : ∀ a : Annotations, getAnnotation (applyPatch a p) annotationMigrateNode ≠ "") :
    Sound w₀ node none (⟨.api (.patchClaim k.1 k.2 p),.ok (),w,w'⟩::h) w' := by
  obtain ⟨hr,rfl⟩ := Prod.mk.inj hw
  cases hl : w.world.pvcs.lookup (k.1,k.2) with
  | none =>
    simp only [annotateClaim, hl] at hr
    cases hr
  | some pvc =>
    have hpvcs : (annotateClaim w.world k.1 k.2 p).2.pvcs = w.world.pvcs.insert k
        { pvc with annotations := applyPatch pvc.annotations p } := by
      simp only [annotateClaim, hl]
    have hlk : w.world.pvcs.lookup k = some pvc := hl
    have hrest : ∀ j, j ≠ k →
        (annotateClaim w.world k.1 k.2 p).2.pvcs.lookup j = w.world.pvcs.lookup j := by
      intro j hj
      rw [hpvcs, AList.lookup_insert_ne hj]
    refine sound_close (k := k) ⟨?_,?_,fun j hj => answered_cons (hs.skipped j hj)⟩ ?_
    · intro j
      rw [← hs.kept j, Exists, Exists]
      by_cases hj : j = k
      · subst hj
        rw [hpvcs, AList.lookup_insert, hlk]
        exact Iff.rfl
      · rw [hrest j hj]
    · intro j hj hne
      have hjk : j ≠ k := fun he => hne (congrArg some he.symm)
      have hreq : Requested ⟨(annotateClaim w.world k.1 k.2 p).2,w.side⟩ j ↔ Requested w j := by
        unfold Requested
        rw [hrest j hjk]
      have hget : Duty.api (.patchClaim k.1 k.2 p) ≠ .api (.getClaim j.1 j.2) := by
        intro he
        cases he
      rw [Covered, hreq, reported_other (api_ne_report _ _ _), answered_other hget]
      exact hs.covered j hj hne
    · intro _
      refine .inl ⟨{ pvc with annotations := applyPatch pvc.annotations p },?_,hp _⟩
      rw [hpvcs, AList.lookup_insert]

end Invariant

section Loop

variable {w₀ : Realm C} {node : String} {keys : List ClaimKey}

/-- The volumes have been dealt with, the node has not. -/
structure Underway (w₀ : Realm C) (node : String) (keys : List ClaimKey) (skip : Option ClaimKey)
    (h : Hist C) (w : Realm C) : Prop where
  nodes : w.world.nodes = w₀.world.nodes
  sound : Sound w₀ node skip h w
  read : ∀ k ∈ keys, Read k h

def Unchanged (w₀ : Realm C) : Assertion Duty DutyReply (Realm C) :=
  fun _ w => w.world.nodes = w₀.world.nodes

def Accounted (w₀ : Realm C) (node : String) (keys : List ClaimKey) :
    Assertion Duty DutyReply (Realm C) :=
  fun h w => Unchanged w₀ h w ∨ Sound w₀ node none h w ∧ ∀ k ∈ keys, Read k h

variable {all : List ClaimKey}

theorem underway_steady {skip : Option ClaimKey} :
    Steady alone (Accounted w₀ node all) (Underway w₀ node keys skip) :=
  alone_steady (fun _ _ h => .inl h.nodes)

theorem underway_aside {skip : Option ClaimKey} {h : Hist C} {w w' : Realm C}
    (hu : Underway w₀ node keys skip h w) {d : Duty} (hd : Aside d) {r : DutyReply d}
    (hw : w' = w) : Underway w₀ node keys skip (⟨d,r,w,w'⟩::h) w' := by
  subst hw
  exact ⟨hu.nodes,sound_aside hu.sound hd rfl,fun k hk => read_cons (hu.read k hk)⟩

theorem surveys_aside {d : Duty} (hd : Surveys d) : Aside d := by
  cases d with
  | api q =>
    rintro ns name rfl
    exact hd
  | event => exact hd.elim
  | _ => trivial

theorem sound_missing {k : ClaimKey} {h : Hist C} {w : Realm C}
    (hl : w.world.pvcs.lookup k = none) (hs : Sound w₀ node (some k) h w) :
    Sound w₀ node none h w := by
  refine sound_close hs ?_
  intro he
  have hw := (hs.kept k).mpr he
  rw [Exists, hl] at hw
  cases hw

theorem patchClaim_nodes {ns name : String} {p : Patch} {w w' : Realm C} {r : Except ApiError Unit}
    (ho : QueryOutcome (.patchClaim ns name p) w r w') : w'.world.nodes = w.world.nodes := by
  rcases query_effect (by simp) ho with rfl | rfl
  · rfl
  · show (annotateClaim w.world ns name p).2.nodes = _
    unfold annotateClaim
    split <;> rfl

theorem stamp_closes {k : ClaimKey} {p : Patch}
    (hp : ∀ a : Annotations, getAnnotation (applyPatch a p) annotationMigrateNode ≠ "") :
    Triple alone (Accounted w₀ node all) (Underway w₀ node keys (some k))
      (unlessMissing (.patchClaim k.1 k.2 p)) (fun _ => Underway w₀ node keys none) := by
  refine triple_unlessMissing
    (T := fun (r : Except ApiError (Found (.patchClaim k.1 k.2 p))) h w => Unchanged w₀ h w ∧
      (r = .ok () ∨ r = .error .notFound → Underway w₀ node keys none h w))
    underway_steady (fun r => alone_steady (fun _ _ h => .inl h.1)) ?_
    (fun x h w hu => hu.2 (.inl rfl)) (fun h w hu => hu.2 (.inr rfl))
  intro h w r w' hu ho
  have hn : w'.world.nodes = w₀.world.nodes := (patchClaim_nodes ho).trans hu.nodes
  have hread : ∀ {e : Event Duty DutyReply (Realm C)}, ∀ j ∈ keys, Read j (e::h) :=
    fun j hj => read_cons (hu.read j hj)
  refine ⟨hn,?_⟩
  rintro (rfl | rfl)
  · exact ⟨hn,sound_stamp hu.sound (query_ok (by simp) ho) hp,hread⟩
  · obtain ⟨hl,rfl⟩ := patchClaim_missing ho
    refine ⟨hn,sound_missing hl (sound_aside hu.sound ?_ rfl),hread⟩
    intro ns name he
    cases he

theorem patchPVCAnnotations_stamps {k : ClaimKey} {p : Patch}
    (hp : ∀ c a : Annotations,
      getAnnotation (applyPatch a (normalizeLegacy c p)) annotationMigrateNode ≠ "") :
    Triple alone (Accounted w₀ node all) (Underway w₀ node keys (some k))
      (patchPVCAnnotations k.1 k.2 p) (fun _ => Underway w₀ node keys none) := by
  refine triple_bind (triple_lookUp
    (T := fun (r : Except ApiError (Found (.getClaim k.1 k.2))) h w =>
      Underway w₀ node keys (some k) h w ∧ (r = .error .notFound → w.world.pvcs.lookup k = none))
    underway_steady (fun r => alone_steady (fun _ _ h => .inl h.1.nodes)) ?_) ?_
  · intro h w r w' hu ho
    have hw : w' = w := query_readOnly rfl ho
    have hread : ∀ {e : Event Duty DutyReply (Realm C)}, ∀ j ∈ keys, Read j (e::h) :=
      fun j hj => read_cons (hu.read j hj)
    cases r with
    | ok x => exact ⟨⟨hw ▸ hu.nodes,sound_read hu.sound (.inr rfl) x hw,hread⟩,fun he => nomatch he⟩
    | error e =>
      refine ⟨⟨hw ▸ hu.nodes,sound_failed hu.sound e hw,hread⟩,?_⟩
      rintro he
      cases he
      exact hw ▸ getClaim_missing ho
  · intro x
    cases x with
    | none =>
      refine triple_pure (alone_steady (fun _ _ h => .inl h.1.nodes)) ?_
      intro h w hu
      exact ⟨hu.1.nodes,sound_missing (hu.2 rfl) hu.1.sound,hu.1.read⟩
    | some current =>
      exact triple_mono (stamp_closes (hp _)) (fun _ _ hu => hu.1) (fun _ _ _ hq => hq)

theorem evacuationPatch_requests {target storage : String} {force : Bool} (ht : target ≠ "")
    (c a : Annotations) : getAnnotation (applyPatch a
      (normalizeLegacy c (evacuationPatch target storage force))) annotationMigrateNode ≠ "" := by
  have hk : Protocol annotationMigrateNode (driverName ++ "/migrate-node") := by decide +kernel
  have hn : ((evacuationPatch target storage force).map Prod.fst).Nodup := by
    unfold evacuationPatch storagePatch
    by_cases hs : storage = "" <;> cases force <;>
      simp only [hs, if_true, if_false, List.map_append, List.map_cons, List.map_nil] <;>
      decide +kernel
  rw [annotation_set hk hn (List.lookup_cons_self) ht c a]
  exact ht

theorem evacuationTarget_settles (c : Controller) {target zone : String} {pv : PersistentVolume}
    {ref : ObjectReference} (ht : target ≠ "") :
    Triple alone (Accounted w₀ node all) (Underway w₀ node keys (some (ref.ns,ref.name)))
      (evacuationTarget c node target zone pv ref)
      (fun place h w => match place with
        | none => Underway w₀ node keys none h w
        | some p => Underway w₀ node keys (some (ref.ns,ref.name)) h w ∧ p.1 ≠ "") := by
  unfold evacuationTarget
  split
  · exact triple_pure underway_steady (fun h w hu => ⟨hu,ht⟩)
  · refine triple_bind (triple_observed
      (R := fun r h w => Underway w₀ node keys (some (ref.ns,ref.name)) h w ∧
        IfOk (fun p : String × String => p.1 ≠ "" ∧ p.1 ≠ zone) r) ?_) ?_
    · intro h w hu
      refine safe_returns (safe_mono (safe_uses ?_ ?_ (autoTarget_surveys c pv zone) hu)
        (fun _ _ hi => .inl hi.nodes) (fun _ _ _ _ hq => hq)) (autoTarget_zone c pv zone)
      · exact fun _ _ _ he => he.elim
      · intro d h w r w' hd ho hi
        exact underway_aside hi (surveys_aside hd) (surveys_outcome hd ho)
    · intro r
      cases r with
      | ok place =>
        exact triple_pure (alone_steady (fun _ _ h => .inl h.1.nodes)) (fun h w hu => ⟨hu.1,hu.2.1⟩)
      | error e =>
        refine triple_bind (triple_record (Q := Underway w₀ node keys none)
          (alone_steady (fun _ _ h => .inl h.1.nodes)) underway_steady ?_) ?_
        · intro h w hu
          exact ⟨hu.1.nodes,sound_report hu.1.sound e.text,
            fun k hk => read_cons (hu.1.read k hk)⟩
        · exact fun _ => triple_pure underway_steady (fun h w hu => hu)

def claimsOf (v : VolumeObject) : List ClaimKey :=
  match v.pv.claimRef with
  | none => []
  | some ref => if v.refKind ≠ claimKind then [] else [(ref.ns,ref.name)]

theorem getClaim_opens (ns name : String) :
    Triple alone (Accounted w₀ node all) (Underway w₀ node keys none)
      (inquire (.getClaim ns name))
      (fun (r : Except ApiError ClaimObject) h w =>
        Underway w₀ node ((ns,name)::keys) (r.toOption.map (fun _ => (ns,name))) h w ∧
        ∀ x, r = .ok x → w.world.pvcs.lookup (ns,name) = some x.pvc) := by
  refine triple_inquire underway_steady (fun r => alone_steady (fun _ _ h => .inl h.1.nodes)) ?_
  intro h w r w' hu ho
  have hw : w' = w := query_readOnly rfl ho
  have hread : ∀ (a b : Realm C), ∀ j ∈ (ns,name)::keys,
      Read j ((⟨.api (.getClaim ns name),r,a,b⟩ : Event Duty DutyReply (Realm C))::h) := by
    intro a b j hj
    rcases List.mem_cons.mp hj with rfl | hj
    · exact ⟨_,List.mem_cons_self,rfl⟩
    · exact read_cons (hu.read j hj)
  cases r with
  | ok x =>
    refine ⟨⟨hw ▸ hu.nodes,sound_read (k := (ns,name)) hu.sound (.inl rfl) x hw,hread _ _⟩,?_⟩
    intro y hy
    cases hy
    exact hw ▸ (getClaim_ok ho).1
  | error e =>
    exact ⟨⟨hw ▸ hu.nodes,sound_failed (k := (ns,name)) hu.sound e hw,hread _ _⟩,
      fun y hy => nomatch hy⟩

theorem evacuateVolume_reads (c : Controller) {target zone : String} {force : Bool}
    (v : VolumeObject) (ht : target ≠ "") :
    Triple alone (Accounted w₀ node all) (Underway w₀ node keys none)
      (evacuateVolume c node target zone force v)
      (fun _ => Underway w₀ node (claimsOf v ++ keys) none) := by
  unfold evacuateVolume claimsOf
  cases v.pv.claimRef with
  | none => exact triple_pure underway_steady (fun h w hu => hu)
  | some ref =>
    by_cases hk : v.refKind ≠ claimKind
    · simp only [if_pos hk]
      exact triple_pure underway_steady (fun h w hu => hu)
    · simp only [if_neg hk]
      refine triple_bind (getClaim_opens ref.ns ref.name) ?_
      intro r
      cases r with
      | error e =>
        exact triple_pure (alone_steady (fun _ _ h => .inl h.1.nodes)) (fun h w hu => hu.1)
      | ok claim =>
        by_cases hreq : getAnnotation claim.pvc.annotations annotationMigrateNode ≠ ""
        · simp only [if_pos hreq]
          refine triple_pure (alone_steady (fun _ _ h => .inl h.1.nodes)) ?_
          rintro h w ⟨hu,hl⟩
          exact ⟨hu.nodes,sound_close hu.sound (fun _ => .inl ⟨claim.pvc,hl claim rfl,hreq⟩),hu.read⟩
        · simp only [if_neg hreq]
          refine triple_mono (triple_bind (evacuationTarget_settles c ht) ?_)
            (fun h w hu => hu.1) (fun _ _ _ hq => hq)
          intro place
          cases place with
          | none => exact triple_pure underway_steady (fun h w hu => hu)
          | some place =>
            obtain ⟨pvcTarget,pvcStorage⟩ := place
            refine triple_fact ?_
            intro hne
            refine triple_bind (patchPVCAnnotations_stamps (k := (ref.ns,ref.name))
              (evacuationPatch_requests hne)) ?_
            exact fun _ => triple_pure underway_steady (fun h w hu => hu)

theorem evacuateVolumes_read (c : Controller) {target zone : String} {force : Bool}
    (ht : target ≠ "") (vs : List VolumeObject) (keys : List ClaimKey) :
    Triple alone (Accounted w₀ node all) (Underway w₀ node keys none)
      (evacuateVolumes c node target zone force vs)
      (fun _ h w => Unchanged w₀ h w ∧ Sound w₀ node none h w ∧
        ∀ k ∈ vs.flatMap claimsOf ++ keys, Read k h) := by
  induction vs generalizing keys with
  | nil => exact triple_pure underway_steady (fun h w hu => ⟨hu.nodes,hu.sound,hu.read⟩)
  | cons v vs ih =>
    refine triple_bind (evacuateVolume_reads c v ht) ?_
    intro n
    refine triple_bind (ih (claimsOf v ++ keys)) ?_
    intro rest
    refine triple_pure (alone_steady (fun _ _ h => .inl h.1)) ?_
    rintro h w ⟨hn,hs,hr⟩
    refine ⟨hn,hs,?_⟩
    intro k hk
    apply hr k
    simp only [List.flatMap_cons, List.mem_append] at hk ⊢
    tauto

end Loop

section Results

def claimsIn (w : Realm C) (region zone : String) : List ClaimKey :=
  (((values w.world.pvs).map w.volumeObject).filter (inZone driverName region zone)).flatMap claimsOf

def Closes (name : String) : Duty → Prop
  | .api (.getNode n) => n = name
  | .api (.patchNode n _) => n = name
  | .event _ type _ _ => type = .normal
  | _ => False

theorem closes_aside {name : String} {d : Duty} (hd : Closes name d) : Aside d := by
  cases d with
  | api q =>
    rintro ns n rfl
    exact hd
  | event => exact hd
  | _ => trivial

theorem closes_pvcs {name : String} {d : Duty} (hd : Closes name d) {w w' : Realm C}
    {r : DutyReply d} (ho : DutyOutcome d w r w') : w'.world.pvcs = w.world.pvcs := by
  cases ho with
  | @api q _ _ _ ho =>
    cases q with
    | getNode n => rw [query_readOnly rfl ho]
    | patchNode n p =>
      rcases query_effect (by simp) ho with rfl | rfl
      · rfl
      · show (annotateNode w.world n p).2.pvcs = _
        unfold annotateNode
        split <;> rfl
    | _ => exact hd.elim
  | _ => rfl

theorem patchNodeAnnotations_closes (name : String) (p : Patch) :
    (patchNodeAnnotations name p).run.Uses (Closes name) := by
  refine uses_try_bind (uses_lookUp rfl) ?_
  intro x
  cases x with
  | none => trivial
  | some current => exact uses_unlessMissing rfl

variable {w₀ : Realm C} {name region zone : String} {n : KubeNode}

theorem expandEvacuation_accounts (c : Controller) {target : String} {force : Bool}
    (ht : target ≠ "") :
    Triple alone (Accounted w₀ name (claimsIn w₀ region zone))
      (fun h w => Underway w₀ name [] none h w ∧ w = w₀)
      (expandEvacuation c name target region zone force) (fun _ _ _ => True) := by
  have hlist : Triple alone (Accounted w₀ name (claimsIn w₀ region zone))
      (fun h w => Underway w₀ name [] none h w ∧ w = w₀) (pvsInZone driverName region zone)
      (fun vs h w => Underway w₀ name [] none h w ∧
        vs.flatMap claimsOf = claimsIn w₀ region zone) := by
    refine triple_bind (triple_obtainOf
      (T := fun (r : Except ApiError (Found .listVolumes)) h w => Underway w₀ name [] none h w ∧
        ∀ x, r = .ok x → x = (values w₀.world.pvs).map w₀.volumeObject)
      (alone_steady (fun _ _ h => .inl h.1.nodes))
      (fun r => alone_steady (fun _ _ h => .inl h.1.nodes)) ?_) ?_
    · rintro h w r w' ⟨hu,rfl⟩ ho
      have hq : Aside (.api .listVolumes) := fun _ _ he => nomatch he
      refine ⟨underway_aside hu hq (query_readOnly rfl ho),?_⟩
      rintro x rfl
      exact (Except.ok.inj (Prod.mk.inj (query_ok (by simp) ho)).1).symm
    · intro vs
      refine triple_pure (alone_steady (fun _ _ h => .inl h.1.nodes)) ?_
      intro h w hu
      refine ⟨hu.1,?_⟩
      rw [hu.2 vs rfl]
      rfl
  refine triple_bind hlist ?_
  intro vs
  refine triple_fact ?_
  intro hvs
  refine triple_bind (evacuateVolumes_read c ht vs []) ?_
  intro stamped
  let P : Assertion Duty DutyReply (Realm C) := fun h w =>
    Sound w₀ name none h w ∧ ∀ k ∈ claimsIn w₀ region zone, Read k h
  have hP : Steady alone (Accounted w₀ name (claimsIn w₀ region zone)) P :=
    alone_steady (fun _ _ h => .inr h)
  have hclose : ∀ d h w r w', Closes name d → DutyOutcome d w r w' → P h w →
      P (⟨d,r,w,w'⟩::h) w' := by
    intro d h w r w' hd ho hp
    exact ⟨sound_aside hp.1 (closes_aside hd) (closes_pvcs hd ho),fun k hk => read_cons (hp.2 k hk)⟩
  refine triple_mono (triple_uses hP hclose ?_) ?_ (fun _ _ _ _ => trivial)
  · exact uses_try_bind (uses_record rfl) (fun _ => patchNodeAnnotations_closes name _)
  rintro h w ⟨_,hs,hr⟩
  rw [List.append_nil, hvs] at hr
  exact ⟨hs,hr⟩

theorem reconcileNode_accounts (c : Controller) (hn : w₀.world.nodes.lookup name = some n)
    (ht : getAnnotation n.annotations annotationEvacuate ≠ "")
    (hplace : getNodeTopology (w₀.side.labels n.name) = (region,zone)) (hr : region ≠ "")
    (hz : zone ≠ "") :
    Triple alone (Accounted w₀ name (claimsIn w₀ region zone)) (fun h w => h = [] ∧ w = w₀)
      (reconcileNode c name) (fun _ _ _ => True) := by
  refine triple_bind (triple_lookUp
    (T := fun (r : Except ApiError (Found (.getNode name))) h w =>
      (Underway w₀ name [] none h w ∧ w = w₀) ∧ ∀ x, r = .ok x → x = w₀.nodeObject n)
    (alone_steady ?_) (fun r => alone_steady (fun _ _ h => .inl h.1.1.nodes)) ?_) ?_
  · rintro h w ⟨_,rfl⟩
    exact .inl rfl
  · rintro h w r w' ⟨rfl,rfl⟩ ho
    have hw : w' = w := query_readOnly rfl ho
    have hstart : Underway w name [] none [] w := ⟨rfl,sound_start w name,fun _ hk => nomatch hk⟩
    have hq : Aside (.api (.getNode name)) := fun _ _ he => nomatch he
    refine ⟨⟨underway_aside hstart hq hw,hw⟩,?_⟩
    rintro x rfl
    obtain ⟨a,ha,rfl⟩ := found_map (Prod.mk.inj (query_ok (by simp) ho)).1
    rw [hn] at ha
    cases ha
    rfl
  · intro x
    cases x with
    | none => exact triple_pure (alone_steady (fun _ _ h => .inl h.1.1.nodes)) (fun _ _ _ => trivial)
    | some node =>
      refine triple_mono (P := fun h w => (Underway w₀ name [] none h w ∧ w = w₀) ∧
        node = w₀.nodeObject n) (triple_fact ?_) (fun h w hu => ⟨hu.1,hu.2 node rfl⟩)
        (fun _ _ _ hq => hq)
      rintro rfl
      have hlabels : getNodeTopology (w₀.nodeObject n).labels = (region,zone) := hplace
      have hasked : getAnnotation (w₀.nodeObject n).node.annotations annotationEvacuate ≠ "" := ht
      simp only [hlabels]
      rw [if_neg hasked, if_neg (not_or.mpr ⟨hr,hz⟩)]
      exact expandEvacuation_accounts c ht

def Consumed (w : Realm C) (name : String) : Prop :=
  ∃ n, w.world.nodes.lookup name = some n ∧ getAnnotation n.annotations annotationEvacuate = ""

/-- When an evacuation has been consumed, every claim of its zone was asked for.
It carries a request or was reported exactly when it carried one before or the
answer arrived. -/
theorem evacuation_covers_iff (c : Controller) {w : Realm C} {n : KubeNode}
    {name region zone : String} (hn : w.world.nodes.lookup name = some n)
    (ht : getAnnotation n.annotations annotationEvacuate ≠ "")
    (hplace : getNodeTopology (w.side.labels n.name) = (region,zone)) (hr : region ≠ "")
    (hz : zone ≠ "") {d : Config Duty DutyReply (Realm C) (Except GoError Unit)}
    (hrun : Runs alone ⟨[],w,(reconcileNode c name).run⟩ d) (hgone : Consumed d.world name)
    {key : String} {v : PersistentVolume} {ref : ObjectReference}
    (hv : w.world.pvs.lookup key = some v) (hin : inZone driverName region zone (w.volumeObject v))
    (href : v.claimRef = some ref) (hkind : w.side.refKind v.name = claimKind)
    (hpvc : Exists w (ref.ns,ref.name)) :
    Read (ref.ns,ref.name) d.hist ∧
    (Requested d.world (ref.ns,ref.name) ∨ Reported name (ref.ns,ref.name) d.hist ↔
      Requested w (ref.ns,ref.name) ∨ Answered (ref.ns,ref.name) d.hist) := by
  have hacc := triple_invariant (reconcileNode_accounts c hn ht hplace hr hz) ⟨rfl,rfl⟩ hrun
  rcases hacc with hsame | ⟨hs,hread⟩
  · obtain ⟨m,hm,hempty⟩ := hgone
    rw [hsame, hn] at hm
    cases hm
    exact absurd hempty ht
  · refine ⟨hread _ ?_,hs.covered _ hpvc (fun he => nomatch he)⟩
    have hclaims : claimsOf (w.volumeObject v) = [(ref.ns,ref.name)] := by
      have href' : (w.volumeObject v).pv.claimRef = some ref := href
      have hkind' : (w.volumeObject v).refKind = claimKind := hkind
      unfold claimsOf
      rw [href', hkind']
      rfl
    refine List.mem_flatMap.mpr ⟨w.volumeObject v,?_,by rw [hclaims]; exact List.mem_singleton_self _⟩
    exact List.mem_filter.mpr ⟨List.mem_map.mpr ⟨v,mem_values.mpr ⟨key,hv⟩,rfl⟩,hin⟩

end Results

section Samples
open MigratorRules (sampleWorld sampleMigrator samplePatience)

def sampleController : Controller := ⟨sampleMigrator,samplePatience,⟨5,by decide⟩⟩

def plainSurroundings : Surroundings where
  labels := fun name => tableOf [("topology.kubernetes.io/region","r"),
    ("topology.kubernetes.io/zone",name)]
  taints := fun _ => []
  owners := fun _ _ => []
  refKind := fun _ => claimKind
  defaultMark := fun _ => ""
  classCreated := fun _ => 0
  capacity := fun _ _ _ => some (100,200)

def evacuatedNode : KubeNode := ⟨"n1","",tableOf [(annotationEvacuate,"n2")],"",false⟩

def evacuatedRealm : Realm ℕ :=
  ⟨{ sampleWorld "vm-9999-pvc-a" .delete with nodes := tableOf [("n1",evacuatedNode)] },
    plainSurroundings⟩

def evacuationWith (fails : List ℕ) : Finished Duty DutyReply (Realm ℕ) (Except GoError Unit) :=
  finish (faulty fails) (reconcileNode sampleController "n1").run [] evacuatedRealm

def annotationAt (w : Realm ℕ) (key : String) : Option String :=
  (w.world.pvcs.lookup ("ns","a")).map (fun pvc => getAnnotation pvc.annotations key)

def evacuateMark (w : Realm ℕ) : Option String :=
  (w.world.nodes.lookup "n1").map (fun n => getAnnotation n.annotations annotationEvacuate)

def warns (e : Event Duty DutyReply (Realm ℕ)) : Bool :=
  match e.call with
  | .event _ .warning _ _ => true
  | _ => false

def returns (k : ClaimKey) : Event Duty DutyReply (Realm ℕ) → Bool
  | ⟨.api (.getClaim ns name),.ok _,_,_⟩ => decide ((ns,name) = k)
  | _ => false

theorem answered_of_returns {k : ClaimKey} {h : Hist ℕ} (ha : h.any (returns k) = true) :
    Answered k h := by
  obtain ⟨e,he,hr⟩ := List.any_eq_true.mp ha
  unfold returns at hr
  split at hr
  · rename_i ns name x w w'
    obtain rfl := of_decide_eq_true hr
    exact ⟨x,w,w',he⟩
  · cases hr

theorem consumed_of_mark {w : Realm ℕ} (h : evacuateMark w = some "") : Consumed w "n1" := by
  obtain ⟨n,hn,hv⟩ := Option.map_eq_some_iff.mp h
  exact ⟨n,hn,hv⟩

theorem unrequested_when_empty {w : Realm ℕ} (h : annotationAt w annotationMigrateNode = some "") :
    ¬Requested w ("ns","a") := by
  rintro ⟨pvc,hl,hne⟩
  rw [annotationAt, hl] at h
  exact hne (Option.some.inj h)

/-- The read of the claim fails, and the evacuation is consumed all the same. -/
theorem unread_claim_lost : ∃ d, Runs alone
      ⟨[],evacuatedRealm,(reconcileNode sampleController "n1").run⟩ d ∧
    Consumed d.world "n1" ∧ Exists evacuatedRealm ("ns","a") ∧
    (∃ v, evacuatedRealm.world.pvs.lookup "pv-a" = some v ∧
      inZone driverName "r" "n1" (evacuatedRealm.volumeObject v) ∧
      v.claimRef = some ⟨"ns","a","uid-0"⟩) ∧
    ¬Requested d.world ("ns","a") ∧ ¬Reported "n1" ("ns","a") d.hist := by
  have hchecks : evacuateMark (evacuationWith [2]).world = some "" ∧
      annotationAt (evacuationWith [2]).world annotationMigrateNode = some "" ∧
      (evacuationWith [2]).hist.any warns = false := by decide +kernel
  obtain ⟨hmark,hreq,hquiet⟩ := hchecks
  refine ⟨_,finish_runs (faulty_lawful [2]) _ _ _,consumed_of_mark hmark,rfl,
    ⟨_,rfl,by decide +kernel,rfl⟩,unrequested_when_empty hreq,?_⟩
  rintro ⟨e,he,text,hc⟩
  have hw : warns e = true := by
    unfold warns
    rw [hc]
    rfl
  have hall := List.any_eq_false.mp hquiet e he
  exact hall hw

/-- Every call is served: the claim is stamped with the target. -/
theorem evacuation_covers_iff_served : ∃ d, Runs alone
      ⟨[],evacuatedRealm,(reconcileNode sampleController "n1").run⟩ d ∧
    Consumed d.world "n1" ∧ Answered ("ns","a") d.hist ∧
    (Requested d.world ("ns","a") ∨ Reported "n1" ("ns","a") d.hist) := by
  have hchecks : evacuateMark (evacuationWith []).world = some "" ∧
      (evacuationWith []).hist.any (returns ("ns","a")) = true := by decide +kernel
  have hrun : Runs alone ⟨[],evacuatedRealm,(reconcileNode sampleController "n1").run⟩
      ⟨(evacuationWith []).hist,(evacuationWith []).world,.done (evacuationWith []).value⟩ :=
    finish_runs (faulty_lawful []) _ _ _
  have hplace : getNodeTopology (evacuatedRealm.side.labels evacuatedNode.name) = ("r","n1") := by
    decide +kernel
  obtain ⟨v,hv,hin,href⟩ : ∃ v, evacuatedRealm.world.pvs.lookup "pv-a" = some v ∧
      inZone driverName "r" "n1" (evacuatedRealm.volumeObject v) ∧
      v.claimRef = some ⟨"ns","a","uid-0"⟩ := ⟨_,rfl,by decide +kernel,rfl⟩
  have hgone := consumed_of_mark hchecks.1
  have hans := answered_of_returns hchecks.2
  refine ⟨_,hrun,hgone,hans,?_⟩
  exact (evacuation_covers_iff sampleController (n := evacuatedNode) rfl (by decide +kernel) hplace
    (by decide) (by decide) hrun hgone hv hin href rfl rfl).2.mpr (.inr hans)

end Samples

end ProxmoxCSI.Evacuations
