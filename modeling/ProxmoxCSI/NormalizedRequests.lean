import ProxmoxCSI.CallSystem
import ProxmoxCSI.ReactiveTargets

/-!
# Removed requests and pending patches

A patch of a claim is computed from a read of it. When the claim carries its request
under the legacy name, the patch writes that request under the canonical name. If the
request is removed between the read and the write, the write brings it back. If no such
write is pending when the request is removed, it stays removed until a writer sets one.
-/

set_option autoImplicit false

namespace ProxmoxCSI.NormalizedRequests
open CallProgram CallProgram.Prog CallErrors CallSchedule CallSystem ClusterState ClusterService
open MigratorCalls
open MigrationAnnotations AnnotationPatches ControllerCalls ControllerRules
open ReactiveTargets (requestAt)

variable {C : Type}

section Patches

def legacyNode : String := driverName ++ "/migrate-node"

theorem node_protocol : Protocol annotationMigrateNode legacyNode := by decide +kernel

def Sets (p : Patch) : Prop :=
  ∃ v, v ≠ "" ∧ ((annotationMigrateNode,some v) ∈ p ∨ (legacyNode,some v) ∈ p)

theorem value_unset {a : Annotations} {p : Patch} {key : String} (ha : valueOf a key = "")
    (hp : ∀ v, (key,some v) ∈ p → v = "") : valueOf (applyPatch a p) key = "" := by
  induction p generalizing a with
  | nil => exact ha
  | cons x p ih =>
    obtain ⟨k,v⟩ := x
    have hrest : ∀ v, (key,some v) ∈ p → v = "" := fun v hv => hp v (List.mem_cons_of_mem _ hv)
    cases v with
    | none =>
      refine ih (a := a.erase k) ?_ hrest
      by_cases hk : key = k
      · rw [valueOf, hk, AList.lookup_erase, Option.getD_none]
      · rw [valueOf, AList.lookup_erase_ne hk]
        exact ha
    | some v =>
      refine ih (a := a.insert k v) ?_ hrest
      by_cases hk : key = k
      · subst hk
        rw [valueOf, AList.lookup_insert, Option.getD_some]
        exact hp v List.mem_cons_self
      · rw [valueOf, AList.lookup_insert_ne hk]
        exact ha

theorem request_values {a : Annotations} (h : getAnnotation a annotationMigrateNode = "") :
    valueOf a annotationMigrateNode = "" ∧ valueOf a legacyNode = "" := by
  rw [getAnnotation_eq node_protocol] at h
  by_cases hv : valueOf a annotationMigrateNode = ""
  · rw [hv] at h
    exact ⟨hv,h⟩
  · rw [if_pos hv] at h
    exact absurd h hv

theorem request_unset {a : Annotations} {p : Patch} (ha : getAnnotation a annotationMigrateNode = "")
    (hp : ¬Sets p) : getAnnotation (applyPatch a p) annotationMigrateNode = "" := by
  obtain ⟨hc,hl⟩ := request_values ha
  have hnode : valueOf (applyPatch a p) annotationMigrateNode = "" :=
    value_unset hc (fun v hv => by_contra fun hne => hp ⟨v,hne,.inl hv⟩)
  have hlegacy : valueOf (applyPatch a p) legacyNode = "" :=
    value_unset hl (fun v hv => by_contra fun hne => hp ⟨v,hne,.inr hv⟩)
  rw [getAnnotation_eq node_protocol, hnode, hlegacy]
  rfl

theorem mem_add {p : Patch} {key : String} {v : Option String} {x : String × Option String}
    (h : x ∈ addUnlessAddressed p key v) : x ∈ p ∨ x = (key,v) := by
  unfold addUnlessAddressed at h
  split at h
  · exact .inl h
  · simpa using h

/-- What is folded in is the value that was read, or a deletion. -/
theorem mem_normalizeLegacy {c : Annotations} {p : Patch} {x : String × Option String}
    (h : x ∈ normalizeLegacy c p) :
    x ∈ p ∨ (∃ n ∈ legacyAnnotationAliases, x = (n.1,some <| getAnnotation c n.1) ∧
      getAnnotation c n.1 ≠ "") ∨ x.2 = none := by
  unfold normalizeLegacy at h
  generalize legacyAnnotationAliases = names at h ⊢
  induction names generalizing p with
  | nil => exact .inl h
  | cons n names ih =>
    rcases ih h with h | ⟨m,hm,hx⟩ | h
    · unfold foldLegacy at h
      split at h
      · exact .inl h
      · rcases mem_add h with h | rfl
        · split at h
          · rename_i hne
            rcases mem_add h with h | rfl
            · exact .inl h
            · exact .inr (.inl ⟨n,List.mem_cons_self,rfl,hne⟩)
          · exact .inl h
        · exact .inr (.inr rfl)
    · exact .inr (.inl ⟨m,List.mem_cons_of_mem _ hm,hx⟩)
    · exact .inr (.inr h)

theorem normalized_unset {c : Annotations} {p : Patch}
    (hc : getAnnotation c annotationMigrateNode = "") (hp : ¬Sets p) :
    ¬Sets (normalizeLegacy c p) := by
  have hnames : ∀ n ∈ legacyAnnotationAliases, n.1 ≠ legacyNode := by decide +kernel
  rintro ⟨v,hne,hv | hv⟩
  · rcases mem_normalizeLegacy hv with h | ⟨n,_,he,hn⟩ | h
    · exact hp ⟨v,hne,.inl h⟩
    · rw [← (Prod.mk.inj he).1] at hn
      exact hn hc
    · cases h
  · rcases mem_normalizeLegacy hv with h | ⟨n,hm,he,_⟩ | h
    · exact hp ⟨v,hne,.inr h⟩
    · exact hnames n hm (Prod.mk.inj he).1.symm
    · cases h

end Patches

section Processes

variable {ι : Type} [DecidableEq ι] (ns name : String) (args : ι → Patch)

abbrev Patching (ι C : Type) := System ι Duty DutyReply (Realm C) (Except GoError Unit)

def shared : Shared Duty DutyReply (Realm C) := ⟨DutyOutcome,fun _ _ => True⟩

def start (w : Realm C) : Patching ι C := ⟨[],w,fun i => (patchPVCAnnotations ns name (args i)).run⟩

def Pending (s : Patching ι C) (i : ι) (p : Patch) : Prop :=
  ∃ next, s.procs i = .call (.api (.patchClaim ns name p)) next

def Unset (a b : Patching ι C) : Prop :=
  (b.hist = a.hist → requestAt b.world ns name = "" ∨
    requestAt b.world ns name = requestAt a.world ns name) ∧
  ∀ i e p, b.hist = (i,e)::a.hist → e.call = .api (.patchClaim ns name p) → ¬Sets (args i)

/-- How far a process has come. -/
inductive Stage (q : Patch) : Prog Duty DutyReply (Except GoError Unit) → Prop
  | reading : Stage q (patchPVCAnnotations ns name q).run
  | writing (c : Annotations) : Stage q (unlessMissing (.patchClaim ns name (normalizeLegacy c q))).run
  | done (r : Except GoError Unit) : Stage q (.done r)

variable {ns name args}

def unlessAbsent (e : ApiError) : Except GoError Unit :=
  if e = .notFound then .ok () else .error (plainError e)

theorem reading_run (q : Patch) : (patchPVCAnnotations ns name q).run =
    .call (.api (.getClaim ns name)) (fun r : Except ApiError ClaimObject => match r with
      | .ok current =>
        (unlessMissing (.patchClaim ns name (normalizeLegacy current.pvc.annotations q))).run
      | .error e => .done (unlessAbsent e)) := by
  refine congrArg (Prog.call _) (funext fun r => ?_)
  cases r with
  | ok current => rfl
  | error e => cases e <;> rfl

theorem writing_run (p : Patch) : (unlessMissing (.patchClaim ns name p)).run =
    .call (.api (.patchClaim ns name p)) (fun r : Except ApiError Unit => .done (match r with
      | .ok _ => .ok ()
      | .error e => unlessAbsent e)) := by
  refine congrArg (Prog.call _) (funext fun r => ?_)
  cases r with
  | ok x => rfl
  | error e => cases e <;> rfl

/-- The read hands over what the claim carries; the write is the last call. -/
theorem stage_step {q : Patch} {prog : Prog Duty DutyReply (Except GoError Unit)}
    (h : Stage ns name q prog) {d : Duty} {next : DutyReply d →
      Prog Duty DutyReply (Except GoError Unit)}
    (hp : prog = .call d next) {w w' : Realm C} {r : DutyReply d} (ho : DutyOutcome d w r w') :
    Stage ns name q (next r) ∧
    (w' = w ∧ (∀ p next', next r = .call (.api (.patchClaim ns name p)) next' →
        ∃ pvc, w.world.pvcs.lookup (ns,name) = some pvc ∧ p = normalizeLegacy pvc.annotations q) ∨
      (∃ x, next r = .done x) ∧ ∃ p, d = .api (.patchClaim ns name p) ∧
        (w' = w ∨ w' = (answer w (.patchClaim ns name p)).2)) := by
  cases h with
  | reading =>
    rw [reading_run] at hp
    cases hp
    cases ho with
    | api ho =>
      have hw : w' = w := query_readOnly rfl ho
      cases r with
      | ok current =>
        refine ⟨.writing _,.inl ⟨hw,fun p next' he => ?_⟩⟩
        obtain ⟨pvc,hl,rfl⟩ := found_map (Prod.mk.inj (query_ok (by simp) ho)).1
        obtain ⟨hq,_⟩ := Prog.call.inj (he.symm.trans (writing_run _))
        cases hq
        exact ⟨pvc,hl,rfl⟩
      | error e =>
        refine ⟨.done _,.inl ⟨hw,fun p next' hc => ?_⟩⟩
        cases hc
  | writing c =>
    rw [writing_run] at hp
    cases hp
    refine ⟨.done _,.inr ⟨⟨_,rfl⟩,_,rfl,?_⟩⟩
    cases ho with
    | api ho =>
      cases ho with
      | served => exact .inr rfl
      | failed => exact .inl rfl
      | lost => exact .inr rfl
  | done x => cases hp

/-- No request, and no pending write of one except by those that are asked to. -/
structure Harmless (ns name : String) (args : ι → Patch) (s : Patching ι C) : Prop where
  request : requestAt s.world ns name = ""
  stages : ∀ i, Stage ns name (args i) (s.procs i)
  pending : ∀ i p, ¬Sets (args i) → Pending ns name s i p → ¬Sets p

theorem stages_moves {a b : Patching ι C} (h : Moves shared a b)
    (ha : ∀ i, Stage ns name (args i) (a.procs i)) : ∀ i, Stage ns name (args i) (b.procs i) := by
  induction h with
  | refl => exact ha
  | @tail m _ _ hm ih =>
    cases hm with
    | outside => exact ih
    | @call i d next r w' hp ho =>
      intro j
      by_cases hj : j = i
      · subst hj
        have hproc : (m.advance j d next r w').procs j = next r := Function.update_self j _ _
        rw [hproc]
        exact (stage_step (ih j) hp ho).1
      · have hproc : (m.advance i d next r w').procs j = m.procs j := Function.update_of_ne hj _ _
        rw [hproc]
        exact ih j

theorem requestAt_patched {w : Realm C} {p : Patch} (hw : requestAt w ns name = "") (hp : ¬Sets p) :
    requestAt (answer w (.patchClaim ns name p)).2 ns name = "" := by
  show requestAt ⟨(annotateClaim w.world ns name p).2,w.side⟩ ns name = ""
  unfold annotateClaim
  cases hl : w.world.pvcs.lookup (ns,name) with
  | none => exact hw
  | some pvc =>
    rw [requestAt, hl] at hw
    rw [requestAt, AList.lookup_insert]
    exact request_unset hw hp

theorem harmless_step {a b : Patching ι C} (h : Harmless ns name args a) (hm : Move shared a b)
    (hu : Unset ns name args a b) : Harmless ns name args b := by
  cases hm with
  | outside =>
    refine ⟨?_,h.stages,h.pending⟩
    rcases hu.1 rfl with hr | hr
    · exact hr
    · exact hr.trans h.request
  | @call i d next r w' hp ho =>
    obtain ⟨hstage,hcases⟩ := stage_step (h.stages i) hp ho
    have hstages : ∀ j, Stage ns name (args j) ((a.advance i d next r w').procs j) :=
      stages_moves (.single (.call i hp ho)) h.stages
    have hother : ∀ {j p}, j ≠ i → Pending ns name (a.advance i d next r w') j p →
        Pending ns name a j p := by
      rintro j p hj ⟨next',hn⟩
      have hproc : (a.advance i d next r w').procs j = a.procs j := Function.update_of_ne hj _ _
      exact ⟨next',hproc ▸ hn⟩
    have hself : (a.advance i d next r w').procs i = next r := Function.update_self i _ _
    rcases hcases with ⟨rfl,hread⟩ | ⟨⟨x,hx⟩,p,rfl,hw⟩
    · refine ⟨h.request,hstages,fun j p hj hpend => ?_⟩
      by_cases hji : j = i
      · subst hji
        obtain ⟨next',hn⟩ := hpend
        obtain ⟨pvc,hl,rfl⟩ := hread p next' (hself ▸ hn)
        refine normalized_unset ?_ hj
        have hreq := h.request
        rw [requestAt, hl] at hreq
        exact hreq
      · exact h.pending j p hj (hother hji hpend)
    · have hargs : ¬Sets (args i) := hu.2 i ⟨_,r,a.world,w'⟩ p rfl rfl
      have hsets : ¬Sets p := h.pending i p hargs ⟨next,hp⟩
      refine ⟨?_,hstages,fun j p' hj hpend => ?_⟩
      · rcases hw with hw | hw
        · exact (congrArg (fun w => requestAt w ns name) hw).trans h.request
        · exact (congrArg (fun w => requestAt w ns name) hw).trans (requestAt_patched h.request hsets)
      · by_cases hji : j = i
        · subst hji
          obtain ⟨next',hn⟩ := hpend
          rw [hself, hx] at hn
          cases hn
        · exact h.pending j p' hj (hother hji hpend)

theorem harmless_trace {a b : Patching ι C} (ha : Harmless ns name args a)
    (h : Trace shared (Unset ns name args) a b) : Harmless ns name args b := by
  induction h with
  | refl => exact ha
  | tail _ hs ih => exact harmless_step ih hs.1 hs.2

/-- In every run, a request that is removed while no process is about to write one from
an earlier read stays removed until a writer sets one. -/
theorem removed_request_stays {w : Realm C} {s s' : Patching ι C} {removed : Realm C}
    (h : Moves shared (start ns name args w) s)
    (hidle : ∀ i p, ¬Sets (args i) → Pending ns name s i p → ¬Sets p)
    (hr : requestAt removed ns name = "")
    (h' : Trace shared (Unset ns name args) { s with world := removed } s') :
    requestAt s'.world ns name = "" := by
  have hstages := stages_moves h (fun i => Stage.reading)
  have hstart : Harmless ns name args { s with world := removed } := ⟨hr,hstages,hidle⟩
  exact (harmless_trace hstart h').request

theorem unset_call {a : Patching ι C} {i : ι} {d : Duty}
    {next : DutyReply d → Prog Duty DutyReply (Except GoError Unit)} {r : DutyReply d} {w' : Realm C}
    (hi : ¬Sets (args i)) : Unset ns name args a (a.advance i d next r w') := by
  refine ⟨fun he => absurd (congrArg List.length he) (by simp [System.advance]),?_⟩
  intro j e p he _
  obtain ⟨hj,_⟩ := List.cons.inj he
  rw [← (Prod.mk.inj hj).1]
  exact hi

end Processes

section Samples
open Evacuations (plainSurroundings)
open MigratorRules (sampleWorld sampleClaim)

def requestedRealm : Realm ℕ :=
  let world := sampleWorld "vm-9999-pvc-a" .delete
  ⟨{ world with pvcs := tableOf [(("ns","a"),
      { sampleClaim with annotations := tableOf [(legacyNode,"n2")] })] },plainSurroundings⟩

def removedRealm : Realm ℕ := ⟨sampleWorld "vm-9999-pvc-a" .delete,plainSurroundings⟩

def phasePatch : Unit → Patch := fun _ => [(annotationMigratePhase,some "Completed")]

theorem phasePatch_unset : ¬Sets (phasePatch ()) := by
  rintro ⟨v,_,h | h⟩
  · exact absurd (Prod.mk.inj (List.mem_singleton.mp h)).1 (by decide +kernel)
  · exact absurd (Prod.mk.inj (List.mem_singleton.mp h)).1 (by decide +kernel)

def answered (d : Duty) (w : Realm ℕ) : DutyReply d × Realm ℕ := (faulty []).answer 0 d w

def readFrom (w : Realm ℕ) : Patching Unit ℕ := play answered [()] (start "ns" "a" phasePatch w)

theorem answered_outcome (d : Duty) (w : Realm ℕ) :
    DutyOutcome d w (answered d w).1 (answered d w).2 := by
  have hlawful : Lawful (controller (fun _ _ _ => False))
    (faulty [] : Schedule Duty DutyReply (Realm ℕ)) :=
    faulty_lawful []
  exact hlawful.answer 0 d w

theorem readFrom_moves (w : Realm ℕ) : Moves shared (start "ns" "a" phasePatch w) (readFrom w) :=
  play_moves answered answered_outcome _ _

/-- The write of the read process. -/
theorem written_trace (s : Patching Unit ℕ) (h : waiting (s.procs ())) :
    Trace shared (Unset "ns" "a" phasePatch) s (play answered [()] s) := by
  obtain ⟨d,next,hp⟩ := waiting_call h
  rw [play_single answered hp]
  exact .single ⟨.call () hp (answered_outcome d s.world),unset_call phasePatch_unset⟩

theorem removed_request_stays_read :
    requestAt (play answered [()] { readFrom removedRealm with world := removedRealm }).world
      "ns" "a" = "" := by
  refine removed_request_stays (readFrom_moves removedRealm) ?_ (by decide +kernel)
    (written_trace _ (by decide +kernel))
  rintro i p hi ⟨next,hn⟩
  have hread : (readFrom removedRealm).procs () =
      (unlessMissing (.patchClaim "ns" "a" (normalizeLegacy sampleClaim.annotations
        (phasePatch ())))).run :=
    rfl
  obtain ⟨hq,_⟩ := Prog.call.inj (hn.symm.trans (hread.trans (writing_run _)))
  cases hq
  exact normalized_unset (by decide +kernel) hi

/-- The claim is read, its request is removed, and the patch writes it back. -/
theorem removed_request_written_back :
    Moves shared (start "ns" "a" phasePatch requestedRealm) (readFrom requestedRealm) ∧
    requestAt removedRealm "ns" "a" = "" ∧
    Trace shared (Unset "ns" "a" phasePatch) { readFrom requestedRealm with world := removedRealm }
      (play answered [()] { readFrom requestedRealm with world := removedRealm }) ∧
    requestAt (play answered [()] { readFrom requestedRealm with world := removedRealm }).world
      "ns" "a" = "n2" :=
  ⟨readFrom_moves requestedRealm,by decide +kernel,written_trace _ (by decide +kernel),
    by decide +kernel⟩

end Samples

end ProxmoxCSI.NormalizedRequests
