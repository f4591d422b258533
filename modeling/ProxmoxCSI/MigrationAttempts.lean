import ProxmoxCSI.CallTracks
import ProxmoxCSI.NormalizedRequests

/-!
# Before the controller migrates a claim

The worker of the claims does nothing but read, report and annotate its claim
until it has read a request that is due, has seen that no pod uses the claim or
that the request is forced, and has counted the attempt. Each call is judged by
the calls before it, whatever others do in between.
-/

set_option autoImplicit false

namespace ProxmoxCSI.MigrationAttempts
open CallProgram CallProgram.Prog CallSafety CallErrors CallTracks ClusterState MigratorCalls
open MigrateProgram MigrationAnnotations AnnotationPatches ControllerCalls ControllerRules
open MigrationController

abbrev Deed (C : Type) := Event Duty DutyReply (Realm C)

variable {C α : Type} {fit : Deed C → Prop} {c : Controller} {ns name : String}
  {pvc : PersistentVolumeClaim} {es h : List (Deed C)} {e : Deed C}

section Licence

def annotates (ns name : String) : Duty → Bool
  | .api (.patchClaim ns' name' _) => decide (ns' = ns ∧ name' = name)
  | .api q => Query.readOnly q
  | _ => true

def Due (c : Controller) (ns name : String) (pvc : PersistentVolumeClaim) (e : Deed C) : Prop :=
  (∃ owners w w', e = ⟨.api (.getClaim ns name),.ok ⟨pvc,owners⟩,w,w'⟩) ∧
  getAnnotation pvc.annotations annotationMigrateNode ≠ "" ∧
  getAnnotation pvc.annotations annotationMigratePhase ≠ phaseText .failed ∧
  attemptsOf pvc.annotations < c.opts.maxAttempts

def Free (ns name : String) (pvc : PersistentVolumeClaim) (e : Deed C) : Prop := ∃ pods w w',
  e = ⟨.api (.migrator (.listPods ns)),.ok pods,w,w'⟩ ∧ (podsUsing name pods ≠ [] →
    getAnnotation pvc.annotations annotationMigrateForce = "true")

def Counts (ns name : String) (n : ℤ) (e : Deed C) : Prop := ∃ w w',
  e = ⟨.api (.getClaim ns name),.error .notFound,w,w'⟩ ∨
  ∃ p, e = ⟨.api (.patchClaim ns name p),.error .notFound,w,w'⟩ ∨
    e = ⟨.api (.patchClaim ns name p),.ok (),w,w'⟩ ∧
      ∀ a, getAnnotation (applyPatch a p) annotationMigrateAttempts = toString n

def Licensed (c : Controller) (ns name : String) (h : List (Deed C)) : Prop :=
  ∃ pvc, (∃ e ∈ h, Due c ns name pvc e) ∧ (∃ e ∈ h, Free ns name pvc e) ∧
    ∃ e ∈ h, Counts ns name (attemptsOf pvc.annotations+1) e

def Permits (c : Controller) (ns name : String) (h : List (Deed C)) (d : Duty) : Prop :=
  annotates ns name d ∨ Licensed c ns name h

end Licence

section Steps

abbrev Ends (c : Controller) (ns name : String) (o : Option Request) (h : List (Deed C)) : Prop :=
  o.isSome → Licensed c ns name h

theorem annotates_kept {x : R α} (hx : x.run.Uses (annotates ns name ·)) (he : es ⊆ h) :
    Tracks fit (Permits c ns name) (fun _ h => es ⊆ h) x h :=
  tracks_uses (fun _ _ hd _ => .inl hd) (fun _ _ _ => List.subset_cons_of_subset _) hx he

theorem patch_annotates (p : Patch) :
    (patchPVCAnnotations ns name p).run.Uses (annotates ns name ·) :=
  patchPVCAnnotations_uses rfl (fun _ => decide_eq_true ⟨rfl,rfl⟩)

theorem podUsage_seen (he : es ⊆ h) :
    Tracks fit (Permits c ns name) (fun used h => ∃ pods w w',
      ⟨.api (.migrator (.listPods ns)),.ok pods,w,w'⟩::es ⊆ h ∧
        used.1 = (podsUsing name pods).map Pod.name)
      (borrowed ns name (pvcPodUsage ns name)) h := by
  refine ⟨.inl rfl,?_⟩
  intro r w w' _
  cases r with
  | ok pods => exact ⟨pods,w,w',List.cons_subset_cons _ he,rfl⟩
  | error f => trivial

theorem giveUp_ends (he : es ⊆ h) (reason message : String) (text : List String) :
    Tracks fit (Permits c ns name) (Ends c ns name)
      (do record (.claim ns name) .warning reason text
          failPVC ns name message
          pure none) h := by
  refine tracks_bind (annotates_kept (uses_record rfl) he) ?_
  intro _ h he
  exact tracks_bind (annotates_kept (patch_annotates _) he) (fun _ _ _ => tracks_pure nofun)

theorem tracks_lookUp {ok : List (Deed C) → Duty → Prop} {q : Query} {Q : α → List (Deed C) → Prop}
    {f : Option (Found q) → R α} (hq : ok h (.api q))
    (hsome : ∀ x w w', Tracks fit ok Q (f (some x)) (⟨.api q,.ok x,w,w'⟩::h))
    (hnone : ∀ w w', Tracks fit ok Q (f none) (⟨.api q,.error .notFound,w,w'⟩::h)) :
    Tracks fit ok Q (lookUp q >>= f) h := by
  refine tracks_bind (Q := fun o => Tracks fit ok Q (f o)) (tracks_perform hq ?_) (fun _ _ h => h)
  intro r w w' _
  cases r with
  | ok x => exact tracks_pure (hsome x w w')
  | error e =>
    dsimp only
    split
    · rename_i he
      subst he
      exact tracks_pure (hnone w w')
    · exact tracks_throw

theorem attempt_counts (n : ℤ) {started : Patch}
    (hs : started = [] ∨ ∃ t, started = [(annotationMigrateStartedAt,some t)]) (a b : Annotations) :
    getAnnotation (applyPatch b (normalizeLegacy a
      ([(annotationMigratePhase,some (phaseText .pending)),
        (annotationMigrateAttempts,some (toString n)),(annotationMigrateMessage,none)] ++ started)))
      annotationMigrateAttempts = toString n := by
  have hk : Protocol annotationMigrateAttempts (driverName ++ "/migrate-attempts") := by
    decide +kernel
  refine annotation_set hk ?_ rfl (TextScan.numeral_ne n) a b
  rcases hs with rfl | ⟨t,rfl⟩ <;>
    simp only [List.map_append, List.map_cons, List.map_nil] <;> decide +kernel

theorem patch_counts {p : Patch} {n : ℤ} (he : es ⊆ h)
    (hp : ∀ a b, getAnnotation (applyPatch b (normalizeLegacy a p)) annotationMigrateAttempts =
      toString n) :
    Tracks fit (Permits c ns name) (fun _ h => es ⊆ h ∧ ∃ e ∈ h, Counts ns name n e)
      (patchPVCAnnotations ns name p) h := by
  refine tracks_lookUp (.inl rfl) ?_ ?_
  · intro x w w'
    refine tracks_perform (.inl (decide_eq_true ⟨rfl,rfl⟩)) ?_
    intro r v v' _
    have later (a b : Deed C) : es ⊆ a::b::h :=
      List.subset_cons_of_subset _ (List.subset_cons_of_subset _ he)
    cases r with
    | ok u => exact tracks_pure ⟨later _ _,_,List.mem_cons_self,v,v',.inr ⟨_,.inr ⟨rfl,hp _⟩⟩⟩
    | error f =>
      dsimp only
      split
      · rename_i hf
        subst hf
        exact tracks_pure ⟨later _ _,_,List.mem_cons_self,v,v',.inr ⟨_,.inl rfl⟩⟩
      · exact tracks_throw
  · intro w w'
    exact tracks_pure ⟨List.subset_cons_of_subset _ he,_,List.mem_cons_self,w,w',.inl rfl⟩

theorem startAttempt_counts (target : String) (he : es ⊆ h) :
    Tracks fit (Permits c ns name)
      (fun _ h => es ⊆ h ∧ ∃ e ∈ h, Counts ns name (attemptsOf pvc.annotations+1) e)
      (startAttempt ns name pvc target) h := by
  refine tracks_bind (Q := fun started h => es ⊆ h ∧
    (started = [] ∨ ∃ t, started = [(annotationMigrateStartedAt,some t)])) ?_ ?_
  · unfold startedAt
    split
    · refine tracks_perform (.inl rfl) ?_
      intro now w w' _
      exact tracks_pure ⟨List.subset_cons_of_subset _ he,.inr ⟨_,rfl⟩⟩
    · exact tracks_pure ⟨he,.inl rfl⟩
  · rintro started h ⟨he,hs⟩
    refine tracks_bind (patch_counts he (attempt_counts _ hs)) ?_
    rintro _ h ⟨he,f,hf,hn⟩
    exact ⟨.inl rfl,fun _ _ _ _ =>
      ⟨List.subset_cons_of_subset _ he,f,List.mem_cons_of_mem _ hf,hn⟩⟩

theorem takeUp_ends (hc : ∃ owners w w', e = ⟨.api (.getClaim ns name),.ok ⟨pvc,owners⟩,w,w'⟩)
    (he : [e] ⊆ h) : Tracks fit (Permits c ns name) (Ends c ns name) (takeUp c ns name pvc) h := by
  unfold takeUp
  dsimp only
  split
  · exact tracks_pure nofun
  · rename_i hn
    split
    · exact tracks_pure nofun
    · rename_i hf
      refine tracks_bind (annotates_kept ?_ he) ?_
      · unfold alreadyThere
        split
        · trivial
        · exact uses_try_bind (uses_inquire rfl) (fun _ => trivial)
      intro there h he
      split
      · exact tracks_bind (annotates_kept (patch_annotates _) he) (fun _ _ _ => tracks_pure nofun)
      · refine tracks_bind (podUsage_seen he) ?_
        rintro used h ⟨pods,w,w',he,hu⟩
        split
        · exact giveUp_ends he _ _ _
        · rename_i hfree
          split
          · exact giveUp_ends he _ _ _
          · rename_i hm
            refine tracks_bind (startAttempt_counts _ he) ?_
            rintro _ h ⟨he,hcount⟩
            have hforce (hp : podsUsing name pods ≠ []) :
                getAnnotation pvc.annotations annotationMigrateForce = "true" := by
              by_contra hnot
              exact hfree ⟨by rw [hu]; exact mt List.map_eq_nil_iff.mp hp,decide_eq_false hnot⟩
            obtain ⟨hp,he⟩ := List.cons_subset.mp he
            exact tracks_pure (fun _ => ⟨pvc,⟨e,he List.mem_cons_self,hc,hn,hf,not_le.mp hm⟩,
              ⟨_,hp,pods,w,w',rfl,hforce⟩,hcount⟩)

theorem reconcilePVC_permitted :
    Tracks fit (Permits c ns name) (fun _ _ => True) (reconcilePVC c ns name) h := by
  refine tracks_bind (Q := Ends c ns name) ?_ ?_
  · refine tracks_lookUp (.inl rfl) ?_ (fun _ _ => tracks_pure nofun)
    intro claim w w'
    exact takeUp_ends ⟨claim.owners,w,w',rfl⟩ (List.cons_subset_cons _ (List.nil_subset _))
  · intro o h ho
    cases o with
    | none => exact tracks_pure trivial
    | some req =>
      refine tracks_mono (tracks_uses (P := Licensed c ns name) (fun _ _ _ hl => .inr hl) ?_
        (uses_any _) (ho rfl)) (fun _ _ _ => trivial)
      rintro _ h _ ⟨pvc,⟨e,he,hd⟩,⟨f,hf,hp⟩,g,hg,hn⟩
      exact ⟨pvc,⟨e,List.mem_cons_of_mem _ he,hd⟩,⟨f,List.mem_cons_of_mem _ hf,hp⟩,
        g,List.mem_cons_of_mem _ hg,hn⟩

end Steps

/-- In every run of the worker, whatever the others do and whichever calls fail,
a call that does more than read, report and annotate the claim comes after the
claim was read with a request that is due, after no pod was seen to use the claim
unless the request is forced, and after the attempt was counted. -/
theorem attempt_counted_first {env : History Duty DutyReply (Realm C) → Realm C → Realm C → Prop}
    (c : Controller) (ns name : String) {w : Realm C}
    {d : Config Duty DutyReply (Realm C) (Except GoError Unit)}
    (hr : Runs (controller env) ⟨[],w,(reconcilePVC c ns name).run⟩ d) {l m : List (Deed C)}
    {e : Deed C} (hd : d.hist = l ++ e::m) (he : ¬annotates ns name e.call) :
    Licensed c ns name m :=
  (runs_before hr rfl (follows_mono reconcilePVC_permitted (fun _ _ _ => trivial)) hd).resolve_left he

section Served
open CallSchedule Evacuations NormalizedRequests

/-- The fourteenth call of a served run marks the volume. -/
theorem attempt_counted_first_served : ∃ d e m,
    Runs alone ⟨[],requestedRealm,(reconcilePVC sampleController "ns" "a").run⟩ d ∧
    d.hist = e::m ∧ annotates "ns" "a" e.call = false ∧ Licensed sampleController "ns" "a" m := by
  have hl : Lawful alone (faulty (C := ℕ) []) := faulty_lawful []
  have hr := after_runs hl 14 ⟨[],requestedRealm,(reconcilePVC sampleController "ns" "a").run⟩
  have hc : ((after (faulty []) 14 ⟨[],requestedRealm,(reconcilePVC sampleController "ns" "a").run⟩
      ).hist.head?.map (annotates "ns" "a" ·.call)) = some false := by decide +kernel
  obtain ⟨e,he,ha⟩ := Option.map_eq_some_iff.mp hc
  obtain ⟨m,hm⟩ := List.head?_eq_some_iff.mp he
  exact ⟨_,e,m,hr,hm,ha,attempt_counted_first _ _ _ hr (l := []) hm (by simp [ha])⟩

end Served

end ProxmoxCSI.MigrationAttempts
