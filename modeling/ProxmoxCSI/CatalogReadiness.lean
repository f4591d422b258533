import ProxmoxCSI.CatalogSync

/-!
# Readiness of the published catalog

The check knows when the last pass ended and what its errors were. A pass that
synced no region counts like any other.
-/

set_option autoImplicit false

namespace ProxmoxCSI.CatalogReadiness
open CallProgram CallProgram.Prog CallSchedule CatalogNames CatalogSync

structure Health where
  lastSync : ℤ
  lastErr : List SyncError
  syncedOnce : Bool

inductive CheckError where
  | notSynced
  | stale (age : ℤ) (last : List SyncError)

/-- Five minutes, in nanoseconds. -/
def defaultStaleAfter : ℤ := 300000000000

def staleLimit (staleAfter : ℤ) : ℤ := if staleAfter ≤ 0 then defaultStaleAfter else staleAfter

def check (staleAfter : ℤ) (h : Health) (now : ℤ) : Except CheckError Unit :=
  if h.syncedOnce = false then .error .notSynced
  else if staleLimit staleAfter < now-h.lastSync then .error (.stale (now-h.lastSync) h.lastErr)
  else .ok ()

/-- A pass: when it ended, and the errors of every region. -/
structure Pass where
  time : ℤ
  results : List (List SyncError)

def recorded (p : Pass) : Health := ⟨p.time,p.results.flatten,true⟩

def healthAfter (passes : List Pass) : Health :=
  passes.foldl (fun _ p => recorded p) ⟨0,[],false⟩

section Runs

variable (R : Renderer) (regions : List Bytes)

/-- A run of the publisher: where it starts, what becomes of its calls, and when it ends. -/
structure SyncRun where
  site : Site
  fate : ℕ → Fate
  time : ℤ

def syncAndRecord (now : ℤ) : Sync Health := do
  let results ← sync R regions
  .done (recorded ⟨now,results⟩)

def passOf (s : SyncRun) : Pass :=
  ⟨s.time,(finish (struck s.fate) (sync R regions) [] s.site).value⟩

def healthOf (runs : List SyncRun) : Health :=
  runs.foldl (fun _ s => (finish (struck s.fate) (syncAndRecord R regions s.time) [] s.site).value)
    ⟨0,[],false⟩

theorem healthOf_eq (runs : List SyncRun) :
    healthOf R regions runs = healthAfter (runs.map (passOf R regions)) := by
  have hrun : ∀ s : SyncRun, (finish (struck s.fate) (syncAndRecord R regions s.time) []
    s.site).value =
      recorded (passOf R regions s) := by
    intro s
    rw [syncAndRecord, finish_bind]
    rfl
  simp only [healthOf, healthAfter, List.foldl_map, hrun]

end Runs

def Failed (p : Pass) : Prop := ∀ errs ∈ p.results, errs ≠ []

def Recent (staleAfter now : ℤ) (p : Pass) : Prop := now-staleLimit staleAfter ≤ p.time

/-- The passes lie in order before the check. -/
structure Ordered (passes : List Pass) (now : ℤ) : Prop where
  times : (passes.map Pass.time).Pairwise (· ≤ ·)
  past : ∀ p ∈ passes, p.time ≤ now

def Unready (staleAfter : ℤ) (passes : List Pass) (now : ℤ) : Prop :=
  check staleAfter (healthAfter passes) now ≠ .ok ()

theorem unready_iff {passes : List Pass} {now : ℤ} (staleAfter : ℤ) (ho : Ordered passes now) :
    Unready staleAfter passes now ↔ ∀ p ∈ passes, ¬Recent staleAfter now p := by
  rcases List.eq_nil_or_concat passes with rfl | ⟨init,last,rfl⟩
  · simp [Unready, healthAfter, check]
  · rw [List.concat_eq_append] at ho ⊢
    have hh : healthAfter (init ++ [last]) = recorded last := by simp [healthAfter]
    have hun : Unready staleAfter (init ++ [last]) now ↔ staleLimit staleAfter < now-last.time := by
      unfold Unready
      rw [hh]
      simp only [check, recorded, Bool.true_eq_false, if_false]
      by_cases h : staleLimit staleAfter < now-last.time
      · simp [h]
      · simp [h]
    have hle : ∀ p ∈ init ++ [last], p.time ≤ last.time := by
      have ht := ho.times
      rw [List.map_append, List.pairwise_append] at ht
      intro p hp
      rcases List.mem_append.mp hp with hp | hp
      · exact ht.2.2 _ (List.mem_map.mpr ⟨p,hp,rfl⟩) _ (by simp)
      · exact (List.mem_singleton.mp hp) ▸ Int.le_refl _
    rw [hun]
    constructor
    · intro h p hp hr
      have := hle p hp
      unfold Recent at hr
      omega
    · intro h
      have := h last (by simp)
      unfold Recent at this
      omega

/-- The check reports what it should exactly when a recent pass is a sign that some recent pass
synced a region; the state it looks at is what the runs of the publisher have recorded. -/
theorem readiness_iff (staleAfter : ℤ) (passes : List Pass) (now : ℤ) (ho : Ordered passes now) :
    ((((∀ p ∈ passes, Recent staleAfter now p → Failed p) ∨ ∀ p ∈ passes, Failed p) →
        Unready staleAfter passes now) ↔
      ((∃ p ∈ passes, Recent staleAfter now p) → ∃ p ∈ passes, Recent staleAfter now p ∧ ¬Failed p)) ∧
    ∀ R regions runs, runs.map (passOf R regions) = passes →
      (check staleAfter (healthOf R regions runs) now ≠ .ok () ↔ Unready staleAfter passes now) := by
  refine ⟨?_,?_⟩
  · rw [unready_iff staleAfter ho]
    constructor
    · rintro h ⟨p,hp,hr⟩
      by_contra hno
      refine h (.inl fun q hq hqr => ?_) p hp hr
      by_contra hf
      exact hno ⟨q,hq,hqr,hf⟩
    · rintro h hf p hp hr
      obtain ⟨q,hq,hqr,hqf⟩ := h ⟨p,hp,hr⟩
      rcases hf with hf | hf
      · exact hqf (hf q hq hqr)
      · exact hqf (hf q hq)
  · rintro R regions runs rfl
    rw [healthOf_eq]
    rfl

theorem readiness_idle : Unready 60 [⟨0,[[]]⟩] 100 := by
  have hold : ∀ p ∈ [(⟨0,[[]]⟩ : Pass)], ¬Recent 60 100 p := by
    intro p hp
    rw [List.mem_singleton.mp hp]
    exact fun h : (100 : ℤ)-60 ≤ 0 => absurd h (by decide)
  refine (readiness_iff 60 [⟨0,[[]]⟩] 100 ⟨by simp,by simp⟩).1.mpr ?_
    (.inl fun p hp hr => absurd hr (hold p hp))
  rintro ⟨p,hp,hr⟩
  exact absurd hr (hold p hp)

/-- A first pass that could not read its only region makes the operator ready. -/
theorem failed_pass_ready :
    (finish served (sync asciiRenderer [ascii "syd"]) []
        (sampleSite [] (published (sampleStorage "bne" "" "rbd")))).value =
          [[.storages "no cluster"]] ∧
      Failed ⟨10,[[.storages "no cluster"]]⟩ ∧
      ¬Unready 60 [⟨10,[[.storages "no cluster"]]⟩] 20 := by
  refine ⟨rfl,?_,?_⟩
  · intro errs he
    rw [List.mem_singleton.mp he]
    exact List.cons_ne_nil _ _
  · exact fun h => h rfl

end ProxmoxCSI.CatalogReadiness
