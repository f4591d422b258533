import ProxmoxCSI.CallErrors

/-!
# Scheduled runs

A schedule fixes the answer to every call and what the others do before it,
by the number of calls made so far. Its runs are runs of the service that
permits its answers, so one scheduled run exhibits one possible behaviour.
-/

set_option autoImplicit false

namespace ProxmoxCSI.CallSchedule
open CallProgram CallProgram.Prog CallSafety CallErrors

variable {Call : Type} {Reply : Call → Type} {α β ε W : Type}

structure Schedule (Call : Type) (Reply : Call → Type) (W : Type) where
  others : ℕ → W → W
  answer : ℕ → (c : Call) → W → Reply c × W

structure Lawful (S : Service Call Reply W) (σ : Schedule Call Reply W) : Prop where
  others : ∀ h w, Interference S h w (σ.others h.length w)
  answer : ∀ n c w, S.outcome c w (σ.answer n c w).1 (σ.answer n c w).2

def event (σ : Schedule Call Reply W) (h : History Call Reply W) (w : W) (c : Call) :
    Event Call Reply W :=
  let w₁ := σ.others h.length w
  let x := σ.answer h.length c w₁
  ⟨c,x.1,w₁,x.2⟩

def after (σ : Schedule Call Reply W) : ℕ → Config Call Reply W α → Config Call Reply W α
  | 0, d => d
  | _+1, ⟨h,w,.done a⟩ => ⟨h,w,.done a⟩
  | k+1, ⟨h,w,.call c next⟩ =>
      let e := event σ h w c
      after σ k ⟨e::h,e.after,next (σ.answer h.length c (σ.others h.length w)).1⟩

structure Finished (Call : Type) (Reply : Call → Type) (W α : Type) where
  hist : History Call Reply W
  world : W
  value : α

def finish (σ : Schedule Call Reply W) :
    Prog Call Reply α → History Call Reply W → W → Finished Call Reply W α
  | .done a, h, w => ⟨h,w,a⟩
  | .call c next, h, w =>
      let e := event σ h w c
      finish σ (next (σ.answer h.length c (σ.others h.length w)).1) (e::h) e.after

variable {S : Service Call Reply W} {σ : Schedule Call Reply W}

theorem event_step (hσ : Lawful S σ) (h : History Call Reply W) (w : W) (c : Call)
    (next : Reply c → Prog Call Reply α) :
    Runs S ⟨h,w,.call c next⟩ ⟨event σ h w c::h,(event σ h w c).after,
      next (σ.answer h.length c (σ.others h.length w)).1⟩ :=
  (interference_runs _ (hσ.others _ _)).tail (.call (hσ.answer _ _ _))

theorem after_runs (hσ : Lawful S σ) (k : ℕ) (d : Config Call Reply W α) :
    Runs S d (after σ k d) := by
  induction k generalizing d with
  | zero => exact .refl
  | succ k ih =>
    obtain ⟨h,w,p⟩ := d
    cases p with
    | done a => exact .refl
    | call c next => exact (event_step hσ h w c next).trans (ih _)

theorem finish_runs (hσ : Lawful S σ) (p : Prog Call Reply α) (h : History Call Reply W) (w : W) :
    Runs S ⟨h,w,p⟩ ⟨(finish σ p h w).hist,(finish σ p h w).world,.done (finish σ p h w).value⟩ := by
  induction p generalizing h w with
  | done a => exact .refl
  | call c next ih => exact (event_step hσ h w c next).trans (ih _ _ _)

theorem finish_bind (σ : Schedule Call Reply W) (p : Prog Call Reply α)
    (f : α → Prog Call Reply β) (h : History Call Reply W) (w : W) :
    finish σ (p >>= f) h w =
      finish σ (f (finish σ p h w).value) (finish σ p h w).hist (finish σ p h w).world := by
  induction p generalizing h w with
  | done a => rfl
  | call c next ih => exact ih _ _ _

theorem finish_returns {P : α → Prop} {p : Prog Call Reply α} (hp : p.Returns P)
    (h : History Call Reply W) (w : W) : P (finish σ p h w).value := by
  induction p generalizing h w with
  | done a => exact hp
  | call c next ih => exact ih _ (hp _) _ _

theorem finish_hist (σ : Schedule Call Reply W) (p : Prog Call Reply α) (h : History Call Reply W)
    (w : W) : h <:+ (finish σ p h w).hist := by
  induction p generalizing h w with
  | done a => exact List.suffix_rfl
  | call c next ih => exact (List.suffix_cons _ h).trans (ih _ _ _)

/-- What holds of every answer of the schedule holds of every event of its runs. -/
theorem finish_events {P : Event Call Reply W → Prop}
    (hP : ∀ n c w, P ⟨c,(σ.answer n c w).1,w,(σ.answer n c w).2⟩) (p : Prog Call Reply α)
    {h : History Call Reply W} {w : W} (hh : ∀ e ∈ h, P e) : ∀ e ∈ (finish σ p h w).hist, P e := by
  induction p generalizing h w with
  | done a => exact hh
  | call c next ih =>
    refine ih _ ?_
    intro e he
    rcases List.mem_cons.mp he with rfl | he
    · exact hP _ _ _
    · exact hh e he

def mapEvent (f : W → W) (e : Event Call Reply W) : Event Call Reply W :=
  ⟨e.call,e.reply,f e.before,f e.after⟩

/-- A map of the worlds that the schedule does not notice maps its runs. -/
theorem finish_map {f : W → W} {ok : Call → Prop} (ho : ∀ n w, σ.others n (f w) = f (σ.others n w))
    (ha : ∀ n c w, ok c → σ.answer n c (f w) = ((σ.answer n c w).1,f (σ.answer n c w).2))
    (p : Prog Call Reply α) (h : History Call Reply W) (w : W)
    (hok : ∀ e ∈ (finish σ p h w).hist, ok e.call) :
    finish σ p (h.map (mapEvent f)) (f w) =
      ⟨(finish σ p h w).hist.map (mapEvent f),f (finish σ p h w).world,(finish σ p h w).value⟩ := by
  induction p generalizing h w with
  | done a => rfl
  | call c next ih =>
    have hs : event σ h w c::h <:+ (finish σ (.call c next) h w).hist := finish_hist σ _ _ _
    have hc : ok c := hok (event σ h w c) (hs.subset List.mem_cons_self)
    have hans := ha h.length c (σ.others h.length w) hc
    have he : event σ (h.map (mapEvent f)) (f w) c = mapEvent f (event σ h w c) := by
      simp only [event, mapEvent, List.length_map, ho, hans]
    have hn : (σ.answer (h.map (mapEvent f)).length c
        (σ.others (h.map (mapEvent f)).length (f w))).1 =
        (σ.answer h.length c (σ.others h.length w)).1 := by
      rw [List.length_map, ho, hans]
    show finish σ (next (σ.answer (h.map (mapEvent f)).length c
      (σ.others (h.map (mapEvent f)).length (f w))).1)
      (event σ (h.map (mapEvent f)) (f w) c::h.map (mapEvent f))
      (event σ (h.map (mapEvent f)) (f w) c).after = _
    rw [hn, he]
    exact ih _ (event σ h w c::h) (event σ h w c).after hok

def passes (P : α → W → Bool) (f : Finished Call Reply W (Except ε α)) : Bool :=
  match f.value with
  | .ok a => P a f.world
  | .error _ => false

theorem passes_runs (hσ : Lawful S σ) {P : α → W → Bool} {p : Prog Call Reply (Except ε α)}
    {h : History Call Reply W} {w : W} (hp : passes P (finish σ p h w)) :
    ∃ h' w' a, Runs S ⟨h,w,p⟩ ⟨h',w',.done (.ok a)⟩ ∧ P a w' := by
  have hr := finish_runs hσ p h w
  unfold passes at hp
  split at hp
  · rename_i a ha
    rw [ha] at hr
    exact ⟨_,_,a,hr,hp⟩
  · cases hp

section Evaluation

def Evaluates (σ : Schedule Call Reply W) (p : Prog Call Reply α) (w : W) (a : α) (w' : W) : Prop :=
  ∀ h, ∃ h', finish σ p h w = ⟨h',w',a⟩

variable {w w₁ w₂ : W}

theorem evaluates_done (a : α) : Evaluates σ (.done a) w a w := fun h => ⟨h,rfl⟩

variable {p : Prog Call Reply α} {a : α}

theorem evaluates_call {c : Call} {next : Reply c → Prog Call Reply α} {r : Reply c}
    (hc : ∀ n, σ.answer n c (σ.others n w) = (r,w₁)) (hn : Evaluates σ (next r) w₁ a w₂) :
    Evaluates σ (.call c next) w a w₂ := by
  intro h
  obtain ⟨h',he⟩ := hn (event σ h w c::h)
  refine ⟨h',?_⟩
  show finish σ (next (σ.answer h.length c (σ.others h.length w)).1) (event σ h w c::h)
    (σ.answer h.length c (σ.others h.length w)).2 = _
  rw [hc]
  exact he

theorem evaluates_answer {c : Call} {next : Reply c → Prog Call Reply α} {r : Reply c}
    (hc : ∀ n, σ.answer n c (σ.others n w) = (r,w₁)) (ha : next r = .done a) :
    Evaluates σ (.call c next) w a w₁ :=
  evaluates_call hc (ha ▸ evaluates_done a)

theorem evaluates_bind {f : α → Prog Call Reply β} {b : β} (hp : Evaluates σ p w a w₁)
    (hf : Evaluates σ (f a) w₁ b w₂) : Evaluates σ (p >>= f) w b w₂ := by
  intro h
  obtain ⟨h₁,e₁⟩ := hp h
  obtain ⟨h₂,e₂⟩ := hf h₁
  refine ⟨h₂,?_⟩
  rw [finish_bind, e₁]
  exact e₂

theorem evaluates_try_bind {x : Fallible Call Reply ε α} {f : α → Fallible Call Reply ε β}
    {b : Except ε β} (hx : Evaluates σ x.run w (.ok a) w₁) (hf : Evaluates σ (f a).run w₁ b w₂) :
    Evaluates σ (x >>= f).run w b w₂ := by
  rw [run_bind]
  exact evaluates_bind hx hf

theorem evaluates_try_error {x : Fallible Call Reply ε α} {f : α → Fallible Call Reply ε β} {e : ε}
    (hx : Evaluates σ x.run w (.error e) w₁) : Evaluates σ (x >>= f).run w (.error e) w₁ := by
  rw [run_bind]
  exact evaluates_bind hx (evaluates_done _)

theorem evaluates_world (hp : Evaluates σ p w a w₁) (h : History Call Reply W) :
    (finish σ p h w).world = w₁ := by
  obtain ⟨h',he⟩ := hp h
  rw [he]

theorem evaluates_require {c : Prop} [Decidable c] {e : ε} (hc : c) :
    Evaluates σ (require c e : Fallible Call Reply ε Unit).run w (.ok ()) w := by
  have hr : (require c e : Fallible Call Reply ε Unit).run = .done (.ok ()) := by
    show Prog.done (if c then Except.ok () else Except.error e) = _
    rw [if_pos hc]
  rw [hr]
  exact evaluates_done _

theorem evaluates_require_error {c : Prop} [Decidable c] {e : ε} (hc : ¬c) :
    Evaluates σ (require c e : Fallible Call Reply ε Unit).run w (.error e) w := by
  have hr : (require c e : Fallible Call Reply ε Unit).run = .done (.error e) := by
    show Prog.done (if c then Except.ok () else Except.error e) = _
    rw [if_neg hc]
  rw [hr]
  exact evaluates_done _

theorem evaluates_value (hp : Evaluates σ p w a w₁) (h : History Call Reply W) :
    (finish σ p h w).value = a := by
  obtain ⟨h',he⟩ := hp h
  rw [he]

theorem evaluates_runs (hσ : Lawful S σ) (hp : Evaluates σ p w a w₁) (h : History Call Reply W) :
    ∃ h', Runs S ⟨h,w,p⟩ ⟨h',w₁,.done a⟩ := by
  obtain ⟨h',he⟩ := hp h
  have hr := finish_runs hσ p h w
  rw [he] at hr
  exact ⟨h',hr⟩

end Evaluation

end ProxmoxCSI.CallSchedule
