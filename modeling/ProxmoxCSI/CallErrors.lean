import ProxmoxCSI.CallSafety

/-!
# Programs that may fail

The first error ends a program; a cleanup registered earlier still runs on the
way out. A successful run of a sequence is a successful run of its parts.
-/

set_option autoImplicit false

namespace ProxmoxCSI.CallErrors
open CallProgram CallProgram.Prog CallSafety

variable {Call : Type} {Reply : Call → Type} {α β ε W : Type}

abbrev Fallible (Call : Type) (Reply : Call → Type) (ε : Type) := ExceptT ε (Prog Call Reply)

def require (c : Prop) [Decidable c] (e : ε) : Fallible Call Reply ε Unit :=
  ExceptT.mk (.done (if c then .ok () else .error e))

def perform (p : Prog Call Reply α) : Fallible Call Reply ε α :=
  ExceptT.mk (p >>= fun a => .done (.ok a))

def deferred (cleanup : Prog Call Reply Unit) (body : Fallible Call Reply ε α) :
    Fallible Call Reply ε α :=
  ExceptT.mk (body.run >>= fun r => cleanup >>= fun _ => .done r)

def onError (cleanup : Prog Call Reply Unit) (body : Fallible Call Reply ε α) :
    Fallible Call Reply ε α :=
  ExceptT.mk (body.run >>= fun r => match r with
    | .ok a => .done (.ok a)
    | .error e => cleanup >>= fun _ => .done (.error e))

def relabel (f : ε → ε) (x : Fallible Call Reply ε α) : Fallible Call Reply ε α :=
  ExceptT.mk (x.run >>= fun r => .done (r.mapError f))

theorem mapError_ok {α ε ε' : Type} {f : ε → ε'} {r : Except ε α} {a : α}
    (h : r.mapError f = .ok a) : r = .ok a := by
  cases r with
  | ok b =>
    cases h
    rfl
  | error e => cases h

def observed (x : Fallible Call Reply ε α) : Fallible Call Reply ε (Except ε α) :=
  ExceptT.mk (x.run >>= fun r => .done (.ok r))

def rounds {σ : Type} (body : (σ → Fallible Call Reply ε α) → σ → Fallible Call Reply ε α)
    (expired : σ → Fallible Call Reply ε α) : ℕ → σ → Fallible Call Reply ε α
  | 0 => body expired
  | n+1 => body (rounds body expired n)

def proceed (f : α → Fallible Call Reply ε β) : Except ε α → Prog Call Reply (Except ε β)
  | .ok a => (f a).run
  | .error e => .done (.error e)

theorem run_bind (x : Fallible Call Reply ε α) (f : α → Fallible Call Reply ε β) :
    (x >>= f).run = x.run >>= proceed f := by
  have hf : ExceptT.bindCont f = proceed f := by
    funext r
    cases r <;> rfl
  show x.run >>= ExceptT.bindCont f = _
  rw [hf]

@[simp] theorem run_pure (a : α) : (pure a : Fallible Call Reply ε α).run = .done (.ok a) := rfl

@[simp] theorem run_throw (e : ε) :
    (throw e : Fallible Call Reply ε α).run = .done (.error e) := rfl

@[simp] theorem run_perform (p : Prog Call Reply α) :
    (perform p : Fallible Call Reply ε α).run = p >>= fun a => .done (.ok a) := rfl

variable {x : Fallible Call Reply ε α} {f : α → Fallible Call Reply ε β}
  {cleanup : Prog Call Reply Unit}

section Runs

variable {S : Service Call Reply W} {h h' : History Call Reply W} {w w' : W}

theorem runs_ok_bind {b : β} (hr : Runs S ⟨h,w,(x >>= f).run⟩ ⟨h',w',.done (.ok b)⟩) :
    ∃ h₁ w₁ a, Runs S ⟨h,w,x.run⟩ ⟨h₁,w₁,.done (.ok a)⟩ ∧
      Runs S ⟨h₁,w₁,(f a).run⟩ ⟨h',w',.done (.ok b)⟩ := by
  rw [run_bind] at hr
  obtain ⟨h₁,w₁,r,hx,hf⟩ := runs_bind_done hr
  cases r with
  | ok a => exact ⟨h₁,w₁,a,hx,hf⟩
  | error e =>
    have hd := (runs_done hf).2.1
    cases hd

/-- A run of a sequence is a run of its first part, or that part succeeded. -/
theorem runs_try_bind {d : Config Call Reply W (Except ε β)} (hr : Runs S ⟨h,w,(x >>= f).run⟩ d) :
    (∃ q, Runs S ⟨h,w,x.run⟩ ⟨d.hist,d.world,q⟩) ∨
    ∃ h₁ w₁ a, Runs S ⟨h,w,x.run⟩ ⟨h₁,w₁,.done (.ok a)⟩ ∧ Runs S ⟨h₁,w₁,(f a).run⟩ d := by
  rw [run_bind] at hr
  rcases runs_bind hr with ⟨q,_,hq⟩ | ⟨h₁,w₁,r,hx,hf⟩
  · exact .inl ⟨q,hq⟩
  · cases r with
    | ok a => exact .inr ⟨h₁,w₁,a,hx,hf⟩
    | error e =>
      obtain ⟨hh,_,hi⟩ := runs_done hf
      refine .inl ⟨.done (.error e),hx.trans ?_⟩
      rw [hh]
      exact interference_runs _ hi

variable {c : Call} {next : Reply c → Prog Call Reply (Except ε α)}

theorem runs_next_try {next : Reply c → Prog Call Reply (Except ε β)}
    (hr : Runs S ⟨h,w,(x >>= f).run⟩ ⟨h',w',.call c next⟩) :
    (∃ next', Runs S ⟨h,w,x.run⟩ ⟨h',w',.call c next'⟩) ∨
    ∃ h₁ w₁ a, Runs S ⟨h,w,x.run⟩ ⟨h₁,w₁,.done (.ok a)⟩ ∧
      Runs S ⟨h₁,w₁,(f a).run⟩ ⟨h',w',.call c next⟩ := by
  rw [run_bind] at hr
  rcases runs_next_bind hr with hx | ⟨h₁,w₁,r,hx,hf⟩
  · exact .inl hx
  · cases r with
    | ok a => exact .inr ⟨h₁,w₁,a,hx,hf⟩
    | error e =>
      have hd := (runs_done hf).2.1
      cases hd

theorem runs_next_last {p : Prog Call Reply α} {g : α → β} {next : Reply c → Prog Call Reply β}
    (hr : Runs S ⟨h,w,p >>= fun a => .done (g a)⟩ ⟨h',w',.call c next⟩) :
    ∃ next', Runs S ⟨h,w,p⟩ ⟨h',w',.call c next'⟩ := by
  rcases runs_next_bind hr with hp | ⟨h₁,w₁,r,_,hf⟩
  · exact hp
  · have hd := (runs_done hf).2.1
    cases hd

theorem runs_next_relabel {f : ε → ε} (hr : Runs S ⟨h,w,(relabel f x).run⟩ ⟨h',w',.call c next⟩) :
    ∃ next', Runs S ⟨h,w,x.run⟩ ⟨h',w',.call c next'⟩ := runs_next_last hr

theorem runs_next_observed {next : Reply c → Prog Call Reply (Except ε (Except ε α))}
    (hr : Runs S ⟨h,w,(observed x).run⟩ ⟨h',w',.call c next⟩) :
    ∃ next', Runs S ⟨h,w,x.run⟩ ⟨h',w',.call c next'⟩ := runs_next_last hr

theorem runs_next_deferred (hr : Runs S ⟨h,w,(deferred cleanup x).run⟩ ⟨h',w',.call c next⟩) :
    (∃ next', Runs S ⟨h,w,x.run⟩ ⟨h',w',.call c next'⟩) ∨
    ∃ h₁ w₁ next', Runs S ⟨h₁,w₁,cleanup⟩ ⟨h',w',.call c next'⟩ := by
  rcases runs_next_bind hr with hx | ⟨h₁,w₁,r,_,hf⟩
  · exact .inl hx
  · exact .inr ⟨h₁,w₁,runs_next_last hf⟩

theorem runs_next_onError (hr : Runs S ⟨h,w,(onError cleanup x).run⟩ ⟨h',w',.call c next⟩) :
    (∃ next', Runs S ⟨h,w,x.run⟩ ⟨h',w',.call c next'⟩) ∨
    ∃ h₁ w₁ next', Runs S ⟨h₁,w₁,cleanup⟩ ⟨h',w',.call c next'⟩ := by
  rcases runs_next_bind hr with hx | ⟨h₁,w₁,r,_,hf⟩
  · exact .inl hx
  · cases r with
    | ok a =>
      have hp := (runs_done hf).2.1
      cases hp
    | error e => exact .inr ⟨h₁,w₁,runs_next_last hf⟩

theorem runs_error_bind {e : ε} (hr : Runs S ⟨h,w,(x >>= f).run⟩ ⟨h',w',.done (.error e)⟩) :
    (∃ w₁, Runs S ⟨h,w,x.run⟩ ⟨h',w₁,.done (.error e)⟩) ∨
    ∃ h₁ w₁ a, Runs S ⟨h,w,x.run⟩ ⟨h₁,w₁,.done (.ok a)⟩ ∧
      Runs S ⟨h₁,w₁,(f a).run⟩ ⟨h',w',.done (.error e)⟩ := by
  rw [run_bind] at hr
  obtain ⟨h₁,w₁,r,hx,hf⟩ := runs_bind_done hr
  cases r with
  | ok a => exact .inr ⟨h₁,w₁,a,hx,hf⟩
  | error e' =>
    obtain ⟨hh,hp,_⟩ := runs_done hf
    cases hp
    cases hh
    exact .inl ⟨w₁,hx⟩

theorem runs_ok_pure {a b : α}
    (hr : Runs S ⟨h,w,(pure a : Fallible Call Reply ε α).run⟩ ⟨h',w',.done (.ok b)⟩) :
    b = a ∧ h' = h ∧ Interference S h w w' := by
  obtain ⟨hh,hp,hi⟩ := runs_done hr
  cases hp
  exact ⟨rfl,hh,hi⟩

theorem runs_ok_throw {e : ε} {b : α} {P : Prop}
    (hr : Runs S ⟨h,w,(throw e : Fallible Call Reply ε α).run⟩ ⟨h',w',.done (.ok b)⟩) : P := by
  have hd := (runs_done hr).2.1
  cases hd

theorem runs_ok_require {c : Prop} [Decidable c] {e : ε} {u : Unit}
    (hr : Runs S ⟨h,w,(require c e : Fallible Call Reply ε Unit).run⟩ ⟨h',w',.done (.ok u)⟩) :
    c ∧ h' = h ∧ Interference S h w w' := by
  obtain ⟨hh,hp,hi⟩ := runs_done hr
  by_cases hc : c
  · exact ⟨hc,hh,hi⟩
  · simp only [hc, if_false] at hp
    cases hp

theorem runs_ok_relabel {f : ε → ε} {a : α}
    (hr : Runs S ⟨h,w,(relabel f x).run⟩ ⟨h',w',.done (.ok a)⟩) :
    ∃ w₁, Runs S ⟨h,w,x.run⟩ ⟨h',w₁,.done (.ok a)⟩ ∧ Interference S h' w₁ w' := by
  obtain ⟨h₁,w₁,r,hx,hf⟩ := runs_bind_done hr
  obtain ⟨hh,hp,hi⟩ := runs_done hf
  cases hh
  cases r with
  | ok b =>
    cases hp
    exact ⟨w₁,hx,hi⟩
  | error e => cases hp

theorem runs_ok_observed {r : Except ε α}
    (hr : Runs S ⟨h,w,(observed x).run⟩ ⟨h',w',.done (.ok r)⟩) :
    ∃ w₁, Runs S ⟨h,w,x.run⟩ ⟨h',w₁,.done r⟩ ∧ Interference S h' w₁ w' := by
  obtain ⟨h₁,w₁,r',hx,hf⟩ := runs_bind_done hr
  obtain ⟨hh,hp,hi⟩ := runs_done hf
  cases hh
  cases hp
  exact ⟨w₁,hx,hi⟩

theorem runs_ok_onError {a : α} (hr : Runs S ⟨h,w,(onError cleanup x).run⟩ ⟨h',w',.done (.ok a)⟩) :
    ∃ w₁, Runs S ⟨h,w,x.run⟩ ⟨h',w₁,.done (.ok a)⟩ ∧ Interference S h' w₁ w' := by
  obtain ⟨h₁,w₁,r,hx,hf⟩ := runs_bind_done hr
  cases r with
  | ok b =>
    obtain ⟨hh,hp,hi⟩ := runs_done hf
    cases hp
    cases hh
    exact ⟨w₁,hx,hi⟩
  | error e =>
    obtain ⟨h₂,w₂,u,hc,hd⟩ := runs_bind_done hf
    have hp := (runs_done hd).2.1
    cases hp

theorem runs_ok_deferred {a : α}
    (hr : Runs S ⟨h,w,(deferred cleanup x).run⟩ ⟨h',w',.done (.ok a)⟩) :
    ∃ h₁ w₁, Runs S ⟨h,w,x.run⟩ ⟨h₁,w₁,.done (.ok a)⟩ ∧
      Runs S ⟨h₁,w₁,cleanup⟩ ⟨h',w',.done ()⟩ := by
  obtain ⟨h₁,w₁,r,hx,hf⟩ := runs_bind_done hr
  obtain ⟨h₂,w₂,u,hc,hd⟩ := runs_bind_done hf
  obtain ⟨hh,hp,hi⟩ := runs_done hd
  cases hp
  cases hh
  exact ⟨h₁,w₁,hx,hc.trans (interference_runs _ hi)⟩

theorem runs_into {a : α} {d : Config Call Reply W (Except ε β)}
    (hx : Runs S ⟨h,w,x.run⟩ ⟨h',w',.done (.ok a)⟩) (hf : Runs S ⟨h',w',(f a).run⟩ d) :
    Runs S ⟨h,w,(x >>= f).run⟩ d := by
  rw [run_bind]
  exact (runs_trans_bind _ hx).trans hf

theorem runs_within (hx : Runs S ⟨h,w,x.run⟩ ⟨h',w',.call c next⟩) :
    ∃ next', Runs S ⟨h,w,(x >>= f).run⟩ ⟨h',w',.call c next'⟩ := by
  rw [run_bind]
  exact ⟨_,runs_trans_bind _ hx⟩

theorem runs_reaching {a : α} {h₂ : History Call Reply W} {w₂ : W}
    (hx : Runs S ⟨h,w,x.run⟩ ⟨h',w',.done (.ok a)⟩)
    (hf : ∃ next, Runs S ⟨h',w',(f a).run⟩ ⟨h₂,w₂,.call c next⟩) :
    ∃ next, Runs S ⟨h,w,(x >>= f).run⟩ ⟨h₂,w₂,.call c next⟩ := by
  obtain ⟨next,hf⟩ := hf
  exact ⟨next,runs_into hx hf⟩

end Runs

section Footprint

variable {ok : Call → Prop}

theorem uses_try_bind (hx : x.run.Uses ok) (hf : ∀ a, (f a).run.Uses ok) :
    (x >>= f).run.Uses ok := by
  rw [run_bind]
  refine uses_bind hx ?_
  intro r
  cases r with
  | ok a => exact hf a
  | error e => trivial

theorem uses_either {δ : Type} {x : Fallible Call Reply ε (Except δ α)}
    {f : Except δ α → Fallible Call Reply ε β} (hx : x.run.Uses ok)
    (hok : ∀ a, (f (.ok a)).run.Uses ok) (herror : ∀ e, (f (.error e)).run.Uses ok) :
    (x >>= f).run.Uses ok := by
  refine uses_try_bind hx ?_
  intro r
  cases r with
  | ok a => exact hok a
  | error e => exact herror e

theorem uses_if {c : Prop} [Decidable c] {x y : Fallible Call Reply ε α} (hx : x.run.Uses ok)
    (hy : y.run.Uses ok) : (if c then x else y).run.Uses ok := by
  split
  · exact hx
  · exact hy

/-- What follows a first part that succeeded issues calls of the whole only. -/
theorem uses_after {S : Service Call Reply W} {h h' : History Call Reply W} {w w' : W} {a : α}
    (hr : Runs S ⟨h,w,x.run⟩ ⟨h',w',.done (.ok a)⟩) (hu : (x >>= f).run.Uses ok) :
    (f a).run.Uses ok := by
  rw [run_bind] at hu
  exact (runs_uses (I := fun _ _ => True) (fun _ _ _ _ _ => trivial)
    (fun _ _ _ _ _ _ _ _ => trivial) (runs_trans_bind (proceed f) hr) hu trivial).1

theorem uses_perform {p : Prog Call Reply α} (hp : p.Uses ok) :
    (perform p : Fallible Call Reply ε α).run.Uses ok := uses_bind hp (fun _ => trivial)

theorem uses_require {c : Prop} [Decidable c] {e : ε} :
    (require c e : Fallible Call Reply ε Unit).run.Uses ok := trivial

/-- What follows a check is issued only if the check passes. -/
theorem uses_checked {c : Prop} [Decidable c] {e : ε} {f : Unit → Fallible Call Reply ε β}
    (hf : c → (f ()).run.Uses ok) : (require c e >>= f).run.Uses ok := by
  rw [run_bind]
  show Uses ok (proceed f (if c then .ok () else .error e))
  by_cases hc : c
  · rw [if_pos hc]
    exact hf hc
  · rw [if_neg hc]
    trivial

theorem uses_relabel {f : ε → ε} (hx : x.run.Uses ok) :
    (relabel f x).run.Uses ok := uses_bind hx (fun _ => trivial)

theorem uses_observed (hx : x.run.Uses ok) :
    (observed x).run.Uses ok := uses_bind hx (fun _ => trivial)

theorem uses_rounds {σ : Type} {body : (σ → Fallible Call Reply ε α) → σ → Fallible Call Reply ε α}
    {expired : σ → Fallible Call Reply ε α} (he : ∀ s, (expired s).run.Uses ok)
    (hb : ∀ k, (∀ s, (k s).run.Uses ok) → ∀ s, (body k s).run.Uses ok) (n : ℕ) (s : σ) :
    (rounds body expired n s).run.Uses ok := by
  induction n generalizing s with
  | zero => exact hb expired he s
  | succ n ih => exact hb _ ih s

theorem uses_deferred (hc : cleanup.Uses ok) (hx : x.run.Uses ok) :
    (deferred cleanup x).run.Uses ok :=
  uses_bind hx (fun _ => uses_bind hc (fun _ => trivial))

theorem uses_onError (hc : cleanup.Uses ok) (hx : x.run.Uses ok) :
    (onError cleanup x).run.Uses ok := by
  refine uses_bind hx ?_
  intro r
  cases r with
  | ok a => trivial
  | error e => exact uses_bind hc (fun _ => trivial)

end Footprint

section Results

def IfOk (P : α → Prop) : Except ε α → Prop
  | .ok a => P a
  | .error _ => True

variable {ok : Call → Prop} {P : α → Prop} {Q : β → Prop}

theorem returns_try_bind (hx : x.run.Returns (IfOk P))
    (hf : ∀ a, P a → (f a).run.Returns (IfOk Q)) : (x >>= f).run.Returns (IfOk Q) := by
  rw [run_bind]
  refine returns_bind hx ?_
  intro r hr
  cases r with
  | ok a => exact hf a hr
  | error e => trivial

theorem returns_any : x.run.Returns (IfOk (fun _ => True)) := by
  have h := returns_bind (returns_trivial x.run) (f := Prog.done) (Q := IfOk (fun _ => True))
    (fun r _ => by cases r <;> trivial)
  rwa [bind_done] at h

theorem returns_relabel {f : ε → ε} (hx : x.run.Returns (IfOk P)) :
    (relabel f x).run.Returns (IfOk P) := by
  refine returns_bind hx ?_
  intro r hr
  cases r with
  | ok a => exact hr
  | error e => trivial

theorem returns_observed {R : Except ε α → Prop} (hx : x.run.Returns R) :
    (observed x).run.Returns (IfOk R) := returns_bind hx (fun _ hr => hr)

end Results

end ProxmoxCSI.CallErrors
