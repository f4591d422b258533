import ProxmoxCSI.CallErrors

/-!
# Triples under interference

From the precondition of a triple the invariant holds wherever a run of the
program stops, and the postcondition holds when the program succeeds. Both are
checked against everything the others may do in between, so an assertion used
between two calls has to be steady.
-/

set_option autoImplicit false

namespace ProxmoxCSI.CallTriples
open CallProgram CallProgram.Prog CallSafety CallErrors

variable {Call : Type} {Reply : Call → Type} {α β ε W : Type}

/-- The others cannot falsify the assertion, and it implies the invariant. -/
structure Steady (S : Service Call Reply W) (I P : Assertion Call Reply W) : Prop where
  stable : Stable S P
  safe : ∀ h w, P h w → I h w

def OnOk (Q : α → Assertion Call Reply W) : Except ε α → Assertion Call Reply W
  | .ok a => Q a
  | .error _ => fun _ _ => True

def Triple (S : Service Call Reply W) (I P : Assertion Call Reply W)
    (x : Fallible Call Reply ε α) (Q : α → Assertion Call Reply W) : Prop :=
  ∀ h w, P h w → Safe S I (OnOk Q) x.run h w

variable {S : Service Call Reply W} {I P P' : Assertion Call Reply W}
  {Q Q' : α → Assertion Call Reply W} {x : Fallible Call Reply ε α}

theorem triple_mono (hx : Triple S I P x Q) (hP : ∀ h w, P' h w → P h w)
    (hQ : ∀ a h w, Q a h w → Q' a h w) : Triple S I P' x Q' := by
  intro h w hw
  refine safe_mono (hx h w (hP h w hw)) (fun _ _ hi => hi) ?_
  intro r h₁ w₁ _ hr
  cases r with
  | ok a => exact hQ a h₁ w₁ hr
  | error e => trivial

theorem triple_fact {c : Prop} (hx : c → Triple S I P x Q) :
    Triple S I (fun h w => P h w ∧ c) x Q := fun h w hw => hx hw.2 h w hw.1

theorem triple_pure {a : α} (hP : Steady S I P) (hq : ∀ h w, P h w → Q a h w) :
    Triple S I P (pure a : Fallible Call Reply ε α) Q := by
  intro h w hw
  exact safe_done hP.stable hw (fun w₁ h₁ => ⟨hP.safe h w₁ h₁,hq h w₁ h₁⟩)

theorem triple_throw {e : ε} (hP : Steady S I P) :
    Triple S I P (throw e : Fallible Call Reply ε α) Q := by
  intro h w hw
  exact safe_done hP.stable hw (fun w₁ h₁ => ⟨hP.safe h w₁ h₁,trivial⟩)

theorem triple_require {c : Prop} [Decidable c] {e : ε} (hP : Steady S I P) :
    Triple S I P (require c e : Fallible Call Reply ε Unit) (fun _ h w => P h w ∧ c) := by
  intro h w hw
  refine safe_done hP.stable hw ?_
  intro w₁ h₁
  refine ⟨hP.safe h w₁ h₁,?_⟩
  by_cases hc : c
  · simpa only [hc, if_true] using ⟨h₁,trivial⟩
  · simp only [hc, if_false]
    trivial

theorem triple_bind {R : β → Assertion Call Reply W} {f : α → Fallible Call Reply ε β}
    (hx : Triple S I P x Q) (hf : ∀ a, Triple S I (Q a) (f a) R) : Triple S I P (x >>= f) R := by
  intro h w hw
  rw [run_bind]
  refine safe_bind (hx h w hw) ?_
  intro r h₁ w₁ hs
  cases r with
  | ok a => exact hf a h₁ w₁ (hs w₁ .refl).2
  | error e => exact fun w₂ h₂ => ⟨(hs w₂ h₂).1,trivial⟩

theorem triple_call {c : Call} {g : Reply c → Except ε α} {R : Reply c → Assertion Call Reply W}
    (hP : Steady S I P) (hR : ∀ r, Steady S I (R r))
    (ho : ∀ h w r w', P h w → S.outcome c w r w' → R r (⟨c,r,w,w'⟩::h) w')
    (hQ : ∀ r a h w, g r = .ok a → R r h w → Q a h w) :
    Triple S I P (ExceptT.mk (.call c fun r => .done (g r)) : Fallible Call Reply ε α) Q := by
  intro h w hw
  refine safe_call hP.stable hw (fun w₁ h₁ => hP.safe h w₁ h₁) ?_
  intro w₁ r w₂ h₁ h₂
  refine safe_done (hR r).stable (ho h w₁ r w₂ h₁ h₂) ?_
  intro w₃ h₃
  refine ⟨(hR r).safe _ w₃ h₃,?_⟩
  cases hg : g r with
  | ok a => exact hQ r a _ w₃ hg h₃
  | error e => trivial

theorem triple_perform {c : Call} {R : Reply c → Assertion Call Reply W}
    (hP : Steady S I P) (hR : ∀ r, Steady S I (R r))
    (ho : ∀ h w r w', P h w → S.outcome c w r w' → R r (⟨c,r,w,w'⟩::h) w') :
    Triple S I P (perform (issue c) : Fallible Call Reply ε (Reply c)) R := by
  refine triple_call hP hR ho ?_
  intro r a h w hg hr
  cases hg
  exact hr

theorem triple_relabel {f : ε → ε} (hx : Triple S I P x Q) : Triple S I P (relabel f x) Q := by
  intro h w hw
  refine safe_bind (hx h w hw) ?_
  intro r h₁ w₁ hs
  cases r with
  | ok a => exact hs
  | error e => exact fun w₂ h₂ => ⟨(hs w₂ h₂).1,trivial⟩

/-- The error of the inner program is an outcome like any other. -/
theorem triple_observed {R : Except ε α → Assertion Call Reply W}
    (hx : ∀ h w, P h w → Safe S I R x.run h w) : Triple S I P (observed x) R := by
  intro h w hw
  exact safe_bind (hx h w hw) (fun r h₁ w₁ hs => hs)

/-- The body ends where its invariant holds, with or without a value. -/
theorem triple_outcome (hx : Triple S I P x Q) :
    Triple S I P (observed x) (fun r h w => I h w ∧ OnOk Q r h w) := by
  refine triple_observed ?_
  intro h w hw
  exact safe_mono (hx h w hw) (fun _ _ hi => hi) (fun _ _ _ hi hq => ⟨hi,hq⟩)

/-- The cleanup runs wherever the body ends, so it starts from the body's invariant. -/
theorem triple_deferred {J : Assertion Call Reply W} {cleanup : Prog Call Reply Unit}
    (hx : Triple S J P x Q) (hJ : ∀ h w, J h w → I h w)
    (hc : ∀ h w, J h w → Safe S I (fun _ _ _ => True) cleanup h w) :
    Triple S I P (deferred cleanup x) (fun _ _ _ => True) := by
  intro h w hw
  have hbody : Safe S I (fun _ => J) x.run h w :=
    safe_mono (hx h w hw) hJ (fun _ _ _ hj _ => hj)
  refine safe_bind hbody ?_
  intro r h₁ w₁ hs
  refine safe_bind (hc h₁ w₁ (hs w₁ .refl).2) ?_
  intro u h₂ w₂ hd w₃ hi
  refine ⟨(hd w₃ hi).1,?_⟩
  cases r <;> trivial

theorem triple_rounds {σ : Type} {P : σ → Assertion Call Reply W}
    {body : (σ → Fallible Call Reply ε α) → σ → Fallible Call Reply ε α}
    {expired : σ → Fallible Call Reply ε α} (he : ∀ s, Triple S I (P s) (expired s) Q)
    (hb : ∀ k, (∀ s, Triple S I (P s) (k s) Q) → ∀ s, Triple S I (P s) (body k s) Q)
    (n : ℕ) (s : σ) : Triple S I (P s) (rounds body expired n s) Q := by
  induction n generalizing s with
  | zero => exact hb expired he s
  | succ n ih => exact hb _ ih s

theorem triple_uses {ok : Call → Prop} (hP : Steady S I P)
    (hcall : ∀ c h w r w', ok c → S.outcome c w r w' → P h w → P (⟨c,r,w,w'⟩::h) w')
    (hu : x.run.Uses ok) : Triple S I P x (fun _ => P) := by
  intro h w hw
  refine safe_mono (safe_uses hP.stable hcall hu hw) hP.safe ?_
  intro r h₁ w₁ _ hr
  cases r with
  | ok a => exact hr
  | error e => trivial

/-- What the program returns at all may be added to what a triple says. -/
theorem triple_returns {R : α → Prop} (hx : Triple S I P x Q) (hr : x.run.Returns (IfOk R)) :
    Triple S I P x (fun a h w => Q a h w ∧ R a) := by
  intro h w hw
  refine safe_mono (safe_returns (hx h w hw) hr) (fun _ _ hi => hi) ?_
  rintro r h₁ w₁ _ ⟨hq,hret⟩
  cases r with
  | ok a => exact ⟨hq,hret⟩
  | error e => trivial

theorem triple_invariant (hx : Triple S I P x Q) {h : History Call Reply W} {w : W} (hw : P h w)
    {d : Config Call Reply W (Except ε α)} (hr : Runs S ⟨h,w,x.run⟩ d) :
    I d.hist d.world := safe_invariant hr (hx h w hw)

theorem triple_result (hx : Triple S I P x Q) {h h' : History Call Reply W} {w w' : W} {a : α}
    (hw : P h w) (hr : Runs S ⟨h,w,x.run⟩ ⟨h',w',.done (.ok a)⟩) : Q a h' w' := by
  have hq : OnOk Q (.ok a : Except ε α) h' w' := safe_result hr (hx h w hw)
  exact hq

end ProxmoxCSI.CallTriples
