import ProxmoxCSI.CallProgram

/-!
# Safety of programs under interference

`Safe` is the weakest precondition of a program in the presence of other
parties: an invariant over the history and the shared state holds wherever the
run stops, and the postcondition holds when it returns. The rules below follow
the syntax of a program whose steps may fail.
-/

set_option autoImplicit false

namespace ProxmoxCSI.CallSafety
open CallProgram CallProgram.Prog

variable {Call : Type} {Reply : Call → Type} {α β ε W : Type}

abbrev History (Call : Type) (Reply : Call → Type) (W : Type) := List (Event Call Reply W)

abbrev Assertion (Call : Type) (Reply : Call → Type) (W : Type) := History Call Reply W → W → Prop

def Safe (S : Service Call Reply W) (I : Assertion Call Reply W)
    (Q : α → Assertion Call Reply W) : Prog Call Reply α → Assertion Call Reply W
  | .done a => fun h w => ∀ w₁, Interference S h w w₁ → I h w₁ ∧ Q a h w₁
  | .call c next => fun h w => ∀ w₁, Interference S h w w₁ → I h w₁ ∧
      ∀ r w₂, S.outcome c w₁ r w₂ → Safe S I Q (next r) (⟨c,r,w₁,w₂⟩::h) w₂

variable {S : Service Call Reply W} {I : Assertion Call Reply W} {Q : α → Assertion Call Reply W}
  {h : History Call Reply W} {p : Prog Call Reply α} {P : Assertion Call Reply W} {w : W}

theorem safe_interfere {w w₁ : W} (hp : Safe S I Q p h w) (hi : Interference S h w w₁) :
    Safe S I Q p h w₁ := by
  cases p with
  | done a => exact fun w₂ h₂ => hp w₂ (hi.trans h₂)
  | call c next => exact fun w₂ h₂ => hp w₂ (hi.trans h₂)

theorem safe_here (hp : Safe S I Q p h w) : I h w := by
  cases p with
  | done a => exact (hp w .refl).1
  | call c next => exact (hp w .refl).1

theorem safe_runs {c d : Config Call Reply W α} (hr : Runs S c d)
    (hc : Safe S I Q c.prog c.hist c.world) : Safe S I Q d.prog d.hist d.world := by
  induction hr with
  | refl => exact hc
  | tail _ hs ih =>
    cases hs with
    | interfere he => exact safe_interfere ih (.single he)
    | call ho => exact (ih _ .refl).2 _ _ ho

/-- Soundness: the invariant holds wherever a run may be stopped. -/
theorem safe_invariant {c d : Config Call Reply W α} (hr : Runs S c d)
    (hc : Safe S I Q c.prog c.hist c.world) : I d.hist d.world :=
  safe_here (safe_runs hr hc)

theorem safe_result {c : Config Call Reply W α} {a : α} (hr : Runs S c ⟨h,w,.done a⟩)
    (hc : Safe S I Q c.prog c.hist c.world) : Q a h w :=
  (safe_runs hr hc w .refl).2

theorem safe_mono {I' : Assertion Call Reply W} {Q' : α → Assertion Call Reply W}
    (hp : Safe S I Q p h w) (hI : ∀ h w, I h w → I' h w)
    (hQ : ∀ a h w, I h w → Q a h w → Q' a h w) : Safe S I' Q' p h w := by
  induction p generalizing h w with
  | done a =>
    intro w₁ h₁
    obtain ⟨hi,hq⟩ := hp w₁ h₁
    exact ⟨hI h w₁ hi,hQ a h w₁ hi hq⟩
  | call c next ih =>
    intro w₁ h₁
    obtain ⟨hi,hn⟩ := hp w₁ h₁
    exact ⟨hI h w₁ hi,fun r w₂ ho => ih r (hn r w₂ ho)⟩

/-- A sequence is safe when its second part is safe wherever the first returns. -/
theorem safe_bind {R : β → Assertion Call Reply W} {f : α → Prog Call Reply β}
    (hp : Safe S I Q p h w) (hf : ∀ a h w, Safe S I Q (.done a) h w → Safe S I R (f a) h w) :
    Safe S I R (p >>= f) h w := by
  induction p generalizing h w with
  | done a => exact hf a h w hp
  | call c next ih =>
    intro w₁ h₁
    obtain ⟨hi,hn⟩ := hp w₁ h₁
    exact ⟨hi,fun r w₂ ho => ih r (hn r w₂ ho)⟩

theorem safe_uses {ok : Call → Prop} (henv : ∀ h w w', S.env h w w' → I h w → I h w')
    (hcall : ∀ c h w r w', ok c → S.outcome c w r w' → I h w → I (⟨c,r,w,w'⟩::h) w')
    (hu : p.Uses ok) (hw : I h w) : Safe S I (fun _ => I) p h w := by
  have hs : ∀ h w w₁, Interference S h w w₁ → I h w → I h w₁ := by
    intro h w w₁ hi hw
    induction hi with
    | refl => exact hw
    | tail _ he ih => exact henv _ _ _ he ih
  induction p generalizing h w with
  | done a => exact fun w₁ hi => ⟨hs h w w₁ hi hw,hs h w w₁ hi hw⟩
  | call c next ih =>
    intro w₁ hi
    have h₁ := hs h w w₁ hi hw
    exact ⟨h₁,fun r w₂ ho => ih r (hu.2 r) (hcall c h w₁ r w₂ hu.1 ho h₁)⟩

def Stable (S : Service Call Reply W) (P : Assertion Call Reply W) : Prop :=
  ∀ h w w', S.env h w w' → P h w → P h w'

theorem stable_interference (hs : Stable S P) {w w' : W} (hi : Interference S h w w') (hw : P h w) :
    P h w' := by
  induction hi with
  | refl => exact hw
  | tail _ he ih => exact hs _ _ _ he ih

theorem safe_done (hs : Stable S P) {a : α} (hw : P h w) (hq : ∀ w, P h w → I h w ∧ Q a h w) :
    Safe S I Q (.done a) h w :=
  fun w₁ hi => hq w₁ (stable_interference hs hi hw)

theorem safe_call (hs : Stable S P) {c : Call} {next : Reply c → Prog Call Reply α} (hw : P h w)
    (hI : ∀ w, P h w → I h w)
    (hn : ∀ w r w', P h w → S.outcome c w r w' → Safe S I Q (next r) (⟨c,r,w,w'⟩::h) w') :
    Safe S I Q (.call c next) h w := by
  intro w₁ hi
  have h₁ := stable_interference hs hi hw
  exact ⟨hI w₁ h₁,fun r w₂ ho => hn w₁ r w₂ h₁ ho⟩

/-- What a program returns at all may be added to where it ends. -/
theorem safe_returns {R : α → Prop} (hs : Safe S I Q p h w) (hr : p.Returns R) :
    Safe S I (fun a h w => Q a h w ∧ R a) p h w := by
  induction p generalizing h w with
  | done a => exact fun w₁ hi => ⟨(hs w₁ hi).1,(hs w₁ hi).2,hr⟩
  | call c next ih =>
    intro w₁ hi
    obtain ⟨h₁,h₂⟩ := hs w₁ hi
    exact ⟨h₁,fun r w₂ ho => ih r (h₂ r w₂ ho) (hr r)⟩

end ProxmoxCSI.CallSafety
