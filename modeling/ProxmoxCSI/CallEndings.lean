import ProxmoxCSI.CallErrors

/-!
# Where a program ends

A program that may fail has two endings. From the precondition every finished
run satisfies the one postcondition when it returns a value and the other when
it returns an error, whatever the others did in between.
-/

set_option autoImplicit false

namespace ProxmoxCSI.CallEndings
open CallProgram CallProgram.Prog CallSafety CallErrors

variable {Call : Type} {Reply : Call → Type} {α β ε W : Type}

def ending (Q : α → Assertion Call Reply W) (E : Assertion Call Reply W) :
    Except ε α → Assertion Call Reply W
  | .ok a => Q a
  | .error _ => E

def Leads (S : Service Call Reply W) (P : Assertion Call Reply W) (p : Prog Call Reply α)
    (Q : α → Assertion Call Reply W) : Prop :=
  ∀ h w, P h w → Safe S (fun _ _ => True) Q p h w

def Ends (S : Service Call Reply W) (P : Assertion Call Reply W) (x : Fallible Call Reply ε α)
    (Q : α → Assertion Call Reply W) (E : Assertion Call Reply W) : Prop :=
  Leads S P x.run (ending Q E)

variable {S : Service Call Reply W} {P P' E E' J : Assertion Call Reply W}
  {Q Q' : α → Assertion Call Reply W} {R : β → Assertion Call Reply W}

theorem leads_done {a : α} (hP : Stable S P) (hq : ∀ h w, P h w → Q a h w) :
    Leads S P (.done a) Q :=
  fun h _ hw => safe_done hP hw (fun w₁ h₁ => ⟨trivial,hq h w₁ h₁⟩)

theorem leads_mono {p : Prog Call Reply α} (hp : Leads S P p Q) (hP : ∀ h w, P' h w → P h w)
    (hQ : ∀ a h w, Q a h w → Q' a h w) : Leads S P' p Q' := by
  intro h w hw
  exact safe_mono (hp h w (hP h w hw)) (fun _ _ hi => hi) (fun a h₁ w₁ _ hq => hQ a h₁ w₁ hq)

theorem ending_mono {r : Except ε α} {h : History Call Reply W} {w : W}
    (hQ : ∀ a h w, Q a h w → Q' a h w) (hE : ∀ h w, E h w → E' h w) (hr : ending Q E r h w) :
    ending Q' E' r h w := by
  cases r with
  | ok a => exact hQ a h w hr
  | error e => exact hE h w hr

variable {x : Fallible Call Reply ε α}

theorem ends_mono (hx : Ends S P x Q E) (hP : ∀ h w, P' h w → P h w)
    (hQ : ∀ a h w, Q a h w → Q' a h w) (hE : ∀ h w, E h w → E' h w) : Ends S P' x Q' E' :=
  leads_mono hx hP (fun _ _ _ hr => ending_mono hQ hE hr)

theorem ends_pure {a : α} (hP : Stable S P) (hq : ∀ h w, P h w → Q a h w) :
    Ends S P (pure a : Fallible Call Reply ε α) Q E := leads_done hP hq

theorem ends_bind {f : α → Fallible Call Reply ε β} (hx : Ends S P x Q E)
    (hf : ∀ a, Ends S (Q a) (f a) R E) : Ends S P (x >>= f) R E := by
  intro h w hw
  rw [run_bind]
  refine safe_bind (hx h w hw) ?_
  intro r h₁ w₁ hs
  cases r with
  | ok a => exact hf a h₁ w₁ (hs w₁ .refl).2
  | error e => exact hs

theorem ends_call {c : Call} {g : Reply c → Except ε α} {R : Reply c → Assertion Call Reply W}
    (hP : Stable S P) (hR : ∀ r, Stable S (R r))
    (ho : ∀ h w r w', P h w → S.outcome c w r w' → R r (⟨c,r,w,w'⟩::h) w')
    (hQ : ∀ r h w, R r h w → ending Q E (g r) h w) :
    Ends S P (ExceptT.mk (.call c fun r => .done (g r)) : Fallible Call Reply ε α) Q E := by
  intro h w hw
  refine safe_call hP hw (fun _ _ => trivial) ?_
  intro w₁ r w₂ h₁ h₂
  exact safe_done (hR r) (ho h w₁ r w₂ h₁ h₂) (fun w₃ h₃ => ⟨trivial,hQ r _ w₃ h₃⟩)

theorem ends_relabel {f : ε → ε} (hx : Ends S P x Q E) : Ends S P (relabel f x) Q E := by
  intro h w hw
  refine safe_bind (hx h w hw) ?_
  intro r h₁ w₁ hs
  cases r with
  | ok a => exact hs
  | error e => exact hs

theorem ends_result (hx : Ends S P x Q E) {h h' : History Call Reply W} {w w' : W} {r : Except ε α}
    (hw : P h w) (hr : Runs S ⟨h,w,x.run⟩ ⟨h',w',.done r⟩) : ending Q E r h' w' :=
  safe_result hr (hx h w hw)

end ProxmoxCSI.CallEndings
