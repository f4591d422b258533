import ProxmoxCSI.CallTriples

/-!
# Sessions of programs

A session starts one program after the other, each on the state in which the
last one ended or was stopped. An assertion that every program keeps wherever
it may stop holds after every session. The runs of a restricted service are the
runs of which every event is permitted.
-/

set_option autoImplicit false

namespace ProxmoxCSI.CallSessions
open CallProgram CallProgram.Prog CallSafety CallErrors CallTriples

variable {ι Call : Type} {Reply : Call → Type} {α β ε W : Type}

section Calm

def Calm (S : Service Call Reply W) : Prop := ∀ h w w', ¬S.env h w w'

variable {S : Service Call Reply W} {I P : Assertion Call Reply W} {Q : α → Assertion Call Reply W}
  {h : History Call Reply W}

theorem calm_interference (hS : Calm S) {w w' : W} (hi : Interference S h w w') : w' = w := by
  induction hi with
  | refl => rfl
  | tail _ he _ => exact absurd he (hS _ _ _)

theorem calm_steady (hS : Calm S) (hP : ∀ h w, P h w → I h w) : Steady S I P :=
  ⟨fun h w w' he => absurd he (hS h w w'),hP⟩

theorem safe_calm_done (hS : Calm S) {a : α} {w : W} (hi : I h w) (hq : Q a h w) :
    Safe S I Q (.done a) h w := by
  intro w₁ h₁
  rw [calm_interference hS h₁]
  exact ⟨hi,hq⟩

theorem safe_calm_call (hS : Calm S) {c : Call} {next : Reply c → Prog Call Reply α} {w : W}
    (hi : I h w) (hn : ∀ r w', S.outcome c w r w' → Safe S I Q (next r) (⟨c,r,w,w'⟩::h) w') :
    Safe S I Q (.call c next) h w := by
  intro w₁ h₁
  rw [calm_interference hS h₁]
  exact ⟨hi,hn⟩

theorem triple_calm_call (hS : Calm S) {c : Call} {g : Reply c → Except ε α}
    (hP : ∀ h w, P h w → I h w)
    (ho : ∀ h w r w', P h w → S.outcome c w r w' → I (⟨c,r,w,w'⟩::h) w' ∧
      ∀ a, g r = .ok a → Q a (⟨c,r,w,w'⟩::h) w') :
    Triple S I P (ExceptT.mk (.call c fun r => .done (g r)) : Fallible Call Reply ε α) Q := by
  intro h w hw
  refine safe_calm_call hS (hP h w hw) ?_
  intro r w' hr
  obtain ⟨hi,hq⟩ := ho h w r w' hw hr
  refine safe_calm_done hS hi ?_
  cases hg : g r with
  | ok a => exact hq a hg
  | error e => trivial

end Calm

section Restrict

def restrict (S : Service Call Reply W) (ok : Event Call Reply W → Prop) :
    Service Call Reply W where
  outcome c w r w' := S.outcome c w r w' ∧ ok ⟨c,r,w,w'⟩
  env := S.env

theorem restrict_calm {S : Service Call Reply W} {ok : Event Call Reply W → Prop} (hS : Calm S) :
    Calm (restrict S ok) := hS

theorem runs_restrict {S : Service Call Reply W} {ok : Event Call Reply W → Prop}
    {c d : Config Call Reply W α} (hr : Runs S c d) (hd : ∀ e ∈ d.hist, ok e) :
    Runs (restrict S ok) c d := by
  induction hr with
  | refl => exact .refl
  | tail _ hs ih =>
    cases hs with
    | interfere he => exact (ih hd).tail (.interfere he)
    | call ho =>
      have hb := ih (fun e he => hd e (List.mem_cons_of_mem _ he))
      exact hb.tail (.call ⟨ho,hd _ List.mem_cons_self⟩)

end Restrict

structure Point (Call : Type) (Reply : Call → Type) (W : Type) where
  hist : History Call Reply W
  world : W

def Visit (S : Service Call Reply W) (progs : ι → Prog Call Reply α)
    (a b : Point Call Reply W) : Prop :=
  ∃ i q, Runs S ⟨a.hist,a.world,progs i⟩ ⟨b.hist,b.world,q⟩

def Session (S : Service Call Reply W) (progs : ι → Prog Call Reply α) :
    Point Call Reply W → Point Call Reply W → Prop := Relation.ReflTransGen (Visit S progs)

variable {S : Service Call Reply W} {progs : ι → Prog Call Reply α} {a b : Point Call Reply W}

theorem session_restrict {ok : Event Call Reply W → Prop} (h : Session S progs a b)
    (hb : ∀ e ∈ b.hist, ok e) : Session (restrict S ok) progs a b := by
  induction h with
  | refl => exact .refl
  | tail _ hv ih =>
    obtain ⟨i,q,hr⟩ := hv
    have hsub := (runs_hist hr).subset
    exact (ih (fun e he => hb e (hsub he))).tail ⟨i,q,runs_restrict hr hb⟩

theorem session_invariant {I : Assertion Call Reply W}
    (hsafe : ∀ i h w, I h w → Safe S I (fun _ _ _ => True) (progs i) h w)
    (h : Session S progs a b) (ha : I a.hist a.world) : I b.hist b.world := by
  induction h with
  | refl => exact ha
  | tail _ hv ih =>
    obtain ⟨i,q,hr⟩ := hv
    exact safe_invariant hr (hsafe i _ _ ih)

end ProxmoxCSI.CallSessions
