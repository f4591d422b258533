import Mathlib.Logic.Relation
import Mathlib.Data.List.Basic

/-!
# Programs that issue calls to a shared service

A program is the tree of its calls: a reply selects the continuation. The
service answers a call by an outcome relation, so an answer may be lost or
refused, and other parties may change the shared state between two calls.
Stopping anywhere in a run is a crash; nothing else is assumed about a run.
-/

set_option autoImplicit false

namespace ProxmoxCSI.CallProgram

inductive Prog (Call : Type) (Reply : Call → Type) (α : Type) : Type where
  | done (a : α) : Prog Call Reply α
  | call (c : Call) (next : Reply c → Prog Call Reply α) : Prog Call Reply α

variable {Call : Type} {Reply : Call → Type} {α β γ W : Type}

namespace Prog

def bind : Prog Call Reply α → (α → Prog Call Reply β) → Prog Call Reply β
  | .done a, f => f a
  | .call c next, f => .call c (fun r => (next r).bind f)

instance : Monad (Prog Call Reply) where
  pure := .done
  bind := bind

@[simp] theorem done_bind (a : α) (f : α → Prog Call Reply β) : (done a >>= f) = f a := rfl

@[simp] theorem call_bind (c : Call) (next : Reply c → Prog Call Reply α)
    (f : α → Prog Call Reply β) : (call c next >>= f) = call c (fun r => next r >>= f) := rfl

@[simp] theorem pure_eq_done (a : α) : (pure a : Prog Call Reply α) = done a := rfl

def issue (c : Call) : Prog Call Reply (Reply c) := .call c .done

def Uses (ok : Call → Prop) : Prog Call Reply α → Prop
  | .done _ => True
  | .call c next => ok c ∧ ∀ r, (next r).Uses ok

theorem uses_any (p : Prog Call Reply α) : p.Uses (fun _ => True) := by
  induction p with
  | done a => trivial
  | call c next ih => exact ⟨trivial,ih⟩

variable {p : Prog Call Reply α}

theorem uses_bind {ok : Call → Prop} {f : α → Prog Call Reply β} (hp : p.Uses ok)
    (hf : ∀ a, (f a).Uses ok) : (p >>= f).Uses ok := by
  induction p with
  | done a => exact hf a
  | call c next ih => exact ⟨hp.1,fun r => ih r (hp.2 r)⟩

def Returns (P : α → Prop) : Prog Call Reply α → Prop
  | .done a => P a
  | .call _ next => ∀ r, (next r).Returns P

theorem bind_done (p : Prog Call Reply α) : p >>= Prog.done = p := by
  induction p with
  | done a => rfl
  | call c next ih => simp only [call_bind, ih]

theorem returns_bind {P : α → Prop} {Q : β → Prop} {f : α → Prog Call Reply β} (hp : p.Returns P)
    (hf : ∀ a, P a → (f a).Returns Q) : (p >>= f).Returns Q := by
  induction p with
  | done a => exact hf a hp
  | call c next ih => exact fun r => ih r (hp r)

theorem returns_trivial (p : Prog Call Reply α) : p.Returns (fun _ => True) := by
  induction p with
  | done a => trivial
  | call c next ih => exact ih

theorem uses_and {ok ok' : Call → Prop} (hp : p.Uses ok) (hp' : p.Uses ok') :
    p.Uses (fun c => ok c ∧ ok' c) := by
  induction p with
  | done a => trivial
  | call c next ih => exact ⟨⟨hp.1,hp'.1⟩,fun r => ih r (hp.2 r) (hp'.2 r)⟩

theorem uses_mono {ok ok' : Call → Prop} (hp : p.Uses ok) (h : ∀ c, ok c → ok' c) : p.Uses ok' := by
  induction p with
  | done a => trivial
  | call c next ih => exact ⟨h c hp.1,fun r => ih r (hp.2 r)⟩

end Prog

open Prog

structure Event (Call : Type) (Reply : Call → Type) (W : Type) where
  call : Call
  reply : Reply call
  before : W
  after : W

/-- `outcome` is what one call may do; `env` is what the others may do between
two calls of the program, given the calls it has made. -/
structure Service (Call : Type) (Reply : Call → Type) (W : Type) where
  outcome : (c : Call) → W → Reply c → W → Prop
  env : List (Event Call Reply W) → W → W → Prop

/-- The history lists the program's own calls, the latest first. -/
structure Config (Call : Type) (Reply : Call → Type) (W α : Type) where
  hist : List (Event Call Reply W)
  world : W
  prog : Prog Call Reply α

inductive Step (S : Service Call Reply W) : Config Call Reply W α → Config Call Reply W α → Prop
  | interfere {h : List (Event Call Reply W)} {w w' : W} {p : Prog Call Reply α}
      (he : S.env h w w') : Step S ⟨h,w,p⟩ ⟨h,w',p⟩
  | call {h : List (Event Call Reply W)} {w w' : W} {c : Call} {r : Reply c}
      {next : Reply c → Prog Call Reply α} (ho : S.outcome c w r w') :
      Step S ⟨h,w,.call c next⟩ ⟨⟨c,r,w,w'⟩::h,w',next r⟩

def Runs (S : Service Call Reply W) : Config Call Reply W α → Config Call Reply W α → Prop :=
  Relation.ReflTransGen (Step S)

def Interference (S : Service Call Reply W) (h : List (Event Call Reply W)) : W → W → Prop :=
  Relation.ReflTransGen (S.env h)

variable {S : Service Call Reply W} {h : List (Event Call Reply W)} {p : Prog Call Reply α}
  {c d : Config Call Reply W α} {f : α → Prog Call Reply β}

theorem interference_runs {w w' : W} (p : Prog Call Reply α) (hi : Interference S h w w') :
    Runs S ⟨h,w,p⟩ ⟨h,w',p⟩ := by
  induction hi with
  | refl => exact .refl
  | tail _ he ih => exact ih.tail (.interfere he)

theorem runs_done {w : W} {a : α} {c : Config Call Reply W α} (hr : Runs S ⟨h,w,.done a⟩ c) :
    c.hist = h ∧ c.prog = .done a ∧ Interference S h w c.world := by
  induction hr with
  | refl => exact ⟨rfl,rfl,.refl⟩
  | tail _ hs ih =>
    obtain ⟨hh,hp,hi⟩ := ih
    cases hs with
    | interfere he => exact ⟨hh,hp,hi.tail (hh ▸ he)⟩
    | call ho => cases hp

/-- A run of a call either still waits for its answer or has received one. -/
theorem runs_call {w : W} {c : Call} {next : Reply c → Prog Call Reply α}
    {d : Config Call Reply W α} (hr : Runs S ⟨h,w,.call c next⟩ d) :
    (d.hist = h ∧ d.prog = .call c next ∧ Interference S h w d.world) ∨
    ∃ w₁ r w₂, Interference S h w w₁ ∧ S.outcome c w₁ r w₂ ∧
      Runs S ⟨⟨c,r,w₁,w₂⟩::h,w₂,next r⟩ d := by
  induction hr with
  | refl => exact .inl ⟨rfl,rfl,.refl⟩
  | tail _ hs ih =>
    rcases ih with ⟨hh,hp,hi⟩ | ⟨w₁,r,w₂,hi,ho,hr⟩
    · cases hs with
      | interfere he => exact .inl ⟨hh,hp,hi.tail (hh ▸ he)⟩
      | call ho =>
        cases hp
        cases hh
        exact .inr ⟨_,_,_,hi,ho,.refl⟩
    · exact .inr ⟨w₁,r,w₂,hi,ho,hr.tail hs⟩

/-- A run of a sequence is inside its first part, or that part has finished. -/
theorem runs_bind {w : W} {d : Config Call Reply W β} (hr : Runs S ⟨h,w,p >>= f⟩ d) :
    (∃ q, d.prog = q >>= f ∧ Runs S ⟨h,w,p⟩ ⟨d.hist,d.world,q⟩) ∨
    ∃ h₁ w₁ a, Runs S ⟨h,w,p⟩ ⟨h₁,w₁,.done a⟩ ∧ Runs S ⟨h₁,w₁,f a⟩ d := by
  induction p generalizing h w with
  | done a => exact .inr ⟨h,w,a,.refl,hr⟩
  | call c next ih =>
    rcases runs_call hr with ⟨hh,hp,hi⟩ | ⟨w₁,r,w₂,hi,ho,hr'⟩
    · refine .inl ⟨.call c next,hp,?_⟩
      rw [hh]
      exact interference_runs _ hi
    · have hs : Runs S ⟨h,w,.call c next⟩ ⟨⟨c,r,w₁,w₂⟩::h,w₂,next r⟩ :=
        (interference_runs _ hi).tail (.call ho)
      rcases ih r hr' with ⟨q,hq,hq'⟩ | ⟨h₁,w₃,a,ha,hf⟩
      · exact .inl ⟨q,hq,hs.trans hq'⟩
      · exact .inr ⟨h₁,w₃,a,hs.trans ha,hf⟩

theorem runs_bind_done {h h' : List (Event Call Reply W)} {w w' : W} {b : β}
    (hr : Runs S ⟨h,w,p >>= f⟩ ⟨h',w',.done b⟩) :
    ∃ h₁ w₁ a, Runs S ⟨h,w,p⟩ ⟨h₁,w₁,.done a⟩ ∧ Runs S ⟨h₁,w₁,f a⟩ ⟨h',w',.done b⟩ := by
  rcases runs_bind hr with ⟨q,hq,hq'⟩ | hd
  · cases q with
    | done a =>
      rw [done_bind] at hq
      exact ⟨h',w',a,hq',hq ▸ .refl⟩
    | call c next => cases hq
  · exact hd

theorem runs_trans_bind {h h₁ : List (Event Call Reply W)} {w w₁ : W} {p q : Prog Call Reply α}
    (f : α → Prog Call Reply β) (hr : Runs S ⟨h,w,p⟩ ⟨h₁,w₁,q⟩) :
    Runs S ⟨h,w,p >>= f⟩ ⟨h₁,w₁,q >>= f⟩ := by
  generalize hd : (⟨h₁,w₁,q⟩ : Config Call Reply W α) = d at hr
  induction hr generalizing h₁ w₁ q with
  | refl => cases hd; exact .refl
  | @tail b c _ hs ih =>
    subst hd
    obtain ⟨hb,wb,pb⟩ := b
    cases hs with
    | interfere he => exact (ih rfl).tail (.interfere he)
    | call ho => exact (ih rfl).tail (.call ho)

/-- Invariants of single steps are invariants of runs. -/
theorem runs_invariant {I : W → Prop} (henv : ∀ h w w', S.env h w w' → I w → I w')
    (hcall : ∀ c w r w', S.outcome c w r w' → I w → I w') (hr : Runs S c d) (hc : I c.world) :
    I d.world := by
  induction hr with
  | refl => exact hc
  | tail _ hs ih =>
    cases hs with
    | interfere he => exact henv _ _ _ he ih
    | call ho => exact hcall _ _ _ _ ho ih

/-- As `runs_invariant`, for the calls a program can issue at all. -/
theorem runs_uses {ok : Call → Prop} {I : List (Event Call Reply W) → W → Prop}
    (henv : ∀ h w w', S.env h w w' → I h w → I h w')
    (hcall : ∀ c h w r w', ok c → S.outcome c w r w' → I h w → I (⟨c,r,w,w'⟩::h) w')
    (hr : Runs S c d) (hu : c.prog.Uses ok) (hc : I c.hist c.world) :
    d.prog.Uses ok ∧ I d.hist d.world := by
  induction hr with
  | refl => exact ⟨hu,hc⟩
  | tail _ hs ih =>
    obtain ⟨hu,hi⟩ := ih
    cases hs with
    | interfere he => exact ⟨hu,henv _ _ _ he hi⟩
    | call ho => exact ⟨hu.2 _,hcall _ _ _ _ _ hu.1 ho hi⟩

theorem runs_returns {P : α → Prop} {c : Config Call Reply W α} {w : W} {a : α}
    (hr : Runs S c ⟨h,w,.done a⟩) (hp : c.prog.Returns P) : P a := by
  have hall : ∀ d, Runs S c d → d.prog.Returns P := by
    intro d hd
    induction hd with
    | refl => exact hp
    | tail _ hs ih =>
      cases hs with
      | interfere he => exact ih
      | call ho => exact ih _
  exact hall _ hr

/-- The call a run is about to issue is one its program can issue. -/
theorem runs_next_uses {ok : Call → Prop} {h h' : List (Event Call Reply W)} {w w' : W} {c : Call}
    {next : Reply c → Prog Call Reply α} (hr : Runs S ⟨h,w,p⟩ ⟨h',w',.call c next⟩)
    (hu : p.Uses ok) : ok c := by
  have hd := (runs_uses (I := fun _ _ => True) (fun _ _ _ _ _ => trivial)
    (fun _ _ _ _ _ _ _ _ => trivial) hr hu trivial).1
  exact hd.1

/-- A sequence about to issue a call is about to issue it in one of its parts. -/
theorem runs_next_bind {h h' : List (Event Call Reply W)} {w w' : W} {c : Call}
    {next : Reply c → Prog Call Reply β} (hr : Runs S ⟨h,w,p >>= f⟩ ⟨h',w',.call c next⟩) :
    (∃ next', Runs S ⟨h,w,p⟩ ⟨h',w',.call c next'⟩) ∨
    ∃ h₁ w₁ a, Runs S ⟨h,w,p⟩ ⟨h₁,w₁,.done a⟩ ∧ Runs S ⟨h₁,w₁,f a⟩ ⟨h',w',.call c next⟩ := by
  rcases runs_bind hr with ⟨q,hq,hq'⟩ | hd
  · cases q with
    | done a =>
      rw [done_bind] at hq
      exact .inr ⟨h',w',a,hq',hq ▸ .refl⟩
    | call c' next' =>
      cases hq
      exact .inl ⟨next',hq'⟩
  · exact .inr hd

def Service.behind (S : Service Call Reply W) (h₀ : List (Event Call Reply W)) :
    Service Call Reply W := ⟨S.outcome,fun h => S.env (h ++ h₀)⟩

theorem runs_behind {h h₀ : List (Event Call Reply W)} {w : W} {d : Config Call Reply W α}
    (hr : Runs S ⟨h ++ h₀,w,p⟩ d) :
    ∃ h', d.hist = h' ++ h₀ ∧ Runs (S.behind h₀) ⟨h,w,p⟩ ⟨h',d.world,d.prog⟩ := by
  induction hr with
  | refl => exact ⟨h,rfl,.refl⟩
  | @tail b c _ hs ih =>
    obtain ⟨h',hh,hr⟩ := ih
    cases hs with
    | @interfere hb w₁ w₂ q he =>
      cases hh
      have hstep : Step (S.behind h₀) ⟨h',w₁,q⟩ ⟨h',w₂,q⟩ := .interfere he
      exact ⟨h',rfl,hr.tail hstep⟩
    | @call hb w₁ w₂ c r next ho =>
      cases hh
      have hstep : Step (S.behind h₀) ⟨h',w₁,.call c next⟩ ⟨⟨c,r,w₁,w₂⟩::h',w₂,next r⟩ := .call ho
      exact ⟨_,rfl,hr.tail hstep⟩

theorem runs_hist (hr : Runs S c d) : c.hist <:+ d.hist := by
  induction hr with
  | refl => exact List.suffix_rfl
  | tail _ hs ih =>
    cases hs with
    | interfere he => exact ih
    | call ho => exact ih.trans (List.suffix_cons _ _)

end ProxmoxCSI.CallProgram
