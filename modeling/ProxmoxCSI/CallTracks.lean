import ProxmoxCSI.CallJournal
import ProxmoxCSI.CallSystem

/-!
# Calls in the light of earlier answers

A program is followed call by call: each call is judged by the calls made before
it, and only answers that fit are considered. No state is carried from one call
to the next, so what is shown holds whatever others do in between. Tasks run one
after the other and processes that take turns keep an invariant of the state
when the calls they are allowed keep it.
-/

set_option autoImplicit false

namespace ProxmoxCSI.CallTracks
open CallProgram CallProgram.Prog CallSafety CallErrors CallSessions CallJournal CallSystem

variable {ι Call : Type} {Reply : Call → Type} {α β ε W : Type}

def Follows (fit : Event Call Reply W → Prop) (ok : History Call Reply W → Call → Prop)
    (Q : α → History Call Reply W → Prop) : Prog Call Reply α → History Call Reply W → Prop
  | .done a, h => Q a h
  | .call c next, h => ok h c ∧
      ∀ r w w', fit ⟨c,r,w,w'⟩ → Follows fit ok Q (next r) (⟨c,r,w,w'⟩::h)

variable {fit : Event Call Reply W → Prop} {ok : History Call Reply W → Call → Prop}
  {h : History Call Reply W} {p : Prog Call Reply α}

theorem follows_bind {Q : α → History Call Reply W → Prop} {R : β → History Call Reply W → Prop}
    {f : α → Prog Call Reply β} (hp : Follows fit ok Q p h)
    (hf : ∀ a h, Q a h → Follows fit ok R (f a) h) : Follows fit ok R (p >>= f) h := by
  induction p generalizing h with
  | done a => exact hf a h hp
  | call c next ih => exact ⟨hp.1,fun r w w' he => ih r (hp.2 r w w' he)⟩

theorem follows_mono {Q Q' : α → History Call Reply W → Prop} (hp : Follows fit ok Q p h)
    (hq : ∀ a h, Q a h → Q' a h) : Follows fit ok Q' p h := by
  induction p generalizing h with
  | done a => exact hq a h hp
  | call c next ih => exact ⟨hp.1,fun r w w' he => ih r (hp.2 r w w' he)⟩

/-- Calls that are allowed wherever a property of the history holds, and keep it. -/
theorem follows_kept {can : Call → Prop} {P : History Call Reply W → Prop}
    (hok : ∀ h c, can c → P h → ok h c) (hkeep : ∀ e h, can e.call → fit e → P h → P (e::h))
    (hu : p.Uses can) (hp : P h) : Follows fit ok (fun _ => P) p h := by
  induction p generalizing h with
  | done a => exact hp
  | call c next ih =>
    exact ⟨hok h c hu.1 hp,fun r w w' he => ih r (hu.2 r) (hkeep _ h hu.1 he hp)⟩

section Fallible

def OkThen (Q : α → History Call Reply W → Prop) : Except ε α → History Call Reply W → Prop
  | .ok a => Q a
  | .error _ => fun _ => True

def Tracks (fit : Event Call Reply W → Prop) (ok : History Call Reply W → Call → Prop)
    (Q : α → History Call Reply W → Prop) (x : Fallible Call Reply ε α)
    (h : History Call Reply W) : Prop := Follows fit ok (OkThen Q) x.run h

variable {Q : α → History Call Reply W → Prop} {R : β → History Call Reply W → Prop}
  {x : Fallible Call Reply ε α} {f : α → Fallible Call Reply ε β}

theorem tracks_bind (hx : Tracks fit ok Q x h) (hf : ∀ a h, Q a h → Tracks fit ok R (f a) h) :
    Tracks fit ok R (x >>= f) h := by
  unfold Tracks
  rw [run_bind]
  refine follows_bind hx ?_
  intro r h hr
  cases r with
  | ok a => exact hf a h hr
  | error e => trivial

theorem follows_try_bind {P : Except ε α → History Call Reply W → Prop}
    {Q : Except ε β → History Call Reply W → Prop} (hx : Follows fit ok P x.run h)
    (hf : ∀ a h, P (.ok a) h → Follows fit ok Q (f a).run h)
    (he : ∀ e h, P (.error e) h → Q (.error e) h) : Follows fit ok Q (x >>= f).run h := by
  rw [run_bind]
  refine follows_bind hx ?_
  intro r h hr
  cases r with
  | ok a => exact hf a h hr
  | error e => exact he e h hr

theorem tracks_mono {Q' : α → History Call Reply W → Prop} (hx : Tracks fit ok Q x h)
    (hq : ∀ a h, Q a h → Q' a h) : Tracks fit ok Q' x h := by
  refine follows_mono hx ?_
  intro r h hr
  cases r with
  | ok a => exact hq a h hr
  | error e => trivial

theorem tracks_require {c : Prop} [Decidable c] {e : ε} {f : Unit → Fallible Call Reply ε β}
    (hx : c → Tracks fit ok R (f ()) h) :
    Tracks fit ok R ((require c e : Fallible Call Reply ε Unit) >>= f) h := by
  refine tracks_bind (Q := fun _ h' => h' = h ∧ c) ?_ ?_
  · show OkThen (fun _ h' => h' = h ∧ c) (if c then .ok () else .error e) h
    split
    · rename_i hc
      exact ⟨rfl,hc⟩
    · trivial
  · rintro _ _ ⟨rfl,hc⟩
    exact hx hc

theorem tracks_pure {a : α} (hq : Q a h) :
    Tracks fit ok Q (pure a : Fallible Call Reply ε α) h := hq

theorem tracks_throw {e : ε} : Tracks fit ok Q (throw e : Fallible Call Reply ε α) h := trivial

theorem tracks_call {c : Call} {g : Reply c → Except ε α} (hc : ok h c)
    (hn : ∀ r w w', fit ⟨c,r,w,w'⟩ → ∀ a, g r = .ok a →
      Tracks fit ok R (f a) (⟨c,r,w,w'⟩::h)) :
    Tracks fit ok R
      ((ExceptT.mk (.call c fun r => .done (g r)) : Fallible Call Reply ε α) >>= f) h := by
  unfold Tracks
  rw [run_bind]
  refine ⟨hc,?_⟩
  intro r w w' he
  show Follows fit ok (OkThen R) (proceed f (g r)) _
  cases hg : g r with
  | ok a => exact hn r w w' he a hg
  | error e => trivial

theorem tracks_perform {c : Call} {f : Reply c → Fallible Call Reply ε β} (hc : ok h c)
    (hn : ∀ r w w', fit ⟨c,r,w,w'⟩ → Tracks fit ok R (f r) (⟨c,r,w,w'⟩::h)) :
    Tracks fit ok R ((perform (issue c) : Fallible Call Reply ε (Reply c)) >>= f) h := by
  unfold Tracks
  rw [run_bind]
  exact ⟨hc,hn⟩

theorem tracks_observed {R : Except ε α → History Call Reply W → Prop}
    (hx : Follows fit ok R x.run h) : Tracks fit ok R (observed x) h :=
  follows_bind hx (fun _ _ hr => hr)

theorem tracks_relabel {f : ε → ε} (hx : Tracks fit ok Q x h) : Tracks fit ok Q (relabel f x) h := by
  refine follows_bind hx ?_
  intro r h hr
  cases r with
  | ok a => exact hr
  | error e => trivial

theorem tracks_kept {can : Call → Prop} {P : History Call Reply W → Prop}
    (hok : ∀ h c, can c → P h → ok h c) (hkeep : ∀ e h, can e.call → fit e → P h → P (e::h))
    (hu : x.run.Uses can) (hp : P h) : Tracks fit ok (fun _ => P) x h := by
  refine follows_mono (follows_kept hok hkeep hu hp) ?_
  intro r h hp
  cases r with
  | ok a => exact hp
  | error e => trivial

theorem tracks_uses {can : Call → Prop} {P : History Call Reply W → Prop}
    (hok : ∀ h c, can c → P h → ok h c) (hkeep : ∀ e h, fit e → P h → P (e::h))
    (hu : x.run.Uses can) (hp : P h) : Tracks fit ok (fun _ => P) x h :=
  tracks_kept hok (fun e h _ => hkeep e h) hu hp

theorem tracks_rounds {σ : Type} {body : (σ → Fallible Call Reply ε α) → σ → Fallible Call Reply ε α}
    {expired : σ → Fallible Call Reply ε α} (he : ∀ s h, Tracks fit ok Q (expired s) h)
    (hb : ∀ k, (∀ s h, Tracks fit ok Q (k s) h) → ∀ s h, Tracks fit ok Q (body k s) h)
    (n : ℕ) (s : σ) (h : History Call Reply W) : Tracks fit ok Q (rounds body expired n s) h := by
  induction n generalizing s h with
  | zero => exact hb expired he s h
  | succ n ih => exact hb _ ih s h

theorem tracks_free {can : Call → Prop} (hok : ∀ h c, can c → ok h c) (hu : x.run.Uses can) :
    Tracks fit ok (fun _ _ => True) x h :=
  tracks_uses (fun h c hc _ => hok h c hc) (fun _ _ _ _ => trivial) hu trivial

end Fallible

section Work

variable {R : ι → Type} {S : Service Call Reply W} {progs : (i : ι) → Prog Call Reply (R i)}
  {I : W → Prop} {cond : ι → Event Call Reply W → Prop}
  {can : ι → History Call Reply W → Call → Prop}

/-- An event of the task in a state that satisfies the invariant. -/
structure Fits (S : Service Call Reply W) (I : W → Prop) (cond : ι → Event Call Reply W → Prop)
    (i : ι) (e : Event Call Reply W) : Prop where
  before : I e.before
  outcome : S.outcome e.call e.before e.reply e.after
  met : cond i e

def Allowed (I : W → Prop) (can : ι → History Call Reply W → Call → Prop)
    (x : Entry ι Call Reply W) : Prop :=
  I x.event.before ∧ ∃ h, can x.task h x.event.call

theorem runs_follows {i : ι} (henv : ∀ h w w', S.env h w w' → I w → I w')
    (hstep : ∀ h c w r w', Fits S I cond i ⟨c,r,w,w'⟩ → can i h c → I w')
    {c d : Config Call Reply W α} (hr : Runs S c d) (hc : I c.world)
    (hp : Follows (Fits S I cond i) (can i) (fun _ _ => True) c.prog c.hist)
    (hd : ∀ e ∈ d.hist, cond i e) :
    I d.world ∧ Follows (Fits S I cond i) (can i) (fun _ _ => True) d.prog d.hist ∧
      ∀ e ∈ d.hist, e ∈ c.hist ∨ I e.before ∧ ∃ h, can i h e.call := by
  induction hr with
  | refl => exact ⟨hc,hp,fun _ he => .inl he⟩
  | tail _ hs ih =>
    cases hs with
    | interfere he =>
      obtain ⟨hi,hf,ha⟩ := ih hd
      exact ⟨henv _ _ _ he hi,hf,ha⟩
    | @call h w w' c r next ho =>
      obtain ⟨hi,hf,ha⟩ := ih (fun e he => hd e (List.mem_cons_of_mem _ he))
      have hfit : Fits S I cond i ⟨c,r,w,w'⟩ := ⟨hi,ho,hd _ List.mem_cons_self⟩
      refine ⟨hstep h c w r w' hfit hf.1,hf.2 r w w' hfit,?_⟩
      intro e he
      rcases List.mem_cons.mp he with rfl | he
      · exact .inr ⟨hi,h,hf.1⟩
      · exact ha e he

theorem work_follows (henv : ∀ h w w', S.env h w w' → I w → I w')
    (hstep : ∀ i h c w r w', Fits S I cond i ⟨c,r,w,w'⟩ → can i h c → I w')
    (hprog : ∀ i, Follows (Fits S I cond i) (can i) (fun _ _ => True) (progs i) [])
    {a b : Stand ι Call Reply W} (hw : Work S progs a b) (ha : I a.world)
    (hb : ∀ x ∈ b.journal, cond x.task x.event) :
    I b.world ∧ ∀ x ∈ b.journal, x ∈ a.journal ∨ Allowed I can x := by
  induction hw with
  | refl => exact ⟨ha,fun _ hx => .inl hx⟩
  | @tail b d _ ht ih =>
    obtain ⟨i,q,h,hr,hj⟩ := ht
    rw [hj] at hb ⊢
    obtain ⟨hi,hall⟩ := ih (fun x hx => hb x (List.mem_append_right _ hx))
    have hcond : ∀ e ∈ h, cond i e := fun e he =>
      hb ⟨i,e⟩ (List.mem_append_left _ (List.mem_map_of_mem he))
    obtain ⟨hd,_,hnew⟩ := runs_follows henv (hstep i) hr hi (hprog i) hcond
    refine ⟨hd,?_⟩
    intro x hx
    rcases List.mem_append.mp hx with hx | hx
    · obtain ⟨e,he,rfl⟩ := List.mem_map.mp hx
      rcases hnew e he with he | he
      · cases he
      · exact .inr he
    · exact hall x hx

end Work

section Runs

variable {Q : α → History Call Reply W → Prop} {c d : Config Call Reply W α}
  {S : Service Call Reply W}

/-- What is shown of a program holds of its runs, whatever the service does. -/
theorem runs_follow (hr : Runs S c d)
    (hp : Follows (fun e => S.outcome e.call e.before e.reply e.after) ok Q c.prog c.hist) :
    Follows (fun e => S.outcome e.call e.before e.reply e.after) ok Q d.prog d.hist := by
  induction hr with
  | refl => exact hp
  | tail _ hs ih =>
    cases hs with
    | interfere _ => exact ih
    | call ho => exact ih.2 _ _ _ ho

/-- Each call of a run was allowed by the calls before it. -/
theorem runs_before (hr : Runs S c d) (hc : c.hist = [])
    (hp : Follows (fun e => S.outcome e.call e.before e.reply e.after) ok Q c.prog c.hist)
    {l m : History Call Reply W} {e : Event Call Reply W} (hd : d.hist = l ++ e::m) :
    ok m e.call := by
  induction hr generalizing l with
  | refl => simp [hc] at hd
  | tail hb hs ih =>
    cases hs with
    | interfere _ => exact ih hd
    | call ho =>
      cases l with
      | nil =>
        cases hd
        exact (runs_follow hb hp).1
      | cons x l => exact ih (List.cons.inj hd).2

/-- A call that stays allowed as the past grows was allowed when it was made. -/
theorem runs_allowed (hm : ∀ e h c, ok h c → ok (e::h) c) (hr : Runs S c d)
    (hp : Follows (fun e => S.outcome e.call e.before e.reply e.after) ok Q c.prog c.hist) :
    ∀ e ∈ d.hist, e ∈ c.hist ∨ ok d.hist e.call := by
  induction hr with
  | refl => exact fun _ he => .inl he
  | tail hb hs ih =>
    cases hs with
    | interfere _ => exact ih
    | @call h w w' k r next ho =>
      intro e he
      rcases List.mem_cons.mp he with rfl | he
      · exact .inr (hm _ h k (runs_follow hb hp).1)
      · exact (ih e he).imp_right (hm _ h _)

end Runs

section Systems

variable [DecidableEq ι]

/-- What is shown of a program holds of each process of a system, whatever the others do. -/
theorem moves_follow {S : Shared Call Reply W} {Q : α → History Call Reply W → Prop}
    {a b : System ι Call Reply W α} (hm : Moves S a b) (i : ι)
    (hp : Follows (fun e => S.outcome e.call e.before e.reply e.after) ok Q (a.procs i)
      (own i a.hist)) :
    Follows (fun e => S.outcome e.call e.before e.reply e.after) ok Q (b.procs i) (own i b.hist) := by
  induction hm with
  | refl => exact hp
  | @tail b d _ hs ih =>
    cases hs with
    | outside _ => exact ih
    | @call j c next r w' hproc ho =>
      by_cases hj : j = i
      · subst hj
        rw [hproc] at ih
        have hown : own j (b.advance j c next r w').hist = ⟨c,r,b.world,w'⟩::own j b.hist :=
          own_cons_self j _ _
        have hnext : (b.advance j c next r w').procs j = next r := Function.update_self j _ _
        rw [hown, hnext]
        exact ih.2 r b.world w' ho
      · have hown : own i (b.advance j c next r w').hist = own i b.hist := own_cons_ne hj _ _
        have hproc : (b.advance j c next r w').procs i = b.procs i :=
          Function.update_of_ne (Ne.symm hj) _ _
        rw [hown, hproc]
        exact ih

end Systems

end ProxmoxCSI.CallTracks
