import ProxmoxCSI.CallSessions
import ProxmoxCSI.CallSchedule

/-!
# Journals of sessions

Tasks are run one after the other, each to its end or to the point where it is
stopped. The journal lists their calls with the task that made them, the latest
first. A condition on a journal speaks of every entry and of what was entered
before it.
-/

set_option autoImplicit false

namespace ProxmoxCSI.CallJournal
open CallProgram CallProgram.Prog CallSafety CallErrors CallTriples CallSessions CallSchedule

variable {ι Call : Type} {Reply : Call → Type} {R : ι → Type} {W : Type}

structure Entry (ι Call : Type) (Reply : Call → Type) (W : Type) where
  task : ι
  event : Event Call Reply W

abbrev Journal (ι Call : Type) (Reply : Call → Type) (W : Type) := List (Entry ι Call Reply W)

def enter (i : ι) (h : History Call Reply W) : Journal ι Call Reply W := h.map (Entry.mk i)

structure Stand (ι Call : Type) (Reply : Call → Type) (W : Type) where
  journal : Journal ι Call Reply W
  world : W

def Turn (S : Service Call Reply W) (progs : (i : ι) → Prog Call Reply (R i))
    (a b : Stand ι Call Reply W) : Prop :=
  ∃ i q h, Runs S ⟨[],a.world,progs i⟩ ⟨h,b.world,q⟩ ∧ b.journal = enter i h ++ a.journal

def Work (S : Service Call Reply W) (progs : (i : ι) → Prog Call Reply (R i)) :
    Stand ι Call Reply W → Stand ι Call Reply W → Prop := Relation.ReflTransGen (Turn S progs)

def During (I : Journal ι Call Reply W → W → Prop) (i : ι) (l : Journal ι Call Reply W) :
    Assertion Call Reply W := fun h w => I (enter i h ++ l) w

theorem work_invariant {S : Service Call Reply W} {progs : (i : ι) → Prog Call Reply (R i)}
    {I : Journal ι Call Reply W → W → Prop}
    (hsafe : ∀ i l w, I l w → Safe S (During I i l) (fun _ _ _ => True) (progs i) [] w)
    {a b : Stand ι Call Reply W} (h : Work S progs a b) (ha : I a.journal a.world) :
    I b.journal b.world := by
  induction h with
  | refl => exact ha
  | tail _ hv ih =>
    obtain ⟨i,q,h,hr,hj⟩ := hv
    rw [hj]
    exact safe_invariant hr (hsafe i _ _ ih)

section Turns

def turn (σ : Schedule Call Reply W) (progs : (i : ι) → Prog Call Reply (R i))
    (a : Stand ι Call Reply W) (i : ι) : Stand ι Call Reply W :=
  let f := finish σ (progs i) [] a.world
  ⟨enter i f.hist ++ a.journal,f.world⟩

def turns (σ : Schedule Call Reply W) (progs : (i : ι) → Prog Call Reply (R i))
    (a : Stand ι Call Reply W) (is : List ι) : Stand ι Call Reply W := is.foldl (turn σ progs) a

variable {σ : Schedule Call Reply W}

theorem turns_work {S : Service Call Reply W} (hσ : Lawful S σ)
    (progs : (i : ι) → Prog Call Reply (R i)) (a : Stand ι Call Reply W) (is : List ι) :
    Work S progs a (turns σ progs a is) := by
  induction is generalizing a with
  | nil => exact .refl
  | cons i is ih =>
    have ht : Turn S progs a (turn σ progs a i) :=
      ⟨i,_,_,finish_runs hσ (progs i) [] a.world,rfl⟩
    exact (Relation.ReflTransGen.single ht).trans (ih _)

theorem turns_events {P : Event Call Reply W → Prop}
    (hP : ∀ n c w, P ⟨c,(σ.answer n c w).1,w,(σ.answer n c w).2⟩)
    (progs : (i : ι) → Prog Call Reply (R i)) {a : Stand ι Call Reply W} (is : List ι)
    (ha : ∀ x ∈ a.journal, P x.event) : ∀ x ∈ (turns σ progs a is).journal, P x.event := by
  induction is generalizing a with
  | nil => exact ha
  | cons i is ih =>
    refine ih ?_
    intro x hx
    rcases List.mem_append.mp hx with hx | hx
    · obtain ⟨e,he,rfl⟩ := List.mem_map.mp hx
      exact finish_events hP (progs i) (by simp) e he
    · exact ha x hx

theorem turns_journal (σ : Schedule Call Reply W) (progs : (i : ι) → Prog Call Reply (R i))
    (a : Stand ι Call Reply W) (is : List ι) : a.journal <:+ (turns σ progs a is).journal := by
  induction is generalizing a with
  | nil => exact List.suffix_rfl
  | cons i is ih => exact (List.suffix_append _ _).trans (ih (turn σ progs a i))

def mapEntry (f : W → W) (x : Entry ι Call Reply W) : Entry ι Call Reply W :=
  ⟨x.task,mapEvent f x.event⟩

/-- A map of the worlds that the schedule does not notice maps the work. -/
theorem turns_map {f : W → W} {p : Call → Prop} (ho : ∀ n w, σ.others n (f w) = f (σ.others n w))
    (ha : ∀ n c w, p c → σ.answer n c (f w) = ((σ.answer n c w).1,f (σ.answer n c w).2))
    (progs : (i : ι) → Prog Call Reply (R i)) (a : Stand ι Call Reply W) (is : List ι)
    (hok : ∀ x ∈ (turns σ progs a is).journal, p x.event.call) :
    turns σ progs ⟨a.journal.map (mapEntry f),f a.world⟩ is =
      ⟨(turns σ progs a is).journal.map (mapEntry f),f (turns σ progs a is).world⟩ := by
  induction is generalizing a with
  | nil => rfl
  | cons i is ih =>
    have hsub : ∀ x ∈ (turn σ progs a i).journal, x ∈ (turns σ progs a (i::is)).journal :=
      fun x hx => (turns_journal σ progs (turn σ progs a i) is).subset hx
    have hf : finish σ (progs i) [] (f a.world) = _ := finish_map ho ha (progs i) [] a.world (by
      intro e he
      exact hok ⟨i,e⟩ (hsub _ (List.mem_append_left _ (List.mem_map_of_mem he))))
    have ht : turn σ progs ⟨a.journal.map (mapEntry f),f a.world⟩ i =
        ⟨(turn σ progs a i).journal.map (mapEntry f),f (turn σ progs a i).world⟩ := by
      simp only [turn, hf, enter, List.map_append, List.map_map]
      rfl
    show turns σ progs (turn σ progs ⟨a.journal.map (mapEntry f),f a.world⟩ i) is = _
    rw [ht]
    exact ih (turn σ progs a i) hok

end Turns

section Conditions

variable {p q : Entry ι Call Reply W → Journal ι Call Reply W → Prop}
  {l : Journal ι Call Reply W} {x : Entry ι Call Reply W}

def Every (p : Entry ι Call Reply W → Journal ι Call Reply W → Prop) :
    Journal ι Call Reply W → Prop
  | [] => True
  | x::l => p x l ∧ Every p l

theorem every_get (h : Every p l) (k : Fin l.length) : p (l.get k) (l.drop (k+1)) := by
  induction l with
  | nil => exact k.elim0
  | cons y l ih =>
    cases k using Fin.cases with
    | zero => exact h.1
    | succ k => exact ih h.2 k

theorem every_mem (h : Every p l) (hx : x ∈ l) : ∃ j, p x j := by
  induction l with
  | nil => cases hx
  | cons y l ih =>
    rcases List.mem_cons.mp hx with rfl | hx
    · exact ⟨l,h.1⟩
    · exact ih h.2 hx

theorem every_of_forall (h : ∀ x ∈ l, ∀ j, p x j) : Every p l := by
  induction l with
  | nil => trivial
  | cons y l ih =>
    exact ⟨h y List.mem_cons_self l,ih (fun x hx => h x (List.mem_cons_of_mem y hx))⟩

def tested (f : Entry ι Call Reply W → Journal ι Call Reply W → Bool) :
    Journal ι Call Reply W → Bool
  | [] => true
  | x::l => f x l && tested f l

theorem every_tested {f : Entry ι Call Reply W → Journal ι Call Reply W → Bool}
    (hf : ∀ x ∈ l, ∀ j, f x j → p x j) (h : tested f l) : Every p l := by
  induction l with
  | nil => trivial
  | cons y l ih =>
    obtain ⟨hy,hl⟩ := Bool.and_eq_true_iff.mp h
    exact ⟨hf y List.mem_cons_self l hy,ih (fun x hx => hf x (List.mem_cons_of_mem y hx)) hl⟩

def Latest (A B : Entry ι Call Reply W → Prop) : Journal ι Call Reply W → Prop
  | [] => False
  | x::l => A x ∧ B x ∨ ¬A x ∧ Latest A B l

variable {A B : Entry ι Call Reply W → Prop}

theorem latest_keep (hx : ¬A x) (h : Latest A B l) : Latest A B (x::l) := .inr ⟨hx,h⟩

theorem latest_exists (h : Latest A B l) : ∃ x ∈ l, A x ∧ B x := by
  induction l with
  | nil => cases h
  | cons y l ih =>
    rcases h with h | ⟨_,h⟩
    · exact ⟨y,List.mem_cons_self,h⟩
    · obtain ⟨x,hx,hp⟩ := ih h
      exact ⟨x,List.mem_cons_of_mem y hx,hp⟩

theorem latest_here (hx : A x) (hb : B x) : Latest A B (x::l) := .inl ⟨hx,hb⟩

end Conditions

section Given

def Given (cond : Entry ι Call Reply W → Journal ι Call Reply W → Prop)
    (P : Journal ι Call Reply W → W → Prop) (i : ι) (l : Journal ι Call Reply W) :
    Assertion Call Reply W := During (fun j w => Every cond j → P j w) i l

variable {S : Service Call Reply W} {α ε : Type}
  {cond : Entry ι Call Reply W → Journal ι Call Reply W → Prop}
  {G P P' : Journal ι Call Reply W → W → Prop} {Q : α → Journal ι Call Reply W → W → Prop} {i : ι}
  {l : Journal ι Call Reply W}

/-- Once an entry has failed the condition nothing is left to show. -/
theorem safe_void {R : α → Assertion Call Reply W}
    (hR : ∀ a h w, ¬Every cond (enter i h ++ l) → R a h w) (p : Prog Call Reply α)
    {h : History Call Reply W} {w : W} (hn : ¬Every cond (enter i h ++ l)) :
    Safe S (Given cond G i l) R p h w := by
  induction p generalizing h w with
  | done a => exact fun w₁ _ => ⟨fun he => absurd he hn,hR a h w₁ hn⟩
  | call c next ih =>
    intro w₁ _
    exact ⟨fun he => absurd he hn,fun r w₂ _ => ih r (fun he => hn he.2)⟩

variable {x : Fallible Call Reply ε α}

theorem triple_given
    (hx : ∀ h w, Every cond (enter i h ++ l) → P (enter i h ++ l) w →
      Safe S (Given cond G i l) (OnOk (fun a => Given cond (Q a) i l)) x.run h w) :
    Triple S (Given cond G i l) (Given cond P i l) x (fun a => Given cond (Q a) i l) := by
  intro h w hw
  by_cases he : Every cond (enter i h ++ l)
  · exact hx h w he (hw he)
  · refine safe_void ?_ x.run he
    intro r h w hn
    cases r with
    | ok a => exact fun he => absurd he hn
    | error e => trivial

theorem triple_given_mono {Q' : α → Journal ι Call Reply W → W → Prop}
    (hx : Triple S (Given cond G i l) (Given cond P i l) x (fun a => Given cond (Q a) i l))
    (hP : ∀ j w, P' j w → P j w) (hQ : ∀ a j w, Q a j w → Q' a j w) :
    Triple S (Given cond G i l) (Given cond P' i l) x (fun a => Given cond (Q' a) i l) :=
  triple_mono hx (fun _ _ h he => hP _ _ (h he)) (fun _ _ _ h he => hQ _ _ _ (h he))

theorem triple_given_fact {c : Prop}
    (hx : c → Triple S (Given cond G i l) (Given cond P i l) x (fun a => Given cond (Q a) i l)) :
    Triple S (Given cond G i l) (Given cond (fun j w => P j w ∧ c) i l) x
      (fun a => Given cond (Q a) i l) :=
  triple_given (fun h w _ hp => hx hp.2 h w (fun _ => hp.1))

theorem triple_given_pure (hS : Calm S) {a : α} (hP : ∀ j w, P j w → G j w ∧ Q a j w) :
    Triple S (Given cond G i l) (Given cond P i l) (pure a : Fallible Call Reply ε α)
      (fun a => Given cond (Q a) i l) :=
  triple_pure (calm_steady hS (fun _ _ h he => (hP _ _ (h he)).1))
    (fun _ _ h he => (hP _ _ (h he)).2)

theorem triple_given_throw (hS : Calm S) {e : ε} (hP : ∀ j w, P j w → G j w) :
    Triple S (Given cond G i l) (Given cond P i l) (throw e : Fallible Call Reply ε α)
      (fun a => Given cond (Q a) i l) :=
  triple_throw (calm_steady hS (fun _ _ h he => hP _ _ (h he)))

theorem triple_given_call (hS : Calm S) {c : Call} {g : Reply c → Except ε α}
    (hP : ∀ j w, P j w → G j w)
    (ho : ∀ j w r w', P j w → S.outcome c w r w' → cond ⟨i,⟨c,r,w,w'⟩⟩ j →
      G (⟨i,⟨c,r,w,w'⟩⟩::j) w' ∧ ∀ a, g r = .ok a → Q a (⟨i,⟨c,r,w,w'⟩⟩::j) w') :
    Triple S (Given cond G i l) (Given cond P i l)
      (ExceptT.mk (.call c fun r => .done (g r)) : Fallible Call Reply ε α)
      (fun a => Given cond (Q a) i l) := by
  refine triple_calm_call hS (fun h w hw he => hP _ _ (hw he)) ?_
  intro h w r w' hw hr
  exact ⟨fun he => (ho _ w r w' (hw he.2) hr he.1).1,
    fun a ha he => (ho _ w r w' (hw he.2) hr he.1).2 a ha⟩

theorem triple_given_uses (hS : Calm S) {ok : Call → Prop} (hP : ∀ j w, P j w → G j w)
    (hcall : ∀ c j w r w', ok c → S.outcome c w r w' → P j w → cond ⟨i,⟨c,r,w,w'⟩⟩ j →
      P (⟨i,⟨c,r,w,w'⟩⟩::j) w') (hu : x.run.Uses ok) :
    Triple S (Given cond G i l) (Given cond P i l) x (fun _ => Given cond P i l) :=
  triple_uses (calm_steady hS (fun _ _ h he => hP _ _ (h he)))
    (fun c _ w r w' hc ho h he => hcall c _ w r w' hc ho (h he.2) he.1) hu

/-- What every task keeps holds after all work of which the entries meet the condition. -/
theorem work_given {progs : (i : ι) → Prog Call Reply (R i)}
    (hsafe : ∀ i l w, (Every cond l → G l w) →
      Safe S (Given cond G i l) (fun _ _ _ => True) (progs i) [] w)
    {a b : Stand ι Call Reply W} (h : Work S progs a b) (ha : G a.journal a.world)
    (hb : Every cond b.journal) : G b.journal b.world :=
  work_invariant (I := fun j w => Every cond j → G j w) hsafe h (fun _ => ha) hb

theorem triple_task {w : W}
    (hx : Triple S (Given cond G i l) (Given cond G i l) x (fun a => Given cond (Q a) i l))
    (hw : Every cond l → G l w) : Safe S (Given cond G i l) (fun _ _ _ => True) x.run [] w :=
  safe_mono (hx [] w hw) (fun _ _ h => h) (fun _ _ _ _ _ => trivial)

end Given

end ProxmoxCSI.CallJournal
