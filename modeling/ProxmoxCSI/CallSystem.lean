import Mathlib.Logic.Function.Basic
import ProxmoxCSI.CallErrors

/-!
# Several programs over one service

The processes of a system share the state of one service. A step is one call of
one process, or a step of a party that runs none of the programs; a process
that is never chosen again has crashed. What the others do between two calls of
a process is interference in a run of its own program.
-/

set_option autoImplicit false

namespace ProxmoxCSI.CallSystem
open CallProgram CallProgram.Prog CallSafety

variable {ι Call : Type} [DecidableEq ι] {Reply : Call → Type} {α W : Type}

/-- The history lists the calls of all processes, the latest first. -/
structure System (ι Call : Type) (Reply : Call → Type) (W α : Type) where
  hist : List (ι × Event Call Reply W)
  world : W
  procs : ι → Prog Call Reply α

structure Shared (Call : Type) (Reply : Call → Type) (W : Type) where
  outcome : (c : Call) → W → Reply c → W → Prop
  outside : W → W → Prop

def System.advance (s : System ι Call Reply W α) (i : ι) (c : Call)
    (next : Reply c → Prog Call Reply α) (r : Reply c) (w' : W) : System ι Call Reply W α :=
  ⟨(i,⟨c,r,s.world,w'⟩)::s.hist,w',Function.update s.procs i (next r)⟩

inductive Move (S : Shared Call Reply W) :
    System ι Call Reply W α → System ι Call Reply W α → Prop
  | outside {s : System ι Call Reply W α} {w' : W} (ho : S.outside s.world w') :
      Move S s { s with world := w' }
  | call {s : System ι Call Reply W α} (i : ι) {c : Call} {next : Reply c → Prog Call Reply α}
      {r : Reply c} {w' : W} (hp : s.procs i = .call c next) (ho : S.outcome c s.world r w') :
      Move S s (s.advance i c next r w')

def Trace (S : Shared Call Reply W)
    (admitted : System ι Call Reply W α → System ι Call Reply W α → Prop) :
    System ι Call Reply W α → System ι Call Reply W α → Prop :=
  Relation.ReflTransGen (fun a b => Move S a b ∧ admitted a b)

def Moves (S : Shared Call Reply W) : System ι Call Reply W α → System ι Call Reply W α → Prop :=
  Relation.ReflTransGen (Move S)

variable {admitted : System ι Call Reply W α → System ι Call Reply W α → Prop}
  {a b : System ι Call Reply W α} {S : Shared Call Reply W}

theorem trace_moves (h : Trace S admitted a b) : Moves S a b := by
  induction h with
  | refl => exact .refl
  | tail _ hs ih => exact ih.tail hs.1

theorem moves_trace (hadm : ∀ s s', admitted s s') (h : Moves S a b) : Trace S admitted a b := by
  induction h with
  | refl => exact .refl
  | tail _ hs ih => exact ih.tail ⟨hs,hadm _ _⟩

def own (i : ι) (h : List (ι × Event Call Reply W)) : History Call Reply W :=
  h.filterMap (fun e => if e.1 = i then some e.2 else none)

theorem own_cons_self (i : ι) (e : Event Call Reply W) (h : List (ι × Event Call Reply W)) :
    own i ((i,e)::h) = e::own i h := by
  simp [own]

theorem own_cons_ne {i j : ι} (hj : j ≠ i) (e : Event Call Reply W)
    (h : List (ι × Event Call Reply W)) : own i ((j,e)::h) = own i h := by
  simp [own, hj]

theorem mem_own {i : ι} {e : Event Call Reply W} {h : List (ι × Event Call Reply W)} :
    e ∈ own i h ↔ (i,e) ∈ h := by
  simp only [own, List.mem_filterMap, Option.ite_none_right_eq_some, Option.some.injEq]
  constructor
  · rintro ⟨⟨j,e'⟩,hm,rfl,rfl⟩
    exact hm
  · intro hm
    exact ⟨(i,e),hm,rfl,rfl⟩

/-- A run of a system is a run of each of its programs, as long as `env` allows
what happens between two calls of that program. -/
theorem trace_runs {env : History Call Reply W → W → W → Prop} (i : ι)
    (hout : ∀ s w', Trace S admitted a s → S.outside s.world w' →
      admitted s { s with world := w' } → env (own i s.hist) s.world w')
    (hcall : ∀ s j c next r w', Trace S admitted a s → j ≠ i → s.procs j = .call c next →
      S.outcome c s.world r w' → admitted s (s.advance j c next r w') →
      env (own i s.hist) s.world w') (h : Trace S admitted a b) :
    Runs ⟨S.outcome,env⟩ ⟨own i a.hist,a.world,a.procs i⟩ ⟨own i b.hist,b.world,b.procs i⟩ := by
  induction h with
  | refl => exact .refl
  | @tail b d hab hs ih =>
    obtain ⟨hm,ha⟩ := hs
    cases hm with
    | outside ho => exact ih.tail (.interfere (hout _ _ hab ho ha))
    | @call j c next r w' hp ho =>
      by_cases hj : j = i
      · subst hj
        rw [hp] at ih
        have hown : own j (b.advance j c next r w').hist = ⟨c,r,b.world,w'⟩::own j b.hist :=
          own_cons_self j _ _
        have hproc : (b.advance j c next r w').procs j = next r := Function.update_self j _ _
        rw [hown, hproc]
        exact ih.tail (.call ho)
      · have hown : own i (b.advance j c next r w').hist = own i b.hist := own_cons_ne hj _ _
        have hproc : (b.advance j c next r w').procs i = b.procs i :=
          Function.update_of_ne (Ne.symm hj) _ _
        rw [hown, hproc]
        exact ih.tail (.interfere (hcall b j c next r w' hab hj hp ho ha))

/-- Without a restriction on the others, anything may happen between two calls. -/
theorem moves_runs (i : ι) (h : Moves S a b) :
    Runs ⟨S.outcome,fun _ _ _ => True⟩ ⟨own i a.hist,a.world,a.procs i⟩
      ⟨own i b.hist,b.world,b.procs i⟩ := by
  have ht : Trace S (fun _ _ => True) a b := moves_trace (fun _ _ => trivial) h
  exact trace_runs i (fun _ _ _ _ _ => trivial) (fun _ _ _ _ _ _ _ _ _ _ _ => trivial) ht

section Play

variable (answer : (c : Call) → W → Reply c × W)

def play : List ι → System ι Call Reply W α → System ι Call Reply W α
  | [], s => s
  | i::is, s => match s.procs i with
    | .done _ => play is s
    | .call c next => play is (s.advance i c next (answer c s.world).1 (answer c s.world).2)

theorem play_moves {S : Shared Call Reply W}
    (hs : ∀ c w, S.outcome c w (answer c w).1 (answer c w).2) (is : List ι)
    (s : System ι Call Reply W α) : Moves S s (play answer is s) := by
  induction is generalizing s with
  | nil => exact .refl
  | cons i is ih =>
    unfold play
    split
    · exact ih s
    · rename_i c next hp
      exact (Relation.ReflTransGen.single (.call i hp (hs c s.world))).trans (ih _)

theorem play_single {s : System ι Call Reply W α} {i : ι} {c : Call}
    {next : Reply c → Prog Call Reply α} (hp : s.procs i = .call c next) :
    play answer [i] s = s.advance i c next (answer c s.world).1 (answer c s.world).2 := by
  simp only [play, hp]

def waiting (p : Prog Call Reply α) : Bool :=
  match p with
  | .done _ => false
  | .call _ _ => true

theorem waiting_call {p : Prog Call Reply α} (h : waiting p) : ∃ c next, p = .call c next := by
  cases p with
  | done a => cases h
  | call c next => exact ⟨c,next,rfl⟩

def succeeded {ε : Type} (p : Prog Call Reply (Except ε α)) : Bool :=
  match p with
  | .done (.ok _) => true
  | _ => false

theorem succeeded_done {ε : Type} {p : Prog Call Reply (Except ε α)} (h : succeeded p) :
    ∃ a, p = .done (.ok a) := by
  unfold succeeded at h
  split at h
  · exact ⟨_,rfl⟩
  · cases h

end Play

end ProxmoxCSI.CallSystem
