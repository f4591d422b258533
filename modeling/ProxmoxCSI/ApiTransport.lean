import Mathlib.Data.Nat.Basic

/-!
# The transport of the Proxmox API

A read is sent again while its answer is worth repeating, up to a number of
attempts and as long as the context of the request lasts. Whatever changes state
is sent once. A status the client library ignores is rewritten, unless the body
says more than the status line.
-/

set_option autoImplicit false

namespace ProxmoxCSI.ApiTransport

/-- `ended` is set for a cancelled or expired context. -/
structure NetError where
  text : String
  ended : Bool
  deriving DecidableEq, Repr

/-- A body is read in full or fails. -/
structure Response where
  statusCode : ℤ
  status : String
  contentLength : ℤ
  body : Except NetError String

abbrev Answer := Except NetError Response

def retryable : Answer → Bool
  | .error e => !e.ended
  | .ok res =>
    if res.statusCode = 429 ∨ 500 ≤ res.statusCode then true
    else res.statusCode / 100 = 2 ∧ res.contentLength = 0

def understood (code : ℤ) : Prop := code = 400 ∨ code = 401 ∨ code = 403 ∨ code = 500 ∨ code = 501

instance (code : ℤ) : Decidable (understood code) := by unfold understood; infer_instance

section Request

variable (jsonValid : String → Bool)

def describeStatus (res : Response) : Answer :=
  if understood res.statusCode then .ok res
  else if res.statusCode < 400 then .ok res
  else match res.body with
    | .error e => .error ⟨"reading " ++ res.status ++ " response body: " ++ e.text,e.ended⟩
    | .ok body => if jsonValid body then .ok res else .ok { res with statusCode := 500 }

/-- How often the request was sent, and what is returned. -/
structure Exchange where
  sent : ℕ
  result : Answer

/-- The `n`-th answer of the base transport, and the end of the context during the back-off behind
it; both are counted from one. -/
structure Base where
  answer : ℕ → Answer
  cut : ℕ → Option NetError

def replay (b : Base) : ℕ → ℕ → Exchange
  | 0, attempt => ⟨attempt,b.answer attempt⟩
  | left+1, attempt =>
    if retryable (b.answer attempt) = false then ⟨attempt,b.answer attempt⟩
    else match b.cut attempt with
      | some e => ⟨attempt,.error e⟩
      | none => replay b left (attempt+1)

def roundTrip (attempts : ℤ) (method : String) (b : Base) : Exchange :=
  if method ≠ "GET" then ⟨1,b.answer 1 >>= describeStatus jsonValid⟩
  else
    let x := replay b ((max attempts 1).toNat-1) 1
    ⟨x.sent,x.result >>= describeStatus jsonValid⟩

end Request

/-- The loop from an attempt on: every answer but the last was worth repeating, and the last one is
returned, unless the context ended behind it. -/
structure Replays (b : Base) (first last : ℕ) (x : Exchange) : Prop where
  reached : first ≤ x.sent ∧ x.sent ≤ last
  repeated : ∀ n, first ≤ n → n < x.sent → retryable (b.answer n) = true ∧ b.cut n = none
  returned : ((x.sent = last ∨ retryable (b.answer x.sent) = false) ∧
      x.result = b.answer x.sent) ∨
    (x.sent < last ∧ retryable (b.answer x.sent) = true ∧ ∃ e, b.cut x.sent = some e ∧
      x.result = .error e)

theorem replay_replays (b : Base) (left attempt : ℕ) :
    Replays b attempt (attempt+left) (replay b left attempt) := by
  induction left generalizing attempt with
  | zero =>
    refine ⟨⟨Nat.le_refl _,Nat.le_refl _⟩,fun n h₁ h₂ => ?_,.inl ⟨.inl rfl,rfl⟩⟩
    simp only [replay] at h₂
    omega
  | succ left ih =>
    unfold replay
    split
    · rename_i hr
      refine ⟨⟨Nat.le_refl _,by simp⟩,fun n h₁ h₂ => ?_,.inl ⟨.inr hr,rfl⟩⟩
      simp only at h₂
      omega
    · rename_i hr
      have hr : retryable (b.answer attempt) = true := by simpa using hr
      split
      · rename_i e he
        refine ⟨⟨Nat.le_refl _,by simp⟩,fun n h₁ h₂ => ?_,.inr ⟨by simp,hr,e,he,rfl⟩⟩
        simp only at h₂
        omega
      · rename_i hn
        obtain ⟨⟨h₁,h₂⟩,hrep,hret⟩ := ih (attempt+1)
        have he : attempt+1+left = attempt+(left+1) := by omega
        rw [he] at h₂ hret
        refine ⟨⟨by omega,h₂⟩,?_,hret⟩
        intro n hn₁ hn₂
        by_cases h : n = attempt
        · subst h
          exact ⟨hr,hn⟩
        · exact hrep n (by omega) hn₂

variable {jsonValid : String → Bool} {res : Response}

theorem describeStatus_kept (h : understood res.statusCode ∨ res.statusCode < 400 ∨
    ∃ body, res.body = .ok body ∧ jsonValid body = true) : describeStatus jsonValid res = .ok res := by
  unfold describeStatus
  split
  · rfl
  · rename_i hu
    split
    · rfl
    · rename_i hlt
      rcases h with h | h | ⟨body,hb,hv⟩
      · exact absurd h hu
      · exact absurd h hlt
      · rw [hb]
        simp [hv]

theorem describeStatus_rewritten {body : String} (hu : ¬understood res.statusCode)
    (hs : ¬res.statusCode < 400) (hb : res.body = .ok body) (hv : jsonValid body = false) :
    describeStatus jsonValid res = .ok { res with statusCode := 500 } := by
  rw [describeStatus, if_neg hu, if_neg hs, hb]
  simp [hv]

/-- What a request is answered with: it was sent once unless it is a read, a read as often as its
answers were worth repeating, and only the last answer counts. -/
structure Disciplined (jsonValid : String → Bool) (attempts : ℤ) (method : String) (b : Base)
    (x : Exchange) : Prop where
  once : method ≠ "GET" → x.sent = 1 ∧ x.result = b.answer 1 >>= describeStatus jsonValid
  bounded : method = "GET" → 1 ≤ x.sent ∧ (x.sent : ℤ) ≤ max attempts 1
  least : method = "GET" → ∀ n, 1 ≤ n → n < x.sent → retryable (b.answer n) = true ∧ b.cut n = none
  answered : method = "GET" →
    (((x.sent : ℤ) = max attempts 1 ∨ retryable (b.answer x.sent) = false) ∧
      x.result = b.answer x.sent >>= describeStatus jsonValid) ∨
    (retryable (b.answer x.sent) = true ∧ (x.sent : ℤ) < max attempts 1 ∧
      ∃ e, b.cut x.sent = some e ∧ x.result = .error e)

theorem replay_discipline (jsonValid : String → Bool) (attempts : ℤ) (method : String) (b : Base) :
    Disciplined jsonValid attempts method b (roundTrip jsonValid attempts method b) ∧
    ∀ res : Response,
      (understood res.statusCode ∨ res.statusCode < 400 ∨
          (∃ body, res.body = .ok body ∧ jsonValid body = true) →
        describeStatus jsonValid res = .ok res) ∧
      ∀ body, ¬understood res.statusCode → ¬res.statusCode < 400 → res.body = .ok body →
        jsonValid body = false →
        describeStatus jsonValid res = .ok { res with statusCode := 500 } := by
  refine ⟨?_,fun res => ⟨describeStatus_kept,fun body => describeStatus_rewritten⟩⟩
  by_cases hm : method = "GET"
  · have hr := replay_replays b ((max attempts 1).toNat-1) 1
    have hlast : ((1+((max attempts 1).toNat-1) : ℕ) : ℤ) = max attempts 1 := by omega
    generalize hx : replay b ((max attempts 1).toNat-1) 1 = x at hr
    have he : roundTrip jsonValid attempts method b =
        ⟨x.sent,x.result >>= describeStatus jsonValid⟩ := by
      rw [roundTrip, if_neg (not_not_intro hm), hx]
    have hbound : (x.sent : ℤ) ≤ max attempts 1 := by
      have := hr.reached.2
      omega
    rw [he]
    refine ⟨fun h => absurd hm h,fun _ => ⟨hr.reached.1,hbound⟩,fun _ => hr.repeated,fun _ => ?_⟩
    rcases hr.returned with ⟨hlast',hres⟩ | ⟨hlt,hret,e,hc,hres⟩
    · refine .inl ⟨?_,by rw [hres]⟩
      rcases hlast' with h | h
      · exact .inl (h ▸ hlast)
      · exact .inr h
    · have hlt : (x.sent : ℤ) < max attempts 1 := by omega
      refine .inr ⟨hret,hlt,e,hc,?_⟩
      show x.result >>= _ = _
      rw [hres]
      rfl
  · have he : roundTrip jsonValid attempts method b =
        ⟨1,b.answer 1 >>= describeStatus jsonValid⟩ := by
      rw [roundTrip, if_pos hm]
    rw [he]
    exact ⟨fun _ => ⟨rfl,rfl⟩,fun h => absurd h hm,fun h => absurd h hm,fun h => absurd h hm⟩

/-- Two connection errors of the proxy, then an answer; and the third of three errors. -/
example :
    let failing : Response := ⟨596,"596 Connection error",0,.ok ""⟩
    let good : Response := ⟨200,"200 OK",2,.ok "[]"⟩
    (roundTrip (fun s => s == "[]") 3 "GET"
      ⟨fun n => if n = 3 then .ok good else .ok failing,fun _ => none⟩).sent = 3 ∧
    ((roundTrip (fun s => s == "[]") 3 "GET" ⟨fun _ => .ok failing,fun _ => none⟩).result.toOption.map
      (fun r => (r.statusCode,r.status))) = some (500,"596 Connection error") := by decide

end ProxmoxCSI.ApiTransport
