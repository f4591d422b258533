import ProxmoxCSI.OperatorRecords
import ProxmoxCSI.DirectCalls

/-!
# Tokens and the tenants they speak for

The tenant of a request is chosen by claims that nobody has verified yet, and the
verifier by a key that joins issuer and client with a bar. Two pairs may have one
key. A verifier for the wrong issuer refuses the token all the same, because the
issuer it was built for is not the one the token names.
-/

set_option autoImplicit false

namespace ProxmoxCSI.TokenAuthentication
open TextScan OperatorRecords
open DirectCalls (RpcError Code status)

section Claims

structure JwtClaims where
  issuer : String
  azp : String
  audience : List String
  deriving DecidableEq

/-- The audience as the payload has it; null reads as the empty text. -/
inductive AudienceValue where
  | text (s : String)
  | texts (ss : List String)
  | other (error : String)
  deriving DecidableEq

structure Payload where
  iss : String
  azp : String
  aud : Option AudienceValue
  deriving DecidableEq

/-- How a part of a token is decoded. -/
structure Codec where
  base64 : String → Except String String
  json : String → Except String Payload

def audienceOf : Option AudienceValue → Except String (List String)
  | none => .ok []
  | some (.text s) => .ok [s]
  | some (.texts ss) => .ok ss
  | some (.other error) => .error error

def unmarshal (k : Codec) (payload : String) : Except String JwtClaims := do
  let p ← k.json payload
  let audience ← audienceOf p.aud
  pure ⟨p.iss,p.azp,audience⟩

def parseUnverifiedClaims (k : Codec) (rawToken : String) : Except String JwtClaims :=
  match split rawToken '.' with
  | [_,payload,_] => match k.base64 payload with
    | .error e => .error ("decoding payload: " ++ e)
    | .ok payload => (unmarshal k payload).mapError (fun e => "unmarshalling claims: " ++ e)
  | parts => .error ("token must have 3 parts, got " ++ toString parts.length)

def audienceContains (aud : List String) (target : String) : Bool := aud.any (fun a => a = target)

def refuse (text : String) : RpcError := status .unauthenticated text

def bearer : Option (List String) → Except RpcError String
  | none => .error (refuse "missing metadata")
  | some [] => .error (refuse "missing authorization header")
  | some (token::_) => if hasPrefix token "Bearer " then .ok (trimPrefix token "Bearer ")
      else .error (refuse "authorization header must be Bearer")

def unverified (k : Codec) (rawToken : String) : Except RpcError JwtClaims :=
  match parseUnverifiedClaims k rawToken with
  | .error e => .error (refuse ("invalid token: " ++ e))
  | .ok claims =>
    if claims.issuer = "" then .error (refuse "token has no issuer")
    else if claims.azp = "" then .error (refuse "token has no azp claim")
    else if ¬audienceContains claims.audience claims.azp then
      .error (refuse "aud must contain azp")
    else .ok claims

end Claims

section Tenants

def subjectOf (azp : String) : String := "pvx:" ++ azp

def registrationsOf (issuer subject : String) (ts : List TenantCluster) : List TenantCluster :=
  ts.filter (fun t => t.issuer = issuer ∧ t.subject = subject)

def chosenTenant (issuer subject : String) : List TenantCluster → Except RpcError TenantCluster
  | [] => .error (status .permissionDenied ("no tenant matches issuer " ++ issuer ++
      " and subject " ++ subject))
  | [t] => if isStatusConditionTrue t.conditions .admitted then .ok t
      else .error (status .permissionDenied ("tenant " ++ t.name ++ " is not admitted"))
  | ts => .error (status .permissionDenied ("ambiguous: " ++ toString ts.length ++
      " tenants match issuer " ++ issuer ++ " and subject " ++ subject))

def resolveTenant (tenants : Except Fault (List TenantCluster)) (issuer azp : String) :
    Except RpcError TenantCluster :=
  match tenants with
  | .error e => .error (status .internal ("listing tenants: " ++ e.text))
  | .ok ts => chosenTenant issuer (subjectOf azp) (registrationsOf issuer (subjectOf azp) ts)

end Tenants

section Verifiers

structure Verifier where
  issuer : String
  clientID : String
  deriving DecidableEq, Repr

abbrev Verifiers := AList (fun _ : String => Verifier)

def verifierKey (issuer azpAudience : String) : String := issuer ++ "|" ++ azpAudience

/-- What a signature stands for. -/
structure Trust where
  codec : Codec
  Signed : String → String → Prop

/-- What the cluster and the issuers answer during one call. A verifier accepts a token
only if its issuer signed it and the token names that issuer and the verifier's client. -/
structure Moment (T : Trust) where
  tenants : Except Fault (List TenantCluster)
  discover : String → Except String Unit
  verify : Verifier → String → Except String Unit
  signed : ∀ {v rawToken}, verify v rawToken = .ok () → T.Signed v.issuer rawToken
  named : ∀ {v rawToken claims}, verify v rawToken = .ok () →
    parseUnverifiedClaims T.codec rawToken = .ok claims →
    claims.issuer = v.issuer ∧ v.clientID ∈ claims.audience

variable {T : Trust}

def getVerifier (m : Moment T) (cache : Verifiers) (issuer azpAudience : String) :
    Except String Verifier × Verifiers :=
  match cache.lookup (verifierKey issuer azpAudience) with
  | some v => (.ok v,cache)
  | none => match m.discover issuer with
    | .error e => (.error ("OIDC discovery for " ++ issuer ++ ": " ++ e),cache)
    | .ok _ => (.ok ⟨issuer,azpAudience⟩,
        cache.insert (verifierKey issuer azpAudience) ⟨issuer,azpAudience⟩)

end Verifiers

section Calls

variable {T : Trust}

/-- What is known of the caller before the signature is checked. -/
structure Caller where
  rawToken : String
  claims : JwtClaims
  tenant : TenantCluster

def callerOf (m : Moment T) (md : Option (List String)) : Except RpcError Caller := do
  let rawToken ← bearer md
  let claims ← unverified T.codec rawToken
  let tenant ← resolveTenant m.tenants claims.issuer claims.azp
  pure ⟨rawToken,claims,tenant⟩

def verifiedBy (m : Moment T) (caller : Caller) : Except String Verifier →
    Except RpcError TenantCluster
  | .error e => .error (refuse ("OIDC verification failed: " ++ e))
  | .ok v => match m.verify v caller.rawToken with
    | .error e => .error (refuse ("token verification failed: " ++ e))
    | .ok _ => .ok caller.tenant

def authenticate (m : Moment T) (cache : Verifiers) (md : Option (List String)) :
    Except RpcError TenantCluster × Verifiers :=
  match callerOf m md with
  | .error e => (.error e,cache)
  | .ok caller =>
    let (v,cache) := getVerifier m cache caller.claims.issuer caller.claims.azp
    (verifiedBy m caller v,cache)

def cacheAfter (calls : List (Moment T × Option (List String))) : Verifiers :=
  calls.foldl (fun cache call => (authenticate call.1 cache call.2).2) ∅

end Calls

section Cache

variable {T : Trust} {m : Moment T} {cache : Verifiers} {issuer azp key : String} {v : Verifier}

def Keyed (cache : Verifiers) : Prop :=
  ∀ key v, cache.lookup key = some v → key = verifierKey v.issuer v.clientID

theorem getVerifier_keyed (h : Keyed cache) : Keyed (getVerifier m cache issuer azp).2 := by
  unfold getVerifier
  split
  · exact h
  · split
    · exact h
    · intro key v hl
      by_cases hk : key = verifierKey issuer azp
      · subst hk
        rw [AList.lookup_insert] at hl
        cases hl
        rfl
      · rw [AList.lookup_insert_ne hk] at hl
        exact h key v hl

theorem getVerifier_key (h : Keyed cache) (hv : (getVerifier m cache issuer azp).1 = .ok v) :
    verifierKey issuer azp = verifierKey v.issuer v.clientID := by
  unfold getVerifier at hv
  split at hv
  · rename_i hu
    cases hv
    exact h _ _ hu
  · split at hv
    · cases hv
    · cases hv
      rfl

theorem authenticate_keyed (md : Option (List String)) (h : Keyed cache) :
    Keyed (authenticate m cache md).2 := by
  unfold authenticate
  split
  · exact h
  · exact getVerifier_keyed h

theorem cacheAfter_keyed (calls : List (Moment T × Option (List String))) :
    Keyed (cacheAfter calls) := by
  suffices h : ∀ cache, Keyed cache → Keyed (calls.foldl
      (fun cache call => (authenticate call.1 cache call.2).2) cache) from
    h ∅ (fun _ _ hl => by cases hl)
  induction calls with
  | nil => exact fun cache h => h
  | cons call calls ih => exact fun cache h => ih _ (authenticate_keyed call.2 h)

/-- Two pairs with one key and one issuer are one pair. -/
theorem verifierKey_client {clientID : String} (h : verifierKey issuer azp = verifierKey issuer
    clientID) :
    azp = clientID := by
  unfold verifierKey at h
  rw [String.append_assoc, String.append_assoc] at h
  exact String.append_right_inj _ |>.mp (String.append_right_inj _ |>.mp h)

example : verifierKey "https://a" "b|c" = verifierKey "https://a|b" "c" := by decide

end Cache

section Sound

variable {T : Trust} {m : Moment T} {md : Option (List String)} {caller : Caller}
  {t : TenantCluster} {ts : List TenantCluster}

theorem unverified_ok {k : Codec} {rawToken : String} {claims : JwtClaims}
    (h : unverified k rawToken = .ok claims) :
    parseUnverifiedClaims k rawToken = .ok claims ∧ claims.azp ∈ claims.audience := by
  unfold unverified at h
  split at h
  · cases h
  · rename_i c hc
    split at h
    · cases h
    · split at h
      · cases h
      · split at h
        · cases h
        · rename_i ha
          cases h
          exact ⟨hc,by simpa [audienceContains] using ha⟩

theorem resolveTenant_ok {tenants : Except Fault (List TenantCluster)} {issuer azp : String}
    (h : resolveTenant tenants issuer azp = .ok t) : ∃ ts, tenants = .ok ts ∧
      registrationsOf issuer (subjectOf azp) ts = [t] ∧
      isStatusConditionTrue t.conditions .admitted := by
  unfold resolveTenant at h
  split at h
  · cases h
  · rename_i ts
    refine ⟨ts,rfl,?_⟩
    unfold chosenTenant at h
    split at h
    · cases h
    · rename_i u hu
      split at h
      · rename_i ha
        cases h
        exact ⟨hu,ha⟩
      · cases h
    · cases h

theorem callerOf_ok (h : callerOf m md = .ok caller) : bearer md = .ok caller.rawToken ∧
    unverified T.codec caller.rawToken = .ok caller.claims ∧
    resolveTenant m.tenants caller.claims.issuer caller.claims.azp = .ok caller.tenant := by
  unfold callerOf at h
  cases hb : bearer md with
  | error e =>
    rw [hb] at h
    cases h
  | ok rawToken =>
    rw [hb] at h
    cases hu : unverified T.codec rawToken with
    | error e =>
      simp only [bind, Except.bind, hu] at h
      cases h
    | ok claims =>
      cases hr : resolveTenant m.tenants claims.issuer claims.azp with
      | error e =>
        simp only [bind, Except.bind, hu, hr] at h
        cases h
      | ok t =>
        simp only [bind, Except.bind, hu, hr, pure, Except.pure, Except.ok.injEq] at h
        subst h
        exact ⟨rfl,hu,hr⟩

theorem verifiedBy_ok {answer : Except String Verifier} (h : verifiedBy m caller answer = .ok t) :
    t = caller.tenant ∧ ∃ v, answer = .ok v ∧ m.verify v caller.rawToken = .ok () := by
  unfold verifiedBy at h
  split at h
  · cases h
  · rename_i v
    split at h
    · cases h
    · rename_i hv
      cases h
      exact ⟨rfl,v,rfl,hv⟩

/-- A caller is taken for a tenant only with a token that the tenant's issuer signed for
the tenant's subject, and only if no other registration could be meant. -/
theorem authenticated_tenant_signed (calls : List (Moment T × Option (List String)))
    (h : (authenticate m (cacheAfter calls) md).1 = .ok t) :
    ∃ ts rawToken claims, m.tenants = .ok ts ∧ bearer md = .ok rawToken ∧
      parseUnverifiedClaims T.codec rawToken = .ok claims ∧ T.Signed t.issuer rawToken ∧
      claims.issuer = t.issuer ∧ claims.azp ∈ claims.audience ∧
      "pvx:" ++ claims.azp = t.subject ∧ isStatusConditionTrue t.conditions .admitted ∧
      ts.filter (fun u => u.issuer = t.issuer ∧ u.subject = t.subject) = [t] ∧
      m.verify ⟨t.issuer,claims.azp⟩ rawToken = .ok () := by
  unfold authenticate at h
  split at h
  · cases h
  · rename_i caller hcaller
    obtain ⟨hb,hu,hr⟩ := callerOf_ok hcaller
    obtain ⟨hp,ha⟩ := unverified_ok hu
    obtain ⟨ts,hts,hone,hadm⟩ := resolveTenant_ok hr
    obtain ⟨rfl,v,hv,hver⟩ := verifiedBy_ok h
    have hmem : caller.tenant ∈ registrationsOf caller.claims.issuer (subjectOf caller.claims.azp)
      ts := by
      simp [hone]
    obtain ⟨hi,hs⟩ := of_decide_eq_true (List.mem_filter.mp hmem).2
    have hclaims : caller.claims.issuer = v.issuer := (m.named hver hp).1
    have hkey := getVerifier_key (cacheAfter_keyed calls) hv
    rw [hclaims] at hkey hi
    have hclient : caller.claims.azp = v.clientID := verifierKey_client hkey
    refine ⟨ts,caller.rawToken,caller.claims,hts,hb,hp,hi ▸ m.signed hver,hclaims.trans hi.symm,ha,
      hs.symm,hadm,?_,?_⟩
    · rw [hi, hs, ← hclaims]
      exact hone
    · rw [hi, hclient]
      exact hver

section Sample

def sampleCodec : Codec := ⟨fun s => .ok s,fun _ => .ok ⟨"https://oidc","csi",some (.text "csi")⟩⟩

theorem sampleCodec_claims {rawToken : String} {claims : JwtClaims}
    (h : parseUnverifiedClaims sampleCodec rawToken = .ok claims) :
    claims = ⟨"https://oidc","csi",["csi"]⟩ := by
  unfold parseUnverifiedClaims at h
  split at h
  · cases h
    rfl
  · cases h

def sampleTrust : Trust := ⟨sampleCodec,fun issuer rawToken => issuer = "https://oidc" ∧
  hasSuffix rawToken ".good"⟩

def sampleTenant : TenantCluster :=
  { blueTenant with
    subject := "pvx:csi"
    issuer := "https://oidc" }

def sampleMoment : Moment sampleTrust where
  tenants := .ok [sampleTenant]
  discover _ := .ok ()
  verify v rawToken := if v = ⟨"https://oidc","csi"⟩ ∧ hasSuffix rawToken ".good" then .ok ()
    else .error "failed to verify signature"
  signed h := by
    split at h
    · rename_i hc
      exact ⟨congrArg Verifier.issuer hc.1,hc.2⟩
    · cases h
  named h hp := by
    split at h
    · rename_i hc
      rw [hc.1, sampleCodec_claims hp]
      exact ⟨rfl,List.mem_singleton_self _⟩
    · cases h

def sampleCall : Moment sampleTrust × Option (List String) :=
  (sampleMoment,some ["Bearer header.payload.good"])

theorem sample_authenticated :
    (authenticate sampleMoment (cacheAfter [sampleCall]) sampleCall.2).1 = .ok sampleTenant := by
  rfl

/-- A second call finds the verifier of the first. -/
theorem authenticated_tenant_signed_again :
    (authenticate sampleMoment (cacheAfter [sampleCall]) sampleCall.2).1 = .ok sampleTenant ∧
    ∃ rawToken, bearer sampleCall.2 = .ok rawToken ∧ sampleTrust.Signed "https://oidc" rawToken := by
  obtain ⟨_,rawToken,_,_,hb,_,hs,_⟩ := authenticated_tenant_signed [sampleCall] sample_authenticated
  exact ⟨sample_authenticated,rawToken,hb,hs⟩

end Sample

end Sound

end ProxmoxCSI.TokenAuthentication
