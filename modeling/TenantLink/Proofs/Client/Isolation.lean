import Mathlib
import TenantLink.Proofs.Client.Attempts

/-!
# Tenant isolation

No call hands out a successful response whose body belongs to another tenant than the session that
governs it, and a call that meets such a body ends there.
-/

namespace TenantLink

/-- The calls that a client makes. -/
inductive Call
  | send (r : Request)
  | sendWithRetry (r : Request) (maxAttempts : Nat)
  | retry (r : Request)
  | get (path : String)
  | delete (path : String)
  | postJson (path : String) (value : Json)
  | putJson (path : String) (value : Json)

namespace Call

def run (w : World) (c : Config) : Call → Except ClientError Response × World
  | send r => w.send c r
  | sendWithRetry r maxAttempts => w.sendWithRetry c r maxAttempts
  | retry r => w.retry c r
  | get path => w.get c path
  | delete path => w.delete c path
  | postJson path value => w.postJson c path value
  | putJson path value => w.putJson c path value

/-- The request that each attempt of a call sends. -/
def request : Call → Request
  | send r | sendWithRetry r _ | retry r => r
  | get path => .get path
  | delete path => .delete path
  | postJson path value => (Request.post path).withJson value
  | putJson path value => (Request.put path).withJson value

/-- The greatest number of attempts. -/
def limit (c : Config) : Call → Nat
  | send _ => 1
  | sendWithRetry _ maxAttempts => max maxAttempts 1
  | _ => max c.maxAttempts 1

/-- Whether a call comes to attempt `i`: behind all attempts before it there was reason for
another one. -/
def Reaches (call : Call) (w : World) (c : Config) (i : Nat) : Prop :=
  i < call.limit c ∧ ∀ j < i, World.IsTransient (w.attempt c call.request j).1

theorem run_eq_sendWithRetry (call : Call) (w : World) (c : Config) :
    call.run w c = w.send c call.request ∧ call.limit c = 1 ∨
      ∃ maxAttempts, call.run w c = w.sendWithRetry c call.request maxAttempts ∧
        call.limit c = max maxAttempts 1 := by
  cases call with
  | send r => exact .inl ⟨rfl, rfl⟩
  | sendWithRetry r maxAttempts => exact .inr ⟨maxAttempts, rfl, rfl⟩
  | _ => exact .inr ⟨c.maxAttempts, rfl, rfl⟩

/-- A call ends with an attempt that it comes to. -/
theorem run_ends (call : Call) (w : World) (c : Config) :
    ∃ last, call.Reaches w c last ∧
      (World.IsTransient (w.attempt c call.request last).1 → last + 1 = call.limit c) ∧
      (call.run w c).1 = (w.attempt c call.request last).1 ∧
      (¬ World.IsDenied (w.attempt c call.request last).1 →
        call.run w c = w.attempt c call.request last) := by
  rcases call.run_eq_sendWithRetry w c with ⟨run, limit⟩ | ⟨maxAttempts, run, limit⟩
  · refine ⟨0, ⟨by omega, by omega⟩, fun _ => limit.symm, ?_, fun _ => ?_⟩
    · rw [run]
      rfl
    · rw [run]
      rfl
  · obtain ⟨last, below, before, settled, same⟩ :=
      World.sendWithRetry_attempts w c call.request maxAttempts
    rw [run, same, limit]
    refine ⟨last, ⟨limit ▸ below, before⟩, settled, rfl, fun granted => ?_⟩
    rw [World.reportOutcome_of_not_denied _ granted]

/-- An attempt that a call comes to and behind which there is no reason for another one is its
last. -/
theorem run_eq_attempt {call : Call} {w : World} {c : Config} {i : Nat}
    (reached : call.Reaches w c i)
    (settled : ¬ World.IsTransient (w.attempt c call.request i).1)
    (granted : ¬ World.IsDenied (w.attempt c call.request i).1) :
    call.run w c = w.attempt c call.request i := by
  obtain ⟨last, ⟨below, before⟩, exhausted, -, run⟩ := call.run_ends w c
  have notAfter : ¬ i < last := fun h => settled (before i h)
  have notBefore : ¬ last < i := by
    intro h
    have := exhausted (reached.2 last h)
    have := reached.1
    omega
  have same : last = i := by omega
  subst same
  exact run granted

end Call

namespace World

variable {w w' : World} {c : Config} {r : Request}

theorem warnRateLimit_of_success {status : Status} (success : status.isSuccess) (w : World) :
    w.warnRateLimit status = w := by
  refine if_neg ?_
  simp only [Status.isSuccess, Status.isRateLimited, Bool.and_eq_true, decide_eq_true_eq] at *
  omega

/-- What is released with success was received so, and its body belongs to the tenant. -/
theorem release_success {session : Option Session} {raw response : Response}
    (h : release c session raw = .ok response) (success : response.isSuccess) :
    response = raw ∧ ∀ tenant, session.bind Session.tenant = some tenant →
      (TenantScan.mk tenant c.maxScanDepth).verifyBody response.body = .ok () := by
  unfold release at h
  split at h
  case isTrue =>
    split at h
    case h_1 verified =>
      cases h
      refine ⟨rfl, fun tenant bound => ?_⟩
      unfold verifyTenant at verified
      rw [bound] at verified
      exact verified
    case h_2 => cases h
  case isFalse failed =>
    cases h
    refine (failed ?_).elim
    unfold Response.sanitize at success
    split at success <;> exact success

theorem release_of_violation {session : Option Session} {raw : Response} {tenant : String}
    {v : Violation} (success : raw.isSuccess) (bound : session.bind Session.tenant = some tenant)
    (rejected : (TenantScan.mk tenant c.maxScanDepth).verifyBody raw.body = .error v) :
    release c session raw = .error (.security v) := by
  unfold release verifyTenant
  rw [if_pos success, bound]
  dsimp only
  rw [rejected]

/-- A successful call hands out the response as it was received, and leaves the world so. -/
theorem receive_of_success {response : Response} (h : w.send c r = (.ok response, w'))
    (success : response.isSuccess) :
    w.receive c r = (.ok response, w') ∧
      ∀ tenant, (w.provider.governing w'.provider).bind Session.tenant = some tenant →
        (TenantScan.mk tenant c.maxScanDepth).verifyBody response.body = .ok () := by
  cases received : w.receive c r with
  | mk result w₁ =>
    cases result with
    | error halt =>
      rw [send_of_halt received] at h
      cases h
    | ok raw =>
      rw [send_of_receive received, Prod.mk.injEq] at h
      obtain ⟨released, world⟩ := h
      obtain ⟨rfl, verified⟩ := release_success released success
      rw [warnRateLimit_of_success success] at world
      subst world
      exact ⟨rfl, verified⟩

end World

/-- Every successful response that a call returns comes of an attempt it has made, and its body
passes the scan for the tenant of the session that governs it. A successful response that does
not pass, in whichever attempt, ends the call with the violation, in the world in which its body
was read: nothing is sent and nothing is waited for behind it. -/
theorem Call.run_isolates (call : Call) (w : World) (c : Config) :
    (∀ response w', call.run w c = (.ok response, w') → response.isSuccess →
      ∃ i, call.Reaches w c i ∧
        (w.attemptStart c call.request i).receive c call.request = (.ok response, w') ∧
        ∀ tenant,
          ((w.attemptStart c call.request i).provider.governing w'.provider).bind
            Session.tenant = some tenant →
          (TenantScan.mk tenant c.maxScanDepth).verifyBody response.body = .ok ()) ∧
    (∀ i raw w' tenant v, call.Reaches w c i →
      (w.attemptStart c call.request i).receive c call.request = (.ok raw, w') →
      raw.isSuccess →
      ((w.attemptStart c call.request i).provider.governing w'.provider).bind
        Session.tenant = some tenant →
      (TenantScan.mk tenant c.maxScanDepth).verifyBody raw.body = .error v →
      call.run w c = (.error (.security v), w') ∧
        w'.waits = (w.attemptStart c call.request i).waits) := by
  refine ⟨fun response w' h success => ?_, fun i raw w' tenant v reached received success bound
    rejected => ?_⟩
  · obtain ⟨last, reached, -, result, run⟩ := call.run_ends w c
    have granted : ¬ World.IsDenied (w.attempt c call.request last).1 := by
      rw [← result, h]
      intro denied
      have code : response.status.code = 403 := denied
      simp [Response.isSuccess, Status.isSuccess, code] at success
    rw [run granted] at h
    exact ⟨last, reached, World.receive_of_success h success⟩
  · have attempted : w.attempt c call.request i = (.error (.security v), w') := by
      unfold World.attempt
      rw [World.send_of_receive received, World.release_of_violation success bound rejected,
        World.warnRateLimit_of_success success]
    have ended := Call.run_eq_attempt reached (by rw [attempted]; exact id)
      (by rw [attempted]; exact id)
    exact ⟨ended.trans attempted, (World.receive_keeps received).waits⟩

/-- The second attempt gets a new session of tenant `C`, with which it meets a body of tenant `B`. -/
example :
    ((Call.get "jobs").run
      { wall := ⟨0⟩
        backend := {
          origin := Config.defaultBase
          script := [
            .answer { status := ⟨503, by decide⟩ },
            .answer { status := ⟨401, by decide⟩ },
            .answer { status := ⟨200, by decide⟩
                      chunks := [Utf8.encode "[\x7b\"tenant_id\": \"B\"\x7d]"] }] }
        provider := {
          current := some { token := "a", tenant := some "A" }
          outcomes := [.renewed { token := "c", tenant := some "C" }] } }
      { apiBase := Config.defaultBase }).1 =
      .error (.security (.tenantMismatch "C" "B" "/0/tenant_id")) := by cbv

end TenantLink
