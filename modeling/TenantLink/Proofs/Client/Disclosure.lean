import Mathlib
import TenantLink.Proofs.Client.Isolation
import TenantLink.Proofs.Headers

/-!
# What a response discloses

Whatever a call returns, it returns either as the backend sent it or, if it is a server error, with
an envelope in place of its body. Server errors end at 599: of a reply with a greater status the
caller sees the body as it stands.
-/

namespace TenantLink

/-- What a caller sees of a reply. -/
structure Response.Discloses (response : Response) (reply : Reply) : Prop where
  status : response.status = reply.status
  replaced : 500 ≤ reply.status.code → reply.status.code < 600 →
    response.sanitized = true ∧
      response.body = Json.bytes (.object
        [("code", .string "SERVER_ERROR"), ("error", .string "Internal Server Error"),
          ("message", .string (Disclosure.safeMessage reply.body))]) ∧
      response.headers.getAll .contentType = [.json] ∧
      response.headers.getAll .contentLength = [] ∧
      response.headers.getAll .contentEncoding = []
  untouched : reply.status.code < 500 ∨ 600 ≤ reply.status.code →
    response.sanitized = false ∧ response.headers = reply.headers ∧ response.body = reply.body

namespace Response

/-- The envelope is described by its own type and nothing else. -/
theorem getAll_envelopeHeaders (headers : Headers) :
    (envelopeHeaders headers).getAll .contentType = [.json] ∧
      (envelopeHeaders headers).getAll .contentLength = [] ∧
      (envelopeHeaders headers).getAll .contentEncoding = [] := by
  unfold envelopeHeaders
  refine ⟨Headers.getAll_insert_self, ?_, ?_⟩
  · rw [Headers.getAll_insert_of_ne (by decide), Headers.getAll_remove_of_ne (by decide),
      Headers.getAll_remove_self]
  · rw [Headers.getAll_insert_of_ne (by decide), Headers.getAll_remove_self]

theorem sanitize_discloses (reply : Reply) :
    (sanitize { status := reply.status, headers := reply.headers, body := reply.body }).Discloses
      reply := by
  unfold sanitize
  split
  next failed =>
    simp only [Status.isServerError, Bool.and_eq_true, decide_eq_true_eq] at failed
    exact {
      status := rfl
      replaced := fun _ _ => ⟨rfl, rfl, getAll_envelopeHeaders reply.headers⟩
      untouched := by
        intro outside
        omega }
  next served =>
    -- Here are the codes below 500, and those from 600 on as well.
    simp only [Status.isServerError, Bool.and_eq_true, decide_eq_true_eq] at served
    exact {
      status := rfl
      replaced := fun least below => (served ⟨least, below⟩).elim
      untouched := fun _ => ⟨rfl, rfl, rfl⟩ }

theorem sanitize_of_success {raw : Response} (success : raw.isSuccess) : raw.sanitize = raw := by
  refine if_neg ?_
  simp only [isSuccess, Status.isSuccess, Status.isServerError, Bool.and_eq_true,
    decide_eq_true_eq] at *
  omega

end Response

namespace World

variable {w w' : World} {c : Config} {r : Request} {response : Response}

/-- Whatever is released is sanitized: success has nothing to be replaced. -/
theorem release_sanitizes {session : Option Session} {raw : Response}
    (h : release c session raw = .ok response) : response = raw.sanitize := by
  unfold release at h
  split at h
  next success =>
    split at h
    · cases h
      exact (Response.sanitize_of_success success).symm
    · cases h
  next =>
    cases h
    rfl

theorem readBody_body {limit : Nat} {reply : Reply} {body : Bytes}
    (h : w.readBody limit reply = (.ok body, w')) : body = reply.body := by
  unfold readBody at h
  split at h
  · cases h
  · split at h <;> cases h
    rfl

/-- A call that returns shows the reply that was delivered to it. -/
theorem send_discloses (h : (w.send c r).1 = .ok response) :
    ∃ reply session w₁, w.deliver c (w.now + deadline c r) r = (.ok (reply, session), w₁) ∧
      response.Discloses reply := by
  unfold send sendWithin at h
  cases delivered : w.deliver c (w.now + deadline c r) r with
  | mk result w₁ =>
    rw [delivered] at h
    cases result with
    | error halt =>
      cases halt <;> cases h
    | ok answer =>
      obtain ⟨reply, session⟩ := answer
      refine ⟨reply, session, w₁, rfl, ?_⟩
      dsimp only at h
      unfold conclude at h
      cases read : w₁.readBody (w.now + deadline c r) reply with
      | mk result w₂ =>
        rw [read] at h
        cases result with
        | error halt => cases halt <;> cases h
        | ok body =>
          dsimp only at h
          cases released : release c session
            { status := reply.status, headers := reply.headers, body } with
          | error e =>
            rw [released] at h
            cases h
          | ok shown =>
            rw [released] at h
            cases h
            rw [release_sanitizes released, readBody_body read]
            exact Response.sanitize_discloses reply

end World

/-- Every response that a call returns shows the reply to one of its attempts: a server error
behind an envelope of three members, and every other reply as the backend sent it. -/
theorem Call.run_discloses (call : Call) (w : World) (c : Config) (response : Response)
    (h : (call.run w c).1 = .ok response) :
    ∃ i reply session w₁, call.Reaches w c i ∧
      (w.attemptStart c call.request i).deliver c
          ((w.attemptStart c call.request i).now + World.deadline c call.request) call.request =
        (.ok (reply, session), w₁) ∧
      response.Discloses reply := by
  obtain ⟨last, reached, -, result, -⟩ := call.run_ends w c
  have sent : ((w.attemptStart c call.request last).send c call.request).1 = .ok response :=
    result.symm.trans h
  obtain ⟨reply, session, w₁, delivered, discloses⟩ := World.send_discloses sent
  exact ⟨last, reply, session, w₁, reached, delivered, discloses⟩

/-- A world in which the backend answers once, with a status and a text. -/
def World.answering (status : Status) (text : String) : World :=
  { wall := ⟨0⟩
    backend := {
      origin := Config.defaultBase
      script := [.answer { status, chunks := [Utf8.encode text] }] }
    provider := {} }

/-- A server error that says nothing which may be shown. -/
theorem Call.run_discloses_envelope :
    ∃ response : Response,
      ((Call.send (.get "jobs")).run (.answering ⟨500, by decide⟩ "boom")
        { apiBase := Config.defaultBase }).1 = .ok response ∧
      response.sanitized = true ∧
      ∃ i reply session w₁,
        (Call.send (.get "jobs")).Reaches (.answering ⟨500, by decide⟩ "boom")
          { apiBase := Config.defaultBase } i ∧
        ((World.answering ⟨500, by decide⟩ "boom").attemptStart
            { apiBase := Config.defaultBase } (.get "jobs") i).deliver
          { apiBase := Config.defaultBase }
          (((World.answering ⟨500, by decide⟩ "boom").attemptStart
            { apiBase := Config.defaultBase } (.get "jobs") i).now +
            World.deadline { apiBase := Config.defaultBase } (.get "jobs")) (.get "jobs") =
          (.ok (reply, session), w₁) ∧
        response.Discloses reply := by
  have returned :
      ((Call.send (.get "jobs")).run (.answering ⟨500, by decide⟩ "boom")
        { apiBase := Config.defaultBase }).1 =
        .ok {
          status := ⟨500, by decide⟩
          headers := [(.contentType, .json)]
          body := Disclosure.errorBody Disclosure.genericMessage
          sanitized := true } := by
    cbv
  exact ⟨_, returned, rfl, Call.run_discloses _ _ _ _ returned⟩

/-- Status 600 is no server error here: what the backend says of itself is shown. -/
theorem Call.run_unsanitized_600 :
    ((Call.send (.get "jobs")).run
      (.answering ⟨600, by decide⟩ "\x7b\"message\":\"panicked at worker.rs:3\"\x7d")
      { apiBase := Config.defaultBase }).1.toOption.map (fun r => (r.sanitized, r.body)) =
      some (false, Utf8.encode "\x7b\"message\":\"panicked at worker.rs:3\"\x7d") := by
  cbv

end TenantLink
