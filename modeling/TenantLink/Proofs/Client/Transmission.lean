import TenantLink.Proofs.Client.Reception
import TenantLink.Proofs.Headers

/-!
# What reaches the backend

A dispatch hands the backend one request, if that is reached at all, and waiting hands it none:
`dispatch_backend`, `Silent`. A request carries the fields that it was given, and cookies.
-/

namespace TenantLink

/-- The header fields of a request but its cookies and its authorization. -/
def SentRequest.plainHeaders (q : SentRequest) : Headers :=
  (q.headers.remove .cookie).remove .authorization

/-- Whether a request carries one token, and no other authorization. -/
def SentRequest.Bears (q : SentRequest) (token : String) : Prop :=
  (q.headers.getAll .authorization).map HeaderValue.bytes = [Utf8.encode ("Bearer " ++ token)]

/-! ### The backend -/

namespace Backend

def receiveAll (b : Backend) (sent : List SentRequest) : Backend :=
  sent.foldl (fun b q => (b.receive q).2) b

/-- The reaction to the next request but `i`. -/
def reactionAt (b : Backend) (i : Nat) : Reaction := b.script[i]?.getD (.answer notFound)

theorem receive_frame (b : Backend) (q : SentRequest) :
    (b.receive q).2.received = b.received ++ [q] ∧ (b.receive q).2.script = b.script.drop 1 ∧
      (b.receive q).2.origin = b.origin ∧ (b.receive q).2.online = b.online := by
  unfold receive
  dsimp only
  split
  next none => exact ⟨rfl, by rw [none]; rfl, rfl, rfl⟩
  next rest script => exact ⟨rfl, by rw [script]; rfl, rfl, rfl⟩
  next rest _ script => exact ⟨rfl, by rw [script]; rfl, rfl, rfl⟩

theorem receive_reaction {b : Backend} {q : SentRequest} {reply : Reply}
    (answered : (b.receive q).1 = .answer reply) :
    ∃ scripted, b.reactionAt 0 = .answer scripted ∧ reply = scripted.framed q.method := by
  unfold receive at answered
  unfold reactionAt
  dsimp only at answered
  split at answered
  next none =>
    cases answered
    exact ⟨notFound, by rw [none]; rfl, rfl⟩
  next scripted rest script =>
    cases answered
    exact ⟨scripted, by rw [script]; rfl, rfl⟩
  next reaction rest other script =>
    exact (other reply answered).elim

/-- No request is answered by a redirect, not even when the script is used up. -/
theorem IsDirect.reactionAt {b : Backend} (direct : b.IsDirect) (i : Nat) :
    (b.reactionAt i).isRedirect = false := by
  unfold Backend.reactionAt
  cases scripted : b.script[i]? with
  | none => rfl
  | some reaction => exact direct reaction (List.mem_of_getElem? scripted)

theorem IsDirect.receive {b : Backend} (direct : b.IsDirect) (q : SentRequest) :
    (b.receive q).2.IsDirect := by
  intro reaction member
  rw [(b.receive_frame q).2.1] at member
  exact direct reaction (List.mem_of_mem_drop member)

theorem receiveAll_append (b : Backend) (sent more : List SentRequest) :
    b.receiveAll (sent ++ more) = (b.receiveAll sent).receiveAll more := List.foldl_append

theorem receiveAll_frame (b : Backend) (sent : List SentRequest) :
    (b.receiveAll sent).received = b.received ++ sent ∧
      (b.receiveAll sent).script = b.script.drop sent.length ∧
      (b.receiveAll sent).origin = b.origin ∧ (b.receiveAll sent).online = b.online := by
  induction sent generalizing b with
  | nil => exact ⟨(List.append_nil _).symm, rfl, rfl, rfl⟩
  | cons q rest ih =>
    obtain ⟨received, script, origin, online⟩ := b.receive_frame q
    obtain ⟨received', script', origin', online'⟩ := ih (b.receive q).2
    refine ⟨?_, ?_, origin'.trans origin, online'.trans online⟩
    · rw [receiveAll, List.foldl_cons, ← receiveAll, received', received, List.append_assoc]
      rfl
    · rw [receiveAll, List.foldl_cons, ← receiveAll, script', script, List.drop_drop,
        List.length_cons, Nat.add_comm]

theorem reactionAt_receiveAll (b : Backend) (sent : List SentRequest) (i : Nat) :
    (b.receiveAll sent).reactionAt i = b.reactionAt (sent.length + i) := by
  obtain ⟨-, script, -⟩ := b.receiveAll_frame sent
  unfold reactionAt
  rw [script, List.getElem?_drop]

end Backend

theorem Reply.framed_status (reply : Reply) (m : Method) :
    (reply.framed m).status = reply.status := by
  unfold framed
  split
  · split <;> rfl
  · rfl

namespace World

variable {w w' : World} {c : Config} {r : Request}

theorem withCookies_eq (w : World) (u : Url) (headers : Headers) :
    w.withCookies u headers = headers ∨
      ∃ v, w.withCookies u headers = headers.append .cookie v := by
  unfold withCookies
  split
  · exact .inr ⟨_, rfl⟩
  · exact .inl rfl

theorem getAll_withCookies_of_ne {name : HeaderName} (other : .cookie ≠ name) (w : World) (u : Url)
    (headers : Headers) : (w.withCookies u headers).getAll name = headers.getAll name := by
  rcases w.withCookies_eq u headers with same | ⟨v, added⟩
  · rw [same]
  · rw [added, Headers.getAll_append, if_neg other, List.append_nil]

theorem getAll_withCookies (w : World) (u : Url) (headers : Headers) :
    (w.withCookies u headers).getAll .authorization = headers.getAll .authorization :=
  getAll_withCookies_of_ne (by decide) w u headers

theorem remove_withCookies (w : World) (u : Url) (headers : Headers) :
    (w.withCookies u headers).remove .cookie = headers.remove .cookie := by
  rcases w.withCookies_eq u headers with same | ⟨v, added⟩
  · rw [same]
  · rw [added, Headers.remove_append_self]

theorem getAll_withCsrf (headers : Headers) (token : Option String) :
    (withCsrf headers token).getAll .authorization = headers.getAll .authorization := by
  unfold withCsrf
  split
  · exact Headers.getAll_insert_of_ne (by decide)
  · rfl

theorem authorize_some {headers headers' : Headers} {s : Session}
    (h : authorize headers (some s) = .ok headers') :
    ∃ v : HeaderValue, v.bytes = Utf8.encode ("Bearer " ++ s.token) ∧
      headers' = headers.insert .authorization v := by
  unfold authorize at h
  dsimp only at h
  split at h
  next v legal =>
    cases h
    refine ⟨v, ?_, rfl⟩
    unfold HeaderValue.bearer? HeaderValue.ofText? HeaderValue.ofBytes? at legal
    split at legal
    · cases legal
      rfl
    · cases legal
  next => cases h

theorem authorize_of_illegal {headers : Headers} {s : Session}
    (illegal : HeaderValue.ofText? s.token = none) :
    authorize headers (some s) = .error (.header .value) := by
  have refused : HeaderValue.bearer? s.token = none := by
    unfold HeaderValue.ofText? HeaderValue.ofBytes? at illegal
    unfold HeaderValue.bearer? HeaderValue.ofText? HeaderValue.ofBytes?
    split at illegal
    · cases illegal
    next bad =>
      refine dif_neg fun good => bad ?_
      have parts : Utf8.encode ("Bearer " ++ s.token) =
          Utf8.encode "Bearer " ++ Utf8.encode s.token := by
        simp [Utf8.encode, Utf8.encodeChars]
      rw [parts, List.all_append, Bool.and_eq_true] at good
      exact good.2
  unfold authorize
  dsimp only
  rw [refused]

/-! ### Waiting -/

/-- Nothing is sent, and no cookie comes. -/
structure Silent (w w' : World) : Prop where
  backend : w'.backend = w.backend
  jar : w'.jar = w.jar

theorem Silent.refl (w : World) : Silent w w := ⟨rfl, rfl⟩

theorem pause_silent {limit ms : Nat} {result : Except Halt Unit}
    (h : w.pause limit ms = (result, w')) : Silent w w' := by
  unfold pause at h
  split at h <;> cases h <;> exact ⟨rfl, rfl⟩

theorem readBody_silent {limit : Nat} {reply : Reply} {result : Except Halt Bytes}
    (h : w.readBody limit reply = (result, w')) : Silent w w' := by
  unfold readBody at h
  split at h
  case h_1 waited =>
    cases h
    exact pause_silent waited
  case h_2 waited =>
    have silent := pause_silent waited
    split at h <;> cases h <;> exact ⟨silent.backend, silent.jar⟩

theorem awaitProvider_silent {limit : Nat} {result : Except Halt Unit}
    (h : w.awaitProvider limit = (result, w')) : Silent w w' := by
  unfold awaitProvider at h
  split at h
  · cases h
    exact .refl w
  · dsimp only at h
    split at h
    · cases h
      exact ⟨rfl, rfl⟩
    · have silent := pause_silent h
      exact ⟨silent.backend, silent.jar⟩

theorem look_silent {limit : Nat} {result : Except Halt (Option Session)}
    (h : w.look limit = (result, w')) : Silent w w' := by
  unfold look at h
  split at h <;> rename_i waited <;> cases h <;>
    (have silent := awaitProvider_silent waited
     exact ⟨silent.backend, silent.jar⟩)

theorem refresh_silent {limit : Nat} {result : Except Halt RefreshOutcome}
    (h : w.refresh limit = (result, w')) : Silent w w' := by
  unfold refresh at h
  dsimp only at h
  split at h <;> rename_i waited <;> cases h <;>
    (have silent := awaitProvider_silent waited
     exact ⟨silent.backend, silent.jar⟩)

/-! ### Sending -/

def requestFor (w : World) (u : Url) (method : Method) (headers : Headers) (body : Option Bytes) :
    SentRequest :=
  { method, target := u.target, headers := w.withCookies u headers, body }

variable {limit : Nat} {u : Url} {method : Method} {headers : Headers} {body : Option Bytes}

theorem transmit_some {reaction : Reaction}
    (h : w.transmit u method headers body = some (reaction, w')) :
    w.backend.reaches u ∧
      (reaction, w'.backend) = w.backend.receive (w.requestFor u method headers body) := by
  unfold transmit at h
  split at h
  next reached =>
    cases h
    exact ⟨reached, rfl⟩
  next => cases h

theorem transmit_none (h : w.transmit u method headers body = none) :
    w.backend.reaches u = false := by
  unfold transmit at h
  split at h
  next => cases h
  next unreached => exact Bool.eq_false_iff.mpr unreached

/-- What is dispatched comes to the backend, if that can be reached. -/
theorem dispatch_backend {result : Except Halt Reply}
    (h : w.dispatch limit u method headers body = (result, w')) :
    ∃ sent : Option SentRequest,
      w'.backend = w.backend.receiveAll sent.toList ∧
      (∀ q ∈ sent, q = w.requestFor u method headers body) ∧
      sent.isSome = w.backend.reaches u := by
  unfold dispatch at h
  split at h
  case h_1 unsent =>
    cases h
    exact ⟨none, rfl, by simp, (transmit_none unsent).symm⟩
  all_goals
    rename_i transmitted
    obtain ⟨reached, received⟩ := transmit_some transmitted
    have backend := congrArg Prod.snd received
    refine ⟨some (w.requestFor u method headers body), ?_, by simp, reached.symm⟩
  case h_2 =>
    cases h
    exact backend
  case h_3 =>
    split at h <;> rename_i waited <;> cases h <;> exact (pause_silent waited).backend.trans backend
  case h_4 =>
    split at h <;> rename_i waited <;> cases h <;> exact (pause_silent waited).backend.trans backend

/-- An answer comes from the backend, with the status that its script gives. -/
theorem dispatch_answer {reply : Reply}
    (h : w.dispatch limit u method headers body = (.ok reply, w')) :
    w.backend.reaches u ∧
      ∃ scripted, w.backend.reactionAt 0 = .answer scripted ∧ reply.status = scripted.status := by
  unfold dispatch at h
  split at h
  case h_1 => cases h
  case h_2 => cases h
  case h_3 =>
    split at h <;> cases h
  case h_4 transmitted =>
    obtain ⟨reached, received⟩ := transmit_some transmitted
    split at h <;> cases h
    obtain ⟨scripted, script, framed⟩ := Backend.receive_reaction (congrArg Prod.fst received).symm
    exact ⟨reached, scripted, script, by rw [framed, Reply.framed_status]⟩

end World

end TenantLink
