import TenantLink.Proofs.Client.Failure
import TenantLink.Proofs.Toasts

/-!
# The attempts of a call

`World.attempt` follows a call from one attempt to the next as if every outcome were worth another
one. A call with several attempts stops at the first outcome that is not, or at its last attempt:
`sendFrom_attempts`.
-/

namespace TenantLink.World

/-- Whether an outcome may be another one later: the backend is unavailable, the deadline was
missed, or the transport failed. -/
def IsTransient : Except ClientError Response → Prop
  | .ok response => response.status.code = 503
  | .error (.timeout _) => True
  | .error .network => True
  | .error _ => False

/-- Whether a response denies access. -/
def IsDenied : Except ClientError Response → Prop
  | .ok response => response.status.code = 403
  | .error _ => False

/-- Why the client waits behind an outcome. -/
def waitCause : Except ClientError Response → RetryCause
  | .ok _ => .unavailable
  | .error e => .failed e

/-- The wait behind attempt `i` in milliseconds. -/
def waitTime (c : Config) (i : Nat) : Nat :=
  min (c.retryDelay * Nat.pow 2 (min i 10)) 0xFFFFFFFFFFFFFFFF

/-- The world in which attempt `i` of a call begins, of which the first is number 0: that which the
attempt before left, when the wait behind it is over. -/
def attemptStart (w : World) (c : Config) (r : Request) : Nat → World
  | 0 => w
  | i + 1 =>
    let sent := (w.attemptStart c r i).send c r
    { sent.2 with
      now := sent.2.now + waitTime c i
      waits := sent.2.waits ++
        [{ attempt := i, delay := waitTime c i, cause := waitCause sent.1 }] }

/-- What comes of attempt `i`, and the world it leaves. -/
def attempt (w : World) (c : Config) (r : Request) (i : Nat) :
    Except ClientError Response × World :=
  (w.attemptStart c r i).send c r

variable {w w' : World} {c : Config} {r : Request} {outcome : Except ClientError Response}

/-- What is shown of an outcome. -/
def reportOutcome (w : World) : Except ClientError Response → World
  | .ok response => w.reportForbidden response
  | .error _ => w

/-! ### Another attempt -/

theorem isUnavailable_iff {response : Response} :
    response.status.isUnavailable = true ↔ IsTransient (.ok response) := decide_eq_true_iff

theorem isRetryable_iff {e : ClientError} : e.isRetryable = true ↔ IsTransient (.error e) := by
  cases e <;> simp [ClientError.isRetryable, IsTransient]

/-- The error that is kept behind an outcome. -/
def lastError (last : Option ClientError) : Except ClientError Response → Option ClientError
  | .ok _ => last
  | .error e => some e

variable {i left : Nat} {last : Option ClientError}

theorem sendFrom_of_settled (settled : ¬ IsTransient (w.send c r).1) :
    w.sendFrom c r i last (left + 1) =
      ((w.send c r).1, (w.send c r).2.reportOutcome (w.send c r).1) := by
  unfold sendFrom
  rcases sent : w.send c r with ⟨e | response, w'⟩ <;> rw [sent] at settled
  · exact if_neg (mt isRetryable_iff.mp settled)
  · exact if_neg fun again =>
      settled (isUnavailable_iff.mp (Bool.and_eq_true_iff.mp again).1)

theorem sendFrom_of_transient (transient : IsTransient (w.send c r).1) :
    w.sendFrom c r i last (left + 2) =
      ((w.send c r).2.backOff c i (waitCause (w.send c r).1)).sendFrom c r (i + 1)
        (lastError last (w.send c r).1) (left + 1) := by
  rw [sendFrom]
  rcases sent : w.send c r with ⟨e | response, w'⟩ <;> rw [sent] at transient
  · exact if_pos (isRetryable_iff.mpr transient)
  · refine if_pos ?_
    rw [isUnavailable_iff.mpr transient]
    rfl

/-- Whatever the last attempt fails with is what the call fails with. -/
theorem sendFrom_one (w : World) (c : Config) (r : Request) (i : Nat) (last : Option ClientError) :
    w.sendFrom c r i last 1 = ((w.send c r).1, (w.send c r).2.reportOutcome (w.send c r).1) := by
  unfold sendFrom
  rcases w.send c r with ⟨e | response, w'⟩ <;> dsimp only
  · split <;> rfl
  · exact if_neg (by simp)

/-- No error of an earlier attempt is the result of a later one: as long as an attempt is left, it
does not matter which error is kept. -/
theorem sendFrom_last (w : World) (c : Config) (r : Request) (i left : Nat)
    (last other : Option ClientError) :
    w.sendFrom c r i last (left + 1) = w.sendFrom c r i other (left + 1) := by
  induction left generalizing w i last other with
  | zero => rw [sendFrom_one, sendFrom_one]
  | succ left ih =>
    by_cases transient : IsTransient (w.send c r).1
    · rw [sendFrom_of_transient transient, sendFrom_of_transient transient]
      exact ih _ _ _ _
    · rw [sendFrom_of_settled transient, sendFrom_of_settled transient]

/-- From attempt `i` on, with at most `left` further ones: the attempts go on to number `k`, and
what comes of that one is the result. -/
theorem sendFrom_attempts (w : World) (c : Config) (r : Request) (i left : Nat) :
    ∃ k, i ≤ k ∧ k ≤ i + left ∧
      (∀ j, i ≤ j → j < k → IsTransient (w.attempt c r j).1) ∧
      (IsTransient (w.attempt c r k).1 → k = i + left) ∧
      (w.attemptStart c r i).sendFrom c r i none (left + 1) =
        ((w.attempt c r k).1, (w.attempt c r k).2.reportOutcome (w.attempt c r k).1) := by
  induction left generalizing i with
  | zero =>
    exact ⟨i, Nat.le_refl i, Nat.le_refl i, by omega, fun _ => rfl, sendFrom_one ..⟩
  | succ left ih =>
    by_cases transient : IsTransient (w.attempt c r i).1
    · obtain ⟨k, above, below, before, last, result⟩ := ih (i + 1)
      refine ⟨k, by omega, by omega, ?_, fun h => by have := last h; omega, ?_⟩
      · intro j from_i to_k
        by_cases first : j = i
        · rw [first]
          exact transient
        · exact before j (by omega) to_k
      · rw [sendFrom_of_transient transient, sendFrom_last _ c r (i + 1) left _ none]
        exact result
    · exact ⟨i, Nat.le_refl i, by omega, by omega, fun h => (transient h).elim,
        sendFrom_of_settled transient⟩

theorem sendWithRetry_attempts (w : World) (c : Config) (r : Request) (maxAttempts : Nat) :
    ∃ k < max maxAttempts 1,
      (∀ j < k, IsTransient (w.attempt c r j).1) ∧
      (IsTransient (w.attempt c r k).1 → k + 1 = max maxAttempts 1) ∧
      w.sendWithRetry c r maxAttempts =
        ((w.attempt c r k).1, (w.attempt c r k).2.reportOutcome (w.attempt c r k).1) := by
  obtain ⟨k, -, below, before, settled, call⟩ := sendFrom_attempts w c r 0 (maxAttempts - 1)
  have most : maxAttempts - 1 + 1 = max maxAttempts 1 := by omega
  refine ⟨k, by omega, fun j earlier => before j (Nat.zero_le j) earlier,
    fun transient => by have := settled transient; omega, ?_⟩
  rw [sendWithRetry, ← most]
  exact call

/-! ### What is waited for, and what is shown -/

/-- The toasts on display that tell of denied access. -/
def denials (w : World) : List Toast :=
  (w.toasts.visible w.wall).filter (·.message = Toast.accessRestrictedMessage)

theorem denials_of_keeps (kept : Keeps w w') : w'.denials = w.denials := by
  unfold denials
  rw [kept.toasts, kept.wall]

theorem denials_warnRateLimit (w : World) (status : Status) :
    (w.warnRateLimit status).denials = w.denials := by
  unfold warnRateLimit denials
  split
  · rcases w.toasts.visible_warnRateLimit w.wall with same | ⟨toast, message, shown⟩
    · dsimp only
      rw [same]
    · have other : toast.message ≠ Toast.accessRestrictedMessage := by
        rw [message]
        decide
      dsimp only
      rw [shown, List.filter_append, List.filter_cons, if_neg (by simpa using other),
        List.filter_nil, List.append_nil]
  · rfl

/-- A call alone makes no one wait, and shows no denial. -/
theorem send_frame (w : World) (c : Config) (r : Request) :
    (w.send c r).2.wall = w.wall ∧ (w.send c r).2.waits = w.waits ∧
      (w.send c r).2.denials = w.denials := by
  cases received : w.receive c r with
  | mk result w₁ =>
    have kept := receive_keeps received
    cases result with
    | error halt =>
      rw [send_of_halt received]
      exact ⟨kept.wall, kept.waits, denials_of_keeps kept⟩
    | ok raw =>
      rw [send_of_receive received]
      refine ⟨?_, ?_, ?_⟩
      · rw [← kept.wall]
        unfold warnRateLimit
        split <;> rfl
      · rw [← kept.waits]
        unfold warnRateLimit
        split <;> rfl
      · rw [denials_warnRateLimit, denials_of_keeps kept]

theorem attemptStart_frame (w : World) (c : Config) (r : Request) (i : Nat) :
    (w.attemptStart c r i).wall = w.wall ∧ (w.attemptStart c r i).denials = w.denials ∧
      (w.attemptStart c r i).waits =
        w.waits ++ (List.range i).map fun j => ⟨j, waitTime c j, waitCause (w.attempt c r j).1⟩ := by
  induction i with
  | zero => exact ⟨rfl, rfl, (List.append_nil _).symm⟩
  | succ i ih =>
    obtain ⟨wall, denials, waits⟩ := ih
    obtain ⟨sentWall, sentWaits, sentDenials⟩ := send_frame (w.attemptStart c r i) c r
    refine ⟨sentWall.trans wall, sentDenials.trans denials, ?_⟩
    rw [List.range_succ, List.map_append, ← List.append_assoc, ← waits, ← sentWaits]
    rfl

theorem reportOutcome_frame (w : World) (outcome : Except ClientError Response) :
    w.reportOutcome outcome = { w with toasts := (w.reportOutcome outcome).toasts } := by
  cases outcome with
  | error e => rfl
  | ok response =>
    unfold reportOutcome reportForbidden
    dsimp only
    split <;> rfl

theorem reportOutcome_of_not_denied (w : World) (granted : ¬ IsDenied outcome) :
    w.reportOutcome outcome = w := by
  cases outcome with
  | ok response => exact if_neg (by simpa [Status.isForbidden, IsDenied] using granted)
  | error e => rfl

theorem denials_reportOutcome (w : World) (denied : IsDenied outcome) :
    ∃ toast, toast.severity = .warning ∧ toast.displayTime = some Toast.defaultTime ∧
      (w.reportOutcome outcome).denials = w.denials ++ [toast] := by
  cases outcome with
  | error e => exact denied.elim
  | ok response =>
    have forbidden : response.status.isForbidden :=
      decide_eq_true (show response.status.code = 403 from denied)
    let toast : Toast :=
      { id := w.toasts.next, message := Toast.accessRestrictedMessage, severity := .warning
        createdAt := w.wall, expiresAt := some ⟨w.wall.nanos + Toast.defaultTime.nanos⟩ }
    have pushed := (w.toasts.prune w.wall).visible_push w.wall Toast.accessRestrictedMessage
      .warning (some Toast.defaultTime)
    rw [ToastStore.visible_prune, if_pos (by decide)] at pushed
    refine ⟨toast, rfl, by simp [toast, Toast.displayTime], ?_⟩
    unfold reportOutcome reportForbidden denials ToastStore.add
    dsimp only
    rw [if_pos forbidden]
    dsimp only
    rw [pushed, List.filter_append, List.filter_cons, if_pos (by simp), List.filter_nil]
    rfl

/-- What a call with at most `limit` attempts does when it makes `k` of them. -/
structure Makes (w : World) (c : Config) (r : Request) (limit k : Nat)
    (call : Except ClientError Response × World) : Prop where
  one_le : 1 ≤ k
  le_limit : k ≤ limit
  /-- Behind each attempt but the last there was reason for another one. -/
  transient : ∀ i, i + 1 < k → IsTransient (w.attempt c r i).1
  /-- Behind the last there was none, or no attempt was left. -/
  settled : IsTransient (w.attempt c r (k - 1)).1 → k = limit
  result : call.1 = (w.attempt c r (k - 1)).1
  attempted : call.1 ≠ .error .retryExhausted
  /-- Nothing comes behind the last attempt but a toast. -/
  world : call.2 = { (w.attempt c r (k - 1)).2 with toasts := call.2.toasts }
  waits : call.2.waits = w.waits ++
    (List.range (k - 1)).map fun i => ⟨i, waitTime c i, waitCause (w.attempt c r i).1⟩
  denied : IsDenied call.1 → ∃ toast, toast.severity = .warning ∧
    toast.displayTime = some Toast.defaultTime ∧ call.2.denials = w.denials ++ [toast]
  granted : ¬ IsDenied call.1 → call.2.denials = w.denials

/-- A call with several attempts makes as many as it takes to an outcome that is not transient,
but no more than it may; it waits between them, and tells the user of a denial once. -/
theorem sendWithRetry_makes (w : World) (c : Config) (r : Request) (maxAttempts : Nat) :
    ∃ k, Makes w c r (max maxAttempts 1) k (w.sendWithRetry c r maxAttempts) := by
  obtain ⟨last, below, before, settled, call⟩ := sendWithRetry_attempts w c r maxAttempts
  obtain ⟨wall, denials, waits⟩ := attemptStart_frame w c r last
  obtain ⟨-, sentWaits, sentDenials⟩ := send_frame (w.attemptStart c r last) c r
  have shown : (w.attempt c r last).2.denials = w.denials := sentDenials.trans denials
  have report := reportOutcome_frame (w.attempt c r last).2 (w.attempt c r last).1
  rw [call]
  refine ⟨last + 1, ?_⟩
  exact {
    one_le := Nat.le_add_left 1 last
    le_limit := below
    transient := fun i next => before i (Nat.lt_of_succ_lt_succ next)
    settled := settled
    result := rfl
    attempted := fun exhausted => send_error (Prod.ext exhausted rfl)
    world := by
      rw [Nat.add_sub_cancel]
      exact report
    waits := by
      rw [Nat.add_sub_cancel, ← waits, ← sentWaits]
      have kept := congrArg World.waits report
      exact kept
    denied := fun denied => by
      rw [← shown]
      exact denials_reportOutcome _ denied
    granted := fun granted => by
      rw [← shown, reportOutcome_of_not_denied _ granted] }

end TenantLink.World
