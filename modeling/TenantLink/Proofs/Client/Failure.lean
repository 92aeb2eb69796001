import TenantLink.Proofs.Client.Reception

/-!
# How a call fails

One call ends with few of the errors there are: `send_error` says which. That no attempt was made
is never one of them.
-/

namespace TenantLink

/-- The errors that one call can end with. -/
def ClientError.IsOfCall : ClientError → Prop
  | timeout _ | network | security _ | invalidUrl _ | header _ => True
  | json | streamStatus _ | config _ | retryExhausted => False

/-- What can stop one call. -/
def Halt.IsOfCall : Halt → Prop
  | expired => True
  | failed e => e.IsOfCall

theorem Config.endpoint_error {c : Config} {path : String} {e : ClientError}
    (h : c.endpoint path = .error e) : e.IsOfCall := by
  unfold endpoint at h
  dsimp only at h
  generalize (if isAbsolute path then _ else _ : Except UrlError Url) = url at h
  cases url <;> cases h
  trivial

namespace World

variable {w w' : World} {c : Config} {r : Request} {halt : Halt}

theorem pause_halt {limit ms : Nat} (h : w.pause limit ms = (.error halt, w')) :
    halt = .expired := by
  unfold pause at h
  split at h <;> cases h
  rfl

theorem dispatch_halt {limit : Nat} {u : Url} {method : Method} {headers : Headers}
    {body : Option Bytes} (h : w.dispatch limit u method headers body = (.error halt, w')) :
    halt.IsOfCall := by
  unfold dispatch at h
  split at h
  case h_1 =>
    cases h
    trivial
  case h_2 =>
    cases h
    trivial
  case h_3 =>
    split at h <;> rename_i waited <;> cases h
    · trivial
    · rw [pause_halt waited]
      trivial
  case h_4 =>
    split at h <;> rename_i waited <;> cases h
    rw [pause_halt waited]
    trivial

theorem readBody_halt {limit : Nat} {reply : Reply}
    (h : w.readBody limit reply = (.error halt, w')) : halt.IsOfCall := by
  unfold readBody at h
  split at h
  · rename_i waited
    cases h
    rw [pause_halt waited]
    trivial
  · split at h <;> cases h <;> trivial

/-- Asking for a CSRF token stops a call only at its deadline. -/
theorem csrfToken_halt {outer : Option Nat} (h : w.csrfToken c outer = (.error halt, w')) :
    halt = .expired := by
  unfold csrfToken at h
  split at h
  · cases h
  · unfold bootstrapToken at h
    split at h
    · cases h
    · split at h <;> cases h
      rfl
    · cases h

theorem attachCsrf_halt {limit : Nat} {method : Method} {headers : Headers}
    (h : w.attachCsrf c limit method headers = (.error halt, w')) : halt.IsOfCall := by
  unfold attachCsrf at h
  split at h
  · split at h <;> rename_i token <;> cases h
    rw [csrfToken_halt token]
    trivial
  · cases h

theorem awaitProvider_halt {limit : Nat} (h : w.awaitProvider limit = (.error halt, w')) :
    halt.IsOfCall := by
  unfold awaitProvider at h
  split at h
  · cases h
  · dsimp only at h
    split at h
    · cases h
    · rw [pause_halt h]
      trivial

theorem look_halt {limit : Nat} (h : w.look limit = (.error halt, w')) : halt.IsOfCall := by
  unfold look at h
  split at h <;> rename_i waited <;> cases h
  exact awaitProvider_halt waited

theorem refresh_halt {limit : Nat} (h : w.refresh limit = (.error halt, w')) : halt.IsOfCall := by
  unfold refresh at h
  dsimp only at h
  split at h <;> rename_i waited <;> cases h
  exact awaitProvider_halt waited

theorem authorize_error {headers : Headers} {session : Option Session} {e : ClientError}
    (h : authorize headers session = .error e) : e.IsOfCall := by
  unfold authorize at h
  split at h
  · cases h
  · split at h <;> cases h
    trivial

theorem exchange_halt {limit : Nat} {u : Url} {headers : Headers} {session : Option Session}
    (h : w.exchange limit u r headers session = (.error halt, w')) : halt.IsOfCall := by
  unfold exchange at h
  split at h
  case h_1 sent =>
    cases h
    exact dispatch_halt sent
  case h_2 =>
    split at h
    case isFalse => cases h
    case isTrue =>
      split at h
      case h_1 refreshed =>
        cases h
        exact refresh_halt refreshed
      case h_2 =>
        split at h
        case h_1 refused =>
          cases h
          exact authorize_error refused
        case h_2 =>
          split at h <;> rename_i replayed <;> cases h
          exact dispatch_halt replayed
      case h_3 => cases h

theorem deliver_halt {limit : Nat} (h : w.deliver c limit r = (.error halt, w')) :
    halt.IsOfCall := by
  unfold deliver at h
  split at h
  case h_1 refused =>
    cases h
    exact Config.endpoint_error refused
  case h_2 =>
    split at h
    case h_1 looked =>
      cases h
      exact look_halt looked
    case h_2 =>
      split at h
      case h_1 refused =>
        cases h
        exact authorize_error refused
      case h_2 =>
        split at h
        case h_1 attached =>
          cases h
          exact attachCsrf_halt attached
        case h_2 => exact exchange_halt h

theorem receive_halt (h : w.receive c r = (.error halt, w')) : halt.IsOfCall := by
  unfold receive at h
  dsimp only at h
  split at h
  case h_1 delivered =>
    cases h
    exact deliver_halt delivered
  case h_2 =>
    split at h <;> rename_i read <;> cases h
    exact readBody_halt read

theorem release_error {session : Option Session} {raw : Response} {e : ClientError}
    (h : release c session raw = .error e) : e.IsOfCall := by
  unfold release at h
  split at h
  · split at h <;> cases h
    trivial
  · cases h

/-- One call ends with a missed deadline, a broken transport, a violation, or a URL or header field
that cannot be built. -/
theorem send_error {e : ClientError} (h : w.send c r = (.error e, w')) : e.IsOfCall := by
  cases received : w.receive c r with
  | mk result w₁ =>
    cases result with
    | error halt =>
      have ended := (send_of_halt received).symm.trans h
      have failure := receive_halt received
      cases ended
      cases halt <;> exact failure
    | ok raw =>
      have ended := (send_of_receive received).symm.trans h
      exact release_error (congrArg Prod.fst ended)

end World

end TenantLink
