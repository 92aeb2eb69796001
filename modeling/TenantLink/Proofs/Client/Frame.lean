import TenantLink.Client.Retry

/-!
# What a call leaves alone

Transport and CSRF tokens change the clock, the backend and the cookies only; the session provider
is touched by looks and refreshes alone. No part of a call touches what the user sees of the world:
`deliver_keeps`.
-/

namespace TenantLink.World

/-- The user's side of the world is as it was: the time of day, the toasts and the waits. -/
structure Keeps (w w' : World) : Prop where
  wall : w'.wall = w.wall
  toasts : w'.toasts = w.toasts
  waits : w'.waits = w.waits

/-- And so is the session provider. -/
structure Quiet (w w' : World) : Prop extends Keeps w w' where
  provider : w'.provider = w.provider

variable {w w' : World} {c : Config} {r : Request}

theorem Keeps.refl (w : World) : Keeps w w := ⟨rfl, rfl, rfl⟩

theorem Keeps.trans {x : World} (first : Keeps w w') (second : Keeps w' x) : Keeps w x :=
  ⟨second.wall.trans first.wall, second.toasts.trans first.toasts, second.waits.trans first.waits⟩

theorem Quiet.refl (w : World) : Quiet w w := ⟨.refl w, rfl⟩

theorem Quiet.trans {x : World} (first : Quiet w w') (second : Quiet w' x) : Quiet w x :=
  ⟨first.toKeeps.trans second.toKeeps, second.provider.trans first.provider⟩

/-! ### Transport -/

theorem expire_quiet (w : World) (limit : Nat) : Quiet w (w.expire limit) := ⟨⟨rfl, rfl, rfl⟩, rfl⟩

theorem pause_quiet {limit ms : Nat} {result : Except Halt Unit}
    (h : w.pause limit ms = (result, w')) : Quiet w w' := by
  unfold pause at h
  split at h <;> cases h <;> exact ⟨⟨rfl, rfl, rfl⟩, rfl⟩

theorem transmit_quiet {u : Url} {method : Method} {headers : Headers} {body : Option Bytes}
    {reaction : Reaction} (h : w.transmit u method headers body = some (reaction, w')) :
    Quiet w w' := by
  unfold transmit at h
  split at h
  · cases h
    exact ⟨⟨rfl, rfl, rfl⟩, rfl⟩
  · cases h

theorem dispatch_quiet {limit : Nat} {u : Url} {method : Method} {headers : Headers}
    {body : Option Bytes} {result : Except Halt Reply}
    (h : w.dispatch limit u method headers body = (result, w')) : Quiet w w' := by
  unfold dispatch at h
  split at h
  case h_1 =>
    cases h
    exact .refl w
  case h_2 sent =>
    cases h
    exact (transmit_quiet sent).trans (expire_quiet _ _)
  case h_3 sent =>
    split at h <;> rename_i waited <;> cases h <;>
      exact (transmit_quiet sent).trans (pause_quiet waited)
  case h_4 sent =>
    split at h <;> rename_i waited <;> cases h
    · have quiet := (transmit_quiet sent).trans (pause_quiet waited)
      exact ⟨⟨quiet.wall, quiet.toasts, quiet.waits⟩, quiet.provider⟩
    · exact (transmit_quiet sent).trans (pause_quiet waited)

theorem readBody_quiet {limit : Nat} {reply : Reply} {result : Except Halt Bytes}
    (h : w.readBody limit reply = (result, w')) : Quiet w w' := by
  unfold readBody at h
  split at h
  case h_1 waited =>
    cases h
    exact pause_quiet waited
  case h_2 waited =>
    have quiet := pause_quiet waited
    split at h <;> cases h
    · exact quiet
    · exact quiet
    · exact quiet.trans (expire_quiet _ _)

/-! ### CSRF tokens -/

theorem askForToken_quiet {outer : Option Nat} {result : Except Halt (Option String)}
    (h : w.askForToken c outer = (result, w')) : Quiet w w' := by
  unfold askForToken at h
  split at h
  case h_1 =>
    cases h
    exact .refl w
  case h_2 =>
    split at h
    case h_1 sent =>
      cases h
      exact dispatch_quiet sent
    case h_2 sent =>
      have quiet := dispatch_quiet sent
      split at h
      case isFalse =>
        cases h
        exact quiet
      case isTrue =>
        split at h
        case h_1 read =>
          cases h
          exact quiet.trans (readBody_quiet read)
        case h_2 read =>
          split at h <;> cases h <;> exact quiet.trans (readBody_quiet read)

theorem bootstrapToken_quiet {outer : Option Nat} {result : Except Halt (Option String)}
    (h : w.bootstrapToken c outer = (result, w')) : Quiet w w' := by
  unfold bootstrapToken at h
  split at h
  case h_1 asked =>
    cases h
    have quiet := askForToken_quiet asked
    exact ⟨⟨quiet.wall, quiet.toasts, quiet.waits⟩, quiet.provider⟩
  case h_2 asked =>
    split at h <;> cases h <;> exact askForToken_quiet asked
  case h_3 asked =>
    cases h
    exact askForToken_quiet asked

theorem csrfToken_quiet {outer : Option Nat} {result : Except Halt (Option String)}
    (h : w.csrfToken c outer = (result, w')) : Quiet w w' := by
  unfold csrfToken at h
  split at h
  · cases h
    exact .refl w
  · exact bootstrapToken_quiet h

theorem attachCsrf_quiet {limit : Nat} {method : Method} {headers : Headers}
    {result : Except Halt Headers} (h : w.attachCsrf c limit method headers = (result, w')) :
    Quiet w w' := by
  unfold attachCsrf at h
  split at h
  · split at h <;> rename_i token <;> cases h <;> exact csrfToken_quiet token
  · cases h
    exact .refl w

/-! ### The session provider -/

theorem awaitProvider_frame {limit : Nat} {result : Except Halt Unit}
    (h : w.awaitProvider limit = (result, w')) :
    Keeps w w' ∧ ∃ delays, w'.provider = { w.provider with delays } := by
  unfold awaitProvider at h
  split at h
  · cases h
    exact ⟨.refl w, _, rfl⟩
  · dsimp only at h
    split at h
    · cases h
      exact ⟨⟨rfl, rfl, rfl⟩, _, rfl⟩
    · have quiet := pause_quiet h
      exact ⟨⟨quiet.wall, quiet.toasts, quiet.waits⟩, _, quiet.provider⟩

theorem look_keeps {limit : Nat} {result : Except Halt (Option Session)}
    (h : w.look limit = (result, w')) : Keeps w w' := by
  unfold look at h
  split at h <;> rename_i waited <;> cases h
  · exact (awaitProvider_frame waited).1
  · have kept := (awaitProvider_frame waited).1
    exact ⟨kept.wall, kept.toasts, kept.waits⟩

theorem refresh_keeps {limit : Nat} {result : Except Halt RefreshOutcome}
    (h : w.refresh limit = (result, w')) : Keeps w w' := by
  unfold refresh at h
  dsimp only at h
  split at h <;> rename_i waited <;> cases h <;>
    (have kept := (awaitProvider_frame waited).1
     exact ⟨kept.wall, kept.toasts, kept.waits⟩)

/-! ### A whole call -/

theorem exchange_keeps {limit : Nat} {u : Url} {headers : Headers} {session : Option Session}
    {result : Except Halt (Reply × Option Session)}
    (h : w.exchange limit u r headers session = (result, w')) : Keeps w w' := by
  unfold exchange at h
  split at h
  case h_1 sent =>
    cases h
    exact (dispatch_quiet sent).toKeeps
  case h_2 sent =>
    have kept := (dispatch_quiet sent).toKeeps
    split at h
    case isFalse =>
      cases h
      exact kept
    case isTrue =>
      split at h
      case h_1 refreshed =>
        cases h
        exact kept.trans (refresh_keeps refreshed)
      case h_2 refreshed =>
        have kept := kept.trans (refresh_keeps refreshed)
        split at h
        · cases h
          exact kept
        · split at h <;> rename_i replayed <;> cases h <;>
            exact kept.trans (dispatch_quiet replayed).toKeeps
      case h_3 refreshed =>
        cases h
        exact kept.trans (refresh_keeps refreshed)

theorem deliver_keeps {limit : Nat} {result : Except Halt (Reply × Option Session)}
    (h : w.deliver c limit r = (result, w')) : Keeps w w' := by
  unfold deliver at h
  split at h
  · cases h
    exact .refl w
  · split at h
    case h_1 looked =>
      cases h
      exact look_keeps looked
    case h_2 looked =>
      have kept := look_keeps looked
      split at h
      · cases h
        exact kept
      · split at h
        case h_1 attached =>
          cases h
          exact kept.trans (attachCsrf_quiet attached).toKeeps
        case h_2 attached =>
          exact (kept.trans (attachCsrf_quiet attached).toKeeps).trans (exchange_keeps h)

end TenantLink.World
