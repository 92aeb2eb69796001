import Mathlib
import TenantLink.Proofs.Application.Audience
import TenantLink.Proofs.Application.Past

/-!
# What a teardown leaves behind

A context that was torn down goes on as a new one would: nothing of the session before is seen any
more, but that ids of toasts go on from where they were. As long as nobody opens the stream again,
requests, jobs and toasts come of what the application does itself.
-/

namespace TenantLink

namespace Context

variable {x : Context}

/-- A new context in the place of another one, with as many handles on its stream. -/
def renewed (x : Context) : Context :=
  { ofConfig x.config
      { x.world with
        backend := { x.world.backend with received := [] }
        toasts := {}
        waits := [] } with
    clones := x.clones }

/-- Requests, jobs, toasts and what is published stay the same. -/
structure Unchanged (x y : Context) : Prop where
  received : y.world.backend.received = x.world.backend.received
  jobs : y.jobs = x.jobs
  toasts : y.world.toasts = x.world.toasts
  channel : y.channel = x.channel

theorem Unchanged.refl (x : Context) : Unchanged x x := ⟨rfl, rfl, rfl, rfl⟩

theorem closeUnheld_unchanged (x : Context) : x.Unchanged x.closeUnheld := by
  unfold closeUnheld
  split
  · exact ⟨rfl, rfl, rfl, rfl⟩
  · exact .refl x

theorem release_unchanged {rest : Context} (h : x.Unchanged rest) : x.Unchanged (x.release rest) := by
  rcases x.release_cases rest with kept | gone
  · rw [kept]
    exact .refl x
  · rw [gone]
    exact h

theorem Still.unchanged (h : x.Still) {a : Act} (closed : a.opens = false)
    (foreign : a.isOwn = false) : x.Unchanged (x.perform a).2 := by
  by_cases ofStream : a.ofStream = true
  · obtain ⟨time, leads⟩ := h.passes ofStream
    rw [leads]
    exact ⟨rfl, rfl, rfl, rfl⟩
  · cases a with
    | csrfCookie | addCookie | replaceSession | pass | disconnect => exact ⟨rfl, rfl, rfl, rfl⟩
    | clone =>
      rw [Context.perform]
      split <;> exact ⟨rfl, rfl, rfl, rfl⟩
    | dropClone =>
      obtain ⟨received, jobs, toasts, channel⟩ :=
        closeUnheld_unchanged { x with clones := x.clones - 1 }
      exact release_unchanged ⟨received, jobs, toasts, channel⟩
    | drop =>
      obtain ⟨received, jobs, toasts, channel⟩ := closeUnheld_unchanged { x with held := false }
      exact release_unchanged ⟨received, jobs, toasts, channel⟩
    | init | openStream => cases closed
    | call | resolveToken | teardown | upsert | clearJobs | addToast | warnRateLimit | dismiss
    | clearToasts => cases foreign
    | _ => exact (ofStream rfl).elim

end Context

namespace Scene

variable {s : Scene}

end Scene

end TenantLink
