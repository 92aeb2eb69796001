import TenantLink.Toast

/-!
# The toasts that are shown

What pruning, pushing and the warning about too many requests do to the toasts that are shown. All
that a store does it would also do if other toasts had been shown before, with greater ids.
-/

namespace TenantLink

namespace ToastStore

variable (s : ToastStore) (now : Span)

/-- What is no longer shown is not missed. -/
@[simp]
theorem visible_prune : (s.prune now).visible now = s.visible now := by
  simp [prune, visible, List.filter_filter]

/-- A new toast is shown behind the others, if it has any display time. -/
theorem visible_push (message : String) (severity : Severity) (time : Option Span) :
    (s.push now message severity time).visible now =
      s.visible now ++
        if time.all fun d => 0 < d.nanos then
          [{ id := s.next, message, severity, createdAt := now
             expiresAt := time.map fun d => ⟨now.nanos + d.nanos⟩ }]
        else [] := by
  unfold push visible
  rw [List.filter_append, List.filter_cons, List.filter_nil]
  cases time with
  | none => simp [Toast.isVisible]
  | some d => simp [Toast.isVisible]

/-- The warning about too many requests comes last, if it was not shown already. -/
theorem visible_warnRateLimit :
    (s.warnRateLimit now).2.visible now = s.visible now ∨
      ∃ toast, toast.message = Toast.rateLimitMessage ∧
        (s.warnRateLimit now).2.visible now = s.visible now ++ [toast] := by
  unfold warnRateLimit
  dsimp only
  split
  · exact .inl (s.visible_prune now)
  · have pushed := (s.prune now).visible_push now Toast.rateLimitMessage .warning
      (some Toast.rateLimitTime)
    rw [visible_prune, if_pos (by decide)] at pushed
    exact .inr ⟨_, rfl, pushed⟩

end ToastStore

/-! ### Behind other toasts -/

/-- The toast that it would be if `k` toasts had been shown before. -/
def Toast.after (k : Nat) (t : Toast) : Toast := { t with id := t.id + k }

namespace ToastStore

/-- The store that it would be if `k` toasts had been shown before, and forgotten. -/
def after (k : Nat) (s : ToastStore) : ToastStore where
  toasts := s.toasts.map (Toast.after k)
  rateLimit := s.rateLimit.map (· + k)
  next := s.next + k

variable (k : Nat) (s : ToastStore) (now : Span)

theorem visible_after : (s.after k).visible now = (s.visible now).map (Toast.after k) := by
  rw [visible, after, List.filter_map]
  rfl

theorem rateLimit_after (toasts : List Toast) (id : Option Nat) :
    (id.map (· + k)).filter (fun id => (toasts.map (Toast.after k)).any (·.id = id)) =
      (id.filter fun id => toasts.any (·.id = id)).map (· + k) := by
  cases id with
  | none => rfl
  | some id =>
    have same : (toasts.map (Toast.after k)).any (·.id = id + k) = toasts.any (·.id = id) := by
      simp [List.any_map, Function.comp_def, Toast.after]
    rw [Option.map_some, Option.filter_some, Option.filter_some, same]
    split <;> rfl

theorem prune_after : (s.after k).prune now = (s.prune now).after k := by
  unfold prune
  rw [visible_after]
  dsimp only [after]
  rw [rateLimit_after]

theorem push_after (message : String) (severity : Severity) (time : Option Span) :
    (s.after k).push now message severity time = (s.push now message severity time).after k := by
  simp only [push, after, List.map_append, List.map_cons, List.map_nil, Toast.after]
  congr 1
  omega

theorem add_after (message : String) (severity : Severity) (time : Option Span) :
    (s.after k).add now message severity time =
      ((s.add now message severity time).1 + k, (s.add now message severity time).2.after k) := by
  rw [add, add, prune_after, push_after]
  rfl

theorem warnRateLimit_after :
    (s.after k).warnRateLimit now =
      ((s.warnRateLimit now).1 + k, (s.warnRateLimit now).2.after k) := by
  unfold warnRateLimit
  rw [prune_after]
  have shown : ((s.prune now).after k).rateLimit = (s.prune now).rateLimit.map (· + k) := rfl
  dsimp only
  rw [shown]
  cases (s.prune now).rateLimit with
  | some id => rfl
  | none =>
    simp only [Option.map_none]
    rw [push_after]
    rfl

theorem dismiss_after (id : Nat) : (s.after k).dismiss (id + k) = (s.dismiss id).after k := by
  have toasts : (s.after k).toasts.filter (·.id ≠ id + k) =
      (s.toasts.filter (·.id ≠ id)).map (Toast.after k) := by
    rw [after, List.filter_map]
    simp [Function.comp_def, Toast.after]
  have same : (s.after k).rateLimit = some (id + k) ↔ s.rateLimit = some id := by simp [after]
  unfold dismiss
  rw [toasts]
  by_cases shown : s.rateLimit = some id
  · rw [if_pos shown, if_pos (same.mpr shown)]
    rfl
  · rw [if_neg shown, if_neg (mt same.mp shown)]
    rfl

/-- A toast from before is no longer there to be dismissed. -/
theorem dismiss_earlier {id : Nat} (earlier : id < k) : (s.after k).dismiss id = s.after k := by
  have other (n : Nat) : n + k ≠ id := by omega
  have toasts : (s.after k).toasts.filter (·.id ≠ id) = (s.after k).toasts := by
    refine List.filter_eq_self.mpr fun t member => ?_
    obtain ⟨t, -, rfl⟩ := List.mem_map.mp member
    simp [Toast.after, other t.id]
  have gone : (s.after k).rateLimit ≠ some id := by simp [after, other]
  unfold dismiss
  rw [toasts, if_neg gone]

end ToastStore

end TenantLink
