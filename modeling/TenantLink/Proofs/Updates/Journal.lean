/-!
# The journal of an update stream

A journal lists what a run shows of the stream, each with its time. `Paced` is the order that
reconnecting keeps: a loss is followed by nothing but refusals until the stream is closed or its
timer fires, which happens once, after the delay. `Paced.aftermath` and `Paced.cause` say so of
every place in the journal.
-/

namespace TenantLink

inductive Sign
  /-- Someone asked for the stream to be opened, and was told whether an attempt began. -/
  | opened (begun : Bool)
  | closed
  /-- The connection was lost. -/
  | lost
  /-- A timer came to its end, and an attempt began or not. -/
  | fired (begun : Bool)
  /-- A request for the stream went out. -/
  | asked
  deriving DecidableEq, Repr

def Sign.isFired : Sign → Bool
  | .fired _ => true
  | _ => false

/-- The signs of a run with their times, first to last. -/
abbrev Journal := List (Nat × Sign)

namespace Journal

variable {delay : Nat} {journal before after : Journal} {pending : Option Nat}

/-- Whether all that shows for `delay` from the time `T` on is that the stream is not opened. -/
def Quiet (delay T : Nat) (entries : Journal) : Prop :=
  ∀ entry ∈ entries, entry.2 = .opened false ∧ T ≤ entry.1 ∧ entry.1 ≤ T + delay

/-- Whether a time lies in the delay behind the loss that is pending, if one is. -/
def Awaits (delay : Nat) (pending : Option Nat) (time : Nat) : Prop :=
  ∀ T ∈ pending, T ≤ time ∧ time ≤ T + delay

/-- The journals of a stream that connects again once, `delay` after each loss, and the time of the
loss whose timer has not fired. -/
inductive Paced (delay : Nat) : Journal → Option Nat → Prop
  | nil : Paced delay [] none
  | opened {journal : Journal} {time : Nat} {begun : Bool} : Paced delay journal none →
    Paced delay (journal ++ [(time, .opened begun)]) none
  | refused {journal : Journal} {T time : Nat} : Paced delay journal (some T) → T ≤ time →
    time ≤ T + delay → Paced delay (journal ++ [(time, .opened false)]) (some T)
  | asked {journal : Journal} {time : Nat} : Paced delay journal none →
    Paced delay (journal ++ [(time, .asked)]) none
  | lost {journal : Journal} {time : Nat} : Paced delay journal none →
    Paced delay (journal ++ [(time, .lost)]) (some time)
  | closed {journal : Journal} {pending : Option Nat} {time : Nat} :
    Paced delay journal pending → Awaits delay pending time →
    Paced delay (journal ++ [(time, .closed)]) none
  | fired {journal : Journal} {T : Nat} {begun : Bool} : Paced delay journal (some T) →
    Paced delay (journal ++ [(T + delay, .fired begun)]) none

/-- What follows a loss at the time `T`: refusals, and behind them nothing yet, or the end of the
stream, or the timer of the loss at its time. -/
inductive Aftermath (delay T : Nat) : Journal → Option Nat → Prop
  | waiting {quiet : Journal} : Quiet delay T quiet → Aftermath delay T quiet (some T)
  | closed {quiet rest : Journal} {time : Nat} {pending : Option Nat} : Quiet delay T quiet →
    T ≤ time → time ≤ T + delay → Aftermath delay T (quiet ++ (time, .closed) :: rest) pending
  | fired {quiet rest : Journal} {begun : Bool} {pending : Option Nat} : Quiet delay T quiet →
    Aftermath delay T (quiet ++ (T + delay, .fired begun) :: rest) pending

/-! ### Places in a journal -/

theorem quiet_nil (delay T : Nat) : Quiet delay T [] := by
  intro entry none
  cases none

theorem Quiet.refused {T time : Nat} (h : Quiet delay T journal) (least : T ≤ time)
    (most : time ≤ T + delay) : Quiet delay T (journal ++ [(time, .opened false)]) := by
  intro entry member
  rcases List.mem_append.mp member with old | new
  · exact h entry old
  · rw [List.mem_singleton.mp new]
    exact ⟨rfl, least, most⟩

/-- An entry of a longer journal is the last one, or was there before. -/
theorem place_concat {last entry : Nat × Sign} (h : journal ++ [last] = before ++ entry :: after) :
    before = journal ∧ entry = last ∧ after = [] ∨
      ∃ earlier, journal = before ++ entry :: earlier ∧ after = earlier ++ [last] := by
  rcases List.eq_nil_or_concat after with rfl | ⟨earlier, final, rfl⟩
  · obtain ⟨same, single⟩ := List.append_inj' h rfl
    exact .inl ⟨same.symm, (List.singleton_inj.mp single).symm, rfl⟩
  · rw [List.concat_eq_append, ← List.cons_append, ← List.append_assoc] at h
    obtain ⟨same, single⟩ := List.append_inj' h rfl
    rw [List.singleton_inj.mp single]
    exact .inr ⟨earlier, same, List.concat_eq_append⟩

/-- The loss that is pending stands in the journal, and since then all was quiet. -/
theorem Paced.loss {T : Nat} (h : Paced delay journal (some T)) :
    ∃ earlier quiet, journal = earlier ++ (T, .lost) :: quiet ∧ Quiet delay T quiet := by
  generalize same : some T = pending at h
  induction h with
  | refused _ least most ih =>
    cases same
    obtain ⟨earlier, quiet, rfl, still⟩ := ih rfl
    exact ⟨earlier, _, by rw [List.append_assoc, List.cons_append], still.refused least most⟩
  | lost =>
    cases same
    exact ⟨_, [], rfl, quiet_nil delay T⟩
  | _ => cases same

/-- A timer fires for a loss of its own, `delay` later. -/
theorem Paced.cause (h : Paced delay journal pending) {time : Nat} {begun : Bool}
    (place : journal = before ++ (time, .fired begun) :: after) :
    ∃ earlier T quiet, before = earlier ++ (T, .lost) :: quiet ∧ Quiet delay T quiet ∧
      time = T + delay := by
  induction h generalizing after with
  | nil => simp at place
  | fired paced ih =>
    rcases place_concat place with ⟨rfl, same, rfl⟩ | ⟨earlier, there, rfl⟩
    · cases same
      obtain ⟨earlier, quiet, place, still⟩ := paced.loss
      exact ⟨earlier, _, quiet, place, still, rfl⟩
    · exact ih there
  | opened _ ih | refused _ _ _ ih | asked _ ih | lost _ ih | closed _ _ ih =>
    rcases place_concat place with ⟨-, same, -⟩ | ⟨earlier, there, rfl⟩
    · cases same
    · exact ih there

/-- What follows a loss goes on when one more entry comes, if that may come while it is pending. -/
theorem Aftermath.concat {T : Nat} {pending' : Option Nat} {last : Nat × Sign}
    (h : Aftermath delay T after pending)
    (waits : pending = some T → Quiet delay T after →
      Aftermath delay T (after ++ [last]) pending') :
    Aftermath delay T (after ++ [last]) pending' := by
  cases h with
  | waiting quiet => exact waits rfl quiet
  | closed quiet least most =>
    rw [List.append_assoc, List.cons_append]
    exact .closed quiet least most
  | fired quiet =>
    rw [List.append_assoc, List.cons_append]
    exact .fired quiet

theorem Paced.aftermath (h : Paced delay journal pending) {T : Nat}
    (place : journal = before ++ (T, .lost) :: after) : Aftermath delay T after pending := by
  induction h generalizing after with
  | nil => simp at place
  | lost _ ih =>
    rcases place_concat place with ⟨-, same, rfl⟩ | ⟨earlier, there, rfl⟩
    · cases same
      exact .waiting (quiet_nil delay _)
    · exact (ih there).concat fun none => by cases none
  | opened _ ih | asked _ ih =>
    rcases place_concat place with ⟨-, same, -⟩ | ⟨earlier, there, rfl⟩
    · cases same
    · exact (ih there).concat fun none => by cases none
  | refused _ least most ih =>
    rcases place_concat place with ⟨-, same, -⟩ | ⟨earlier, there, rfl⟩
    · cases same
    · refine (ih there).concat fun same quiet => ?_
      obtain rfl := Option.some.inj same
      exact .waiting (quiet.refused least most)
  | closed _ awaits ih =>
    rcases place_concat place with ⟨-, same, -⟩ | ⟨earlier, there, rfl⟩
    · cases same
    · refine (ih there).concat fun same quiet => ?_
      obtain ⟨least, most⟩ := awaits T same
      exact .closed quiet least most
  | fired _ ih =>
    rcases place_concat place with ⟨-, same, -⟩ | ⟨earlier, there, rfl⟩
    · cases same
    · refine (ih there).concat fun same quiet => ?_
      obtain rfl := Option.some.inj same
      exact .fired quiet

/-! ### Counting -/

def count (p : Sign → Bool) (journal : Journal) : Nat := journal.countP fun entry => p entry.2

theorem count_append (p : Sign → Bool) (journal more : Journal) :
    count p (journal ++ more) = count p journal + count p more := List.countP_append

theorem count_single (p : Sign → Bool) (entry : Nat × Sign) :
    count p [entry] = if p entry.2 then 1 else 0 := List.countP_singleton

theorem count_eq_zero {p : Sign → Bool} (none : ∀ entry ∈ journal, p entry.2 = false) :
    count p journal = 0 :=
  List.countP_eq_zero.mpr fun entry member => by simp [none entry member]

theorem count_le_count {p q : Sign → Bool} (implies : ∀ sign, p sign = true → q sign = true) :
    count p journal ≤ count q journal :=
  List.countP_mono_left fun entry _ => implies entry.2

theorem Paced.fired_le (h : Paced delay journal pending) :
    journal.count Sign.isFired + pending.toList.length ≤ journal.count (· = .lost) := by
  induction h with
  | nil => exact Nat.le_refl 0
  | opened _ ih | refused _ _ _ ih | asked _ ih | lost _ ih | closed _ _ ih | fired _ ih =>
    rw [count_append, count_append, count_single, count_single]
    simp [Sign.isFired] at ih ⊢
    omega

end Journal

end TenantLink
