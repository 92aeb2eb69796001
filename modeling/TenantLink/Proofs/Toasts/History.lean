import Mathlib
import TenantLink.Proofs.Toasts

/-!
# The history of the toasts

A record of every toast that was ever made, and whether it was dismissed or cleared since, tells
what is shown at any later time, and which warning about too many requests is given out again:
`ToastStore.run_shows`.
-/

namespace TenantLink

inductive ToastAct
  | add (message : String) (severity : Severity) (time : Option Span)
  | warn
  | dismiss (id : Nat)
  | clear
  deriving DecidableEq

structure ToastEvent where
  now : Span
  act : ToastAct
  deriving DecidableEq

/-- The display time that goes with what an event makes. -/
def ToastAct.time : ToastAct → Option Span
  | add _ _ time => time
  | warn => some Toast.rateLimitTime
  | _ => none

/-- Whether the clock can tell the end of that display time. -/
def ToastEvent.fitsClock (e : ToastEvent) : Bool :=
  e.act.time.all fun d => e.now.nanos + d.nanos < Toast.clockEnd

theorem ToastEvent.fitsClock_warn {now : Span} :
    (ToastEvent.mk now .warn).fitsClock = true ↔
      now.nanos + Toast.rateLimitTime.nanos < Toast.clockEnd := by
  unfold fitsClock ToastAct.time
  rw [Option.all_some]
  exact Bool.decide_iff _

/-- A toast that was made; `isWarning` says whether it is the one about too many requests. -/
structure ToastRecord where
  toast : Toast
  isWarning : Bool
  /-- Dismissed or cleared since. -/
  isGone : Bool := false
  deriving DecidableEq

theorem Toast.isVisible_earlier {t : Toast} {now later : Span}
    (order : now.nanos ≤ later.nanos) (visible : t.isVisible later = true) :
    t.isVisible now = true := by
  unfold Toast.isVisible at *
  cases ends : t.expiresAt with
  | none => rfl
  | some e =>
    simp only [ends, Option.all_some, decide_eq_true_eq] at *
    omega

/-! ### What a history makes of the toasts -/

def ToastAct.removes (id : Nat) : ToastAct → Bool
  | dismiss other => other = id
  | clear => true
  | _ => false

namespace ToastRecord

def isShown (now : Span) (r : ToastRecord) : Bool := !r.isGone && r.toast.isVisible now

def isShownWarning (now : Span) (r : ToastRecord) : Bool := r.isWarning && r.isShown now

def behind (act : ToastAct) (r : ToastRecord) : ToastRecord :=
  { r with isGone := r.isGone || act.removes r.toast.id }

/-- What has become of a record behind some events. -/
def behindAll (events : List ToastEvent) (r : ToastRecord) : ToastRecord :=
  { r with isGone := r.isGone || events.any (·.act.removes r.toast.id) }

theorem behindAll_cons (e : ToastEvent) (events : List ToastEvent) (r : ToastRecord) :
    behindAll (e :: events) r = behindAll events (behind e.act r) := by
  simp [behindAll, behind, Bool.or_assoc]

theorem isShownWarning_behindAll (now : Span) (events : List ToastEvent) (r : ToastRecord) :
    isShownWarning now (behindAll events r) = true ↔
      isShownWarning now r = true ∧ ∀ e ∈ events, e.act.removes r.toast.id = false := by
  simp only [isShownWarning, isShown, behindAll, Bool.not_or, Bool.and_eq_true, Bool.not_eq_true',
    List.any_eq_false, Bool.not_eq_true]
  tauto

def newToast (id : Nat) (now : Span) (message : String) (severity : Severity) (time : Option Span) :
    Toast :=
  { id, message, severity, createdAt := now, expiresAt := time.map fun d => ⟨now.nanos + d.nanos⟩ }

def newWarning (id : Nat) (now : Span) : ToastRecord where
  toast := newToast id now Toast.rateLimitMessage .warning (some Toast.rateLimitTime)
  isWarning := true

/-- The toast that an event makes when those of `log` were made before. Toasts are numbered in the
order in which they are made. A warning is only made while none is shown. -/
def made? (log : List ToastRecord) (e : ToastEvent) : Option ToastRecord :=
  match e.act with
  | .add message severity time => some ⟨newToast log.length e.now message severity time, false, false⟩
  | .warn => if log.any (isShownWarning e.now) then none else some (newWarning log.length e.now)
  | .dismiss _ | .clear => none

def extend (log : List ToastRecord) (e : ToastEvent) : List ToastRecord :=
  log.map (behind e.act) ++ (made? log e).toList

/-- All toasts that some events made, in order. -/
def recordsOf (events : List ToastEvent) : List ToastRecord := events.foldl extend []

theorem recordsOf_concat (events : List ToastEvent) (e : ToastEvent) :
    recordsOf (events ++ [e]) = extend (recordsOf events) e := by
  simp [recordsOf]

/-- Whether the clock can tell when a toast ends. -/
def endsInTime (r : ToastRecord) : Bool :=
  r.toast.expiresAt.all fun e => e.nanos < Toast.clockEnd

theorem endsInTime_newToast (id : Nat) (now : Span) (message : String) (severity : Severity)
    (time : Option Span) (isWarning : Bool) :
    endsInTime ⟨newToast id now message severity time, isWarning, false⟩ =
      time.all fun d => now.nanos + d.nanos < Toast.clockEnd := by
  cases time <;> rfl

theorem made?_endsInTime {log : List ToastRecord} {e : ToastEvent} (fits : e.fitsClock = true) :
    ∀ r ∈ made? log e, r.endsInTime = true := by
  obtain ⟨now, act⟩ := e
  unfold ToastEvent.fitsClock at fits
  intro r made
  cases act with
  | add message severity time =>
    obtain rfl := Option.some.inj made
    rw [endsInTime_newToast]
    exact fits
  | warn =>
    unfold made? at made
    dsimp only at made
    split at made
    · cases made
    · obtain rfl := Option.some.inj made
      rw [newWarning, endsInTime_newToast]
      exact fits
  | dismiss | clear => cases made

/-- Every toast that was made has an end that the clock can tell, if it has any. -/
theorem recordsOf_endsInTime {events : List ToastEvent}
    (fits : ∀ e ∈ events, e.fitsClock = true) : ∀ r ∈ recordsOf events, r.endsInTime = true := by
  induction events using List.reverseRecOn with
  | nil => simp [recordsOf]
  | append_singleton events e ih =>
    have known := ih fun earlier member => fits earlier (List.mem_append_left _ member)
    rw [recordsOf_concat]
    intro r member
    rcases List.mem_append.mp member with old | new
    · obtain ⟨r, there, rfl⟩ := List.mem_map.mp old
      exact known r there
    · exact made?_endsInTime (fits e (by simp)) r (Option.mem_toList.mp new)

end ToastRecord

namespace ToastStore

open ToastRecord

def perform (s : ToastStore) (e : ToastEvent) : ToastStore :=
  match e.act with
  | .add message severity time => (s.add e.now message severity time).2
  | .warn => (s.warnRateLimit e.now).2
  | .dismiss id => s.dismiss id
  | .clear => s.clear

def run (events : List ToastEvent) : ToastStore := events.foldl perform {}

variable {s : ToastStore} {log : List ToastRecord} {now later : Span}

theorem visible_prune_later (order : now.nanos ≤ later.nanos) :
    (s.prune now).visible later = s.visible later := by
  unfold prune visible
  rw [List.filter_filter]
  refine List.filter_congr fun t _ => ?_
  have earlier := Toast.isVisible_earlier (t := t) order
  cases seen : t.isVisible later <;> simp_all

/-- What the log of a store tells of it, as of `now`. -/
structure Tracks (s : ToastStore) (log : List ToastRecord) (now : Span) : Prop where
  shown : ∀ later : Span, now.nanos ≤ later.nanos →
    s.visible later = (log.filter (isShown later)).map toast
  next : s.next = log.length
  ids : log.map (·.toast.id) = List.range log.length
  held : ∀ id, s.rateLimit = some id → ∃ r ∈ log, r.toast.id = id ∧ r.isWarning = true
  warned : ∀ r ∈ log, isShownWarning now r = true → s.rateLimit = some r.toast.id

theorem Tracks.eq_of_id (h : s.Tracks log now) {r other : ToastRecord} (member : r ∈ log)
    (member' : other ∈ log) (same : r.toast.id = other.toast.id) : r = other := by
  have distinct : (log.map (·.toast.id)).Nodup := h.ids ▸ List.nodup_range
  exact List.inj_on_of_nodup_map distinct member member' same

theorem isShown_earlier (order : now.nanos ≤ later.nanos) {r : ToastRecord}
    (shown : isShown later r = true) : isShown now r = true := by
  simp only [isShown, Bool.and_eq_true] at *
  exact ⟨shown.1, Toast.isVisible_earlier order shown.2⟩

theorem isShownWarning_earlier (order : now.nanos ≤ later.nanos) {r : ToastRecord}
    (shown : isShownWarning later r = true) : isShownWarning now r = true := by
  simp only [isShownWarning, Bool.and_eq_true] at *
  exact ⟨shown.1, isShown_earlier order shown.2⟩

theorem Tracks.wait (h : s.Tracks log now) (order : now.nanos ≤ later.nanos) :
    s.Tracks log later where
  shown last order' := h.shown last (Nat.le_trans order order')
  next := h.next
  ids := h.ids
  held := h.held
  warned r member shown := h.warned r member (isShownWarning_earlier order shown)

theorem newToast_visible (id : Nat) (now : Span) (message : String) (severity : Severity)
    {time : Span} (lasts : 0 < time.nanos) :
    (newToast id now message severity (some time)).isVisible now = true := by
  simpa [newToast, Toast.isVisible] using lasts

theorem newWarning_shown (id : Nat) (now : Span) :
    isShownWarning now (newWarning id now) = true := by
  have visible := newToast_visible id now Toast.rateLimitMessage .warning
    (show 0 < Toast.rateLimitTime.nanos by decide)
  simp only [isShownWarning, isShown, newWarning, visible]
  rfl

/-! ### One event -/

theorem Tracks.prune (h : s.Tracks log now) : (s.prune now).Tracks log now where
  shown later order := by rw [visible_prune_later order, h.shown later order]
  next := h.next
  ids := h.ids
  held id remembered := h.held id (Option.filter_eq_some_iff.mp remembered).1
  warned r member warning := by
    refine Option.filter_eq_some_iff.mpr ⟨h.warned r member warning, ?_⟩
    have shown : isShown now r = true := (Bool.and_eq_true_iff.mp warning).2
    have visible : r.toast ∈ s.visible now := by
      rw [h.shown now (Nat.le_refl _)]
      exact List.mem_map_of_mem (List.mem_filter.mpr ⟨member, shown⟩)
    exact List.any_eq_true.mpr ⟨r.toast, visible, by simp⟩

/-- The warning that the store remembers once it has looked at the clock is the one that is
shown. -/
theorem Tracks.rateLimit (h : s.Tracks log now) :
    (s.prune now).rateLimit = (log.find? (isShownWarning now)).map (·.toast.id) := by
  cases found : log.find? (isShownWarning now) with
  | some r =>
    exact h.prune.warned r (List.mem_of_find?_eq_some found) (List.find?_some found)
  | none =>
    have remembers : (s.prune now).rateLimit =
      s.rateLimit.filter fun id => (s.visible now).any (·.id = id) := rfl
    rw [remembers, Option.map_none, Option.filter_eq_none_iff]
    intro id remembered any
    obtain ⟨t, shown, same⟩ := List.any_eq_true.mp any
    rw [h.shown now (Nat.le_refl _)] at shown
    obtain ⟨r, kept, rfl⟩ := List.mem_map.mp shown
    obtain ⟨member, visible⟩ := List.mem_filter.mp kept
    obtain ⟨other, member', same', warning⟩ := h.held id remembered
    obtain rfl := h.eq_of_id member member' ((of_decide_eq_true same).trans same'.symm)
    have absent := List.find?_eq_none.mp found r member
    simp [isShownWarning, warning, visible] at absent

/-- A new toast comes last. It may only be a warning if none is shown. -/
theorem Tracks.push (h : s.Tracks log now) {s' : ToastStore} {r : ToastRecord}
    (toasts : s'.toasts = s.toasts ++ [r.toast]) (next : s'.next = s.next + 1)
    (rateLimit : s'.rateLimit = if r.isWarning then some s.next else s.rateLimit)
    (id : r.toast.id = log.length) (kept : r.isGone = false)
    (single : r.isWarning = true → ∀ other ∈ log, ¬isShownWarning now other = true) :
    s'.Tracks (log ++ [r]) now where
  shown later order := by
    have same : isShown later r = r.toast.isVisible later := by simp [isShown, kept]
    have visible : s'.visible later = s.visible later ++ [r.toast].filter (·.isVisible later) := by
      rw [ToastStore.visible, toasts, List.filter_append, ToastStore.visible]
    rw [visible, h.shown later order, List.filter_append, List.map_append]
    by_cases seen : r.toast.isVisible later = true <;> simp [same, seen]
  next := by simp [next, h.next]
  ids := by simp [h.ids, id, List.range_succ]
  held other remembered := by
    rw [rateLimit] at remembered
    by_cases warning : r.isWarning = true
    · rw [if_pos warning, h.next] at remembered
      exact ⟨r, by simp, id.trans (Option.some.inj remembered), warning⟩
    · rw [if_neg warning] at remembered
      obtain ⟨r', member, found⟩ := h.held other remembered
      exact ⟨r', List.mem_append_left _ member, found⟩
  warned other member warning := by
    rw [rateLimit]
    rcases List.mem_append.mp member with old | new
    · by_cases warns : r.isWarning = true
      · exact (single warns other old warning).elim
      · rw [if_neg warns]
        exact h.warned other old warning
    · obtain rfl := List.mem_singleton.mp new
      rw [if_pos (Bool.and_eq_true_iff.mp warning).1, id, h.next]

theorem shown_behind (act : ToastAct) (log : List ToastRecord) (now : Span) :
    ((log.map (behind act)).filter (isShown now)).map toast =
      ((log.filter (isShown now)).map toast).filter fun t => !act.removes t.id := by
  induction log with
  | nil => rfl
  | cons r rest ih =>
    by_cases shown : isShown now r = true <;> by_cases removed : act.removes r.toast.id = true <;>
      simp_all [isShown, behind]

theorem Tracks.remove (h : s.Tracks log now) {s' : ToastStore} {act : ToastAct}
    (visible : ∀ later : Span, s'.visible later =
      (s.visible later).filter fun t => !act.removes t.id)
    (next : s'.next = s.next) (rateLimit : s'.rateLimit = s.rateLimit.filter (!act.removes ·)) :
    s'.Tracks (log.map (behind act)) now where
  shown later order := by rw [visible, h.shown later order, shown_behind]
  next := by rw [next, h.next, List.length_map]
  ids := by
    rw [List.map_map, List.length_map, ← h.ids]
    rfl
  held id remembered := by
    rw [rateLimit] at remembered
    obtain ⟨r, member, same, warning⟩ := h.held id (Option.filter_eq_some_iff.mp remembered).1
    exact ⟨behind act r, List.mem_map_of_mem member, same, warning⟩
  warned r member warning := by
    obtain ⟨r, old, rfl⟩ := List.mem_map.mp member
    simp only [isShownWarning, isShown, behind, Bool.and_eq_true, Bool.not_or] at warning
    obtain ⟨warns, ⟨kept, unremoved⟩, seen⟩ := warning
    have before := h.warned r old (by simp_all [isShownWarning, isShown])
    rw [rateLimit, before]
    exact Option.filter_eq_some_iff.mpr ⟨rfl, unremoved⟩

theorem map_behind {act : ToastAct} (keeps : ∀ id, act.removes id = false)
    (log : List ToastRecord) : log.map (behind act) = log := by
  have same : behind act = id := by
    funext r
    simp [behind, keeps]
  rw [same, List.map_id]

/-- A warning is answered with the one that is shown, or with a new one if none is. -/
theorem Tracks.warn (h : s.Tracks log now) :
    (s.warnRateLimit now).1 =
        ((log.find? (isShownWarning now)).map (·.toast.id)).getD log.length ∧
      (s.warnRateLimit now).2.Tracks (extend log ⟨now, .warn⟩) now := by
  have remembers := h.rateLimit
  rw [extend, map_behind fun _ => rfl]
  unfold warnRateLimit made?
  dsimp only
  cases found : log.find? (isShownWarning now) with
  | some r =>
    have any : log.any (isShownWarning now) = true :=
      List.any_eq_true.mpr ⟨r, List.mem_of_find?_eq_some found, List.find?_some found⟩
    rw [remembers, found, any]
    simpa using h.prune
  | none =>
    have absent := List.find?_eq_none.mp found
    have any : log.any (isShownWarning now) = false := List.any_eq_false.mpr absent
    rw [remembers, found, any]
    refine ⟨h.next, h.prune.push ?_ rfl rfl rfl rfl fun _ => absent⟩
    simp [ToastStore.push, h.prune.next, newWarning, newToast]

theorem Tracks.single (h : s.Tracks log now) {r other : ToastRecord} (member : r ∈ log)
    (member' : other ∈ log) (shown : isShownWarning now r = true)
    (shown' : isShownWarning now other = true) : r = other := by
  have same := (h.warned r member shown).symm.trans (h.warned other member' shown')
  exact h.eq_of_id member member' (Option.some.inj same)

theorem Tracks.countP_le_one (h : s.Tracks log now) : log.countP (isShownWarning now) ≤ 1 := by
  have ids : (log.map (·.toast.id)).Nodup := h.ids ▸ List.nodup_range
  have nodup : (log.filter (isShownWarning now)).Nodup := ids.of_map.filter _
  rw [List.countP_eq_length_filter]
  cases warnings : log.filter (isShownWarning now) with
  | nil => exact Nat.zero_le 1
  | cons r rest =>
    cases rest with
    | nil => exact Nat.le_refl 1
    | cons other rest =>
      have first := List.mem_filter.mp (warnings ▸ List.mem_cons_self : r ∈ log.filter _)
      have second := List.mem_filter.mp
        (warnings ▸ List.mem_cons_of_mem r List.mem_cons_self : other ∈ log.filter _)
      have same := h.single first.1 second.1 first.2 second.2
      rw [warnings, same, List.nodup_cons] at nodup
      exact (nodup.1 List.mem_cons_self).elim

theorem Tracks.warn_shown (h : s.Tracks log now) {r : ToastRecord} (member : r ∈ log)
    (shown : isShownWarning now r = true) : (s.warnRateLimit now).1 = r.toast.id := by
  rw [h.warn.1]
  cases found : log.find? (isShownWarning now) with
  | some other =>
    have known := List.mem_of_find?_eq_some found
    rw [h.single member known shown (List.find?_some found)]
    rfl
  | none => exact absurd shown (List.find?_eq_none.mp found r member)

/-- Where no warning is shown a new one is given out. -/
theorem Tracks.warn_new (h : s.Tracks log now)
    (absent : ∀ r ∈ log, ¬isShownWarning now r = true) :
    ∀ r ∈ log, r.toast.id ≠ (s.warnRateLimit now).1 := by
  intro r member same
  have bound : r.toast.id ∈ log.map (·.toast.id) := List.mem_map_of_mem member
  rw [h.ids, List.mem_range, same, h.warn.1, List.find?_eq_none.mpr absent] at bound
  exact Nat.lt_irrefl _ bound

/-- The warning that is given out is shown. -/
theorem Tracks.warn_gives (h : s.Tracks log now) :
    ∃ r ∈ extend log ⟨now, .warn⟩, isShownWarning now r = true ∧
      (s.warnRateLimit now).1 = r.toast.id ∧ r.toast ∈ (s.warnRateLimit now).2.visible now := by
  have given : ∃ r ∈ extend log ⟨now, .warn⟩, isShownWarning now r = true ∧
      (s.warnRateLimit now).1 = r.toast.id := by
    rw [extend, map_behind fun _ => rfl]
    by_cases any : log.any (isShownWarning now) = true
    · obtain ⟨r, member, shown⟩ := List.any_eq_true.mp any
      exact ⟨r, List.mem_append_left _ member, shown, h.warn_shown member shown⟩
    · have absent : log.find? (isShownWarning now) = none := by simpa using any
      have new : made? log ⟨now, .warn⟩ = some (newWarning log.length now) := by simp [made?, any]
      refine ⟨newWarning log.length now, by simp [new], newWarning_shown _ _, ?_⟩
      rw [h.warn.1, absent]
      rfl
  obtain ⟨r, member, shown, same⟩ := given
  refine ⟨r, member, shown, same, ?_⟩
  rw [h.warn.2.shown now (Nat.le_refl _)]
  exact List.mem_map_of_mem (List.mem_filter.mpr ⟨member, (Bool.and_eq_true_iff.mp shown).2⟩)

theorem Tracks.perform {e : ToastEvent} (h : s.Tracks log e.now) :
    (s.perform e).Tracks (extend log e) e.now := by
  obtain ⟨now, act⟩ := e
  cases act with
  | add message severity time =>
    rw [extend, map_behind fun _ => rfl]
    refine h.prune.push ?_ rfl rfl rfl rfl fun warns => by cases warns
    simp [ToastStore.perform, add, ToastStore.push, h.prune.next, newToast]
  | warn => exact h.warn.2
  | dismiss id =>
    rw [extend, made?, Option.toList_none, List.append_nil]
    refine h.remove (fun later => ?_) rfl ?_
    · simp only [ToastStore.perform, dismiss, visible, List.filter_filter]
      refine List.filter_congr fun t _ => ?_
      simp [ToastAct.removes, Bool.and_comm, eq_comm]
    · cases held : s.rateLimit with
      | none => simp [ToastStore.perform, dismiss, held]
      | some other =>
        by_cases same : other = id
        · simp [ToastStore.perform, dismiss, held, ToastAct.removes, Option.filter_some, same]
        · simp [ToastStore.perform, dismiss, held, ToastAct.removes, Option.filter_some, same,
            Ne.symm same]
  | clear =>
    rw [extend, made?, Option.toList_none, List.append_nil]
    refine h.remove (fun later => ?_) rfl ?_
    · simp [ToastStore.perform, clear, visible, ToastAct.removes]
    · simp [ToastStore.perform, clear, ToastAct.removes]

theorem Tracks.keeps (h : s.Tracks log now) (act : ToastAct) {t : Toast}
    (shown : t ∈ s.visible now) (kept : act.removes t.id = false) :
    t ∈ (s.perform ⟨now, act⟩).visible now := by
  have next : (s.perform ⟨now, act⟩).Tracks (extend log ⟨now, act⟩) now := h.perform
  rw [h.shown now (Nat.le_refl _)] at shown
  rw [next.shown now (Nat.le_refl _), extend, List.filter_append, List.map_append, shown_behind]
  apply List.mem_append_left
  rw [List.mem_filter]
  exact ⟨shown, by rw [kept]; rfl⟩

/-! ### Histories -/

theorem run_concat (events : List ToastEvent) (e : ToastEvent) :
    run (events ++ [e]) = (run events).perform e := by
  simp [run]

/-- The clock never goes back on the way to `now`, and no display time goes on beyond its end, nor
would that of a warning now. -/
structure IsTimely (events : List ToastEvent) (now : Span) : Prop where
  ordered : events.Pairwise fun a b => a.now.nanos ≤ b.now.nanos
  latest : ∀ e ∈ events, e.now.nanos ≤ now.nanos
  bounded : ∀ e ∈ events ++ [⟨now, .warn⟩], e.fitsClock = true

theorem IsTimely.before {events before after : List ToastEvent} {e : ToastEvent}
    (h : IsTimely events now) (cut : events = before ++ e :: after) : IsTimely before e.now := by
  obtain ⟨ordered, latest, bounded⟩ := h
  have earlier : e.now.nanos ≤ now.nanos := latest e (by simp [cut])
  have room := ToastEvent.fitsClock_warn.mp (bounded ⟨now, .warn⟩ (by simp))
  rw [cut, List.pairwise_append] at ordered
  refine ⟨ordered.1, fun earlier member => ordered.2.2 earlier member e List.mem_cons_self, ?_⟩
  intro made member
  rcases List.mem_append.mp member with old | last
  · exact bounded made (by simp [cut, old])
  · rw [List.mem_singleton.mp last]
    exact ToastEvent.fitsClock_warn.mpr (Nat.lt_of_le_of_lt (Nat.add_le_add_right earlier _) room)

theorem run_tracks {events : List ToastEvent} (timely : IsTimely events now) :
    (run events).Tracks (recordsOf events) now := by
  induction events using List.reverseRecOn generalizing now with
  | nil =>
    exact {
      shown := fun _ _ => rfl
      next := rfl
      ids := rfl
      held := fun _ none => by cases none
      warned := fun _ none => by cases none }
  | append_singleton events e ih =>
    rw [run_concat, recordsOf_concat]
    have before := ih (timely.before rfl)
    exact before.perform.wait (timely.latest e (by simp))

theorem mem_foldl_extend {r : ToastRecord} (events : List ToastEvent) (member : r ∈ log) :
    behindAll events r ∈ events.foldl extend log := by
  induction events generalizing r log with
  | nil => simpa [behindAll] using member
  | cons e rest ih =>
    rw [behindAll_cons]
    exact ih (List.mem_append_left _ (List.mem_map_of_mem member))

theorem act_of_made {r : ToastRecord} {e : ToastEvent} (made : made? log e = some r)
    (warning : r.isWarning = true) : e.act = .warn := by
  obtain ⟨now, act⟩ := e
  cases act with
  | add message severity time =>
    obtain rfl := Option.some.inj made
    cases warning
  | warn => rfl
  | dismiss id => cases made
  | clear => cases made

/-- Where no warning was given out, all warnings are from before. -/
theorem of_mem_foldl_extend {r : ToastRecord} {events : List ToastEvent}
    (unwarned : ∀ e ∈ events, e.act ≠ .warn) (member : r ∈ events.foldl extend log)
    (warning : r.isWarning = true) :
    ∃ old ∈ log, behindAll events old = r := by
  induction events generalizing log with
  | nil => exact ⟨r, member, by simp [behindAll]⟩
  | cons e rest ih =>
    obtain ⟨old, known, rfl⟩ := ih (fun e later => unwarned e (List.mem_cons_of_mem _ later)) member
    rcases List.mem_append.mp known with before | new
    · obtain ⟨older, there, rfl⟩ := List.mem_map.mp before
      exact ⟨older, there, behindAll_cons e rest older⟩
    · exact (unwarned e List.mem_cons_self (act_of_made (Option.mem_toList.mp new) warning)).elim

/-- However toasts were added, dismissed and cleared, those are shown that were made and neither
dismissed nor cleared since, and whose time is not over, in the order in which they were made. Of
the warnings about too many requests at most one is shown, and asking for a warning gives the one
that is shown: the same as before, unless that one was removed since or its time is over, and only
then a new one. Nothing but dismissing or clearing takes a toast away. And the clock can tell the
end of every toast that was made on the way. -/
theorem run_shows {events : List ToastEvent} (timely : IsTimely events now) :
    (run events).visible now = ((recordsOf events).filter (isShown now)).map toast ∧
    (recordsOf events).countP (isShownWarning now) ≤ 1 ∧
    (∃ r ∈ recordsOf (events ++ [⟨now, .warn⟩]), isShownWarning now r = true ∧
      ((run events).warnRateLimit now).1 = r.toast.id ∧
      r.toast ∈ ((run events).warnRateLimit now).2.visible now) ∧
    (∀ before time between, events = before ++ ⟨time, .warn⟩ :: between →
      ∃ t ∈ ((run before).warnRateLimit time).2.visible time,
        t.id = ((run before).warnRateLimit time).1 ∧
        (t.isVisible now = true → (∀ e ∈ between, e.act.removes t.id = false) →
          ((run events).warnRateLimit now).1 = t.id) ∧
        ((∃ e ∈ between, e.act.removes t.id = true) ∨ t.isVisible now = false →
          (∀ e ∈ between, e.act ≠ .warn) →
          ∀ r ∈ recordsOf events, r.toast.id ≠ ((run events).warnRateLimit now).1)) ∧
    (∀ act, (ToastEvent.mk now act).fitsClock = true →
      ∀ t ∈ (run events).visible now, act.removes t.id = false →
        t ∈ ((run events).perform ⟨now, act⟩).visible now) ∧
    ∀ r ∈ recordsOf (events ++ [⟨now, .warn⟩]), r.endsInTime = true := by
  have tracks := run_tracks timely
  refine ⟨tracks.shown now (Nat.le_refl _), tracks.countP_le_one, ?_, ?_,
    fun act _ t => tracks.keeps act, recordsOf_endsInTime timely.bounded⟩
  · rw [recordsOf_concat]
    exact tracks.warn_gives
  · intro before time between cut
    have earlier := run_tracks (timely.before cut)
    obtain ⟨r, made, shown, id, visible⟩ := earlier.warn_gives
    have order : time.nanos ≤ now.nanos := timely.latest ⟨time, .warn⟩ (by simp [cut])
    have log : recordsOf events =
        between.foldl extend (extend (recordsOf before) ⟨time, .warn⟩) := by
      rw [cut, recordsOf, List.foldl_append, List.foldl_cons, ← recordsOf]
    have kept := mem_foldl_extend between made
    rw [← log] at kept
    refine ⟨r.toast, visible, id.symm, fun lasts unremoved => ?_, fun ended unwarned => ?_⟩
    · have shown' : isShownWarning now r = true := by
        simp_all [isShownWarning, isShown]
      have still := (isShownWarning_behindAll now between r).mpr ⟨shown', unremoved⟩
      have same := tracks.warn_shown kept still
      exact same
    · -- A warning that is shown now was shown when the last one was given out, and so is that one.
      refine tracks.warn_new fun other member shown' => ?_
      rw [log] at member
      obtain ⟨old, there, rfl⟩ :=
        of_mem_foldl_extend unwarned member (Bool.and_eq_true_iff.mp shown').1
      obtain ⟨lasts, unremoved⟩ := (isShownWarning_behindAll now between old).mp shown'
      obtain rfl := earlier.warn.2.single made there shown (isShownWarning_earlier order lasts)
      rcases ended with ⟨e, member, removed⟩ | expired
      · simp [unremoved e member] at removed
      · simp [isShownWarning, isShown, expired] at lasts

def dismissedOnce : List ToastEvent :=
  [⟨⟨0⟩, .warn⟩, ⟨⟨1⟩, .add "hello" .info (some ⟨0⟩)⟩, ⟨⟨1⟩, .dismiss 0⟩]

/-- The warning was dismissed, so that the next one is new; the toast without time is not shown. -/
theorem run_shows_dismissed :
    (run dismissedOnce).visible ⟨2⟩ = [] ∧
      ∀ r ∈ recordsOf dismissedOnce, r.toast.id ≠ ((run dismissedOnce).warnRateLimit ⟨2⟩).1 := by
  have timely : IsTimely dismissedOnce ⟨2⟩ := ⟨by decide, by decide, by decide +kernel⟩
  obtain ⟨visible, -, -, again, -⟩ := run_shows timely
  obtain ⟨t, -, id, -, new⟩ := again [] ⟨0⟩ _ rfl
  have zero : t.id = 0 := id.trans (by decide)
  refine ⟨visible.trans (by decide), new (.inl ?_) (by decide)⟩
  exact ⟨⟨⟨1⟩, .dismiss 0⟩, by simp, by simp [ToastAct.removes, zero]⟩

end ToastStore

end TenantLink
