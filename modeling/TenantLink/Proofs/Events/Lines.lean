import TenantLink.Events.Parser

/-!
# The lines of a stream

`linesFrom` cuts a whole stream into lines. `LineScan` reads it byte by byte and finds the same
lines, so it may be read in pieces: `linesFrom_eq_run`, `run_append`.
-/

namespace TenantLink

open ServerEvent

/-- A line that has ended, and the place at which its end begins. -/
structure StreamLine where
  bytes : Bytes
  place : Nat
  deriving DecidableEq, Repr

/-- The lines of the bytes from `place` on, behind the start `line` of the current one. A line ends
with a carriage return and a line feed, or with one of them. -/
def linesFrom (place : Nat) (line : Bytes) : Bytes → List StreamLine
  | [] => []
  | [b] => if isTerminator b then [⟨line, place⟩] else []
  | b :: c :: rest =>
    if b = carriageReturn ∧ c = lineFeed then ⟨line, place⟩ :: linesFrom (place + 2) [] rest
    else if isTerminator b then ⟨line, place⟩ :: linesFrom (place + 1) [] (c :: rest)
    else linesFrom (place + 1) (line ++ [b]) (c :: rest)

/-- The lines of a stream. What comes behind the last end of a line is none. -/
def linesOf (stream : Bytes) : List StreamLine := linesFrom 0 [] stream

/-- How far a stream is read. -/
structure LineScan where
  /-- The number of bytes that were read. -/
  place : Nat := 0
  /-- The start of the current line. -/
  line : Bytes := []
  /-- Whether the last byte was a carriage return. -/
  afterReturn : Bool := false
  deriving DecidableEq, Repr

namespace LineScan

def step (m : LineScan) (b : UInt8) : List StreamLine × LineScan :=
  if m.afterReturn ∧ b = lineFeed then ([], ⟨m.place + 1, [], false⟩)
  else if isTerminator b then ([⟨m.line, m.place⟩], ⟨m.place + 1, [], b = carriageReturn⟩)
  else ([], ⟨m.place + 1, m.line ++ [b], false⟩)

def run (m : LineScan) : Bytes → List StreamLine × LineScan
  | [] => ([], m)
  | b :: rest => ((m.step b).1 ++ ((m.step b).2.run rest).1, ((m.step b).2.run rest).2)

variable {m : LineScan} {b : UInt8} {bytes : Bytes}

theorem run_append (m : LineScan) (bytes more : Bytes) :
    m.run (bytes ++ more) =
      ((m.run bytes).1 ++ ((m.run bytes).2.run more).1, ((m.run bytes).2.run more).2) := by
  induction bytes generalizing m with
  | nil => rfl
  | cons b rest ih => simp only [List.cons_append, run, ih, List.append_assoc]

theorem step_place (m : LineScan) (b : UInt8) : (m.step b).2.place = m.place + 1 := by
  unfold step
  split
  · rfl
  · split <;> rfl

theorem run_place (m : LineScan) (bytes : Bytes) :
    (m.run bytes).2.place = m.place + bytes.length := by
  induction bytes generalizing m with
  | nil => rfl
  | cons b rest ih =>
    rw [run, ih, step_place, List.length_cons]
    omega

theorem place_of_step {l : StreamLine} (ended : l ∈ (m.step b).1) : l.place = m.place := by
  unfold step at ended
  split at ended
  · cases ended
  · split at ended
    · rw [List.mem_singleton.mp ended]
    · cases ended

/-- The lines that end among some bytes end at their places. -/
theorem place_of_run {l : StreamLine} (ended : l ∈ (m.run bytes).1) :
    m.place ≤ l.place ∧ l.place < m.place + bytes.length := by
  induction bytes generalizing m with
  | nil => cases ended
  | cons b rest ih =>
    rw [List.length_cons]
    rcases List.mem_append.mp ended with now | later
    · have here := place_of_step now
      omega
    · have bounds := ih later
      rw [step_place] at bounds
      omega

/-! ### Single bytes -/

theorem step_pair (m : LineScan) (after : m.afterReturn = true) :
    m.step lineFeed = ([], ⟨m.place + 1, [], false⟩) := if_pos ⟨after, rfl⟩

theorem step_terminator (m : LineScan) (ends : isTerminator b = true)
    (single : ¬(m.afterReturn = true ∧ b = lineFeed)) :
    m.step b = ([⟨m.line, m.place⟩], ⟨m.place + 1, [], b = carriageReturn⟩) := by
  rw [step, if_neg single, if_pos ends]

theorem not_lineFeed (inside : isTerminator b = false) : b ≠ lineFeed := by
  intro same
  subst same
  cases inside

theorem step_inside (m : LineScan) (inside : isTerminator b = false) :
    m.step b = ([], ⟨m.place + 1, m.line ++ [b], false⟩) := by
  rw [step, if_neg fun pair => not_lineFeed inside pair.2, if_neg (by simp [inside])]

/-- A carriage return that no line feed follows is forgotten. -/
theorem run_settled (place : Nat) (line : Bytes) (rest : Bytes) (other : b ≠ lineFeed) :
    (LineScan.mk place line true).run (b :: rest) =
      (LineScan.mk place line false).run (b :: rest) := by
  have same : (LineScan.mk place line true).step b = (LineScan.mk place line false).step b := by
    simp only [step, other, and_false]
  rw [run, run, same]

/-- Bytes that end no line make the current one longer. -/
theorem run_inside (m : LineScan) (inside : ∀ b ∈ bytes, isTerminator b = false) :
    m.run bytes =
      ([], ⟨m.place + bytes.length, m.line ++ bytes, m.afterReturn && bytes.isEmpty⟩) := by
  induction bytes generalizing m with
  | nil => simp [run]
  | cons b rest ih =>
    have here := inside b List.mem_cons_self
    have there := fun c member => inside c (List.mem_cons_of_mem b member)
    rw [run, step_inside m here, ih _ there]
    simp only [List.nil_append, List.append_assoc, List.singleton_append, List.length_cons,
      Bool.false_and, List.isEmpty_cons, Bool.and_false, Nat.add_assoc, Nat.add_comm 1]

/-- The first line that ends is as long as the start of it at least. -/
theorem length_line_le (start : m.afterReturn = true → m.line = []) {l : StreamLine}
    {rest : List StreamLine} (first : (m.run bytes).1 = l :: rest) :
    m.line.length ≤ l.bytes.length := by
  induction bytes generalizing m with
  | nil => cases first
  | cons b more ih =>
    rw [run] at first
    unfold step at first
    split at first
    next pair =>
      rw [start pair.1]
      exact Nat.zero_le _
    next =>
      split at first
      next =>
        have same := (List.cons.inj first).1
        exact Nat.le_of_eq (congrArg (fun l => l.bytes.length) same)
      next =>
        have longer := ih (by simp) first
        rw [List.length_append] at longer
        exact Nat.le_of_add_right_le longer

end LineScan

open LineScan in
/-- The scan finds the lines of the stream. -/
theorem linesFrom_eq_run (place : Nat) (line stream : Bytes) :
    linesFrom place line stream = ((LineScan.mk place line false).run stream).1 := by
  fun_induction linesFrom place line stream with
  | case1 => rfl
  | case2 place line b ends => simp [run, step, ends]
  | case3 place line b inside => simp [run, step, inside]
  | case4 place line b c rest pair ih =>
    obtain ⟨rfl, rfl⟩ := pair
    have ends := step_terminator (LineScan.mk place line false) (b := carriageReturn) rfl
      (by simp)
    rw [run, ends, run, step_pair _ (by simp), ih]
    rfl
  | case5 place line b c rest pair ends ih =>
    rw [run, step_terminator _ ends (by simp), ih]
    by_cases same : b = carriageReturn
    · have other : c ≠ lineFeed := fun next => pair ⟨same, next⟩
      simp [same, run_settled _ _ _ other]
    · simp [same]
  | case6 place line b c rest pair inside ih =>
    rw [run, step_inside _ (Bool.eq_false_iff.mpr inside), ih]
    rfl

theorem linesOf_eq_run (stream : Bytes) : linesOf stream = (LineScan.run {} stream).1 :=
  linesFrom_eq_run 0 [] stream

end TenantLink
