import TenantLink.Proofs.Events.Chunks

/-!
# The buffer of a parser

`pass?` is one pass of the parser over its buffer in which every slice is checked to be in range.
From what a parser keeps between two chunks (`Settled`) it follows what holds before each pass
(`Ready`), so no slice is ever out of range, every pass but the last one makes the buffer shorter,
and passes come to what `feed` tells: `feedAll_keeps_buffer`.
-/

namespace TenantLink.EventParser

open ServerEvent

variable {p q r : EventParser} {line rest : Bytes} {b : UInt8}

/-! ### Checked passes -/

/-- The bytes from a place on; the place must not lie behind their end. -/
def from? (place : Nat) (bytes : Bytes) : Option Bytes :=
  if place ≤ bytes.length then some (bytes.drop place) else none

/-- The bytes on either side of a place. -/
def splitAt? (place : Nat) (bytes : Bytes) : Option (Bytes × Bytes) :=
  if place ≤ bytes.length then some (bytes.take place, bytes.drop place) else none

/-- What a pass comes to, and the parser behind it. -/
inductive Pass
  /-- No line ends in the buffer. -/
  | waits (p : EventParser)
  /-- The end of a line has come whose start was dropped. -/
  | drops (p : EventParser)
  | gives (line : Bytes) (p : EventParser)

namespace Pass

/-- The parser before the next pass: a line that was given has been taken up. -/
def next? : Pass → Option EventParser
  | waits _ => none
  | drops p => some p
  | gives line p => some { p with block := (p.block.takeBytes line).2 }

def lines : Pass → List Bytes
  | gives line _ => [line]
  | _ => []

def events : Pass → List ServerEvent
  | gives line p => (p.block.takeBytes line).1.toList
  | _ => []

end Pass

/-- Drops the line feed that belongs to the line before, if the next byte is one. -/
def skipPair? (p : EventParser) : Option EventParser :=
  if p.skipLineFeed ∧ p.buffer.head? = some lineFeed then
    (from? 1 p.buffer).map fun rest => { p with buffer := rest, skipLineFeed := false }
  else some { p with skipLineFeed := false }

/-- One pass over the buffer, unless a slice of it is out of range. Behind a carriage return
`afterLine` drops a line feed only where it has found one. -/
def pass? (p : EventParser) : Option Pass :=
  if p.skipLineFeed ∧ p.buffer = [] then some (.waits p)
  else do
    let p ← p.skipPair?
    let fresh ← from? p.scanned p.buffer
    match fresh.findIdx? isTerminator with
    | none => return .waits p.await
    | some offset =>
      let (line, behind) ← splitAt? (p.scanned + offset) p.buffer
      let b ← behind.head?
      let rest ← from? 1 behind
      return if p.discarding then .drops (p.afterLine b rest) else .gives line (p.afterLine b rest)

/-- The passes from `p` on, with the lines that they give and the events of these, up to the one
behind which the parser `q` waits for more. -/
inductive Passes : EventParser → List Bytes → List ServerEvent → EventParser → Prop
  | waits {p q : EventParser} (last : p.pass? = some (.waits q)) : Passes p [] [] q
  | goes {p q r : EventParser} {pass : Pass} {lines : List Bytes} {events : List ServerEvent}
    (first : p.pass? = some pass) (next : pass.next? = some q) (later : Passes q lines events r) :
    Passes p (pass.lines ++ lines) (pass.events ++ events) r

/-- `q` is the parser before one of the passes from `p` on. -/
inductive Reaches (p : EventParser) : EventParser → Prop
  | start : Reaches p p
  | pass {q r : EventParser} {pass : Pass} : Reaches p q → q.pass? = some pass →
    pass.next? = some r → Reaches p r

def receive (p : EventParser) (chunk : Bytes) : EventParser :=
  { p with buffer := p.buffer ++ chunk }

/-- What passes make of some chunks, from a new parser on. -/
inductive Fed : List Bytes → List Bytes → List ServerEvent → EventParser → Prop
  | new : Fed [] [] [] {}
  | feed {p q : EventParser} {chunks lines lines' : List Bytes} {events events' : List ServerEvent}
    {chunk : Bytes} : Fed chunks lines events p → Passes (p.receive chunk) lines' events' q →
    Fed (chunks ++ [chunk]) (lines ++ lines') (events ++ events') q

/-! ### What a parser keeps -/

/-- The bytes that count as scanned are in the buffer and end no line. -/
structure Scanned (p : EventParser) : Prop where
  within : p.scanned ≤ p.buffer.length
  inside : ∀ b ∈ p.buffer.take p.scanned, isTerminator b = false

/-- Before a pass. A line feed that may have to be dropped is not scanned. -/
structure Ready (p : EventParser) : Prop extends p.Scanned where
  fresh : p.skipLineFeed = true → p.scanned = 0

/-- Between two chunks: all bytes are scanned, and none is kept of a line that has ended or has
grown too long. -/
structure Settled (p : EventParser) : Prop where
  inside : ∀ b ∈ p.buffer, isTerminator b = false
  short : p.buffer.length ≤ maxLineSize
  scanned : p.scanned = p.buffer.length
  pair : p.skipLineFeed = true → p.buffer = []

theorem empty_settled : Settled {} where
  inside := by simp
  short := Nat.zero_le _
  scanned := rfl
  pair := by simp

theorem ready_of_unscanned (unscanned : p.scanned = 0) : p.Ready where
  within := by
    rw [unscanned]
    exact Nat.zero_le _
  inside := by
    rw [unscanned, List.take_zero]
    exact List.forall_mem_nil _
  fresh := fun _ => unscanned

theorem Settled.receive (h : p.Settled) (chunk : Bytes) : (p.receive chunk).Ready where
  within := by
    rw [EventParser.receive, h.scanned, List.length_append]
    exact Nat.le_add_right _ _
  inside := by
    rw [EventParser.receive, h.scanned, List.take_left]
    exact h.inside
  fresh := fun skip => by
    rw [EventParser.receive, h.scanned, h.pair skip]
    rfl

/-- Behind the scanned bytes the first terminator is found that a search of the whole buffer
finds. -/
theorem Scanned.search (h : p.Scanned) :
    ((p.buffer.drop p.scanned).findIdx? isTerminator).map (p.scanned + ·) =
      p.buffer.findIdx? isTerminator := by
  have parts := List.take_append_drop p.scanned p.buffer
  have none : (p.buffer.take p.scanned).findIdx? isTerminator = none :=
    List.findIdx?_eq_none_iff.mpr h.inside
  conv_rhs => rw [← parts, List.findIdx?_append, none, List.length_take_of_le h.within]
  simp only [Option.none_or, Nat.add_comm p.scanned]

/-! ### The line feed of a pair -/

theorem Ready.skipPair (h : p.Ready) :
    p.skipPair.Scanned ∧ (p.skipPair.skipLineFeed = true → p.skipPair.buffer = []) := by
  unfold EventParser.skipPair
  split
  next skip =>
    have unscanned := h.fresh skip
    split
    next empty => exact ⟨h.toScanned, fun _ => empty⟩
    next =>
      split <;>
        exact ⟨(ready_of_unscanned (p := { p with buffer := _, skipLineFeed := false })
          unscanned).toScanned, by simp⟩
  next keep => exact ⟨h.toScanned, fun skip => (keep skip).elim⟩

theorem skipPair?_eq (there : ¬(p.skipLineFeed = true ∧ p.buffer = [])) :
    p.skipPair? = some p.skipPair := by
  obtain ⟨buffer, scanned, skip, discarding, block⟩ := p
  unfold skipPair? EventParser.skipPair
  cases skip with
  | false => rfl
  | true =>
    cases buffer with
    | nil => exact (there ⟨rfl, rfl⟩).elim
    | cons b rest => by_cases pair : b = lineFeed <;> simp [pair, from?]

/-! ### One pass -/

/-- Where a line ends, the search finds its terminator, with the line before it in the buffer. -/
theorem Scanned.cut (h : p.Scanned) (cut : p.cutLine = (line, b :: rest)) :
    p.buffer = line ++ b :: rest ∧ isTerminator b = true ∧
      ∃ offset, (p.buffer.drop p.scanned).findIdx? isTerminator = some offset ∧
        p.scanned + offset = line.length := by
  obtain ⟨front, parts, before, inside, ends⟩ := parts_of_cutLine cut
  have none : front.findIdx? isTerminator = none := List.findIdx?_eq_none_iff.mpr inside
  refine ⟨?_, ends, front.length, ?_, ?_⟩
  · rw [← before, List.append_assoc, ← parts, List.take_append_drop]
  · rw [parts, List.findIdx?_append, none, List.findIdx?_cons, if_pos ends]
    simp
  · rw [← before, List.length_append, List.length_take_of_le h.within]

/-- Where none ends, the search finds nothing. -/
theorem findIdx?_of_cut (cut : p.cutLine = (line, [])) :
    (p.buffer.drop p.scanned).findIdx? isTerminator = none :=
  List.findIdx?_eq_none_iff.mpr (unread_of_cutLine cut)

theorem Ready.pass?_of_cut (h : p.Ready) (cut : p.skipPair.cutLine = (line, b :: rest)) :
    p.pass? = some (if p.discarding then .drops (p.skipPair.afterLine b rest)
      else .gives line (p.skipPair.afterLine b rest)) := by
  have scanned := h.skipPair.1
  obtain ⟨whole, -, offset, found, place⟩ := scanned.cut cut
  have there : ¬(p.skipLineFeed = true ∧ p.buffer = []) := by
    rintro ⟨-, empty⟩
    have none := p.skipPair_sublist.length_le
    rw [whole, empty] at none
    simp at none
  have reach : line.length ≤ p.skipPair.buffer.length := by
    rw [whole, List.length_append]
    exact Nat.le_add_right _ _
  have next : 1 ≤ (b :: rest).length := Nat.le_add_left _ _
  have start : p.skipPair.buffer.take line.length = line := by rw [whole, List.take_left]
  have behind : p.skipPair.buffer.drop line.length = b :: rest := by rw [whole, List.drop_left]
  simp only [pass?, if_neg there, skipPair?_eq there, from?, if_pos scanned.within, splitAt?,
    found, place, if_pos reach, start, behind, if_pos next, Option.bind_eq_bind, Option.bind_some,
    List.head?_cons, List.drop_succ_cons, List.drop_zero, p.skipPair_frame.2]
  rfl

/-- A parser that waits for the line feed of a pair has nothing in its buffer to scan. -/
theorem Ready.await_of_empty (h : p.Ready) (skip : p.skipLineFeed = true)
    (empty : p.buffer = []) : p.skipPair.await = p := by
  have unscanned := h.fresh skip
  obtain ⟨buffer, scanned, skipLineFeed, discarding, block⟩ := p
  cases empty
  cases skip
  cases unscanned
  rfl

theorem Ready.pass?_of_none (h : p.Ready) (cut : p.skipPair.cutLine = (line, [])) :
    p.pass? = some (.waits p.skipPair.await) := by
  have scanned := h.skipPair.1
  by_cases empty : p.skipLineFeed = true ∧ p.buffer = []
  · rw [pass?, if_pos empty, h.await_of_empty empty.1 empty.2]
  · simp only [pass?, if_neg empty, skipPair?_eq empty, from?, if_pos scanned.within,
      findIdx?_of_cut cut, Option.bind_eq_bind, Option.bind_some]
    rfl

/-! ### What a pass leaves -/

theorem afterLine_unscanned (p : EventParser) (b : UInt8) (rest : Bytes) :
    (p.afterLine b rest).scanned = 0 := by
  obtain ⟨left, skip, -, same⟩ := p.afterLine_eq b rest
  rw [same]

/-- What waits behind the last line of a chunk is settled. -/
theorem Ready.await (h : p.Ready) (cut : p.skipPair.cutLine = (line, [])) :
    p.skipPair.await.Settled := by
  obtain ⟨scanned, pair⟩ := h.skipPair
  have inside : ∀ b ∈ p.skipPair.buffer, isTerminator b = false := by
    rw [← List.findIdx?_eq_none_iff, ← scanned.search, findIdx?_of_cut cut]
    rfl
  unfold EventParser.await
  split
  next => exact ⟨List.forall_mem_nil _, Nat.zero_le _, rfl, fun _ => rfl⟩
  next short => exact ⟨inside, Nat.le_of_not_lt short, rfl, pair⟩

/-- A line that ends takes at least its terminator out of the buffer. -/
theorem Ready.consumes (h : p.Ready) (cut : p.skipPair.cutLine = (line, b :: rest)) :
    (p.skipPair.afterLine b rest).buffer.length < p.buffer.length ∧
      (p.skipPair.afterLine b rest).buffer.countP isTerminator <
        p.buffer.countP isTerminator := by
  obtain ⟨whole, ends, -⟩ := h.skipPair.1.cut cut
  have left : (b :: (p.skipPair.afterLine b rest).buffer).Sublist p.buffer := by
    have behind := (afterLine_sublist p.skipPair b rest).cons_cons b
    have there := (List.sublist_append_right line (b :: rest)).trans
      (whole ▸ p.skipPair_sublist)
    exact behind.trans there
  have count := left.countP_le (p := isTerminator)
  rw [List.countP_cons_of_pos ends] at count
  exact ⟨left.length_le, count⟩

/-- No slice is out of range. The parser before the next pass is ready for it and has a shorter
buffer. -/
theorem Ready.pass? (h : p.Ready) :
    ∃ pass, p.pass? = some pass ∧ ∀ q, pass.next? = some q →
      q.Ready ∧ q.buffer.length < p.buffer.length := by
  cases cut : p.skipPair.cutLine with
  | mk line behind =>
    cases behind with
    | nil =>
      refine ⟨_, h.pass?_of_none cut, fun q next => ?_⟩
      cases next
    | cons b rest =>
      refine ⟨_, h.pass?_of_cut cut, fun q next => ?_⟩
      have unscanned := afterLine_unscanned p.skipPair b rest
      have shorter := (h.consumes cut).1
      split at next <;> cases next <;> exact ⟨ready_of_unscanned unscanned, shorter⟩

theorem Ready.reaches (h : p.Ready) (reached : p.Reaches q) : q.Ready := by
  induction reached with
  | start => exact h
  | pass _ first next ih =>
    obtain ⟨pass, same, left⟩ := ih.pass?
    rw [first] at same
    cases same
    exact (left _ next).1

/-! ### All passes of a chunk -/

/-- Passes come to what `drain` tells, and each line that they give has a terminator of its own. -/
theorem Ready.passes (h : p.Ready) (found : List ServerEvent) :
    (drain found p).2.Settled ∧
    ∃ lines events, Passes p lines events (drain found p).2 ∧
      (drain found p).1 = found.reverse ++ events ∧
      lines.length ≤ p.buffer.countP isTerminator := by
  fun_induction EventParser.drain found p with
  | case1 found p line cut =>
    exact ⟨h.await cut, [], [], .waits (h.pass?_of_none cut), (List.append_nil _).symm,
      Nat.zero_le _⟩
  | case2 found p line b rest cut p' dropped =>
    rename_i ih
    have here := h.pass?_of_cut cut
    rw [if_pos dropped] at here
    obtain ⟨settled, lines, events, later, told, few⟩ :=
      ih (ready_of_unscanned (afterLine_unscanned _ _ _))
    refine ⟨settled, lines, events, .goes here rfl later, told, ?_⟩
    exact few.trans (Nat.le_of_lt (h.consumes cut).2)
  | case3 found p line b rest cut p' kept block taken =>
    rename_i ih
    have here := h.pass?_of_cut cut
    rw [if_neg kept] at here
    have next : (Pass.gives line p').next? = some { p' with block } := by rw [Pass.next?, taken]
    have quiet : (Pass.gives line p').events = [] := by rw [Pass.events, taken]; rfl
    obtain ⟨settled, lines, events, later, told, few⟩ :=
      ih (ready_of_unscanned (afterLine_unscanned _ _ _))
    refine ⟨settled, _, _, .goes here next later, ?_, ?_⟩
    · rw [told, quiet, List.nil_append]
    · exact Nat.succ_le_of_lt (Nat.lt_of_le_of_lt few (h.consumes cut).2)
  | case4 found p line b rest cut p' kept event block taken =>
    rename_i ih
    have here := h.pass?_of_cut cut
    rw [if_neg kept] at here
    have next : (Pass.gives line p').next? = some { p' with block } := by rw [Pass.next?, taken]
    have tells : (Pass.gives line p').events = [event] := by rw [Pass.events, taken]; rfl
    obtain ⟨settled, lines, events, later, told, few⟩ :=
      ih (ready_of_unscanned (afterLine_unscanned _ _ _))
    refine ⟨settled, _, _, .goes here next later, ?_, ?_⟩
    · rw [told, tells, List.reverse_cons, List.append_assoc]
    · exact Nat.succ_le_of_lt (Nat.lt_of_le_of_lt few (h.consumes cut).2)

/-! ### All chunks -/

/-- However a stream comes in chunks, a new parser reads it pass by pass, and gives at most as many
lines as there are terminators in it. -/
theorem exists_fed (chunks : List Bytes) :
    (feedAll {} chunks).2.Settled ∧
    ∃ lines, Fed chunks lines (feedAll {} chunks).1 (feedAll {} chunks).2 ∧
      lines.length ≤ chunks.flatten.countP isTerminator := by
  induction chunks using List.reverseRecOn with
  | nil => exact ⟨empty_settled, [], .new, Nat.zero_le _⟩
  | append_singleton chunks chunk ih =>
    obtain ⟨settled, lines, fed, few⟩ := ih
    obtain ⟨settled', lines', events, passes, told, few'⟩ := (settled.receive chunk).passes []
    have same : (drain [] ((feedAll {} chunks).2.receive chunk)) =
        (feedAll {} chunks).2.feed chunk := rfl
    -- A settled buffer ends no line, so the lines of this chunk have their terminators in it.
    have clean : (feedAll {} chunks).2.buffer.countP isTerminator = 0 :=
      List.countP_eq_zero.mpr fun b member => by simp [settled.inside b member]
    rw [EventParser.receive, List.countP_append, clean, Nat.zero_add] at few'
    rw [feedAll_concat, ← same, told]
    refine ⟨settled', lines ++ lines', .feed fed passes, ?_⟩
    rw [List.length_append, List.flatten_concat, List.countP_append]
    exact Nat.add_le_add few few'

/-- However a stream came in chunks, the buffer holds the start of one line that fits, and all of
it is scanned. While the next chunk is read, the scanned bytes are in the buffer and end no line, so
that the search behind them finds what a search of all bytes finds; no slice is out of range; and
each pass but the last one makes the buffer shorter. -/
theorem feedAll_keeps_buffer (chunks : List Bytes) :
    (feedAll {} chunks).2.Settled ∧
    (∃ lines, Fed chunks lines (feedAll {} chunks).1 (feedAll {} chunks).2 ∧
      lines.length ≤ chunks.flatten.countP isTerminator) ∧
    ∀ chunk p, ((feedAll {} chunks).2.receive chunk).Reaches p →
      p.Scanned ∧ p.skipPair.Scanned ∧
      ((p.skipPair.buffer.drop p.skipPair.scanned).findIdx? isTerminator).map
          (p.skipPair.scanned + ·) = p.skipPair.buffer.findIdx? isTerminator ∧
      ∃ pass, p.pass? = some pass ∧ ∀ q, pass.next? = some q →
        q.buffer.length < p.buffer.length := by
  obtain ⟨settled, fed⟩ := exists_fed chunks
  refine ⟨settled, fed, fun chunk p reached => ?_⟩
  have ready := (settled.receive chunk).reaches reached
  obtain ⟨pass, here, next⟩ := ready.pass?
  exact ⟨ready.toScanned, ready.skipPair.1, ready.skipPair.1.search, pass, here,
    fun q left => (next q left).2⟩

/-- A place that was not taken back with the buffer is out of range. -/
example : pass? { buffer := [lineFeed], scanned := 2 } = none := rfl

end TenantLink.EventParser
