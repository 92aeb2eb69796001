import Mathlib
import TenantLink.Proofs.Events.Reading

/-!
# Reading in chunks

A parser that is fed a stream in any chunks tells what the stream tells. `Follows` ties what it
keeps between two chunks to the scan of all bytes so far.
-/

namespace TenantLink.EventParser

open ServerEvent

variable {p : EventParser} {m : LineScan} {fresh : Bytes}

/-- `p` has read as far as `m`, and `fresh` is still to be read. Of a line that has grown too long
it keeps nothing. -/
structure Follows (p : EventParser) (m : LineScan) (fresh : Bytes) : Prop where
  within : p.scanned ≤ p.buffer.length
  unread : p.buffer.drop p.scanned = fresh
  after : p.skipLineFeed = m.afterReturn
  start : m.afterReturn = true → p.scanned = 0 ∧ m.line = []
  line : p.discarding = false ∧ p.buffer.take p.scanned = m.line ∨
    p.discarding = true ∧ maxLineSize < m.line.length

/-- At the start of a line nothing is scanned. -/
theorem follows_of_unscanned (scanned : p.scanned = 0) (unskipped : p.skipLineFeed = false)
    (kept : p.discarding = false) (place : Nat) : p.Follows ⟨place, [], false⟩ p.buffer where
  within := by
    rw [scanned]
    exact Nat.zero_le _
  unread := by rw [scanned, List.drop_zero]
  after := unskipped
  start := by simp
  line := .inl ⟨kept, by rw [scanned, List.take_zero]⟩

theorem empty_follows : Follows {} {} [] := follows_of_unscanned (p := {}) rfl rfl rfl 0

theorem Follows.extend (h : p.Follows m []) (chunk : Bytes) :
    Follows { p with buffer := p.buffer ++ chunk } m chunk where
  within := by
    rw [List.length_append]
    exact Nat.le_add_right_of_le h.within
  unread := by rw [List.drop_append_of_le_length h.within, h.unread, List.nil_append]
  after := h.after
  start := h.start
  line := by
    rw [List.take_append_of_le_length h.within]
    exact h.line

/-! ### Between two lines -/

theorem Follows.skipPair (h : p.Follows m fresh) :
    ∃ m' fresh', p.skipPair.Follows m' fresh' ∧ m.run fresh = m'.run fresh' ∧
      (m'.afterReturn = false ∨ fresh' = []) := by
  obtain ⟨place, line, afterReturn⟩ := m
  cases afterReturn with
  | false =>
    have same : p.skipPair = p := by
      unfold EventParser.skipPair
      rw [h.after, if_neg (by simp)]
    rw [same]
    exact ⟨_, fresh, h, rfl, .inl rfl⟩
  | true =>
    obtain ⟨scanned, rfl⟩ := h.start rfl
    have buffer : p.buffer = fresh := by rw [← h.unread, scanned, List.drop_zero]
    have kept : p.discarding = false := by
      rcases h.line with ⟨kept, -⟩ | ⟨-, long⟩
      · exact kept
      · exact (Nat.not_lt_zero _ long).elim
    unfold EventParser.skipPair
    rw [h.after, if_pos rfl, buffer]
    cases fresh with
    | nil => exact ⟨_, [], h, rfl, .inr rfl⟩
    | cons b rest =>
      dsimp only
      by_cases pair : b = lineFeed
      · subst pair
        rw [if_pos rfl]
        have next := follows_of_unscanned
          (p := { p with buffer := rest, skipLineFeed := false }) scanned rfl kept (place + 1)
        refine ⟨_, rest, next, ?_, .inl rfl⟩
        rw [LineScan.run, LineScan.step_pair _ rfl]
        rfl
      · rw [if_neg pair]
        have next := follows_of_unscanned
          (p := { p with buffer := b :: rest, skipLineFeed := false }) scanned rfl kept place
        exact ⟨_, b :: rest, buffer ▸ next, LineScan.run_settled place [] rest pair, .inl rfl⟩

/-- At most the first byte is taken away, and nothing else changes but the mark of the pair. -/
theorem skipPair_eq (p : EventParser) :
    ∃ left skip, left.Sublist p.buffer ∧
      p.skipPair = { p with buffer := left, skipLineFeed := skip } := by
  unfold skipPair
  split
  · split
    · exact ⟨_, _, List.Sublist.refl _, rfl⟩
    next b rest holds =>
      split
      · exact ⟨rest, false, holds ▸ List.sublist_cons_self b rest, rfl⟩
      · exact ⟨_, false, List.Sublist.refl _, rfl⟩
  · exact ⟨_, _, List.Sublist.refl _, rfl⟩

theorem skipPair_frame (p : EventParser) :
    p.skipPair.block = p.block ∧ p.skipPair.discarding = p.discarding := by
  obtain ⟨left, skip, -, same⟩ := p.skipPair_eq
  rw [same]
  exact ⟨rfl, rfl⟩

theorem skipPair_sublist (p : EventParser) : p.skipPair.buffer.Sublist p.buffer := by
  obtain ⟨left, skip, sublist, same⟩ := p.skipPair_eq
  rw [same]
  exact sublist

/-- Behind the end of a line the parser is at the start of the next one. -/
theorem afterLine_follows (unskipped : p.skipLineFeed = false) (b : UInt8) (rest : Bytes)
    (place : Nat) :
    ∃ m' fresh', (p.afterLine b rest).Follows m' fresh' ∧
      (LineScan.mk place [] (b = carriageReturn)).run rest = m'.run fresh' := by
  have next := fun rest' => follows_of_unscanned
    (p := { p with buffer := rest', scanned := 0, discarding := false }) rfl unskipped rfl
  unfold afterLine
  dsimp only
  by_cases single : b = carriageReturn
  · rw [if_pos single, decide_eq_true single]
    cases rest with
    | nil =>
      refine ⟨⟨place, [], true⟩, [], ?_, rfl⟩
      exact {
        within := Nat.zero_le _
        unread := rfl
        after := rfl
        start := fun _ => ⟨rfl, rfl⟩
        line := .inl ⟨rfl, rfl⟩ }
    | cons c rest =>
      dsimp only
      by_cases pair : c = lineFeed
      · subst pair
        rw [if_pos rfl]
        refine ⟨_, rest, next rest (place + 1), ?_⟩
        rw [LineScan.run, LineScan.step_pair _ rfl]
        rfl
      · rw [if_neg pair]
        exact ⟨_, _, next (c :: rest) place, LineScan.run_settled place [] rest pair⟩
  · rw [if_neg single, decide_eq_false single]
    exact ⟨_, _, next rest place, rfl⟩

/-- The parser is at the start of a line, and its block is as before. -/
theorem afterLine_eq (p : EventParser) (b : UInt8) (rest : Bytes) :
    ∃ left skip, left.Sublist rest ∧
      p.afterLine b rest =
        { p with buffer := left, scanned := 0, skipLineFeed := skip, discarding := false } := by
  unfold afterLine
  dsimp only
  split
  · split
    · exact ⟨[], true, List.Sublist.refl _, rfl⟩
    next c rest =>
      split
      · exact ⟨rest, _, List.sublist_cons_self c rest, rfl⟩
      · exact ⟨_, _, List.Sublist.refl _, rfl⟩
  · exact ⟨_, _, List.Sublist.refl _, rfl⟩

theorem afterLine_block (p : EventParser) (b : UInt8) (rest : Bytes) :
    (p.afterLine b rest).block = p.block := by
  obtain ⟨left, skip, -, same⟩ := p.afterLine_eq b rest
  rw [same]

theorem afterLine_sublist (p : EventParser) (b : UInt8) (rest : Bytes) :
    (p.afterLine b rest).buffer.Sublist rest := by
  obtain ⟨left, skip, sublist, same⟩ := p.afterLine_eq b rest
  rw [same]
  exact sublist

/-! ### The current line -/

theorem Follows.await (h : p.Follows m fresh) (settled : m.afterReturn = false ∨ fresh = [])
    (inside : ∀ b ∈ fresh, isTerminator b = false) : p.await.Follows (m.run fresh).2 [] := by
  have buffer : p.buffer = p.buffer.take p.scanned ++ fresh := by
    rw [← h.unread, List.take_append_drop]
  have after : p.skipLineFeed = (m.afterReturn && fresh.isEmpty) := by
    rw [h.after]
    rcases settled with settled | rfl
    · simp [settled]
    · simp
  have start : (m.afterReturn && fresh.isEmpty) = true → p.buffer = [] ∧ m.line ++ fresh = [] := by
    intro returned
    obtain ⟨returned, empty⟩ := Bool.and_eq_true_iff.mp returned
    obtain ⟨scanned, line⟩ := h.start returned
    rw [List.isEmpty_iff.mp empty, scanned] at buffer
    rw [List.isEmpty_iff.mp empty, line]
    exact ⟨buffer, rfl⟩
  rw [LineScan.run_inside m inside]
  unfold EventParser.await
  split
  · next long =>
    exact {
      within := Nat.zero_le _
      unread := rfl
      after := after
      start := fun returned => ⟨rfl, (start returned).2⟩
      line := by
        right
        refine ⟨rfl, ?_⟩
        rcases h.line with ⟨-, same⟩ | ⟨-, long⟩
        · rwa [buffer, same] at long
        · rw [List.length_append]
          exact Nat.lt_add_right _ long }
  · exact {
      within := Nat.le_refl _
      unread := List.drop_length
      after := after
      start := fun returned => ⟨by rw [(start returned).1]; rfl, (start returned).2⟩
      line := by
        rw [List.take_length]
        rcases h.line with ⟨kept, same⟩ | ⟨dropped, long⟩
        · left
          refine ⟨kept, ?_⟩
          rw [buffer, same]
        · right
          refine ⟨dropped, ?_⟩
          rw [List.length_append]
          exact Nat.lt_add_right _ long }

/-- Where no line ends, no byte that is not yet scanned is a terminator. -/
theorem unread_of_cutLine {line : Bytes} (cut : p.cutLine = (line, [])) :
    ∀ b ∈ p.buffer.drop p.scanned, isTerminator b = false := by
  have none : (p.buffer.drop p.scanned).dropWhile (!isTerminator ·) = [] := congrArg Prod.snd cut
  intro b member
  have inside := List.dropWhile_eq_nil_iff.mp none b member
  simpa using inside

/-- Where one ends, the bytes that are not yet scanned are the end of the line, its terminator and
what comes behind. -/
theorem parts_of_cutLine {line rest : Bytes} {b : UInt8} (cut : p.cutLine = (line, b :: rest)) :
    ∃ front, p.buffer.drop p.scanned = front ++ b :: rest ∧
      p.buffer.take p.scanned ++ front = line ∧
      (∀ c ∈ front, isTerminator c = false) ∧ isTerminator b = true := by
  have behind : (p.buffer.drop p.scanned).dropWhile (!isTerminator ·) = b :: rest :=
    congrArg Prod.snd cut
  have whole := List.takeWhile_append_dropWhile (p := (!isTerminator ·))
    (l := p.buffer.drop p.scanned)
  have stops := List.head?_dropWhile_not (!isTerminator ·) (p.buffer.drop p.scanned)
  rw [behind] at whole stops
  refine ⟨_, whole.symm, congrArg Prod.fst cut, fun c member => ?_, by simpa using stops⟩
  have holds := List.mem_takeWhile_imp member
  simpa using holds

/-- Where no line ends, the whole buffer is the start of the current one. -/
theorem inside_of_cutLine {line : Bytes} (h : p.Follows m fresh) (cut : p.cutLine = (line, [])) :
    ∀ b ∈ fresh, isTerminator b = false := h.unread ▸ unread_of_cutLine cut

/-- The line that is cut off is the one that the scan finds, unless it is too long. -/
theorem Follows.cutLine {line rest : Bytes} {b : UInt8} (h : p.Follows m fresh)
    (settled : m.afterReturn = false ∨ fresh = []) (cut : p.cutLine = (line, b :: rest)) :
    ∃ found place,
      m.run fresh =
        (⟨found, m.place + place⟩ ::
            (LineScan.run ⟨m.place + place + 1, [], b = carriageReturn⟩ rest).1,
          (LineScan.run ⟨m.place + place + 1, [], b = carriageReturn⟩ rest).2) ∧
      (p.discarding = false ∧ line = found ∨
        p.discarding = true ∧ maxLineSize < found.length) := by
  obtain ⟨start, parts, before, inside, ends⟩ := parts_of_cutLine cut
  rw [h.unread] at parts
  have unreturned : m.afterReturn = false := by
    rcases settled with settled | empty
    · exact settled
    · rw [empty] at parts
      simp at parts
  refine ⟨m.line ++ start, start.length, ?_, ?_⟩
  · rw [parts, LineScan.run_append, LineScan.run_inside m inside, LineScan.run,
      LineScan.step_terminator _ ends (by simp [unreturned])]
    rfl
  · rcases h.line with ⟨kept, same⟩ | ⟨dropped, long⟩
    · left
      exact ⟨kept, by rw [← before, same]⟩
    · right
      refine ⟨dropped, ?_⟩
      rw [List.length_append]
      exact Nat.lt_add_right _ long

theorem Follows.withBlock (h : p.Follows m fresh) (block : EventBlock) :
    { p with block }.Follows m fresh := ⟨h.within, h.unread, h.after, h.start, h.line⟩

/-- Behind a line that has ended, the parser goes on where the scan does. -/
theorem Follows.nextLine {line rest : Bytes} {b : UInt8} (h : p.Follows m fresh)
    (cut : p.skipPair.cutLine = (line, b :: rest)) :
    ∃ l m' fresh', (p.skipPair.afterLine b rest).Follows m' fresh' ∧
      (p.discarding = false → l.bytes = line) ∧
      m.run fresh = (l :: (m'.run fresh').1, (m'.run fresh').2) := by
  obtain ⟨m₁, fresh₁, follows, same, settled⟩ := h.skipPair
  obtain ⟨found, place, run, line⟩ := follows.cutLine settled cut
  have unskipped : p.skipPair.skipLineFeed = false := by
    rcases settled with settled | rfl
    · rw [follows.after, settled]
    · have nothing : p.skipPair.cutLine.2 = [] := by
        rw [EventParser.cutLine, follows.unread]
        rfl
      rw [cut] at nothing
      cases nothing
  obtain ⟨m', fresh', next, goes⟩ :=
    afterLine_follows unskipped b rest (m₁.place + place + 1)
  refine ⟨⟨found, m₁.place + place⟩, m', fresh', next, fun kept => ?_, ?_⟩
  · rcases line with ⟨-, same⟩ | ⟨dropped, -⟩
    · exact same.symm
    · rw [p.skipPair_frame.2, kept] at dropped
      cases dropped
  · rw [same, run, goes]

/-! ### Whole chunks -/

/-- Whether the parser drops the line that it is in, because it has grown too long. -/
def Drops (p : EventParser) (m : LineScan) : Prop :=
  p.discarding = true ↔ maxLineSize < m.line.length

theorem empty_drops : Drops {} {} := by simp [Drops]

theorem afterLine_discarding (p : EventParser) (b : UInt8) (rest : Bytes) :
    (p.afterLine b rest).discarding = false := by
  obtain ⟨left, skip, -, same⟩ := p.afterLine_eq b rest
  rw [same]

/-- Where no line ends, the parser begins to drop one that has grown too long. -/
theorem Follows.await_drops (h : p.Follows m fresh)
    (inside : ∀ b ∈ fresh, isTerminator b = false) : p.await.Drops (m.run fresh).2 := by
  have buffer : p.buffer = p.buffer.take p.scanned ++ fresh := by
    rw [← h.unread, List.take_append_drop]
  rw [LineScan.run_inside m inside]
  unfold Drops EventParser.await
  dsimp only
  rw [List.length_append]
  rcases h.line with ⟨kept, same⟩ | ⟨dropped, long⟩
  · rw [buffer, same, List.length_append]
    split
    next grown => exact iff_of_true rfl grown
    next short => simp [kept, short]
  · refine iff_of_true ?_ (Nat.lt_add_right _ long)
    split
    · rfl
    · exact dropped

/-- Of the lines that end, only the first may be dropped: the one that was too long before. -/
theorem Follows.drain (h : p.Follows m fresh) (found : List ServerEvent) :
    (drain found p).1 =
        found.reverse ++
          (p.block.readLines ((m.run fresh).1.drop p.discarding.toNat)).1.map PlacedEvent.event ∧
      (drain found p).2.block =
        (p.block.readLines ((m.run fresh).1.drop p.discarding.toNat)).2 ∧
      (drain found p).2.Follows (m.run fresh).2 [] ∧ (drain found p).2.Drops (m.run fresh).2 := by
  fun_induction EventParser.drain found p generalizing m fresh with
  | case1 found p line cut =>
    obtain ⟨m', fresh', follows, same, settled⟩ := h.skipPair
    have inside := inside_of_cutLine follows cut
    have awaits := follows.await settled inside
    have drops := follows.await_drops inside
    have block : p.skipPair.await.block = p.block := by
      unfold EventParser.await
      split <;> exact p.skipPair_frame.1
    rw [LineScan.run_inside m' inside] at same awaits drops
    rw [same, List.drop_nil]
    exact ⟨(List.append_nil _).symm, block, awaits, drops⟩
  | case2 found p line b rest cut p' dropped =>
    rename_i ih
    obtain ⟨l, m', fresh', follows, -, run⟩ := h.nextLine cut
    have next := ih follows
    rw [afterLine_block, p.skipPair_frame.1, afterLine_discarding] at next
    rw [run, dropped]
    exact next
  | case3 found p line b rest cut p' kept block taken =>
    rename_i ih
    have kept := Bool.eq_false_iff.mpr kept
    obtain ⟨l, m', fresh', follows, bytes, run⟩ := h.nextLine cut
    obtain rfl := bytes kept
    rw [afterLine_block, p.skipPair_frame.1] at taken
    have next := ih (follows.withBlock block)
    have fresh : p'.discarding.toNat = 0 := congrArg Bool.toNat (afterLine_discarding _ b rest)
    dsimp only at next
    rw [fresh, List.drop_zero] at next
    rw [run, kept, Bool.toNat_false, List.drop_zero, EventBlock.readLines, taken]
    exact next
  | case4 found p line b rest cut p' kept event block taken =>
    rename_i ih
    have kept := Bool.eq_false_iff.mpr kept
    obtain ⟨l, m', fresh', follows, bytes, run⟩ := h.nextLine cut
    obtain rfl := bytes kept
    rw [afterLine_block, p.skipPair_frame.1] at taken
    obtain ⟨told, next⟩ := ih (follows.withBlock block)
    have fresh : p'.discarding.toNat = 0 := congrArg Bool.toNat (afterLine_discarding _ b rest)
    dsimp only at told next
    rw [fresh, List.drop_zero] at told next
    rw [run, kept, Bool.toNat_false, List.drop_zero, EventBlock.readLines, taken]
    refine ⟨?_, next⟩
    rw [told, List.reverse_cons, List.append_assoc]
    rfl

/-- The lines that end in a chunk, but for one that was too long before the chunk came. -/
def taken (m : LineScan) (chunk : Bytes) : List StreamLine :=
  (m.run chunk).1.drop (decide (maxLineSize < m.line.length)).toNat

theorem Follows.feed_taken (h : p.Follows m []) (drops : p.Drops m) (chunk : Bytes) :
    (p.feed chunk).1 = (p.block.readLines (taken m chunk)).1.map PlacedEvent.event ∧
      (p.feed chunk).2.block = (p.block.readLines (taken m chunk)).2 ∧
      (p.feed chunk).2.Follows (m.run chunk).2 [] ∧ (p.feed chunk).2.Drops (m.run chunk).2 := by
  have same : taken m chunk = (m.run chunk).1.drop p.discarding.toNat := by
    rw [taken, Bool.eq_iff_iff.mpr (drops.trans decide_eq_true_iff.symm)]
  rw [same]
  exact (h.extend chunk).drain []

/-- Where all lines are short none is dropped. -/
theorem drop_of_short {dropped : Bool} (long : dropped = true → maxLineSize < m.line.length)
    (start : m.afterReturn = true → m.line = [])
    (short : ∀ l ∈ (m.run fresh).1, l.bytes.length ≤ maxLineSize) :
    (m.run fresh).1.drop dropped.toNat = (m.run fresh).1 := by
  cases dropped with
  | false => rfl
  | true =>
    cases lines : (m.run fresh).1 with
    | nil => rfl
    | cons l rest =>
      have fits := short l (lines ▸ List.mem_cons_self)
      have grown := LineScan.length_line_le start lines
      have long := long rfl
      omega

theorem Follows.feed (h : p.Follows m []) (chunk : Bytes)
    (short : ∀ l ∈ (m.run chunk).1, l.bytes.length ≤ maxLineSize) :
    (p.feed chunk).1 = (p.block.readLines (m.run chunk).1).1.map PlacedEvent.event ∧
      (p.feed chunk).2.block = (p.block.readLines (m.run chunk).1).2 ∧
      (p.feed chunk).2.Follows (m.run chunk).2 [] := by
  have long : p.discarding = true → maxLineSize < m.line.length := by
    intro dropped
    rcases h.line with ⟨kept, -⟩ | ⟨-, long⟩
    · rw [dropped] at kept
      cases kept
    · exact long
  obtain ⟨told, block, follows, -⟩ := (h.extend chunk).drain []
  dsimp only at told block
  rw [drop_of_short long (fun returned => (h.start returned).2) short] at told block
  exact ⟨told, block, follows⟩

/-- Takes up chunk after chunk. -/
def feedAll (p : EventParser) : List Bytes → List ServerEvent × EventParser
  | [] => ([], p)
  | chunk :: rest =>
    let (events, p) := p.feed chunk
    let (later, p) := p.feedAll rest
    (events ++ later, p)

theorem feedAll_cons (p : EventParser) (chunk : Bytes) (rest : List Bytes) :
    p.feedAll (chunk :: rest) =
      ((p.feed chunk).1 ++ ((p.feed chunk).2.feedAll rest).1, ((p.feed chunk).2.feedAll rest).2) :=
  rfl

theorem Follows.feedAll (h : p.Follows m []) (chunks : List Bytes)
    (short : ∀ l ∈ (m.run chunks.flatten).1, l.bytes.length ≤ maxLineSize) :
    (p.feedAll chunks).1 =
        (p.block.readLines (m.run chunks.flatten).1).1.map PlacedEvent.event ∧
      (p.feedAll chunks).2.block = (p.block.readLines (m.run chunks.flatten).1).2 ∧
      (p.feedAll chunks).2.Follows (m.run chunks.flatten).2 [] := by
  induction chunks generalizing p m with
  | nil => exact ⟨rfl, rfl, h⟩
  | cons chunk rest ih =>
    rw [List.flatten_cons, LineScan.run_append] at short ⊢
    obtain ⟨told, block, next⟩ :=
      h.feed chunk fun l member => short l (List.mem_append_left _ member)
    obtain ⟨later, left, ends⟩ := ih next fun l member => short l (List.mem_append_right _ member)
    rw [EventBlock.readLines_append, List.map_append]
    refine ⟨?_, ?_, ends⟩
    · rw [← told, ← block, ← later]
      rfl
    · rw [← block, ← left]
      rfl

/-- The lines that are taken up of some chunks, behind `m`. -/
def linesTaken (m : LineScan) : List Bytes → List StreamLine
  | [] => []
  | chunk :: rest => taken m chunk ++ linesTaken (m.run chunk).2 rest

theorem Follows.feedAll_taken (h : p.Follows m []) (drops : p.Drops m) (chunks : List Bytes) :
    (p.feedAll chunks).1 = (p.block.readLines (linesTaken m chunks)).1.map PlacedEvent.event ∧
      (p.feedAll chunks).2.block = (p.block.readLines (linesTaken m chunks)).2 := by
  induction chunks generalizing p m with
  | nil => exact ⟨rfl, rfl⟩
  | cons chunk rest ih =>
    obtain ⟨told, block, follows, drops⟩ := h.feed_taken drops chunk
    obtain ⟨later, left⟩ := ih follows drops
    rw [linesTaken, EventBlock.readLines_append, List.map_append]
    refine ⟨?_, ?_⟩
    · rw [← told, ← block, ← later]
      rfl
    · rw [← block, ← left]
      rfl

/-- What a new parser tells of a stream in any chunks, in which lines may be too long. -/
theorem feedAll_taken (chunks : List Bytes) :
    (feedAll {} chunks).1 = (eventsFrom [] [] (linesTaken {} chunks)).map PlacedEvent.event ∧
      (feedAll {} chunks).2.lastEventId =
        lastIdOf ((linesTaken {} chunks).map StreamLine.text) := by
  obtain ⟨told, block⟩ := empty_follows.feedAll_taken empty_drops chunks
  obtain ⟨events, id⟩ := EventBlock.empty_holds.readLines (linesTaken {} chunks)
  exact ⟨by rw [told, events], by rw [lastEventId, block, id]; rfl⟩

theorem feedAll_concat (p : EventParser) (chunks : List Bytes) (chunk : Bytes) :
    p.feedAll (chunks ++ [chunk]) =
      ((p.feedAll chunks).1 ++ ((p.feedAll chunks).2.feed chunk).1,
        ((p.feedAll chunks).2.feed chunk).2) := by
  induction chunks generalizing p with
  | nil => simp [EventParser.feedAll]
  | cons first rest ih =>
    rw [List.cons_append, feedAll_cons, feedAll_cons, ih, List.append_assoc]

theorem linesTaken_append (m : LineScan) (chunks more : List Bytes) :
    linesTaken m (chunks ++ more) =
      linesTaken m chunks ++ linesTaken (m.run chunks.flatten).2 more := by
  induction chunks generalizing m with
  | nil => rfl
  | cons chunk rest ih =>
    rw [List.cons_append, linesTaken, linesTaken, ih, List.flatten_cons, LineScan.run_append,
      List.append_assoc]

theorem Follows.linesTaken_short (h : p.Follows m []) (drops : p.Drops m) (chunks : List Bytes)
    (short : ∀ l ∈ (m.run chunks.flatten).1, l.bytes.length ≤ maxLineSize) :
    linesTaken m chunks = (m.run chunks.flatten).1 := by
  induction chunks generalizing p m with
  | nil => rfl
  | cons chunk rest ih =>
    rw [List.flatten_cons, LineScan.run_append] at short ⊢
    obtain ⟨-, -, follows, later⟩ := h.feed_taken drops chunk
    have whole := drop_of_short of_decide_eq_true (fun returned => (h.start returned).2)
      fun l member => short l (List.mem_append_left _ member)
    rw [linesTaken, taken, whole, ih follows later fun l member =>
      short l (List.mem_append_right _ member)]

/-- What is told while some bytes are read ends there. -/
theorem place_of_event {b : EventBlock} {bytes : Bytes} {e : PlacedEvent}
    (told : e ∈ (b.readLines (m.run bytes).1).1) :
    m.place ≤ e.place ∧ e.place < m.place + bytes.length := by
  obtain ⟨l, ended, same⟩ := EventBlock.place_of_readLines told
  rw [same]
  exact LineScan.place_of_run ended

/-- The events of the middle part are those that end in it. -/
theorem events_within (b : EventBlock) (m : LineScan) (before chunk after : Bytes) :
    (b.readLines (m.run (before ++ (chunk ++ after))).1).1.filter
        (PlacedEvent.isWithin (m.place + before.length) chunk.length) =
      ((b.readLines (m.run before).1).2.readLines ((m.run before).2.run chunk).1).1 := by
  have start := LineScan.run_place m before
  have next := LineScan.run_place (m.run before).2 chunk
  have early : ∀ e ∈ (b.readLines (m.run before).1).1,
      ¬PlacedEvent.isWithin (m.place + before.length) chunk.length e = true := by
    intro e told window
    have bounds := place_of_event told
    have window := of_decide_eq_true window
    omega
  have now : ∀ e ∈ ((b.readLines (m.run before).1).2.readLines ((m.run before).2.run chunk).1).1,
      PlacedEvent.isWithin (m.place + before.length) chunk.length e = true := by
    intro e told
    have bounds := place_of_event told
    refine decide_eq_true ?_
    omega
  have late : ∀ (b' : EventBlock), ∀ e ∈
      (b'.readLines (((m.run before).2.run chunk).2.run after).1).1,
      ¬PlacedEvent.isWithin (m.place + before.length) chunk.length e = true := by
    intro b' e told window
    have bounds := place_of_event told
    have window := of_decide_eq_true window
    omega
  rw [LineScan.run_append, LineScan.run_append, EventBlock.readLines_append,
    EventBlock.readLines_append, List.filter_append, List.filter_append,
    List.filter_eq_nil_iff.mpr early, List.filter_eq_self.mpr now,
    List.filter_eq_nil_iff.mpr (late _), List.nil_append, List.append_nil]

/-- A stream in which no line ends that is too long tells the same however it is cut into chunks,
and each event comes with the chunk in which the end of its blank line begins. -/
theorem feedAll_tells (chunks : List Bytes)
    (short : ∀ l ∈ linesOf chunks.flatten, l.bytes.length ≤ maxLineSize) :
    (feedAll {} chunks).1 = (eventsOf chunks.flatten).map PlacedEvent.event ∧
    (feedAll {} chunks).2.lastEventId = idOf chunks.flatten ∧
    ∀ before chunk after, chunks = before ++ chunk :: after →
      ((feedAll {} before).2.feed chunk).1 =
        ((eventsOf chunks.flatten).filter
          (PlacedEvent.isWithin before.flatten.length chunk.length)).map PlacedEvent.event := by
  obtain ⟨events, id⟩ := EventBlock.readLines_linesOf chunks.flatten
  rw [linesOf_eq_run] at short events id
  obtain ⟨told, block, -⟩ := empty_follows.feedAll chunks short
  refine ⟨by rw [told, events], by rw [lastEventId, block, id], ?_⟩
  intro before chunk after cut
  have parts : chunks.flatten = before.flatten ++ (chunk ++ after.flatten) := by
    rw [cut, List.flatten_append, List.flatten_cons]
  rw [parts, LineScan.run_append, LineScan.run_append] at short
  obtain ⟨-, block, follows⟩ := empty_follows.feedAll before fun l member =>
    short l (List.mem_append_left _ member)
  have told := (follows.feed chunk fun l member =>
    short l (List.mem_append_right _ (List.mem_append_left _ member))).1
  have within := events_within {} {} before.flatten chunk after.flatten
  rw [← parts, events, Nat.zero_add] at within
  rw [told, block, within]

/-- A character and a pair of terminators are both cut in two. The event comes with the chunk
before the last. -/
theorem feedAll_tells_split :
    (feedAll {} [[0x64, 0x61, 0x74, 0x61, 0x3A, 0xC3], [0xA9, 0x0D], [], [0x0A, 0x0D], [0x0A]]).1 =
        [⟨"message", "é", none⟩] ∧
      ((feedAll {} [[0x64, 0x61, 0x74, 0x61, 0x3A, 0xC3], [0xA9, 0x0D], []]).2.feed
          [0x0A, 0x0D]).1 = [⟨"message", "é", none⟩] := by
  have short : ∀ l ∈ linesOf [0x64, 0x61, 0x74, 0x61, 0x3A, 0xC3, 0xA9, 0x0D, 0x0A, 0x0D, 0x0A],
      l.bytes.length ≤ maxLineSize := by decide
  have tells := feedAll_tells
    [[0x64, 0x61, 0x74, 0x61, 0x3A, 0xC3], [0xA9, 0x0D], [], [0x0A, 0x0D], [0x0A]] short
  exact ⟨tells.1.trans (by cbv), (tells.2.2 _ _ _ rfl).trans (by cbv)⟩

end TenantLink.EventParser
