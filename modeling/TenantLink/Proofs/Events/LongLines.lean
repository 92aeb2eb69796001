import Mathlib
import TenantLink.Proofs.Events.Chunks
import TenantLink.Proofs.Text.Utf8

/-!
# Lines that are too long

A line is dropped if, when some chunk ends, more than `maxLineSize` bytes of it have come and its
end has not. A longer line whose end comes sooner is taken up, so what is told depends on the
chunks. Where all long lines are dropped, each of them may as well be left out of the stream.
-/

namespace TenantLink

open ServerEvent

/-! ### Where a line stands -/

namespace StreamLine

def start (l : StreamLine) : Nat := l.place - l.bytes.length

def isLong (l : StreamLine) : Bool := maxLineSize < l.bytes.length

/-- Whether the line had grown too long at one of some places, and had not ended there. -/
def isCut (places : List Nat) (l : StreamLine) : Bool :=
  places.any fun place => l.start + maxLineSize < place ∧ place ≤ l.place

theorem isCut_cons (place : Nat) (places : List Nat) (l : StreamLine) :
    l.isCut (place :: places) =
      (decide (l.start + maxLineSize < place ∧ place ≤ l.place) || l.isCut places) :=
  List.any_cons

end StreamLine

namespace LineScan

variable {m : LineScan} {bytes : Bytes} {l : StreamLine}

theorem step_cases (m : LineScan) (b : UInt8) :
    (m.afterReturn = true ∧ m.step b = ([], ⟨m.place + 1, [], false⟩)) ∨
    m.step b = ([⟨m.line, m.place⟩], ⟨m.place + 1, [], b = carriageReturn⟩) ∨
    (isTerminator b = false ∧ m.step b = ([], ⟨m.place + 1, m.line ++ [b], false⟩)) := by
  by_cases pair : m.afterReturn = true ∧ b = lineFeed
  · obtain ⟨after, rfl⟩ := pair
    exact .inl ⟨after, step_pair m after⟩
  · cases ends : isTerminator b with
    | true => exact .inr (.inl (step_terminator m ends pair))
    | false => exact .inr (.inr ⟨rfl, step_inside m ends⟩)

/-- The current line comes directly before the place that is read, and is empty behind a carriage
return. -/
structure Stands (m : LineScan) : Prop where
  fits : m.line.length ≤ m.place
  blank : m.afterReturn = true → m.line = []

theorem stands_at (place : Nat) (afterReturn : Bool) : Stands ⟨place, [], afterReturn⟩ where
  fits := Nat.zero_le place
  blank := fun _ => rfl

theorem Stands.longer (h : m.Stands) (b : UInt8) :
    Stands ⟨m.place + 1, m.line ++ [b], false⟩ where
  fits := by
    rw [List.length_append]
    exact Nat.add_le_add_right h.fits 1
  blank := by simp

theorem Stands.run (h : m.Stands) (bytes : Bytes) : (m.run bytes).2.Stands := by
  induction bytes generalizing m with
  | nil => exact h
  | cons b rest ih =>
    rw [LineScan.run]
    apply ih
    obtain ⟨-, step⟩ | step | ⟨-, step⟩ := m.step_cases b
    · rw [step]
      exact stands_at _ _
    · rw [step]
      exact stands_at _ _
    · rw [step]
      exact h.longer b

theorem Stands.start_le (h : m.Stands) (ended : l ∈ (m.run bytes).1) :
    l.start + l.bytes.length = l.place ∧ m.place ≤ l.start + m.line.length := by
  induction bytes generalizing m with
  | nil => cases ended
  | cons b rest ih =>
    rw [LineScan.run] at ended
    obtain ⟨after, step⟩ | step | ⟨-, step⟩ := m.step_cases b
    · rw [step] at ended
      obtain ⟨same, later⟩ := ih (stands_at _ _) ended
      rw [h.blank after]
      exact ⟨same, Nat.le_of_succ_le later⟩
    · rw [step] at ended
      obtain rfl | later := List.mem_cons.mp ended
      · exact ⟨Nat.sub_add_cancel h.fits, Nat.le_add_of_sub_le (Nat.le_refl _)⟩
      · obtain ⟨same, later⟩ := ih (stands_at _ _) later
        refine ⟨same, ?_⟩
        dsimp only [List.length_nil] at later
        omega
    · rw [step] at ended
      obtain ⟨same, later⟩ := ih (h.longer b) ended
      rw [List.length_append] at later
      exact ⟨same, Nat.le_of_succ_le_succ later⟩

/-- The first line that ends goes on with the current one, and the others start behind it. -/
theorem Stands.first (h : m.Stands) {rest : List StreamLine} (lines : (m.run bytes).1 = l :: rest) :
    (l.start + m.line.length = m.place ∨ m.line = [] ∧ m.place ≤ l.start) ∧
      ∀ l' ∈ rest, m.place ≤ l'.start := by
  induction bytes generalizing m with
  | nil => cases lines
  | cons b more ih =>
    rw [LineScan.run] at lines
    obtain ⟨after, step⟩ | step | ⟨-, step⟩ := m.step_cases b
    · rw [step] at lines
      obtain ⟨first, later⟩ := ih (stands_at _ _) lines
      dsimp only [List.length_nil] at first later
      refine ⟨.inr ⟨h.blank after, ?_⟩, fun l' member => Nat.le_of_succ_le (later l' member)⟩
      omega
    · rw [step] at lines
      obtain ⟨rfl, rfl⟩ := List.cons.inj lines
      refine ⟨.inl (Nat.sub_add_cancel h.fits), fun l' member => ?_⟩
      exact Nat.le_of_succ_le ((stands_at _ _).start_le member).2
    · rw [step] at lines
      obtain ⟨first, later⟩ := ih (h.longer b) lines
      refine ⟨.inl ?_, fun l' member => Nat.le_of_succ_le (later l' member)⟩
      obtain same | ⟨blank, -⟩ := first
      · rw [List.length_append] at same
        exact Nat.succ.inj same
      · simp at blank

/-- Where the stream starts has no part in what its lines say. -/
theorem run_bytes (place place' : Nat) (line : Bytes) (afterReturn : Bool) (bytes : Bytes) :
    ((LineScan.mk place line afterReturn).run bytes).1.map StreamLine.bytes =
      ((LineScan.mk place' line afterReturn).run bytes).1.map StreamLine.bytes := by
  induction bytes generalizing place place' line afterReturn with
  | nil => rfl
  | cons b rest ih =>
    rw [run, run, List.map_append, List.map_append]
    unfold step
    dsimp only
    split
    · exact ih ..
    · split
      · exact congrArg (line :: ·) (ih ..)
      · exact ih ..

end LineScan

/-! ### Which lines are dropped -/

namespace EventParser

variable {m : LineScan} {chunks : List Bytes} {l : StreamLine}

/-- Where each of the chunks ends, if the first begins at `place`. -/
def chunkEnds (place : Nat) : List Bytes → List Nat
  | [] => []
  | chunk :: rest => (place + chunk.length) :: chunkEnds (place + chunk.length) rest

theorem le_of_mem_chunkEnds {place e : Nat} (member : e ∈ chunkEnds place chunks) : place ≤ e := by
  induction chunks generalizing place with
  | nil => cases member
  | cons chunk rest ih =>
    obtain rfl | later := List.mem_cons.mp member
    · exact Nat.le_add_right _ _
    · exact Nat.le_of_add_right_le (ih later)

/-- Of the lines that end in a chunk, the one that was too long before it is dropped. -/
theorem taken_eq (h : m.Stands) (chunk : Bytes) :
    taken m chunk =
      (m.run chunk).1.filter fun l => !decide (l.start + maxLineSize < m.place) := by
  unfold taken
  cases lines : (m.run chunk).1 with
  | nil => rw [List.drop_nil, List.filter_nil]
  | cons l rest =>
    obtain ⟨first, later⟩ := h.first lines
    have kept : ∀ l' ∈ rest, (!decide (l'.start + maxLineSize < m.place)) = true := by
      intro l' member
      have bound := later l' member
      simp only [Bool.not_eq_true', decide_eq_false_iff_not]
      omega
    have long : l.start + maxLineSize < m.place ↔ maxLineSize < m.line.length := by
      obtain same | ⟨blank, bound⟩ := first
      · omega
      · rw [blank, List.length_nil]
        omega
    rw [List.filter_cons, List.filter_eq_self.mpr kept, decide_eq_decide.mpr long]
    cases decide (maxLineSize < m.line.length) with
    | false => rfl
    | true => rfl

theorem linesTaken_eq (h : m.Stands) (chunks : List Bytes) :
    linesTaken m chunks =
      (m.run chunks.flatten).1.filter (!·.isCut (m.place :: chunkEnds m.place chunks)) := by
  induction chunks generalizing m with
  | nil => rfl
  | cons chunk rest ih =>
    have next := LineScan.run_place m chunk
    rw [linesTaken, ih (h.run chunk), taken_eq h, List.flatten_cons, LineScan.run_append,
      List.filter_append, next]
    congr 1
    · -- A line that ends in this chunk ends before every place but the first.
      apply List.filter_congr
      intro l ended
      have bounds := LineScan.place_of_run ended
      have later : l.isCut (chunkEnds m.place (chunk :: rest)) = false := by
        apply List.any_eq_false.mpr
        intro e member cut
        have bound : m.place + chunk.length ≤ e := by
          obtain rfl | later := List.mem_cons.mp member
          · exact Nat.le_refl _
          · exact le_of_mem_chunkEnds later
        have ends := (of_decide_eq_true cut).2
        omega
      rw [StreamLine.isCut_cons, later, Bool.or_false, decide_eq_decide.mpr]
      exact (and_iff_left bounds.1).symm
    · -- A line that was too long before this chunk, and ends behind it, is too long behind it.
      apply List.filter_congr
      intro l ended
      have bounds := LineScan.place_of_run ended
      rw [next] at bounds
      rw [chunkEnds, StreamLine.isCut_cons m.place]
      by_cases long : l.start + maxLineSize < m.place
      · have cut : l.start + maxLineSize < m.place + chunk.length ∧
            m.place + chunk.length ≤ l.place := by omega
        rw [StreamLine.isCut_cons, decide_eq_true cut, Bool.true_or, Bool.or_true]
      · rw [decide_eq_false (fun cut => long cut.1), Bool.false_or]

/-- Whether the line is too long when one of the chunks ends, and goes on behind it. -/
def isDropped (chunks : List Bytes) (l : StreamLine) : Bool := l.isCut (chunkEnds 0 chunks)

/-- What a new parser tells of some chunks: their events, and the last id. -/
def told (chunks : List Bytes) : List ServerEvent × Option String :=
  ((feedAll {} chunks).1, (feedAll {} chunks).2.lastEventId)

def toldBy (lines : List StreamLine) : List ServerEvent × Option String :=
  ((eventsFrom [] [] lines).map PlacedEvent.event, lastIdOf (lines.map StreamLine.text))

theorem told_eq (chunks : List Bytes) :
    told chunks = toldBy ((linesOf chunks.flatten).filter (!isDropped chunks ·)) := by
  have same : linesTaken {} chunks = (linesOf chunks.flatten).filter (!isDropped chunks ·) := by
    rw [linesTaken_eq (LineScan.stands_at 0 false), linesOf_eq_run]
    apply List.filter_congr
    intro l _
    have start : decide (l.start + maxLineSize < 0 ∧ 0 ≤ l.place) = false :=
      decide_eq_false fun cut => Nat.not_lt_zero _ cut.1
    rw [StreamLine.isCut_cons, start, Bool.false_or]
    rfl
  obtain ⟨events, id⟩ := feedAll_taken chunks
  rw [told, events, id, same, toldBy]

theorem isLong_of_isDropped (dropped : isDropped chunks l = true) : l.isLong = true := by
  obtain ⟨e, -, cut⟩ := List.any_eq_true.mp dropped
  have cut := of_decide_eq_true cut
  have start : l.start = l.place - l.bytes.length := rfl
  apply decide_eq_true
  omega

/-- Every line that is too long is still without its end when a chunk ends behind too much of it. -/
def DropsLong (chunks : List Bytes) : Prop :=
  ∀ l ∈ linesOf chunks.flatten, l.isLong = true → isDropped chunks l = true

theorem DropsLong.told_eq (drops : DropsLong chunks) :
    told chunks = toldBy ((linesOf chunks.flatten).filter (!·.isLong)) := by
  rw [EventParser.told_eq]
  congr 1
  apply List.filter_congr
  intro l member
  rw [Bool.eq_iff_iff.mpr ⟨isLong_of_isDropped, drops l member⟩]

/-! ### A stream without one of its lines -/

variable {before line ending after : Bytes}

/-- The stream `before ++ line ++ ending ++ after` has the line `line` with the end `ending`. The
last line of a stream may have none. -/
structure IsLineIn (before line ending after : Bytes) : Prop where
  start : ∀ b, before.getLast? = some b → isTerminator b = true
  inside : ∀ b ∈ line, isTerminator b = false
  ends : ending = [lineFeed] ∨ ending = [carriageReturn, lineFeed] ∨
    ending = [carriageReturn] ∧ after.head? ≠ some lineFeed ∨ ending = [] ∧ after = []

theorem IsLineIn.run_before (h : IsLineIn before line ending after) :
    ∃ place afterReturn, (LineScan.run {} before).2 = ⟨place, [], afterReturn⟩ ∧
      (afterReturn = true → before.getLast? = some carriageReturn) := by
  have start := h.start
  cases before using List.reverseRecOn with
  | nil => exact ⟨0, false, rfl, by simp⟩
  | append_singleton bytes b =>
    have ends := start b List.getLast?_concat
    rw [LineScan.run_append, LineScan.run, LineScan.run, List.getLast?_concat]
    obtain ⟨-, step⟩ | step | ⟨inside, -⟩ := (LineScan.run {} bytes).2.step_cases b
    · exact ⟨_, false, congrArg Prod.snd step, by simp⟩
    · exact ⟨_, _, congrArg Prod.snd step, fun single => congrArg some (of_decide_eq_true single)⟩
    · rw [ends] at inside
      cases inside

/-- Behind an end of a line the stream goes on as a new one, unless that would cut a pair. -/
theorem lines_behind (place : Nat) {afterReturn : Bool}
    (whole : afterReturn = true → after.head? ≠ some lineFeed) :
    ((LineScan.mk place [] afterReturn).run after).1.map StreamLine.bytes =
      (linesOf after).map StreamLine.bytes := by
  rw [linesOf_eq_run]
  cases afterReturn with
  | false => exact LineScan.run_bytes place 0 [] false after
  | true =>
    cases after with
    | nil => rfl
    | cons b rest =>
      have other : b ≠ lineFeed := fun same => whole rfl (congrArg some same)
      rw [LineScan.run_settled place [] rest other]
      exact LineScan.run_bytes place 0 [] false (b :: rest)

theorem IsLineIn.lines (h : IsLineIn before line ending after) (filled : line ≠ []) :
    (linesOf (before ++ (line ++ (ending ++ after)))).map StreamLine.bytes =
      (linesOf before).map StreamLine.bytes ++
        ((if ending = [] then [] else [line]) ++ (linesOf after).map StreamLine.bytes) := by
  obtain ⟨place, afterReturn, scan, -⟩ := h.run_before
  have empty : line.isEmpty = false := by simpa using filled
  rw [linesOf_eq_run, LineScan.run_append, LineScan.run_append, scan,
    LineScan.run_inside _ h.inside, empty, Bool.and_false, List.nil_append, List.nil_append,
    List.map_append, ← linesOf_eq_run]
  congr 1
  rw [LineScan.run_append, List.map_append]
  -- Only behind a single carriage return does it matter what comes next.
  obtain rfl | rfl | ⟨rfl, single⟩ | ⟨rfl, rfl⟩ := h.ends
  · exact congrArg (line :: ·) (lines_behind _ fun returned => absurd returned (by decide))
  · exact congrArg (line :: ·) (lines_behind _ nofun)
  · exact congrArg (line :: ·) (lines_behind _ fun _ => single)
  · rfl

theorem IsLineIn.lines_without (h : IsLineIn before line ending after)
    (apart : before.getLast? = some carriageReturn → after.head? ≠ some lineFeed) :
    (linesOf (before ++ after)).map StreamLine.bytes =
      (linesOf before).map StreamLine.bytes ++ (linesOf after).map StreamLine.bytes := by
  obtain ⟨place, afterReturn, scan, single⟩ := h.run_before
  rw [linesOf_eq_run, LineScan.run_append, scan, List.map_append, ← linesOf_eq_run]
  congr 1
  exact lines_behind place fun returned => apart (single returned)

theorem events_congr {lines lines' : List StreamLine} (seen block : List (List Char))
    (same : lines.map StreamLine.bytes = lines'.map StreamLine.bytes) :
    (eventsFrom seen block lines).map PlacedEvent.event =
      (eventsFrom seen block lines').map PlacedEvent.event := by
  induction lines generalizing lines' seen block with
  | nil =>
    obtain rfl := List.map_eq_nil_iff.mp same.symm
    rfl
  | cons l rest ih =>
    obtain ⟨l', rest', rfl, bytes, later⟩ := List.map_eq_cons_iff.mp same.symm
    have text : l'.text = l.text := by rw [StreamLine.text, bytes, StreamLine.text]
    rw [eventsFrom, eventsFrom, text]
    split
    · rw [List.map_append, List.map_append, ih seen [] later.symm, List.map_map, List.map_map]
      rfl
    · exact ih _ _ later.symm

/-- Where lines end has no part in what they tell. -/
theorem toldBy_congr {lines lines' : List StreamLine}
    (same : lines.map StreamLine.bytes = lines'.map StreamLine.bytes) :
    toldBy lines = toldBy lines' := by
  have texts := congrArg (List.map fun bytes => (Utf8.decodeLossy bytes).toList) same
  rw [List.map_map, List.map_map] at texts
  unfold toldBy
  rw [events_congr [] [] same]
  exact congrArg _ (congrArg lastIdOf texts)

theorem bytes_of_short (stream : Bytes) :
    ((linesOf stream).filter (!·.isLong)).map StreamLine.bytes =
      ((linesOf stream).map StreamLine.bytes).filter
        (fun bytes => !decide (maxLineSize < bytes.length)) := by
  rw [List.filter_map]
  rfl

theorem IsLineIn.short_lines (h : IsLineIn before line ending after)
    (long : maxLineSize < line.length)
    (apart : before.getLast? = some carriageReturn → after.head? ≠ some lineFeed) :
    ((linesOf (before ++ (line ++ (ending ++ after)))).filter (!·.isLong)).map StreamLine.bytes =
      ((linesOf (before ++ after)).filter (!·.isLong)).map StreamLine.bytes := by
  have filled : line ≠ [] := List.ne_nil_of_length_pos (Nat.zero_lt_of_lt long)
  have dropped : (if ending = [] then [] else [line]).filter
      (fun bytes => !decide (maxLineSize < bytes.length)) = [] := by
    split
    · rfl
    · simp [long]
  rw [bytes_of_short, bytes_of_short, h.lines filled, h.lines_without apart, List.filter_append,
    List.filter_append, List.filter_append, dropped, List.nil_append]

/-! ### Long lines in chunks -/

/-- Byte after byte, a stream has every long line dropped. -/
theorem dropsLong_bytes (stream : Bytes) : DropsLong (stream.map ([·])) := by
  have ends : ∀ place e, place < e → e ≤ place + stream.length →
      e ∈ chunkEnds place (stream.map ([·])) := by
    induction stream with
    | nil =>
      intro place e least most
      rw [List.length_nil] at most
      omega
    | cons b rest ih =>
      intro place e least most
      rw [List.length_cons] at most
      rw [List.map_cons, chunkEnds, List.length_singleton]
      by_cases first : e = place + 1
      · exact first ▸ List.mem_cons_self
      · exact List.mem_cons_of_mem _ (ih (place + 1) e (by omega) (by omega))
  intro l member long
  have whole : (stream.map ([·])).flatten = stream := List.flatMap_singleton' stream
  rw [whole, linesOf_eq_run] at member
  have fits := ((LineScan.stands_at 0 false).start_le member).1
  have ended : l.place < 0 + stream.length := (LineScan.place_of_run member).2
  have long := of_decide_eq_true long
  -- The last byte of a line is the end of a chunk.
  have cut : l.start + maxLineSize < l.place ∧ l.place ≤ l.place := by omega
  exact List.any_eq_true.mpr ⟨l.place, ends 0 l.place (by omega) (by omega), decide_eq_true cut⟩

/-- An `id` line that is longer than a line may be. -/
def longId : Bytes :=
  Utf8.encodeChars ('i' :: 'd' :: ':' :: 'x' :: List.replicate maxLineSize 'x')

def shortEvent : Bytes := [0x64, 0x61, 0x74, 0x61, 0x3A, 0x41, 0x0A, 0x0A]

theorem longId_eq :
    longId = 0x69 :: 0x64 :: 0x3A :: 0x78 :: List.replicate maxLineSize 0x78 := by
  have letter : String.utf8EncodeChar 'x' = [0x78] := by decide
  have letters (n : Nat) :
      (List.replicate n 'x').flatMap String.utf8EncodeChar = List.replicate n 0x78 := by
    rw [List.flatMap_replicate, letter, List.flatten_replicate_singleton]
  unfold longId Utf8.encodeChars
  rw [List.flatMap_cons, List.flatMap_cons, List.flatMap_cons, List.flatMap_cons, letters]
  rfl

theorem maxLineSize_lt_longId : maxLineSize < longId.length := by
  rw [longId_eq]
  generalize maxLineSize = n
  rw [List.length_cons, List.length_cons, List.length_cons, List.length_cons,
    List.length_replicate]
  omega

theorem longId_inside : ∀ b ∈ longId, isTerminator b = false := by
  rw [longId_eq]
  generalize maxLineSize = n
  intro b member
  simp only [List.mem_cons, List.mem_replicate] at member
  obtain rfl | rfl | rfl | rfl | ⟨-, rfl⟩ := member
  all_goals decide

theorem linesOf_line {line : Bytes} (inside : ∀ b ∈ line, isTerminator b = false) :
    linesOf (line ++ [lineFeed]) = [⟨line, line.length⟩] := by
  rw [linesOf_eq_run, LineScan.run_append, LineScan.run_inside _ inside]
  change [StreamLine.mk ([] ++ line) (0 + line.length)] = _
  rw [List.nil_append, Nat.zero_add]

theorem toldBy_id (place : Nat) {line : Bytes} {value : List Char} (c : Char)
    (text : Utf8.decodeLossy line = String.ofList ('i' :: 'd' :: ':' :: c :: value))
    (visible : c ≠ ' ') (nul : Char.ofNat 0 ∉ c :: value) :
    toldBy [⟨line, place⟩] = ([], some (String.ofList (c :: value))) := by
  have text : StreamLine.text ⟨line, place⟩ = 'i' :: 'd' :: ':' :: c :: value := by
    rw [StreamLine.text, text, String.toList_ofList]
  have said : values "id" ['i' :: 'd' :: ':' :: c :: value] = [c :: value] := by
    have name : fieldName ('i' :: 'd' :: ':' :: c :: value) = "id" := rfl
    rw [values_field "id" rfl, if_pos name]
    simp [fieldValue, visible]
  unfold toldBy lastIdOf
  rw [List.map_singleton, text, eventsFrom, text, if_neg (by simp), eventsFrom, said]
  simp [nul]

/-- A line that comes together with its end is taken up, however long it is. -/
theorem told_whole {line : Bytes} (inside : ∀ b ∈ line, isTerminator b = false) :
    told [line ++ [lineFeed]] = toldBy [⟨line, line.length⟩] := by
  have kept : isDropped [line ++ [lineFeed]] ⟨line, line.length⟩ = false := by
    apply List.any_eq_false.mpr
    intro place member cut
    obtain rfl := List.mem_singleton.mp member
    have ends : 0 + (line ++ [lineFeed]).length ≤ line.length := (of_decide_eq_true cut).2
    rw [List.length_append, List.length_singleton] at ends
    omega
  rw [told_eq, List.flatten_singleton, linesOf_line inside, List.filter_singleton, kept]
  rfl

theorem told_cut {line : Bytes} (inside : ∀ b ∈ line, isTerminator b = false)
    (long : maxLineSize < line.length) : told [line, [lineFeed]] = ([], none) := by
  have start : StreamLine.start ⟨line, line.length⟩ = 0 := Nat.sub_self _
  have dropped : isDropped [line, [lineFeed]] ⟨line, line.length⟩ = true := by
    apply List.any_eq_true.mpr
    refine ⟨0 + line.length, List.mem_cons_self, decide_eq_true ⟨?_, ?_⟩⟩
    · rw [start]
      exact Nat.add_lt_add_left long 0
    · exact Nat.le_of_eq (Nat.zero_add _)
  rw [told_eq, List.flatten_cons, List.flatten_singleton, linesOf_line inside,
    List.filter_singleton, dropped]
  rfl

theorem longId_inLine (after : Bytes) : IsLineIn [] longId [lineFeed] after where
  start := nofun
  inside := longId_inside
  ends := .inl rfl

/-! ### Streams without their long lines -/

/-- Of all lines exactly those are left out that grow too long before a chunk ends. So if every line
that is too long does, the stream tells what its other lines tell, and the same in all such chunks
and without any of the long lines. Only a line must not be taken out from between a carriage return
and a line feed, which would then be one end of a line. -/
theorem told_without_long (chunks : List Bytes) :
    told chunks = toldBy ((linesOf chunks.flatten).filter (!isDropped chunks ·)) ∧
    (DropsLong chunks →
      told chunks = toldBy ((linesOf chunks.flatten).filter (!·.isLong)) ∧
      (∀ others, others.flatten = chunks.flatten → DropsLong others →
        told others = told chunks) ∧
      ∀ before line ending after, IsLineIn before line ending after →
        chunks.flatten = before ++ (line ++ (ending ++ after)) → maxLineSize < line.length →
        (before.getLast? = some carriageReturn → after.head? ≠ some lineFeed) →
        ∀ others, others.flatten = before ++ after → DropsLong others →
          told others = told chunks) := by
  refine ⟨told_eq chunks, fun drops => ⟨drops.told_eq, ?_, ?_⟩⟩
  · intro others same drops'
    rw [drops'.told_eq, drops.told_eq, same]
  · intro before line ending after inside parts long apart others same drops'
    rw [drops'.told_eq, drops.told_eq, same, parts]
    exact (toldBy_congr (inside.short_lines long apart)).symm

/-- Byte after byte, the line of the long id may as well be left out. -/
theorem told_without_longId :
    DropsLong ((longId ++ lineFeed :: shortEvent).map ([·])) ∧
      told ((longId ++ lineFeed :: shortEvent).map ([·])) = ([⟨"message", "A", none⟩], none) := by
  have drops := dropsLong_bytes (longId ++ lineFeed :: shortEvent)
  have parts : ((longId ++ lineFeed :: shortEvent).map ([·])).flatten =
      [] ++ (longId ++ ([lineFeed] ++ shortEvent)) := by
    rw [List.nil_append, List.singleton_append]
    exact List.flatMap_singleton' _
  have others : DropsLong [shortEvent] := by
    unfold DropsLong
    decide
  have short : told [shortEvent] = ([⟨"message", "A", none⟩], none) :=
    (told_eq [shortEvent]).trans (by cbv)
  have apart : ([] : Bytes).getLast? = some carriageReturn → shortEvent.head? ≠ some lineFeed := by
    decide
  have without := ((told_without_long _).2 drops).2.2 [] longId [lineFeed] shortEvent
    (longId_inLine shortEvent) parts maxLineSize_lt_longId apart [shortEvent] rfl others
  exact ⟨drops, without.symm.trans short⟩

/-- Whether the long id counts depends on the chunks: in one chunk with its line end it does. -/
theorem longId_kept :
    IsLineIn [] longId [lineFeed] [] ∧ maxLineSize < longId.length ∧
      told [longId ++ [lineFeed]] =
        ([], some (String.ofList ('x' :: List.replicate maxLineSize 'x'))) ∧
      told [longId, [lineFeed]] = ([], none) ∧ told [[]] = ([], none) := by
  have nul : Char.ofNat 0 ∉ 'x' :: List.replicate maxLineSize 'x' := by
    generalize maxLineSize = n
    intro member
    rw [List.mem_cons, List.mem_replicate] at member
    obtain same | ⟨-, same⟩ := member
    · exact absurd same (by decide)
    · exact absurd same (by decide)
  refine ⟨longId_inLine [], maxLineSize_lt_longId, ?_, ?_, ?_⟩
  · rw [told_whole longId_inside]
    exact toldBy_id _ 'x' (Utf8.decodeLossy_encodeChars _) (by decide) nul
  · exact told_cut longId_inside maxLineSize_lt_longId
  · exact (told_eq [[]]).trans rfl

end EventParser

end TenantLink
