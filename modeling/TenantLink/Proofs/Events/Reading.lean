import TenantLink.Proofs.Events.Lines

/-!
# The events of a stream

`eventsOf` says what a whole stream tells, by the values that the lines of a block give to each
field. A block that takes up line after line comes to the same: `Holds.readLines`.
-/

namespace TenantLink

open ServerEvent

/-- The text of a line. -/
def StreamLine.text (l : StreamLine) : List Char := (Utf8.decodeLossy l.bytes).toList

namespace ServerEvent

/-! ### What the lines say -/

def fieldName (line : List Char) : String := String.ofList (line.takeWhile (· ≠ ':'))

/-- What stands behind the first colon, without one leading space. -/
def fieldValue (line : List Char) : List Char :=
  match line.dropWhile (· ≠ ':') with
  | [] => []
  | _ :: ' ' :: value => value
  | _ :: value => value

def isComment (line : List Char) : Bool := line.head? = some ':'

/-- What the lines give to a field, in order. -/
def values (field : String) (lines : List (List Char)) : List (List Char) :=
  (lines.filter fun line => !isComment line && fieldName line = field).map fieldValue

/-- The last id without a NUL. -/
def lastIdOf (lines : List (List Char)) : Option String :=
  (((values "id" lines).filter (Char.ofNat 0 ∉ ·)).getLast?).map String.ofList

def nameOf (block : List (List Char)) : String :=
  match (values "event" block).getLast? with
  | none | some [] => defaultName
  | some name => String.ofList name

/-- The event of a block, when `seen` are all lines of the stream so far. -/
def eventOf (seen block : List (List Char)) : Option ServerEvent :=
  if values "data" block = [] then none
  else
    some {
      name := nameOf block
      data := "\n".intercalate ((values "data" block).map String.ofList)
      id := lastIdOf seen }

end ServerEvent

/-- An event, and the place at which the end of the blank line begins that ends its block. -/
structure PlacedEvent where
  event : ServerEvent
  place : Nat
  deriving DecidableEq, Repr

/-- Whether the event ends among the `length` bytes from `start` on. -/
def PlacedEvent.isWithin (start length : Nat) (e : PlacedEvent) : Bool :=
  start ≤ e.place ∧ e.place < start + length

/-- The events of some lines, behind the lines `seen` of which `block` are those of the current
block. -/
def eventsFrom (seen block : List (List Char)) : List StreamLine → List PlacedEvent
  | [] => []
  | l :: rest =>
    if l.text = [] then
      (eventOf seen block).toList.map (⟨·, l.place⟩) ++ eventsFrom seen [] rest
    else eventsFrom (seen ++ [l.text]) (block ++ [l.text]) rest

/-- What a stream tells. -/
def eventsOf (stream : Bytes) : List PlacedEvent := eventsFrom [] [] (linesOf stream)

/-- The last id on a stream. -/
def idOf (stream : Bytes) : Option String := lastIdOf ((linesOf stream).map StreamLine.text)

/-! ### Values -/

namespace ServerEvent

theorem values_append (field : String) (lines more : List (List Char)) :
    values field (lines ++ more) = values field lines ++ values field more := by
  simp only [values, List.filter_append, List.map_append]

theorem values_comment (field : String) (rest : List Char) : values field [':' :: rest] = [] := rfl

theorem values_field {line : List Char} (field : String) (said : isComment line = false) :
    values field [line] = if fieldName line = field then [fieldValue line] else [] := by
  simp only [values, List.filter_cons, said]
  by_cases same : fieldName line = field <;> simp [same]

theorem lastIdOf_append (lines more : List (List Char)) :
    lastIdOf (lines ++ more) = (lastIdOf more).or (lastIdOf lines) := by
  rw [lastIdOf, values_append, List.filter_append, List.getLast?_append, Option.map_or]
  rfl

theorem fieldOf_eq (line : List Char) :
    EventBlock.fieldOf line = (line.takeWhile (· ≠ ':'), fieldValue line) := by
  unfold EventBlock.fieldOf Text.cutAt? fieldValue
  cases found : line.dropWhile (· ≠ ':') with
  | nil =>
    have whole : line.takeWhile (· ≠ ':') = line := by
      have split := List.takeWhile_append_dropWhile (p := (· ≠ ':')) (l := line)
      rwa [found, List.append_nil] at split
    rw [whole]
  | cons colon after =>
    cases after with
    | nil => rfl
    | cons c value =>
      by_cases space : c = ' '
      · subst space
        rfl
      · simp [space]

end ServerEvent

namespace EventBlock

variable {b : EventBlock} {seen block : List (List Char)}

/-- `b` has taken up the lines `block` of the current block, and `seen` of the stream. -/
structure Holds (b : EventBlock) (seen block : List (List Char)) : Prop where
  name : b.name = ((values "event" block).getLast?).map String.ofList
  data : b.data.reverse = (values "data" block).map String.ofList
  lastId : b.lastId = lastIdOf seen

theorem empty_holds : Holds {} [] [] := ⟨rfl, rfl, rfl⟩

theorem values_concat (field : String) (lines : List (List Char)) {line : List Char}
    (said : isComment line = false) :
    values field (lines ++ [line]) =
      values field lines ++ if fieldName line = field then [fieldValue line] else [] := by
  rw [values_append, values_field field said]

theorem lastIdOf_concat (lines : List (List Char)) {line : List Char}
    (said : isComment line = false) :
    lastIdOf (lines ++ [line]) =
      if fieldName line = "id" ∧ Char.ofNat 0 ∉ fieldValue line then
        some (String.ofList (fieldValue line))
      else lastIdOf lines := by
  rw [lastIdOf_append]
  unfold lastIdOf
  rw [values_field "id" said]
  by_cases named : fieldName line = "id"
  · by_cases nul : Char.ofNat 0 ∈ fieldValue line <;> simp [named, nul]
  · simp [named]

/-- A field takes up the value of its line, and the others stay. -/
theorem Holds.setField (h : b.Holds seen block) {line : List Char}
    (said : isComment line = false) :
    (b.setField (fieldName line) (fieldValue line)).Holds (seen ++ [line]) (block ++ [line]) := by
  have same : (b.setField (fieldName line) (fieldValue line)) = {
      name := if fieldName line = "event" then some (String.ofList (fieldValue line)) else b.name
      data := if fieldName line = "data" then String.ofList (fieldValue line) :: b.data else b.data
      lastId := if fieldName line = "id" ∧ Char.ofNat 0 ∉ fieldValue line then
        some (String.ofList (fieldValue line)) else b.lastId } := by
    unfold EventBlock.setField
    split
    · next event => simp [event]
    · next event =>
      split
      · next data => simp [data]
      · next data =>
        split
        · rfl
        · rfl
  rw [same]
  exact {
    name := by
      rw [values_concat "event" block said, h.name]
      by_cases named : fieldName line = "event"
      · simp [named]
      · simp [named]
    data := by
      rw [values_concat "data" block said, List.map_append, ← h.data]
      by_cases named : fieldName line = "data"
      · simp [named]
      · simp [named]
    lastId := by rw [lastIdOf_concat seen said, h.lastId] }

/-- A comment says nothing. -/
theorem Holds.comment (h : b.Holds seen block) (rest : List Char) :
    b.Holds (seen ++ [':' :: rest]) (block ++ [':' :: rest]) where
  name := by
    rw [values_append, values_comment, List.append_nil]
    exact h.name
  data := by
    rw [values_append, values_comment, List.append_nil]
    exact h.data
  lastId := by
    rw [lastIdOf_append]
    exact h.lastId

theorem Holds.takeLine (h : b.Holds seen block) {line : List Char} (said : line ≠ []) :
    (b.takeLine line).1 = none ∧
      (b.takeLine line).2.Holds (seen ++ [line]) (block ++ [line]) := by
  cases line with
  | nil => exact (said rfl).elim
  | cons c rest =>
    by_cases colon : c = ':'
    · subst colon
      exact ⟨rfl, h.comment rest⟩
    · have field : b.takeLine (c :: rest) =
          (none, b.setField (fieldName (c :: rest)) (fieldValue (c :: rest))) := by
        unfold EventBlock.takeLine
        split
        · contradiction
        · next same => exact (colon (List.cons.inj same).1).elim
        · rw [fieldOf_eq]
          rfl
      rw [field]
      exact ⟨rfl, h.setField (by simp [isComment, colon])⟩

/-- A blank line ends the block, and leaves nothing of it but the id. -/
theorem Holds.dispatch (h : b.Holds seen block) :
    b.dispatch.1 = eventOf seen block ∧ b.dispatch.2.Holds seen [] := by
  have data : b.data = [] ↔ values "data" block = [] := by
    rw [← List.reverse_eq_nil_iff, h.data, List.map_eq_nil_iff]
  have name : (b.name.filter (· ≠ "")).getD defaultName = nameOf block := by
    rw [h.name]
    unfold nameOf
    cases values "event" block |>.getLast? with
    | none => rfl
    | some name =>
      cases name with
      | nil => rfl
      | cons c rest =>
        have present : String.ofList (c :: rest) ≠ "" := by
          intro blank
          have chars := congrArg String.toList blank
          simp at chars
        rw [Option.map_some, Option.filter_some, if_pos (decide_eq_true present)]
        rfl
  unfold EventBlock.dispatch eventOf
  by_cases blank : b.data = []
  · rw [if_pos blank, if_pos (data.mp blank)]
    exact ⟨rfl, rfl, rfl, h.lastId⟩
  · rw [if_neg blank, if_neg (mt data.mpr blank), name, h.data, h.lastId]
    exact ⟨rfl, rfl, rfl, rfl⟩

/-- Takes up lines; gives the events that they complete. -/
def readLines (b : EventBlock) : List StreamLine → List PlacedEvent × EventBlock
  | [] => ([], b)
  | l :: rest =>
    let (event, b) := b.takeBytes l.bytes
    let (later, b) := b.readLines rest
    (event.toList.map (⟨·, l.place⟩) ++ later, b)

theorem readLines_append (b : EventBlock) (lines more : List StreamLine) :
    b.readLines (lines ++ more) =
      ((b.readLines lines).1 ++ ((b.readLines lines).2.readLines more).1,
        ((b.readLines lines).2.readLines more).2) := by
  induction lines generalizing b with
  | nil => rfl
  | cons l rest ih => simp only [List.cons_append, readLines, ih, List.append_assoc]

/-- Every event ends with a line. -/
theorem place_of_readLines {lines : List StreamLine} {e : PlacedEvent}
    (told : e ∈ (b.readLines lines).1) : ∃ l ∈ lines, e.place = l.place := by
  induction lines generalizing b with
  | nil => cases told
  | cons l rest ih =>
    rcases List.mem_append.mp told with now | later
    · obtain ⟨_, -, rfl⟩ := List.mem_map.mp now
      exact ⟨l, List.mem_cons_self, rfl⟩
    · obtain ⟨l', member, same⟩ := ih later
      exact ⟨l', List.mem_cons_of_mem l member, same⟩

theorem Holds.readLines (h : b.Holds seen block) (lines : List StreamLine) :
    (b.readLines lines).1 = eventsFrom seen block lines ∧
      (b.readLines lines).2.lastId = lastIdOf (seen ++ lines.map StreamLine.text) := by
  induction lines generalizing b seen block with
  | nil =>
    rw [List.map_nil, List.append_nil]
    exact ⟨rfl, h.lastId⟩
  | cons l rest ih =>
    have bytes : b.takeBytes l.bytes = b.takeLine l.text := rfl
    rw [EventBlock.readLines, eventsFrom, bytes, List.map_cons]
    by_cases blank : l.text = []
    · obtain ⟨event, next⟩ := h.dispatch
      obtain ⟨later, last⟩ := ih next
      have id : lastIdOf (seen ++ l.text :: rest.map StreamLine.text) =
          lastIdOf (seen ++ rest.map StreamLine.text) := by
        rw [blank, lastIdOf_append, lastIdOf_append]
        rfl
      rw [if_pos blank, id, blank]
      refine ⟨?_, last⟩
      rw [← later, ← event]
      rfl
    · obtain ⟨event, next⟩ := h.takeLine blank
      obtain ⟨later, last⟩ := ih next
      rw [if_neg blank]
      refine ⟨?_, ?_⟩
      · rw [← later]
        dsimp only
        rw [event]
        rfl
      · rw [List.append_assoc, List.singleton_append] at last
        exact last

/-- A new block that takes up all lines of a stream tells what the stream tells. -/
theorem readLines_linesOf (stream : Bytes) :
    (({} : EventBlock).readLines (linesOf stream)).1 = eventsOf stream ∧
      (({} : EventBlock).readLines (linesOf stream)).2.lastId = idOf stream :=
  empty_holds.readLines (linesOf stream)

end EventBlock

end TenantLink
