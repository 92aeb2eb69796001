import TenantLink.Text.Split
import TenantLink.Text.Utf8

/-!
# Event streams

A parser takes the bytes of an event stream in chunks, cuts them into lines, and gives out an
event for every blank line that ends a block with data. A line ends with a line feed, a carriage
return or both, and a chunk may end anywhere. A line that grows beyond `maxLineSize` bytes before
its end has come is dropped.
-/

namespace TenantLink

structure ServerEvent where
  name : String
  /-- The data lines of the block, joined by line feeds. -/
  data : String
  /-- The last id that was seen on the stream. -/
  id : Option String
  deriving DecidableEq, Repr

namespace ServerEvent

/-- The name of an event whose block does not name it. -/
def defaultName : String := "message"

/-- The greatest size of a line that waits for its end, in bytes. -/
def maxLineSize : Nat := 1024 * 1024

def lineFeed : UInt8 := 0x0A

def carriageReturn : UInt8 := 0x0D

def isTerminator (b : UInt8) : Bool := b = lineFeed || b = carriageReturn

end ServerEvent

structure EventBlock where
  name : Option String := none
  /-- The data lines, last first. -/
  data : List String := []
  lastId : Option String := none
  deriving DecidableEq, Repr

namespace EventBlock

/-- The name and the value of a field. One space behind the colon is left out. -/
def fieldOf (line : List Char) : List Char × List Char :=
  match Text.cutAt? ':' line with
  | none => (line, [])
  | some (field, ' ' :: value) => (field, value)
  | some (field, value) => (field, value)

/-- Takes up a field. Fields with other names do nothing, nor does an id with a NUL in it. -/
def setField (b : EventBlock) (field : String) (value : List Char) : EventBlock :=
  if field = "event" then { b with name := some (String.ofList value) }
  else if field = "data" then { b with data := String.ofList value :: b.data }
  else if field = "id" ∧ Char.ofNat 0 ∉ value then { b with lastId := some (String.ofList value) }
  else b

/-- Ends a block: its event, if it has data, and a new block. -/
def dispatch (b : EventBlock) : Option ServerEvent × EventBlock :=
  let next : EventBlock := { lastId := b.lastId }
  if b.data = [] then (none, next)
  else
    let name := (b.name.filter (· ≠ "")).getD ServerEvent.defaultName
    (some ⟨name, "\n".intercalate b.data.reverse, b.lastId⟩, next)

/-- Takes up a line. A blank one ends the block, and one that starts with a colon is a comment. -/
def takeLine (b : EventBlock) (line : List Char) : Option ServerEvent × EventBlock :=
  match line with
  | [] => b.dispatch
  | ':' :: _ => (none, b)
  | _ =>
    let (field, value) := fieldOf line
    (none, b.setField (String.ofList field) value)

def takeBytes (b : EventBlock) (line : Bytes) : Option ServerEvent × EventBlock :=
  b.takeLine (Utf8.decodeLossy line).toList

end EventBlock

structure EventParser where
  buffer : Bytes := []
  /-- How many bytes at the start of the buffer are known to end no line. -/
  scanned : Nat := 0
  /-- The last line ended with a carriage return at the end of a chunk; a line feed that comes
  next belongs to it. -/
  skipLineFeed : Bool := false
  /-- The start of the current line was dropped, and its rest is to be dropped too. -/
  discarding : Bool := false
  block : EventBlock := {}
  deriving DecidableEq, Repr

namespace EventParser

open ServerEvent

/-- Drops the line feed that belongs to the line before. -/
def skipPair (p : EventParser) : EventParser :=
  if p.skipLineFeed then
    match p.buffer with
    | [] => p
    | b :: rest =>
      if b = lineFeed then { p with buffer := rest, skipLineFeed := false }
      else { p with skipLineFeed := false }
  else p

/-- The bytes of the buffer up to the first terminator, and what comes from there on. The bytes
that were scanned before are not looked at again. -/
def cutLine (p : EventParser) : Bytes × Bytes :=
  let fresh := p.buffer.drop p.scanned
  (p.buffer.take p.scanned ++ fresh.takeWhile (!isTerminator ·), fresh.dropWhile (!isTerminator ·))

/-- Keeps the buffer, in which no line ends, for the next chunk. -/
def await (p : EventParser) : EventParser :=
  if maxLineSize < p.buffer.length then { p with buffer := [], scanned := 0, discarding := true }
  else { p with scanned := p.buffer.length }

/-- Goes on behind the terminator `b` with the bytes `rest`. -/
def afterLine (p : EventParser) (b : UInt8) (rest : Bytes) : EventParser :=
  let p := { p with buffer := rest, scanned := 0, discarding := false }
  if b = carriageReturn then
    match rest with
    | [] => { p with skipLineFeed := true }
    | c :: rest' => if c = lineFeed then { p with buffer := rest' } else p
  else p

theorem length_skipPair_le (p : EventParser) : p.skipPair.buffer.length ≤ p.buffer.length := by
  unfold skipPair
  split
  · split
    · exact Nat.le_refl _
    · rename_i h
      split <;> simp [h]
  · exact Nat.le_refl _

theorem length_afterLine_le (p : EventParser) (b : UInt8) (rest : Bytes) :
    (p.afterLine b rest).buffer.length ≤ rest.length := by
  unfold afterLine
  dsimp only
  repeat' split
  all_goals simp_all

theorem length_cutLine_lt {p : EventParser} {line rest : Bytes} {b : UInt8}
    (h : p.cutLine = (line, b :: rest)) : rest.length < p.buffer.length := by
  have found : (p.buffer.drop p.scanned).dropWhile (!isTerminator ·) = b :: rest :=
    congrArg Prod.snd h
  have shorter :=
    (List.dropWhile_sublist (!isTerminator ·) (l := p.buffer.drop p.scanned)).length_le
  rw [found, List.length_cons, List.length_drop] at shorter
  omega

/-- Cuts the buffer into lines and takes them up, behind the events `found`, last first. -/
def drain (found : List ServerEvent) (p : EventParser) : List ServerEvent × EventParser :=
  match _found : p.skipPair.cutLine with
  | (_, []) => (found.reverse, p.skipPair.await)
  | (line, b :: rest) =>
    let p' := p.skipPair.afterLine b rest
    if p.discarding then drain found p'
    else
      match p'.block.takeBytes line with
      | (none, block) => drain found { p' with block }
      | (some event, block) => drain (event :: found) { p' with block }
termination_by p.buffer.length
decreasing_by
  all_goals
    have cut := length_cutLine_lt _found
    have skipped := length_skipPair_le p
    have left := length_afterLine_le p.skipPair b rest
    omega

/-- Takes up a chunk; gives the events that it completes. -/
def feed (p : EventParser) (chunk : Bytes) : List ServerEvent × EventParser :=
  drain [] { p with buffer := p.buffer ++ chunk }

def lastEventId (p : EventParser) : Option String := p.block.lastId

end EventParser

end TenantLink
