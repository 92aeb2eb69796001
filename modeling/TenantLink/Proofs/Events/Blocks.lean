import Mathlib
import TenantLink.Proofs.Events.Reading
import TenantLink.Updates.Feed

/-!
# Blocks of lines

A backend that can be resumed keeps a log of ids and batches, and sends what stands behind an id, a
block for each entry and any comments in between. A start of what it sends tells the batches of the
blocks that are whole, and its last id is one of theirs unless the unfinished block has an id line.
-/

namespace TenantLink

open ServerEvent

/-! ### Finished and unfinished blocks -/

/-- The lines up to the last blank one. -/
def settled (lines : List (List Char)) : List (List Char) := lines.rdropWhile (· ≠ [])

/-- The lines behind the last blank one. -/
def unsettled (lines : List (List Char)) : List (List Char) := lines.rtakeWhile (· ≠ [])

theorem lastIdOf_settled {lines : List (List Char)} (settles : lastIdOf (unsettled lines) = none) :
    lastIdOf lines = lastIdOf (settled lines) := by
  have parts : settled lines ++ unsettled lines = lines := List.rdropWhile_append_rtakeWhile
  rw [← congrArg lastIdOf parts, lastIdOf_append, settles, Option.none_or]

/-- The batches that some lines complete, behind the lines `block` of the current block. -/
def batchesFrom (block : List (List Char)) : List (List Char) → List (List Job)
  | [] => []
  | line :: rest =>
    if line = [] then
      ((eventOf [] block).bind Feed.batchOf?).toList ++ batchesFrom [] rest
    else batchesFrom (block ++ [line]) rest

/-- A batch is told by the name and the data of its event. -/
theorem batchOf?_eventOf (seen block : List (List Char)) :
    (eventOf seen block).bind Feed.batchOf? = (eventOf [] block).bind Feed.batchOf? := by
  unfold eventOf
  split <;> rfl

theorem batches_of_events (seen block : List (List Char)) (lines : List StreamLine) :
    ((eventsFrom seen block lines).map PlacedEvent.event).filterMap Feed.batchOf? =
      batchesFrom block (lines.map StreamLine.text) := by
  induction lines generalizing seen block with
  | nil => rfl
  | cons l rest ih =>
    rw [eventsFrom, List.map_cons, batchesFrom]
    split
    · rw [List.map_append, List.filterMap_append, ih, ← batchOf?_eventOf seen]
      cases eventOf seen block with
      | none => rfl
      | some event => cases batch : Feed.batchOf? event <;> simp [batch]
    · exact ih _ _

theorem batchesFrom_unbroken {block lines : List (List Char)} (unbroken : [] ∉ lines) :
    batchesFrom block lines = [] := by
  induction lines generalizing block with
  | nil => rfl
  | cons line rest ih =>
    obtain ⟨here, there⟩ := List.ne_and_not_mem_of_not_mem_cons unbroken
    rw [batchesFrom, if_neg here.symm, ih there]

theorem batchesFrom_append {block lines : List (List Char)} (unbroken : [] ∉ lines)
    (rest : List (List Char)) :
    batchesFrom block (lines ++ [] :: rest) =
      ((eventOf [] (block ++ lines)).bind Feed.batchOf?).toList ++ batchesFrom [] rest := by
  induction lines generalizing block with
  | nil => rw [List.nil_append, batchesFrom, if_pos rfl, List.append_nil]
  | cons line lines ih =>
    obtain ⟨here, there⟩ := List.ne_and_not_mem_of_not_mem_cons unbroken
    rw [List.cons_append, batchesFrom, if_neg here.symm, ih there, List.append_assoc,
      List.singleton_append]

/-! ### Whole blocks -/

/-- The lines of a block, none of which is blank. -/
structure StreamBlock where
  lines : List (List Char)
  unbroken : [] ∉ lines
  deriving DecidableEq

namespace StreamBlock

def id? (b : StreamBlock) : Option String := lastIdOf b.lines

def batch? (b : StreamBlock) : Option (List Job) := (eventOf [] b.lines).bind Feed.batchOf?

/-- The lines that some blocks are sent in: each block has a blank line behind it. -/
def spell (blocks : List StreamBlock) : List (List Char) := blocks.flatMap (·.lines ++ [[]])

variable {blocks : List StreamBlock}

theorem spell_cons (b : StreamBlock) (blocks : List StreamBlock) :
    spell (b :: blocks) = b.lines ++ [] :: spell blocks := by
  rw [spell, List.flatMap_cons, List.append_assoc]
  rfl

/-- A start of what some blocks are sent in: whole blocks, and the start of another. -/
theorem of_prefix_spell {lines : List (List Char)} (start : lines <+: spell blocks) :
    ∃ k rest, lines = spell (blocks.take k) ++ rest ∧ [] ∉ rest := by
  induction blocks generalizing lines with
  | nil => exact ⟨0, [], List.prefix_nil.mp start, List.not_mem_nil⟩
  | cons b blocks ih =>
    obtain ⟨more, whole⟩ := start
    rw [spell_cons] at whole
    rcases List.append_eq_append_iff.mp whole with ⟨left, inside, -⟩ | ⟨left, beyond, follows⟩
    · refine ⟨0, lines, rfl, fun blank => b.unbroken ?_⟩
      rw [inside]
      exact List.mem_append_left _ blank
    · cases left with
      | nil => exact ⟨0, b.lines, beyond.trans (List.append_nil _), b.unbroken⟩
      | cons line left =>
        obtain ⟨rfl, later⟩ := List.cons.inj follows
        obtain ⟨k, rest, same, unbroken⟩ := ih ⟨more, later.symm⟩
        refine ⟨k + 1, rest, ?_, unbroken⟩
        rw [List.take_succ_cons, spell_cons, beyond, same, List.append_assoc]
        rfl

theorem batchesFrom_spell (blocks : List StreamBlock) {rest : List (List Char)}
    (unbroken : [] ∉ rest) :
    batchesFrom [] (spell blocks ++ rest) = blocks.filterMap batch? := by
  induction blocks with
  | nil => exact batchesFrom_unbroken unbroken
  | cons b blocks ih =>
    rw [spell_cons, List.append_assoc, List.cons_append, batchesFrom_append b.unbroken, ih,
      List.nil_append, List.filterMap_cons, ← batch?]
    cases b.batch? <;> rfl

theorem unsettled_spell (blocks : List StreamBlock) {rest : List (List Char)}
    (unbroken : [] ∉ rest) : unsettled (spell blocks ++ rest) = rest := by
  have inside : ∀ line ∈ rest.reverse, decide (line ≠ []) = true := by
    intro line member
    refine decide_eq_true fun blank => unbroken ?_
    rw [← blank]
    exact List.mem_reverse.mp member
  have ends : (spell blocks).reverse.takeWhile (· ≠ []) = [] := by
    cases blocks using List.reverseRecOn with
    | nil => rfl
    | append_singleton blocks b => simp [spell]
  rw [unsettled, List.rtakeWhile, List.reverse_append, List.takeWhile_append_of_pos inside, ends,
    List.append_nil, List.reverse_reverse]

/-- The last id of some blocks is that of one of them. -/
theorem lastIdOf_spell {id : String} (last : lastIdOf (spell blocks) = some id) :
    ∃ b ∈ blocks, b.id? = some id := by
  induction blocks with
  | nil => cases last
  | cons b blocks ih =>
    have blank : lastIdOf ([] :: spell blocks) = lastIdOf (spell blocks) := by
      rw [← List.singleton_append, lastIdOf_append]
      exact Option.or_none
    rw [spell_cons, lastIdOf_append, blank, Option.or_eq_some_iff] at last
    rcases last with later | ⟨-, here⟩
    · obtain ⟨c, member, same⟩ := ih later
      exact ⟨c, List.mem_cons_of_mem b member, same⟩
    · exact ⟨b, List.mem_cons_self, here⟩

end StreamBlock

/-! ### Logs -/

/-- What a backend keeps of an update. -/
structure LogEntry where
  id : Option String
  batch : Option (List Job)
  deriving DecidableEq

/-- The entry of a block. A block without an id and a batch, such as a comment, has none. -/
def StreamBlock.logged? (b : StreamBlock) : Option LogEntry :=
  if b.id?.isNone && b.batch?.isNone then none else some ⟨b.id?, b.batch?⟩

theorem StreamBlock.batches_of_entries (blocks : List StreamBlock) :
    (blocks.filterMap logged?).filterMap LogEntry.batch = blocks.filterMap batch? := by
  rw [List.filterMap_filterMap]
  refine List.filterMap_congr fun b _ => ?_
  unfold logged?
  split
  next trivial =>
    simp only [Bool.and_eq_true, Option.isNone_iff_eq_none] at trivial
    exact trivial.2.symm
  next => rfl

theorem StreamBlock.logged?_of_id {b : StreamBlock} {last : String} (same : b.id? = some last) :
    b.logged? = some ⟨some last, b.batch?⟩ := by
  rw [logged?, same]
  rfl

namespace LogEntry

/-- The entries of a log strictly behind the first one with an id; without an id all of them. -/
def behind (log : List LogEntry) : Option String → List LogEntry
  | none => log
  | some last => (log.dropWhile (·.id ≠ some last)).tail

/-- What stands behind an id has the first entry with that id in front of it. -/
theorem behind_of_mem_take {log : List LogEntry} {m : Nat} {e : LogEntry} {last : String}
    (member : e ∈ log.take m) (same : e.id = some last) :
    ∃ n ≤ m, behind log (some last) = log.drop n := by
  induction log generalizing m with
  | nil =>
    rw [List.take_nil] at member
    cases member
  | cons first log ih =>
    cases m with
    | zero => cases member
    | succ m =>
      unfold behind
      dsimp only
      by_cases found : first.id = some last
      · refine ⟨1, Nat.succ_le_succ (Nat.zero_le m), ?_⟩
        rw [List.dropWhile_cons_of_neg (by simpa using found)]
        rfl
      · rw [List.dropWhile_cons_of_pos (by simpa using found)]
        rcases List.mem_cons.mp member with rfl | later
        · exact (found same).elim
        · obtain ⟨n, bound, rest⟩ := ih later
          exact ⟨n + 1, Nat.succ_le_succ bound, rest⟩

end LogEntry

end TenantLink
