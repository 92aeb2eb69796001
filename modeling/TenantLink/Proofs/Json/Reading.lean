import TenantLink.Proofs.Json.Tokens

/-!
# Reading documents

The reader makes of the tokens of a document that document again, so it makes of a text the document
that the text spells: `Document.read?_of_text`.
-/

namespace TenantLink.Json

abbrev Member := List Piece × Document

namespace Document

/-- What holds of scalars, and of an array or object as soon as it holds of all its parts, holds of
every document. -/
@[elab_as_elim]
theorem induction {P : Document → Prop} (null : P .null) (bool : ∀ b, P (.bool b))
    (number : ∀ n, P (.number n)) (string : ∀ pieces, P (.string pieces))
    (array : ∀ items, (∀ d ∈ items, P d) → P (.array items))
    (object : ∀ members : List Member, (∀ m ∈ members, P m.2) → P (.object members)) :
    ∀ d, P d
  | .null => null
  | .bool b => bool b
  | .number n => number n
  | .string pieces => string pieces
  | .array items => array items fun d _ => induction null bool number string array object d
  | .object members =>
    object members fun m _ => induction null bool number string array object m.2
termination_by d => sizeOf d
decreasing_by
  · have smaller := List.sizeOf_lt_of_mem ‹d ∈ items›
    simp only [Document.array.sizeOf_spec]
    omega
  · obtain ⟨key, d⟩ := m
    have smaller := List.sizeOf_lt_of_mem ‹(key, d) ∈ members›
    simp only [Document.object.sizeOf_spec, Prod.mk.sizeOf_spec] at smaller ⊢
    omega

end Document

/-! ### The reader -/

namespace Reader

variable {frames : List Frame} {ts : List Token}

theorem run_firstItem (d : Document) :
    (firstItem frames).run (d.tokens ++ ts) =
      (value (.array [] :: frames)).run (d.tokens ++ ts) := by
  cases d <;> rfl

/-- Whether a reader takes the tokens of a document for that document. -/
def Reads (d : Document) : Prop :=
  ∀ frames ts, (value frames).run (d.tokens ++ ts) = (after d frames).run ts

theorem run_restItems {rest : List Document} (reads : ∀ d ∈ rest, Reads d) (d : Document)
    (done : List Document) :
    (after d (.array done :: frames)).run (restItemTokens rest ++ .closeArray :: ts) =
      (after (.array (done.reverse ++ d :: rest)) frames).run ts := by
  induction rest generalizing d done with
  | nil =>
    rw [restItemTokens, List.nil_append, ← List.reverse_cons]
    rfl
  | cons e rest ih =>
    have next := ih (fun d member => reads d (List.mem_cons_of_mem e member)) e (d :: done)
    rw [List.reverse_cons, List.append_assoc, List.singleton_append] at next
    rw [restItemTokens, List.cons_append, List.append_assoc, run]
    exact (reads e List.mem_cons_self _ _).trans next

theorem run_restMembers {rest : List Member} (reads : ∀ m ∈ rest, Reads m.2) (key : List Piece)
    (d : Document) (done : List Member) :
    (after d (.object done key :: frames)).run (restMemberTokens rest ++ .closeObject :: ts) =
      (after (.object (done.reverse ++ (key, d) :: rest)) frames).run ts := by
  induction rest generalizing key d done with
  | nil =>
    rw [restMemberTokens, List.nil_append, ← List.reverse_cons]
    rfl
  | cons m rest ih =>
    obtain ⟨key', e⟩ := m
    have next := ih (fun m member => reads m (List.mem_cons_of_mem _ member)) key' e
      ((key, d) :: done)
    rw [List.reverse_cons, List.append_assoc, List.singleton_append] at next
    rw [restMemberTokens, List.cons_append, List.append_assoc, namedTokens]
    exact (reads (key', e) List.mem_cons_self _ _).trans next

theorem reads (d : Document) : Reads d := by
  induction d using Document.induction with
  | array items ih =>
    intro frames ts
    cases items with
    | nil => rfl
    | cons d rest =>
      -- The first item may be missing, so the reader awaits it in a state of its own.
      rw [Document.tokens, itemTokens, List.cons_append, run]
      dsimp only [step, openValue]
      rw [List.append_assoc, List.append_assoc, run_firstItem, ih d List.mem_cons_self]
      exact run_restItems (fun d member => ih d (List.mem_cons_of_mem _ member)) d []
  | object members ih =>
    intro frames ts
    cases members with
    | nil => rfl
    | cons m rest =>
      obtain ⟨key, d⟩ := m
      have first := ih _ List.mem_cons_self (.object [] key :: frames)
        (restMemberTokens rest ++ .closeObject :: ts)
      rw [Document.tokens, memberTokens, namedTokens]
      simp only [List.cons_append, List.append_assoc, List.nil_append]
      refine first.trans ?_
      exact run_restMembers (fun m member => ih m (List.mem_cons_of_mem _ member)) key d []
  | _ => exact fun frames ts => rfl

end Reader

theorem Document.ofTokens?_tokens (d : Document) : ofTokens? d.tokens = some d := by
  have read := Reader.reads d [] []
  rw [List.append_nil] at read
  rw [ofTokens?, read]
  rfl

theorem Document.read?_of_text {d : Document} {bytes : Bytes} (h : SpellsText d bytes) :
    read? bytes = some d := by
  rw [read?, tokens?_of_text h]
  exact d.ofTokens?_tokens

end TenantLink.Json
