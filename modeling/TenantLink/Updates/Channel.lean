/-!
# Broadcast channels

What is published goes to every subscriber, from the time of its subscription on. The channel keeps
a limited number of items: a subscriber that falls further behind goes on with the oldest item
that is still kept.
-/

namespace TenantLink

structure Channel (α : Type) where
  capacity : Nat
  published : List α := []
  deriving DecidableEq, Repr

/-- A place in the order of publication: that of the next item to be received. -/
structure Subscription where
  next : Nat
  deriving DecidableEq, Repr

namespace Channel

variable {α : Type}

/-- The first exponent from `k` on with which a power of two is enough for `size` items. -/
def exponentFor (size k : Nat) : Nat := if size ≤ Nat.pow 2 k then k else exponentFor size (k + 1)
termination_by size - k
decreasing_by
  have bound : k < Nat.pow 2 k := Nat.lt_two_pow_self
  omega

/-- A channel for at least `size` items. The number of items kept is a power of two. -/
def ofSize (size : Nat) : Channel α := { capacity := Nat.pow 2 (exponentFor size 0) }

def publish (c : Channel α) (a : α) : Channel α := { c with published := c.published ++ [a] }

/-- Receives everything that is published from now on. -/
def subscribe (c : Channel α) : Subscription := ⟨c.published.length⟩

/-- The place of the oldest item that is kept. -/
def oldest (c : Channel α) : Nat := c.published.length - c.capacity

/-- The place of the item that a subscriber gets next. -/
def nextFor (c : Channel α) (s : Subscription) : Nat := max s.next c.oldest

def receive? (c : Channel α) (s : Subscription) : Option (α × Subscription) :=
  (c.published[c.nextFor s]?).map (·, ⟨c.nextFor s + 1⟩)

def waiting (c : Channel α) (s : Subscription) : List α := c.published.drop (c.nextFor s)

def drained (c : Channel α) (s : Subscription) : Subscription :=
  ⟨max s.next c.published.length⟩

end Channel

end TenantLink
