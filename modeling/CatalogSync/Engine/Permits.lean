/-!
# Permits

A fixed number of permits is handed out in the order in which they are asked for. Whoever asks gets a ticket; the ticket is
granted at once if a permit is free, and else when one is given back and no earlier ticket waits.
-/

namespace CatalogSync.Engine

/-- Permits and the tickets that wait for one. -/
structure Permits where
  free : Nat
  /-- The waiting tickets, the earliest first. -/
  queue : List Nat
  /-- The number of the next ticket. -/
  next : Nat
  deriving DecidableEq, Repr, Inhabited

namespace Permits

/-- The given number of free permits. -/
def ofNat (n : Nat) : Permits := ⟨n, [], 0⟩

/-- Asks for a permit: the ticket. -/
def ask (p : Permits) : Nat × Permits :=
  if p.free = 0 then (p.next, { p with queue := p.queue ++ [p.next], next := p.next + 1 })
  else (p.next, { p with free := p.free - 1, next := p.next + 1 })

/-- Whether a ticket has its permit. -/
def granted (p : Permits) (ticket : Nat) : Bool := !p.queue.contains ticket

/-- Gives one permit back, or hands out a new one: the earliest waiting ticket gets it. -/
def release (p : Permits) : Permits :=
  match p.queue with
  | [] => { p with free := p.free + 1 }
  | _ :: rest => { p with queue := rest }

/-- Gives several permits back, one after the other. -/
def releaseMany : Nat → Permits → Permits
  | 0, p => p
  | n + 1, p => releaseMany n p.release

/-- Takes a waiting ticket out of the queue. -/
def withdraw (p : Permits) (ticket : Nat) : Permits := { p with queue := p.queue.filter (· ≠ ticket) }

end Permits

end CatalogSync.Engine
