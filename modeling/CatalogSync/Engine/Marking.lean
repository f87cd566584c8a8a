import CatalogSync.Engine.Interleaving

/-!
# Callers for guards

Guards are there for anyone: callers try for the guard of a URL, wait for one, and give back those that they have, whenever they want and for
any URLs. A call is a program, and any number of calls take turns; whoever waits may also give up. A guard that somebody has is given back
once.
-/

namespace CatalogSync.Engine.Marking

/-- What callers may ask for. -/
inductive Call where
  /-- The guard of a URL, unless somebody has it. -/
  | attempt (url : AccessUrl)
  /-- The guard of a URL, as soon as nobody has it. -/
  | await (url : AccessUrl)
  /-- To give a guard back. -/
  | drop (guard : Guard)

/-- The program of a call: the guard that the caller gets, if it gets one. -/
def Call.program : Call → Program (Option Guard)
  | attempt url => Program.request (.tryMark url)
  | await url => return some (← Program.holdGuard url)
  | drop guard => do
    Program.release guard
    return none

/-- The world, the guards that callers have, and what is left of the calls under way. -/
structure Session where
  world : World
  held : List Guard
  calls : List (Program (Option Guard))

/-- One step of a session. -/
inductive Session.Step : Session → Session → Prop where
  | attempt (w : World) (held : List Guard) (calls : List (Program (Option Guard))) (url : AccessUrl) :
    Step ⟨w, held, calls⟩ ⟨w, held, calls ++ [(Call.attempt url).program]⟩
  | await (w : World) (held : List Guard) (calls : List (Program (Option Guard))) (url : AccessUrl) :
    Step ⟨w, held, calls⟩ ⟨w, held, calls ++ [(Call.await url).program]⟩
  /-- A guard that a caller has is on its way back. -/
  | drop (w : World) (before after : List Guard) (calls : List (Program (Option Guard))) (g : Guard) :
    Step ⟨w, before ++ g :: after, calls⟩ ⟨w, before ++ after, calls ++ [(Call.drop g).program]⟩
  /-- A call makes a move. -/
  | move {w w' : World} {held : List Guard} {before after : List (Program (Option Guard))} {p p' : Program (Option Guard)} {m : Move}
    (h : Program.Step w p m w' p') : Step ⟨w, held, before ++ p :: after⟩ ⟨w', held, before ++ p' :: after⟩
  /-- A call is over, and the caller has the guard that it gave, if it gave one. -/
  | finish (w : World) (held : List Guard) (before after : List (Program (Option Guard))) (r : Option Guard) :
    Step ⟨w, held, before ++ .done r :: after⟩ ⟨w, r.toList ++ held, before ++ after⟩
  /-- Whoever waits gives up. -/
  | abandon {w : World} {held : List Guard} {before after : List (Program (Option Guard))} {p : Program (Option Guard)}
    (h : p.Interruptible) : Step ⟨w, held, before ++ p :: after⟩ ⟨w, held, before ++ after⟩

/-- The sessions that steps lead to. -/
inductive Session.Run (start : Session) : Session → Prop where
  | refl : Run start start
  | step {x y : Session} (h : Run start x) (h' : Session.Step x y) : Run start y

end CatalogSync.Engine.Marking
