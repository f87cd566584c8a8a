import CatalogSync.Registry

/-!
# Callers of the registry

Each operation of the registry holds its lock from beginning to end, so a call takes effect at one time. Any number of callers may be
at work. Each of them chooses its next call by the answers that it has got so far, and whose call comes next is open; whoever gives up
makes no further call.
-/

namespace CatalogSync.Registry

/-- What callers may ask of the registry. -/
inductive Call where
  | put (service : Service)
  | update (service : Service)
  | remove (url : AccessUrl)
  /-- To store a snapshot in place of the expected one. -/
  | swap (url : AccessUrl) (expected : Option Snapshot) (new : Snapshot)
  | get (url : AccessUrl)
  | getAll
  | contains (url : AccessUrl)
  | size

/-- What a call is answered with. -/
@[reducible] def Call.Answer : Call → Type
  | put _ | update _ | contains _ => Bool
  | remove _ | get _ => Option Service
  | swap _ _ _ => Except RegistryError (Option Snapshot)
  | getAll => List Service
  | size => Nat

/-- An exchange of snapshots, and the registry after it, which is as before if the exchange fails. -/
def exchange (r : Registry) (now : Nat) (url : AccessUrl) (expected : Option Snapshot) (new : Snapshot) :
    Except RegistryError (Option Snapshot) × Registry :=
  match r.swap now url expected new with
  | .ok (previous, r') => (.ok previous, r')
  | .error e => (.error e, r)

/-- The answer to a call at a time, and the registry after it. -/
def serve (r : Registry) (now : Nat) : (c : Call) → c.Answer × Registry
  | .put s => r.put s
  | .update s => r.update s
  | .remove url => r.remove url
  | .swap url expected new => r.exchange now url expected new
  | .get url => (r.get? url, r)
  | .getAll => (r.getAll, r)
  | .contains url => (r.contains url, r)
  | .size => (r.size, r)

/-- What a caller has yet to do. -/
inductive Caller where
  | done
  /-- Calls and goes on with the answer. -/
  | ask (call : Call) (next : call.Answer → Caller)

/-- The registry and its callers. -/
structure Session where
  registry : Registry
  callers : List Caller

/-- A call that was served: whose it was, when it was served, and the answer. -/
structure Event where
  caller : Nat
  time : Nat
  call : Call
  answer : call.Answer

/-- The next call of one of the callers is served, at any time. -/
inductive Session.Step : Session → Event → Session → Prop where
  | serve (r : Registry) (before after : List Caller) (now : Nat) (c : Call) (next : c.Answer → Caller) :
    Step ⟨r, before ++ .ask c next :: after⟩ ⟨before.length, now, c, (r.serve now c).1⟩
      ⟨(r.serve now c).2, before ++ next (r.serve now c).1 :: after⟩

/-- The calls that are served one after the other, and the session that they lead to. -/
inductive Session.Run (start : Session) : List Event → Session → Prop where
  | refl : Run start [] start
  | step {es : List Event} {x y : Session} {e : Event} (h : Run start es x) (h' : Session.Step x e y) : Run start (es ++ [e]) y

end CatalogSync.Registry
