import CatalogSync.Engine.Report

/-!
# Programs of the engine

The engine's operations are programs that ask for one thing at a time: each request is atomic, and between two requests anything
may happen. A request may be made with a deadline, after which the program may go on without an answer. Waiting for a guard is a
loop of its own: listen for releases, try to take the mark, and wait for a release that comes after the listening began.
-/

namespace CatalogSync.Engine

/-- One thing that a program asks for. -/
inductive Request where
  /-- The time. -/
  | now
  /-- To sleep until a time. -/
  | sleep (time : Nat)
  /-- The entry of a URL in the registry. -/
  | service (url : AccessUrl)
  /-- All services, ordered by URL. -/
  | services
  /-- To register a service: whether it is new. -/
  | register (service : Service)
  /-- To take an entry out of the registry. -/
  | remove (url : AccessUrl)
  /-- To store a snapshot in place of the expected one. -/
  | swap (url : AccessUrl) (expected : Option Snapshot) (new : Snapshot)
  /-- To make a graph a new object. -/
  | snapshot (graph : Graph)
  /-- The secret of an alias. -/
  | resolve (name : String)
  /-- To mark a URL as in flight, unless it is. -/
  | tryMark (url : AccessUrl)
  /-- To take a guard's mark away. -/
  | unmark (guard : Guard)
  /-- To wake everyone who waits for a release. -/
  | wake
  /-- To tell the sink about a failure. -/
  | report (pipeline : String) (failure : Failure)
  /-- To start a task: its number. -/
  | spawn (job : Job)
  /-- To wait for what a task's tick comes to. -/
  | join (task : Nat)
  /-- To queue for a permit: the ticket. -/
  | queue
  /-- To wait until a ticket is granted. -/
  | permit (ticket : Nat)
  /-- To give a permit back. -/
  | leave
  /-- To fetch the graph of a service; the client may crash. -/
  | fetch (url : AccessUrl) (headers : Headers)
  /-- To fetch the URLs that a registry advertises. -/
  | advertised (registry : AccessUrl) (headers : Headers)
  /-- To apply changes to the catalog. -/
  | apply (url : AccessUrl) (changes : ResourceChanges)

/-- What a request is answered with. -/
@[reducible] def Request.Answer : Request → Type
  | now => Nat
  | service _ => Option Service
  | services => List Service
  | register _ => Bool
  | remove _ => Option Service
  | swap _ _ _ => Except RegistryError (Option Snapshot)
  | snapshot _ => Snapshot
  | resolve _ => Option String
  | tryMark _ => Option Guard
  | spawn _ => Nat
  | join _ => Except String TickResult
  | queue => Nat
  | fetch _ _ => Except String (Except FetchError Graph)
  | advertised _ _ => Except FetchError (List AccessUrl)
  | apply _ _ => Except ApplyError Unit
  | sleep _ | unmark _ | wake | report _ _ | permit _ | leave => Unit

/-- Where a program is that waits for a guard. -/
inductive Vigil where
  /-- About to listen for releases. -/
  | listen
  /-- About to try, having listened since the given number of releases. -/
  | attempt (heard : Nat)
  /-- Waiting for a release after the given number of them. -/
  | wait (heard : Nat)
  deriving DecidableEq, Repr

/-- A program that ends in a value. -/
inductive Program (α : Type) where
  | done (a : α)
  /-- Asks and goes on with the answer. -/
  | ask (request : Request) (next : request.Answer → Program α)
  /-- Asks and goes on with the answer, or with none once the deadline has passed. -/
  | within (deadline : Nat) (request : Request) (next : Option request.Answer → Program α)
  /-- Waits for the guard of a URL. -/
  | hold (url : AccessUrl) (vigil : Vigil) (next : Guard → Program α)

namespace Program

variable {α β γ : Type}

/-- A program followed by another that its value chooses. -/
def bind : Program α → (α → Program β) → Program β
  | done a, f => f a
  | ask r k, f => ask r fun x => (k x).bind f
  | within d r k, f => within d r fun x => (k x).bind f
  | hold u s k, f => hold u s fun g => (k g).bind f

instance : Monad Program where
  pure := done
  bind := bind

/-- A program that only returns is done. -/
@[simp] theorem pure_eq (a : α) : (pure a : Program α) = done a := rfl

/-- What follows a program that is done begins at once. -/
@[simp] theorem done_bind (a : α) (f : α → Program β) : (done a >>= f) = f a := rfl

/-- What follows a request follows each of its answers. -/
@[simp] theorem ask_bind (r : Request) (k : r.Answer → Program α) (f : α → Program β) :
    (ask r k >>= f) = ask r fun x => k x >>= f := rfl

/-- It follows a request under a deadline also where that expires. -/
@[simp] theorem within_bind (d : Nat) (r : Request) (k : Option r.Answer → Program α) (f : α → Program β) :
    (within d r k >>= f) = within d r fun x => k x >>= f := rfl

/-- What follows a wait for a guard follows with each guard. -/
@[simp] theorem hold_bind (u : AccessUrl) (s : Vigil) (k : Guard → Program α) (f : α → Program β) :
    (hold u s k >>= f) = hold u s fun g => k g >>= f := rfl

/-- Returning what a program returned adds nothing. -/
theorem bind_done (p : Program α) : p >>= done = p := by
  induction p with
  | done a => rfl
  | ask r k ih | within d r k ih | hold u s k ih => simp [ih]

/-- Programs follow one another in whatever way they are bracketed. -/
theorem bind_bind (p : Program α) (f : α → Program β) (g : β → Program γ) :
    p >>= f >>= g = p >>= fun a => f a >>= g := by
  induction p with
  | done a => rfl
  | ask r k ih | within d r k ih | hold u s k ih => simp [ih]

instance : LawfulMonad Program := LawfulMonad.mk' Program
  (fun p => bind_done p)
  (fun _ _ => rfl)
  (fun p f g => bind_bind p f g)

/-- The answer to a request. -/
def request (r : Request) : Program r.Answer := ask r done

/-- The guard of a URL, as soon as nobody else has it. -/
def holdGuard (url : AccessUrl) : Program Guard := hold url .listen done

/-- Gives a guard back: its mark goes, and then those who wait are woken. -/
def release (g : Guard) : Program Unit := do
  request (.unmark g)
  request .wake

end Program

/-- Why timed work ended early. -/
inductive Halt where
  /-- The deadline passed. -/
  | expired
  /-- A collaborator crashed. -/
  | crashed (reason : String)
  deriving DecidableEq, Repr

/-- Work under a deadline, if it has one, that may end early. -/
abbrev Timed := ReaderT (Option Nat) (ExceptT Halt Program)

namespace Timed

variable {α : Type}

/-- A program that takes no time. -/
def lift (p : Program α) : Timed α := fun _ => ExceptT.lift p

/-- The end of timed work. -/
def halt (h : Halt) : Timed α := fun _ => throw h

/-- The answer to a request, unless the deadline passes before it comes. -/
def request (r : Request) : Timed r.Answer := fun deadline =>
  match deadline with
  | none => ExceptT.lift (Program.request r)
  | some d => ExceptT.mk (.within d r fun
    | some a => .done (.ok a)
    | none => .done (.error .expired))

/-- What timed work comes to under a deadline. -/
def run (t : Timed α) (deadline : Option Nat) : Program (Except Halt α) := (ReaderT.run t deadline).run

end Timed

end CatalogSync.Engine
