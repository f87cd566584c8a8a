import CatalogSync.Engine.World

/-!
# Scripted clients and catalog

In a rehearsal the clients and the catalog follow a script, and a journal is kept of what they were asked. A fetch first waits for
a permit if the gate is closed, then takes the next response for its URL and holds it back for the response's delay.
-/

namespace CatalogSync.Rehearsal

open Engine

/-- What a client is asked for. -/
inductive Wanted where
  | snapshot | services
  deriving DecidableEq, Repr, Inhabited

/-- The written name of what a client is asked for. -/
def Wanted.name : Wanted → String
  | snapshot => "snapshot"
  | services => "services"

/-- A request that reached a client. -/
structure Fetch where
  time : Nat
  wanted : Wanted
  url : AccessUrl
  headers : Headers
  deriving Inhabited

/-- A change set that reached the catalog. -/
structure Application where
  time : Nat
  service : AccessUrl
  changes : ResourceChanges
  deriving Inhabited

/-- What clients and catalog were asked, in order. -/
structure Journal where
  fetches : List Fetch
  applied : List Application
  deriving Inhabited

/-- How a client answers a fetch: with a crash, an error or a graph, after some milliseconds. -/
structure Response where
  delay : Nat
  reply : Except String (Except FetchError Graph)

/-- The response where none is scripted. -/
def Response.default : Response := ⟨0, .ok (.ok .empty)⟩

/-- What clients and catalog will do. -/
structure Script where
  /-- Whether fetches have to wait for a permit. -/
  gated : Bool
  gate : Permits
  responses : List (AccessUrl × Response)
  advertisements : List (AccessUrl × Except FetchError (List AccessUrl))
  /-- The error that the catalog fails with, if it does. -/
  catalogError : Option ApplyError

/-- The script that says nothing. -/
def Script.empty : Script := ⟨false, .ofNat 0, [], [], none⟩

/-- Takes the first value of a URL out of a list. -/
def takeFirst {α : Type} (url : AccessUrl) : List (AccessUrl × α) → Option α × List (AccessUrl × α)
  | [] => (none, [])
  | (u, a) :: rest =>
    if u = url then (some a, rest)
    else
      let (found, left) := takeFirst url rest
      (found, (u, a) :: left)

/-- How far a fetch has come. -/
inductive Visit where
  /-- It waits at the gate with a ticket. -/
  | atGate (ticket : Nat)
  /-- It waits for a response until a time. -/
  | answered (time : Nat) (reply : Except String (Except FetchError Graph))

/-- The world with scripted clients and catalog. -/
structure Scene where
  world : World
  script : Script
  journal : Journal

namespace Scene

/-- Lets a fetch take its response. -/
def respond (x : Scene) (url : AccessUrl) : Visit × Scene :=
  let (found, responses) := takeFirst url x.script.responses
  let response := found.getD .default
  (.answered (x.world.now + response.delay) response.reply, { x with script := { x.script with responses } })

/-- Notes that a client was asked. -/
def note (x : Scene) (wanted : Wanted) (url : AccessUrl) (headers : Headers) : Scene :=
  { x with journal.fetches := x.journal.fetches ++ [⟨x.world.now, wanted, url, headers⟩] }

/-- Lets a fetch begin: at the gate if it is closed. -/
def visit (x : Scene) (url : AccessUrl) (headers : Headers) : Visit × Scene :=
  let x := x.note .snapshot url headers
  if x.script.gated then
    let (ticket, gate) := x.script.gate.ask
    (.atGate ticket, { x with script.gate := gate })
  else x.respond url

/-- Lets a fetch go on from where it is: the reply once it is there. -/
def advance (x : Scene) (url : AccessUrl) : Visit → Option (Except String (Except FetchError Graph)) × Option Visit × Scene
  | .atGate ticket =>
    if x.script.gate.granted ticket then
      match x.respond url with
      | (.answered t reply, x) =>
        if t ≤ x.world.now then (some reply, none, x) else (none, some (.answered t reply), x)
      | (v, x) => (none, some v, x)
    else (none, some (.atGate ticket), x)
  | .answered t reply => if t ≤ x.world.now then (some reply, none, x) else (none, some (.answered t reply), x)

/-- Lets the catalog take or refuse changes. -/
def apply (x : Scene) (url : AccessUrl) (changes : ResourceChanges) : Except ApplyError Unit × Scene :=
  let x : Scene := { x with journal.applied := x.journal.applied ++ [⟨x.world.now, url, changes⟩] }
  match x.script.catalogError with
  | some e => (.error e, x)
  | none => (.ok (), { x with world := x.world.apply url changes })

/-- The answer to a request if it is there, and how far a fetch has come. -/
def answer (x : Scene) (v : Option Visit) : (r : Request) → Option r.Answer × Option Visit × Scene
  | .fetch url headers =>
    match v with
    | some v => x.advance url v
    | none =>
      let (v, x) := x.visit url headers
      x.advance url v
  | .advertised url headers =>
    let x := x.note .services url headers
    let (found, advertisements) := takeFirst url x.script.advertisements
    (some (found.getD (.ok [])), none, { x with script := { x.script with advertisements } })
  | .apply url changes =>
    let (r, x) := x.apply url changes
    (some r, none, x)
  | r =>
    match x.world.perform r with
    | some (a, world) => (some a, none, { x with world })
    | none => (none, none, x)

/-- Gives up a fetch: its ticket no longer waits. -/
def giveUp (x : Scene) : Option Visit → Scene
  | some (.atGate ticket) => { x with script.gate := x.script.gate.withdraw ticket }
  | _ => x

/-- Whether a request that had to wait may be tried again. -/
def ready (x : Scene) (v : Option Visit) (r : Request) : Bool :=
  match v with
  | some (.atGate ticket) => x.script.gate.granted ticket
  | some (.answered t _) => t ≤ x.world.now
  | none => (x.world.perform r).isSome

/-- The number of releases before the next attempt to take a mark, given how many there were: one who waits attempts it after one
more only. -/
def heardBefore : Vigil → Nat → Option Nat
  | .listen, releases => some releases
  | .attempt heard, _ => some heard
  | .wait heard, releases => if heard < releases then some releases else none

/-- Lets a program run until it ends or has to wait. -/
def play {α : Type} : Program α → Option Visit → Scene → Program α × Option Visit × Scene
  | .done a, _, x => (.done a, none, x)
  | .ask r k, v, x =>
    match x.answer v r with
    | (some a, _, x) => play (k a) none x
    | (none, v, x) => (.ask r k, v, x)
  | .within d r k, v, x =>
    match x.answer v r with
    | (some a, _, x) => play (k (some a)) none x
    | (none, v, x) => if d ≤ x.world.now then play (k none) none (x.giveUp v) else (.within d r k, v, x)
  | .hold url vigil k, _, x =>
    match heardBefore vigil x.world.releases with
    | none => (.hold url vigil k, none, x)
    | some heard =>
      match x.world.tryMark url with
      | (some g, world) => play (k g) none { x with world }
      | (none, world) => (.hold url (.wait heard) k, none, { x with world })

/-- Whether a program that had to wait may be tried again. -/
def mayGoOn {α : Type} (x : Scene) (p : Program α) (v : Option Visit) : Bool :=
  match p with
  | .done _ => true
  | .ask r _ => x.ready v r
  | .within d r _ => d ≤ x.world.now || x.ready v r
  | .hold _ (.wait heard) _ => heard < x.world.releases
  | .hold _ _ _ => true

/-- The times at which a program that waits may be tried again. -/
def timers {α : Type} (p : Program α) (v : Option Visit) : List Nat :=
  let visit := match v with
    | some (.answered t _) => [t]
    | _ => []
  match p with
  | .ask (.sleep t) _ => [t]
  | .within d _ _ => d :: visit
  | _ => visit

end Scene

end CatalogSync.Rehearsal
