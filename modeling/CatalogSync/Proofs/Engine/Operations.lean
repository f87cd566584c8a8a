import CatalogSync.Proofs.Engine.Ticks

/-!
# Operations keep a regime

Every operation, begun without a guard, keeps a regime and ends without a guard (`Operation.keeps_program`), if the services that it
registers are admitted. So does every job, begun with the guard that it is handed, and what is left of a task that was cut short.
-/

namespace CatalogSync.Engine

open Regime

variable {P : Regime}

namespace Program

/-- Asking for what is not the business of any site keeps an assertion. -/
theorem keeps_request (A : P.Assertion) {held : Held} {r : Request} (h : A.holds held)
    (hr : ∀ h, A.holds h → P.Reply h r fun _ h => A.holds h) : (request r).Keeps P held fun _ h => A.holds h :=
  Ask.mono (fun _ _ ha => ha) (fun _ _ => trivial) (A.ask h hr)

/-- Asking without a guard for what is not the business of any site. -/
theorem keeps_asking (r : Request) (h : P.Reply none r fun _ h => h = none) : (request r).Keeps P none fun _ h => h = none :=
  keeps_request_none h

/-- Registering an admitted service keeps a regime. -/
theorem keeps_registering {s : Service} (ha : P.admits s) : (request (.register s)).Keeps P none fun _ h => h = none :=
  keeps_asking (.register s) ⟨rfl, ha, fun _ => rfl⟩

/-- Whoever takes the mark of a URL holds its guard with the site in order. -/
theorem keeps_tryMark (url : AccessUrl) :
    (request (.tryMark url)).Keeps P none fun a h => match a with
      | none => h = none
      | some g => ∃ σ, h = some (g, σ) ∧ P.sound g.url σ :=
  keeps_request_none ⟨rfl, rfl, fun _ σ hu hs => ⟨σ, rfl, hu ▸ hs⟩⟩

/-- Whoever waited for the guard of a URL holds it with the site in order. -/
theorem keeps_holdGuard (url : AccessUrl) :
    (holdGuard url).Keeps P none fun g h => g.url = url ∧ (P.inOrder g).holds h :=
  ⟨rfl, fun _ σ hu hs => ⟨hu, σ, rfl, hu ▸ hs⟩⟩

end Program

/-- A synchronization takes a free guard for its tick, and ends without it. -/
theorem Synchronizer.keeps_synchronize (y : Synchronizer) (url : AccessUrl) :
    (y.synchronize url).Keeps P none fun _ h => h = none := by
  refine (Program.keeps_tryMark url).seq ?_
  rintro (_ | g) h hg
  · exact hg
  · obtain ⟨σ, rfl, hσ⟩ := hg
    exact (y.keeps_runTick hσ).seq fun _ _ hn => hn

/-- Cleaning up after an entry leaves the site in order: what its snapshot showed in the catalog is owed and then removed. -/
theorem keeps_cleanUp {g : Guard} {held : Held} (h : (P.inOrder g).holds held) :
    (cleanUp g.url).Keeps P held fun _ h => (P.inOrder g).holds h := by
  have hremove : (Program.request (.remove g.url)).Keeps P held fun a h => match a with
      | none => (P.inOrder g).holds h
      | some s => (P.owing g (cleanupOf s)).holds h := by
    intro held' hg
    have h' := (P.inOrder g).stable h hg
    refine ⟨(P.inOrder g).safe h', ?_, fun _ => trivial⟩
    obtain ⟨⟨entry, shelf⟩, rfl, hσ⟩ := h'
    refine ⟨g, ⟨entry, shelf⟩, rfl, rfl, fun hk => ?_⟩
    cases entry with
    | none => exact ⟨_, rfl, hσ⟩
    | some s => exact ⟨_, rfl, P.owed_of_remove hσ (hk s rfl)⟩
  refine hremove.seq ?_
  rintro (_ | s) h hs
  · exact hs
  · dsimp only
    split
    · rename_i he
      obtain ⟨σ, rfl, hσ⟩ := hs
      exact ⟨σ, rfl, P.sound_of_isEmpty hσ he⟩
    · have happly : (Program.request (.apply g.url (cleanupOf s))).Keeps P h fun _ h => (P.inOrder g).holds h := by
        intro held' hg
        have hs' := (P.owing g (cleanupOf s)).stable hs hg
        refine ⟨(P.owing g (cleanupOf s)).safe hs', ?_, fun _ => trivial⟩
        obtain ⟨σ, rfl, hσ⟩ := hs'
        exact ⟨g, σ, rfl, rfl, hσ, ⟨_, rfl, P.sound_of_apply hσ⟩, fun hl _ => ⟨σ, rfl, P.sound_of_lossy hl hσ⟩⟩
      refine happly.seq ?_
      rintro (e | ⟨⟩) h hg
      · exact hg
      · exact hg

/-- An unregistration waits for a guard, cleans up with it and ends without it. -/
theorem keeps_unregister (url : AccessUrl) : (unregister url).Keeps P none fun _ h => h = none := by
  refine (Program.keeps_holdGuard url).seq ?_
  rintro g h ⟨rfl, hg⟩
  refine (keeps_cleanUp hg).seq fun r h hs => ?_
  exact (Synchronizer.keeps_release hs).seq fun _ _ hn => hn

namespace Discovery

/-- Building headers asks for nothing but a secret. -/
theorem keeps_headers (auth : AuthMethod) :
    Program.Keeps P (auth.headers fun name => Program.request (.resolve name)) none fun _ h => h = none := by
  refine Program.Meets.seq (Q := fun _ h => h = none) ?_ fun _ _ hn => hn
  cases auth with
  | none | basic username password | apiKey name value => exact rfl
  | vault name =>
    refine (Program.keeps_asking (.resolve name) fun _ => rfl).seq ?_
    rintro (_ | value) h hn
    · exact hn
    · exact hn

/-- The services that are advertised have no snapshot yet, so that a regime admits them. -/
theorem keeps_registerNew (registry : AccessUrl) (auth : AuthMethod) (urls : List AccessUrl) :
    (registerNew registry auth urls).Keeps P none fun _ h => h = none := by
  induction urls with
  | nil => exact rfl
  | cons url rest ih =>
    refine (Program.keeps_registering (P.admits_discovered registry auth url)).seq ?_
    rintro isNew h rfl
    exact ih.seq fun _ _ hn => hn

/-- Unregistering one URL after the other keeps a regime, each with a guard of its own. -/
theorem keeps_unregisterAll (urls : List AccessUrl) : (unregisterAll urls).Keeps P none fun _ h => h = none := by
  induction urls with
  | nil => exact rfl
  | cons url rest ih =>
    refine (keeps_unregister url).seq ?_
    rintro _ h rfl
    exact ih

end Discovery

/-- So does a pass of discovery. -/
theorem keeps_discover (registry : AccessUrl) (auth : AuthMethod) :
    (discover registry auth).Keeps P none fun _ h => h = none := by
  refine (Discovery.keeps_headers auth).seq ?_
  rintro (e | headers) h rfl
  · exact rfl
  refine (Program.keeps_asking (.advertised registry headers) fun _ => rfl).seq ?_
  rintro (e | urls) h rfl
  · exact rfl
  refine Program.Meets.seq (Q := fun _ h => h = none) ?_ fun _ _ hn => hn
  refine (Discovery.keeps_registerNew registry auth urls.eraseDups).seq ?_
  rintro added h rfl
  refine (Program.keeps_asking (.services) fun _ => rfl).seq ?_
  rintro services h rfl
  exact (Discovery.keeps_unregisterAll _).seq fun _ _ hn => hn

namespace Scheduler

/-- The guard that a tick is started with goes to the tick's task. -/
theorem keeps_startTick (url : AccessUrl) : (startTick url).Keeps P none fun _ h => h = none := by
  refine (Program.keeps_tryMark url).seq ?_
  rintro (_ | g) h hg
  · exact hg
  · have hspawn : (Program.request (.spawn (.tick g))).Keeps P h fun _ h => h = none := by
      intro held' hgrow
      have h' := (P.inOrder g).stable hg hgrow
      refine ⟨(P.inOrder g).safe h', ?_, fun _ => trivial⟩
      obtain ⟨σ, rfl, hσ⟩ := h'
      exact ⟨σ, rfl, hσ, fun _ => rfl⟩
    exact hspawn.seq fun _ _ hn => hn

/-- Waiting for a tick asks for nothing that a regime is about. -/
theorem keeps_finishTick (task : Option Nat) : (finishTick task).Keeps P none fun _ h => h = none := by
  cases task with
  | none => exact rfl
  | some task =>
    refine (Program.keeps_asking (.join task) fun _ => rfl).seq ?_
    rintro (reason | r) h hn
    · exact hn
    · exact hn

/-- Starting the ticks of a round keeps a regime, a guard going to each task. -/
theorem keeps_startTicks (services : List Service) : (startTicks services).Keeps P none fun _ h => h = none := by
  induction services with
  | nil => exact rfl
  | cons s rest ih =>
    refine (keeps_startTick s.url).seq ?_
    rintro task h rfl
    exact ih.seq fun _ _ hn => hn

/-- So does waiting for them. -/
theorem keeps_finishTicks (ticks : List (AccessUrl × Option Nat)) : (finishTicks ticks).Keeps P none fun _ h => h = none := by
  induction ticks with
  | nil => exact rfl
  | cons t rest ih =>
    refine (keeps_finishTick t.2).seq ?_
    rintro outcome h rfl
    exact ih.seq fun _ _ hn => hn

/-- So do the passes of all watched registries. -/
theorem keeps_discoverAll (watched : List Watched) : (discoverAll watched).Keeps P none fun _ h => h = none := by
  induction watched with
  | nil => exact rfl
  | cons w rest ih =>
    refine (keeps_discover w.url w.auth).seq ?_
    rintro _ h rfl
    exact ih

/-- So does a round. -/
theorem keeps_runOnce (s : Scheduler) : s.runOnce.Keeps P none fun _ h => h = none := by
  have hticks : Program.Keeps P (do finishTicks (← startTicks (← Program.request .services))) none fun _ h => h = none := by
    refine (Program.keeps_asking (.services) fun _ => rfl).seq ?_
    rintro services h rfl
    refine (keeps_startTicks services).seq ?_
    rintro ticks h rfl
    exact keeps_finishTicks ticks
  unfold runOnce
  split
  · refine (keeps_discoverAll s.watched).seq ?_
    rintro _ h rfl
    exact hticks
  · exact hticks

/-- A registration with a first tick keeps a regime that admits the service. -/
theorem keeps_register {service : Service} (ha : P.admits service) :
    (register service).Keeps P none fun _ h => h = none := by
  refine (Program.keeps_registering ha).seq ?_
  rintro (_ | _) h rfl
  · exact rfl
  · refine (keeps_startTick service.url).seq ?_
    rintro task h rfl
    exact (keeps_finishTick task).seq fun _ _ hn => hn

end Scheduler

/-- Which operations may be called: those that register admitted services. -/
def Regime.AdmitsCall (P : Regime) : Operation → Prop
  | .register service | .schedule service => P.admits service
  | .synchronize _ | .unregister _ | .discover _ _ | .round => True

/-- An operation keeps a regime, and ends without a guard. -/
theorem Operation.keeps_program (s : Scheduler) {op : Operation} (h : P.AdmitsCall op) :
    (op.program s).Keeps P none fun _ h => h = none := by
  cases op with
  | register service =>
    exact (Program.keeps_registering h).seq fun _ _ hn => hn
  | synchronize url =>
    refine (s.synchronizer.keeps_synchronize url).seq ?_
    rintro (reason | outcome) h hn
    · exact hn
    · exact hn
  | unregister url => exact (keeps_unregister url).seq fun _ _ hn => hn
  | discover registry auth => exact (keeps_discover registry auth).seq fun _ _ hn => hn
  | round => exact s.keeps_runOnce.seq fun _ _ hn => hn
  | schedule service => exact (Scheduler.keeps_register h).seq fun _ _ hn => hn

/-- A new task holds what it was handed. -/
def Origin.Holds (P : Regime) : Origin → Held → Prop
  | .job (.tick g), held => ∃ σ, held = some (g, σ) ∧ P.sound g.url σ
  | .job .round, held => held = none
  | .operation op, held => held = none ∧ P.AdmitsCall op

/-- The work of a task, begun with what it was handed, keeps a regime and ends without a guard. -/
theorem Origin.keeps_program (s : Scheduler) {origin : Origin} {held : Held} (h : origin.Holds P held) :
    (origin.program s).Keeps P held fun _ h => h = none := by
  rcases origin with op | g | _
  · obtain ⟨rfl, ha⟩ := h
    exact op.keeps_program s ha
  · have hqueue : (Program.request .queue).Keeps P held fun _ h => (P.inOrder g).holds h :=
      Program.keeps_request (P.inOrder g) (r := .queue) h fun _ ha _ => ha
    refine hqueue.seq fun ticket h hg => ?_
    have hpermit : (Program.request (.permit ticket)).Keeps P h fun _ h => (P.inOrder g).holds h :=
      Program.keeps_request (P.inOrder g) (r := .permit ticket) hg fun _ ha _ => ha
    refine hpermit.seq ?_
    rintro _ _ ⟨σ, rfl, hσ⟩
    refine (s.synchronizer.keeps_runTick hσ).seq ?_
    rintro r h rfl
    refine (Program.keeps_asking (.leave) fun _ => rfl).seq ?_
    rintro _ h hn
    cases r with
    | error reason => exact hn
    | ok r => exact hn
  · obtain rfl : held = none := h
    exact s.keeps_runOnce.seq fun _ _ hn => hn

/-- Giving back permits, as a task that was cut short does, is not about guards. -/
theorem keeps_surrender (reason : String) (permits : Nat) : (surrender reason permits).Keeps P none fun _ h => h = none := by
  induction permits with
  | zero => exact rfl
  | succ n ih =>
    refine (Program.keeps_asking .leave fun _ => rfl).seq ?_
    rintro _ h rfl
    exact ih

/-- What is left of a task that was cut short with its site in order keeps a regime and ends without a guard. -/
theorem keeps_unwind (reason : String) (permits : Nat) {held : Held} (hs : ∀ g σ, held = some (g, σ) → P.sound g.url σ) :
    (unwind reason permits (Held.guards held)).Keeps P held fun _ h => h = none := by
  rcases held with _ | ⟨g, σ⟩
  · exact keeps_surrender reason permits
  · refine (Synchronizer.keeps_release ⟨σ, rfl, hs g σ rfl⟩).seq ?_
    rintro _ h rfl
    exact keeps_surrender reason permits

end CatalogSync.Engine
