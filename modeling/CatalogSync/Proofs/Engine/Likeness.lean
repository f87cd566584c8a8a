import CatalogSync.Proofs.Engine.Vocabulary
import CatalogSync.Proofs.Secrecy

/-!
# Programs that differ in secrets only

Two programs are alike if they ask for the same but for secret values, and go on alike whatever they are answered, as long as the answers
are the same but for secret values too (`Program.Alike`). This goes through one program after the other, through timed work, and through
the steps of a pipeline; and so every operation is alike itself, whatever secrets it is called with (`Origin.alike`).
-/

namespace CatalogSync.Engine

/-! ## Requests and answers -/

/-- A request without secret values. -/
def Request.blind : Request → Request
  | .register s => .register s.blind
  | .fetch url headers => .fetch url (Headers.blind headers)
  | .advertised registry headers => .advertised registry (Headers.blind headers)
  | r => r

/-- A move without secret values. -/
def Move.blind : Move → Move
  | .answered (.service url) a => .answered (.service url) (a.map Service.blind)
  | .answered .services a => .answered .services (a.map Service.blind)
  | .answered (.register s) a => .answered (.register s.blind) a
  | .answered (.remove url) a => .answered (.remove url) (a.map Service.blind)
  | .answered (.resolve name) a => .answered (.resolve name) (a.map fun _ => "")
  | .answered (.fetch url headers) a => .answered (.fetch url (Headers.blind headers)) a
  | .answered (.advertised registry headers) a => .answered (.advertised registry (Headers.blind headers)) a
  | .expired r => .expired r.blind
  | m => m

/-- Whether there is no secret value in a request, nor in its answer. -/
def Request.clear : Request → Bool
  | .service _ | .services | .register _ | .remove _ | .resolve _ | .fetch _ _ | .advertised _ _ => false
  | _ => true

/-- A request that carries no secret is left as it is. -/
theorem Request.blind_of_clear {r : Request} (h : r.clear = true) : r.blind = r := by
  cases r with
  | register | fetch | advertised => nomatch h
  | _ => rfl

/-- So is what it is answered. -/
theorem Move.blind_of_clear {r : Request} (h : r.clear = true) (a : r.Answer) : (answered r a).blind = .answered r a := by
  cases r with
  | service | services | register | remove | resolve | fetch | advertised => nomatch h
  | _ => rfl

/-- What two requests are answered is the same but for secret values. -/
def Answered (r r' : Request) (a : r.Answer) (a' : r'.Answer) : Prop := (Move.answered r a).blind = (Move.answered r' a').blind

/-- Two answers to a request without secrets that look the same are the same. -/
theorem Answered.eq {r : Request} (hr : r.clear = true) {a a' : r.Answer} (h : Answered r r a a') : a = a' := by
  unfold Answered at h
  rw [Move.blind_of_clear hr, Move.blind_of_clear hr] at h
  exact eq_of_heq (Move.answered.inj h).2

section

variable {url url' : AccessUrl}

/-- Two entries looked up look the same if they are the same service but for the credentials. -/
theorem Answered.service {a a' : Option Service} (h : Answered (.service url) (.service url') a a') :
    a.map Service.blind = a'.map Service.blind := eq_of_heq (Move.answered.inj h).2

/-- So do two listings, entry by entry. -/
theorem Answered.services {a a' : List Service} (h : Answered .services .services a a') :
    a.map Service.blind = a'.map Service.blind := eq_of_heq (Move.answered.inj h).2

/-- The registry's verdict on a new service holds no secret. -/
theorem Answered.register {s s' : Service} {a a' : Bool} (h : Answered (.register s) (.register s') a a') : a = a' :=
  eq_of_heq (Move.answered.inj h).2

/-- Two entries removed look the same if they are the same service but for the credentials. -/
theorem Answered.remove {a a' : Option Service} (h : Answered (.remove url) (.remove url') a a') :
    a.map Service.blind = a'.map Service.blind := eq_of_heq (Move.answered.inj h).2

/-- Two secrets look the same if both are there or both are missing. -/
theorem Answered.resolve {name name' : String} {a a' : Option String} (h : Answered (.resolve name) (.resolve name') a a') :
    a.map (fun _ => "") = a'.map fun _ => "" := eq_of_heq (Move.answered.inj h).2

/-- What a service serves is no secret, whatever headers it was asked with. -/
theorem Answered.fetch {headers headers' : Headers} {a a' : Except String (Except FetchError Graph)}
    (h : Answered (.fetch url headers) (.fetch url' headers') a a') : a = a' := eq_of_heq (Move.answered.inj h).2

/-- Nor is what a discovery endpoint advertises. -/
theorem Answered.advertised {headers headers' : Headers} {a a' : Except FetchError (List AccessUrl)}
    (h : Answered (.advertised url headers) (.advertised url' headers') a a') : a = a' := eq_of_heq (Move.answered.inj h).2

end

/-! ## Programs -/

/-- That two programs differ in secret values only, and end in related values. -/
inductive Program.Alike {α β : Type} (R : α → β → Prop) : Program α → Program β → Prop where
  | done {a : α} {b : β} (h : R a b) : Alike R (.done a) (.done b)
  | ask {r r' : Request} {k : r.Answer → Program α} {k' : r'.Answer → Program β} (hr : r.blind = r'.blind)
    (hk : ∀ a a', Answered r r' a a' → Alike R (k a) (k' a')) : Alike R (.ask r k) (.ask r' k')
  | within {d : Nat} {r r' : Request} {k : Option r.Answer → Program α} {k' : Option r'.Answer → Program β} (hr : r.blind = r'.blind)
    (hk : ∀ a a', Answered r r' a a' → Alike R (k (some a)) (k' (some a'))) (hn : Alike R (k none) (k' none)) :
    Alike R (.within d r k) (.within d r' k')
  | hold {url : AccessUrl} {vigil : Vigil} {k : Guard → Program α} {k' : Guard → Program β} (hk : ∀ g, Alike R (k g) (k' g)) :
    Alike R (.hold url vigil k) (.hold url vigil k')

namespace Program

variable {α β γ δ : Type} {R : α → β → Prop} {S : γ → δ → Prop}

/-- Alike programs continued alike, from whatever related values they end in, are alike. -/
theorem Alike.bind {p : Program α} {p' : Program β} {f : α → Program γ} {f' : β → Program δ} (h : p.Alike R p')
    (hf : ∀ a b, R a b → (f a).Alike S (f' b)) : (p >>= f).Alike S (p' >>= f') := by
  induction h with
  | done h => exact hf _ _ h
  | ask hr _ ih => exact .ask hr ih
  | within hr _ _ ih ihn => exact .within hr ih ihn
  | hold _ ih => exact .hold ih

/-- Requests that look the same are alike, and end in answers that look the same. -/
theorem alike_request {r r' : Request} (h : r.blind = r'.blind) : (request r).Alike (Answered r r') (request r') :=
  .ask h fun _ _ ha => .done ha

/-- A request without secret values is answered the same. -/
theorem alike_clear {r : Request} (h : r.clear = true) : (request r).Alike Eq (request r) := .ask rfl fun _ _ ha => .done (ha.eq h)

/-- A program is alike itself if it asks for nothing that has to do with secrets. -/
theorem Only.alike {R : α → α → Prop} {p : Program α} (h : p.Only fun r => r.clear = true) (hR : ∀ a, R a a) : p.Alike R p := by
  induction p with
  | done a => exact .done (hR a)
  | ask r k ih =>
    refine .ask rfl fun a a' ha => ?_
    obtain rfl := ha.eq h.1
    exact ih a (h.2 a)
  | within d r k ih =>
    refine .within rfl (fun a a' ha => ?_) (ih none (h.2 none))
    obtain rfl := ha.eq h.1
    exact ih (some a) (h.2 (some a))
  | hold url vigil k ih => exact .hold fun g => ih g (h.2 g)

end Program

/-! ## Timed work -/

/-- That timed work ends in related values, or for the same reason. -/
inductive Ends {α β : Type} (R : α → β → Prop) : Except Halt α → Except Halt β → Prop where
  | ok {a : α} {b : β} (h : R a b) : Ends R (.ok a) (.ok b)
  | error (e : Halt) : Ends R (.error e) (.error e)

namespace Timed

variable {α β γ δ : Type} {R : α → β → Prop} {S : γ → δ → Prop}

/-- That timed work differs in secret values only, under any deadline. -/
def Alike (R : α → β → Prop) (t : Timed α) (t' : Timed β) : Prop := ∀ deadline, (t.run deadline).Alike (Ends R) (t'.run deadline)

/-- Related values are alike as timed work that does nothing. -/
theorem alike_pure {a : α} {b : β} (h : R a b) : (pure a : Timed α).Alike R (pure b) := fun _ => .done (.ok h)

/-- Work that ends at once for one reason is alike, whatever values it was to end in. -/
theorem alike_halt (e : Halt) : (halt e : Timed α).Alike R (halt e) := fun _ => .done (.error e)

/-- Alike timed work continued alike is alike, under the same deadline throughout. -/
theorem Alike.bind {t : Timed α} {t' : Timed β} {f : α → Timed γ} {f' : β → Timed δ} (h : t.Alike R t')
    (hf : ∀ a b, R a b → (f a).Alike S (f' b)) : (t >>= f).Alike S (t' >>= f') := by
  intro d
  rw [run_bind, run_bind]
  refine (h d).bind ?_
  rintro _ _ (hr | e)
  · exact hf _ _ hr d
  · exact .done (.error e)

/-- A request under a deadline expires on both sides, or is answered on both alike. -/
theorem alike_request {r r' : Request} (h : r.blind = r'.blind) : (request r).Alike (Answered r r') (request r') := by
  intro d
  cases d with
  | none => exact .ask h fun _ _ ha => .done (.ok ha)
  | some d => exact .within h (fun _ _ ha => .done (.ok ha)) (.done (.error _))

/-- Timed work is alike itself if it asks for nothing that has to do with secrets. -/
theorem Only.alike {R : α → α → Prop} {t : Timed α} (h : t.Only fun r => r.clear = true) (hR : ∀ a, R a a) : t.Alike R t := by
  refine fun d => (h d).alike ?_
  rintro (e | a)
  · exact .error e
  · exact .ok (hR a)

/-! ## The steps of a pipeline -/

/-- That what chains of steps come to looks the same, and the same failures were recorded. -/
def SameEnd (view : α → γ) (x x' : Option α × List Failure) : Prop := x.1.map view = x'.1.map view ∧ x.2 = x'.2

/-- That what steps come to looks the same, failures included. -/
inductive SameOutcome (view : α → γ) : Outcome α → Outcome α → Prop where
  | success {a a' : α} (h : view a = view a') : SameOutcome view (.success a) (.success a')
  | recoverable {a a' : Option α} (h : a.map view = a'.map view) (failures : List Failure) :
    SameOutcome view (.recoverable a failures) (.recoverable a' failures)
  | fatal (failures : List Failure) : SameOutcome view (.fatal failures) (.fatal failures)

/-- An outcome looks like itself in any view of its content. -/
theorem SameOutcome.refl (view : α → γ) (r : Outcome α) : SameOutcome view r r := by
  cases r with
  | success a => exact .success rfl
  | recoverable a failures => exact .recoverable rfl failures
  | fatal failures => exact .fatal failures

/-- Failures that look the same still do once a step has signed them. -/
theorem SameOutcome.attributedTo {view : α → γ} {r r' : Outcome α} (h : SameOutcome view r r') (step : String) :
    SameOutcome view (r.attributedTo step) (r'.attributedTo step) := by
  cases h with
  | success h => exact .success h
  | recoverable h failures => exact .recoverable h _
  | fatal failures => exact .fatal _

/-- Recording failures has nothing to do with secrets. -/
theorem alike_record (pipeline : String) (recorded failures : List Failure) :
    (Chain.record (Tick.sink pipeline) recorded failures).Alike Eq (Chain.record (Tick.sink pipeline) recorded failures) := by
  refine Only.alike (Only.bind ?_ fun _ => only_pure _) fun _ => rfl
  rw [List.forM_eq_forM]
  induction failures with
  | nil => exact only_pure _
  | cons f fs ih =>
    rw [List.forM_cons]
    exact Only.bind (only_lift (Program.only_request rfl)) fun _ => ih

/-- A chain with one more step is alike if the chain is, and the step is on whatever looks the same. -/
theorem alike_run_snoc {head : Chain Timed α β} (step : Step Timed β γ) (fallback : γ) {pipeline : String} {β' γ' : Type}
    {before : β → β'} (after : γ → γ') {a a' : α}
    (hh : (head.run (Tick.sink pipeline) a).Alike (SameEnd before) (head.run (Tick.sink pipeline) a'))
    (hs : ∀ b b', before b = before b' → (step.apply b).Alike (SameOutcome after) (step.apply b')) :
    ((head.snoc step (pure fallback)).run (Tick.sink pipeline) a).Alike (SameEnd after)
      ((head.snoc step (pure fallback)).run (Tick.sink pipeline) a') := by
  refine hh.bind ?_
  rintro ⟨_ | b, recorded⟩ ⟨_ | b', _⟩ ⟨hb, rfl⟩
  · exact alike_pure ⟨rfl, rfl⟩
  · nomatch hb
  · nomatch hb
  refine (hs b b' (Option.some.inj hb)).bind fun r r' hr => ?_
  have hrecord : ∀ failures (c c' : Option γ), c.map after = c'.map after →
      (do return (c, ← Chain.record (Tick.sink pipeline) recorded failures) : Timed (Option γ × List Failure)).Alike (SameEnd after)
        (do return (c', ← Chain.record (Tick.sink pipeline) recorded failures)) := by
    intro failures c c' hc
    refine (alike_record pipeline recorded failures).bind ?_
    rintro _ _ rfl
    exact alike_pure ⟨hc, rfl⟩
  have hr' := hr.attributedTo step.name
  generalize r.attributedTo step.name = r, r'.attributedTo step.name = r' at hr'
  cases hr' with
  | success h => exact alike_pure ⟨congrArg some h, rfl⟩
  | @recoverable c c' h failures =>
    rcases c with _ | c <;> rcases c' with _ | c'
    · exact hrecord failures (some fallback) (some fallback) rfl
    · nomatch h
    · nomatch h
    · exact hrecord failures _ _ h
  | fatal failures => exact hrecord failures none none rfl

end Timed

namespace Tick

open Timed

/-! ## The pipeline of a tick -/

/-- What a tick fetched, without the secret values of the service. -/
def blindly (f : Fetched) : Fetched := { f with service := f.service.blind }

/-- Fetching the shells of one service with two sets of credentials gets shells that look the same. -/
theorem alike_fetching {s s' : Service} (h : s.blind = s'.blind) :
    (fetching.apply s).Alike (SameOutcome (Option.map blindly)) (fetching.apply s') := by
  have hurl : s.url = s'.url := (congrArg Service.url h :)
  have hheaders : (s.auth.headers fun name => Timed.request (.resolve name)).Alike
      (fun x x' => x.map Headers.blind = x'.map Headers.blind) (s'.auth.headers fun name => Timed.request (.resolve name)) := by
    rcases AuthMethod.headers_of_blind_eq (congrArg Service.auth h) with ⟨name, ha⟩ | ⟨headers, headers', hblind, hpure⟩
    · rw [(ha _).1, (ha _).2]
      exact (Timed.alike_request rfl).bind fun _ _ hvalue => alike_pure (AuthMethod.blind_headersOf name hvalue.resolve)
    · rw [(hpure _).1, (hpure _).2]
      exact alike_pure (congrArg Except.ok hblind)
  refine hheaders.bind ?_
  rintro (e | headers) (e' | headers') hr
  · cases hr
    exact alike_pure (.refl _ _)
  · nomatch hr
  · nomatch hr
  · have hfetch : Request.blind (.fetch s.url headers) = Request.blind (.fetch s'.url headers') := by
      show Request.fetch s.url (Headers.blind headers) = Request.fetch s'.url (Headers.blind headers')
      rw [hurl, Except.ok.inj hr]
    refine (Timed.alike_request hfetch).bind ?_
    rintro (reason | e | graph) a' ha
    · rw [← ha.fetch]
      exact alike_halt _
    · rw [← ha.fetch]
      exact alike_pure (.refl _ _)
    · rw [← ha.fetch]
      exact alike_pure (.success (congrArg (fun s => some (Fetched.mk s graph)) h))

/-- Restricting looks at the shells only, and does not see the credentials that came along with them. -/
theorem alike_restricting {x x' : Option Fetched} (h : x.map blindly = x'.map blindly) (kinds : List ResourceKind) :
    ((restricting kinds).apply x).Alike (SameOutcome (Option.map blindly)) ((restricting kinds).apply x') := by
  refine alike_pure (.success ?_)
  rcases x with _ | f <;> rcases x' with _ | f'
  · rfl
  · nomatch h
  · nomatch h
  · have hf : blindly f = blindly f' := Option.some.inj h
    exact congrArg (fun f : Fetched => some { f with graph := f.graph.retainKinds kinds }) hf

/-- What diffing hands on holds no credentials: the outcomes are equal. -/
theorem alike_diffing {x x' : Option Fetched} (h : x.map blindly = x'.map blindly) :
    (diffing.apply x).Alike (SameOutcome id) (diffing.apply x') := by
  rcases x with _ | f <;> rcases x' with _ | f'
  · exact alike_pure (.success rfl)
  · nomatch h
  · nomatch h
  · have hf : blindly f = blindly f' := Option.some.inj h
    have hurl : f.service.url = f'.service.url := (congrArg (fun f => f.service.url) hf :)
    have hgraph : f.graph = f'.graph := (congrArg Fetched.graph hf :)
    have hservice : Request.blind (.service f.service.url) = Request.blind (.service f'.service.url) := by rw [hurl]
    refine (Timed.alike_request hservice).bind ?_
    rintro (_ | current) (_ | current') hcurrent
    · rw [hurl]
      exact alike_pure (.refl _ _)
    · nomatch hcurrent.service
    · nomatch hcurrent.service
    · have hsame : current.blind = current'.blind := Option.some.inj hcurrent.service
      have hsnapshot : current.snapshot = current'.snapshot := (congrArg Service.snapshot hsame :)
      dsimp only
      rw [hurl, hgraph, hsnapshot]
      refine Timed.Only.alike ?_ (SameOutcome.refl id)
      split
      · exact only_pure _
      · have hnew : Timed.Only (fun r => r.clear = true) (Timed.lift (Program.request (.snapshot f'.graph))) :=
          only_lift (Program.only_request rfl)
        exact hnew.bind fun _ => only_pure _

/-- The steps of a tick do the same for services that differ in secret values only, but for the headers that they send. -/
theorem alike_pipeline (onlySubmodels : Bool) {s s' : Service} (h : s.blind = s'.blind) :
    ((pipeline onlySubmodels).execute s).Alike Eq ((pipeline onlySubmodels).execute s') := by
  have hstart : (Chain.nil.run (sink pipelineName) s).Alike (SameEnd Service.blind) (Chain.nil.run (sink pipelineName) s') :=
    alike_pure ⟨congrArg some h, rfl⟩
  have hfetch := alike_run_snoc fetching none (Option.map blindly) hstart fun _ _ hs => alike_fetching hs
  have hpre : ((fetchPipeline onlySubmodels).chain.run (sink pipelineName) s).Alike (SameEnd (Option.map blindly))
      ((fetchPipeline onlySubmodels).chain.run (sink pipelineName) s') := by
    cases onlySubmodels with
    | false => exact hfetch
    | true => exact alike_run_snoc (restricting [.submodel]) none (Option.map blindly) hfetch fun _ _ hx => alike_restricting hx [.submodel]
  have hdiff := alike_run_snoc diffing none id hpre fun _ _ hx => alike_diffing hx
  have hupdate := alike_run_snoc updating none id hdiff (by
    rintro x _ rfl
    exact (only_updating (fun _ _ _ => rfl) x).alike (SameOutcome.refl id))
  have hemit := alike_run_snoc emitting none id hupdate (by
    rintro x _ rfl
    exact (only_emitting (fun _ _ => rfl) x).alike (SameOutcome.refl id))
  have hsink : (pipeline onlySubmodels).sink (pipeline onlySubmodels).name = sink pipelineName := by
    cases onlySubmodels <;> rfl
  unfold Pipeline.execute
  rw [hsink]
  refine Timed.Alike.bind hemit ?_
  rintro x x' ⟨hcontent, hrecorded⟩
  rw [Option.map_id] at hcontent
  obtain rfl : x = x' := Prod.ext hcontent hrecorded
  exact alike_pure rfl

end Tick

open Program (alike_request alike_clear)

/-! ## Ticks and unregistrations -/

/-- Giving a guard back has nothing to do with secrets. -/
theorem alike_release (g : Guard) : (Program.release g).Alike Eq (Program.release g) :=
  (alike_clear (r := .unmark g) rfl).bind fun _ _ _ => alike_clear (r := .wake) rfl

namespace Synchronizer

/-- The pipeline ends in one result for both services, so that nothing secret is in it. -/
theorem alike_runPipeline (y : Synchronizer) {s s' : Service} (h : s.blind = s'.blind) :
    (y.runPipeline s).Alike Eq (y.runPipeline s') := by
  refine (alike_clear (r := .now) rfl).bind ?_
  rintro start _ rfl
  refine (Tick.alike_pipeline y.onlySubmodels h _).bind ?_
  rintro _ _ (@⟨r, _, rfl⟩ | _ | reason)
  · exact .done rfl
  · exact .done rfl
  · exact .done rfl

/-- A tick is alike itself, whatever credentials the entry it looks up turns out to have. -/
theorem alike_runTick (y : Synchronizer) (g : Guard) : (y.runTick g).Alike Eq (y.runTick g) := by
  have hattempt : (y.attempt g).Alike Eq (y.attempt g) := by
    refine (alike_request (r := .service g.url) rfl).bind ?_
    rintro (_ | s) (_ | s') hs
    · exact .done rfl
    · nomatch hs.service
    · nomatch hs.service
    · exact y.alike_runPipeline (Option.some.inj hs.service)
  rw [runTick_eq]
  refine hattempt.bind ?_
  rintro r _ rfl
  exact (alike_release g).bind fun _ _ _ => .done rfl

/-- So is the synchronization of a URL, which tries the mark first. -/
theorem alike_synchronize (y : Synchronizer) (url : AccessUrl) : (y.synchronize url).Alike Eq (y.synchronize url) := by
  refine (alike_clear (r := .tryMark url) rfl).bind ?_
  rintro (_ | g) _ rfl
  · exact .done rfl
  · refine (y.alike_runTick g).bind ?_
    rintro r _ rfl
    exact .done rfl

end Synchronizer

/-- What there is to remove for an entry has nothing to do with its secrets. -/
theorem cleanupOf_blind (s : Service) : cleanupOf s.blind = cleanupOf s := rfl

/-- Cleaning up reads the last snapshot of the removed entry and not its credentials. -/
theorem alike_cleanUp (url : AccessUrl) : (cleanUp url).Alike Eq (cleanUp url) := by
  refine (alike_request (r := .remove url) rfl).bind ?_
  rintro (_ | s) (_ | s') hs
  · exact .done rfl
  · nomatch hs.remove
  · nomatch hs.remove
  · dsimp only
    rw [← cleanupOf_blind s, Option.some.inj hs.remove, cleanupOf_blind]
    split
    · exact .done rfl
    · refine (alike_clear (r := .apply url (cleanupOf s')) rfl).bind ?_
      rintro (e | ⟨⟩) _ rfl <;> exact .done rfl

/-- An unregistration is alike itself, whatever credentials the entry had. -/
theorem alike_unregister (url : AccessUrl) : (unregister url).Alike Eq (unregister url) := by
  refine .hold fun g => (alike_cleanUp url).bind ?_
  rintro r _ rfl
  exact (alike_release g).bind fun _ _ _ => .done rfl

/-- Whether a service is new has nothing to do with its secrets. -/
theorem alike_put {s s' : Service} (h : s.blind = s'.blind) :
    (Program.request (.register s)).Alike Eq (Program.request (.register s')) := by
  have hr : Request.blind (.register s) = Request.blind (.register s') := congrArg Request.register h
  exact .ask hr fun _ _ ha => .done ha.register

/-! ## Discovery -/

namespace Discovery

/-- Which services are stale has nothing to do with their secrets. -/
theorem stale_blind (registry : AccessUrl) (advertised : List AccessUrl) (services : List Service) :
    stale registry advertised (services.map Service.blind) = stale registry advertised services := by
  unfold stale
  rw [List.filter_map (f := Service.blind), List.map_map]
  rfl

variable {auth auth' : AuthMethod} (registry : AccessUrl)

/-- Registering the newly advertised services with two sets of credentials differs in the entries' credentials only. -/
theorem alike_registerNew (h : auth.blind = auth'.blind) (urls : List AccessUrl) :
    (registerNew registry auth urls).Alike Eq (registerNew registry auth' urls) := by
  induction urls with
  | nil => exact .done rfl
  | cons url rest ih =>
    have hservice : (discovered registry auth url).blind = (discovered registry auth' url).blind :=
      congrArg (fun auth => Service.mk url auth none none (some registry)) h
    refine (alike_put hservice).bind ?_
    rintro isNew _ rfl
    refine ih.bind ?_
    rintro added _ rfl
    exact .done rfl

/-- Unregistering one URL after the other is alike itself. -/
theorem alike_unregisterAll (urls : List AccessUrl) : (unregisterAll urls).Alike Eq (unregisterAll urls) := by
  induction urls with
  | nil => exact .done rfl
  | cons url rest ih => exact (alike_unregister url).bind fun _ _ _ => ih

/-- Reconciling with what is advertised differs in the credentials the new entries get. -/
theorem alike_reconcile (h : auth.blind = auth'.blind) (advertised : List AccessUrl) :
    (reconcile registry auth advertised).Alike Eq (reconcile registry auth' advertised) := by
  refine (alike_registerNew registry h advertised.eraseDups).bind ?_
  rintro added _ rfl
  refine (alike_request (r := .services) rfl).bind fun services services' hservices => ?_
  dsimp only
  rw [← stale_blind registry advertised services, hservices.services, stale_blind]
  exact (alike_unregisterAll _).bind fun _ _ _ => .done rfl

end Discovery

/-- A discovery pass with other credentials asks for the same, but for the headers. -/
theorem alike_discover (registry : AccessUrl) {auth auth' : AuthMethod} (h : auth.blind = auth'.blind) :
    (discover registry auth).Alike Eq (discover registry auth') := by
  have hheaders : (auth.headers fun name => Program.request (.resolve name)).Alike
      (fun x x' => x.map Headers.blind = x'.map Headers.blind) (auth'.headers fun name => Program.request (.resolve name)) := by
    rcases AuthMethod.headers_of_blind_eq h with ⟨name, ha⟩ | ⟨headers, headers', hblind, hpure⟩
    · rw [(ha _).1, (ha _).2]
      exact (alike_request rfl).bind fun _ _ hvalue => .done (AuthMethod.blind_headersOf name hvalue.resolve)
    · rw [(hpure _).1, (hpure _).2]
      exact .done (congrArg Except.ok hblind)
  refine hheaders.bind ?_
  rintro (e | headers) (e' | headers') hr
  · cases hr
    exact .done rfl
  · nomatch hr
  · nomatch hr
  have hadvertised : Request.blind (.advertised registry headers) = Request.blind (.advertised registry headers') :=
    congrArg (Request.advertised registry) (Except.ok.inj hr)
  refine (alike_request hadvertised).bind ?_
  rintro (e | urls) a' ha
  · rw [← ha.advertised]
    exact .done rfl
  · rw [← ha.advertised]
    refine (Discovery.alike_reconcile registry h urls).bind ?_
    rintro changes _ rfl
    exact .done rfl

/-! ## The scheduler -/

/-- A watched registry without secret values. -/
def Watched.blind (w : Watched) : Watched := { w with auth := w.auth.blind }

/-- A scheduler without secret values. -/
def Scheduler.blind (s : Scheduler) : Scheduler := { s with watched := s.watched.map Watched.blind }

namespace Scheduler

/-- So do the passes of all watched registries, one after the other. -/
theorem alike_discoverAll {ws ws' : List Watched} (h : ws.map Watched.blind = ws'.map Watched.blind) :
    (discoverAll ws).Alike Eq (discoverAll ws') := by
  induction ws generalizing ws' with
  | nil =>
    obtain rfl := List.map_eq_nil_iff.1 h.symm
    exact .done rfl
  | cons w rest ih =>
    obtain ⟨w', rest', rfl, hw, hrest⟩ := List.map_eq_cons_iff.1 h.symm
    have hurl : w.url = w'.url := (congrArg Watched.url hw.symm :)
    unfold discoverAll
    rw [hurl]
    exact (alike_discover w'.url (congrArg Watched.auth hw.symm)).bind fun _ _ _ => ih hrest.symm

/-- Starting a tick in its own task involves no secret. -/
theorem alike_startTick (url : AccessUrl) : (startTick url).Alike Eq (startTick url) := by
  refine (alike_clear (r := .tryMark url) rfl).bind ?_
  rintro (_ | g) _ rfl
  · exact .done rfl
  · refine (alike_clear (r := .spawn (.tick g)) rfl).bind ?_
    rintro task _ rfl
    exact .done rfl

/-- Nor does waiting for it. -/
theorem alike_finishTick (task : Option Nat) : (finishTick task).Alike Eq (finishTick task) := by
  cases task with
  | none => exact .done rfl
  | some n =>
    refine (alike_clear (r := .join n) rfl).bind ?_
    rintro (reason | r) _ rfl <;> exact .done rfl

/-- Ticks are started for the URLs of services, whatever their secrets. -/
theorem alike_startTicks {services services' : List Service} (h : services.map Service.blind = services'.map Service.blind) :
    (startTicks services).Alike Eq (startTicks services') := by
  induction services generalizing services' with
  | nil =>
    obtain rfl := List.map_eq_nil_iff.1 h.symm
    exact .done rfl
  | cons s rest ih =>
    obtain ⟨s', rest', rfl, hs, hrest⟩ := List.map_eq_cons_iff.1 h.symm
    have hurl : s.url = s'.url := (congrArg Service.url hs.symm :)
    unfold startTicks
    rw [hurl]
    refine (alike_startTick s'.url).bind ?_
    rintro task _ rfl
    refine (ih hrest.symm).bind ?_
    rintro tasks _ rfl
    exact .done rfl

/-- Nor does waiting for all of them. -/
theorem alike_finishTicks (tasks : List (AccessUrl × Option Nat)) : (finishTicks tasks).Alike Eq (finishTicks tasks) := by
  induction tasks with
  | nil => exact .done rfl
  | cons x rest ih =>
    refine (alike_finishTick x.2).bind ?_
    rintro outcome _ rfl
    refine ih.bind ?_
    rintro outcomes _ rfl
    exact .done rfl

/-- A round of two schedulers that differ in their credentials only is alike. -/
theorem alike_runOnce {s s' : Scheduler} (h : s.blind = s'.blind) : s.runOnce.Alike Eq s'.runOnce := by
  have hdiscovery : s.discovery = s'.discovery := (congrArg Scheduler.discovery h :)
  have hticks : (do finishTicks (← startTicks (← Program.request .services)) : Program _).Alike Eq
      (do finishTicks (← startTicks (← Program.request .services))) := by
    refine (alike_request (r := .services) rfl).bind fun services services' hservices => ?_
    refine (alike_startTicks hservices.services).bind ?_
    rintro tasks _ rfl
    exact alike_finishTicks tasks
  unfold runOnce
  rw [hdiscovery]
  split
  · exact (alike_discoverAll (congrArg Scheduler.watched h)).bind fun _ _ _ => hticks
  · exact hticks

/-- Registering one service with two sets of credentials differs in the entry only. -/
theorem alike_register {s s' : Service} (h : s.blind = s'.blind) : (register s).Alike Eq (register s') := by
  have hurl : s.url = s'.url := (congrArg Service.url h :)
  refine (alike_put h).bind ?_
  rintro isNew _ rfl
  rw [hurl]
  split
  · refine (alike_startTick s'.url).bind ?_
    rintro task _ rfl
    refine (alike_finishTick task).bind ?_
    rintro outcome _ rfl
    exact .done rfl
  · exact .done rfl

/-- Every job of the scheduler is alike in two schedulers that differ in their credentials only. -/
theorem alike_work {s s' : Scheduler} (h : s.blind = s'.blind) (job : Job) : (s.work job).Alike Eq (s'.work job) := by
  have hsynchronizer : s.synchronizer = s'.synchronizer := (congrArg Scheduler.synchronizer h :)
  cases job with
  | round =>
    refine (alike_runOnce h).bind ?_
    rintro outcomes _ rfl
    exact .done rfl
  | tick g =>
    refine (alike_clear (r := .queue) rfl).bind ?_
    rintro ticket _ rfl
    refine (alike_clear (r := .permit ticket) rfl).bind fun _ _ _ => ?_
    rw [hsynchronizer]
    refine (s'.synchronizer.alike_runTick g).bind ?_
    rintro r _ rfl
    exact (alike_clear (r := .leave) rfl).bind fun _ _ _ => .done rfl

end Scheduler

/-! ## Operations and tasks -/

/-- An operation without secret values. -/
def Operation.blind : Operation → Operation
  | register s => register s.blind
  | schedule s => schedule s.blind
  | discover registry auth => discover registry auth.blind
  | op => op

/-- What a task is started for, without secret values. -/
def Origin.blind : Origin → Origin
  | operation op => operation op.blind
  | job j => job j

/-- Every operation is alike in two schedulers, and on two services, that differ in credentials only. -/
theorem Operation.alike {s s' : Scheduler} (h : s.blind = s'.blind) {op op' : Operation} (ho : op.blind = op'.blind) :
    (op.program s).Alike Eq (op'.program s') := by
  -- operations that look the same are of one kind, so only the diagonal is left
  have hsynchronizer : s.synchronizer = s'.synchronizer := (congrArg Scheduler.synchronizer h :)
  cases op with
  | register service =>
    cases op' with
    | register service' =>
      refine (alike_put (Operation.register.inj ho)).bind ?_
      rintro isNew _ rfl
      exact .done rfl
    | synchronize | unregister | discover | round | schedule => nomatch ho
  | synchronize url =>
    cases op' with
    | synchronize url' =>
      obtain rfl := Operation.synchronize.inj ho
      unfold program
      rw [hsynchronizer]
      refine (s'.synchronizer.alike_synchronize url).bind ?_
      rintro (reason | outcome) _ rfl <;> exact .done rfl
    | register | unregister | discover | round | schedule => nomatch ho
  | unregister url =>
    cases op' with
    | unregister url' =>
      obtain rfl := Operation.unregister.inj ho
      refine (alike_unregister url).bind ?_
      rintro r _ rfl
      exact .done rfl
    | register | synchronize | discover | round | schedule => nomatch ho
  | discover registry auth =>
    cases op' with
    | discover registry' auth' =>
      obtain ⟨rfl, hauth⟩ := Operation.discover.inj ho
      refine (alike_discover registry hauth).bind ?_
      rintro r _ rfl
      exact .done rfl
    | register | synchronize | unregister | round | schedule => nomatch ho
  | round =>
    cases op' with
    | round =>
      refine (Scheduler.alike_runOnce h).bind ?_
      rintro outcomes _ rfl
      exact .done rfl
    | register | synchronize | unregister | discover | schedule => nomatch ho
  | schedule service =>
    cases op' with
    | schedule service' =>
      refine (Scheduler.alike_register (Operation.schedule.inj ho)).bind ?_
      rintro outcome _ rfl
      exact .done rfl
    | register | synchronize | unregister | discover | round => nomatch ho

/-- Programs of tasks that are started for the same are alike. -/
theorem Origin.alike {s s' : Scheduler} (h : s.blind = s'.blind) {origin origin' : Origin} (ho : origin.blind = origin'.blind) :
    (origin.program s).Alike Eq (origin'.program s') := by
  cases origin with
  | operation op =>
    cases origin' with
    | operation op' => exact Operation.alike h (Origin.operation.inj ho)
    | job => nomatch ho
  | job j =>
    cases origin' with
    | operation => nomatch ho
    | job j' =>
      obtain rfl := Origin.job.inj ho
      exact Scheduler.alike_work h j

/-- What is left of a task that was cut short has nothing to do with secrets. -/
theorem alike_unwind (reason : String) (permits : Nat) (gs : List Guard) :
    (unwind reason permits gs).Alike Eq (unwind reason permits gs) := by
  induction gs with
  | nil =>
    unfold unwind
    induction permits with
    | zero => exact .done rfl
    | succ n ih => exact (alike_clear (r := .leave) rfl).bind fun _ _ _ => ih
  | cons g gs ih => exact (alike_release g).bind fun _ _ _ => ih

end CatalogSync.Engine
