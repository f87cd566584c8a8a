import CatalogSync.Proofs.Registry

/-!
# Services without their secrets

To blind a method of authentication, or what it is part of, is to leave out its secret values. Descriptions are the same after that, and
the registry does the same with blinded services as with services: each operation goes through `Registry.blind`.
-/

namespace CatalogSync

/-- A secret that says nothing. -/
def Secret.hidden : Secret := ⟨""⟩

namespace SecretStore

/-- A store without its values. -/
def blind (s : SecretStore) : SecretStore := ⟨s.entries.map fun e => (e.1, .hidden)⟩

/-- A store without its values still has its names. -/
theorem resolve_blind (s : SecretStore) (name : String) : s.blind.resolve name = (s.resolve name).map fun _ => "" := by
  unfold resolve blind
  induction s.entries with
  | nil => rfl
  | cons e rest ih =>
    rw [List.map_cons, List.lookup_cons, List.lookup_cons]
    cases name == e.1
    · exact ih
    · rfl

end SecretStore

/-- Headers without their values. -/
def Headers.blind (headers : Headers) : Headers := headers.map fun x => (x.1, "")

namespace AuthMethod

/-- A method without its secret values. -/
def blind : AuthMethod → AuthMethod
  | .basic username _ => .basic username .hidden
  | .apiKey name _ => .apiKey name .hidden
  | a => a

/-- A description leaves out the secret values. -/
theorem describe_blind (a : AuthMethod) : a.blind.describe = a.describe := by cases a <;> rfl

/-- The headers with what is looked up for an alias. -/
def headersOf (name : String) : Option String → Except SyncError Headers
  | some value => .ok [(vaultHeader, value)]
  | Option.none => .error (.secretNotFound name)

/-- Headers with one secret or another look the same. -/
theorem blind_headersOf (name : String) {value value' : Option String} (h : value.map (fun _ => "") = value'.map fun _ => "") :
    (headersOf name value).map Headers.blind = (headersOf name value').map Headers.blind := by
  rcases value with _ | value <;> rcases value' with _ | value'
  · rfl
  · nomatch h
  · nomatch h
  · rfl

/-- Methods that differ in secret values only either both look up one alias, or both send headers of the same names. -/
theorem headers_of_blind_eq {a a' : AuthMethod} (h : a.blind = a'.blind) :
    (∃ name, ∀ {m : Type → Type} [Monad m] [LawfulMonad m] (resolve : String → m (Option String)),
      a.headers resolve = (do return headersOf name (← resolve name)) ∧
        a'.headers resolve = (do return headersOf name (← resolve name))) ∨
    ∃ headers headers', Headers.blind headers = Headers.blind headers' ∧
      ∀ {m : Type → Type} [Monad m] [LawfulMonad m] (resolve : String → m (Option String)),
        a.headers resolve = pure (.ok headers) ∧ a'.headers resolve = pure (.ok headers') := by
  cases a with
  | none =>
    cases a' with
    | none => exact Or.inr ⟨[], [], rfl, fun _ => ⟨pure_bind _ _, pure_bind _ _⟩⟩
    | basic | apiKey | vault => nomatch h
  | basic username password =>
    cases a' with
    | basic username' password' =>
      cases h
      let sent (password : Secret) : Headers := [("Authorization", "Basic " ++ basicToken username password.reveal)]
      exact Or.inr ⟨sent password, sent password', rfl, fun _ => ⟨pure_bind _ _, pure_bind _ _⟩⟩
    | none | apiKey | vault => nomatch h
  | apiKey name value =>
    cases a' with
    | apiKey name' value' =>
      cases h
      exact Or.inr ⟨[(name, value.reveal)], [(name, value'.reveal)], rfl, fun _ => ⟨pure_bind _ _, pure_bind _ _⟩⟩
    | none | basic | vault => nomatch h
  | vault name =>
    cases a' with
    | vault name' =>
      cases h
      have hheaders : ∀ {m : Type → Type} [Monad m] [LawfulMonad m] (resolve : String → m (Option String)),
          (AuthMethod.vault name).headers resolve = (do return headersOf name (← resolve name)) := by
        intro m _ _ resolve
        unfold headers header
        rw [bind_assoc]
        refine bind_congr fun value => ?_
        cases value <;> exact pure_bind _ _
      exact Or.inl ⟨name, fun resolve => ⟨hheaders resolve, hheaders resolve⟩⟩
    | none | basic | apiKey => nomatch h

end AuthMethod

/-- A service without its secret values. -/
def Service.blind (s : Service) : Service := { s with auth := s.auth.blind }

/-- A description of a service leaves out its secret values. -/
theorem Service.describe_blind (url : AccessUrl → String) (graph : Graph → String) (time : Nat → String) (s : Service) :
    s.blind.describe url graph time = s.describe url graph time := by
  have hauth : s.blind.auth.describe = s.auth.describe := s.auth.describe_blind
  unfold describe
  rw [hauth]
  rfl

namespace Registry

/-- A registry without the secret values of its services. -/
def blind (r : Registry) : Registry := ⟨r.entries.map fun e => (e.1, e.2.blind)⟩

/-- Looking an entry up in a registry without secrets gets it without secrets. -/
theorem get?_blind (r : Registry) (url : AccessUrl) : r.blind.get? url = (r.get? url).map Service.blind := by
  unfold blind get?
  induction r.entries with
  | nil => rfl
  | cons e rest ih =>
    rw [List.map_cons, List.lookup_cons, List.lookup_cons, ih]
    cases url == e.1 <;> rfl

/-- What is registered is no secret. -/
theorem contains_blind (r : Registry) (url : AccessUrl) : r.blind.contains url = r.contains url := by
  rw [contains, contains, get?_blind, Option.isSome_map]

/-- The listing without secrets has the same order. -/
theorem getAll_blind (r : Registry) : r.blind.getAll = r.getAll.map Service.blind := by
  unfold getAll
  have hsort := List.map_mergeSort (f := Service.blind) (l := r.entries.map Prod.snd) (r := fun a b => (compare a.url b.url).isLE)
    (s := fun a b => (compare a.url b.url).isLE) fun _ _ _ _ => rfl
  rw [hsort, List.map_map]
  simp only [blind, List.map_map]
  rfl

/-- Putting a service does not depend on secrets. -/
theorem put_blind (r : Registry) (s : Service) : r.blind.put s.blind = ((r.put s).1, (r.put s).2.blind) := by
  unfold put
  rw [show s.blind.url = s.url from rfl, contains_blind]
  split
  · rfl
  · simp [blind]

/-- Nor does removing one. -/
theorem remove_blind (r : Registry) (url : AccessUrl) :
    r.blind.remove url = ((r.remove url).1.map Service.blind, (r.remove url).2.blind) := by
  unfold remove
  rw [get?_blind]
  simp only [blind, List.filter_map]
  rfl

/-- Nor does replacing one. -/
theorem replace_blind (r : Registry) (s : Service) : r.blind.replace s.blind = (r.replace s).blind := by
  simp only [replace, blind, List.map_map]
  refine congrArg _ (List.map_congr_left fun e _ => ?_)
  show (if e.1 == s.url then _ else _) = _
  simp only [Function.comp]
  split <;> rfl

/-- Nor does the swap of its snapshot. -/
theorem swap_blind (r : Registry) (now : Nat) (url : AccessUrl) (expected : Option Snapshot) (new : Snapshot) :
    r.blind.swap now url expected new = (r.swap now url expected new).map fun x => (x.1, x.2.blind) := by
  unfold swap
  rw [get?_blind]
  cases r.get? url with
  | none => rfl
  | some s =>
    show (if s.snapshot.map Snapshot.id = expected.map Snapshot.id then
      Except.ok (s.snapshot, r.blind.replace (Service.blind { s with snapshot := some new, lastSynced := some now })) else _) = _
    rw [replace_blind]
    dsimp only
    split <;> rfl

end Registry

end CatalogSync
