import CatalogSync.Proofs.Url.Host
import CatalogSync.Proofs.Url.Path

/-!
# URLs in written form

Every part of an http or https URL that is read is in the form in which it is written.
-/

namespace CatalogSync.Url

/-- The form the parts of a URL with segments have after it was read. -/
structure Written (u : Url) : Prop where
  username : Safe inUserInfoSet u.username.toList
  password : ∀ p ∈ u.password, p.toList ≠ [] ∧ Safe inUserInfoSet p.toList
  host : ∀ h ∈ u.host, h.Written
  port : ∀ p ∈ u.port, p < 65536 ∧ some p ≠ defaultPort? u.scheme
  path : u.path.Written

/-- The characters before the last `@`, if there is one, and those after it. -/
def splitUser (front : List Char) : Option (List Char) × List Char :=
  match splitLastAt? front with
  | some (user, place) => (some user, place)
  | none => (none, front)

/-- The port of a text with its colon; no text is no port. -/
def readPortText (scheme : String) (text : List Char) : Except ParseError (Option Nat) :=
  if text.isEmpty then pure none else readPort scheme (text.drop 1)

/-- An http or https URL is read after its slashes part by part; there has to be a host. -/
theorem readAuthority_web {scheme : String} {cs front rest place hostText portText : List Char} {user : Option (List Char)}
    (hweb : IsWeb scheme) (hspan : cs.span (fun c => !endsAuthority true c) = (front, rest))
    (huser : splitUser front = (user, place)) (hport : splitPort false place = (hostText, portText)) :
    readAuthority scheme cs =
      if hostText = [] then .error .emptyHost
      else do
        let host ← readHost true hostText
        let port ← readPortText scheme portText
        return finish scheme (readUserInfo (user.getD [])).1 (readUserInfo (user.getD [])).2 (some host) port
          (readPath scheme rest) := by
  have hempty : place = [] → hostText = [] := by
    rintro rfl
    simpa [splitPort] using (congrArg Prod.fst hport).symm
  have hthrow : ∀ {α β : Type} (f : α → Except ParseError β), (throw .emptyHost >>= f) = .error .emptyHost := fun _ => rfl
  unfold splitUser at huser
  unfold readAuthority readPortText
  simp only [hweb.isSpecial, hspan]
  cases hat : splitLastAt? front with
  | none =>
    rw [hat] at huser
    obtain ⟨rfl, rfl⟩ := Prod.mk.inj huser
    simp only [hport]
    by_cases hhost : hostText = []
    · simp [hhost, hthrow]
    · cases portText <;> simp [hhost]
  | some parts =>
    rw [hat] at huser
    obtain ⟨rfl, rfl⟩ := Prod.mk.inj huser
    simp only [hport]
    by_cases hhost : hostText = []
    · simp [hhost, hthrow]
    · have hplace : parts.2 ≠ [] := fun h => hhost (hempty h)
      cases portText <;> simp [hhost, hplace]

/-! ## What is read -/

/-- User name and password come out escaped, and an empty password as none. -/
theorem readUserInfo_written (cs : List Char) :
    Safe inUserInfoSet (readUserInfo cs).1.toList ∧
      ∀ p ∈ (readUserInfo cs).2, p.toList ≠ [] ∧ Safe inUserInfoSet p.toList := by
  have hsafe : ∀ cs, Safe inUserInfoSet (encode inUserInfoSet cs) := safe_encode fun _ h => h
  refine ⟨by simpa [readUserInfo] using hsafe _, fun p hp => ?_⟩
  simp only [readUserInfo, Option.mem_def, Option.ite_none_left_eq_some, Option.some.injEq] at hp
  obtain ⟨hne, rfl⟩ := hp
  rw [String.toList_ofList]
  exact ⟨encode_ne_nil (by simpa using hne), hsafe _⟩

/-- A port that is read has 16 bits and is not the scheme's own. -/
theorem readPort_written {scheme : String} {cs : List Char} {port : Option Nat} (h : readPort scheme cs = .ok port) :
    ∀ p ∈ port, p < 65536 ∧ some p ≠ defaultPort? scheme := by
  have capped : ∀ (cs : List Char) n, n ≤ 65536 →
      cs.foldl (fun n c => min (10 * n + (Text.hexDigit? c).getD 0) 65536) n ≤ 65536 := by
    intro cs
    induction cs with
    | nil => exact fun n hn => hn
    | cons c cs ih => exact fun n _ => ih _ (Nat.min_le_right _ _)
  intro p hp
  have hle := capped (cs.takeWhile Char.isDigit) 0 (by decide)
  simp only [readPort] at h
  split at h
  · simp at h
  · next hport =>
    rw [← Except.ok.inj h, Option.mem_def, Option.ite_none_left_eq_some, Option.some.injEq] at hp
    obtain ⟨hdefault, rfl⟩ := hp
    rw [not_or] at hport hdefault
    exact ⟨Nat.lt_of_le_of_ne hle hport.1, hdefault.2⟩

/-- What is read after the slashes of a web URL comes out in written form. -/
theorem readAuthority_written {scheme : String} {cs : List Char} {u : Url} (hweb : IsWeb scheme)
    (h : readAuthority scheme cs = .ok u) : u.Written := by
  rcases hspan : cs.span fun c => !endsAuthority true c with ⟨front, rest⟩
  rcases huser : splitUser front with ⟨user, place⟩
  rcases hport : splitPort false place with ⟨hostText, portText⟩
  rw [readAuthority_web hweb hspan huser hport] at h
  split at h
  · simp at h
  · cases hhost : readHost true hostText with
    | error e => simp [hhost, bind, Except.bind] at h
    | ok host =>
      cases hread : readPortText scheme portText with
      | error e => simp [hhost, hread, bind, Except.bind] at h
      | ok port =>
        simp only [hhost, hread, bind, Except.bind, pure, Except.pure, Except.ok.injEq, finish] at h
        subst h
        obtain ⟨hname, hpass⟩ := readUserInfo_written (user.getD [])
        refine ⟨hname, hpass, ?_, ?_, readPath_written hweb rest⟩
        · intro host' h'
          exact Option.some.inj h' ▸ readHost_written hhost
        · unfold readPortText at hread
          split at hread
          · obtain rfl := Except.ok.inj hread
            nofun
          · exact readPort_written hread

/-- A computation in turn succeeds only if both parts do. -/
theorem of_bind_ok {ε α β : Type} {x : Except ε α} {f : α → Except ε β} {b : β} (h : (x >>= f) = .ok b) :
    ∃ a, x = .ok a ∧ f a = .ok b := by
  cases x with
  | error e => simp [bind, Except.bind] at h
  | ok a => exact ⟨a, rfl, h⟩

/-- Reading what follows the slashes does not change the scheme. -/
theorem readAuthority_scheme {scheme : String} {cs : List Char} {u : Url} (h : readAuthority scheme cs = .ok u) :
    u.scheme = scheme := by
  unfold readAuthority at h
  dsimp only at h
  -- Whichever way the steps go, the last is `finish`, which takes the scheme over.
  repeat' first
    | exact Except.ok.inj h ▸ rfl
    | obtain ⟨_, -, h⟩ := of_bind_ok h
    | split at h

/-- A file URL is read as one. -/
theorem readFileHost_scheme {cs : List Char} {u : Url} (h : readFileHost cs = .ok u) : u.scheme = "file" := by
  unfold readFileHost at h
  dsimp only at h
  repeat' first
    | exact Except.ok.inj h ▸ rfl
    | obtain ⟨_, -, h⟩ := of_bind_ok h
    | split at h

/-- Whatever follows it, the scheme is kept. -/
theorem readAfterScheme_scheme {scheme : String} {cs : List Char} {u : Url} (h : readAfterScheme scheme cs = .ok u) :
    u.scheme = scheme := by
  unfold readAfterScheme at h
  split at h
  · next hfile =>
    split at h
    · split at h
      · rw [readFileHost_scheme h, beq_iff_eq.1 hfile]
      · exact Except.ok.inj h ▸ rfl
    · exact Except.ok.inj h ▸ rfl
  · split at h
    · exact readAuthority_scheme h
    · split at h
      · exact readAuthority_scheme h
      · exact Except.ok.inj h ▸ rfl
      · exact Except.ok.inj h ▸ rfl

/-- Any number of slashes may follow a web scheme. -/
theorem readAfterScheme_web {scheme : String} (hweb : IsWeb scheme) (cs : List Char) :
    readAfterScheme scheme cs = readAuthority scheme (cs.dropWhile (isSlash true)) := by
  simp [readAfterScheme, hweb.isSpecial, hweb.not_file]

/-- An http or https URL that is read is in written form. -/
theorem parse_written {s : String} {u : Url} (h : parse s = .ok u) (hweb : IsWeb u.scheme) : u.Written := by
  unfold parse at h
  split at h
  · next scheme rest _ =>
    have hs : IsWeb scheme := readAfterScheme_scheme h ▸ hweb
    rw [readAfterScheme_web hs] at h
    exact readAuthority_written hs h
  · simp at h

end CatalogSync.Url
