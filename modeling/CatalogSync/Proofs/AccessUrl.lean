import CatalogSync.AccessUrl
import CatalogSync.Proofs.Url.RoundTrip

/-!
# Access URLs

The canonical form of a URL is one for good: reading its text, bringing it to canonical form and decoding its JSON all give the
access URL it is the text of. Two texts are read as one access URL exactly if the URLs they are agree in scheme, user name,
password, host, port and path, where the scheme's own port counts as that port and slashes at the end of a path do not count.
-/

namespace CatalogSync

/-! ## Canonical form -/

namespace Url

variable {p c : Url}

/-- What is accepted is a web URL with a host, and loses the slashes at its end, its query and its fragment. -/
theorem canonical_eq_ok (h : p.canonical = .ok c) :
    IsWeb p.scheme ∧ p.host.isSome ∧ c = { p with path := p.path.trimmed, query := none, fragment := none } := by
  unfold canonical at h
  split at h
  · simp at h
  · next hscheme =>
    split at h
    · simp at h
    · next hhost =>
      refine ⟨?_, ?_, (Except.ok.inj h).symm⟩
      · unfold IsWeb
        tauto
      · simpa [Option.isSome_iff_ne_none] using hhost

/-- The canonical form of a URL in written form is in access form. -/
theorem Written.accessForm (w : p.Written) (h : p.canonical = .ok c) : c.AccessForm := by
  obtain ⟨hweb, hhost, rfl⟩ := canonical_eq_ok h
  exact ⟨⟨w.username, w.password, w.host, w.port, w.path.trimmed⟩, hweb, hhost, rfl, rfl⟩

/-- The canonical form of a URL is its own canonical form. -/
theorem canonical_canonical (h : p.canonical = .ok c) : c.canonical = .ok c := by
  obtain ⟨hweb, hhost, rfl⟩ := canonical_eq_ok h
  have hscheme : ¬ (p.scheme ≠ "http" ∧ p.scheme ≠ "https") := by
    unfold IsWeb at hweb
    tauto
  have hsome : p.host.isNone = false := by simpa [Option.isSome_iff_ne_none] using hhost
  simp [canonical, hscheme, hsome]

/-- What a path writes as it is is no blank. -/
theorem not_isBlank_of_not_inPathSet {c : Char} (h : inPathSet c = false) : Text.isBlank c = false := by
  have hvisible := visible_of_not_inPathSet h
  simp only [inPathSet, inFragmentSet, isControl, Bool.or_eq_false_iff, decide_eq_false_iff_not] at h
  simp [Text.isBlank]
  omega

/-- Nothing is trimmed of a text whose ends are to be kept. -/
theorem trimBy_eq_self {isEnd : Char → Bool} {cs : List Char} (hhead : ∀ c ∈ cs.head?, isEnd c = false)
    (hlast : ∀ c ∈ cs.getLast?, isEnd c = false) : Text.trimBy isEnd cs = cs := by
  rw [Text.trimBy, dropWhile_eq_self hhead, dropWhile_eq_self (by simpa using hlast), List.reverse_reverse]

/-- No blank stands at the ends of a URL's text. -/
theorem AccessForm.trim_render (w : c.AccessForm) : Text.trim c.render = c.render := by
  have hhead : ∀ d ∈ c.render.toList.head?, Text.isBlank d = false := by
    have hletter : Text.isBlank 'h' = false := by decide
    rw [w.toList_render]
    rcases w.web with hs | hs <;> simpa [hs] using hletter
  have hlast : ∀ d ∈ c.render.toList.getLast?, Text.isBlank d = false := by
    intro d hd
    obtain ⟨cs, hcs⟩ := w.path.exists_render
    have htext : c.render.toList = (c.scheme.toList ++ ':' :: '/' :: '/' :: c.frontText) ++ c.path.render.toList := by
      simp [w.toList_render]
    have hpath : d ∈ c.path.render.toList.getLast? := by
      rw [htext, List.getLast?_append, hcs, List.getLast?_cons] at hd
      rwa [hcs, List.getLast?_cons]
    exact not_isBlank_of_not_inPathSet (w.path.mem_render (List.mem_of_getLast? hpath))
  rw [Text.trim, trimBy_eq_self hhead hlast, String.ofList_toList]

/-- The canonical form of a URL with a settled host is read from its text. -/
theorem Written.parseCanonical_render (w : p.Written) (h : p.canonical = .ok c) (hsettled : ∀ host ∈ p.host, host.Settled) :
    parseCanonical c.render = .ok c := by
  have hform := w.accessForm h
  have hhost : c.host = p.host := by
    obtain ⟨-, -, rfl⟩ := canonical_eq_ok h
    rfl
  rw [parseCanonical, hform.trim_render, hform.parse_render (hhost ▸ hsettled)]
  exact canonical_canonical h

end Url

namespace AccessUrl

/-- An access URL made of a URL: of one read from a text, or of one that is given in written form. -/
inductive MadeOf : Url → AccessUrl → Prop where
  | read {s : String} {p : Url} {u : AccessUrl} : Url.parse (Text.trim s) = .ok p → parse s = .ok u → MadeOf p u
  | given {p : Url} {u : AccessUrl} : p.Written → ofUrl p = .ok u → MadeOf p u

/-- The URL an access URL is made of is in written form, and its canonical form has the access URL as its text. -/
theorem MadeOf.canonical {p : Url} {u : AccessUrl} (h : MadeOf p u) : p.Written ∧ ∃ c, p.canonical = .ok c ∧ u = ⟨c.render⟩ := by
  have text : ∀ {x : Except ModelError Url}, (x.map fun c => (⟨c.render⟩ : AccessUrl)) = .ok u → ∃ c, x = .ok c ∧ u = ⟨c.render⟩ := by
    intro x hx
    cases x with
    | error e => simp [Except.map] at hx
    | ok c => exact ⟨c, rfl, (Except.ok.inj hx).symm⟩
  cases h with
  | @read s p u hp hu =>
    obtain ⟨c, hc, rfl⟩ := text hu
    rw [Url.parseCanonical, hp] at hc
    exact ⟨Url.parse_written hp (Url.canonical_eq_ok hc).1, c, hc, rfl⟩
  | given w hu => exact ⟨w, text hu⟩

/-- An access URL is the text of an http or https URL with a host, without query and fragment, whose path is one slash or does
not end in one; and reading that text, taking the canonical form of that URL and decoding the JSON of the access URL all give
the access URL again. A name that is not plain has to be settled: bringing it to ASCII once more may not change it. -/
theorem MadeOf.fixed {p : Url} {u : AccessUrl} (h : MadeOf p u) (hnames : ∀ host ∈ p.host, ¬ host.Plain → host.Settled) :
    ∃ c : Url, p.canonical = .ok c ∧ u.text = c.render ∧
      (c.scheme = "http" ∨ c.scheme = "https") ∧ c.host.isSome ∧ c.query = none ∧ c.fragment = none ∧
      (c.path.render = "/" ∨ c.path.render.toList.getLast? ≠ some '/') ∧
      Url.parse u.text = .ok c ∧ c.canonical = .ok c ∧
      parse u.text = .ok u ∧ ofUrl c = .ok u ∧ decode u.toJson = .ok u := by
  have hsettled : ∀ host ∈ p.host, host.Settled := fun host hh => (Classical.em host.Plain).elim (·.settled) (hnames host hh)
  obtain ⟨w, c, hc, rfl⟩ := h.canonical
  have hform := w.accessForm hc
  have hread := w.parseCanonical_render hc hsettled
  have hsame := Url.canonical_canonical hc
  have hhost : c.host = p.host ∧ c.path = p.path.trimmed := by
    obtain ⟨-, -, rfl⟩ := Url.canonical_eq_ok hc
    exact ⟨rfl, rfl⟩
  have hparse : parse c.render = .ok ⟨c.render⟩ := by
    rw [parse, hread]
    rfl
  refine ⟨c, hc, rfl, hform.web, hform.has_host, hform.no_query, hform.no_fragment, ?_, ?_, hsame, hparse, ?_, ?_⟩
  · exact hhost.2 ▸ w.path.render_trimmed_end
  · exact hform.parse_render (hhost.1 ▸ hsettled)
  · rw [ofUrl, hsame]
    rfl
  · unfold decode toJson
    simp only [Decoder.string, bind, Except.bind, hparse]
    rfl

/-- A result that has a value is that value. -/
theorem ok_of_toOption {ε α : Type} {x : Except ε α} {a : α} (h : x.toOption = some a) : x = .ok a := by
  cases x with
  | error e => simp [Except.toOption] at h
  | ok b => exact congrArg Except.ok (Option.some.inj h)

/-- A text with blanks around it, capitals, a user, a port, dots, empty segments, a query and a fragment. -/
theorem MadeOf.fixed_mixed_text :
    ∃ (p : Url) (u : AccessUrl), MadeOf p u ∧ (∀ host ∈ p.host, ¬ host.Plain → host.Settled) ∧
      u.text = "https://user:pw@svc.example.org:8443//a/%7Eb/c%20%C3%A9" ∧ parse u.text = .ok u ∧ decode u.toJson = .ok u := by
  have hmade : MadeOf ⟨"https", "user", some "pw", some (.domain "svc.example.org"), some 8443,
      .segments ["", "a", "%7Eb", "c%20%C3%A9", "", "", ""], some "x=1", some "top"⟩
      ⟨"https://user:pw@svc.example.org:8443//a/%7Eb/c%20%C3%A9"⟩ :=
    .read (s := "  HTTPS://user:pw@SVC.example.org:8443//a/%7Eb/./c é///?x=1#top\n") (ok_of_toOption (by decide +kernel))
      (ok_of_toOption (by decide +kernel))
  have hsettled : (Url.Host.domain "svc.example.org").Settled := by
    unfold Url.Host.Settled
    decide +kernel
  refine ⟨_, _, hmade, by simpa using fun _ => hsettled, rfl, ?_⟩
  obtain ⟨c, -, -, -, -, -, -, -, -, -, hparse, -, hdecode⟩ := hmade.fixed (by simpa using fun _ => hsettled)
  exact ⟨hparse, hdecode⟩

end AccessUrl

/-! ## Identity -/

namespace Url

/-- The port a URL is reached at: the one it names, or its scheme's own. -/
def effectivePort (u : Url) : Option Nat := u.port.or (defaultPort? u.scheme)

/-- Written URLs of one scheme name the same port exactly if they are reached at the same: none names its scheme's own. -/
theorem Written.port_eq_iff {p q : Url} (w : p.Written) (w' : q.Written) (hscheme : p.scheme = q.scheme) :
    p.port = q.port ↔ p.effectivePort = q.effectivePort := by
  unfold effectivePort
  cases hp : p.port with
  | none =>
    cases hq : q.port with
    | none => simp [hscheme]
    | some m => simpa [hscheme, eq_comm] using (w'.port m hq).2
  | some n =>
    cases hq : q.port with
    | none => simpa [← hscheme] using (w.port n hp).2
    | some m => simp

/-- Canonical forms are the same exactly if the URLs agree in all that is not brought to one form. -/
theorem Written.canonical_eq_iff {p q c d : Url} (w : p.Written) (w' : q.Written) (hp : p.canonical = .ok c)
    (hq : q.canonical = .ok d) :
    c = d ↔ p.scheme = q.scheme ∧ p.username = q.username ∧ p.password = q.password ∧ p.host = q.host ∧
      p.effectivePort = q.effectivePort ∧ p.path.bare = q.path.bare := by
  obtain ⟨-, -, rfl⟩ := canonical_eq_ok hp
  obtain ⟨-, -, rfl⟩ := canonical_eq_ok hq
  rw [Url.ext_iff]
  constructor
  · rintro ⟨hscheme, huser, hpass, hhost, hport, hpath, -, -⟩
    exact ⟨hscheme, huser, hpass, hhost, (w.port_eq_iff w' hscheme).1 hport, (w.path.trimmed_eq_iff w'.path).1 hpath⟩
  · rintro ⟨hscheme, huser, hpass, hhost, hport, hpath⟩
    exact ⟨hscheme, huser, hpass, hhost, (w.port_eq_iff w' hscheme).2 hport, (w.path.trimmed_eq_iff w'.path).2 hpath, rfl, rfl⟩

end Url

namespace AccessUrl

/-- Two texts are read as one access URL exactly if the URLs they are agree in scheme, user name, password, host, the port they
are reached at and the path without the slashes at its end. -/
theorem eq_iff {a b : String} {p q : Url} {u v : AccessUrl} (hp : Url.parse (Text.trim a) = .ok p)
    (hq : Url.parse (Text.trim b) = .ok q) (hu : parse a = .ok u) (hv : parse b = .ok v) :
    u = v ↔ p.scheme = q.scheme ∧ p.username = q.username ∧ p.password = q.password ∧ p.host = q.host ∧
      p.effectivePort = q.effectivePort ∧ p.path.bare = q.path.bare := by
  obtain ⟨w, c, hc, rfl⟩ := (MadeOf.read hp hu).canonical
  obtain ⟨w', d, hd, rfl⟩ := (MadeOf.read hq hv).canonical
  rw [← w.canonical_eq_iff w' hc hd, AccessUrl.mk.injEq]
  exact ⟨(w.accessForm hc).render_injective (w'.accessForm hd), congrArg Url.render⟩

/-- Two spellings of one service: capitals, the scheme's own port, a slash at the end, a query and a fragment do not count. -/
theorem eq_iff_two_spellings :
    ∃ (p q : Url) (u v : AccessUrl), Url.parse (Text.trim "HTTP://SVC.example.org:80/a//?x=1#top") = .ok p ∧
      Url.parse (Text.trim " http://svc.example.org/a") = .ok q ∧
      parse "HTTP://SVC.example.org:80/a//?x=1#top" = .ok u ∧ parse " http://svc.example.org/a" = .ok v ∧ u = v := by
  have hp : Url.parse (Text.trim "HTTP://SVC.example.org:80/a//?x=1#top") = .ok ⟨"http", "", none,
      some (.domain "svc.example.org"), none, .segments ["a", "", ""], some "x=1", some "top"⟩ :=
    ok_of_toOption (by decide +kernel)
  have hq : Url.parse (Text.trim " http://svc.example.org/a") = .ok ⟨"http", "", none,
      some (.domain "svc.example.org"), none, .segments ["a"], none, none⟩ := ok_of_toOption (by decide +kernel)
  have hu : parse "HTTP://SVC.example.org:80/a//?x=1#top" = .ok ⟨"http://svc.example.org/a"⟩ :=
    ok_of_toOption (by decide +kernel)
  have hv : parse " http://svc.example.org/a" = .ok ⟨"http://svc.example.org/a"⟩ := ok_of_toOption (by decide +kernel)
  exact ⟨_, _, _, _, hp, hq, hu, hv, (eq_iff hp hq hu hv).2 ⟨rfl, rfl, rfl, rfl, rfl, by decide +kernel⟩⟩

/-- Scheme, host, port and path do not decide which access URL a text is read as: the user name stays in it. -/
theorem eq_iff_needs_user :
    ¬ ∀ (a b : String) (p q : Url) (u v : AccessUrl), Url.parse (Text.trim a) = .ok p → Url.parse (Text.trim b) = .ok q →
      parse a = .ok u → parse b = .ok v →
      (u = v ↔ p.scheme = q.scheme ∧ p.host = q.host ∧ p.effectivePort = q.effectivePort ∧ p.path.bare = q.path.bare) := by
  intro h
  have hp : Url.parse (Text.trim "https://user@svc/") =
      .ok ⟨"https", "user", none, some (.domain "svc"), none, .segments [""], none, none⟩ :=
    ok_of_toOption (by decide +kernel)
  have hq : Url.parse (Text.trim "https://svc/") =
      .ok ⟨"https", "", none, some (.domain "svc"), none, .segments [""], none, none⟩ :=
    ok_of_toOption (by decide +kernel)
  have hu : parse "https://user@svc/" = .ok ⟨"https://user@svc/"⟩ := ok_of_toOption (by decide +kernel)
  have hv : parse "https://svc/" = .ok ⟨"https://svc/"⟩ := ok_of_toOption (by decide +kernel)
  exact absurd ((h _ _ _ _ _ _ hp hq hu hv).2 ⟨rfl, rfl, rfl, rfl⟩) (by decide)

end AccessUrl

end CatalogSync
