import CatalogSync.Proofs.Url.Written
import Mathlib.Data.List.TakeDrop

/-!
# Reading a URL from its text

The text of an http or https URL in written form, without query and fragment, splits where it was put together: scheme, user,
password, host, port and path are read from it again. It follows that different such URLs have different texts, and that a URL
whose host is settled is what its text is read as.
-/

namespace CatalogSync.Url

variable {u : Url}

/-- An http or https URL in written form with a host, and without query and fragment. -/
structure AccessForm (u : Url) : Prop extends Written u where
  web : IsWeb u.scheme
  has_host : u.host.isSome
  no_query : u.query = none
  no_fragment : u.fragment = none

/-! ## The parts of the text -/

/-- The user name and the password, with a colon between them. -/
def userText (u : Url) : List Char := u.username.toList ++ u.password.elim [] fun p => ':' :: p.toList

/-- The host as it is written, addresses of version 6 in brackets. -/
def hostText (u : Url) : List Char := u.host.elim [] fun h => h.render.toList

/-- The port after its colon. -/
def portText (u : Url) : List Char := u.port.elim [] fun p => ':' :: Nat.toDigits 10 p

/-- What stands between the two slashes and the path. -/
def frontText (u : Url) : List Char := u.userInfo.toList ++ (u.hostText ++ u.portText)

/-- The user information is followed by its sign, or is not there at all. -/
theorem toList_userInfo (u : Url) : u.userInfo.toList = if u.userText = [] then [] else u.userText ++ ['@'] := by
  unfold userInfo userText
  cases hp : u.password <;> by_cases hu : u.username = "" <;> simp [hu]

/-- The text of a URL with a host and without query and fragment. -/
theorem AccessForm.toList_render (w : u.AccessForm) :
    u.render.toList = u.scheme.toList ++ ':' :: '/' :: '/' :: (u.frontText ++ u.path.render.toList) := by
  obtain ⟨host, hh⟩ := Option.isSome_iff_exists.1 w.has_host
  cases hport : u.port <;> simp [render, authority, frontText, hostText, portText, hh, w.no_query, w.no_fragment, hport]

/-! ## Characters -/

/-- A character that may stand before the path and is not lost there. -/
def standsInFront (c : Char) : Bool := !endsAuthority true c && 0x20 < c.toNat

/-- A character that is neither a control nor the blank is not lost at the ends of a text. -/
theorem visible_of_not_isControl {c : Char} (hcontrol : isControl c = false) (hblank : c ≠ ' ') : 0x20 < c.toNat := by
  have hne : c.toNat ≠ ' '.toNat := fun h => hblank (Char.toNat_inj.1 h)
  simp only [isControl, Bool.or_eq_false_iff, decide_eq_false_iff_not] at hcontrol
  have h20 : ' '.toNat = 0x20 := rfl
  omega

/-- What a path writes as it is is visible. -/
theorem visible_of_not_inPathSet {c : Char} (h : inPathSet c = false) : 0x20 < c.toNat := by
  simp only [inPathSet, inFragmentSet, Bool.or_eq_false_iff] at h
  exact visible_of_not_isControl h.1.1 (by rintro rfl; simp at h)

/-- What is encoded or forbidden together with the characters that end the part before the path does not end it. -/
theorem not_endsAuthority {isUnsafe : Char → Bool} (hmarks : ['/', '\\', '?', '#'].all isUnsafe = true) {c : Char}
    (h : isUnsafe c = false) : endsAuthority true c = false := by
  by_contra hends
  have hc : c ∈ ['/', '\\', '?', '#'] := by
    simp only [endsAuthority, isSlash, Bool.true_and, Bool.not_eq_false, Bool.or_eq_true, beq_iff_eq] at hends
    simp only [List.mem_cons]
    tauto
  simp [List.all_eq_true.1 hmarks c hc] at h

/-- What user information writes as it is may stand before the path. -/
theorem standsInFront_of_not_inUserInfoSet {c : Char} (h : inUserInfoSet c = false) : standsInFront c = true := by
  have hvisible : 0x20 < c.toNat := by
    simp only [inUserInfoSet, Bool.or_eq_false_iff] at h
    exact visible_of_not_inPathSet h.1
  simp [standsInFront, not_endsAuthority (by decide) h, hvisible]

/-- What a domain may hold may stand before the path. -/
theorem standsInFront_of_not_isForbidden {c : Char} (h : isForbiddenInDomain c = false) : standsInFront c = true := by
  have hvisible : 0x20 < c.toNat := by
    simp only [isForbiddenInDomain, Bool.or_eq_false_iff, decide_eq_false_iff_not] at h
    omega
  simp [standsInFront, not_endsAuthority (by decide) h, hvisible]

/-- A port is written with a colon and decimal digits. -/
theorem mem_portText {c : Char} (h : c ∈ u.portText) : c = ':' ∨ ∃ d < 10, c = Nat.digitChar d := by
  unfold portText at h
  cases hp : u.port with
  | none => simp [hp] at h
  | some p =>
    simp only [hp, Option.elim_some, List.mem_cons] at h
    exact h.imp_right (Text.exists_digit_of_mem_toDigits (by decide))

/-- User information is written with colons and characters that need no escape there. -/
theorem Written.mem_userText (w : u.Written) {c : Char} (h : c ∈ u.userText) : c = ':' ∨ inUserInfoSet c = false := by
  rcases List.mem_append.1 h with h | h
  · exact .inr (w.username c h)
  · cases hp : u.password with
    | none => simp [hp] at h
    | some p =>
      simp only [hp, Option.elim_some, List.mem_cons] at h
      exact h.imp_right ((w.password p hp).2 c)

/-- A host is written with characters that a domain may hold, but for the signs of an address of sixteen bytes. -/
theorem Written.mem_hostText (w : u.Written) {c : Char} (h : c ∈ u.hostText) :
    isForbiddenInDomain c = false ∨ c ∈ [':', '[', ']'] := by
  unfold hostText at h
  cases hh : u.host with
  | none => simp [hh] at h
  | some host =>
    rw [hh] at h
    exact (w.host host hh).mem_render h

/-- Nothing written before the path ends it, nor is lost. -/
theorem Written.standsInFront (w : u.Written) {c : Char} (h : c ∈ u.frontText) : standsInFront c = true := by
  have digit : ∀ d < 10, Url.standsInFront (Nat.digitChar d) = true := by decide
  have marks : ∀ c ∈ [':', '[', ']', '@'], Url.standsInFront c = true := List.all_eq_true.1 (by decide)
  rw [frontText, toList_userInfo] at h
  rcases List.mem_append.1 h with h | h
  · split at h
    · simp at h
    · rcases List.mem_append.1 h with h | h
      · rcases w.mem_userText h with rfl | h
        · exact marks _ (by simp)
        · exact standsInFront_of_not_inUserInfoSet h
      · exact marks c (by simp_all)
  · rcases List.mem_append.1 h with h | h
    · rcases w.mem_hostText h with h | h
      · exact standsInFront_of_not_isForbidden h
      · exact marks c (by simp_all; tauto)
    · rcases mem_portText h with rfl | ⟨d, hd, rfl⟩
      · exact marks _ (by simp)
      · exact digit d hd

/-! ## Splitting -/

/-- Nothing is dropped if the first item is to be kept. -/
theorem dropWhile_eq_self {α : Type} {p : α → Bool} {l : List α} (h : ∀ a ∈ l.head?, p a = false) : l.dropWhile p = l := by
  cases l with
  | nil => rfl
  | cons a l => simp [h a rfl]

/-- Nothing is lost of a text of visible characters. -/
theorem significant_of_visible {cs : List Char} (h : ∀ c ∈ cs, 0x20 < c.toNat) : significant cs = cs := by
  have hdrop : ∀ l : List Char, (∀ c ∈ l, 0x20 < c.toNat) → l.dropWhile (fun c => c.toNat ≤ 0x20) = l := by
    intro l hl
    refine dropWhile_eq_self fun c hc => ?_
    simpa using hl c (List.mem_of_mem_head? hc)
  have hfilter : cs.filter (fun c => c != '\t' && c != '\n' && c != '\x0d') = cs := by
    refine List.filter_eq_self.2 fun c hc => ?_
    have hvisible := h c hc
    simp only [Bool.and_eq_true, bne_iff_ne, ne_eq]
    refine ⟨⟨?_, ?_⟩, ?_⟩ <;> rintro rfl <;> exact absurd hvisible (by decide)
  unfold significant
  simp only [hdrop cs h]
  rw [hdrop cs.reverse (by simpa using h), List.reverse_reverse, hfilter]

/-- A web scheme is read back from the front of a text. -/
theorem splitScheme?_web {scheme : String} (hweb : IsWeb scheme) (rest : List Char) :
    splitScheme? (scheme.toList ++ ':' :: rest) = some (scheme, rest) := by
  rcases hweb with rfl | rfl <;> rfl

/-- A text splits where its front ends. -/
theorem span_append {α : Type} {p : α → Bool} {front rest : List α} (hfront : ∀ a ∈ front, p a = true)
    (hrest : ∀ a ∈ rest.head?, p a = false) : (front ++ rest).span p = (front, rest) := by
  rw [List.span_eq_takeWhile_dropWhile, List.takeWhile_append_of_pos hfront, List.dropWhile_append_of_pos hfront,
    dropWhile_eq_self hrest]
  cases rest with
  | nil => simp
  | cons a rest => simp [hrest a rfl]

/-- What stands before the last sign of user information is read as such, whatever it holds. -/
theorem splitLastAt?_append {user place : List Char} (h : '@' ∉ place) :
    splitLastAt? (user ++ '@' :: place) = some (user, place) := by
  have hplace : ∀ c ∈ place.reverse, (c != '@') = true := by
    intro c hc
    rw [bne_iff_ne]
    rintro rfl
    exact h (List.mem_reverse.1 hc)
  have htake : (place.reverse ++ '@' :: user.reverse).takeWhile (· != '@') = place.reverse := by
    rw [List.takeWhile_append_of_pos hplace]
    simp
  have hlen : user.length + (place.length + 1) - place.length - 1 = user.length := by omega
  simp [splitLastAt?, htake, hlen]

/-- Without that sign there is no user information. -/
theorem splitLastAt?_of_not_mem {cs : List Char} (h : '@' ∉ cs) : splitLastAt? cs = none := by
  simp [splitLastAt?, h]

/-- User name and password are read back. -/
theorem readUserInfo_userText (w : u.Written) : readUserInfo u.userText = (u.username, u.password) := by
  have hcolon : ∀ c ∈ u.username.toList, (c != ':') = true := by
    intro c hc
    rw [bne_iff_ne]
    rintro rfl
    exact absurd (w.username _ hc) (by decide)
  have hrest : ∀ c ∈ (u.password.elim [] fun p => ':' :: p.toList).head?, (c != ':') = false := by
    cases u.password <;> simp
  have hspan := span_append hcolon hrest
  rw [List.span_eq_takeWhile_dropWhile] at hspan
  obtain ⟨htake, hdrop⟩ := Prod.mk.inj hspan
  simp only [readUserInfo, userText, htake, hdrop, encode_of_safe w.username, String.ofList_toList]
  cases hp : u.password with
  | none => rfl
  | some p =>
    obtain ⟨hne, hsafe⟩ := w.password p hp
    simp [encode_of_safe hsafe, String.toList_eq_nil_iff.not.1 hne]

/-- Characters that are no brackets stay in front of the port, and so do colons inside brackets. -/
theorem splitPort_append {inside : Bool} {cs rest : List Char} (hcs : ∀ c ∈ cs, c ∉ ['[', ']'] ∧ (c = ':' → inside = true)) :
    splitPort inside (cs ++ rest) = (cs ++ (splitPort inside rest).1, (splitPort inside rest).2) := by
  induction cs with
  | nil => rfl
  | cons c cs ih =>
    obtain ⟨hc, hcolon⟩ := hcs c List.mem_cons_self
    simp only [List.mem_cons, List.not_mem_nil, or_false, not_or] at hc
    rw [List.cons_append, splitPort]
    simpa [hc, ih fun d hd => hcs d (List.mem_cons_of_mem _ hd)] using hcolon

/-- The host ends where the port begins. -/
theorem splitPort_portText (u : Url) : splitPort false u.portText = ([], u.portText) := by
  unfold portText
  cases u.port <;> simp [splitPort]

/-- Outside brackets the text of a host has no colon. -/
theorem splitPort_render {host : Host} (h : host.Written) (rest : List Char) :
    splitPort false (host.render.toList ++ rest) =
      (host.render.toList ++ (splitPort false rest).1, (splitPort false rest).2) := by
  have hfree : ∀ cs : List Char, (∀ c ∈ cs, isForbiddenInDomain c = false) → ∀ c ∈ cs, c ∉ ['[', ']'] ∧ (c = ':' → false = true) := by
    intro cs hcs c hc
    have hmarks : ∀ c ∈ [':', '[', ']'], isForbiddenInDomain c = true := List.all_eq_true.1 (by decide)
    have hmark : c ∉ [':', '[', ']'] := fun hmark => absurd (hmarks c hmark) (by simp [hcs c hc])
    simp only [List.mem_cons, not_or] at hmark ⊢
    exact ⟨hmark.2, fun he => absurd he hmark.1⟩
  cases host with
  | domain name => exact splitPort_append (hfree _ h.2.2)
  | ipv4 address =>
    refine splitPort_append (hfree _ fun c hc => ?_)
    have hplain := isPlain_of_mem_renderIpv4 hc
    simp only [isPlain, Bool.and_eq_true, Bool.not_eq_true'] at hplain
    exact hplain.2
  | ipv6 pieces =>
    have hinner : ∀ c ∈ (renderIpv6 pieces).toList, c ∉ ['[', ']'] := by
      have digit : ∀ d < 16, Nat.digitChar d ∉ ['[', ']'] := by decide
      intro c hc
      rcases mem_renderIpv6 hc with ⟨d, hd, rfl⟩ | rfl
      · exact digit d hd
      · decide
    have htext : (Host.ipv6 pieces).render.toList ++ rest = '[' :: ((renderIpv6 pieces).toList ++ ']' :: rest) := by
      simp [Host.render]
    rw [htext, splitPort, if_neg (by decide), if_pos (by decide), splitPort_append fun c hc => ⟨hinner c hc, fun _ => rfl⟩]
    simp [splitPort, Host.render]

/-- The place splits into host and port. -/
theorem splitPort_place (w : u.Written) : splitPort false (u.hostText ++ u.portText) = (u.hostText, u.portText) := by
  unfold hostText
  cases hh : u.host with
  | none => exact splitPort_portText u
  | some host =>
    rw [Option.elim_some, splitPort_render (w.host host hh), splitPort_portText, List.append_nil]

/-- The port is read back, the scheme's own being none. -/
theorem readPortText_portText (w : u.Written) : readPortText u.scheme u.portText = .ok u.port := by
  unfold portText
  cases hp : u.port with
  | none => rfl
  | some p =>
    obtain ⟨hlt, hdefault⟩ := w.port p hp
    have hdigits : ∀ c ∈ Nat.toDigits 10 p, c.isDigit = true := fun c hc =>
      Nat.isDigit_of_mem_toDigits (by decide) (by decide) hc
    have htake : (Nat.toDigits 10 p).takeWhile Char.isDigit = Nat.toDigits 10 p := by
      have h := span_append hdigits (show ∀ c ∈ ([] : List Char).head?, c.isDigit = false by simp)
      rw [List.append_nil, List.span_eq_takeWhile_dropWhile] at h
      exact congrArg Prod.fst h
    have hvalue : (Nat.toDigits 10 p).foldl (fun n c => min (10 * n + (Text.hexDigit? c).getD 0) 65536) 0 = p := by
      refine Text.foldl_toDigits (by decide) (fun m d hd (hm : 10 * m + d < 65536) => ?_) hlt
      rw [Text.hexDigit?_digitChar (by omega), Option.getD_some]
      omega
    simp [readPortText, readPort, htake, hvalue, hdefault]
    omega

/-- User information and place are read apart. -/
theorem splitUser_frontText (w : u.Written) :
    ∃ user, splitUser u.frontText = (user, u.hostText ++ u.portText) ∧
      readUserInfo (user.getD []) = (u.username, u.password) := by
  have hplace : '@' ∉ u.hostText ++ u.portText := by
    intro h
    rcases List.mem_append.1 h with h | h
    · rcases w.mem_hostText h with h | h <;> exact absurd h (by decide)
    · rcases mem_portText h with h | ⟨d, hd, h⟩
      · exact absurd h (by decide)
      · exact absurd h ((by decide : ∀ d < 10, '@' ≠ Nat.digitChar d) d hd)
  have hread := readUserInfo_userText w
  rw [frontText, toList_userInfo]
  split
  · next hnone =>
    rw [hnone] at hread
    exact ⟨none, by rw [List.nil_append, splitUser, splitLastAt?_of_not_mem hplace], hread⟩
  · refine ⟨some u.userText, ?_, hread⟩
    rw [List.append_assoc, List.singleton_append, splitUser, splitLastAt?_append hplace]

/-! ## The whole text -/

/-- The path begins at its first slash. -/
theorem Written.span_frontText (w : u.Written) :
    (u.frontText ++ u.path.render.toList).span (fun c => !endsAuthority true c) = (u.frontText, u.path.render.toList) := by
  refine span_append (fun c hc => ?_) ?_
  · have h := w.standsInFront hc
    simp only [Url.standsInFront, Bool.and_eq_true] at h
    exact h.1
  · obtain ⟨cs, hcs⟩ := w.path.exists_render
    simp [hcs, endsAuthority, isSlash]

/-- A URL in access form is written with visible characters only. -/
theorem AccessForm.visible (w : u.AccessForm) {c : Char} (h : c ∈ u.render.toList) : 0x20 < c.toNat := by
  have hscheme : u.scheme.toList.all (fun c => 0x20 < c.toNat) = true := by
    rcases w.web with hs | hs <;> rw [hs] <;> decide
  rw [w.toList_render] at h
  simp only [List.mem_append, List.mem_cons] at h
  rcases h with h | rfl | rfl | rfl | h | h
  · simpa using List.all_eq_true.1 hscheme c h
  · decide
  · decide
  · decide
  · have hfront := w.standsInFront h
    simp only [Url.standsInFront, Bool.and_eq_true, decide_eq_true_eq] at hfront
    exact hfront.2
  · exact visible_of_not_inPathSet (w.path.mem_render h)

/-- The scheme of a URL in access form is read back. -/
theorem AccessForm.splitScheme?_render (w : u.AccessForm) :
    splitScheme? (significant u.render.toList) =
      some (u.scheme, '/' :: '/' :: (u.frontText ++ u.path.render.toList)) := by
  rw [significant_of_visible fun c hc => w.visible hc, w.toList_render, splitScheme?_web w.web]

/-- A URL in access form has a host to write. -/
theorem AccessForm.hostText_ne_nil (w : u.AccessForm) : u.hostText ≠ [] := by
  obtain ⟨host, hh⟩ := Option.isSome_iff_exists.1 w.has_host
  rw [hostText, hh]
  exact Host.Written.render_ne_nil (w.host host hh)

/-- The slashes before the user or host end there. -/
theorem AccessForm.dropWhile_slashes (w : u.AccessForm) (rest : List Char) :
    ('/' :: '/' :: (u.frontText ++ rest)).dropWhile (isSlash true) = u.frontText ++ rest := by
  have hne : u.frontText ≠ [] := by simp [frontText, w.hostText_ne_nil]
  have hhead : ∀ c ∈ (u.frontText ++ rest).head?, isSlash true c = false := by
    intro c hc
    rw [List.head?_append_of_ne_nil _ hne] at hc
    have hfront := w.standsInFront (List.mem_of_mem_head? hc)
    simp only [Url.standsInFront, endsAuthority, Bool.and_eq_true, Bool.not_eq_true', Bool.or_eq_false_iff] at hfront
    exact hfront.1.1.1
  have hslash : isSlash true '/' = true := by decide
  rw [List.dropWhile_cons_of_pos hslash, List.dropWhile_cons_of_pos hslash, dropWhile_eq_self hhead]

/-- Apart from the host, which is read anew, the text of a URL is read as that URL. -/
theorem AccessForm.parse_render_host (w : u.AccessForm) :
    parse u.render = (readHost true u.hostText).map fun host => { u with host := some host } := by
  obtain ⟨user, huser, hread⟩ := splitUser_frontText w.toWritten
  rw [parse, w.splitScheme?_render]
  dsimp only
  rw [readAfterScheme_web w.web, w.dropWhile_slashes,
    readAuthority_web w.web w.span_frontText huser (splitPort_place w.toWritten), if_neg w.hostText_ne_nil,
    readPortText_portText w.toWritten, readPath_render w.web w.path, hread]
  cases readHost true u.hostText with
  | error e => rfl
  | ok host => simp [Except.map, finish, readQueryAndFragment, w.no_query, w.no_fragment, bind, Except.bind, pure, Except.pure]

/-- A URL whose host is settled is read from its text. -/
theorem AccessForm.parse_render (w : u.AccessForm) (hsettled : ∀ host ∈ u.host, host.Settled) : parse u.render = .ok u := by
  obtain ⟨host, hh⟩ := Option.isSome_iff_exists.1 w.has_host
  have htext : u.hostText = host.render.toList := by rw [hostText, hh, Option.elim_some]
  rw [w.parse_render_host, htext, readHost_render (w.host host hh) (hsettled host hh)]
  simp [Except.map, ← hh]

/-- URLs with one text are one URL. -/
theorem AccessForm.render_injective {v : Url} (w : u.AccessForm) (w' : v.AccessForm) (heq : u.render = v.render) : u = v := by
  -- Each way of splitting the one text is applied to it as the text of `u` and as the text of `v`.
  have hscheme := w.splitScheme?_render
  rw [heq, w'.splitScheme?_render] at hscheme
  simp only [Option.some.injEq, Prod.mk.injEq, List.cons.injEq, true_and] at hscheme
  have hspan := w.span_frontText
  rw [← hscheme.2, w'.span_frontText] at hspan
  obtain ⟨hfront, hpath⟩ := Prod.mk.inj hspan
  obtain ⟨user, huser, hread⟩ := splitUser_frontText w.toWritten
  obtain ⟨user', huser', hread'⟩ := splitUser_frontText w'.toWritten
  rw [← hfront, huser'] at huser
  obtain ⟨rfl, hplace⟩ := Prod.mk.inj huser
  obtain ⟨husername, hpassword⟩ := Prod.mk.inj (hread.symm.trans hread')
  have hport := splitPort_place w.toWritten
  rw [← hplace, splitPort_place w'.toWritten] at hport
  obtain ⟨hhost, hport⟩ := Prod.mk.inj hport
  have hportRead := readPortText_portText w.toWritten
  rw [← hport, ← hscheme.1, readPortText_portText w'.toWritten] at hportRead
  obtain ⟨host, hh⟩ := Option.isSome_iff_exists.1 w.has_host
  obtain ⟨host', hh'⟩ := Option.isSome_iff_exists.1 w'.has_host
  have hhosts : host' = host := by
    refine Host.render_injective (w'.host host' hh') (w.host host hh) (String.toList_injective ?_)
    simpa [hostText, hh, hh'] using hhost
  exact Url.ext hscheme.1.symm husername hpassword (by rw [hh, hh', hhosts]) (Except.ok.inj hportRead).symm
    (Path.render_injective w.path w'.path (String.toList_injective hpath.symm)) (w.no_query.trans w'.no_query.symm)
    (w.no_fragment.trans w'.no_fragment.symm)

end CatalogSync.Url
