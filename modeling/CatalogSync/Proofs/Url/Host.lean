import CatalogSync.Proofs.Url.Ipv4
import CatalogSync.Proofs.Url.Ipv6
import CatalogSync.Proofs.Url.Percent
import CatalogSync.Url.Parser

/-!
# Hosts

A host that is read is in written form: a name that could not be taken for an address and has no character a name may not have,
or an address. Hosts in written form differ where their texts differ, and each is read from its text; for a name this takes
that bringing it to ASCII once more changes nothing, as is so for every name of small letters, digits and the like none of whose
labels is in Punycode.
-/

namespace CatalogSync.Url

/-- The form a host has after it was read. -/
def Host.Written : Host → Prop
  | .domain name => name.toList ≠ [] ∧ endsInNumber name.toList = false ∧ ∀ c ∈ name.toList, isForbiddenInDomain c = false
  | .ipv4 address => address < 2 ^ 32
  | .ipv6 pieces => Ipv6Pieces pieces

/-- A name is its own form in ASCII. -/
def Host.Settled : Host → Prop
  | .domain name => asciiDomain? name.toList = some name.toList
  | _ => True

/-- A character that stands for itself in a name. -/
def isPlain (c : Char) : Bool := c.toNat < 0x80 && !c.isUpper && !isForbiddenInDomain c

/-- A name has only characters that stand for themselves and no label in Punycode. -/
def Host.Plain : Host → Prop
  | .domain name => (∀ c ∈ name.toList, isPlain c = true) ∧ ∀ l ∈ labels name.toList, isPunycodeLabel l = false
  | _ => True

/-! ## Names -/

/-- A name in ASCII has no forbidden character. -/
theorem asciiDomain?_not_forbidden {cs name : List Char} (h : asciiDomain? cs = some name) :
    ∀ c ∈ name, isForbiddenInDomain c = false := by
  unfold asciiDomain? at h
  obtain ⟨mapped, -, h⟩ := Option.bind_eq_some_iff.1 h
  obtain ⟨meant, -, h⟩ := Option.bind_eq_some_iff.1 h
  simp only [Option.ite_none_right_eq_some, Bool.and_eq_true, Bool.not_eq_true', List.any_eq_false, Option.some.injEq] at h
  obtain ⟨⟨-, hfree⟩, rfl⟩ := h
  intro c hc
  simpa using hfree c hc

/-- A computation that succeeds for each item succeeds for all. -/
theorem mapM_eq_some_map {α β : Type} {f : α → Option β} {g : α → β} {l : List α} (h : ∀ a ∈ l, f a = some (g a)) :
    l.mapM f = some (l.map g) := by
  induction l with
  | nil => rfl
  | cons a l ih =>
    rw [List.mapM_cons, h a List.mem_cons_self, ih fun b hb => h b (List.mem_cons_of_mem _ hb)]
    rfl

/-- The characters of a label are characters of the name. -/
theorem mem_of_mem_labels {cs l : List Char} {c : Char} (hl : l ∈ labels cs) (hc : c ∈ l) : c ∈ cs := by
  have mem : ∀ ls : List (List Char), l ∈ ls → c ∈ ['.'].intercalate ls := by
    intro ls hls
    induction ls with
    | nil => simp at hls
    | cons m ls ih =>
      by_cases hne : ls = []
      · simp_all
      · rw [List.intercalate_cons_of_ne_nil hne]
        rcases List.mem_cons.1 hls with rfl | hls
        · simp [hc]
        · simp [ih hls]
  have h := mem _ hl
  rwa [labels, List.intercalate_splitOn] at h

/-- A name of plain characters and without Punycode is its own form in ASCII. -/
theorem asciiDomain?_plain {cs : List Char} (h : ∀ c ∈ cs, isPlain c = true)
    (hlabels : ∀ l ∈ labels cs, isPunycodeLabel l = false) : asciiDomain? cs = some cs := by
  have hplain : ∀ c ∈ cs, c.toNat < 0x80 ∧ c.isUpper = false ∧ isForbiddenInDomain c = false := by
    simpa [isPlain, and_assoc] using h
  have hmap : mapChars? cs = some cs := by
    unfold mapChars?
    rw [mapM_eq_some_map (g := fun c => [c]) fun c hc => by simp [fate, hplain c hc]]
    simp [← List.flatMap_def]
  have hcomposed : Text.composed cs = cs := if_pos (by simpa using fun c hc => (hplain c hc).1)
  have hmeant : (labels cs).mapM meantLabel? = some (labels cs) := by
    rw [mapM_eq_some_map (g := id) fun l hl => by simp [meantLabel?, hlabels l hl], List.map_id]
  have hlow : ∀ l ∈ labels cs, l.all (fun c => c.toNat < 0x80) = true := by
    intro l hl
    simpa using fun c hc => (hplain c (mem_of_mem_labels hl hc)).1
  have hascii : (labels cs).map asciiLabel = labels cs :=
    (List.map_congr_left fun l hl => if_pos (hlow l hl)).trans (List.map_id _)
  have hjoin : ((labels cs).intersperse ['.']).flatten = cs := List.intercalate_splitOn '.'
  have hfits : (labels cs).all (fun l => l.all (fun c => c.toNat < 0x80) || labelFits l) = true := by
    rw [List.all_eq_true]
    intro l hl
    rw [hlow l hl, Bool.true_or]
  have hone : isBidirectional (labels cs).flatten = false := by
    rw [isBidirectional, List.any_eq_false]
    intro c hc
    obtain ⟨l, hl, hc⟩ := List.mem_flatten.1 hc
    have hlt := (hplain c (mem_of_mem_labels hl hc)).1
    simp [show ¬ 0x80 ≤ c.toNat by omega]
  have hfree : cs.any isForbiddenInDomain = false := List.any_eq_false.2 fun c hc => by simp [(hplain c hc).2.2]
  simp only [asciiDomain?, Option.bind_eq_bind, hmap, hcomposed, hmeant, hascii, hjoin, hfits, hone, hfree, Option.bind_some,
    Bool.not_false, Bool.true_or, Bool.and_self, if_true]

/-- Plain hosts are settled. -/
theorem Host.Plain.settled {host : Host} (h : host.Plain) : host.Settled := by
  cases host with
  | domain name => exact asciiDomain?_plain h.1 h.2
  | ipv4 address => trivial
  | ipv6 pieces => trivial

/-! ## Written hosts -/

/-- A host that is read is in written form. -/
theorem readHost_written {cs : List Char} {host : Host} (h : readHost true cs = .ok host) : host.Written := by
  unfold readHost at h
  split at h
  · split at h
    · split at h
      · next pieces hp => exact Except.ok.inj h ▸ parseIpv6?_spec hp
      · simp at h
    · simp at h
  · rw [if_pos rfl] at h
    split at h
    · simp at h
    · simp at h
    · next name hne hname =>
      obtain ⟨text, -, hname⟩ := Option.bind_eq_some_iff.1 hname
      split at h
      · split at h
        · next address ha => exact Except.ok.inj h ▸ parseIpv4?_lt ha
        · simp at h
      · next hend =>
        rw [← Except.ok.inj h]
        refine ⟨?_, ?_, ?_⟩
        · simpa using hne
        · simpa using hend
        · simpa using asciiDomain?_not_forbidden hname

/-- The host that a text in written form stands for. -/
def hostOfText? (cs : List Char) : Option Host :=
  match cs with
  | '[' :: rest => (parseIpv6? rest.dropLast).map .ipv6
  | _ => if endsInNumber cs then (parseIpv4? cs).map .ipv4 else some (.domain (String.ofList cs))

/-- Without brackets a host is an address of four bytes or a name. -/
theorem hostOfText?_of_ne {cs : List Char} (h : '[' ∉ cs) :
    hostOfText? cs = if endsInNumber cs then (parseIpv4? cs).map .ipv4 else some (.domain (String.ofList cs)) := by
  unfold hostOfText?
  split
  · simp at h
  · rfl

/-- An address of four bytes is written with plain characters. -/
theorem isPlain_of_mem_renderIpv4 {address : Nat} {c : Char} (h : c ∈ (renderIpv4 address).toList) : isPlain c = true := by
  have digit : ∀ d < 10, isPlain (Nat.digitChar d) = true := by decide
  rcases mem_renderIpv4 h with ⟨d, hd, rfl⟩ | rfl
  · exact digit d hd
  · decide

/-- A host in written form is read back. -/
theorem hostOfText?_render {host : Host} (h : host.Written) : hostOfText? host.render.toList = some host := by
  cases host with
  | domain name =>
    obtain ⟨-, hend, hfree⟩ := h
    have hbracket : '[' ∉ name.toList := fun hm => absurd (hfree _ hm) (by decide)
    simp [Host.render, hostOfText?_of_ne hbracket, hend]
  | ipv4 address =>
    have hbracket : '[' ∉ (renderIpv4 address).toList := fun hm => absurd (isPlain_of_mem_renderIpv4 hm) (by decide)
    simp [Host.render, hostOfText?_of_ne hbracket, endsInNumber_renderIpv4, parseIpv4?_renderIpv4 h]
  | ipv6 pieces => simp [Host.render, hostOfText?, parseIpv6?_renderIpv6 h]

/-- Hosts in written form with one text are one host. -/
theorem Host.render_injective {host host' : Host} (h : host.Written) (h' : host'.Written) (heq : host.render = host'.render) :
    host = host' := by
  have hread := hostOfText?_render h
  rw [heq, hostOfText?_render h'] at hread
  exact (Option.some.inj hread).symm

/-- The text of an address of version 4 is its own form in ASCII. -/
theorem asciiDomain?_renderIpv4 (address : Nat) :
    asciiDomain? (renderIpv4 address).toList = some (renderIpv4 address).toList := by
  have byte : ∀ b < 256, isPunycodeLabel (Nat.toDigits 10 b) = false := by decide +kernel
  refine asciiDomain?_plain (fun c hc => isPlain_of_mem_renderIpv4 hc) fun l hl => ?_
  rw [labels_renderIpv4] at hl
  obtain ⟨b, hb, rfl⟩ := List.mem_map.1 hl
  exact byte b (ipv4Bytes_lt hb)

/-- Without brackets and encodings, a text that is its own form in ASCII is read as the name or the address that it is. -/
theorem readHost_of_settled {cs : List Char} (hne : cs ≠ []) (hbracket : '[' ∉ cs) (hpercent : '%' ∉ cs)
    (hascii : asciiDomain? cs = some cs) :
    readHost true cs =
      if endsInNumber cs then (parseIpv4? cs).elim (.error .invalidIpv4) (.ok ∘ .ipv4) else .ok (.domain (String.ofList cs)) := by
  have hname : (textOfBytes? (decodeBytes cs)).bind asciiDomain? = some cs := by
    rw [textOfBytes?_decodeBytes hpercent, Option.bind_some, hascii]
  unfold readHost
  split
  · simp at hbracket
  · rw [if_pos rfl, hname]
    split
    · simp_all
    · simp_all
    · next name heq =>
      obtain rfl := Option.some.inj heq
      cases parseIpv4? cs <;> rfl

/-- A host in written form is written with one character at least. -/
theorem Host.Written.render_ne_nil {host : Host} (h : host.Written) : host.render.toList ≠ [] := by
  cases host with
  | domain name => exact h.1
  | ipv4 address =>
    intro hnil
    have hend := endsInNumber_renderIpv4 address
    rw [show (renderIpv4 address).toList = [] from hnil] at hend
    exact absurd hend (by decide)
  | ipv6 pieces => simp [Host.render]

/-- A host is read from its text. -/
theorem readHost_render {host : Host} (h : host.Written) (hsettled : host.Settled) :
    readHost true host.render.toList = .ok host := by
  cases host with
  | domain name =>
    obtain ⟨hne, hend, hfree⟩ := h
    rw [Host.render, readHost_of_settled hne (fun hm => absurd (hfree _ hm) (by decide))
      (fun hm => absurd (hfree _ hm) (by decide)) hsettled, hend]
    simp
  | ipv4 address =>
    rw [readHost_of_settled h.render_ne_nil (fun hm => absurd (isPlain_of_mem_renderIpv4 hm) (by decide))
      (fun hm => absurd (isPlain_of_mem_renderIpv4 hm) (by decide)) (asciiDomain?_renderIpv4 address),
      Host.render, endsInNumber_renderIpv4, parseIpv4?_renderIpv4 h]
    rfl
  | ipv6 pieces => simp [Host.render, readHost, parseIpv6?_renderIpv6 h]

/-- The characters of a host's text: those of a name, colons and brackets. -/
theorem Host.Written.mem_render {host : Host} (h : host.Written) {c : Char} (hc : c ∈ host.render.toList) :
    isForbiddenInDomain c = false ∨ c ∈ [':', '[', ']'] := by
  cases host with
  | domain name => exact .inl (h.2.2 c hc)
  | ipv4 address =>
    have hplain := isPlain_of_mem_renderIpv4 hc
    simp only [isPlain, Bool.and_eq_true, Bool.not_eq_true'] at hplain
    exact .inl hplain.2
  | ipv6 pieces =>
    have digit : ∀ d < 16, isForbiddenInDomain (Nat.digitChar d) = false := by decide
    simp only [Host.render, String.toList_append, List.mem_append] at hc
    rcases hc with (hc | hc) | hc
    · simp_all
    · rcases mem_renderIpv6 hc with ⟨d, hd, rfl⟩ | rfl
      · exact .inl (digit d hd)
      · simp
    · simp_all

end CatalogSync.Url
