import Mathlib.Data.List.TakeWhile
import CatalogSync.Auth

/-!
# What arrives of a user name and a password

Base64 is undone by its reading (`Text.Base64.decode?_encode`), so the token of a user name and a password stands for their text with a colon
between them. Whoever receives it parts that text at its first colon (`AuthMethod.readToken`). A password arrives whatever it is, and so does
a user name without a colon; a user name with one is parted at its own first colon, and the rest of it is taken for the beginning of the
password (`AuthMethod.credentials_arrive`).
-/

namespace CatalogSync

namespace Text.Base64

theorem value?_char {n : Nat} (h : n < 64) : value? (char n) = some n := by
  have hall : ∀ n < 64, value? (char n) = some n := by decide
  exact hall n h

/-- No number is written as a padding. -/
theorem char_ne_pad {n : Nat} (h : n < 64) : char n ≠ '=' := by
  intro he
  have hv := value?_char h
  rw [he] at hv
  nomatch hv

/-- The bytes that a text in base64 stands for are those that were written. -/
theorem decode?_encode (bytes : List UInt8) : decode? (encode bytes) = some bytes := by
  induction bytes using encode.induct with
  | case1 => rfl
  | case2 a =>
    have ha := a.toNat_lt
    have hbyte : a.toNat / 4 * 4 + a.toNat % 4 * 16 / 16 = a.toNat := by omega
    rw [encode, decode?, value?_char (by omega), value?_char (by omega)]
    simp only [Option.bind_eq_bind, Option.bind_some, Nat.mul_mod_left, if_true, hbyte, UInt8.ofNat_toNat]
  | case3 a b =>
    have ha := a.toNat_lt
    have hb := b.toNat_lt
    rw [encode, decode?.eq_3 _ _ _ (char_ne_pad (by omega)), value?_char (by omega), value?_char (by omega), value?_char (by omega)]
    have hfirst : a.toNat / 4 * 4 + (a.toNat % 4 * 16 + b.toNat / 16) / 16 = a.toNat := by omega
    have hsecond : (a.toNat % 4 * 16 + b.toNat / 16) % 16 * 16 + b.toNat % 16 * 4 / 4 = b.toNat := by omega
    simp only [Option.bind_eq_bind, Option.bind_some, Nat.mul_mod_left, if_true, hfirst, hsecond, UInt8.ofNat_toNat]
  | case4 a b c rest ih =>
    have ha := a.toNat_lt
    have hb := b.toNat_lt
    have hc := c.toNat_lt
    have hlast : char (c.toNat % 64) ≠ '=' := char_ne_pad (by omega)
    rw [encode, decode?.eq_4 _ _ _ _ _ (fun _ h _ => hlast h) (fun h _ => hlast h), value?_char (by omega), value?_char (by omega),
      value?_char (by omega), value?_char (by omega), ih]
    have hfirst : a.toNat / 4 * 4 + (a.toNat % 4 * 16 + b.toNat / 16) / 16 = a.toNat := by omega
    have hsecond : (a.toNat % 4 * 16 + b.toNat / 16) % 16 * 16 + (b.toNat % 16 * 4 + c.toNat / 64) / 4 = b.toNat := by omega
    have hthird : (b.toNat % 16 * 4 + c.toNat / 64) % 4 * 64 + c.toNat % 64 = c.toNat := by omega
    simp only [Option.bind_eq_bind, Option.bind_some, Option.pure_def, hfirst, hsecond, hthird, UInt8.ofNat_toNat]

end Text.Base64

namespace AuthMethod

open Text

/-- What whoever receives a token takes it for: the text that its bytes are in UTF-8, parted at the first colon into a user name and a
password. -/
def readToken (token : String) : Option (String × String) := do
  let bytes ← Base64.decode? token.toList
  let text ← String.fromUTF8? ⟨bytes.toArray⟩
  match text.toList.dropWhile (· ≠ ':') with
  | [] => Option.none
  | _ :: password => some (String.ofList (text.toList.takeWhile (· ≠ ':')), String.ofList password)

/-- A token stands for the user name and the password with a colon between them. -/
theorem decode?_basicToken (username password : String) :
    Base64.decode? (basicToken username password).toList = some (username ++ ":" ++ password).toUTF8.data.toList := by
  rw [basicToken, String.toList_ofList, Base64.decode?_encode]

theorem fromUTF8?_toUTF8 (s : String) : String.fromUTF8? ⟨s.toUTF8.data.toList.toArray⟩ = some s :=
  dif_pos s.isValidUTF8

/-- The text of a token is parted at its first colon. -/
theorem readToken_basicToken {username password name rest : String} (hn : ':' ∉ name.toList)
    (ht : username ++ ":" ++ password = name ++ ":" ++ rest) : readToken (basicToken username password) = some (name, rest) := by
  have htext : (username ++ ":" ++ password).toList = name.toList ++ ':' :: rest.toList := by
    rw [ht, String.toList_append, String.toList_append, List.append_assoc]
    rfl
  have hname : ∀ c ∈ name.toList, decide (c ≠ ':') = true := fun c hc => decide_eq_true fun he => hn (he ▸ hc)
  rw [readToken, decode?_basicToken]
  simp only [Option.bind_eq_bind, Option.bind_some, fromUTF8?_toUTF8, htext]
  rw [List.dropWhile_append_of_pos hname, List.takeWhile_append_of_pos hname, List.dropWhile_cons_of_neg (by decide),
    List.takeWhile_cons_of_neg (by decide), List.append_nil, String.ofList_toList]
  exact congrArg (fun password => some (name, password)) String.ofList_toList

/-- Tokens are equal exactly if their texts are. -/
theorem basicToken_eq_iff {username password username' password' : String} :
    basicToken username password = basicToken username' password' ↔
      username ++ ":" ++ password = username' ++ ":" ++ password' := by
  constructor
  · intro h
    have hbytes := decode?_basicToken username password
    rw [h, decode?_basicToken] at hbytes
    have htext := fromUTF8?_toUTF8 (username' ++ ":" ++ password')
    rw [Option.some.inj hbytes, fromUTF8?_toUTF8] at htext
    exact Option.some.inj htext
  · intro h
    rw [basicToken, h, basicToken]

/-- What is read before the first colon has none. -/
theorem notMem_of_readToken {token name rest : String} (h : readToken token = some (name, rest)) : ':' ∉ name.toList := by
  simp only [readToken, Option.bind_eq_bind, Option.bind_eq_some_iff] at h
  obtain ⟨bytes, _, text, _, h⟩ := h
  split at h
  · nomatch h
  · cases h
    rw [String.toList_ofList]
    intro hc
    simpa using List.mem_takeWhile_imp hc

/-- The settings of a user name and a password are accepted exactly if both are given, empty or not, and then these two are sent. -/
theorem toMethod_basic_eq_ok_iff {hasStore : Bool} {username : Option String} {password : Option Secret} {a : AuthMethod} :
    (AuthSettings.basic username password).toMethod hasStore = .ok a ↔
      ∃ name secret, username = some name ∧ password = some secret ∧ a = ofCredentials name secret.reveal := by
  constructor
  · intro h
    cases username with
    | none => nomatch h
    | some name =>
      cases password with
      | none => nomatch h
      | some secret => exact ⟨name, secret, rfl, rfl, (Except.ok.inj h).symm⟩
  · rintro ⟨name, secret, rfl, rfl, rfl⟩
    rfl

variable {m : Type → Type} [Monad m] [LawfulMonad m] (resolve : String → m (Option String))

theorem headers_ofCredentials (username password : String) :
    (ofCredentials username password).headers resolve = pure (.ok [("Authorization", "Basic " ++ basicToken username password)]) := by
  rw [headers, ofCredentials, header, pure_bind]
  rfl

/-- How the credentials that settings ask for arrive. The header that is sent for them is that of the basic scheme, with the user name and the
password in base64 with a colon between them; two requests have the same header exactly if these texts are equal. Whoever reads the token parts
its text at the first colon, so the user name and the password arrive exactly if the user name has no colon. -/
theorem credentials_arrive {hasStore : Bool} {username : Option String} {password : Option Secret} {a : AuthMethod}
    (h : (AuthSettings.basic username password).toMethod hasStore = .ok a) :
    ∃ name secret token, username = some name ∧ password = some ⟨secret⟩ ∧ a = ofCredentials name secret ∧
      a.header resolve = pure (.ok (some ("Authorization", "Basic " ++ token))) ∧
      a.headers resolve = pure (.ok [("Authorization", "Basic " ++ token)]) ∧
      Base64.decode? token.toList = some (name ++ ":" ++ secret).toUTF8.data.toList ∧
      (readToken token = some (name, secret) ↔ ':' ∉ name.toList) ∧
      (∀ before after, name = before ++ ":" ++ after → ':' ∉ before.toList →
        readToken token = some (before, after ++ ":" ++ secret)) ∧
      ∀ name' secret',
        ("Basic " ++ token = "Basic " ++ basicToken name' secret' ↔ name ++ ":" ++ secret = name' ++ ":" ++ secret') ∧
        (':' ∉ name.toList → ':' ∉ name'.toList →
          ("Basic " ++ token = "Basic " ++ basicToken name' secret' ↔ name = name' ∧ secret = secret')) := by
  obtain ⟨name, ⟨secret⟩, rfl, rfl, rfl⟩ := toMethod_basic_eq_ok_iff.1 h
  -- base64 loses nothing, so headers are equal if the texts that they encode are
  have hsame : ∀ name' secret', ("Basic " ++ basicToken name secret = "Basic " ++ basicToken name' secret' ↔
      name ++ ":" ++ secret = name' ++ ":" ++ secret') := fun name' secret' =>
    ⟨fun he => basicToken_eq_iff.1 ((String.append_right_inj _).1 he), fun he => congrArg _ (basicToken_eq_iff.2 he)⟩
  refine ⟨name, secret, basicToken name secret, rfl, rfl, rfl, rfl, headers_ofCredentials resolve name secret,
    decode?_basicToken name secret, ⟨notMem_of_readToken, fun hn => readToken_basicToken hn rfl⟩, ?_,
    fun name' secret' => ⟨hsame name' secret', ?_⟩⟩
  · rintro before after rfl hb
    exact readToken_basicToken hb (by simp only [String.append_assoc])
  · intro hn hn'
    rw [hsame]
    constructor
    · intro he
      have hread : readToken (basicToken name secret) = some (name, secret) := readToken_basicToken hn rfl
      rw [readToken_basicToken hn' he] at hread
      obtain ⟨rfl, rfl⟩ := Prod.mk.inj (Option.some.inj hread)
      exact ⟨rfl, rfl⟩
    · rintro ⟨rfl, rfl⟩
      rfl

/-- A user name beyond ASCII and a password with colons arrive as they are. -/
theorem credentials_arrive_umlaut :
    ∃ token, (AuthSettings.basic (some "jürgen") (some ⟨"a:b:"⟩)).toMethod false = .ok (ofCredentials "jürgen" "a:b:") ∧
      ':' ∉ "jürgen".toList ∧ readToken token = some ("jürgen", "a:b:") ∧
      (ofCredentials "jürgen" "a:b:").header (m := Id) (fun _ => Option.none) = .ok (some ("Authorization", "Basic " ++ token)) := by
  have hn : ':' ∉ "jürgen".toList := by decide
  have ha : (AuthSettings.basic (some "jürgen") (some ⟨"a:b:"⟩)).toMethod false = .ok (ofCredentials "jürgen" "a:b:") := rfl
  obtain ⟨name, secret, token, hname, hsecret, _, hheader, _, _, hread, _⟩ :=
    credentials_arrive (m := Id) (fun _ => Option.none) ha
  cases hname
  cases hsecret
  exact ⟨token, ha, hn, hread.2 hn, hheader⟩

/-- A user name with a colon is accepted and does not arrive, for the rest of it is read as the beginning of the password: its header is that
of the user name before the colon with another password. -/
theorem credentials_do_not_arrive :
    (AuthSettings.basic (some "a:b") (some ⟨"c"⟩)).toMethod false = .ok (ofCredentials "a:b" "c") ∧
    (ofCredentials "a:b" "c").header (m := Id) (fun _ => Option.none) =
      (ofCredentials "a" "b:c").header (m := Id) (fun _ => Option.none) ∧
    readToken (basicToken "a:b" "c") = some ("a", "b:c") ∧
    ¬(∀ username password, readToken (basicToken username password) = some (username, password)) := by
  have hread : readToken (basicToken "a:b" "c") = some ("a", "b:c") := readToken_basicToken (by decide) (by decide)
  refine ⟨rfl, ?_, hread, fun h => ?_⟩
  · have htoken : basicToken "a:b" "c" = basicToken "a" "b:c" := basicToken_eq_iff.2 (by decide)
    simp only [ofCredentials, header, htoken]
  · have he := hread.symm.trans (h "a:b" "c")
    exact absurd he (by decide)

end AuthMethod

end CatalogSync
