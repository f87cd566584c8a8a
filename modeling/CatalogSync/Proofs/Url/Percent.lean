import CatalogSync.Url.Percent
import Mathlib.Data.List.Basic

/-!
# Percent encoding and its inverse

An encoded text has no character left to encode, so that encoding it again changes nothing; a text without `%` is the text its
own bytes stand for. Of the sets of characters to encode `inUserInfoSet` is the largest, so that what it leaves alone, such as
the characters encodings are made of, is left alone everywhere.
-/

namespace CatalogSync.Url

/-- No character of a text is one to encode. -/
def Safe (isUnsafe : Char → Bool) (cs : List Char) : Prop := ∀ c ∈ cs, isUnsafe c = false

namespace Safe

variable {isUnsafe : Char → Bool} {cs ds : List Char}

@[simp] theorem nil : Safe isUnsafe [] := nofun

theorem append (h : Safe isUnsafe cs) (h' : Safe isUnsafe ds) : Safe isUnsafe (cs ++ ds) := by
  intro c hc
  exact (List.mem_append.1 hc).elim (h c) (h' c)

end Safe

/-- What is escaped in a path is in user information. -/
theorem inUserInfoSet_of_inPathSet {c : Char} (h : inPathSet c = true) : inUserInfoSet c = true := by
  simp [inUserInfoSet, h]

/-- A safe text is its own encoding. -/
theorem encode_of_safe {isUnsafe : Char → Bool} {cs : List Char} (h : Safe isUnsafe cs) : encode isUnsafe cs = cs := by
  induction cs with
  | nil => rfl
  | cons c cs ih =>
    have hc : encodeChar isUnsafe c = [c] := by simp [encodeChar, h c List.mem_cons_self]
    have hcs := ih fun d hd => h d (List.mem_cons_of_mem _ hd)
    unfold encode at hcs ⊢
    rw [List.flatMap_cons, hc, hcs, List.singleton_append]

/-! ## Encoded texts -/

/-- The characters that encodings are made of are left alone everywhere. -/
theorem safe_encodeByte (b : UInt8) : Safe inUserInfoSet (encodeByte b) := by
  have digit : ∀ n < 16, inUserInfoSet (upperHexDigit n) = false := by decide +kernel
  have hb : b.toNat < 256 := b.toNat_lt
  intro c hc
  simp only [encodeByte, List.mem_cons, List.not_mem_nil, or_false] at hc
  rcases hc with rfl | rfl | rfl
  · decide
  · exact digit _ (by omega)
  · exact digit _ (by omega)

/-- An encoded character is the character itself or has only characters that are left alone everywhere. -/
theorem mem_encodeChar {isUnsafe : Char → Bool} {c d : Char} (h : d ∈ encodeChar isUnsafe c) :
    (d = c ∧ isUnsafe c = false) ∨ inUserInfoSet d = false := by
  unfold encodeChar at h
  split at h
  · obtain ⟨b, -, hd⟩ := List.mem_flatMap.1 h
    exact .inr (safe_encodeByte b d hd)
  · next hc => exact .inl ⟨List.mem_singleton.1 h, by simpa using hc⟩

section
variable {isUnsafe : Char → Bool} (hsub : ∀ c, isUnsafe c = true → inUserInfoSet c = true)
include hsub

/-- What a character is encoded as is safe. -/
theorem safe_encodeChar (c : Char) : Safe isUnsafe (encodeChar isUnsafe c) := by
  intro d hd
  rcases mem_encodeChar hd with ⟨rfl, hc⟩ | hu
  · exact hc
  · by_contra hd
    simp [hsub d (by simpa using hd)] at hu

/-- Nothing is left to encode in an encoded text. -/
theorem safe_encode (cs : List Char) : Safe isUnsafe (encode isUnsafe cs) := by
  intro d hd
  obtain ⟨c, -, hc⟩ := List.mem_flatMap.1 hd
  exact safe_encodeChar hsub c d hc

end

/-- A text is not made empty by encoding it. -/
theorem encode_ne_nil {isUnsafe : Char → Bool} {cs : List Char} (h : cs ≠ []) : encode isUnsafe cs ≠ [] := by
  obtain ⟨c, cs, rfl⟩ := List.exists_cons_of_ne_nil h
  intro hn
  have hc : encodeChar isUnsafe c = [] := List.flatMap_eq_nil_iff.1 hn c List.mem_cons_self
  unfold encodeChar at hc
  split at hc
  · have hbytes := List.flatMap_eq_nil_iff.1 hc
    obtain ⟨b, bs, hb⟩ := List.exists_cons_of_ne_nil (String.utf8EncodeChar_ne_nil (c := c))
    exact absurd (hbytes b (by simp [hb])) (by simp [encodeByte])
  · exact absurd hc (by simp)

/-! ## Decoding -/

/-- Without `%` the decoded bytes are those of the text itself. -/
theorem decodeBytes_of_no_percent {cs : List Char} (h : '%' ∉ cs) : decodeBytes cs = cs.flatMap String.utf8EncodeChar := by
  fun_induction decodeBytes cs with
  | case1 => rfl
  | case2 => simp at h
  | case3 => simp at h
  | case4 c rest _ ih => rw [ih (fun hm => h (List.mem_cons_of_mem _ hm)), List.flatMap_cons]

/-- A text without `%` is what its decoded bytes stand for. -/
theorem textOfBytes?_decodeBytes {cs : List Char} (h : '%' ∉ cs) : textOfBytes? (decodeBytes cs) = some cs := by
  have hbytes : (⟨(decodeBytes cs).toArray⟩ : ByteArray) = cs.utf8Encode := by
    rw [decodeBytes_of_no_percent h]
    ext1
    simp [List.utf8Encode]
  have hvalid : cs.utf8Encode.IsValidUTF8 := ByteArray.isValidUTF8_utf8Encode
  have htext : String.fromUTF8 cs.utf8Encode hvalid = String.ofList cs := by
    apply String.toByteArray_inj.1
    simp [String.fromUTF8]
  simp [textOfBytes?, String.fromUTF8?, hbytes, hvalid, htext]

end CatalogSync.Url
