import CatalogSync.Url.Ipv6
import CatalogSync.Proofs.Url.Numeral

/-!
# Addresses of version 6

An address that is read has eight pieces of 16 bits, and the text of such an address is read back as that address: piece by
piece up to the gap, and from the gap up to the end. Of the gap it only matters that it stands for zeros.
-/

namespace CatalogSync.Url

/-- An address: eight pieces of 16 bits. -/
structure Ipv6Pieces (pieces : List Nat) : Prop where
  length : pieces.length = 8
  small : ∀ p ∈ pieces, p < 65536

/-- The pieces before the gap, and those after it once it is met. -/
abbrev PiecesRead := List Nat × Option (List Nat)

namespace PiecesRead

/-- How many of the eight places are taken; the gap takes one at least. -/
def count (r : PiecesRead) : Nat := r.1.length + (r.2.map (·.length + 1)).getD 0

/-- Pieces read with more at their end. -/
def add (r : PiecesRead) (pieces : List Nat) : PiecesRead :=
  match r.2 with
  | none => (r.1 ++ pieces, none)
  | some back => (r.1, some (back ++ pieces))

/-- Every piece has 16 bits. -/
def Small (r : PiecesRead) : Prop := ∀ p ∈ r.1 ++ r.2.getD [], p < 65536

/-- Each piece read counts once. -/
theorem count_add (r : PiecesRead) (pieces : List Nat) : (r.add pieces).count = r.count + pieces.length := by
  obtain ⟨front, _ | back⟩ := r
  · simp [add, count]
  · simp [add, count]
    omega

@[simp] theorem add_nil (r : PiecesRead) : r.add [] = r := by
  obtain ⟨front, _ | back⟩ := r <;> simp [add]

theorem add_append (r : PiecesRead) (pieces pieces' : List Nat) : r.add (pieces ++ pieces') = (r.add pieces).add pieces' := by
  obtain ⟨front, _ | back⟩ := r <;> simp [add]

/-- The first piece is read before the others. -/
theorem add_cons (r : PiecesRead) (p : Nat) (pieces : List Nat) : r.add (p :: pieces) = (r.add [p]).add pieces :=
  r.add_append [p] pieces

/-- Pieces of 16 bits are added to such. -/
theorem Small.add {r : PiecesRead} {pieces : List Nat} (h : r.Small) (h' : ∀ p ∈ pieces, p < 65536) : (r.add pieces).Small := by
  obtain ⟨front, _ | back⟩ := r <;> simp only [Small, PiecesRead.add, Option.getD] at h ⊢ <;> grind

end PiecesRead

/-- The hexadecimal digits of a piece. -/
def pieceDigits (cs : List Char) : List Char := (cs.take 4).takeWhile fun c => (Text.hexDigit? c).isSome

/-- At the end of the text the pieces are those read. -/
theorem ipv6Pieces?_nil (fuel : Nat) (r : PiecesRead) : ipv6Pieces? (fuel + 1) r.1 r.2 [] = some r := by
  simp [ipv6Pieces?]

/-- A colon where a piece should begin is the gap, which must be the only one and leave room. -/
theorem ipv6Pieces?_colon (fuel : Nat) (r : PiecesRead) (rest : List Char) :
    ipv6Pieces? (fuel + 1) r.1 r.2 (':' :: rest) =
      if r.count = 8 ∨ r.2.isSome then none else ipv6Pieces? fuel r.1 (some []) rest := by
  rw [ipv6Pieces?]
  rfl

/-- Where no colon stands, a piece is read, up to the end, a colon or as the first byte of the last two pieces. -/
theorem ipv6Pieces?_piece (fuel : Nat) (r : PiecesRead) {cs : List Char} (hne : cs ≠ []) (hcolon : cs.head? ≠ some ':') :
    ipv6Pieces? (fuel + 1) r.1 r.2 cs =
      if r.count = 8 then none
      else match cs.drop (pieceDigits cs).length with
        | [] => some (r.add [Text.hexValue (pieceDigits cs)])
        | '.' :: _ =>
          if (pieceDigits cs).isEmpty ∨ 6 < r.count then none else (dottedPieces? cs).map r.add
        | [':'] => none
        | ':' :: rest =>
          if (pieceDigits cs).isEmpty then none
          else ipv6Pieces? fuel (r.add [Text.hexValue (pieceDigits cs)]).1 (r.add [Text.hexValue (pieceDigits cs)]).2 rest
        | _ => none := by
  obtain ⟨c, cs, rfl⟩ := List.exists_cons_of_ne_nil hne
  have hc : c ≠ ':' := by simpa using hcolon
  rw [ipv6Pieces?]
  · rfl
  all_goals simp [hc]

/-! ## What is read -/

/-- A number of a dotted address is a byte. -/
theorem byte?_le {cs rest : List Char} {n : Nat} (h : byte? cs = some (n, rest)) : n ≤ 255 := by
  simp only [byte?, Option.ite_none_left_eq_some, Option.some.injEq, Prod.mk.injEq, not_or] at h
  omega

/-- What holds of every value of a partial function holds of the values along a list. -/
theorem forall_of_mapM_eq_some {α β : Type} {f : α → Option β} {P : β → Prop} (hf : ∀ a b, f a = some b → P b) {l : List α}
    {out : List β} (h : l.mapM f = some out) : ∀ b ∈ out, P b := by
  induction l generalizing out with
  | nil => simp_all
  | cons a l ih =>
    simp only [List.mapM_cons, Option.bind_eq_bind, Option.bind_eq_some_iff, Option.pure_def, Option.some.injEq] at h
    obtain ⟨b, hb, bs, hbs, rfl⟩ := h
    simpa using ⟨hf a b hb, ih hbs⟩

/-- Two bytes make a piece of 16 bits. -/
theorem dottedPieces?_lt {cs : List Char} {pieces : List Nat} (h : dottedPieces? cs = some pieces) :
    ∀ p ∈ pieces, p < 65536 := by
  obtain ⟨bytes, hbytes, hjoin⟩ := Option.bind_eq_some_iff.1 h
  have hle : ∀ b ∈ bytes, b ≤ 255 := by
    refine forall_of_mapM_eq_some (fun part b hb => ?_) hbytes
    obtain ⟨⟨n, rest⟩, hn, hb⟩ := Option.bind_eq_some_iff.1 hb
    rw [Option.ite_none_right_eq_some] at hb
    exact Option.some.inj hb.2 ▸ byte?_le hn
  split at hjoin
  · next a b c d =>
    simp only [List.forall_mem_cons] at hle
    rw [← Option.some.inj hjoin]
    simp only [List.forall_mem_cons, List.not_mem_nil, false_implies, implies_true, and_true]
    omega
  · simp at hjoin

/-- Every piece that is read has 16 bits if those before it have. -/
theorem ipv6Pieces?_small {fuel : Nat} {r r' : PiecesRead} {cs : List Char} (h : ipv6Pieces? fuel r.1 r.2 cs = some r')
    (hr : r.Small) : r'.Small := by
  induction fuel generalizing r cs with
  | zero => simp [ipv6Pieces?] at h
  | succ fuel ih =>
    by_cases hne : cs = []
    · subst hne
      rw [ipv6Pieces?_nil] at h
      exact Option.some.inj h ▸ hr
    · by_cases hcolon : cs.head? = some ':'
      · obtain ⟨rest, rfl⟩ : ∃ rest, cs = ':' :: rest := List.head?_eq_some_iff.1 hcolon
        rw [ipv6Pieces?_colon, Option.ite_none_left_eq_some] at h
        refine ih (r := (r.1, some [])) h.2 ?_
        intro p hp
        exact hr p (by simpa using Or.inl hp)
      · have hdigits : Text.hexValue (pieceDigits cs) < 65536 := by
          have hlen : (pieceDigits cs).length ≤ 4 :=
            Nat.le_trans (List.takeWhile_prefix _).length_le (List.length_take_le _ _)
          exact Nat.lt_of_lt_of_le (Text.hexValue_lt _) (Nat.pow_le_pow_right (by decide) hlen)
        rw [ipv6Pieces?_piece _ _ hne hcolon, Option.ite_none_left_eq_some] at h
        obtain ⟨-, h⟩ := h
        have hadd : (r.add [Text.hexValue (pieceDigits cs)]).Small := hr.add (by simpa using hdigits)
        split at h
        · exact Option.some.inj h ▸ hadd
        · rw [Option.ite_none_left_eq_some] at h
          obtain ⟨pieces, hp, rfl⟩ := Option.map_eq_some_iff.1 h.2
          exact hr.add (dottedPieces?_lt hp)
        · simp at h
        · rw [Option.ite_none_left_eq_some] at h
          exact ih h.2 hadd
        · simp at h

/-- The pieces of an address with zeros for the gap, none when they are not eight. -/
def gapFilled? : PiecesRead → Option (List Nat)
  | (front, none) => if front.length = 8 then some front else none
  | (front, some back) =>
    if front.length + back.length ≤ 7 then
      some (front ++ List.replicate (8 - front.length - back.length) 0 ++ back)
    else none

/-- A text that begins with the gap has no pieces before it. -/
theorem parseIpv6?_gap (rest : List Char) :
    parseIpv6? (':' :: ':' :: rest) = (ipv6Pieces? (rest.length + 1) [] (some []) rest).bind gapFilled? := rfl

/-- Any other text begins with a piece. -/
theorem parseIpv6?_piece {cs : List Char} (hlen : 2 ≤ cs.length) (hcolon : cs.head? ≠ some ':') :
    parseIpv6? cs = (ipv6Pieces? (cs.length + 1) [] none cs).bind gapFilled? := by
  match cs, hlen, hcolon with
  | c :: d :: rest, _, hcolon =>
    have hc : c ≠ ':' := by simpa using hcolon
    unfold parseIpv6?
    split
    case h_5 => rfl
    all_goals simp_all

/-- What is read is an address: eight pieces of 16 bits. -/
theorem gapFilled?_spec {r : PiecesRead} {pieces : List Nat} (hr : r.Small) (h : gapFilled? r = some pieces) :
    Ipv6Pieces pieces := by
  obtain ⟨front, _ | back⟩ := r
  · simp only [gapFilled?, Option.ite_none_right_eq_some, Option.some.injEq] at h
    obtain ⟨hlen, rfl⟩ := h
    exact ⟨hlen, fun p hp => hr p (by simpa using hp)⟩
  · simp only [gapFilled?, Option.ite_none_right_eq_some, Option.some.injEq] at h
    obtain ⟨hlen, rfl⟩ := h
    refine ⟨by simp; omega, fun p hp => ?_⟩
    simp only [List.mem_append, List.mem_replicate] at hp
    rcases hp with (hp | ⟨-, rfl⟩) | hp
    · exact hr p (by simp [hp])
    · decide
    · exact hr p (by simp [hp])

/-- An address that is read is one. -/
theorem parseIpv6?_spec {cs : List Char} {pieces : List Nat} (h : parseIpv6? cs = some pieces) : Ipv6Pieces pieces := by
  unfold parseIpv6? at h
  split at h
  case h_1 rest =>
    obtain ⟨r, hread, hfill⟩ := Option.bind_eq_some_iff.1 h
    exact gapFilled?_spec (ipv6Pieces?_small (r := ([], some [])) hread nofun) hfill
  case h_5 =>
    obtain ⟨r, hread, hfill⟩ := Option.bind_eq_some_iff.1 h
    exact gapFilled?_spec (ipv6Pieces?_small (r := ([], none)) hread nofun) hfill
  all_goals simp at h

/-! ## The gap -/

/-- The run that is left out is one of at least two zeros. -/
theorem longestZeroRun_spec {pieces : List Nat} {i n : Nat} (h : longestZeroRun pieces = some (i, n)) :
    2 ≤ n ∧ n = zeroRun (pieces.drop i) := by
  unfold longestZeroRun at h
  generalize List.range pieces.length = places at h
  have run : ∀ best : Option (Nat × Nat), (∀ r ∈ best, 2 ≤ r.2 ∧ r.2 = zeroRun (pieces.drop r.1)) →
      ∀ r ∈ places.foldl (fun best i =>
        let n := zeroRun (pieces.drop i)
        if 2 ≤ n ∧ (best.map Prod.snd).getD 0 < n then some (i, n) else best) best,
        2 ≤ r.2 ∧ r.2 = zeroRun (pieces.drop r.1) := by
    clear h
    induction places with
    | nil => exact fun best hbest => hbest
    | cons i places ih =>
      intro best hbest
      rw [List.foldl_cons]
      refine ih _ fun r hr => ?_
      dsimp only at hr
      split at hr
      · next hlong =>
        obtain rfl := Option.mem_some.1 hr
        exact ⟨hlong.1, rfl⟩
      · exact hbest r hr
  exact run none nofun (i, n) h

/-- The run that is left out is a part of the address. -/
theorem pieces_eq_of_longestZeroRun {pieces : List Nat} {i n : Nat} (h : longestZeroRun pieces = some (i, n)) :
    pieces = pieces.take i ++ List.replicate n 0 ++ pieces.drop (i + n) := by
  obtain ⟨-, hn⟩ := longestZeroRun_spec h
  have hrun : (pieces.drop i).take n = List.replicate n 0 := by
    have htake : (pieces.drop i).take n = (pieces.drop i).takeWhile (· == 0) := by
      rw [hn, zeroRun]
      exact (List.prefix_iff_eq_take.1 (List.takeWhile_prefix _)).symm
    rw [htake, List.eq_replicate_iff]
    refine ⟨hn.symm, fun p hp => ?_⟩
    simpa using List.all_eq_true.1 List.all_takeWhile p hp
  calc pieces = pieces.take i ++ pieces.drop i := (List.take_append_drop i pieces).symm
    _ = pieces.take i ++ ((pieces.drop i).take n ++ (pieces.drop i).drop n) := by
      rw [List.take_append_drop n]
    _ = _ := by rw [hrun, List.drop_drop, List.append_assoc]

/-! ## What is written -/

/-- The text of pieces between colons. -/
def piecesText (pieces : List Nat) : List Char := [':'].intercalate (pieces.map (Nat.toDigits 16))

/-- Pieces are written in hexadecimal with colons between them. -/
theorem toList_renderPieces (pieces : List Nat) : (renderPieces pieces).toList = piecesText pieces := by
  simp [renderPieces, piecesText, Function.comp_def]

/-- A piece is not written with a colon in front. -/
theorem toDigits_head_ne_colon (p : Nat) (rest : List Char) : (Nat.toDigits 16 p ++ rest).head? ≠ some ':' := by
  intro h
  obtain ⟨c, cs, hc⟩ := List.exists_cons_of_ne_nil (Nat.toDigits_ne_nil (n := p) (b := 16))
  have hdigit : (Text.hexDigit? c).isSome = true := Text.isSome_hexDigit?_of_mem_toDigits (n := p) (by simp [hc])
  rw [hc] at h
  simp at h
  subst h
  exact absurd hdigit (by decide)

/-- The digits of a piece end where no digit follows. -/
theorem pieceDigits_append {p : Nat} (hp : p < 65536) {rest : List Char} (hrest : ∀ c ∈ rest.head?, Text.hexDigit? c = none) :
    pieceDigits (Nat.toDigits 16 p ++ rest) = Nat.toDigits 16 p := by
  have hlen : (Nat.toDigits 16 p).length ≤ 4 := (Nat.length_toDigits_le_iff (by decide) (by decide)).2 hp
  have hstop : (rest.take (4 - (Nat.toDigits 16 p).length)).takeWhile (fun c => (Text.hexDigit? c).isSome) = [] := by
    cases rest with
    | nil => simp
    | cons c rest =>
      have hc : Text.hexDigit? c = none := hrest c rfl
      cases 4 - (Nat.toDigits 16 p).length <;> simp [hc]
  rw [pieceDigits, List.take_append, List.take_of_length_le hlen,
    List.takeWhile_append_of_pos (fun c hc => Text.isSome_hexDigit?_of_mem_toDigits hc), hstop, List.append_nil]

section
variable {r : PiecesRead} {p : Nat} (hp : p < 65536) (hcount : r.count < 8)
include hp hcount

/-- The last piece of a text is read back. -/
theorem ipv6Pieces?_last (fuel : Nat) : ipv6Pieces? (fuel + 1) r.1 r.2 (Nat.toDigits 16 p) = some (r.add [p]) := by
  have hdigits : pieceDigits (Nat.toDigits 16 p) = Nat.toDigits 16 p := by
    have h := pieceDigits_append hp (show ∀ c ∈ ([] : List Char).head?, Text.hexDigit? c = none by simp)
    rwa [List.append_nil] at h
  have hcolon := toDigits_head_ne_colon p []
  rw [List.append_nil] at hcolon
  rw [ipv6Pieces?_piece _ _ Nat.toDigits_ne_nil hcolon, if_neg (by omega), hdigits, List.drop_length, Text.hexValue_toDigits]

/-- A piece before a colon is read back, and reading goes on behind the colon. -/
theorem ipv6Pieces?_next (fuel : Nat) {rest : List Char} (hrest : rest ≠ []) :
    ipv6Pieces? (fuel + 1) r.1 r.2 (Nat.toDigits 16 p ++ ':' :: rest) =
      ipv6Pieces? fuel (r.add [p]).1 (r.add [p]).2 rest := by
  have hdigits : pieceDigits (Nat.toDigits 16 p ++ ':' :: rest) = Nat.toDigits 16 p :=
    pieceDigits_append hp (by simp; decide)
  obtain ⟨c, rest, rfl⟩ := List.exists_cons_of_ne_nil hrest
  rw [ipv6Pieces?_piece _ _ (by simp) (toDigits_head_ne_colon p _), if_neg (by omega), hdigits, List.drop_left,
    Text.hexValue_toDigits]
  simp

end

/-- The text of pieces with a colon after each. -/
def piecesFront (pieces : List Nat) : List Char := pieces.flatMap fun p => Nat.toDigits 16 p ++ [':']

/-- A colon stands between the first two pieces. -/
theorem piecesText_cons_cons (p q : Nat) (pieces : List Nat) :
    piecesText (p :: q :: pieces) = Nat.toDigits 16 p ++ ':' :: piecesText (q :: pieces) := by
  simp [piecesText, List.intercalate_cons_cons]

/-- The text of some pieces does not begin with a colon. -/
theorem piecesText_head_ne_colon (pieces : List Nat) (rest : List Char) (hne : pieces ≠ []) :
    (piecesText pieces ++ rest).head? ≠ some ':' := by
  match pieces, hne with
  | [p], _ => simpa [piecesText] using toDigits_head_ne_colon p rest
  | p :: q :: pieces, _ =>
    rw [piecesText_cons_cons, List.append_assoc]
    exact toDigits_head_ne_colon p _

/-- A colon behind the last piece closes it. -/
theorem piecesText_append_colon {pieces : List Nat} (hne : pieces ≠ []) : piecesText pieces ++ [':'] = piecesFront pieces := by
  induction pieces with
  | nil => exact absurd rfl hne
  | cons p pieces ih =>
    cases pieces with
    | nil => simp [piecesText, piecesFront]
    | cons q pieces =>
      rw [piecesText_cons_cons, piecesFront, List.flatMap_cons, ← piecesFront, ← ih (by simp)]
      simp

/-- The last piece follows a colon if there are others. -/
theorem piecesText_append_singleton (pieces : List Nat) (p : Nat) :
    piecesText (pieces ++ [p]) = piecesFront pieces ++ Nat.toDigits 16 p := by
  have h := piecesText_append_colon (show pieces ++ [p] ≠ [] by simp)
  simpa [piecesFront, ← List.append_assoc] using h

/-- Pieces with a colon after each are read one by one. -/
theorem ipv6Pieces?_front {pieces : List Nat} {r : PiecesRead} (hsmall : ∀ p ∈ pieces, p < 65536)
    (hcount : r.count + pieces.length ≤ 8) (fuel : Nat) {rest : List Char} (hrest : rest ≠ []) :
    ipv6Pieces? (fuel + pieces.length) r.1 r.2 (piecesFront pieces ++ rest) =
      ipv6Pieces? fuel (r.add pieces).1 (r.add pieces).2 rest := by
  induction pieces generalizing r with
  | nil => simp [piecesFront, PiecesRead.add_nil]
  | cons p pieces ih =>
    have hp : p < 65536 := hsmall p List.mem_cons_self
    rw [List.length_cons] at hcount
    have htext : piecesFront (p :: pieces) ++ rest = Nat.toDigits 16 p ++ ':' :: (piecesFront pieces ++ rest) := by
      simp [piecesFront]
    rw [htext, List.length_cons, ← Nat.add_assoc, ipv6Pieces?_next hp (by omega) _ (by simp [hrest]),
      ih (fun p hp => hsmall p (List.mem_cons_of_mem _ hp)) (by rw [PiecesRead.count_add, List.length_singleton]; omega),
      ← PiecesRead.add_cons]

/-- Pieces are read up to the end of a text; there may be none only where the gap is the end. -/
theorem ipv6Pieces?_pieces {pieces : List Nat} {r : PiecesRead} (hsmall : ∀ p ∈ pieces, p < 65536)
    (hcount : r.count + pieces.length ≤ 8) (fuel : Nat) :
    ipv6Pieces? (fuel + pieces.length + 1) r.1 r.2 (piecesText pieces) = some (r.add pieces) := by
  rcases List.eq_nil_or_concat pieces with rfl | ⟨front, p, rfl⟩
  · rw [PiecesRead.add_nil]
    exact ipv6Pieces?_nil fuel r
  · rw [List.concat_eq_append] at *
    simp only [List.length_append, List.length_singleton] at hcount ⊢
    have hfuel : fuel + (front.length + 1) + 1 = fuel + 2 + front.length := by omega
    rw [hfuel, piecesText_append_singleton,
      ipv6Pieces?_front (fun p hp => hsmall p (List.mem_append_left _ hp)) (by omega) _ Nat.toDigits_ne_nil,
      ipv6Pieces?_last (hsmall p (by simp)) (by rw [PiecesRead.count_add]; omega), ← PiecesRead.add_append]

/-- Each piece takes a digit and a colon at least. -/
theorem length_le_piecesFront (pieces : List Nat) : 2 * pieces.length ≤ (piecesFront pieces).length := by
  induction pieces with
  | nil => simp
  | cons p pieces ih =>
    have hp : 0 < (Nat.toDigits 16 p).length := Nat.length_toDigits_pos
    simp only [piecesFront, List.flatMap_cons, List.length_append, List.length_cons, List.length_nil] at ih ⊢
    omega

/-- Each piece takes a digit at least, so that the text is fuel enough to read it. -/
theorem length_le_piecesText (pieces : List Nat) : pieces.length ≤ (piecesText pieces).length := by
  by_cases hne : pieces = []
  · simp [hne]
  · have hlen := congrArg List.length (piecesText_append_colon hne)
    have hfront := length_le_piecesFront pieces
    have hpos := List.length_pos_iff.2 hne
    rw [List.length_append, List.length_singleton] at hlen
    omega

/-- What stands after the gap is read as the pieces it is written for. -/
theorem ipv6Pieces?_back {front back : List Nat} (hsmall : ∀ p ∈ back, p < 65536) (hcount : front.length + back.length ≤ 7)
    {fuel : Nat} (hfuel : (piecesText back).length < fuel) :
    ipv6Pieces? fuel front (some []) (piecesText back) = some (front, some back) := by
  have hlen := length_le_piecesText back
  obtain ⟨k, rfl⟩ := Nat.exists_eq_add_of_le (show back.length + 1 ≤ fuel by omega)
  have h := ipv6Pieces?_pieces (r := (front, some [])) hsmall (by simp [PiecesRead.count]; omega) k
  rw [show back.length + 1 + k = k + back.length + 1 by omega, h]
  rfl

/-- A text with a gap is read as the pieces before it and those after it. -/
theorem parseIpv6?_text_gap {front back : List Nat} (hsmall : ∀ p ∈ front ++ back, p < 65536)
    (hfits : front.length + back.length ≤ 7) :
    parseIpv6? (piecesText front ++ ':' :: ':' :: piecesText back) = gapFilled? (front, some back) := by
  have hread : ∀ {fuel}, (piecesText back).length < fuel →
      ipv6Pieces? fuel front (some []) (piecesText back) = some (front, some back) :=
    ipv6Pieces?_back (fun p hp => hsmall p (List.mem_append_right _ hp)) hfits
  by_cases hne : front = []
  · subst hne
    rw [show piecesText [] ++ ':' :: ':' :: piecesText back = ':' :: ':' :: piecesText back from rfl, parseIpv6?_gap,
      hread (Nat.lt_succ_self _)]
    rfl
  · have hhead := piecesText_head_ne_colon front (':' :: ':' :: piecesText back) hne
    have htext : piecesText front ++ ':' :: ':' :: piecesText back = piecesFront front ++ ':' :: piecesText back := by
      simp [← piecesText_append_colon hne]
    have hlong := length_le_piecesFront front
    have hpos := List.length_pos_iff.2 hne
    -- One unit of fuel for each piece before the gap, one for the colon, the rest for what follows.
    obtain ⟨k, hk⟩ : ∃ k, (piecesFront front ++ ':' :: piecesText back).length + 1 =
        (piecesText back).length + 1 + k + 1 + front.length :=
      ⟨(piecesFront front).length - front.length, by simp; omega⟩
    rw [htext] at hhead ⊢
    rw [parseIpv6?_piece (by simp; omega) hhead, hk,
      ipv6Pieces?_front (r := ([], none)) (fun p hp => hsmall p (List.mem_append_left _ hp))
        (by simp [PiecesRead.count]; omega) _ (by simp),
      ipv6Pieces?_colon, if_neg (by simp [PiecesRead.add, PiecesRead.count]; omega)]
    simp only [PiecesRead.add, List.nil_append]
    rw [hread (by omega)]
    rfl

/-- An address is read from its text. -/
theorem parseIpv6?_renderIpv6 {pieces : List Nat} (h : Ipv6Pieces pieces) : parseIpv6? (renderIpv6 pieces).toList = some pieces := by
  have hlen := h.length
  unfold renderIpv6
  split
  · have htext := length_le_piecesText pieces
    have hne : pieces ≠ [] := List.ne_nil_of_length_pos (by omega)
    obtain ⟨k, hk⟩ := Nat.exists_eq_add_of_le' htext
    rw [toList_renderPieces, parseIpv6?_piece (by omega) (by simpa using piecesText_head_ne_colon pieces [] hne), hk,
      ipv6Pieces?_pieces (r := ([], none)) h.small (by simp [PiecesRead.count, hlen])]
    simp [PiecesRead.add, gapFilled?, hlen]
  · next i n hrun =>
    obtain ⟨hn, -⟩ := longestZeroRun_spec hrun
    have hparts := pieces_eq_of_longestZeroRun hrun
    have htext : (renderPieces (pieces.take i) ++ "::" ++ renderPieces (pieces.drop (i + n))).toList =
        piecesText (pieces.take i) ++ ':' :: ':' :: piecesText (pieces.drop (i + n)) := by
      simp [toList_renderPieces]
    rw [htext]
    generalize pieces.take i = front at hparts ⊢
    generalize pieces.drop (i + n) = back at hparts ⊢
    subst hparts
    have hfits : front.length + n + back.length = 8 := by simpa [Nat.add_assoc] using hlen
    have hgap : 8 - front.length - back.length = n := by omega
    have hsmall : ∀ p ∈ front ++ back, p < 65536 := by
      intro p hp
      refine h.small p ?_
      simp only [List.mem_append] at hp ⊢
      tauto
    rw [parseIpv6?_text_gap hsmall (by omega), gapFilled?, if_pos (by omega), hgap]

/-- The text of an address has only hexadecimal digits and colons. -/
theorem mem_renderIpv6 {pieces : List Nat} {c : Char} (h : c ∈ (renderIpv6 pieces).toList) :
    (∃ d < 16, c = Nat.digitChar d) ∨ c = ':' := by
  have text : ∀ pieces, c ∈ piecesText pieces → (∃ d < 16, c = Nat.digitChar d) ∨ c = ':' := by
    intro pieces hc
    by_cases hne : pieces = []
    · simp [hne, piecesText] at hc
    · have hfront : c ∈ piecesFront pieces := piecesText_append_colon hne ▸ List.mem_append_left _ hc
      obtain ⟨p, -, hp⟩ := List.mem_flatMap.1 hfront
      simp only [List.mem_append, List.mem_singleton] at hp
      exact hp.imp_left (Text.exists_digit_of_mem_toDigits (by decide))
  unfold renderIpv6 at h
  split at h
  · exact text _ (toList_renderPieces _ ▸ h)
  · simp only [String.toList_append, toList_renderPieces, List.mem_append] at h
    rcases h with (h | h) | h
    · exact text _ h
    · simp at h
      exact .inr h
    · exact text _ h

end CatalogSync.Url
