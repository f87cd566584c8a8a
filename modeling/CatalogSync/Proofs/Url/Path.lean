import CatalogSync.AccessUrl
import CatalogSync.Proofs.Url.Percent
import Mathlib.Data.List.DropRight

/-!
# Paths

The path of an http or https URL is read into segments that hold neither a slash nor anything to encode and are not dots. Such a
path is read from its text segment by segment. Trimming it takes the slashes off the end of its text, except that a text of
slashes alone becomes the one slash.
-/

namespace CatalogSync.Url

/-- The schemes at which services are reached. -/
def IsWeb (scheme : String) : Prop := scheme = "http" ∨ scheme = "https"

/-- Web schemes are special. -/
theorem IsWeb.isSpecial {scheme : String} (h : IsWeb scheme) : isSpecial scheme = true := by
  rcases h with rfl | rfl <;> decide

/-- No web scheme is that of files. -/
theorem IsWeb.not_file {scheme : String} (h : IsWeb scheme) : (scheme == "file") = false := by
  rcases h with rfl | rfl <;> decide

/-- The form a segment has after it was read. -/
structure SegmentWritten (segment : List Char) : Prop where
  safe : Safe inPathSet segment
  no_slash : ∀ c ∈ segment, isSlash true c = false
  not_single : isSingleDot segment = false
  not_double : isDoubleDot segment = false

/-- The form a path of segments has after it was read. -/
def Path.Written : Path → Prop
  | .segments parts => parts ≠ [] ∧ ∀ s ∈ parts, SegmentWritten s.toList
  | .plain _ => False

/-! ## What is read -/

theorem segmentWritten_nil : SegmentWritten [] := ⟨.nil, nofun, by decide, by decide⟩

/-- Going up takes off the last segment, whichever it is. -/
theorem shorten_web (segments : List (List Char)) : shorten false segments = segments.dropLast := by
  rcases List.eq_nil_or_concat segments with rfl | ⟨front, last, rfl⟩ <;> simp [shorten]

/-- A segment that is added is empty or the one given, which is then not dots; those before it stay or lose their last. -/
theorem addSegment_web (segments : List (List Char)) (segment : List Char) (more : Bool) :
    addSegment false segments segment more =
      if isDoubleDot segment then segments.dropLast ++ (if more then [] else [[]])
      else if isSingleDot segment then segments ++ (if more then [] else [[]])
      else segments ++ [segment] := by
  unfold addSegment
  cases more <;> simp [shorten_web]

/-- The last segment of a path is kept, be it empty. -/
theorem addSegment_ne_nil (segments : List (List Char)) (segment : List Char) : addSegment false segments segment false ≠ [] := by
  rw [addSegment_web]
  split
  · simp
  · split <;> simp

/-- Adding a segment keeps the form of the segments: dots are not added, and what is taken away or empty does no harm. -/
theorem addSegment_written {segments : List (List Char)} {segment : List Char} (more : Bool)
    (hsegments : ∀ s ∈ segments, SegmentWritten s) (hsafe : Safe inPathSet segment)
    (hslash : ∀ c ∈ segment, isSlash true c = false) :
    ∀ s ∈ addSegment false segments segment more, SegmentWritten s := by
  have hempty : ∀ s ∈ (if more then [] else [[]] : List (List Char)), SegmentWritten s := by
    intro s hs
    obtain rfl : s = [] := by cases more <;> simp_all
    exact segmentWritten_nil
  intro s hs
  rw [addSegment_web] at hs
  split at hs
  · exact (List.mem_append.1 hs).elim (fun hs => hsegments s ((List.dropLast_sublist _).subset hs)) (hempty s)
  · next hdouble =>
    split at hs
    · exact (List.mem_append.1 hs).elim (hsegments s) (hempty s)
    · next hsingle =>
      rcases List.mem_append.1 hs with hs | hs
      · exact hsegments s hs
      · rw [List.mem_singleton.1 hs]
        exact ⟨hsafe, hslash, by simpa using hsingle, by simpa using hdouble⟩

/-- A character of a path that does not end its segment is written without a slash. -/
theorem encodeChar_inPathSet {c : Char} (hslash : isSlash true c = false) :
    Safe inPathSet (encodeChar inPathSet c) ∧ ∀ d ∈ encodeChar inPathSet c, isSlash true d = false := by
  refine ⟨safe_encodeChar (fun _ => inUserInfoSet_of_inPathSet) c, fun d hd => ?_⟩
  rcases mem_encodeChar hd with ⟨rfl, -⟩ | hfree
  · exact hslash
  · by_contra hs
    simp only [isSlash, Bool.true_and, Bool.not_eq_false, Bool.or_eq_true, beq_iff_eq] at hs
    rcases hs with rfl | rfl <;> exact absurd hfree (by decide)

/-- Whatever is read, the segments of a path come out in written form, one at least. -/
theorem readSegments_written (cs : List Char) {segments : List (List Char)} {segment : List Char}
    (hsegments : ∀ s ∈ segments, SegmentWritten s) (hsafe : Safe inPathSet segment)
    (hslash : ∀ c ∈ segment, isSlash true c = false) :
    (readSegments true false segments segment cs).1 ≠ [] ∧
      ∀ s ∈ (readSegments true false segments segment cs).1, SegmentWritten s := by
  induction cs generalizing segments segment with
  | nil => exact ⟨addSegment_ne_nil _ _, addSegment_written false hsegments hsafe hslash⟩
  | cons c cs ih =>
    rw [readSegments]
    split
    · exact ih (addSegment_written true hsegments hsafe hslash) .nil nofun
    · next hc =>
      split
      · exact ⟨addSegment_ne_nil _ _, addSegment_written false hsegments hsafe hslash⟩
      · obtain ⟨hs, hn⟩ := encodeChar_inPathSet (by simpa using hc)
        exact ih hsegments (hsafe.append hs) fun d hd => (List.mem_append.1 hd).elim (hslash d) (hn d)

/-- The path of an http or https URL is read in written form. -/
theorem readPath_written {scheme : String} (hweb : IsWeb scheme) (cs : List Char) : (readPath scheme cs).1.Written := by
  unfold readPath
  simp only [hweb.isSpecial, hweb.not_file]
  split
  · exact ⟨by simp, by simpa using segmentWritten_nil⟩
  · next c rest =>
    obtain ⟨hne, hall⟩ := readSegments_written (if isSlash true c then rest else c :: rest)
      (show ∀ s ∈ ([] : List (List Char)), SegmentWritten s by simp) .nil nofun
    simpa [Path.Written] using And.intro hne hall

/-! ## What is written -/

/-- The text of segments with a slash before each. -/
def segmentsText (parts : List String) : List Char := parts.flatMap fun s => '/' :: s.toList

/-- Each segment is written after a slash. -/
theorem segmentsText_cons (s : String) (parts : List String) :
    segmentsText (s :: parts) = '/' :: (s.toList ++ segmentsText parts) := by
  simp [segmentsText]

/-- A path is written segment by segment. -/
theorem toList_renderPath (parts : List String) : (Path.segments parts).render.toList = segmentsText parts := by
  induction parts with
  | nil => rfl
  | cons s parts ih =>
    simp only [Path.render, segmentsText] at ih ⊢
    simp [String.join_cons, ih]

/-- A segment is read up to a slash or the end. -/
theorem readSegments_append {segments : List (List Char)} {segment cs rest : List Char} (hsafe : Safe inPathSet cs)
    (hslash : ∀ c ∈ cs, isSlash true c = false) :
    readSegments true false segments segment (cs ++ rest) = readSegments true false segments (segment ++ cs) rest := by
  induction cs generalizing segment with
  | nil => simp
  | cons c cs ih =>
    have hc : inPathSet c = false := hsafe c List.mem_cons_self
    have hend : (c == '?' || c == '#') = false := by
      by_contra h
      simp only [Bool.not_eq_false, Bool.or_eq_true, beq_iff_eq] at h
      rcases h with rfl | rfl <;> exact absurd hc (by decide)
    rw [List.cons_append, readSegments, hslash c List.mem_cons_self, hend, encodeChar, hc]
    have hrest := @ih (segment ++ [c]) (fun d hd => hsafe d (List.mem_cons_of_mem _ hd))
      fun d hd => hslash d (List.mem_cons_of_mem _ hd)
    simpa using hrest

/-- A segment in written form is added as it is. -/
theorem addSegment_of_written {segments : List (List Char)} {segment : List Char} (h : SegmentWritten segment) (more : Bool) :
    addSegment false segments segment more = segments ++ [segment] := by
  simp [addSegment_web, h.not_single, h.not_double]

/-- Segments in written form are read back in their order. -/
theorem readSegments_segmentsText (segments : List (List Char)) {parts : List String} {segment : List Char}
    (hsegment : SegmentWritten segment) (hparts : ∀ s ∈ parts, SegmentWritten s.toList) :
    readSegments true false segments [] (segment ++ segmentsText parts) =
      (segments ++ segment :: parts.map String.toList, []) := by
  induction parts generalizing segments segment with
  | nil =>
    rw [readSegments_append hsegment.safe hsegment.no_slash]
    simp [segmentsText, readSegments, addSegment_of_written hsegment]
  | cons s parts ih =>
    rw [readSegments_append hsegment.safe hsegment.no_slash]
    have hs := hparts s List.mem_cons_self
    rw [segmentsText_cons, readSegments, if_pos (by decide), List.nil_append, addSegment_of_written hsegment,
      ih _ hs fun t ht => hparts t (List.mem_cons_of_mem _ ht)]
    simp

/-- A path is read from its text. -/
theorem readPath_render {scheme : String} (hweb : IsWeb scheme) {path : Path} (h : path.Written) :
    readPath scheme path.render.toList = (path, []) := by
  match path, h with
  | .segments (s :: parts), ⟨_, h⟩ =>
    have hread := readSegments_segmentsText [] (h s List.mem_cons_self) fun t ht => h t (List.mem_cons_of_mem _ ht)
    rw [toList_renderPath, segmentsText_cons, readPath]
    simp [hweb.isSpecial, hweb.not_file, isSlash, hread]

/-- Paths in written form with one text are one path. -/
theorem Path.render_injective {path path' : Path} (h : path.Written) (h' : path'.Written) (heq : path.render = path'.render) :
    path = path' := by
  have hread := readPath_render (.inl rfl) h
  rw [heq, readPath_render (.inl rfl) h'] at hread
  exact (congrArg Prod.fst hread).symm

/-- The characters of a path's text: slashes and what paths leave alone. -/
theorem Path.Written.mem_render {path : Path} (h : path.Written) {c : Char} (hc : c ∈ path.render.toList) :
    inPathSet c = false := by
  match path, h with
  | .segments parts, ⟨_, h⟩ =>
    rw [toList_renderPath] at hc
    obtain ⟨s, hs, hc⟩ := List.mem_flatMap.1 hc
    rcases List.mem_cons.1 hc with rfl | hc
    · decide
    · exact (h s hs).safe c hc

/-- A path is written with a slash in front. -/
theorem Path.Written.exists_render {path : Path} (h : path.Written) : ∃ cs, path.render.toList = '/' :: cs := by
  match path, h with
  | .segments (s :: parts), _ => exact ⟨_, by rw [toList_renderPath, segmentsText_cons]⟩

/-! ## Trimming -/

/-- The text of a path without the slashes at its end. -/
def Path.bare (path : Path) : List Char := path.render.toList.rdropWhile (· == '/')

/-- The segments of a trimmed path: those up to the last that is not empty, or one that is. -/
theorem Path.trimmed_segments (parts : List String) :
    (Path.segments parts).trimmed =
      .segments (if parts.rdropWhile String.isEmpty = [] then [""] else parts.rdropWhile String.isEmpty) := by
  cases hkept : parts.rdropWhile String.isEmpty with
  | nil =>
    rw [List.rdropWhile] at hkept
    simp [Path.trimmed, hkept]
  | cons s kept =>
    rw [List.rdropWhile] at hkept
    simp [Path.trimmed, hkept]

/-- Without the slashes at its end a path is still in written form. -/
theorem Path.Written.trimmed {path : Path} (h : path.Written) : path.trimmed.Written := by
  match path, h with
  | .segments parts, ⟨_, h⟩ =>
    rw [Path.trimmed_segments]
    split
    · exact ⟨by simp, by simpa using segmentWritten_nil⟩
    · next hne => exact ⟨hne, fun s hs => h s ((List.rdropWhile_prefix _ _).subset hs)⟩

/-- What is trimmed has nothing left to trim. -/
@[simp] theorem Path.trimmed_trimmed (path : Path) : path.trimmed.trimmed = path.trimmed := by
  cases path with
  | plain text => rfl
  | segments parts =>
    rw [Path.trimmed_segments, Path.trimmed_segments]
    split
    · rfl
    · next hne => rw [List.rdropWhile_idempotent, if_neg hne]

/-- The slashes at the end of a text of segments belong to the empty segments there. -/
theorem rdropWhile_segmentsText {parts : List String} (h : ∀ s ∈ parts, SegmentWritten s.toList) :
    (segmentsText parts).rdropWhile (· == '/') = segmentsText (parts.rdropWhile String.isEmpty) := by
  induction parts using List.reverseRecOn with
  | nil => rfl
  | append_singleton parts s ih =>
    have htext : segmentsText (parts ++ [s]) = segmentsText parts ++ '/' :: s.toList := by simp [segmentsText]
    rcases List.eq_nil_or_concat s.toList with hs | ⟨front, c, hs⟩
    · have hempty : s.isEmpty = true := by simpa using hs
      rw [htext, hs, List.rdropWhile_concat_pos _ _ _ (by decide), List.rdropWhile_concat_pos _ _ _ hempty]
      exact ih fun t ht => h t (List.mem_append_left _ ht)
    · have hempty : ¬ s.isEmpty = true := by
        intro hempty
        simp [String.isEmpty_iff.1 hempty] at hs
      have hc : isSlash true c = false := (h s (by simp)).no_slash c (by simp [hs])
      have hlast : ¬ (c == '/') = true := by
        intro heq
        rw [beq_iff_eq.1 heq] at hc
        exact absurd hc (by decide)
      rw [List.rdropWhile_concat_neg _ _ _ hempty, htext, hs, List.concat_eq_append, ← List.cons_append, ← List.append_assoc,
        List.rdropWhile_concat_neg (· == '/') _ _ hlast]

/-- The text of a trimmed path is the bare one, or one slash where nothing is left. -/
theorem Path.Written.render_trimmed {path : Path} (h : path.Written) :
    path.trimmed.render.toList = if path.bare = [] then ['/'] else path.bare := by
  match path, h with
  | .segments parts, ⟨_, h⟩ =>
    have hnil : ∀ parts : List String, segmentsText parts = [] ↔ parts = [] := by
      intro parts
      cases parts <;> simp [segmentsText]
    rw [Path.trimmed_segments, toList_renderPath, Path.bare, toList_renderPath, rdropWhile_segmentsText h]
    by_cases hne : parts.rdropWhile String.isEmpty = []
    · rw [if_pos hne, hne]
      rfl
    · rw [if_neg hne, if_neg ((hnil _).not.2 hne)]

/-- The text of a trimmed path is one slash or does not end in one. -/
theorem Path.Written.render_trimmed_end {path : Path} (h : path.Written) :
    path.trimmed.render = "/" ∨ path.trimmed.render.toList.getLast? ≠ some '/' := by
  have htext := h.render_trimmed
  split at htext
  · exact .inl (String.toList_injective htext)
  · next hne =>
    right
    have hlast := List.rdropWhile_last_not (· == '/') path.render.toList hne
    rw [htext, List.getLast?_eq_some_getLast hne]
    simpa [Path.bare] using hlast

/-- Paths are trimmed to the same exactly if they are the same without the slashes at their ends. -/
theorem Path.Written.trimmed_eq_iff {path path' : Path} (h : path.Written) (h' : path'.Written) :
    path.trimmed = path'.trimmed ↔ path.bare = path'.bare := by
  have bare_trimmed : ∀ {p : Path}, p.Written → p.trimmed.bare = p.bare := by
    intro p hp
    rw [Path.bare, hp.render_trimmed]
    split
    · next hnil => rw [hnil]; rfl
    · exact List.rdropWhile_idempotent _ _
  constructor
  · intro heq
    rw [← bare_trimmed h, heq, bare_trimmed h']
  · intro heq
    refine Path.render_injective h.trimmed h'.trimmed (String.toList_injective ?_)
    rw [h.render_trimmed, h'.render_trimmed, heq]

end CatalogSync.Url
