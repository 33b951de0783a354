/-
What a path can be under a well-known scheme.

An address is only ever read from a text or given another path, and both walk the
pieces of a text.  The walk stacks what is left after encoding and takes back for every
`..`, so each segment of a path is *plain*: it holds no slash of either kind, nothing
that a path would encode, and it does not spell a dot segment.  A path of plain segments
survives being written and walked again, which is what a path that is grown and set
again relies on.
-/
import Mathlib.Data.List.Induction
import ModelGateway.Proofs.Text.Pieces
import ModelGateway.Proofs.Url.Percent
import ModelGateway.Url.Edit

namespace ModelGateway.Url

/-- A segment as a path under a well-known scheme holds it. -/
structure Plain (s : String) : Prop where
  kept : ∀ c ∈ s.toList, Keeps .path c
  noSlash : ∀ c ∈ s.toList, isSlash .wellKnown c = false
  notDot : isDot s.toList = false
  notDotDot : isDotDot s.toList = false

theorem plain_empty : Plain "" := ⟨by simp, by simp, by decide, by decide⟩

variable {stack : List String} {piece : List Char} {s : String} {text : List Char}

/-! ### The walk leaves plain segments -/

theorem escape_keeps : ∀ c ∈ escapeChars, Keeps .path c ∧ isSlash .wellKnown c = false := by
  have hall : escapeChars.all fun c =>
      decide (c.toNat < 0x80) && !EncodeSet.path c && !isSlash .wellKnown c := by decide
  intro c hc
  simpa [Keeps] using List.all_eq_true.mp hall c hc

/-- Encoding for a path leaves characters that a path keeps, and makes no slash. -/
theorem encoded_piece (hpiece : ∀ c ∈ piece, isSlash .wellKnown c = false) :
    ∀ c ∈ percentEncode .path piece, Keeps .path c ∧ isSlash .wellKnown c = false := by
  intro c hc
  rcases mem_percentEncode hc with ⟨hmem, hkeep⟩ | hescape
  · exact ⟨hkeep, hpiece c hmem⟩
  · exact escape_keeps c hescape

theorem plain_of_piece (hpiece : ∀ c ∈ piece, isSlash .wellKnown c = false)
    (hdot : isDot (percentEncode .path piece) = false)
    (hdotdot : isDotDot (percentEncode .path piece) = false) :
    Plain (String.ofList (percentEncode .path piece)) where
  kept := by
    rw [String.toList_ofList]
    exact fun c hc => (encoded_piece hpiece c hc).1
  noSlash := by
    rw [String.toList_ofList]
    exact fun c hc => (encoded_piece hpiece c hc).2
  notDot := by rwa [String.toList_ofList]
  notDotDot := by rwa [String.toList_ofList]

theorem climb_subset (h : s ∈ climb stack) : s ∈ stack := by
  cases stack with
  | nil => simp [climb] at h
  | cons t below =>
    rw [climb] at h
    split at h
    · exact h
    · exact List.mem_cons_of_mem _ h

theorem stepPiece_plain (hstack : ∀ s ∈ stack, Plain s)
    (hpiece : ∀ c ∈ piece, isSlash .wellKnown c = false) :
    ∀ s ∈ stepPiece .wellKnown .path stack piece, Plain s := by
  intro s hs
  unfold stepPiece at hs
  simp only at hs
  split at hs
  · exact hstack s (climb_subset hs)
  · split at hs
    · exact hstack s hs
    · next hdotdot hdot =>
      rcases List.mem_cons.mp hs with rfl | hs
      · exact plain_of_piece hpiece (by simpa using hdot) (by simpa using hdotdot)
      · exact hstack s hs

theorem lastPiece_plain (hstack : ∀ s ∈ stack, Plain s)
    (hpiece : ∀ c ∈ piece, isSlash .wellKnown c = false) :
    ∀ s ∈ lastPiece .wellKnown .path stack piece, Plain s := by
  intro s hs
  unfold lastPiece at hs
  simp only at hs
  split at hs
  · rcases List.mem_cons.mp hs with rfl | hs
    · exact plain_empty
    · exact hstack s (climb_subset hs)
  · split at hs
    · rcases List.mem_cons.mp hs with rfl | hs
      · exact plain_empty
      · exact hstack s hs
    · next hdotdot hdot =>
      rcases List.mem_cons.mp hs with rfl | hs
      · exact plain_of_piece hpiece (by simpa using hdot) (by simpa using hdotdot)
      · exact hstack s hs

theorem walk_plain {ps : List (List Char)} (hstack : ∀ s ∈ stack, Plain s)
    (hps : ∀ piece ∈ ps, ∀ c ∈ piece, isSlash .wellKnown c = false) :
    ∀ s ∈ walk .wellKnown .path stack ps, Plain s := by
  induction ps generalizing stack with
  | nil => exact hstack
  | cons piece rest ih =>
    cases rest with
    | nil => exact lastPiece_plain hstack (hps piece (by simp))
    | cons next rest =>
      exact ih (stepPiece_plain hstack (hps piece (by simp)))
        fun x hx => hps x (List.mem_cons_of_mem _ hx)

theorem walk_ne_nil {kind : Kind} {set : EncodeSet} {ps : List (List Char)} (h : ps ≠ []) :
    walk kind set stack ps ≠ [] := by
  induction ps generalizing stack with
  | nil => exact absurd rfl h
  | cons piece rest ih =>
    cases rest with
    | nil =>
      show lastPiece kind set stack piece ≠ []
      unfold lastPiece
      simp only
      split
      · simp
      · split <;> simp
    | cons next rest => exact ih (by simp)

/-! ### Paths that are read -/

theorem pieces_noSlash : ∀ piece ∈ pieces .wellKnown text, ∀ c ∈ piece,
    isSlash .wellKnown c = false := by
  intro piece hpiece c hc
  cases text with
  | nil =>
    have hnil : piece = [] := by simpa [pieces] using hpiece
    simp [hnil] at hc
  | cons x cs => exact (Text.mem_splitOn hpiece hc).2

theorem pieces_ne_nil : pieces .wellKnown text ≠ [] := by
  cases text with
  | nil => simp [pieces]
  | cons x cs => exact Text.splitOn_ne_nil _ _

theorem segmentsOf_plain : ∀ s ∈ segmentsOf .wellKnown text, Plain s := by
  intro s hs
  exact walk_plain (by simp) pieces_noSlash s (List.mem_reverse.mp hs)

theorem segmentsOf_ne_nil : segmentsOf .wellKnown text ≠ [] := by
  intro h
  exact walk_ne_nil pieces_ne_nil (List.reverse_eq_nil_iff.mp h)

/-- An address that was read from a text, or is one with another path. -/
inductive Made : Url → Prop
  | read {text : String} {u : Url} (h : parse text = .ok u) : Made u
  | withPath {u : Url} (h : Made u) (text : String) : Made (u.withPath text)

/-- The path of an address is what is read between its scheme and its query. -/
theorem parse_path {text : String} {u : Url} (h : parse text = .ok u) :
    ∃ more cs, readHierarchy u.kind u.scheme more cs = .ok (u.authority, u.path) := by
  unfold parse at h
  split at h
  · simp at h
  · simp only [bind, Except.bind] at h
    split at h
    · simp at h
    · next read hread =>
      have hu := Except.ok.inj h
      rw [← hu]
      exact ⟨_, _, hread⟩

theorem readHierarchy_wellKnown {scheme : String} {more : Bool} {cs : List Char}
    {authority : Option Authority} {path : Path}
    (h : readHierarchy .wellKnown scheme more cs = .ok (authority, path)) :
    ∃ text, path = .segments (segmentsOf .wellKnown text) := by
  simp only [readHierarchy, bind, Except.bind] at h
  split at h
  · simp at h
  · have hpath := (Prod.mk.inj (Except.ok.inj h)).2
    exact ⟨_, hpath.symm⟩

@[simp] theorem kind_withPath (u : Url) (text : String) : (u.withPath text).kind = u.kind := by
  unfold withPath
  split <;> rfl

theorem kind_of_http {u : Url} (h : u.scheme = "http" ∨ u.scheme = "https") :
    u.kind = .wellKnown := by
  rcases h with h | h
  · rw [Url.kind, h]
    decide
  · rw [Url.kind, h]
    decide

/-- Under a well-known scheme, an address has a path of plain segments, and at least one. -/
theorem Made.segments {u : Url} (h : Made u) (hkind : u.kind = .wellKnown) :
    ∃ list, u.path = .segments list ∧ list ≠ [] ∧ ∀ s ∈ list, Plain s := by
  induction h with
  | @read text u hread =>
    obtain ⟨more, cs, hpath⟩ := parse_path hread
    rw [hkind] at hpath
    obtain ⟨path, hsegments⟩ := readHierarchy_wellKnown hpath
    exact ⟨_, hsegments, segmentsOf_ne_nil, segmentsOf_plain⟩
  | @withPath u _ text ih =>
    rw [kind_withPath] at hkind
    obtain ⟨list, hpath, -⟩ := ih hkind
    refine ⟨segmentsOf .wellKnown (unwrap text.toList), ?_, segmentsOf_ne_nil, segmentsOf_plain⟩
    simp only [Url.withPath, hpath, hkind]

/-! ### Paths that are written

A path is written with a slash before each segment.  Slashes cut off at its end take the
empty segments there with them, and nothing else.
-/

/-- Segments as a path text. -/
def written (segments : List String) : List Char := segments.flatMap fun s => '/' :: s.toList

theorem toList_write (segments : List String) :
    (Path.segments segments).write.toList = written segments := by
  unfold Path.write written
  simp [List.flatMap, Function.comp_def]

theorem written_append (a b : List String) : written (a ++ b) = written a ++ written b :=
  List.flatMap_append

variable {segments a b : List String}

/-- Neither kind of slash is in a plain segment. -/
theorem Plain.ne_slash (h : Plain s) : ∀ c ∈ s.toList, c ≠ '/' := by
  intro c hc heq
  have hslash := h.noSlash c hc
  rw [heq] at hslash
  simp [isSlash] at hslash

theorem dropEndWhile_written (h : ∀ s ∈ segments, Plain s) :
    Text.dropEndWhile (· == '/') (written segments) =
      written (Text.dropEndWhile (· == "") segments) := by
  induction segments using List.reverseRecOn with
  | nil => rfl
  | append_singleton front s ih =>
    have hfront := ih fun x hx => h x (by simp [hx])
    have hs := (h s (by simp)).ne_slash
    have hlast : written [s] = '/' :: s.toList := by simp [written]
    rw [written_append, hlast]
    rcases List.eq_nil_or_concat s.toList with hnil | ⟨init, c, hconcat⟩
    · have hempty : s = "" := String.toList_eq_nil_iff.mp hnil
      rw [hnil, Text.dropEndWhile_append_of_all (by simp),
        Text.dropEndWhile_append_of_all (by simp [hempty]), hfront]
    · have hne : (s == "") = false := by
        rw [beq_eq_false_iff_ne]
        intro hempty
        rw [hempty] at hconcat
        simp at hconcat
      have hc : (c == '/') = false := by
        rw [beq_eq_false_iff_ne]
        exact hs c (by simp [hconcat])
      have htext : '/' :: s.toList = ('/' :: init) ++ [c] := by simp [hconcat]
      have hkeep : Text.dropEndWhile (· == "") (front ++ ([] ++ [s])) = front ++ ([] ++ [s]) :=
        Text.dropEndWhile_append_of_not hne
      rw [htext, Text.dropEndWhile_append_of_not (q := (· == '/')) hc, ← htext, ← hlast, ← written_append]
      exact congrArg written hkeep.symm

theorem lineBreak_cases {c : Char} (h : isLineBreak c = true) : c = '\t' ∨ c = '\n' ∨ c = '\r' := by
  simpa [isLineBreak, or_assoc] using h

theorem Keeps.not_lineBreak {c : Char} (h : Keeps .path c) : isLineBreak c = false := by
  cases hbreak : isLineBreak c with
  | false => rfl
  | true =>
    obtain ⟨-, hset⟩ := h
    rcases lineBreak_cases hbreak with rfl | rfl | rfl <;> exact absurd hset (by decide)

/-- A path of plain segments holds no line break. -/
theorem unwrap_written (h : ∀ s ∈ segments, Plain s) :
    unwrap (written segments) = written segments := by
  refine List.filter_eq_self.mpr fun c hc => ?_
  obtain ⟨s, hs, hmem⟩ := List.mem_flatMap.mp hc
  rcases List.mem_cons.mp hmem with rfl | hmem
  · decide
  · simp [((h s hs).kept c hmem).not_lineBreak]

/-- A written path comes apart into its segments, and what follows it into its own pieces. -/
theorem pieces_written (h : ∀ s ∈ segments, Plain s) (tail : List Char) :
    pieces .wellKnown (written segments ++ '/' :: tail) =
      segments.map String.toList ++ Text.splitOn (isSlash .wellKnown) tail := by
  have hsplit : ∀ (list : List String) (s : String), (∀ x ∈ s :: list, Plain x) →
      Text.splitOn (isSlash .wellKnown) (s.toList ++ (written list ++ '/' :: tail)) =
        (s :: list).map String.toList ++ Text.splitOn (isSlash .wellKnown) tail := by
    intro list
    induction list with
    | nil =>
      intro s hs
      exact Text.splitOn_append (hs s (by simp)).noSlash (by decide)
    | cons t list ih =>
      intro s hs
      have htail := ih t fun x hx => hs x (List.mem_cons_of_mem _ hx)
      have hwritten : written (t :: list) ++ '/' :: tail =
          '/' :: (t.toList ++ (written list ++ '/' :: tail)) := by simp [written]
      rw [hwritten, Text.splitOn_append (hs s (by simp)).noSlash (by decide), htail]
      rfl
  cases segments with
  | nil => rfl
  | cons s list =>
    have hwritten : written (s :: list) ++ '/' :: tail =
        '/' :: (s.toList ++ (written list ++ '/' :: tail)) := by simp [written]
    rw [hwritten]
    exact hsplit list s h

/-- A plain segment is pushed as it is. -/
theorem stepPiece_of_plain (h : Plain s) :
    stepPiece .wellKnown .path stack s.toList = s :: stack := by
  have hcoded := percentEncode_of_keeps h.kept
  unfold stepPiece
  simp only [hcoded, h.notDotDot, h.notDot, Bool.false_eq_true, if_false]
  simp [toSegment]

/-- Walking a written path stacks its segments. -/
theorem walk_written (h : ∀ s ∈ segments, Plain s) {ps : List (List Char)} (hps : ps ≠ []) :
    walk .wellKnown .path stack (segments.map String.toList ++ ps) =
      walk .wellKnown .path (segments.reverse ++ stack) ps := by
  induction segments generalizing stack with
  | nil => rfl
  | cons s rest ih =>
    have hrest : walk .wellKnown .path (s :: stack) (rest.map String.toList ++ ps) =
        walk .wellKnown .path (rest.reverse ++ s :: stack) ps :=
      ih fun x hx => h x (List.mem_cons_of_mem _ hx)
    obtain ⟨next, more, hnext⟩ : ∃ next more, rest.map String.toList ++ ps = next :: more :=
      List.exists_cons_of_ne_nil (by simp [hps])
    rw [List.map_cons, List.cons_append, hnext, walk, stepPiece_of_plain (h s (by simp)),
      ← hnext, hrest]
    simp

/-- Where a text that has no slash ends, is where the text it begins ends. -/
theorem prefix_of_slash {x y : List Char} (hx : '/' ∉ x) (hy : '/' ∉ y) {t u : List Char}
    (hu : u = [] ∨ ∃ v, u = '/' :: v) : x ++ '/' :: t <+: y ++ u ↔ x = y ∧ '/' :: t <+: u := by
  induction x generalizing y with
  | nil =>
    cases y with
    | nil => simp
    | cons d y =>
      have hd : '/' ≠ d := fun heq => hy (List.mem_cons.mpr (Or.inl heq))
      simp [List.cons_prefix_cons, hd]
  | cons c x ih =>
    cases y with
    | nil =>
      have hc : c ≠ '/' := fun heq => hx (by simp [heq])
      rcases hu with rfl | ⟨v, rfl⟩
      · simp
      · simp [List.cons_prefix_cons, hc]
    | cons d y =>
      have htail := ih (y := y) (fun h => hx (List.mem_cons_of_mem _ h))
        fun h => hy (List.mem_cons_of_mem _ h)
      simp only [List.cons_append, List.cons_prefix_cons, htail, List.cons.injEq, and_assoc]

/-- One written path goes on below another exactly if it has its segments, and more. -/
theorem written_prefix (ha : ∀ s ∈ a, Plain s) (hb : ∀ s ∈ b, Plain s) :
    written a ++ ['/'] <+: written b ↔ ∃ more, more ≠ [] ∧ b = a ++ more := by
  induction a generalizing b with
  | nil =>
    cases b with
    | nil => simp [written]
    | cons t b => simp [written, List.cons_prefix_cons]
  | cons s a ih =>
    cases b with
    | nil => simp [written]
    | cons t b =>
      have hrest := ih (fun x hx => ha x (List.mem_cons_of_mem _ hx))
        (b := b) fun x hx => hb x (List.mem_cons_of_mem _ hx)
      have hfirst : ∀ list : List String, written list ++ ['/'] = '/' :: (written list ++ ['/']).tail := by
        intro list
        cases list <;> simp [written]
      have hsecond : written b = [] ∨ ∃ v, written b = '/' :: v := by
        cases b with
        | nil => exact Or.inl rfl
        | cons x b => exact Or.inr ⟨_, rfl⟩
      have hs : '/' ∉ s.toList := fun hmem => (ha s (by simp)).ne_slash _ hmem rfl
      have ht : '/' ∉ t.toList := fun hmem => (hb t (by simp)).ne_slash _ hmem rfl
      have hcons : ∀ (x : String) (list : List String),
          written (x :: list) = '/' :: (x.toList ++ written list) := by
        intro x list
        rfl
      rw [hcons, hcons, List.cons_append, List.cons_prefix_cons, List.append_assoc, hfirst a,
        prefix_of_slash hs ht hsecond, ← hfirst a, hrest]
      constructor
      · intro h
        obtain ⟨-, heq, more, hmore, hb'⟩ := h
        exact ⟨more, hmore, by rw [String.toList_inj.mp heq, hb', List.cons_append]⟩
      · intro h
        obtain ⟨more, hmore, hb'⟩ := h
        rw [List.cons_append, List.cons.injEq] at hb'
        exact ⟨rfl, by rw [hb'.1], more, hmore, hb'.2⟩

end ModelGateway.Url
