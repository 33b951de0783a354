/-
Where a call goes that is made below a base.

What a caller writes behind the API base is walked piece by piece after the base, so a
piece that spells `..` can take back a segment of the base itself.  `Trail` follows the
pieces on their own: how often they climb above where they began, and which segments
they leave there in the end.  Laid on the segments of a base it gives the path of the
call, and so says exactly when that path is below the base: if the trail never climbs
above its beginning, or spells out again every segment that it took back.
-/
import ModelGateway.Endpoint.Basic
import ModelGateway.Proofs.Url.Path

namespace ModelGateway.Url

/-! ### Following pieces on their own -/

/-- Where pieces lead from where they began. -/
structure Trail where
  /-- How often they climb above it. -/
  ups : Nat := 0
  /-- The segments they leave there, innermost first. -/
  below : List String := []

/-- Climb so often. -/
def climbs : Nat → List String → List String
  | 0, stack => stack
  | n + 1, stack => climb (climbs n stack)

namespace Trail

/-- The trail with one more piece, in encoded form. -/
def step (t : Trail) (coded : List Char) : Trail :=
  if isDotDot coded then
    if t.below = [] then { t with ups := t.ups + 1 } else { t with below := climb t.below }
  else if isDot coded then t
  else { t with below := String.ofList coded :: t.below }

/-- The trail with the last piece; a dot leaves an empty segment behind. -/
def last (t : Trail) (coded : List Char) : Trail :=
  if isDotDot coded || isDot coded then
    { t.step coded with below := "" :: (t.step coded).below }
  else t.step coded

/-- The trail of pieces. -/
def follow (t : Trail) : List (List Char) → Trail
  | [] => t
  | [piece] => t.last (percentEncode .path piece)
  | piece :: next :: more => (t.step (percentEncode .path piece)).follow (next :: more)

/-- The stack that a trail leaves of the one it is laid on. -/
def onto (t : Trail) (stack : List String) : List String := t.below ++ climbs t.ups stack

variable {t : Trail} {stack : List String} {piece : List Char}

theorem climb_append {a b : List String} (h : a ≠ []) : climb (a ++ b) = climb a ++ b := by
  cases a with
  | nil => exact absurd rfl h
  | cons s a =>
    rw [List.cons_append, climb, climb]
    split <;> rfl

theorem climb_onto (h : isDotDot piece = true) : climb (t.onto stack) = (t.step piece).onto stack := by
  unfold onto step
  rw [if_pos h]
  by_cases hbelow : t.below = []
  · rw [if_pos hbelow, hbelow]
    rfl
  · rw [if_neg hbelow, climb_append hbelow]

theorem stepPiece_onto :
    stepPiece .wellKnown .path (t.onto stack) piece =
      (t.step (percentEncode .path piece)).onto stack := by
  unfold stepPiece
  simp only
  by_cases hdotdot : isDotDot (percentEncode .path piece) = true
  · rw [if_pos hdotdot, climb_onto hdotdot]
  · rw [if_neg hdotdot, step, if_neg hdotdot]
    by_cases hdot : isDot (percentEncode .path piece) = true
    · rw [if_pos hdot, if_pos hdot]
    · rw [if_neg hdot, if_neg hdot]
      rfl

theorem lastPiece_onto :
    lastPiece .wellKnown .path (t.onto stack) piece =
      (t.last (percentEncode .path piece)).onto stack := by
  unfold lastPiece last
  simp only
  by_cases hdotdot : isDotDot (percentEncode .path piece) = true
  · rw [if_pos hdotdot, climb_onto hdotdot, if_pos (by simp [hdotdot])]
    rfl
  · rw [if_neg hdotdot]
    by_cases hdot : isDot (percentEncode .path piece) = true
    · rw [if_pos hdot, if_pos (by simp [hdot]), step, if_neg hdotdot, if_pos hdot]
      rfl
    · rw [if_neg hdot, if_neg (by simp [hdot, hdotdot]), step, if_neg hdotdot, if_neg hdot]
      rfl

/-- Walking pieces lays their trail on the stack. -/
theorem walk_onto (ps : List (List Char)) :
    walk .wellKnown .path (t.onto stack) ps = (t.follow ps).onto stack := by
  induction ps generalizing t with
  | nil => rfl
  | cons piece rest ih =>
    cases rest with
    | nil => exact lastPiece_onto
    | cons next rest => rw [walk, stepPiece_onto, ih, follow]

theorem follow_below_ne_nil {ps : List (List Char)} (h : ps ≠ []) : (t.follow ps).below ≠ [] := by
  induction ps generalizing t with
  | nil => exact absurd rfl h
  | cons piece rest ih =>
    cases rest with
    | cons next rest => exact ih (by simp)
    | nil =>
      show (t.last (percentEncode .path piece)).below ≠ []
      unfold last
      by_cases hdots : (isDotDot (percentEncode .path piece) ||
          isDot (percentEncode .path piece)) = true
      · rw [if_pos hdots]
        simp
      · rw [if_neg hdots]
        simp only [Bool.or_eq_true, not_or] at hdots
        rw [step, if_neg hdots.1, if_neg hdots.2]
        simp

/-- The trail of what a caller writes behind the API base. -/
def ofRest (rest : String) : Trail :=
  follow {} (Text.splitOn (isSlash .wellKnown) (unwrap (rest.toList.dropWhile (· == '/'))))

end Trail

/-! ### Below a base -/

/-- The segments of a base, without the empty ones that slashes at its end leave. -/
def baseSegments (u : Url) : List String :=
  match u.path with
  | .segments list => Text.dropEndWhile (· == "") list
  | .verbatim _ => []

/-- The segments of a base that climbing so often takes back. -/
def lost (base : List String) (ups : Nat) : List String :=
  base.drop (climbs ups base.reverse).length

/-- A trail stays below a base: it leaves again what it took back of it, and something more. -/
def Trail.Stays (t : Trail) (base : List String) : Prop :=
  ∃ more, more ≠ [] ∧ t.below.reverse = lost base t.ups ++ more

theorem climbs_suffix (n : Nat) (stack : List String) : ∃ gone, stack = gone ++ climbs n stack := by
  induction n with
  | zero => exact ⟨[], rfl⟩
  | succ n ih =>
    obtain ⟨gone, hgone⟩ := ih
    unfold climbs
    cases hrest : climbs n stack with
    | nil => exact ⟨gone, by rw [hgone, hrest]; rfl⟩
    | cons s below =>
      rw [climb]
      split
      · exact ⟨gone, by rw [hgone, hrest]⟩
      · exact ⟨gone ++ [s], by rw [hgone, hrest]; simp⟩

/-- Climbing keeps the front of a base. -/
theorem climbs_reverse (n : Nat) (base : List String) :
    (climbs n base.reverse).reverse = base.take (climbs n base.reverse).length := by
  obtain ⟨gone, hgone⟩ := climbs_suffix n base.reverse
  have hbase : base = (climbs n base.reverse).reverse ++ gone.reverse := by
    rw [← List.reverse_append, ← hgone, List.reverse_reverse]
  have htake := congrArg (List.take (climbs n base.reverse).length) hbase
  rw [htake, List.take_append_of_le_length (by simp), List.take_of_length_le (by simp)]

/-- A trail that never climbs above where it began stays below any base. -/
theorem Trail.stays_of_ups {t : Trail} (base : List String) (hups : t.ups = 0)
    (hbelow : t.below ≠ []) : t.Stays base := by
  refine ⟨t.below.reverse, by simpa using hbelow, ?_⟩
  have hlost : lost base 0 = [] := by simp [lost, climbs]
  rw [hups, hlost, List.nil_append]

/-- Laid on a base, a trail ends below it exactly if it stays. -/
theorem Trail.onto_below_iff {t : Trail} {base : List String} :
    (∃ more, more ≠ [] ∧ (t.onto base.reverse).reverse = base ++ more) ↔ t.Stays base := by
  have hsplit : base.take (climbs t.ups base.reverse).length ++ lost base t.ups = base :=
    List.take_append_drop _ _
  have honto : (t.onto base.reverse).reverse =
      base.take (climbs t.ups base.reverse).length ++ t.below.reverse := by
    rw [onto, List.reverse_append, climbs_reverse]
  unfold Stays
  constructor
  · intro h
    obtain ⟨more, hmore, heq⟩ := h
    have hsame : base.take (climbs t.ups base.reverse).length ++ t.below.reverse =
        base.take (climbs t.ups base.reverse).length ++ (lost base t.ups ++ more) := by
      rw [← honto, heq, ← List.append_assoc, hsplit]
    exact ⟨more, hmore, List.append_cancel_left hsame⟩
  · intro h
    obtain ⟨more, hmore, heq⟩ := h
    refine ⟨more, hmore, ?_⟩
    rw [honto, heq, ← List.append_assoc, hsplit]

end ModelGateway.Url

namespace ModelGateway.Endpoint

open Url

variable {e : Endpoint}

theorem dropEnd_plain {list : List String} (h : ∀ s ∈ list, Plain s) :
    ∀ s ∈ Text.dropEndWhile (· == "") list, Plain s := by
  intro s hs
  have hmem := (List.dropWhile_sublist _).mem (List.mem_reverse.mp hs)
  exact h s (List.mem_reverse.mp hmem)

theorem path_withQuery {u : Url} {list : List String} (h : u.path = .segments list)
    (query : Option String) : (u.withQuery query).path = .segments list := by
  unfold withQuery
  cases query with
  | some q => exact h
  | none =>
    simp only [h, Path.dropEndBlanks]
    split <;> rfl

/-- The path of a call is the trail of what the caller wrote, laid on the base. -/
theorem callUrl_path (hmade : e.baseUrl.Made) (hkind : e.baseUrl.kind = .wellKnown) (rest : String)
    (query : Option String) :
    (e.callUrl rest query).path =
      .segments ((Trail.ofRest rest).onto e.baseUrl.baseSegments.reverse).reverse := by
  obtain ⟨list, hpath, -, hplain⟩ := hmade.segments hkind
  have hbase : e.baseUrl.baseSegments = Text.dropEndWhile (· == "") list := by
    rw [baseSegments, hpath]
  have hbelow : (pathBelow e.baseUrl.path.write rest).toList =
      written e.baseUrl.baseSegments ++ '/' :: rest.toList.dropWhile (· == '/') := by
    rw [pathBelow, String.toList_ofList, hpath, toList_write, dropEndWhile_written hplain, hbase]
  have hbaseplain := hbase ▸ dropEnd_plain hplain
  have hunwrap : unwrap (pathBelow e.baseUrl.path.write rest).toList =
      written e.baseUrl.baseSegments ++ '/' :: unwrap (rest.toList.dropWhile (· == '/')) := by
    rw [hbelow, unwrap, List.filter_append, ← unwrap, unwrap_written hbaseplain]
    rfl
  have hset : (e.baseUrl.withPath (pathBelow e.baseUrl.path.write rest)).path =
      .segments ((Trail.ofRest rest).onto e.baseUrl.baseSegments.reverse).reverse := by
    have hstart : ({} : Trail).onto e.baseUrl.baseSegments.reverse =
        e.baseUrl.baseSegments.reverse := rfl
    unfold withPath
    rw [hpath]
    simp only [hkind]
    rw [← hpath, segmentsOf, if_neg (by decide), walked, hunwrap, pieces_written hbaseplain,
      walk_written hbaseplain (Text.splitOn_ne_nil _ _), List.append_nil, ← hstart,
      Trail.walk_onto]
    rfl
  rw [callUrl, path_withQuery hset]

/-- **Which calls stay below the base.**  The path of a call begins with the base path and a slash
exactly if what the caller wrote stays below the base; in particular if it never climbs above
where it began. -/
theorem callUrl_below_base_iff (e : Endpoint) (hmade : e.baseUrl.Made)
    (hscheme : e.baseUrl.scheme = "http" ∨ e.baseUrl.scheme = "https") (rest : String)
    (query : Option String) :
    let base := Text.dropEndWhile (· == '/') e.baseUrl.path.write.toList ++ ['/']
    (base <+: (e.callUrl rest query).path.write.toList ↔
        (Trail.ofRest rest).Stays e.baseUrl.baseSegments) ∧
      ((Trail.ofRest rest).ups = 0 → base <+: (e.callUrl rest query).path.write.toList) := by
  have hkind : e.baseUrl.kind = .wellKnown := by
    rcases hscheme with hs | hs
    · rw [Url.kind, hs]
      decide
    · rw [Url.kind, hs]
      decide
  obtain ⟨list, hpath, -, hplain⟩ := hmade.segments hkind
  have hsegments : e.baseUrl.baseSegments = Text.dropEndWhile (· == "") list := by
    rw [baseSegments, hpath]
  have hbaseplain := hsegments ▸ dropEnd_plain hplain
  have hcallplain : ∀ s ∈ ((Trail.ofRest rest).onto e.baseUrl.baseSegments.reverse).reverse,
      Plain s := by
    intro s hs
    rw [List.mem_reverse, Trail.ofRest, ← Trail.walk_onto] at hs
    refine walk_plain (fun x hx => hbaseplain x (List.mem_reverse.mp hx)) ?_ s hs
    exact fun piece hpiece c hc => (Text.mem_splitOn hpiece hc).2
  have hiff : Text.dropEndWhile (· == '/') e.baseUrl.path.write.toList ++ ['/'] <+:
      (e.callUrl rest query).path.write.toList ↔
        (Trail.ofRest rest).Stays e.baseUrl.baseSegments := by
    rw [callUrl_path hmade hkind, toList_write, hpath, toList_write, dropEndWhile_written hplain,
      ← hsegments, written_prefix hbaseplain hcallplain, Trail.onto_below_iff]
  refine ⟨hiff, fun hups => hiff.mpr ?_⟩
  exact Trail.stays_of_ups _ hups (Trail.follow_below_ne_nil (Text.splitOn_ne_nil _ _))

/-- What was climbed out of and spelled again is below the base. -/
theorem callUrl_back_below_base :
    let base : Url := ⟨"https", some ⟨"", "", .name "b", none⟩, .segments ["api", "v1", ""], none, none⟩
    let e : Endpoint := ⟨.ofStatic 0, base, "key", .ofList ["m"], .settings⟩
    base.Made ∧ base.scheme = "https" ∧
      "/api/v1/".toList <+: (e.callUrl "/a/../%2E./v1/chat" none).path.write.toList := by
  intro base e
  have hparse : parse "https://b/api/v1/" = .ok base := by decide +kernel
  have hmade : base.Made := .read hparse
  have hstart : "/api/v1/".toList =
      Text.dropEndWhile (· == '/') e.baseUrl.path.write.toList ++ ['/'] := by decide +kernel
  refine ⟨hmade, rfl, ?_⟩
  rw [hstart]
  refine (callUrl_below_base_iff e hmade (Or.inr rfl) "/a/../%2E./v1/chat" none).1.mpr ?_
  exact ⟨["chat"], by decide, by decide +kernel⟩

/-- A caller can leave the base: two dots take back its last segment. -/
theorem callUrl_leaves_base :
    let base : Url := ⟨"http", some ⟨"", "", .name "b", none⟩, .segments ["v1"], none, none⟩
    let e : Endpoint := ⟨.ofStatic 0, base, "key", .ofList ["m"], .settings⟩
    parse "http://b/v1" = .ok base ∧
      (e.callUrl "/../admin" none).path.write = "/admin" ∧
      ¬ "/v1/".toList <+: (e.callUrl "/../admin" none).path.write.toList := by
  decide +kernel

end ModelGateway.Endpoint
