/-
What a call keeps of its base, and where its own text goes.

A call is the base with another path and another query, so scheme, authority and fragment
cannot but stay.  What the caller wrote ends up in the path or the query and is encoded for it,
and what is encoded for a part holds nothing that ends the part.  Behind the base path it is
read segment by segment, and a segment that is spelled as paths spell them, and that does not
mean a dot or two, stays letter for letter as it is.
-/
import ModelGateway.Proofs.Endpoint.CallUrl
import ModelGateway.Proofs.Url.Authority
import ModelGateway.Proofs.Url.Decode

namespace ModelGateway.Url

variable {cs : List Char} {segments : List String}

/-! ### Segments that stay as they are -/

/-- Characters that have no meaning of their own anywhere in an address. -/
def isUnreserved (c : Char) : Bool := c.isAlphanum || ['-', '.', '_', '~'].contains c

/-- Unreserved characters and encoded bytes. -/
inductive IsSpelled : List Char → Prop
  | nil : IsSpelled []
  | unreserved {c : Char} {cs : List Char} (hc : isUnreserved c = true) (h : IsSpelled cs) :
      IsSpelled (c :: cs)
  | encoded {a b : Char} {cs : List Char} (ha : (Text.hexValue? a).isSome = true)
      (hb : (Text.hexValue? b).isSome = true) (h : IsSpelled cs) : IsSpelled ('%' :: a :: b :: cs)

/-- A segment that is spelled as segments are and does not mean a dot or two. -/
structure IsName (segment : List Char) : Prop where
  spelled : IsSpelled segment
  notDot : percentDecode segment ≠ [0x2E]
  notDotDot : percentDecode segment ≠ [0x2E, 0x2E]

theorem isUnreserved_lt {c : Char} (h : isUnreserved c = true) : c.toNat < 0x80 := by
  have hbelow : ∀ {last : UInt32}, c.val ≤ last → last.toNat < 0x80 → c.toNat < 0x80 :=
    fun hle hlast => (UInt32.le_iff_toNat_le.mp hle).trans_lt hlast
  rcases (Bool.or_eq_true _ _).mp h with hname | hmark
  · rcases (Bool.or_eq_true (c.isUpper || c.isLower) c.isDigit).mp hname with hletter | hdigit
    · rcases (Bool.or_eq_true _ _).mp hletter with hupper | hlower
      · have hrange : c.val ≥ 'A'.val ∧ c.val ≤ 'Z'.val := of_decide_eq_true hupper
        exact hbelow hrange.2 (by decide)
      · have hlast : c.val ≤ 'z'.val := of_decide_eq_true (Bool.and_eq_true_iff.mp hlower).2
        exact hbelow hlast (by decide)
    · have hlast : c.val ≤ '9'.val := of_decide_eq_true (Bool.and_eq_true_iff.mp hdigit).2
      exact hbelow hlast (by decide)
  · have hall : ['-', '.', '_', '~'].all (fun d => decide (d.toNat < 0x80)) = true := by decide
    exact of_decide_eq_true (List.all_eq_true.mp hall c (List.contains_iff_mem.mp hmark))

theorem isUnreserved_keeps {c : Char} (h : isUnreserved c = true) :
    Keeps .path c ∧ isSlash .wellKnown c = false := by
  have hall : ∀ n < 0x80, isUnreserved (Char.ofNat n) = true →
      EncodeSet.path (Char.ofNat n) = false ∧ isSlash .wellKnown (Char.ofNat n) = false := by decide
  have hlt := isUnreserved_lt h
  rw [← Char.ofNat_toNat c] at h
  have hkept := hall c.toNat hlt h
  rw [Char.ofNat_toNat] at hkept
  exact ⟨⟨hlt, hkept.1⟩, hkept.2⟩

theorem isUnreserved_of_hex {c : Char} (h : (Text.hexValue? c).isSome = true) :
    isUnreserved c = true := by
  have hall : "0123456789abcdefABCDEF".toList.all isUnreserved = true := by decide
  exact List.all_eq_true.mp hall c (hex_mem h)

theorem IsSpelled.keeps (h : IsSpelled cs) :
    ∀ c ∈ cs, Keeps .path c ∧ isSlash .wellKnown c = false := by
  have hsign : Keeps .path '%' ∧ isSlash .wellKnown '%' = false := by
    simp only [Keeps]
    decide
  induction h with
  | nil => simp
  | unreserved hc _ ih => exact List.forall_mem_cons.mpr ⟨isUnreserved_keeps hc, ih⟩
  | encoded ha hb _ ih =>
    refine List.forall_mem_cons.mpr ⟨hsign, List.forall_mem_cons.mpr ⟨?_, ?_⟩⟩
    · exact isUnreserved_keeps (isUnreserved_of_hex ha)
    · exact List.forall_mem_cons.mpr ⟨isUnreserved_keeps (isUnreserved_of_hex hb), ih⟩

theorem isSpelled_of_unreserved (h : cs.all isUnreserved = true) : IsSpelled cs := by
  induction cs with
  | nil => exact .nil
  | cons c cs ih =>
    rw [List.all_cons, Bool.and_eq_true] at h
    exact .unreserved h.1 (ih h.2)

theorem IsName.plain (h : IsName cs) : Plain (String.ofList cs) where
  kept := by
    rw [String.toList_ofList]
    exact fun c hc => (h.spelled.keeps c hc).1
  noSlash := by
    rw [String.toList_ofList]
    exact fun c hc => (h.spelled.keeps c hc).2
  notDot := by
    rw [String.toList_ofList, Bool.eq_false_iff]
    exact fun hdot => h.notDot (percentDecode_of_isDot hdot)
  notDotDot := by
    rw [String.toList_ofList, Bool.eq_false_iff]
    exact fun hdotdot => h.notDotDot (percentDecode_of_isDotDot hdotdot)

/-- A path of plain segments is read as it was written. -/
theorem segmentsOf_written (h : ∀ s ∈ segments, Plain s) (hne : segments ≠ []) :
    segmentsOf .wellKnown (written segments) = segments := by
  obtain ⟨front, s, rfl⟩ := (List.eq_nil_or_concat segments).resolve_left hne
  rw [List.concat_eq_append] at h ⊢
  have hfront : ∀ x ∈ front, Plain x := fun x hx => h x (by simp [hx])
  have hs : Plain s := h s (by simp)
  have hlast : written [s] = '/' :: s.toList := by simp [written]
  have hcoded := percentEncode_of_keeps hs.kept
  rw [segmentsOf, if_neg (by decide), walked, written_append, hlast, pieces_written hfront,
    Text.splitOn_of_none hs.noSlash, walk_written hfront (by simp), walk, lastPiece]
  simp [hcoded, hs.notDot, hs.notDotDot, toSegment]

/-- The segments of a text below a path; no text at all is an empty segment. -/
def segmentsBelow : List (List Char) → List String
  | [] => [""]
  | names => names.map String.ofList

theorem segmentsBelow_plain {names : List (List Char)} (h : ∀ name ∈ names, IsName name) :
    ∀ s ∈ segmentsBelow names, Plain s := by
  intro s hs
  cases names with
  | nil =>
    rw [List.mem_singleton.mp hs]
    exact plain_empty
  | cons name rest =>
    obtain ⟨cs, hcs, rfl⟩ := List.mem_map.mp hs
    exact (h cs hcs).plain

theorem written_segmentsBelow (names : List (List Char)) :
    written (segmentsBelow names) = '/' :: ['/'].intercalate names := by
  have hnames : ∀ name rest, written ((name :: rest).map String.ofList) =
      '/' :: ['/'].intercalate (name :: rest) := by
    intro name rest
    induction rest generalizing name with
    | nil => simp [written]
    | cons next rest ih =>
      have hcons : written ((name :: next :: rest).map String.ofList) =
          '/' :: (name ++ written ((next :: rest).map String.ofList)) := by
        simp [written]
      rw [hcons, ih, List.intercalate_cons_cons, List.append_assoc, List.singleton_append]
  cases names with
  | nil => rfl
  | cons name rest => exact hnames name rest

/-! ### Parts that are left alone -/

@[simp] theorem fragment_withPath (u : Url) (text : String) :
    (u.withPath text).fragment = u.fragment := by
  unfold withPath
  split <;> rfl

@[simp] theorem fragment_withQuery (u : Url) (query : Option String) :
    (u.withQuery query).fragment = u.fragment := by
  cases query <;> rfl

@[simp] theorem scheme_withQuery (u : Url) (query : Option String) :
    (u.withQuery query).scheme = u.scheme := by
  cases query <;> rfl

/-! ### What ends a part -/

/-- A written path holds nothing but slashes that a path would encode. -/
theorem not_mem_written (h : ∀ s ∈ segments, Plain s) {c : Char} (hc : EncodeSet.path c = true)
    (hslash : c ≠ '/') : c ∉ written segments := by
  intro hmem
  obtain ⟨s, hs, hmem⟩ := List.mem_flatMap.mp hmem
  obtain ⟨-, hkept⟩ := (h s hs).kept c ((List.mem_cons.mp hmem).resolve_left hslash)
  rw [hc] at hkept
  cases hkept

/-- An encoded query holds nothing that ends a query. -/
theorem not_mem_query : '#' ∉ percentEncode .specialQuery cs := by
  intro hc
  rcases mem_percentEncode hc with ⟨-, -, hset⟩ | hescape
  · cases hset
  · exact absurd hescape (by decide)

end ModelGateway.Url

namespace ModelGateway.Endpoint

open Url

variable {e : Endpoint}

theorem callUrl_segments (hmade : e.baseUrl.Made) (hkind : e.baseUrl.kind = .wellKnown)
    (rest : String) (query : Option String) :
    ∃ list, (e.callUrl rest query).path = .segments list ∧ list ≠ [] ∧ ∀ s ∈ list, Plain s := by
  obtain ⟨list, hpath, hne, hplain⟩ :=
    (hmade.withPath (pathBelow e.baseUrl.path.write rest)).segments
      ((kind_withPath _ _).trans hkind)
  exact ⟨list, path_withQuery hpath query, hne, hplain⟩

/-- Names stay as they are behind the base. -/
theorem callUrl_names (hmade : e.baseUrl.Made) (hkind : e.baseUrl.kind = .wellKnown)
    {rest : String} {names : List (List Char)} (hnames : ∀ name ∈ names, IsName name)
    (hrest : rest.toList.dropWhile (· == '/') = ['/'].intercalate names) (query : Option String) :
    (e.callUrl rest query).path.write.toList =
      Text.dropEndWhile (· == '/') e.baseUrl.path.write.toList ++
        '/' :: rest.toList.dropWhile (· == '/') := by
  obtain ⟨list, hpath, -, hplain⟩ := hmade.segments hkind
  have hbelow : (pathBelow e.baseUrl.path.write rest).toList =
      written (Text.dropEndWhile (· == "") list ++ segmentsBelow names) := by
    rw [pathBelow, String.toList_ofList, hpath, toList_write, dropEndWhile_written hplain, hrest,
      written_append, written_segmentsBelow]
  have hall : ∀ s ∈ Text.dropEndWhile (· == "") list ++ segmentsBelow names, Plain s := by
    intro s hs
    rcases List.mem_append.mp hs with hs | hs
    · exact dropEnd_plain hplain s hs
    · exact segmentsBelow_plain hnames s hs
  have hne : Text.dropEndWhile (· == "") list ++ segmentsBelow names ≠ [] := by
    cases names <;> simp [segmentsBelow]
  have hset : (e.baseUrl.withPath (pathBelow e.baseUrl.path.write rest)).path =
      .segments (Text.dropEndWhile (· == "") list ++ segmentsBelow names) := by
    unfold withPath
    rw [hpath]
    simp only [hkind]
    rw [← hpath, hbelow, unwrap_written hall, segmentsOf_written hall hne]
  rw [callUrl, path_withQuery hset, hpath, toList_write, toList_write, written_append,
    dropEndWhile_written hplain, written_segmentsBelow, hrest]

/-- **What a call keeps of its base.**  Scheme, user info, host, port and fragment are those of the
base, whatever the caller wrote.  There is a query only if one is given, and it is the given one,
encoded where it has to be and with nothing in it that ends a query; the path holds nothing that
ends a path.  Behind the base path, without the slashes at its end, and one slash, names stay
letter for letter as they are.  Models are listed at one of these addresses. -/
theorem callUrl_keeps_base (e : Endpoint) (hmade : e.baseUrl.Made)
    (hscheme : e.baseUrl.scheme = "http" ∨ e.baseUrl.scheme = "https") (rest : String)
    (query : Option String) :
    let call := e.callUrl rest query
    let base := Text.dropEndWhile (· == '/') e.baseUrl.path.write.toList
    let below := rest.toList.dropWhile (· == '/')
    (call.scheme = e.baseUrl.scheme ∧ call.authority = e.baseUrl.authority ∧
        call.fragment = e.baseUrl.fragment) ∧
      (query = none → call.query = none) ∧
      (∀ given, query = some given → (∀ c ∈ given.toList, isLineBreak c = false) →
        ∃ kept, call.query = some kept ∧ kept.toList = percentEncode .specialQuery given.toList ∧
          percentDecode kept.toList = percentDecode given.toList ∧ '#' ∉ kept.toList) ∧
      ('?' ∉ call.path.write.toList ∧ '#' ∉ call.path.write.toList ∧
        ∃ path, call.path.write.toList = '/' :: path) ∧
      (∀ names, (∀ name ∈ names, IsName name) → below = ['/'].intercalate names →
        call.path.write.toList = base ++ '/' :: below) ∧
      e.listingUrl = e.callUrl "models" none ∧
      e.listingUrl.path.write.toList = base ++ "/models".toList := by
  have hkind := kind_of_http hscheme
  intro call base below
  have hfragment : call.fragment = e.baseUrl.fragment := by
    show ((e.baseUrl.withPath _).withQuery query).fragment = _
    rw [fragment_withQuery, fragment_withPath]
  have hquery : ∀ given, query = some given → (∀ c ∈ given.toList, isLineBreak c = false) →
      ∃ kept, call.query = some kept ∧ kept.toList = percentEncode .specialQuery given.toList ∧
        percentDecode kept.toList = percentDecode given.toList ∧ '#' ∉ kept.toList := by
    intro given hgiven hflat
    refine ⟨String.ofList (percentEncode .specialQuery given.toList), ?_, ?_, ?_, ?_⟩
    · show ((e.baseUrl.withPath _).withQuery query).query = _
      rw [hgiven, withQuery, kind_withPath, hkind, unwrap_of_flat hflat]
      rfl
    · rw [String.toList_ofList]
    · rw [String.toList_ofList, percentDecode_percentEncode specialQuery_keepsCodes]
    · rw [String.toList_ofList]
      exact not_mem_query
  have hpath : '?' ∉ call.path.write.toList ∧ '#' ∉ call.path.write.toList ∧
      ∃ path, call.path.write.toList = '/' :: path := by
    obtain ⟨list, hlist, hne, hplain⟩ := callUrl_segments hmade hkind rest query
    rw [hlist, toList_write]
    refine ⟨not_mem_written hplain (by decide) (by decide),
      not_mem_written hplain (by decide) (by decide), ?_⟩
    obtain ⟨s, more, rfl⟩ := List.exists_cons_of_ne_nil hne
    exact ⟨_, rfl⟩
  have hlisting : e.listingUrl = e.callUrl "models" none := by
    have hslash : pathBelow e.baseUrl.path.write "/models" =
        pathBelow e.baseUrl.path.write "models" := rfl
    rw [listingUrl, callUrl, hslash, ← callUrl]
  refine ⟨⟨?_, ?_, hfragment⟩, ?_, hquery, hpath, ?_, hlisting, ?_⟩
  · show ((e.baseUrl.withPath _).withQuery query).scheme = _
    rw [scheme_withQuery, scheme_withPath]
  · show ((e.baseUrl.withPath _).withQuery query).authority = _
    rw [authority_withQuery, authority_withPath]
  · rintro rfl
    rfl
  · intro names hnames hbelow
    exact callUrl_names hmade hkind hnames hbelow query
  · have hname : ∀ name ∈ ["models".toList], IsName name := by
      intro name hmem
      rw [List.mem_singleton.mp hmem]
      exact ⟨isSpelled_of_unreserved (by decide), by decide, by decide⟩
    rw [hlisting, callUrl_names hmade hkind hname (by decide) none]
    rfl

/-- A slash that is data, and a blank and a hash in the query. -/
theorem callUrl_keeps_base_of_encoded :
    let base : Url := ⟨"https", some ⟨"u", "p", .name "b", some 8443⟩, .segments ["api", "v1", ""],
      some "old", some "f"⟩
    let e : Endpoint := ⟨.ofStatic 0, base, "key", .ofList ["m"], .settings⟩
    base.Made ∧ (e.callUrl "//a%2Fb/c~d" (some "q=x y#z")).authority = base.authority ∧
      (e.callUrl "//a%2Fb/c~d" (some "q=x y#z")).path.write.toList = "/api/v1/a%2Fb/c~d".toList ∧
      (e.callUrl "//a%2Fb/c~d" (some "q=x y#z")).query = some "q=x%20y%23z" := by
  intro base e
  have hparse : parse "https://u:p@b:8443/api/v1/?old#f" = .ok base := by decide +kernel
  have hmade : base.Made := .read hparse
  obtain ⟨⟨-, hauthority, -⟩, -, hquery, -, hnames, -⟩ := callUrl_keeps_base e hmade (Or.inr rfl)
    "//a%2Fb/c~d" (some "q=x y#z")
  obtain ⟨kept, hkept, htext, -⟩ := hquery _ rfl (flat_of_all (by decide))
  have hencoded : IsName "a%2Fb".toList :=
    ⟨.unreserved (by decide) (.encoded (by decide) (by decide)
      (isSpelled_of_unreserved (by decide))), by decide, by decide⟩
  have hplain : IsName "c~d".toList :=
    ⟨isSpelled_of_unreserved (by decide), by decide, by decide⟩
  have hall : ∀ name ∈ ["a%2Fb".toList, "c~d".toList], IsName name :=
    List.forall_mem_cons.mpr ⟨hencoded, List.forall_mem_singleton.mpr hplain⟩
  have hpath := hnames ["a%2Fb".toList, "c~d".toList] hall (by decide)
  refine ⟨hmade, hauthority, ?_, ?_⟩
  · rw [hpath]
    decide +kernel
  · rw [hkept, String.toList_inj.mp (htext.trans (by decide : _ = "q=x%20y%23z".toList))]

end ModelGateway.Endpoint
