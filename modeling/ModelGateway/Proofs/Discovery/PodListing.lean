/-
Where pods are listed.

The namespace is a segment of the path and the selector a value in the query, and each of them
is data there: what has a meaning in a path is encoded in the one, what has a meaning in a form
in the other.  So the path has as many segments behind the server's own as are added to it, the
query as many pairs and one, and both decode to the texts that they were made from.

A server's path that ends with a slash loses the empty segment behind it.  If what is left is an
empty segment alone, the first segment that is added takes its place.
-/
import ModelGateway.Discovery.Cluster
import ModelGateway.Proofs.Url.Form

namespace ModelGateway.Url

variable {segments : List String} {text : String}

/-! ### Segments that are data -/

/-- A text as a segment of a path under a well-known scheme. -/
def asSegment (text : String) : String :=
  String.ofList (percentEncode .specialSegment text.toList)

theorem percentDecode_asSegment (text : String) :
    percentDecode (asSegment text).toList = Utf8.encode text.toList := by
  rw [asSegment, String.toList_ofList, percentDecode_data (by decide)]

/-- What a data segment holds, a path holds as it is, and it is no slash. -/
theorem keeps_of_specialSegment {c : Char} (h : Keeps .specialSegment c) :
    Keeps .path c ∧ isSlash .wellKnown c = false := by
  obtain ⟨hlow, hset⟩ := h
  simp only [EncodeSet.specialSegment, EncodeSet.segment, Bool.or_eq_false_iff] at hset
  obtain ⟨⟨hpath, hmarks⟩, hback⟩ := hset
  refine ⟨⟨hlow, hpath⟩, ?_⟩
  have hslash : (c == '/') = false := by
    rw [beq_eq_false_iff_ne]
    rintro rfl
    cases hmarks
  simp [isSlash, hslash, hback]

/-- A text that is no dot and no two dots becomes a segment that stays. -/
theorem asSegment_plain (hdot : text ≠ ".") (hdotdot : text ≠ "..") : Plain (asSegment text) := by
  have hkept : ∀ c ∈ (asSegment text).toList, Keeps .path c ∧ isSlash .wellKnown c = false := by
    intro c hc
    rw [asSegment, String.toList_ofList] at hc
    rcases mem_percentEncode hc with ⟨-, hkeep⟩ | hescape
    · exact keeps_of_specialSegment hkeep
    · exact escape_keeps c hescape
  refine ⟨fun c hc => (hkept c hc).1, fun c hc => (hkept c hc).2, ?_, ?_⟩
  · rw [Bool.eq_false_iff]
    intro h
    have hbytes := percentDecode_of_isDot h
    rw [percentDecode_asSegment] at hbytes
    exact hdot (String.toList_inj.mp (Utf8.encode_inj (b := ['.']) hbytes))
  · rw [Bool.eq_false_iff]
    intro h
    have hbytes := percentDecode_of_isDotDot h
    rw [percentDecode_asSegment] at hbytes
    exact hdotdot (String.toList_inj.mp (Utf8.encode_inj (b := ['.', '.']) hbytes))

/-- A text that can be a segment. -/
structure IsData (text : String) : Prop where
  notDot : text ≠ "."
  notDotDot : text ≠ ".."
  flat : ∀ c ∈ text.toList, isLineBreak c = false

theorem addSegment_data (h : IsData text) : addSegment .wellKnown segments text =
    (if segments = [""] then [] else segments) ++ [asSegment text] := by
  have hplain := asSegment_plain h.notDot h.notDotDot
  have hcoded : (asSegment text).toList = percentEncode .specialSegment text.toList := by
    rw [asSegment, String.toList_ofList]
  have hset : segmentSet .wellKnown = .specialSegment := rfl
  rw [addSegment, if_neg (by simp [h.notDot, h.notDotDot])]
  simp only [unwrap_of_flat h.flat, hset, lastPiece, ← hcoded, hplain.notDot, hplain.notDotDot,
    toSegment, String.ofList_toList]
  simp

/-- More segments go behind a path that has a segment. -/
theorem addSegments_data {texts : List String} (htexts : ∀ text ∈ texts, IsData text)
    (hne : segments ≠ []) (hempty : segments ≠ [""]) :
    texts.foldl (addSegment .wellKnown) segments = segments ++ texts.map asSegment := by
  induction texts generalizing segments with
  | nil => simp
  | cons text rest ih =>
    obtain ⟨htext, hrest⟩ := List.forall_mem_cons.mp htexts
    have hlong : segments ++ [asSegment text] ≠ [""] := by
      intro h
      have hlength := congrArg List.length h
      have hpos := List.length_pos_of_ne_nil hne
      rw [List.length_append, List.length_singleton, List.length_singleton] at hlength
      omega
    rw [List.foldl_cons, addSegment_data htext, if_neg hempty, ih hrest (by simp) hlong,
      List.append_assoc, List.singleton_append, List.map_cons]

/-- The segments of a path that stay in front of what is added to it. -/
def leading (segments : List String) : List String :=
  if segments = ["", ""] then []
  else if segments.getLast? = some "" then segments.dropLast
  else segments

theorem leading_eq (segments : List String) :
    (if dropEmptyEnd segments = [""] then [] else dropEmptyEnd segments) = leading segments := by
  match segments with
  | [] => rfl
  | [s] => by_cases hs : s = "" <;> simp [dropEmptyEnd, leading, hs]
  | s :: t :: rest =>
    have hlong : (s :: t :: rest).length > 1 := by simp
    by_cases hlast : (s :: t :: rest).getLast? = some ""
    · have hend : dropEmptyEnd (s :: t :: rest) = (s :: t :: rest).dropLast := if_pos ⟨hlong, hlast⟩
      rw [hend, leading, if_pos hlast]
      by_cases htwo : s :: t :: rest = ["", ""]
      · rw [if_pos htwo, htwo]
        rfl
      · -- an empty segment in front of an empty one would be the path of two slashes
        have hfront : (s :: t :: rest).dropLast ≠ [""] := by
          intro hfront
          obtain ⟨init, hinit⟩ := List.getLast?_eq_some_iff.mp hlast
          rw [hinit, List.dropLast_concat] at hfront
          rw [hinit, hfront] at htwo
          exact htwo rfl
        rw [if_neg htwo, if_neg hfront]
    · have hend : dropEmptyEnd (s :: t :: rest) = s :: t :: rest := if_neg fun h => hlast h.2
      have htwo : s :: t :: rest ≠ ["", ""] := by
        intro htwo
        rw [htwo] at hlast
        exact hlast rfl
      rw [hend, leading, if_neg htwo, if_neg hlast, if_neg (by simp)]

end ModelGateway.Url

namespace ModelGateway.Cluster

open Url

variable {c : Cluster} {space selector : String}

/-- What is listed: the pods of a namespace. -/
def podsOf (space : String) : List String := ["api", "v1", "namespaces", space, "pods"]

theorem podsOf_data (h : IsData space) : ∀ text ∈ podsOf space, IsData text := by
  have hfixed : ∀ text ∈ ["api", "v1", "namespaces", "pods"], IsData text := by
    intro text htext
    have hall : ["api", "v1", "namespaces", "pods"].all (fun text =>
        text != "." && text != ".." && text.toList.all (!isLineBreak ·)) = true := by decide
    have hone := List.all_eq_true.mp hall text htext
    simp only [Bool.and_eq_true, bne_iff_ne] at hone
    exact ⟨hone.1.1, hone.1.2, flat_of_all hone.2⟩
  intro text htext
  by_cases hspace : text = space
  · exact hspace ▸ h
  · refine hfixed text ?_
    simp only [podsOf, List.mem_cons, List.not_mem_nil, or_false] at htext ⊢
    tauto

/-- The path of a listing, behind the segments of the server. -/
theorem descend?_pods (h : IsData space) (hkind : c.server.kind = .wellKnown)
    {segments : List String} (hpath : c.server.path = .segments segments) :
    c.server.descend? (podsOf space) = some { c.server with
      path := .segments (leading segments ++ (podsOf space).map asSegment) } := by
  have hdata := podsOf_data h
  have happi : addSegment .wellKnown (dropEmptyEnd segments) "api" =
      leading segments ++ [asSegment "api"] := by
    rw [addSegment_data (hdata "api" (by simp [podsOf])), leading_eq]
  have hempty : leading segments ++ [asSegment "api"] ≠ [""] := by
    intro hone
    have hlast := congrArg List.getLast? hone
    rw [List.getLast?_concat] at hlast
    exact absurd hlast (by decide)
  have hrest := addSegments_data (fun text htext => hdata text (List.mem_cons_of_mem _ htext))
    (by simp) hempty
  unfold descend?
  rw [hpath]
  simp only [hkind]
  rw [podsOf, List.foldl_cons, happi, hrest, List.append_assoc]
  rfl

/-- **Where pods are listed.**  The listing has the scheme, the authority and the fragment of the
server; behind the server's own segments its path has five more, and they decode to the four
fixed ones and the namespace; and its query has the server's own pairs and one more, which is the
selector.  None of this depends on what is in the namespace or the selector.  Of the server's
segments an empty one at the end is not kept, nor the other one of a path of two slashes. -/
theorem podListUrl_decodes (c : Cluster) (hmade : c.server.Made)
    (hscheme : c.server.scheme = "http" ∨ c.server.scheme = "https") (space selector : String)
    (hdot : space ≠ "." ∧ space ≠ "..") (hflat : ∀ ch ∈ space.toList, isLineBreak ch = false) :
    ∃ url segments five, c.podListUrl? space selector = some url ∧
      c.server.path = .segments segments ∧
      (url.scheme = c.server.scheme ∧ url.authority = c.server.authority ∧
        url.fragment = c.server.fragment) ∧
      url.path = .segments ((if segments = ["", ""] then []
        else if segments.getLast? = some "" then segments.dropLast else segments) ++ five) ∧
      five.map (fun s => percentDecode s.toList) =
        ["api", "v1", "namespaces", space, "pods"].map (fun text => Utf8.encode text.toList) ∧
      (∀ s ∈ five, Plain s) ∧
      url.queryPairs = c.server.queryPairs ++
        [(Utf8.encode "labelSelector".toList, Utf8.encode selector.toList)] := by
  have hkind := kind_of_http hscheme
  have hspace : IsData space := ⟨hdot.1, hdot.2, hflat⟩
  obtain ⟨segments, hpath, -, -⟩ := hmade.segments hkind
  have hlisting : c.podListUrl? space selector =
      some (addPair { c.server with
        path := .segments (leading segments ++ (podsOf space).map asSegment) }
          "labelSelector" selector) := by
    have hdescend := descend?_pods hspace hkind hpath
    rw [podsOf] at hdescend
    rw [podListUrl?, hdescend]
    rfl
  refine ⟨_, segments, (podsOf space).map asSegment, hlisting, hpath, ⟨rfl, rfl, rfl⟩, rfl, ?_, ?_,
    queryPairs_addPair _ _ _⟩
  · rw [List.map_map]
    refine List.map_congr_left fun text _ => ?_
    rw [Function.comp_apply, percentDecode_asSegment]
  · intro s hs
    obtain ⟨text, htext, rfl⟩ := List.mem_map.mp hs
    have hdata := podsOf_data hspace text htext
    exact asSegment_plain hdata.notDot hdata.notDotDot

/-- A namespace and a selector that are full of marks, below a path that ends with a slash. -/
theorem podListUrl_decodes_marks :
    let server : Url := ⟨"https", some ⟨"", "", .name "k", some 6443⟩, .segments ["base", ""],
      some "x=1", none⟩
    server.Made ∧ ∃ url five, podListUrl? ⟨server, none⟩ "../a?é%2e" "app=x&y #+" = some url ∧
      url.path = .segments (["base"] ++ five) ∧
      five.map (fun s => percentDecode s.toList) =
        ["api", "v1", "namespaces", "../a?é%2e", "pods"].map (fun text => Utf8.encode text.toList) ∧
      url.queryPairs = [(Utf8.encode ['x'], Utf8.encode ['1']),
        (Utf8.encode "labelSelector".toList, Utf8.encode "app=x&y #+".toList)] := by
  intro server
  have hparse : parse "https://k:6443/base/?x=1" = .ok server := by decide +kernel
  have hmade : server.Made := .read hparse
  obtain ⟨url, segments, five, hurl, hsegments, -, hpath, hdecoded, -, hpairs⟩ :=
    podListUrl_decodes ⟨server, none⟩ hmade (Or.inr rfl) "../a?é%2e" "app=x&y #+"
      (by decide) (flat_of_all (by decide))
  obtain rfl : ["base", ""] = segments := Path.segments.inj hsegments
  have hserver : server.queryPairs = [(Utf8.encode ['x'], Utf8.encode ['1'])] := by decide +kernel
  refine ⟨hmade, url, five, hurl, hpath, hdecoded, ?_⟩
  rw [hpairs, hserver]
  rfl

/-- Of a path of two slashes no segment is kept, not even the empty one in front. -/
theorem podListUrl_drops_two :
    let server : Url := ⟨"http", some ⟨"", "", .name "h", none⟩, .segments ["", ""], none, none⟩
    parse "http://h//" = .ok server ∧
      (podListUrl? ⟨server, none⟩ "n" "a=b").map (·.render) =
        some "http://h/api/v1/namespaces/n/pods?labelSelector=a%3Db" ∧
      ∀ five : List String, five.length = 5 →
        (podListUrl? ⟨server, none⟩ "n" "a=b").map (·.path) ≠ some (.segments ([""] ++ five)) := by
  intro server
  have hpath : (podListUrl? ⟨server, none⟩ "n" "a=b").map (·.path) =
      some (.segments ["api", "v1", "namespaces", "n", "pods"]) := by decide +kernel
  refine ⟨by decide +kernel, by decide +kernel, fun five hfive h => ?_⟩
  have hsegments := Path.segments.inj (Option.some.inj (hpath.symm.trans h))
  have hlength := congrArg List.length hsegments
  simp [hfive] at hlength

end ModelGateway.Cluster
