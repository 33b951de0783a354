/-
Where a pod's annotations can send a call.

The base of a pod is put together as text and read back, so the question is whether the
parts come back as they went in.  The port is digits, the API base is behind a slash, and
the address has none of the marks that an address ends at: none of them reaches out of its
place.  The protocol is taken as it comes.  As long as it holds no colon, the base is the
pod's, save that `file` may drop the host for a drive; with a colon it can bring a host of
its own.
-/
import ModelGateway.Endpoint.Addressing
import ModelGateway.Proofs.Url.Reading

namespace ModelGateway.Addressing

open Url

variable {annotations : Annotations} {lead ip host : String} {a : Addressing} {u : Url}

/-! ### The text of a base -/

/-- An address as it is written, and the host that it is: version 6 stands in brackets. -/
inductive Literal : String → String → Prop
  | v4 (ip : Ipv4) : Literal ip.write ip.write
  | v6 (ip : Ipv6) : Literal ip.write ("[" ++ ip.write ++ "]")

/-- The host text of an address is the host that it is. -/
theorem Literal.isAddress (h : Literal ip host) :
    hostText ip = host ∧ ∃ found : Host, found.IsAddress ∧ found.write = host := by
  cases h with
  | v4 ip =>
    refine ⟨?_, _, .v4 ip, rfl⟩
    have hcolon : ip.write.toList.contains ':' = false := by
      rw [List.contains_eq_mem, decide_eq_false_iff_not]
      exact fun hmem => absurd (Ipv4.mem_write hmem) (by decide)
    rw [hostText, hcolon]
    rfl
  | v6 ip =>
    refine ⟨?_, _, .v6 ip, rfl⟩
    have hcolon : ip.write.toList.contains ':' = true := by
      rw [List.contains_eq_mem, decide_eq_true_eq]
      exact Ipv6.mem_write.2
    have hhead : ip.write.toList.head? ≠ some '[' := fun hhead =>
      absurd (Ipv6.mem_write.1 _ (List.mem_of_mem_head? hhead)) (by decide)
    rw [hostText, hcolon]
    simp [hhead]

theorem basePath_rooted (apiBase : String) : Rooted (basePath apiBase).toList := by
  unfold basePath
  rw [String.toList_ofList]
  split
  · next hplain =>
    intro c hc
    cases hcs : Text.dropEndWhile (· == '/') apiBase.toList with
    | nil => simp [hcs] at hc
    | cons x rest =>
      rw [hcs] at hplain hc
      obtain rfl : x = c := Option.some.inj hc
      simpa using hplain
  · intro c hc
    exact (Option.some.inj hc).symm

/-- The base as text: the protocol, and behind its colon the rest. -/
theorem baseText_eq : a.baseText ip =
    String.ofList (a.protocol.toList ++
      (':' :: ('/' :: '/' :: ((hostText ip).toList ++ portText a.port)) ++
        (basePath a.apiBase).toList)) := by
  rw [← String.toList_inj, String.toList_ofList, baseText]
  cases a.port <;> simp [portText]

theorem ofAnnotations_protocol (h : ofAnnotations annotations lead = .ok a) :
    a.protocol = Text.lower ((annotations.value? (lead ++ "protocol")).getD "http") := by
  simp only [ofAnnotations] at h
  split at h
  · obtain rfl := Except.ok.inj h
    rfl
  · split at h
    · obtain rfl := Except.ok.inj h
      rfl
    · cases h

theorem protocol_lower (h : ofAnnotations annotations lead = .ok a) :
    a.protocol.toList.map Char.toLower = a.protocol.toList := by
  rw [ofAnnotations_protocol h, Text.lower, String.toList_ofList, List.map_map]
  exact List.map_congr_left fun c _ => toLower_toLower c

/-! ### What is read from it -/

/-- What is read from the text of a base without a colon in the protocol. -/
theorem host_of_plain_protocol (hip : Literal ip host) (hcolon : ':' ∉ a.protocol.toList)
    (hu : a.baseUrl ip = .ok u) :
    u.scheme = String.ofList
        ((unwrap (a.protocol.toList.dropWhile isPadding)).map Char.toLower) ∧
      (u.host? = some host ∨ u.scheme = "file" ∧ u.host? = none ∧
        ∃ s rest, u.path = .segments (s :: rest) ∧ isDriveLetter s.toList = true) := by
  obtain ⟨htext, found, hfound, hwrite⟩ := hip.isAddress
  rw [baseUrl, baseText_eq, htext, ← hwrite] at hu
  obtain ⟨hscheme, more, path, hpath, hread⟩ :=
    parse_parts hcolon hfound.firm (basePath_rooted a.apiBase) hu
  refine ⟨hscheme, ?_⟩
  rw [List.cons_append, List.cons_append] at hread
  by_cases hfile : u.kind = .file
  · rw [hfile] at hread
    obtain ⟨hauthority, hsegments⟩ := readHierarchy_file hfound hpath hread
    cases hdrive : startsAtDrive path with
    | true =>
      obtain ⟨s, rest, hs, hletter⟩ := segmentsOf_drive hdrive
      rw [hdrive] at hauthority
      refine Or.inr ⟨scheme_of_file hfile, ?_, s, rest, hsegments.trans (by rw [hs]), hletter⟩
      rw [host?, hauthority]
      rfl
    | false =>
      rw [hdrive] at hauthority
      have hne : found.under .file ≠ .none := hfound.ne_none
      rw [host?, hauthority]
      exact Or.inl ((if_neg hne).trans (congrArg some hwrite))
  · rw [readHierarchy_address hfound hfile hpath] at hread
    obtain ⟨hauthority, -⟩ := Prod.mk.inj (Except.ok.inj hread)
    rw [host?, ← hauthority]
    refine Or.inl ((if_neg hfound.ne_none).trans (congrArg some ?_))
    rw [Host.write_under, hwrite]

/-- **The base of a pod is at the pod, unless the protocol holds a colon.**  Its scheme is the
protocol exactly if that is the name of a scheme, and then no colon is in it. -/
theorem baseUrl_calls_pod (hip : Literal ip host) (ha : ofAnnotations annotations lead = .ok a)
    (hu : a.baseUrl ip = .ok u) :
    (u.scheme = a.protocol ↔ IsSchemeName a.protocol.toList) ∧
      (':' ∉ a.protocol.toList → u.host? = some host ∨
        u.scheme = "file" ∧ u.host? = none ∧
          ∃ s rest, u.path = .segments (s :: rest) ∧ isDriveLetter s.toList = true) := by
  refine ⟨⟨fun hscheme => ?_, fun hname => ?_⟩, fun hcolon => ?_⟩
  · obtain ⟨raw, rest, -, hraw, hu⟩ := parse_scheme hu
    rw [← hscheme, hu, String.toList_ofList]
    exact hraw.lower
  · have hcolon : ':' ∉ a.protocol.toList := fun hc => absurd (hname.ne_colon _ hc) (by decide)
    rw [(host_of_plain_protocol hip hcolon hu).1, hname.unwrap_eq, protocol_lower ha,
      String.ofList_toList]
  · exact (host_of_plain_protocol hip hcolon hu).2

/-- A pod with an address of version 6 and all three annotations is called where it is. -/
theorem baseUrl_calls_annotated_pod :
    let annotations : Annotations :=
      [("borg/protocol", "HTTPS"), ("borg/apiport", "8443"), ("borg/apibase", "openai/v1/")]
    ∃ a u, ofAnnotations annotations "borg/" = .ok a ∧ a.baseUrl "fd00::1" = .ok u ∧
      u.scheme = a.protocol ∧ u.host? = some "[fd00::1]" := by
  intro annotations
  let a : Addressing := ⟨"https", some 8443, "openai/v1/"⟩
  let ip : Ipv6 := ⟨[0xfd00, 0, 0, 0, 0, 0, 0, 1], rfl⟩
  let u : Url := ⟨"https", some ⟨"", "", .ipv6 ip, some 8443⟩, .segments ["openai", "v1"], none, none⟩
  have ha : ofAnnotations annotations "borg/" = .ok a := by decide +kernel
  have hu : a.baseUrl "fd00::1" = .ok u := by decide +kernel
  have hwrite : ip.write = "fd00::1" := by decide +kernel
  have hip : Literal "fd00::1" "[fd00::1]" := hwrite ▸ Literal.v6 ip
  have hname : IsSchemeName a.protocol.toList :=
    ⟨⟨'h', by decide, by decide⟩, List.all_iff_forall_prop.mp (by decide)⟩
  obtain ⟨hscheme, hhost⟩ := baseUrl_calls_pod hip ha hu
  refine ⟨a, u, ha, hu, hscheme.mpr hname, ?_⟩
  rcases hhost (by decide) with hpod | ⟨hfile, -⟩
  · exact hpod
  · exact absurd hfile (by decide)

/-- A protocol can bring a host of its own, and the pod's address is then part of the path. -/
theorem baseUrl_calls_elsewhere :
    let a : Addressing := ⟨"http://evil/", none, "/v1"⟩
    let u : Url := ⟨"http", some ⟨"", "", .name "evil", none⟩,
      .segments [":", "", "10.0.0.1", "v1"], none, none⟩
    Literal "10.0.0.1" "10.0.0.1" ∧
      ofAnnotations [("borg/protocol", "http://evil/")] "borg/" = .ok a ∧
      a.baseUrl "10.0.0.1" = .ok u ∧ u.scheme ≠ a.protocol ∧ u.host? = some "evil" := by
  have hwrite : Ipv4.write ⟨0x0a000001⟩ = "10.0.0.1" := by decide +kernel
  refine ⟨hwrite ▸ Literal.v4 _, ?_⟩
  decide +kernel

end ModelGateway.Addressing
