/-
Which port a pod is called at.

The digits of an annotation are read onto a number one by one, and no digit makes it smaller.
So a number that is too large is noticed at the first step that makes it so, whatever comes
after, and one that is not never was on the way: nothing wraps around, and leading zeros are
harmless.  The port is then written behind the host in digits and read again by other rules,
which drop it if the scheme implies it.  What is called is the same port either way.
-/
import ModelGateway.Proofs.Endpoint.Addressing

namespace ModelGateway

variable {max n m : Nat} {cs : List Char} {annotations : Annotations} {key lead : String}
  {said : Option String}

/-! ### Numbers -/

/-- The value of digits that are read onto a number. -/
def valueOnto (n : Nat) (digits : List Char) : Nat :=
  digits.foldl (fun n c => n * 10 + (c.toNat - 0x30)) n

theorem le_valueOnto (n : Nat) (digits : List Char) : n ≤ valueOnto n digits := by
  induction digits generalizing n with
  | nil => exact Nat.le_refl n
  | cons c digits ih =>
    have hrest : n * 10 + (c.toNat - 0x30) ≤ valueOnto n (c :: digits) := ih _
    omega

/-- Digits are read exactly if their value is within the bound: no step goes beyond the last. -/
theorem readDigits_eq_ok_iff (hn : n ≤ max) : readDigits max n cs = .ok m ↔
    (∀ c ∈ cs, Text.isDigit c = true) ∧ valueOnto n cs = m ∧ m ≤ max := by
  induction cs generalizing n with
  | nil =>
    rw [readDigits, Except.ok.injEq]
    constructor
    · rintro rfl
      exact ⟨by simp, rfl, hn⟩
    · intro h
      exact h.2.1
  | cons c cs ih =>
    have hvalue : valueOnto n (c :: cs) = valueOnto (n * 10 + (c.toNat - 0x30)) cs := rfl
    rw [readDigits, List.forall_mem_cons, hvalue]
    by_cases hdigit : Text.isDigit c = true
    · rw [if_pos hdigit]
      by_cases hlarge : max < n * 10 + (c.toNat - 0x30)
      · -- the value only grows from here
        have hgrows := le_valueOnto (n * 10 + (c.toNat - 0x30)) cs
        simp only [if_pos hlarge]
        refine iff_of_false (by simp) fun h => ?_
        obtain ⟨-, hm, hmax⟩ := h
        omega
      · simp only [if_neg hlarge]
        rw [ih (Nat.le_of_not_lt hlarge), and_iff_right hdigit]
    · rw [if_neg hdigit]
      refine iff_of_false (by simp) fun h => ?_
      exact hdigit h.1.1

/-- A number as it may be written: decimal digits, at least one, a plus sign before them or not. -/
def IsNumeral (cs : List Char) (n : Nat) : Prop :=
  ∃ digits, (cs = digits ∨ cs = '+' :: digits) ∧ digits ≠ [] ∧
    (∀ c ∈ digits, Text.isDigit c = true) ∧ Text.decimalValue digits = n

/-- What is read as a number is a numeral within the bound. -/
theorem readNumeral_eq_ok_iff : readNumeral max cs = .ok n ↔ IsNumeral cs n ∧ n ≤ max := by
  have hsign : Text.isDigit '+' = false := by decide
  have hread : ∀ digits, readDigits max 0 digits = .ok n ↔
      ((∀ c ∈ digits, Text.isDigit c = true) ∧ Text.decimalValue digits = n) ∧ n ≤ max :=
    fun digits => (readDigits_eq_ok_iff (Nat.zero_le max)).trans and_assoc.symm
  unfold readNumeral
  split
  · refine iff_of_false (by simp) fun h => ?_
    obtain ⟨⟨digits, hcs | hcs, hne, -⟩, -⟩ := h
    · exact hne hcs.symm
    · cases hcs
  · refine iff_of_false (by simp) fun h => ?_
    obtain ⟨⟨digits, hcs | hcs, hne, hdigits, -⟩, -⟩ := h
    · rw [hdigits '+' (by simp [← hcs])] at hsign
      cases hsign
    · exact hne (List.cons.inj hcs).2.symm
  · next digits hsole =>
    rw [hread digits]
    refine and_congr_left fun _ => ⟨fun h => ?_, fun h => ?_⟩
    · exact ⟨digits, Or.inr rfl, fun hnil => hsole (by rw [hnil]), h⟩
    · obtain ⟨digits', hcs | hcs, -, hdigits, hvalue⟩ := h
      · rw [hdigits '+' (by simp [← hcs])] at hsign
        cases hsign
      · obtain rfl := (List.cons.inj hcs).2
        exact ⟨hdigits, hvalue⟩
  · next hempty hsole hplus =>
    rw [hread cs]
    refine and_congr_left fun _ => ⟨fun h => ⟨cs, Or.inl rfl, hempty, h⟩, fun h => ?_⟩
    obtain ⟨digits, rfl | hcs, -, h⟩ := h
    · exact h
    · exact absurd hcs (hplus digits)

/-! ### What an annotation says -/

/-- What an annotation says: nothing if it is missing or blank, and otherwise its text without the
blanks around it. -/
inductive Says (annotations : Annotations) (key : String) : Option String → Prop
  | missing (h : annotations.get? key = none) : Says annotations key none
  | blank {value : String} (h : annotations.get? key = some value)
      (hblank : ∀ c ∈ value.toList, Text.isBlank c = true) : Says annotations key none
  | text {value core : String} (h : annotations.get? key = some value)
      (hcore : Text.Trimmed value.toList core.toList) (hne : core ≠ "") :
      Says annotations key (some core)

theorem Says.value?_eq (h : Says annotations key said) : annotations.value? key = said := by
  cases h with
  | missing h => rw [Annotations.value?, h]; rfl
  | @blank value h hblank =>
    have hcore : Text.Trimmed value.toList [] :=
      ⟨⟨value.toList, [], by simp, hblank, by simp⟩, by simp, by simp⟩
    have htrim : Text.trim value = "" := by rw [Text.trim, ← hcore.eq_strip]
    rw [Annotations.value?, h, Option.map_some, htrim]
    rfl
  | @text value core h hcore hne =>
    have htrim : Text.trim value = core := by
      rw [Text.trim, ← hcore.eq_strip, String.ofList_toList]
    rw [Annotations.value?, h, Option.map_some, htrim]
    simp [Option.filter, hne]

theorem exists_says (annotations : Annotations) (key : String) :
    ∃ said, Says annotations key said := by
  cases hget : annotations.get? key with
  | none => exact ⟨none, .missing hget⟩
  | some value =>
    have hcore : Text.Trimmed value.toList (Text.trim value).toList := Text.trimmed_iff.mpr rfl
    by_cases hnone : Text.trim value = ""
    · obtain ⟨before, behind, hvalue, hbefore, hbehind⟩ := hcore.around
      refine ⟨none, .blank hget fun c hc => ?_⟩
      rw [hnone, String.toList_empty, List.append_nil] at hvalue
      rw [hvalue] at hc
      exact (List.mem_append.mp hc).elim (hbefore c) (hbehind c)
    · exact ⟨some (Text.trim value), .text hget hcore hnone⟩

/-- Every annotation says one thing. -/
theorem says_iff : Says annotations key said ↔ annotations.value? key = said := by
  refine ⟨Says.value?_eq, fun h => ?_⟩
  obtain ⟨said', hsays⟩ := exists_says annotations key
  rwa [← h, hsays.value?_eq]

namespace Addressing

open Url

variable {ip host text : String} {a : Addressing}

theorem ofAnnotations_of_no_port (h : annotations.value? (lead ++ "apiport") = none) :
    ∃ a, ofAnnotations annotations lead = .ok a ∧ a.port = none := by
  simp only [ofAnnotations, h]
  exact ⟨_, rfl, rfl⟩

theorem ofAnnotations_of_port (h : annotations.value? (lead ++ "apiport") = some text)
    (hport : readNumeral 65535 text.toList = .ok n) :
    ∃ a, ofAnnotations annotations lead = .ok a ∧ a.port.map UInt16.toNat = some n := by
  have hbound : n < 65536 := Nat.lt_succ_of_le (readNumeral_eq_ok_iff.mp hport).2
  simp only [ofAnnotations, h, hport]
  exact ⟨_, rfl, congrArg some (UInt16.toNat_ofNat_of_lt' hbound)⟩

theorem ofAnnotations_of_bad_port {e : NumeralError}
    (h : annotations.value? (lead ++ "apiport") = some text)
    (hport : readNumeral 65535 text.toList = .error e) :
    ofAnnotations annotations lead = .error ⟨lead ++ "apiport", text, e.message⟩ := by
  simp only [ofAnnotations, h, hport]
  rfl

/-- What is read has no port where none is said, and else the number that is said. -/
theorem port_of_ofAnnotations (h : ofAnnotations annotations lead = .ok a) :
    annotations.value? (lead ++ "apiport") = none ∧ a.port = none ∨
      ∃ text n, annotations.value? (lead ++ "apiport") = some text ∧
        readNumeral 65535 text.toList = .ok n ∧ a.port.map UInt16.toNat = some n := by
  cases hvalue : annotations.value? (lead ++ "apiport") with
  | none =>
    obtain ⟨b, hb, hport⟩ := ofAnnotations_of_no_port hvalue
    obtain rfl : b = a := Except.ok.inj (hb.symm.trans h)
    exact Or.inl ⟨rfl, hport⟩
  | some text =>
    cases hread : readNumeral 65535 text.toList with
    | ok n =>
      obtain ⟨b, hb, hport⟩ := ofAnnotations_of_port hvalue hread
      obtain rfl : b = a := Except.ok.inj (hb.symm.trans h)
      exact Or.inr ⟨text, n, rfl, hread, hport⟩
    | error e =>
      rw [ofAnnotations_of_bad_port hvalue hread] at h
      cases h

/-- What is refused is the port, with its key and its text. -/
theorem ofAnnotations_refused {key reason : String}
    (h : ofAnnotations annotations lead = .error ⟨key, text, reason⟩) :
    key = lead ++ "apiport" ∧ annotations.value? (lead ++ "apiport") = some text ∧
      ∃ e, readNumeral 65535 text.toList = .error e := by
  cases hvalue : annotations.value? (lead ++ "apiport") with
  | none =>
    obtain ⟨b, hb, -⟩ := ofAnnotations_of_no_port hvalue
    cases hb.symm.trans h
  | some text' =>
    cases hread : readNumeral 65535 text'.toList with
    | ok n =>
      obtain ⟨b, hb, -⟩ := ofAnnotations_of_port hvalue hread
      cases hb.symm.trans h
    | error e =>
      rw [ofAnnotations_of_bad_port hvalue hread] at h
      cases h
      exact ⟨rfl, rfl, e, hread⟩

/-- In lower case, texts that are the same but for the case of letters are the same. -/
theorem lower_of_sameLetters {s t : String} (h : Text.sameLetters s.toList t.toList = true)
    (ht : t.toList.map Char.toLower = t.toList) : Text.lower s = t := by
  rw [Text.lower, eq_of_beq h, ht, String.ofList_toList]

/-- Under a scheme other than `file`, the base of a pod is always an address, and calls the port
that was given or else the one that the scheme implies. -/
theorem baseUrl_effectivePort (hip : Literal ip host) (hname : IsSchemeName a.protocol.toList)
    (hlower : a.protocol.toList.map Char.toLower = a.protocol.toList)
    (hkind : Kind.ofScheme a.protocol ≠ .file) :
    ∃ u, a.baseUrl ip = .ok u ∧ u.scheme = a.protocol ∧
      u.effectivePort? = a.port.or (defaultPort? a.protocol) := by
  obtain ⟨htext, found, hfound, hwrite⟩ := hip.isAddress
  have hscheme : String.ofList (a.protocol.toList.map Char.toLower) = a.protocol := by
    rw [hlower, String.ofList_toList]
  obtain ⟨u, hu, husscheme, hauthority⟩ :=
    parse_address hname hfound (basePath_rooted a.apiBase) (by rwa [hscheme])
  refine ⟨u, ?_, husscheme.trans hscheme, ?_⟩
  · rw [baseUrl, baseText_eq, htext, ← hwrite]
    exact hu
  · rw [effectivePort?, port?, hauthority, husscheme, hscheme]
    exact keptPort_or

/-- Both schemes of the web are names in lower case, neither is `file`, and each implies a port. -/
theorem implied_of_web {scheme : String} {implied : UInt16}
    (h : (scheme, implied) ∈ [("http", 80), ("https", 443)]) :
    scheme.toList.map Char.toLower = scheme.toList ∧ IsSchemeName scheme.toList ∧
      Kind.ofScheme scheme = .wellKnown ∧ defaultPort? scheme = some implied := by
  rcases List.mem_cons.mp h with h | h
  · obtain ⟨rfl, rfl⟩ := Prod.mk.inj h
    exact ⟨by decide, ⟨⟨'h', rfl, by decide⟩, List.all_iff_forall_prop.mp (by decide)⟩,
      by decide, rfl⟩
  · obtain ⟨rfl, rfl⟩ := Prod.mk.inj (List.mem_singleton.mp h)
    exact ⟨by decide, ⟨⟨'h', rfl, by decide⟩, List.all_iff_forall_prop.mp (by decide)⟩,
      by decide, rfl⟩

/-- **The port of a pod is the one that its annotation says, and it is the one that is called.**
There is no port if and only if the annotation says nothing, and it is a number if and only if the
annotation is a numeral of that number, up to 65535; anything else is refused with the key and the
text of the annotation.  With a protocol that is `http` or `https`, in whatever case and also if it
is left out, every address makes a base, and that calls the port, or the one of the scheme if
there is none, whatever the other annotations say. -/
theorem ofAnnotations_reads_port (annotations : Annotations) (lead : String) :
    ((∃ a, ofAnnotations annotations lead = .ok a ∧ a.port = none) ↔
        Says annotations (lead ++ "apiport") none) ∧
      (∀ p, (∃ a, ofAnnotations annotations lead = .ok a ∧ a.port.map UInt16.toNat = some p) ↔
        ∃ text, Says annotations (lead ++ "apiport") (some text) ∧ IsNumeral text.toList p ∧
          p ≤ 65535) ∧
      (∀ key text, (∃ reason, ofAnnotations annotations lead = .error ⟨key, text, reason⟩) ↔
        key = lead ++ "apiport" ∧ Says annotations (lead ++ "apiport") (some text) ∧
          ∀ p ≤ 65535, ¬ IsNumeral text.toList p) ∧
      ∀ a protocol, ofAnnotations annotations lead = .ok a →
        Says annotations (lead ++ "protocol") protocol →
        ∀ scheme implied, (scheme, implied) ∈ [("http", (80 : UInt16)), ("https", 443)] →
          Text.sameLetters (protocol.getD "http").toList scheme.toList = true →
            ∀ ip host, Literal ip host → ∃ u, a.baseUrl ip = .ok u ∧ u.scheme = scheme ∧
              u.effectivePort? = some (a.port.getD implied) := by
  simp only [says_iff]
  refine ⟨⟨fun h => ?_, ofAnnotations_of_no_port⟩, fun p => ⟨fun h => ?_, fun h => ?_⟩,
    fun key text => ⟨fun h => ?_, fun h => ?_⟩, ?_⟩
  · obtain ⟨a, ha, hport⟩ := h
    rcases port_of_ofAnnotations ha with ⟨hnone, -⟩ | ⟨text, n, -, -, hnumber⟩
    · exact hnone
    · rw [hport] at hnumber
      cases hnumber
  · obtain ⟨a, ha, hport⟩ := h
    rcases port_of_ofAnnotations ha with ⟨-, hnone⟩ | ⟨text, n, htext, hread, hnumber⟩
    · rw [hnone] at hport
      cases hport
    · obtain rfl : n = p := Option.some.inj (hnumber.symm.trans hport)
      exact ⟨text, htext, readNumeral_eq_ok_iff.mp hread⟩
  · obtain ⟨text, htext, hnumeral⟩ := h
    exact ofAnnotations_of_port htext (readNumeral_eq_ok_iff.mpr hnumeral)
  · obtain ⟨reason, h⟩ := h
    obtain ⟨hkey, htext, e, hread⟩ := ofAnnotations_refused h
    refine ⟨hkey, htext, fun p hp hnumeral => ?_⟩
    cases hread.symm.trans (readNumeral_eq_ok_iff.mpr ⟨hnumeral, hp⟩)
  · obtain ⟨rfl, htext, hnone⟩ := h
    cases hread : readNumeral 65535 text.toList with
    | ok n =>
      obtain ⟨hnumeral, hn⟩ := readNumeral_eq_ok_iff.mp hread
      exact absurd hnumeral (hnone n hn)
    | error e => exact ⟨e.message, ofAnnotations_of_bad_port htext hread⟩
  · intro a protocol ha hsaid scheme implied hscheme hletters ip host hip
    obtain ⟨hlower, hname, hkind, himplied⟩ := implied_of_web hscheme
    have hprotocol : a.protocol = scheme := by
      rw [ofAnnotations_protocol ha, hsaid, lower_of_sameLetters hletters hlower]
    obtain ⟨u, hu, huscheme, hport⟩ := baseUrl_effectivePort (a := a) hip (by rwa [hprotocol])
      (by rwa [hprotocol]) (by rw [hprotocol, hkind]; decide)
    refine ⟨u, hu, huscheme.trans hprotocol, ?_⟩
    rw [hport, hprotocol, himplied]
    cases a.port <;> rfl

/-- A port with blanks, a plus sign and a zero before it, under a protocol in mixed case. -/
theorem ofAnnotations_reads_signed_port :
    let annotations : Annotations :=
      [("borg/protocol", "Https"), ("borg/apiport", " +08443\n"), ("borg/apibase", "?x")]
    Says annotations "borg/apiport" (some "+08443") ∧ IsNumeral "+08443".toList 8443 ∧
      ∃ a u, ofAnnotations annotations "borg/" = .ok a ∧ a.baseUrl "10.0.0.1" = .ok u ∧
        u.scheme = "https" ∧ u.effectivePort? = some 8443 := by
  intro annotations
  have hsaid : Says annotations "borg/apiport" (some "+08443") := says_iff.mpr (by decide +kernel)
  have hprotocol : Says annotations "borg/protocol" (some "Https") :=
    says_iff.mpr (by decide +kernel)
  have hnumeral : IsNumeral "+08443".toList 8443 :=
    ⟨"08443".toList, Or.inr (by decide), by decide, List.all_iff_forall_prop.mp (by decide),
      by decide⟩
  have hwrite : (⟨0x0A000001⟩ : Ipv4).write = "10.0.0.1" := by decide +kernel
  have hip : Literal "10.0.0.1" "10.0.0.1" := hwrite ▸ Literal.v4 ⟨0x0A000001⟩
  obtain ⟨-, hport, -, hcalled⟩ := ofAnnotations_reads_port annotations "borg/"
  obtain ⟨a, ha, hnumber⟩ := (hport 8443).mpr ⟨_, hsaid, hnumeral, by decide⟩
  obtain ⟨u, hu, hscheme, hcall⟩ :=
    hcalled a _ ha hprotocol "https" 443 (by simp) (by decide) _ _ hip
  refine ⟨hsaid, hnumeral, a, u, ha, hu, hscheme, ?_⟩
  obtain ⟨port, hsome, hvalue⟩ := Option.map_eq_some_iff.mp hnumber
  have hsame : port = 8443 := UInt16.toNat_inj.mp hvalue
  rw [hcall, hsome, hsame]
  rfl

end Addressing

end ModelGateway
