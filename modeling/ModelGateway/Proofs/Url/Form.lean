/-
What a query says when it is read as a form.

A form is a row of pairs with ampersands between them, each cut at its first equals sign; a plus
sign in it is a blank, and percent signs introduce encoded bytes.  Names and values are written
with letters, digits, four marks, plus signs and encoded bytes only, so what is written for them
can be mistaken neither for the end of a pair nor for the middle of one, and reads back as the
bytes that it was written for.
-/
import ModelGateway.Proofs.Text.Pieces
import ModelGateway.Proofs.Url.Decode
import ModelGateway.Url.Edit

namespace ModelGateway.Url

/-! ### Reading -/

/-- A character of a form as percent-encoded text has it. -/
def unplus (c : Char) : Char := if c = '+' then ' ' else c

/-- The bytes of a name or a value. -/
def formBytes (cs : List Char) : List UInt8 := percentDecode (cs.map unplus)

/-- A name and a value; where there is no equals sign, all of it is the name. -/
def formPair (piece : List Char) : List UInt8 × List UInt8 :=
  match Text.cutAt (· == '=') piece with
  | some (name, value) => (formBytes name, formBytes value)
  | none => (formBytes piece, [])

/-- The pairs of a form; where there is nothing between two ampersands, there is no pair. -/
def formPairs (cs : List Char) : List (List UInt8 × List UInt8) :=
  ((Text.splitOn (· == '&') cs).filter (!·.isEmpty)).map formPair

/-- The pairs of an address: those of its query, as bytes. -/
def queryPairs (u : Url) : List (List UInt8 × List UInt8) :=
  match u.query with
  | some query => formPairs query.toList
  | none => []

/-! ### Names and values -/

variable {name value : String} {rest : List Char}

/-- How a byte is written in a form. -/
structure IsFormSpelling (spelling : List Char) (b : UInt8) : Prop where
  noSeparator : ∀ c ∈ spelling, c ≠ '&' ∧ c ≠ '='
  reads : ∀ rest, percentDecode (spelling.map unplus ++ rest) = b :: percentDecode rest

theorem isFormSpelling_encodeByte (b : UInt8) : IsFormSpelling (encodeByte b) b where
  noSeparator c hc := by
    have hall : escapeChars.all (fun d => d != '&' && d != '=') = true := by decide
    simpa using List.all_eq_true.mp hall c (mem_encodeByte hc)
  reads rest := by
    have hall : escapeChars.all (fun d => unplus d == d) = true := by decide
    have hsame : (encodeByte b).map unplus = encodeByte b := by
      conv_rhs => rw [← List.map_id (encodeByte b)]
      exact List.map_congr_left fun c hc =>
        eq_of_beq (List.all_eq_true.mp hall c (mem_encodeByte hc))
    rw [hsame, percentDecode_encodeByte]

/-- A byte that is written as its character is an ASCII character with no meaning in a form. -/
theorem char_of_isFormSafe {b : UInt8} (h : isFormSafe b = true) {c : Char}
    (hc : c = Char.ofNat b.toNat) :
    (c ≠ '&' ∧ c ≠ '=') ∧ unplus c = c ∧ c ≠ '%' ∧ String.utf8EncodeChar c = [b] := by
  have hall : ∀ n < 256, isFormSafe (UInt8.ofNat n) = true →
      (Char.ofNat n ≠ '&' ∧ Char.ofNat n ≠ '=') ∧ unplus (Char.ofNat n) = Char.ofNat n ∧
        Char.ofNat n ≠ '%' ∧ String.utf8EncodeChar (Char.ofNat n) = [UInt8.ofNat n] := by
    decide +kernel
  rw [← UInt8.ofNat_toNat (x := b)] at h
  have hchar := hall b.toNat b.toNat_lt h
  rwa [UInt8.ofNat_toNat, ← hc] at hchar

theorem isFormSpelling_formByte (b : UInt8) : IsFormSpelling (formByte b) b := by
  unfold formByte
  split
  · next hblank =>
    refine ⟨by simp, fun rest => ?_⟩
    rw [hblank]
    exact percentDecode_cons fun h => absurd h (by decide)
  · split
    · next hsafe =>
      obtain ⟨hseparator, hplus, hpercent, hbytes⟩ := char_of_isFormSafe hsafe rfl
      refine ⟨by simpa using hseparator, fun rest => ?_⟩
      rw [List.map_singleton, hplus, List.singleton_append,
        percentDecode_cons fun h => absurd h hpercent, hbytes, List.singleton_append]
    · exact isFormSpelling_encodeByte b

theorem not_separator_of_mem_formText {c : Char} (h : c ∈ (formText name).toList) :
    (c == '&') = false ∧ (c == '=') = false := by
  rw [formText, String.toList_ofList] at h
  obtain ⟨b, -, hc⟩ := List.mem_flatMap.mp h
  simpa using (isFormSpelling_formByte b).noSeparator c hc

/-- What is written for a name or a value reads back as its bytes. -/
theorem formBytes_formText (s : String) : formBytes (formText s).toList = Utf8.encode s.toList := by
  have hbytes : ∀ bytes : List UInt8,
      percentDecode ((bytes.flatMap formByte).map unplus) = bytes := by
    intro bytes
    induction bytes with
    | nil => rfl
    | cons b bytes ih =>
      rw [List.flatMap_cons, List.map_append, (isFormSpelling_formByte b).reads, ih]
  rw [formBytes, formText, String.toList_ofList, hbytes]

theorem formPair_written (name value : String) :
    formPair ((formText name).toList ++ '=' :: (formText value).toList) =
      (Utf8.encode name.toList, Utf8.encode value.toList) := by
  have hcut : Text.cutAt (· == '=') ((formText name).toList ++ '=' :: (formText value).toList) =
      some ((formText name).toList, (formText value).toList) :=
    Text.cutAt_eq_some_iff.mpr ⟨'=', rfl, rfl, fun _ hc => (not_separator_of_mem_formText hc).2⟩
  rw [formPair, hcut]
  simp only [formBytes_formText]

/-! ### Pairs -/

theorem formPairs_append (a b : List Char) :
    formPairs (a ++ '&' :: b) = formPairs a ++ formPairs b := by
  rw [formPairs, Text.splitOn_separator (by decide), List.filter_append, List.map_append]
  rfl

/-- One pair is one pair, whatever its name and value are. -/
theorem formPairs_written (name value : String) :
    formPairs ((formText name).toList ++ '=' :: (formText value).toList) =
      [(Utf8.encode name.toList, Utf8.encode value.toList)] := by
  have hwhole : ∀ c ∈ (formText name).toList ++ '=' :: (formText value).toList,
      (c == '&') = false := by
    intro c hc
    rcases List.mem_append.mp hc with hc | hc
    · exact (not_separator_of_mem_formText hc).1
    · rcases List.mem_cons.mp hc with rfl | hc
      · decide
      · exact (not_separator_of_mem_formText hc).1
  rw [formPairs, Text.splitOn_of_none hwhole, List.filter_cons_of_pos (by simp), List.filter_nil,
    List.map_singleton, formPair_written]

/-- Adding a pair to an address leaves its own pairs and adds no other. -/
theorem queryPairs_addPair (u : Url) (name value : String) :
    (u.addPair name value).queryPairs =
      u.queryPairs ++ [(Utf8.encode name.toList, Utf8.encode value.toList)] := by
  have hequals : "=".toList = ['='] := rfl
  have hampersand : "&".toList = ['&'] := rfl
  have hpair : (formText name ++ "=" ++ formText value).toList =
      (formText name).toList ++ '=' :: (formText value).toList := by
    rw [String.toList_append, String.toList_append, hequals, List.append_assoc,
      List.singleton_append]
  unfold addPair queryPairs
  simp only
  cases hquery : u.query with
  | none => rw [hpair, formPairs_written, List.nil_append]
  | some query =>
    simp only
    split
    · next hempty =>
      rw [hpair, formPairs_written, hempty]
      rfl
    · have hmore : (query ++ "&" ++ (formText name ++ "=" ++ formText value)).toList =
          query.toList ++ '&' :: ((formText name).toList ++ '=' :: (formText value).toList) := by
        rw [String.toList_append, String.toList_append, hpair, hampersand, List.append_assoc,
          List.singleton_append]
      rw [hmore, formPairs_append, formPairs_written]

end ModelGateway.Url
