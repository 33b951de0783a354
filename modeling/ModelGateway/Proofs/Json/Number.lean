/-
Numbers are read and passed over up to their end.

A number has no mark at its end, so what it is read as depends on what stands behind it:
digits are read as far as they go, and then the byte that stops them decides.  Behind a
value stands a blank, a comma, a bracket or nothing, and none of these continues a number.
So every number of the grammar is passed over exactly, reading it says the same whatever
stands behind it, and an integer that fits 64 bits is read as its value.
-/
import ModelGateway.Json.Skip
import ModelGateway.Proofs.Json.Grammar
import ModelGateway.Proofs.Result

namespace ModelGateway.Json

variable {t rest ds w f e x : List UInt8} {b : UInt8}

/-! ### Where digits end -/

/-- What stands behind some digits is no digit. -/
def Stops (rest : List UInt8) : Prop := ∀ b ∈ rest.head?, isDigit b = false

/-- What may stand behind a value continues no number. -/
theorem Ends.of_head (h : Ends (b :: rest)) :
    isDigit b = false ∧ b ≠ 0x2E ∧ isExponentMark b = false := by
  have hb : isBlank b = true ∨ b = 0x2C ∨ b = 0x5D ∨ b = 0x7D := h b rfl
  simp only [isBlank_iff, ← UInt8.toNat_inj, UInt8.reduceToNat] at hb
  simp only [Bool.eq_false_iff, ne_eq, isDigit_iff, isExponentMark_iff, ← UInt8.toNat_inj,
    UInt8.reduceToNat]
  omega

theorem Ends.stops (h : Ends rest) : Stops rest := by
  cases rest with
  | nil => simp [Stops]
  | cons b more => simpa [Stops] using h.of_head.1

theorem IsExponent.stops (h : IsExponent e) (hrest : Ends rest) : Stops (e ++ rest) := by
  cases h with
  | none => exact hrest.stops
  | scaled mark signed digits =>
    rintro _ ⟨⟩
    have hvalue := isExponentMark_iff.mp mark
    rw [Bool.eq_false_iff, ne_eq, isDigit_iff]
    omega

theorem IsFraction.stops (h : IsFraction f) (he : IsExponent e) (hrest : Ends rest) :
    Stops (f ++ (e ++ rest)) := by
  cases h with
  | none => exact he.stops hrest
  | point digits =>
    have hpoint : isDigit 0x2E = false := by decide
    simpa [Stops] using hpoint

theorem IsDigits.takeWhile (h : IsDigits ds) (hx : Stops x) : (ds ++ x).takeWhile isDigit = ds := by
  rw [List.takeWhile_append_of_pos h.2]
  cases x with
  | nil => simp
  | cons b more =>
    have hb : isDigit b = false := hx b rfl
    simp [hb]

theorem IsDigits.dropWhile (h : IsDigits ds) (hx : Stops x) : (ds ++ x).dropWhile isDigit = x := by
  rw [List.dropWhile_append_of_pos h.2]
  cases x with
  | nil => simp
  | cons b more =>
    have hb : isDigit b = false := hx b rfl
    simp [hb]

/-! ### Passing over a number -/

theorem skipDigits_append (h : IsDigits ds) (hx : Stops x) : skipDigits (ds ++ x) = .ok x := by
  rw [skipDigits, if_pos, h.dropWhile hx]
  obtain ⟨d, more, rfl, hd⟩ := h.head
  simpa using hd

/-- Digits begin with none of the signs of an exponent. -/
theorem digit_ne_sign (h : isDigit b = true) : b ≠ 0x2B ∧ b ≠ 0x2D := by
  constructor <;> rintro rfl <;> cases h

theorem skipExponent_append (h : IsExponent e) (hrest : Ends rest) :
    skipExponent (e ++ rest) = .ok rest := by
  cases h with
  | none =>
    cases rest with
    | nil => rfl
    | cons b more =>
      have hb := hrest.of_head.2.2
      simp [skipExponent, hb]
  | scaled mark signed digits =>
    have hskip := skipDigits_append digits hrest.stops
    obtain ⟨d, more, rfl, hd⟩ := digits.head
    have hne := digit_ne_sign hd
    simp only [List.cons_append, skipExponent, mark, if_true]
    rcases signed with rfl | rfl | rfl
    · simp only [List.nil_append, List.cons_append]
      split
      · simp_all
      · simp_all
      · exact hskip
    · exact hskip
    · exact hskip

/-- Only zero itself begins with a zero. -/
theorem IsWhole.cases (h : IsWhole w) : w = [0x30] ∨ ∃ d more, w = d :: more ∧ d ≠ 0x30 := by
  obtain ⟨digits, hzero⟩ := h
  obtain ⟨d, more, rfl, -⟩ := digits.head
  by_cases hd : d = 0x30
  · exact Or.inl (hzero (by rw [hd]; rfl))
  · exact Or.inr ⟨d, more, rfl, hd⟩

/-- What passing over a number does behind the digits before the point. -/
def skipFraction (bytes : List UInt8) : Except Error (List UInt8) :=
  match bytes with
  | 0x2E :: rest => do skipExponent (← skipDigits rest)
  | rest => skipExponent rest

theorem skipNumber_whole (h : IsWhole w) (hx : Stops x) : skipNumber (w ++ x) = skipFraction x := by
  have hskip : skipDigits (w ++ x) = .ok x := skipDigits_append h.1 hx
  rcases h.cases with rfl | ⟨d, more, rfl, hd⟩
  · have hnone : x.head?.any isDigit = false := by
      cases hhead : x.head? with
      | none => rfl
      | some b => simpa using hx b hhead
    simp only [List.cons_append, List.nil_append, skipNumber, hnone]
    rfl
  · rw [skipNumber, hskip]
    · rfl
    · intro rest hrest
      exact hd (List.cons.inj hrest).1

/-- What stands behind the digits of a number without a fraction is no point. -/
theorem IsExponent.no_point (h : IsExponent e) (hrest : Ends rest) :
    e ++ rest ≠ 0x2E :: x := by
  cases h with
  | none =>
    rintro rfl
    exact hrest.of_head.2.1 rfl
  | scaled mark signed digits =>
    intro hpoint
    have hb := (List.cons.inj hpoint).1
    rw [hb] at mark
    cases mark

theorem skipFraction_append (h : IsFraction f) (he : IsExponent e) (hrest : Ends rest) :
    skipFraction (f ++ (e ++ rest)) = .ok rest := by
  have hskip : skipExponent (e ++ rest) = .ok rest := skipExponent_append he hrest
  cases h with
  | none =>
    rw [List.nil_append, skipFraction]
    · exact hskip
    · exact fun after => he.no_point hrest
  | point digits =>
    simp only [List.cons_append, skipFraction, skipDigits_append digits (he.stops hrest)]
    exact hskip

theorem skipNumber_append (h : IsUnsigned t) (hrest : Ends rest) :
    skipNumber (t ++ rest) = .ok rest := by
  cases h with
  | parts whole fraction exponent =>
    rw [List.append_assoc, List.append_assoc,
      skipNumber_whole whole (fraction.stops exponent hrest),
      skipFraction_append fraction exponent hrest]

/-! ### Reading a number -/

/-- What is read of some bytes, whatever follows them. -/
def Gives {α : Type} (read : List UInt8 → Except Error (α × List UInt8)) (t : List UInt8)
    (r : Except Error α) : Prop :=
  ∀ rest, Ends rest → read (t ++ rest) = r.map (·, rest)

variable {negative : Bool} {significand : Nat} {exponent : Int}

theorem finish_gives : ∃ r : Except Error Number, ∀ rest,
    finish negative significand exponent rest = r.map (·, rest) := by
  cases h : Double.ofDecimal? negative (UInt64.ofNat significand) exponent with
  | none => exact ⟨.error .malformed, fun rest => by rw [finish, h]; rfl⟩
  | some d => exact ⟨.ok (.double d), fun rest => by rw [finish, h]; rfl⟩

/-- The sign of an exponent, and what stands behind it. -/
def cutSign (bytes : List UInt8) : Bool × List UInt8 :=
  match bytes with
  | 0x2B :: rest => (true, rest)
  | 0x2D :: rest => (false, rest)
  | _ => (true, bytes)

/-- The value of some digits. -/
def digitsValue (ds : List UInt8) : Nat := ds.foldl (fun n d => n * 10 + digitValue d) 0

/-- The number whose exponent has these digits. -/
def withExponent (negative : Bool) (significand : Nat) (exponent : Int) (up : Bool)
    (ds rest : List UInt8) : Except Error (Number × List UInt8) :=
  if maxExponent < digitsValue ds then
    if significand ≠ 0 ∧ up then .error .malformed
    else .ok (.double (Double.zero negative), rest)
  else
    finish negative significand
      (if up then exponent + digitsValue ds else exponent - digitsValue ds) rest

/-- What reading an exponent does behind its sign. -/
def readExponentDigits (negative : Bool) (significand : Nat) (exponent : Int) (up : Bool)
    (bytes : List UInt8) : Except Error (Number × List UInt8) :=
  match bytes with
  | [] => .error .unfinished
  | b :: _ =>
    if isDigit b then
      withExponent negative significand exponent up (bytes.takeWhile isDigit)
        (bytes.dropWhile isDigit)
    else .error .malformed

theorem readExponent_of_cutSign {bytes : List UInt8} {up : Bool} (digits : IsDigits ds)
    (hrest : Ends rest) (h : cutSign bytes = (up, ds ++ rest)) :
    readExponent negative significand exponent bytes =
      withExponent negative significand exponent up ds rest := by
  obtain ⟨d, more, hds, hd⟩ := digits.head
  have hread : readExponent negative significand exponent bytes =
      readExponentDigits negative significand exponent (cutSign bytes).1 (cutSign bytes).2 := rfl
  have htake := digits.takeWhile hrest.stops
  have hdrop := digits.dropWhile hrest.stops
  rw [hread, h]
  simp only [hds, List.cons_append] at htake hdrop ⊢
  simp only [readExponentDigits, hd, htake, hdrop, if_true]

theorem withExponent_gives (up : Bool) : ∃ r : Except Error Number, ∀ rest,
    withExponent negative significand exponent up ds rest = r.map (·, rest) := by
  unfold withExponent
  split
  · split
    · exact ⟨.error .malformed, fun rest => rfl⟩
    · exact ⟨.ok (.double (Double.zero negative)), fun rest => rfl⟩
  · exact finish_gives

theorem readExponent_gives {sign : List UInt8} (digits : IsDigits ds)
    (signed : sign = [] ∨ sign = [0x2B] ∨ sign = [0x2D]) :
    ∃ r, Gives (readExponent negative significand exponent) (sign ++ ds) r := by
  obtain ⟨up, hcut⟩ : ∃ up, ∀ rest, cutSign (sign ++ ds ++ rest) = (up, ds ++ rest) := by
    rcases signed with rfl | rfl | rfl
    · obtain ⟨d, more, rfl, hd⟩ := digits.head
      have hne := digit_ne_sign hd
      refine ⟨true, fun rest => ?_⟩
      rw [List.nil_append, List.cons_append, cutSign] <;> simp [hne]
    · exact ⟨true, fun rest => rfl⟩
    · exact ⟨false, fun rest => rfl⟩
  obtain ⟨r, hr⟩ := withExponent_gives up
  exact ⟨r, fun rest hrest => by rw [readExponent_of_cutSign digits hrest (hcut rest), hr]⟩

theorem readScale_gives (h : IsExponent e) :
    ∃ r, Gives (readScale negative significand exponent) e r := by
  cases h with
  | none =>
    obtain ⟨r, hr⟩ := finish_gives
    refine ⟨r, fun rest hrest => ?_⟩
    rw [← hr]
    cases rest with
    | nil => rfl
    | cons b more =>
      simp only [List.nil_append, readScale, hrest.of_head.2.2]
      rfl
  | scaled mark signed digits =>
    obtain ⟨r, hr⟩ := readExponent_gives digits signed
    refine ⟨r, fun rest hrest => ?_⟩
    rw [List.cons_append, readScale, if_pos mark, hr rest hrest]

/-- What is read behind the digits before the point. -/
theorem readFraction_gives (digits : IsDigits ds) (h : IsExponent e) :
    ∃ r, Gives (readFraction negative significand exponent) (ds ++ e) r := by
  obtain ⟨r, hr⟩ := readScale_gives h
  refine ⟨r, fun rest hrest => ?_⟩
  have hstops := h.stops hrest
  rw [List.append_assoc, readFraction]
  simp only [digits.takeWhile hstops, digits.dropWhile hstops]
  rw [if_neg (by simpa using digits.1)]
  exact hr rest hrest

/-- What reading a number does behind the digits before the point. -/
def readBehind (negative : Bool) (significand left : Nat) (bytes : List UInt8) :
    Except Error (Number × List UInt8) :=
  match bytes with
  | 0x2E :: rest => readFraction negative significand left rest
  | rest =>
    if left > 0 || rest.head?.any isExponentMark then readScale negative significand left rest
    else .ok (integer negative significand, rest)

theorem readNumber_whole (h : IsWhole w) (hx : Stops x) :
    readNumber negative (w ++ x) =
      readBehind negative (takeDigits 0 w).1 (takeDigits 0 w).2 x := by
  have htake := h.1.takeWhile hx
  have hdrop := h.1.dropWhile hx
  obtain ⟨d, more, rfl, hd⟩ := h.1.head
  -- a zero in front is the only digit, so what stands behind it is no digit
  have hsound : (d = 0x30 && (more ++ x).head?.any isDigit) = false := by
    rcases h.cases with hzero | ⟨b, bs, hwhole, hb⟩
    · obtain ⟨-, rfl⟩ := List.cons.inj hzero
      cases x with
      | nil => simp
      | cons b bs => simp [hx b rfl]
    · have hne : d ≠ 0x30 := by rw [(List.cons.inj hwhole).1]; exact hb
      simp [hne]
  rw [List.cons_append] at htake hdrop ⊢
  simp only [readNumber, hd, hsound, htake, hdrop]
  rfl

/-- Whether there is an exponent shows at its first byte. -/
theorem marked_append (hrest : Ends rest) :
    (e ++ rest).head?.any isExponentMark = e.head?.any isExponentMark := by
  cases e with
  | cons b more => rfl
  | nil =>
    cases rest with
    | nil => rfl
    | cons b more => exact hrest.of_head.2.2

theorem readBehind_gives {left : Nat} (hf : IsFraction f) (he : IsExponent e) :
    ∃ r, Gives (readBehind negative significand left) (f ++ e) r := by
  cases hf with
  | point digits => exact readFraction_gives digits he
  | none =>
    obtain ⟨r, hr⟩ : ∃ r, Gives (readScale negative significand left) e r := readScale_gives he
    by_cases hscale : (left > 0 || e.head?.any isExponentMark) = true
    · refine ⟨r, fun rest hrest => ?_⟩
      rw [← hr rest hrest, List.nil_append, readBehind, marked_append hrest, if_pos hscale]
      exact fun after => he.no_point hrest
    · have hnone : e = [] := by
        cases he with
        | none => rfl
        | scaled mark signed digits => simp [mark] at hscale
      refine ⟨.ok (integer negative significand), fun rest hrest => ?_⟩
      rw [List.nil_append, readBehind, marked_append hrest, if_neg hscale, hnone]
      · rfl
      · exact fun after => he.no_point hrest

theorem readNumber_gives (h : IsUnsigned t) : ∃ r, Gives (readNumber negative) t r := by
  cases h with
  | parts whole fraction exponent =>
    obtain ⟨r, hr⟩ := readBehind_gives fraction exponent
    refine ⟨r, fun rest hrest => ?_⟩
    rw [List.append_assoc, List.append_assoc,
      readNumber_whole whole (fraction.stops exponent hrest), ← List.append_assoc, hr rest hrest]

/-! ### Integers -/

/-- Digits are taken in as long as the value fits, and a prefix never has a larger one. -/
theorem takeDigits_eq {n : Nat} (h : ds.foldl (fun n d => n * 10 + digitValue d) n ≤ maxWord) :
    takeDigits n ds = (ds.foldl (fun n d => n * 10 + digitValue d) n, 0) := by
  induction ds generalizing n with
  | nil => rfl
  | cons d ds ih =>
    have hgrows : ∀ (ds : List UInt8) (m : Nat),
        m ≤ ds.foldl (fun n d => n * 10 + digitValue d) m := by
      intro ds
      induction ds with
      | nil => intro m; exact Nat.le_refl m
      | cons d ds ih =>
        intro m
        have hstep : m ≤ m * 10 + digitValue d := by omega
        exact Nat.le_trans hstep (ih _)
    rw [takeDigits, if_pos (Nat.le_trans (hgrows ds _) h)]
    exact ih h

theorem readNumber_integer (whole : IsWhole w) (hsize : digitsValue w ≤ maxWord) :
    Gives (readNumber negative) w (.ok (integer negative (digitsValue w))) := by
  intro rest hrest
  have hmark : ([] ++ rest).head?.any isExponentMark = false := marked_append hrest
  rw [List.nil_append] at hmark
  rw [readNumber_whole whole hrest.stops, takeDigits_eq hsize, readBehind, hmark]
  · rfl
  · exact fun after => IsExponent.none.no_point hrest

end ModelGateway.Json
