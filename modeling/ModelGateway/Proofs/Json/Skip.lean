/-
A value that nobody asked for is passed over exactly.

The loop that passes over it keeps the brackets that are open, and each of its rounds goes
from one place in the text to another.  For each kind of round it is said where it leads;
put together, they lead from the beginning of a value to its end with the same brackets
open.  A row of items or members is passed over part by part, so what an array does and
what an object does is shown once.  Fewer rounds than twice the bytes of a value are
enough: a bracket, a comma and a colon have rounds of their own but are bytes, too.
-/
import Mathlib.Data.List.DropRight
import Mathlib.Tactic.FinCases
import ModelGateway.Proofs.Json.Lexeme
import ModelGateway.Proofs.Json.Number

namespace ModelGateway.Json

variable {t rest bytes : List UInt8} {stack below : List Bracket} {o : Bracket} {expect : Expect}
  {n m : Nat}

/-- Where the loop stands. -/
structure Place where
  expect : Expect
  stack : List Bracket
  bytes : List UInt8

/-- What the loop gives from a place on. -/
def Place.skip (p : Place) (rounds : Nat) : Except Error (List UInt8) :=
  skipRounds rounds p.expect p.stack p.bytes

/-- So many rounds lead from one place to another. -/
def Leads (n : Nat) (p q : Place) : Prop := ∀ rounds, p.skip (rounds + n) = q.skip rounds

variable {p q r : Place}

theorem Leads.trans (h : Leads n p q) (h' : Leads m q r) : Leads (m + n) p r := by
  intro rounds
  rw [← Nat.add_assoc, h, h']

theorem Leads.from_same (h : Leads n q r) (h' : Leads 0 p q) : Leads n p r := h'.trans h

theorem Leads.to_same (h : Leads n p q) (h' : Leads 0 q r) : Leads n p r :=
  fun rounds => (h rounds).trans (h' rounds)

/-! ### Rounds -/

/-- Blanks are looked past wherever something is expected. -/
theorem leads_blanks {other : List UInt8} (hblanks : skipBlanks bytes = skipBlanks other)
    (h : expect ≠ .next ∨ stack ≠ []) :
    Leads 0 ⟨expect, stack, bytes⟩ ⟨expect, stack, other⟩ := by
  intro rounds
  cases rounds with
  | zero => rfl
  | succ rounds =>
    show skipRounds (rounds + 1) _ _ _ = skipRounds (rounds + 1) _ _ _
    cases expect with
    | next =>
      obtain ⟨o, below, rfl⟩ := List.exists_cons_of_ne_nil (h.resolve_left (by simp))
      simp only [skipRounds, hblanks]
    | first => cases stack <;> simp only [skipRounds, hblanks]
    | name => simp only [skipRounds, hblanks]
    | value => simp only [skipRounds, hblanks]

theorem leads_gap (g : Gap) (h : expect ≠ .next ∨ stack ≠ []) :
    Leads 0 ⟨expect, stack, g.bytes ++ bytes⟩ ⟨expect, stack, bytes⟩ :=
  leads_blanks (skipBlanks_gap g) h

/-- A value without parts is one round. -/
theorem leads_scanned {scan : List UInt8 → Except Error (List UInt8)} {tail : List UInt8}
    (hscan : scan tail = .ok rest)
    (hround : ∀ rounds, skipRounds (rounds + 1) .value stack bytes =
      scan tail >>= skipRounds rounds .next stack) :
    Leads 1 ⟨.value, stack, bytes⟩ ⟨.next, stack, rest⟩ := by
  intro rounds
  rw [Place.skip, hround, hscan]
  rfl

theorem leads_null : Leads 1 ⟨.value, stack, word "null" ++ rest⟩ ⟨.next, stack, rest⟩ :=
  leads_scanned (readWord_append ['u', 'l', 'l']) fun _ => rfl

theorem leads_true : Leads 1 ⟨.value, stack, word "true" ++ rest⟩ ⟨.next, stack, rest⟩ :=
  leads_scanned (readWord_append ['r', 'u', 'e']) fun _ => rfl

theorem leads_false : Leads 1 ⟨.value, stack, word "false" ++ rest⟩ ⟨.next, stack, rest⟩ :=
  leads_scanned (readWord_append ['a', 'l', 's', 'e']) fun _ => rfl

theorem leads_string (signs : List Sign) :
    Leads 1 ⟨.value, stack, quoted signs ++ rest⟩ ⟨.next, stack, rest⟩ := by
  have hscan : skipString (unquoted signs ++ rest) = .ok rest := skipString_unquoted
  exact leads_scanned hscan fun _ => rfl

theorem leads_negative (h : IsUnsigned t) (hrest : Ends rest) :
    Leads 1 ⟨.value, stack, 0x2D :: t ++ rest⟩ ⟨.next, stack, rest⟩ :=
  leads_scanned (skipNumber_append h hrest) fun _ => rfl

theorem leads_positive (h : IsUnsigned t) (hrest : Ends rest) :
    Leads 1 ⟨.value, stack, t ++ rest⟩ ⟨.next, stack, rest⟩ := by
  refine leads_scanned (skipNumber_append h hrest) fun rounds => ?_
  obtain ⟨d, more, rfl, hd⟩ := h.head
  have hten := mem_digits hd
  fin_cases hten <;> rfl

theorem leads_open_square :
    Leads 1 ⟨.value, stack, 0x5B :: rest⟩ ⟨.first, .square :: stack, rest⟩ := fun _ => rfl

theorem leads_open_brace :
    Leads 1 ⟨.value, stack, 0x7B :: rest⟩ ⟨.first, .brace :: stack, rest⟩ := fun _ => rfl

/-- What a round does behind the name of a member. -/
def skipColon (rounds : Nat) (stack : List Bracket) (bytes : List UInt8) :
    Except Error (List UInt8) :=
  match skipBlanks bytes with
  | [] => .error .unfinished
  | 0x3A :: rest => skipRounds rounds .value stack rest
  | _ => .error .malformed

/-- The name of a member and the colon behind it are one round. -/
theorem leads_name (signs : List Sign) (g : Gap) :
    Leads 1 ⟨.name, stack, quoted signs ++ (g.bytes ++ 0x3A :: rest)⟩ ⟨.value, stack, rest⟩ := by
  intro rounds
  have hround : skipRounds (rounds + 1) .name stack
      (0x22 :: (unquoted signs ++ (g.bytes ++ 0x3A :: rest))) =
        skipString (unquoted signs ++ (g.bytes ++ 0x3A :: rest)) >>= skipColon rounds stack := rfl
  refine hround.trans ?_
  rw [skipString_unquoted, Result.ok_bind, skipColon, skipBlanks_gap]
  rfl

theorem leads_comma :
    Leads 1 ⟨.next, o :: below, 0x2C :: rest⟩ ⟨o.item, o :: below, rest⟩ := by
  intro rounds
  cases o <;> rfl

theorem leads_close_next :
    Leads 1 ⟨.next, o :: below, o.closer :: rest⟩ ⟨.next, below, rest⟩ := by
  intro rounds
  cases o <;> rfl

theorem leads_close_first :
    Leads 1 ⟨.first, o :: below, o.closer :: rest⟩ ⟨.next, below, rest⟩ := by
  intro rounds
  cases o <;> rfl

/-- What was opened is not closed at once. -/
theorem leads_first {b : UInt8} (hbytes : skipBlanks bytes = b :: rest) (hb : b ≠ o.closer) :
    Leads 1 ⟨.first, o :: below, bytes⟩ ⟨o.item, o :: below, bytes⟩ := by
  intro rounds
  have hround : skipRounds (rounds + 1) .first (o :: below) bytes =
      skipRounds rounds o.item (o :: below) (b :: rest) := by
    simp only [skipRounds, hbytes, if_neg hb]
  have hsame : skipBlanks (b :: rest) = skipBlanks bytes := by
    rw [← hbytes, skipBlanks, skipBlanks, List.dropWhile_idempotent]
  exact hround.trans (leads_blanks hsame (Or.inr (by simp)) rounds)

/-! ### Rows -/

/-- What a bracket may hold: from what an item begins with, it leads to what follows an item. -/
structure IsPart (o : Bracket) (part : List UInt8) : Prop where
  begins : ∀ rest, ∃ b more, skipBlanks (part ++ rest) = b :: more ∧ b ≠ o.closer
  leads : ∃ n < 2 * part.length, ∀ below rest, Ends rest →
    Leads n ⟨o.item, o :: below, part ++ rest⟩ ⟨.next, o :: below, rest⟩

/-- Behind a part come the others, each behind its comma, and then the bracket is closed. -/
theorem leads_parts {parts : List (List UInt8)} (h : ∀ part ∈ parts, IsPart o part) (g : Gap) :
    ∃ n ≤ 2 * (joined false parts).length + 1, ∀ below rest,
      Leads n ⟨.next, o :: below, joined false parts ++ (g.bytes ++ o.closer :: rest)⟩
        ⟨.next, below, rest⟩ := by
  induction parts with
  | nil =>
    exact ⟨1, by simp, fun below rest => (leads_gap g (Or.inr (by simp))).trans leads_close_next⟩
  | cons part parts ih =>
    obtain ⟨m, hm, hparts⟩ := ih fun x hx => h x (List.mem_cons_of_mem part hx)
    obtain ⟨n, hn, hpart⟩ := (h part List.mem_cons_self).leads
    refine ⟨m + (n + 1), ?_, fun below rest => ?_⟩
    · have hlength : (joined false (part :: parts)).length =
          part.length + (joined false parts).length + 1 := by simp [joined, led]
      omega
    · have hends : Ends (joined false parts ++ (g.bytes ++ o.closer :: rest)) :=
        ends_joined (g.ends (by cases o <;> simp [Ends, Bracket.closer]))
      rw [joined_append]
      exact (leads_comma.trans (hpart below _ hends)).trans (hparts below rest)

/-- What stands between two brackets is passed over with both. -/
theorem leads_listed {parts : List (List UInt8)} (h : ∀ part ∈ parts, IsPart o part) (g : Gap) :
    ∃ n ≤ 2 * (listed parts).length + 1, ∀ below rest,
      Leads n ⟨.first, o :: below, listed parts ++ (g.bytes ++ o.closer :: rest)⟩
        ⟨.next, below, rest⟩ := by
  cases parts with
  | nil =>
    exact ⟨1, by simp, fun below rest => (leads_gap g (Or.inr (by simp))).trans leads_close_first⟩
  | cons part parts =>
    obtain ⟨m, hm, hparts⟩ := leads_parts (fun x hx => h x (List.mem_cons_of_mem part hx)) g
    obtain ⟨hbegins, n, hn, hpart⟩ := h part List.mem_cons_self
    refine ⟨m + (n + 1), ?_, fun below rest => ?_⟩
    · have hlength : (listed (part :: parts)).length =
          part.length + (joined false parts).length := by simp [listed_eq, joined, led]
      omega
    · have hends : Ends (joined false parts ++ (g.bytes ++ o.closer :: rest)) :=
        ends_joined (g.ends (by cases o <;> simp [Ends, Bracket.closer]))
      rw [listed_eq, joined_append]
      obtain ⟨b, more, hb, hne⟩ := hbegins (joined false parts ++ (g.bytes ++ o.closer :: rest))
      exact ((leads_first hb hne).trans (hpart below _ hends)).trans (hparts below rest)

/-! ### Values -/

/-- A value is passed over in fewer rounds than twice its bytes, whatever is open around it. -/
def IsPassed (t : List UInt8) : Prop :=
  ∃ n < 2 * t.length, ∀ stack rest, Ends rest →
    Leads n ⟨.value, stack, t ++ rest⟩ ⟨.next, stack, rest⟩

theorem leads_item (i : Item) (hstack : stack ≠ []) (hrest : Ends rest)
    (h : ∀ rest, Ends rest → Leads n ⟨.value, stack, i.value ++ rest⟩ ⟨.next, stack, rest⟩) :
    Leads n ⟨.value, stack, i.bytes ++ rest⟩ ⟨.next, stack, rest⟩ := by
  rw [Item.bytes, List.append_assoc, List.append_assoc]
  have hvalue := h _ (i.behind.ends hrest)
  exact (hvalue.from_same (leads_gap i.before (Or.inr hstack))).to_same
    (leads_gap i.behind (Or.inr hstack))

theorem Item.isPart {i : Item} (hopens : Opens i.value) (h : IsPassed i.value) :
    IsPart .square i.bytes where
  begins := by
    intro rest
    obtain ⟨b, more, hvalue, hb, hne⟩ := hopens
    refine ⟨b, more ++ (i.behind.bytes ++ rest), ?_, hne⟩
    rw [Item.bytes, List.append_assoc, skipBlanks_gap, hvalue, List.append_assoc]
    exact skipBlanks_cons hb
  leads := by
    obtain ⟨n, hn, hvalue⟩ := h
    refine ⟨n, ?_, fun below rest hrest => leads_item i (by simp) hrest (hvalue _)⟩
    simp only [Item.bytes, List.length_append]
    omega

theorem Member.isPart {m : Member} (h : IsPassed m.item.value) : IsPart .brace m.bytes where
  begins := by
    intro rest
    have hbytes : skipBlanks (m.bytes ++ rest) = 0x22 :: (unquoted m.name ++ (m.tail ++ rest)) := by
      rw [Member.bytes, List.append_assoc, skipBlanks_gap, quoted, List.cons_append,
        List.cons_append, List.append_assoc]
      exact skipBlanks_cons (by decide)
    exact ⟨_, _, hbytes, by decide⟩
  leads := by
    obtain ⟨n, hn, hvalue⟩ := h
    refine ⟨n + 1, ?_, fun below rest hrest => ?_⟩
    · simp only [Member.bytes, Member.tail, Item.bytes, quoted, List.length_append,
        List.length_cons]
      omega
    · have hbytes : m.bytes ++ rest = m.before.bytes ++ (quoted m.name ++
          (m.behind.bytes ++ 0x3A :: (m.item.bytes ++ rest))) := by
        simp [Member.bytes, Member.tail]
      have hitem := leads_item m.item (by simp) hrest (hvalue (.brace :: below))
      rw [hbytes]
      exact ((leads_name m.name m.behind).from_same (leads_gap m.before (Or.inr (by simp)))).trans
        hitem

theorem isPassed_bracketed {opener : UInt8} {parts : List (List UInt8)} (g : Gap)
    (hopen : ∀ stack rest, Leads 1 ⟨.value, stack, opener :: rest⟩ ⟨.first, o :: stack, rest⟩)
    (h : ∀ part ∈ parts, IsPart o part) :
    IsPassed (opener :: (listed parts ++ (g.bytes ++ [o.closer]))) := by
  obtain ⟨n, hn, hrow⟩ := leads_listed h g
  refine ⟨n + 1, ?_, fun stack rest _ => ?_⟩
  · simp only [List.length_append, List.length_cons]
    omega
  · have hbytes : opener :: (listed parts ++ (g.bytes ++ [o.closer])) ++ rest =
        opener :: (listed parts ++ (g.bytes ++ o.closer :: rest)) := by simp
    rw [hbytes]
    exact (hopen stack _).trans (hrow stack rest)

theorem IsValue.isPassed (h : IsValue t) : IsPassed t := by
  induction h with
  | null => exact ⟨1, by decide, fun stack rest _ => leads_null⟩
  | true => exact ⟨1, by decide, fun stack rest _ => leads_true⟩
  | false => exact ⟨1, by decide, fun stack rest _ => leads_false⟩
  | positive h =>
    obtain ⟨d, more, rfl, hd⟩ := h.head
    exact ⟨1, by simp; omega, fun stack rest hrest => leads_positive h hrest⟩
  | negative h => exact ⟨1, by simp; omega, fun stack rest hrest => leads_negative h hrest⟩
  | string signs => exact ⟨1, by simp [quoted]; omega, fun stack rest _ => leads_string signs⟩
  | array items gap values ih =>
    refine isPassed_bracketed gap (fun _ _ => leads_open_square) fun part hpart => ?_
    obtain ⟨i, hi, rfl⟩ := List.mem_map.mp hpart
    exact i.isPart (values i hi).opens (ih i hi)
  | object members gap values ih =>
    refine isPassed_bracketed gap (fun _ _ => leads_open_brace) fun part hpart => ?_
    obtain ⟨m, hm, rfl⟩ := List.mem_map.mp hpart
    exact m.isPart (ih m hm)

/-- A value is passed over to its end, whatever blanks stand before it. -/
theorem skipValue_append (g : Gap) (h : IsValue t) (hrest : Ends rest) :
    skipValue (g.bytes ++ (t ++ rest)) = .ok rest := by
  obtain ⟨n, hn, hleads⟩ := h.isPassed
  -- at least one round is left, which finds no bracket open
  have hrounds : 2 * (g.bytes ++ (t ++ rest)).length + 2 =
      (2 * (g.bytes ++ (t ++ rest)).length + 1 - n) + 1 + n := by
    rw [List.length_append, List.length_append]
    omega
  rw [skipValue, hrounds]
  exact ((hleads [] rest hrest).from_same (leads_gap g (Or.inl (by simp)))) _

end ModelGateway.Json
