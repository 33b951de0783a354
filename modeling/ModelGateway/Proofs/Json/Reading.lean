/-
A text is read part by part.

What a value is read as depends on nothing that stands behind it, so reading an array or an
object is reading its parts one after the other: the items each on their own, and of each
member the name and then the value.  The first part that cannot be read decides the error.
This holds for every text of the grammar, whether it can be read or not.
-/
import Mathlib.Tactic.FinCases
import ModelGateway.Proofs.Json.Lexeme
import ModelGateway.Proofs.Json.Number

namespace ModelGateway.Json

variable {t rest bytes : List UInt8} {isFirst : Bool} {rounds depth : Nat}

theorem Gives.eq {α : Type} {read : List UInt8 → Except Error (α × List UInt8)}
    {r : Except Error α} (h : Gives read t r) : (read t).map Prod.fst = r := by
  have hread : read t = r.map (·, []) := by simpa using h [] ends_nil
  rw [hread]
  cases r <;> rfl

/-! ### Between items -/

theorem skipBlanks_item {i : Item} (h : Opens i.value) :
    skipBlanks (i.bytes ++ rest) = i.value ++ (i.behind.bytes ++ rest) := by
  rw [Item.bytes, List.append_assoc, skipBlanks_gap, List.append_assoc, skipBlanks_of_opens h]

/-- The item that must stand behind a comma. -/
def itemBehindComma : List UInt8 → Except Error (Option (List UInt8))
  | [] => .error .unfinished
  | 0x5D :: _ => .error .malformed
  | item => .ok (some item)

theorem nextItem_led {i : Item} (h : Opens i.value) :
    nextItem isFirst (led isFirst (i.bytes ++ rest)) =
      .ok (some (i.value ++ (i.behind.bytes ++ rest))) := by
  have hblanks : skipBlanks (i.bytes ++ rest) = _ := skipBlanks_item h
  obtain ⟨b, more, hvalue, hb, hne⟩ := h
  rw [hvalue, List.cons_append] at hblanks ⊢
  cases isFirst with
  | true =>
    rw [led, if_pos rfl, nextItem, hblanks]
    split <;> simp_all
  | false =>
    have hcomma : nextItem false (led false (i.bytes ++ rest)) =
        itemBehindComma (skipBlanks (i.bytes ++ rest)) := rfl
    rw [hcomma, hblanks]
    unfold itemBehindComma
    split <;> simp_all

theorem readName_quoted (g : Gap) (signs : List Sign) :
    readName (g.bytes ++ (quoted signs ++ rest)) = (spelt signs).map (·, rest) := by
  have hname : readName (quoted signs ++ rest) =
      readString (unquoted signs ++ rest) >>= fun x => .ok (x.1.1, x.2) := rfl
  have hgap : readName (g.bytes ++ (quoted signs ++ rest)) = readName (quoted signs ++ rest) := by
    simp only [readName, skipBlanks_gap]
  rw [hgap, hname, readString_unquoted]
  cases spelt signs <;> rfl

theorem nextMember_led (m : Member) :
    nextMember isFirst (led isFirst (m.bytes ++ rest)) =
      (spelt m.name).map fun name => some (name, m.tail ++ rest) := by
  have hbytes : m.bytes ++ rest = m.before.bytes ++ (quoted m.name ++ (m.tail ++ rest)) := by
    simp [Member.bytes]
  have hmap : ∀ g : Gap, (readName (g.bytes ++ (quoted m.name ++ (m.tail ++ rest)))).map some =
      (spelt m.name).map fun name => some (name, m.tail ++ rest) := by
    intro g
    rw [readName_quoted]
    cases spelt m.name <;> rfl
  rw [hbytes, ← hmap m.before]
  cases isFirst with
  | false => rfl
  | true =>
    -- the blanks before the first name are looked past to see whether there is one
    have hfirst : skipBlanks (led true (m.before.bytes ++ (quoted m.name ++ (m.tail ++ rest)))) =
        quoted m.name ++ (m.tail ++ rest) := by
      rw [led, if_pos rfl, skipBlanks_gap]
      exact skipBlanks_of_opens (IsValue.string m.name).opens
    rw [hmap m.before, ← hmap Gap.none, nextMember, hfirst]
    rfl

theorem readColon_tail (m : Member) : readColon (m.tail ++ rest) = .ok (m.item.bytes ++ rest) := by
  rw [Member.tail, List.append_assoc, readColon, skipBlanks_gap]
  rfl

/-! ### Rows

Items and members are read by loops that differ only in what they read and in the bracket
that ends them.
-/

section
variable {β ι : Type} {next : Bool → List UInt8 → Except Error (Option (β × List UInt8))}
  {close : List UInt8 → Except Error (List UInt8)} {closer : UInt8} {acc : List β}
  {item : List UInt8 → Except Error (Json × List UInt8)}

/-- Read parts as long as there are any. -/
def readRow (next : Bool → List UInt8 → Except Error (Option (β × List UInt8)))
    (close : List UInt8 → Except Error (List UInt8)) :
    Nat → Bool → List β → List UInt8 → Except Error (List β × List UInt8)
  | 0, _, _, _ => .error .unfinished
  | rounds + 1, isFirst, acc, bytes => do
    match ← next isFirst bytes with
    | none => .ok (acc.reverse, ← close bytes)
    | some (x, rest) => readRow next close rounds false (x :: acc) rest

/-- The next item, if there is one. -/
def itemAt (item : List UInt8 → Except Error (Json × List UInt8)) (isFirst : Bool)
    (bytes : List UInt8) : Except Error (Option (Json × List UInt8)) := do
  match ← nextItem isFirst bytes with
  | none => .ok none
  | some start => (item start).map some

/-- The next member, if there is one. -/
def memberAt (item : List UInt8 → Except Error (Json × List UInt8)) (isFirst : Bool)
    (bytes : List UInt8) : Except Error (Option ((String × Json) × List UInt8)) := do
  match ← nextMember isFirst bytes with
  | none => .ok none
  | some (name, rest) =>
    let (v, rest) ← item (← readColon rest)
    .ok (some ((name, v), rest))

theorem readItems_eq {acc : List Json} :
    readItems item rounds isFirst acc bytes =
      readRow (itemAt item) closeArray rounds isFirst acc bytes := by
  induction rounds generalizing isFirst acc bytes with
  | zero => rfl
  | succ rounds ih =>
    rw [readItems, readRow, itemAt]
    cases nextItem isFirst bytes with
    | error e => rfl
    | ok start =>
      cases start with
      | none => rfl
      | some start =>
        simp only [Result.ok_bind]
        cases item start with
        | error e => rfl
        | ok x => exact ih

theorem readMembers_eq {acc : List (String × Json)} :
    readMembers item rounds isFirst acc bytes =
      readRow (memberAt item) closeObject rounds isFirst acc bytes := by
  induction rounds generalizing isFirst acc bytes with
  | zero => rfl
  | succ rounds ih =>
    rw [readMembers, readRow, memberAt]
    cases nextMember isFirst bytes with
    | error e => rfl
    | ok start =>
      cases start with
      | none => rfl
      | some start =>
        simp only [Result.ok_bind]
        cases readColon start.2 with
        | error e => rfl
        | ok value =>
          simp only [Result.ok_bind]
          cases item value with
          | error e => rfl
          | ok x => exact ih

/-- What brackets a row: blanks do not count, and one byte ends it. -/
structure IsRow (next : Bool → List UInt8 → Except Error (Option (β × List UInt8)))
    (close : List UInt8 → Except Error (List UInt8)) (closer : UInt8) : Prop where
  next_gap : ∀ isFirst (g : Gap) bytes, next isFirst (g.bytes ++ bytes) = next isFirst bytes
  next_close : ∀ isFirst rest, next isFirst (closer :: rest) = .ok none
  close_gap : ∀ (g : Gap) bytes, close (g.bytes ++ bytes) = close bytes
  close_close : ∀ rest, close (closer :: rest) = .ok rest
  ends : ∀ rest, Ends (closer :: rest)

theorem isRow_items : IsRow (itemAt item) closeArray 0x5D where
  next_gap _ _ _ := by simp only [itemAt, nextItem, skipBlanks_gap]
  next_close _ _ := rfl
  close_gap _ _ := by simp only [closeArray, skipBlanks_gap]
  close_close _ := rfl
  ends _ := ends_square

theorem isRow_members : IsRow (memberAt item) closeObject 0x7D where
  next_gap _ _ _ := by simp only [memberAt, nextMember, skipBlanks_gap]
  next_close _ _ := rfl
  close_gap _ _ := by simp only [closeObject, skipBlanks_gap]
  close_close _ := rfl
  ends _ := ends_brace

theorem IsRow.read_gap (h : IsRow next close closer) (g : Gap) :
    readRow next close rounds isFirst acc (g.bytes ++ bytes) =
      readRow next close rounds isFirst acc bytes := by
  cases rounds with
  | zero => rfl
  | succ rounds => simp only [readRow, h.next_gap, h.close_gap]

/-- A part is read as the same whether it is the first one or not and whatever follows it. -/
def PartGives (next : Bool → List UInt8 → Except Error (Option (β × List UInt8)))
    (part : List UInt8) (r : Except Error β) : Prop :=
  ∀ isFirst rest, Ends rest →
    ∃ g : Gap, next isFirst (led isFirst (part ++ rest)) = r.map fun x => some (x, g.bytes ++ rest)

theorem IsRow.read_part {part : List UInt8} {r : Except Error β} (h : IsRow next close closer)
    (hpart : PartGives next part r) (hrest : Ends rest) :
    readRow next close (rounds + 1) isFirst acc (led isFirst (part ++ rest)) =
      r >>= fun x => readRow next close rounds false (x :: acc) rest := by
  obtain ⟨g, hg⟩ := hpart isFirst rest hrest
  rw [readRow, hg]
  cases r with
  | error e => rfl
  | ok x => exact h.read_gap g

theorem IsRow.read_close (h : IsRow next close closer) (g : Gap) :
    readRow next close (rounds + 1) isFirst acc (g.bytes ++ closer :: rest) =
      .ok (acc.reverse, rest) := by
  rw [h.read_gap, readRow, h.next_close, Result.ok_bind]
  simp only [h.close_close]
  rfl

variable {text : ι → List UInt8} {r : ι → Except Error β}

/-- A row is read by reading its parts one after the other. -/
theorem IsRow.read_joined {parts : List ι} (h : IsRow next close closer) (g : Gap)
    (hparts : ∀ i ∈ parts, PartGives next (text i) (r i)) (hrounds : parts.length < rounds) :
    readRow next close rounds isFirst acc
        (joined isFirst (parts.map text) ++ (g.bytes ++ closer :: rest)) =
      (parts.mapM r).map fun xs => (acc.reverse ++ xs, rest) := by
  obtain ⟨n, rfl⟩ : ∃ n, rounds = n + 1 := Nat.exists_eq_add_one.mpr (Nat.zero_lt_of_lt hrounds)
  induction parts generalizing n isFirst acc with
  | nil =>
    rw [List.map_nil, joined, List.nil_append, h.read_close]
    simp [Except.map, pure, Except.pure]
  | cons i parts ih =>
    have hends : Ends (joined false (parts.map text) ++ (g.bytes ++ closer :: rest)) :=
      ends_joined (g.ends (h.ends rest))
    rw [List.map_cons, joined_append, h.read_part (hparts i List.mem_cons_self) hends,
      List.mapM_cons]
    obtain ⟨k, rfl⟩ : ∃ k, n = k + 1 :=
      Nat.exists_eq_add_one.mpr (Nat.zero_lt_of_lt (Nat.lt_of_succ_lt_succ hrounds))
    cases r i with
    | error e => rfl
    | ok x =>
      rw [Result.ok_bind, ih (fun j hj => hparts j (List.mem_cons_of_mem i hj)) k
        (Nat.lt_of_succ_lt_succ hrounds)]
      cases parts.mapM r with
      | error e => rfl
      | ok xs => simp [Except.map, bind, Except.bind, pure, Except.pure]

/-- Every part but the first has a comma of its own, so there are no more parts than bytes. -/
theorem length_le_joined (isFirst : Bool) (text : ι → List UInt8) (parts : List ι) :
    parts.length ≤ (joined isFirst (parts.map text)).length + 1 := by
  have hbehind : ∀ parts : List ι, parts.length ≤ (joined false (parts.map text)).length := by
    intro parts
    induction parts with
    | nil => simp
    | cons i parts ih =>
      have hlength : (joined false ((i :: parts).map text)).length =
          (text i).length + (joined false (parts.map text)).length + 1 := by simp [joined, led]
      rw [List.length_cons]
      omega
  cases parts with
  | nil => simp
  | cons i parts =>
    have hlength : (joined false (parts.map text)).length ≤
        (joined isFirst ((i :: parts).map text)).length := by
      cases isFirst with
      | true => simp [joined, led]
      | false =>
        simp only [List.map_cons, joined, led, Bool.false_eq_true, if_false, List.length_cons,
          List.length_append]
        omega
    exact Nat.succ_le_succ (Nat.le_trans (hbehind parts) hlength)

/-- A row with its closing bracket is read in no more rounds than it has bytes. -/
theorem IsRow.read_listed {parts : List ι} {row : List UInt8} (h : IsRow next close closer)
    (g : Gap) (hrow : row = listed (parts.map text) ++ (g.bytes ++ [closer]))
    (hparts : ∀ i ∈ parts, PartGives next (text i) (r i)) :
    readRow next close ((row ++ rest).length + 1) true [] (row ++ rest) =
      (parts.mapM r).map (·, rest) := by
  have hbytes : row ++ rest =
      joined true (parts.map text) ++ (g.bytes ++ closer :: rest) := by
    simp [hrow, listed_eq]
  have hrounds : parts.length < (row ++ rest).length + 1 := by
    have hlength := length_le_joined true text parts
    rw [hbytes, List.length_append, List.length_append, List.length_cons]
    omega
  rw [hbytes] at hrounds ⊢
  rw [h.read_joined g hparts hrounds]
  rfl

end

/-! ### Values -/

/-- What a value is read as. -/
def readAs (depth : Nat) (t : List UInt8) : Except Error Json := (readValue depth t).map Prod.fst

theorem gives_readAs (h : ∃ r, Gives (readValue depth) t r) :
    Gives (readValue depth) t (readAs depth t) := by
  obtain ⟨r, hr⟩ := h
  rwa [readAs, hr.eq]

section
variable {item : List UInt8 → Except Error (Json × List UInt8)}

theorem Item.partGives {i : Item} {r : Except Error Json} (hopens : Opens i.value)
    (h : Gives item i.value r) : PartGives (itemAt item) i.bytes r := by
  intro isFirst rest hrest
  refine ⟨i.behind, ?_⟩
  rw [itemAt, nextItem_led hopens, Result.ok_bind]
  simp only [h _ (i.behind.ends hrest)]
  cases r <;> rfl

theorem Member.partGives {m : Member} {r : Except Error Json}
    (hgap : ∀ (g : Gap) bytes, item (g.bytes ++ bytes) = item bytes)
    (h : Gives item m.item.value r) :
    PartGives (memberAt item) m.bytes (do .ok (← spelt m.name, ← r)) := by
  intro isFirst rest hrest
  refine ⟨m.item.behind, ?_⟩
  rw [memberAt, nextMember_led]
  cases spelt m.name with
  | error e => rfl
  | ok name =>
    have hitem : item (m.item.bytes ++ rest) = r.map (·, m.item.behind.bytes ++ rest) := by
      rw [Item.bytes, List.append_assoc, List.append_assoc, hgap, h _ (m.item.behind.ends hrest)]
    show (readColon (m.tail ++ rest) >>= fun value =>
      item value >>= fun x => .ok (some ((name, x.1), x.2))) = _
    rw [readColon_tail, Result.ok_bind, hitem]
    cases r <;> rfl

end

theorem atEnd_gap (g : Gap) : atEnd g.bytes = .ok () := by
  have hblanks : skipBlanks (g.bytes ++ []) = [] := skipBlanks_gap g
  rw [List.append_nil] at hblanks
  rw [atEnd, hblanks]
  rfl

theorem readValue_gap (g : Gap) (bytes : List UInt8) :
    readValue depth (g.bytes ++ bytes) = readValue depth bytes := by
  cases depth <;> simp only [readValue, skipBlanks_gap]

section
variable {ι : Type} {parts : List ι} {r : ι → Except Error Json}

/-- An array is what its items are, and the first that cannot be read decides the error. -/
theorem gives_array {item : ι → Item} (g : Gap) (hopens : ∀ i ∈ parts, Opens (item i).value)
    (h : ∀ i ∈ parts, Gives (readValue depth) (item i).value (r i)) :
    Gives (readValue (depth + 1)) (0x5B :: arrayTail (parts.map item) g)
      ((parts.mapM r).map Json.array) := by
  intro rest _
  have hread : ∀ row : List UInt8, readValue (depth + 1) (0x5B :: row) =
      readItems (readValue depth) (row.length + 1) true [] row >>= fun x =>
        .ok (.array x.1, x.2) := fun row => rfl
  have htail : arrayTail (parts.map item) g =
      listed (parts.map fun i => (item i).bytes) ++ (g.bytes ++ [0x5D]) := by
    simp [arrayTail, Function.comp_def]
  rw [List.cons_append, hread, readItems_eq, isRow_items.read_listed g htail fun i hi =>
    Item.partGives (hopens i hi) (h i hi)]
  cases parts.mapM r <;> rfl

/-- An object is what its members are, and the first name or value that cannot be read decides
the error. -/
theorem gives_object {member : ι → Member} (g : Gap)
    (h : ∀ i ∈ parts, Gives (readValue depth) (member i).item.value (r i)) :
    Gives (readValue (depth + 1)) (0x7B :: objectTail (parts.map member) g)
      ((parts.mapM fun i => do .ok (← spelt (member i).name, ← r i)).map ofMembers) := by
  intro rest _
  have hread : ∀ row : List UInt8, readValue (depth + 1) (0x7B :: row) =
      readMembers (readValue depth) (row.length + 1) true [] row >>= fun x =>
        .ok (ofMembers x.1, x.2) := fun row => rfl
  have htail : objectTail (parts.map member) g =
      listed (parts.map fun i => (member i).bytes) ++ (g.bytes ++ [0x7D]) := by
    simp [objectTail, Function.comp_def]
  rw [List.cons_append, hread, readMembers_eq, isRow_members.read_listed g htail fun i hi =>
    Member.partGives readValue_gap (h i hi)]
  cases (parts.mapM fun i => do
    Except.ok (← spelt (member i).name, ← r i) : Except Error (List (String × Json))) <;> rfl

end

theorem gives_word {first : UInt8} {v : Json} (cs : List Char)
    (h : ∀ rest, readValue depth (first :: rest) = do .ok (v, ← readWord cs rest)) :
    Gives (readValue depth) (first :: cs.map byte) (.ok v) := by
  intro rest _
  rw [List.cons_append, h, readWord_append]
  rfl

theorem gives_null : Gives (readValue depth) (word "null") (.ok .null) :=
  gives_word ['u', 'l', 'l'] fun _ => by cases depth <;> rfl

theorem gives_true : Gives (readValue depth) (word "true") (.ok (.bool true)) :=
  gives_word ['r', 'u', 'e'] fun _ => by cases depth <;> rfl

theorem gives_false : Gives (readValue depth) (word "false") (.ok (.bool false)) :=
  gives_word ['a', 'l', 's', 'e'] fun _ => by cases depth <;> rfl

theorem gives_string (signs : List Sign) :
    Gives (readValue depth) (quoted signs) ((spelt signs).map Json.string) := by
  intro rest _
  have hread : readValue depth (quoted signs ++ rest) =
      readString (unquoted signs ++ rest) >>= fun x => .ok (.string x.1.1, x.2) := by
    cases depth <;> rfl
  rw [hread, readString_unquoted]
  cases spelt signs <;> rfl

theorem gives_number {negative : Bool} {r : Except Error Number} {tail : List UInt8}
    (h : Gives (readNumber negative) tail r)
    (hread : ∀ rest, readValue depth (t ++ rest) =
      readNumber negative (tail ++ rest) >>= fun x => .ok (.number x.1, x.2)) :
    Gives (readValue depth) t (r.map Json.number) := by
  intro rest hrest
  rw [hread, h rest hrest]
  cases r <;> rfl

theorem gives_negative {r : Except Error Number} (h : Gives (readNumber true) t r) :
    Gives (readValue depth) (0x2D :: t) (r.map Json.number) :=
  gives_number h fun rest => by cases depth <;> rfl

theorem gives_positive {r : Except Error Number} (ht : IsUnsigned t)
    (h : Gives (readNumber false) t r) : Gives (readValue depth) t (r.map Json.number) := by
  refine gives_number h fun rest => ?_
  obtain ⟨d, more, rfl, hd⟩ := ht.head
  have hten := mem_digits hd
  cases depth <;> fin_cases hten <;> rfl

/-- What a value is read as, or why it cannot be read, does not depend on what follows it. -/
theorem IsValue.gives (h : IsValue t) : ∃ r, Gives (readValue depth) t r := by
  induction h generalizing depth with
  | null => exact ⟨_, gives_null⟩
  | true => exact ⟨_, gives_true⟩
  | false => exact ⟨_, gives_false⟩
  | positive h =>
    obtain ⟨r, hr⟩ := readNumber_gives h
    exact ⟨_, gives_positive h hr⟩
  | negative h =>
    obtain ⟨r, hr⟩ := readNumber_gives h
    exact ⟨_, gives_negative hr⟩
  | string signs => exact ⟨_, gives_string signs⟩
  | array items gap values ih =>
    cases depth with
    | zero => exact ⟨.error .malformed, fun rest _ => rfl⟩
    | succ depth =>
      have hitems : ∀ i ∈ items, Gives (readValue depth) i.value (readAs depth i.value) :=
        fun i hi => gives_readAs (ih i hi)
      rw [← List.map_id items]
      exact ⟨_, gives_array gap (fun i hi => (values i hi).opens) hitems⟩
  | object members gap values ih =>
    cases depth with
    | zero => exact ⟨.error .malformed, fun rest _ => rfl⟩
    | succ depth =>
      have hmembers : ∀ m ∈ members,
          Gives (readValue depth) m.item.value (readAs depth m.item.value) :=
        fun m hm => gives_readAs (ih m hm)
      rw [← List.map_id members]
      exact ⟨_, gives_object gap hmembers⟩

end ModelGateway.Json
