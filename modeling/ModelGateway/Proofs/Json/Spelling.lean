/-
Which texts spell a document.

A document has many spellings: blanks, the order of members and the signs of a string are
free.  A member that comes again replaces the earlier one.  Numbers that are no integers are
left out here, since no document that is asked about holds one.  A spelling is counted with
the depth it nests at most, and within the limit it is read as the document.
-/
import ModelGateway.Proofs.Json.Members
import ModelGateway.Proofs.Json.Print
import ModelGateway.Proofs.Json.Reading
import ModelGateway.Proofs.Lists

namespace ModelGateway.Json

variable {depth limit : Nat} {v : Json} {t : List UInt8}

/-- A text spells a document and nests at most so deep. -/
inductive Spells : Nat → Json → List UInt8 → Prop
  | null {n : Nat} : Spells n .null (word "null")
  | true {n : Nat} : Spells n (.bool .true) (word "true")
  | false {n : Nat} : Spells n (.bool .false) (word "false")
  | natural {n : Nat} {w : List UInt8} (whole : IsWhole w) (size : digitsValue w ≤ maxWord) :
      Spells n (ofNat (digitsValue w)) w
  | negative {n : Nat} {w : List UInt8} (whole : IsWhole w) (positive : 0 < digitsValue w)
      (size : digitsValue w ≤ 2 ^ 63) : Spells n (ofInt (-(digitsValue w : Int))) (0x2D :: w)
  | string {n : Nat} {signs : List Sign} {s : String} (means : text? signs = some s.toList) :
      Spells n (.string s) (quoted signs)
  | array {n : Nat} (items : List (Item × Json)) (gap : Gap)
      (values : ∀ i ∈ items, Spells n i.2 i.1.value) :
      Spells (n + 1) (.array (items.map (·.2))) (0x5B :: arrayTail (items.map (·.1)) gap)
  | object {n : Nat} (members : List (Member × String × Json)) (gap : Gap)
      (names : ∀ m ∈ members, text? m.1.name = some m.2.1.toList)
      (values : ∀ m ∈ members, Spells n m.2.2 m.1.item.value) :
      Spells (n + 1) (ofMembers (members.map (·.2))) (0x7B :: objectTail (members.map (·.1)) gap)

theorem IsWhole.isUnsigned {w : List UInt8} (h : IsWhole w) : IsUnsigned w := by
  have hparts := IsUnsigned.parts h .none .none
  rwa [List.append_nil, List.append_nil] at hparts

theorem Spells.isValue (h : Spells depth v t) : IsValue t := by
  induction h with
  | null => exact .null
  | true => exact .true
  | false => exact .false
  | natural whole size => exact .positive whole.isUnsigned
  | negative whole positive size => exact .negative whole.isUnsigned
  | string means => exact .string _
  | array items gap values ih =>
    refine .array _ gap fun i hi => ?_
    obtain ⟨j, hj, rfl⟩ := List.mem_map.mp hi
    exact ih j hj
  | object members gap names values ih =>
    refine .object _ gap fun m hm => ?_
    obtain ⟨k, hk, rfl⟩ := List.mem_map.mp hm
    exact ih k hk

/-- A spelling is read as its document wherever there is room for its depth. -/
theorem Spells.gives (h : Spells depth v t) (hlimit : depth ≤ limit) :
    Gives (readValue limit) t (.ok v) := by
  induction h generalizing limit with
  | null => exact gives_null
  | true => exact gives_true
  | false => exact gives_false
  | natural whole size =>
    exact gives_positive whole.isUnsigned (readNumber_integer whole size)
  | @negative n w whole positive size =>
    have hsize : digitsValue w ≤ maxWord := Nat.le_trans size (by decide)
    have hinteger :
        Json.number (integer .true (digitsValue w)) = ofInt (-(digitsValue w : Int)) := by
      obtain ⟨k, hk⟩ : ∃ k, digitsValue w = k + 1 := Nat.exists_eq_add_one.mpr positive
      have hlimit : digitsValue w ≤ 1 <<< 63 := size
      rw [hk] at hlimit ⊢
      simp only [integer, Bool.not_true, Bool.false_eq_true, if_false, Nat.add_one_sub_one]
      rw [if_pos ⟨Nat.succ_pos k, hlimit⟩]
      rfl
    rw [← hinteger]
    exact gives_negative (readNumber_integer whole hsize)
  | @string n signs s means =>
    have hgives : Gives (readValue limit) (quoted signs) _ := gives_string signs
    rwa [spelt_eq_ok_iff.mpr means] at hgives
  | array items gap values ih =>
    obtain ⟨limit, rfl⟩ : ∃ n, limit = n + 1 := Nat.exists_eq_add_one.mpr (by omega)
    have hitems : ∀ i ∈ items, Gives (readValue limit) i.1.value (.ok i.2) :=
      fun i hi => ih i hi (Nat.le_of_succ_le_succ hlimit)
    have hgives := gives_array gap (fun i hi => (values i hi).isValue.opens) hitems
    rwa [Result.mapM_eq_ok fun i _ => rfl] at hgives
  | object members gap names values ih =>
    obtain ⟨limit, rfl⟩ : ∃ n, limit = n + 1 := Nat.exists_eq_add_one.mpr (by omega)
    have hmembers : ∀ m ∈ members, Gives (readValue limit) m.1.item.value (.ok m.2.2) :=
      fun m hm => ih m hm (Nat.le_of_succ_le_succ hlimit)
    have htold : (members.mapM fun m => do
        Except.ok (← spelt m.1.name, ← Except.ok m.2.2) : Except Error (List (String × Json))) =
          .ok (members.map (·.2)) :=
      Result.mapM_eq_ok fun m hm => by rw [spelt_eq_ok_iff.mpr (names m hm)]; rfl
    have hgives := gives_object gap hmembers
    rwa [htold] at hgives

/-! ### Whole texts -/

/-- A text that spells a document, with blanks around it. -/
def IsSpelling (text : String) (v : Json) : Prop :=
  ∃ (lead : Gap) (t : List UInt8) (trail : Gap),
    Utf8.encode text.toList = lead.bytes ++ (t ++ trail.bytes) ∧ Spells maxDepth v t

theorem parse_of_gives {text : String} {r : Except Error Json} {lead trail : Gap}
    (htext : Utf8.encode text.toList = lead.bytes ++ (t ++ trail.bytes))
    (h : Gives (readValue maxDepth) t r) : Json.parse text = r := by
  have hread := h trail.bytes (by simpa using trail.ends ends_nil)
  rw [parse, htext, parseBytes, readValue_gap, hread]
  cases r with
  | error e => rfl
  | ok v =>
    simp only [Except.map, Result.ok_bind, atEnd_gap]

theorem parse_of_spelling {text : String} (h : IsSpelling text v) : Json.parse text = .ok v := by
  obtain ⟨lead, t, trail, htext, hspells⟩ := h
  exact parse_of_gives htext (hspells.gives (Nat.le_refl _))

/-- A member that spells a document is found in whatever object it stands in, provided that the
object can be read at all. -/
theorem ObjectWith.member?_of_parse {text name : String} {doc whole : Json}
    (b : ObjectWith name (Utf8.encode text.toList)) (h : Spells depth doc b.member.item.value)
    (hdepth : depth < maxDepth) (hparse : Json.parse text = .ok whole) :
    whole.member? name = some doc := by
  have hmember : readAs 126 b.member.item.value = .ok doc :=
    (h.gives (Nat.le_of_lt_succ hdepth)).eq
  have hvalues : ∀ k ∈ b.before ++ b.member :: b.behind,
      Gives (readValue 126) k.item.value (readAs 126 k.item.value) :=
    fun k hk => gives_readAs (b.isValue h.isValue k hk).gives
  have hobject := gives_object b.gap hvalues
  rw [List.map_id'] at hobject
  rw [parse_of_gives b.spells hobject] at hparse
  obtain ⟨members, hmembers, rfl⟩ := Result.map_eq_ok.mp hparse
  -- the members read are some first ones, the one asked for and some last ones
  rw [List.mapM_append, Result.bind_eq_ok] at hmembers
  obtain ⟨first, -, hmembers⟩ := hmembers
  rw [List.mapM_cons, Result.bind_eq_ok] at hmembers
  obtain ⟨more, hmore, hmembers⟩ := hmembers
  simp only [hmember, spelt_eq_ok_iff.mpr b.named, Result.ok_bind] at hmore
  obtain ⟨last, hlast, hmore⟩ := Result.bind_eq_ok.mp hmore
  obtain rfl : (name, doc) :: last = more := Except.ok.inj hmore
  obtain rfl : first ++ (name, doc) :: last = members := Except.ok.inj hmembers
  -- the first ones may have any name, since a later member replaces them; the last ones must not
  refine member?_ofMembers fun m hm hname => ?_
  obtain ⟨k, hk, hkm⟩ := Related.mem_right (Result.forall₂_of_mapM hlast) hm
  obtain ⟨n, hn, hkm⟩ := Result.bind_eq_ok.mp hkm
  obtain ⟨v, -, hkm⟩ := Result.bind_eq_ok.mp hkm
  obtain rfl : (n, v) = m := Except.ok.inj hkm
  have hspelt : spelt k.name = .ok name := by rw [hn, ← hname]
  exact b.others k (List.mem_append_right _ hk) (spelt_eq_ok_iff.mp hspelt)

/-! ### What is written -/

/-- A document is spelt by what is written for it. -/
def IsWritten (depth : Nat) (v : Json) : Prop := Spells depth v (Utf8.encode (write v))

theorem isWritten_null : IsWritten depth .null := Spells.null

theorem isWritten_bool (b : Bool) : IsWritten depth (.bool b) := by
  cases b with
  | true => exact Spells.true
  | false => exact Spells.false

theorem isWritten_string (s : String) : IsWritten depth (.string s) := by
  rw [IsWritten, write, encode_writeString]
  exact .string (text?_map_ofChar _)

theorem isWritten_ofNat {n : Nat} (h : n ≤ maxWord) : IsWritten depth (ofNat n) := by
  have hsize : (UInt64.ofNat n).toNat = n :=
    UInt64.toNat_ofNat_of_lt (Nat.lt_of_le_of_lt h (by decide))
  have hwrite : write (ofNat n) = Nat.toDigits 10 n := by
    simp only [ofNat, write, Number.write, hsize]
    simp
  have hspells := Spells.natural (n := depth) (isWhole_digitBytes n)
    (by rwa [digitsValue_digitBytes])
  rwa [digitsValue_digitBytes, ← encode_toDigits, ← hwrite] at hspells

theorem isWritten_ofInt (i : Int64) : IsWritten depth (ofInt i.toInt) := by
  have hlow := i.le_toInt
  have hhigh := i.toInt_lt
  generalize i.toInt = i at hlow hhigh ⊢
  cases i with
  | ofNat n =>
    have hmax : 2 ^ 63 ≤ maxWord := by decide
    have hn : n < 2 ^ 63 := Int.ofNat_lt.mp hhigh
    exact isWritten_ofNat (by omega)
  | negSucc n =>
    have hn : n < 2 ^ 63 := by omega
    have hsize : (UInt64.ofNat n).toNat = n :=
      UInt64.toNat_ofNat_of_lt (Nat.lt_trans hn (by decide))
    have hwrite : write (ofInt (.negSucc n)) = '-' :: Nat.toDigits 10 (n + 1) := by
      simp only [ofInt, write, Number.write, hsize]
      simp
    have hspells := Spells.negative (n := depth) (isWhole_digitBytes (n + 1))
      (by rw [digitsValue_digitBytes]; omega) (by rw [digitsValue_digitBytes]; omega)
    rw [digitsValue_digitBytes, ← encode_toDigits] at hspells
    rw [IsWritten, hwrite]
    exact hspells

/-- An item without blanks. -/
def bareItem (v : Json) : Item := ⟨Gap.none, Utf8.encode (write v), Gap.none⟩

/-- A member without blanks. -/
def bareMember (m : String × Json) : Member :=
  ⟨Gap.none, m.1.toList.map Sign.ofChar, Gap.none, bareItem m.2⟩

theorem encode_writeItems (vs : List Json) :
    Utf8.encode (writeItems vs) = joined false (vs.map fun v => (bareItem v).bytes) := by
  induction vs with
  | nil => rfl
  | cons v vs ih =>
    have hcomma : Utf8.encode (',' :: (write v ++ writeItems vs)) =
        0x2C :: Utf8.encode (write v ++ writeItems vs) := rfl
    rw [writeItems, List.cons_append, hcomma, Utf8.encode_append, ih]
    simp [joined, led, bareItem, Item.bytes, Gap.none]

theorem encode_write_array (vs : List Json) :
    Utf8.encode (write (.array vs)) = 0x5B :: arrayTail (vs.map bareItem) Gap.none := by
  cases vs with
  | nil => rfl
  | cons v vs =>
    have hopen : Utf8.encode ('[' :: (write v ++ (writeItems vs ++ [']']))) =
        0x5B :: Utf8.encode (write v ++ (writeItems vs ++ [']'])) := rfl
    have hclose : Utf8.encode [']'] = [0x5D] := rfl
    rw [write, List.cons_append, List.cons_append, List.append_assoc, hopen, Utf8.encode_append,
      Utf8.encode_append, encode_writeItems, hclose]
    simp [arrayTail, listed_eq, joined, led, bareItem, Item.bytes, Gap.none, Function.comp_def]

theorem isWritten_array {vs : List Json} (h : ∀ v ∈ vs, IsWritten depth v) :
    IsWritten (depth + 1) (.array vs) := by
  have hspells := Spells.array (n := depth) (vs.map fun v => (bareItem v, v)) Gap.none
    (List.forall_mem_map.mpr h)
  rw [IsWritten, encode_write_array]
  simpa [Function.comp_def] using hspells

theorem encode_writeMember (m : String × Json) (cs : List Char) :
    Utf8.encode (writeString m.1 ++ ':' :: (write m.2 ++ cs)) =
      (bareMember m).bytes ++ Utf8.encode cs := by
  have hcolon : Utf8.encode (':' :: (write m.2 ++ cs)) =
      0x3A :: Utf8.encode (write m.2 ++ cs) := rfl
  rw [Utf8.encode_append, hcolon, Utf8.encode_append, encode_writeString]
  simp [bareMember, Member.bytes, Member.tail, bareItem, Item.bytes, Gap.none]

theorem encode_writeMembers (ms : List (String × Json)) :
    Utf8.encode (writeMembers ms) = joined false (ms.map fun m => (bareMember m).bytes) := by
  induction ms with
  | nil => rfl
  | cons m ms ih =>
    have hcomma : Utf8.encode (',' :: (writeString m.1 ++ ':' :: (write m.2 ++ writeMembers ms))) =
        0x2C :: Utf8.encode (writeString m.1 ++ ':' :: (write m.2 ++ writeMembers ms)) := rfl
    have hwrite : writeMembers (m :: ms) =
        ',' :: (writeString m.1 ++ ':' :: (write m.2 ++ writeMembers ms)) := by
      simp [writeMembers]
    rw [hwrite, hcomma, encode_writeMember, ih]
    simp [joined, led]

theorem encode_write_object (ms : List (String × Json)) :
    Utf8.encode (write (.object ms)) = 0x7B :: objectTail (ms.map bareMember) Gap.none := by
  cases ms with
  | nil => rfl
  | cons m ms =>
    have hwrite : write (.object (m :: ms)) =
        '\x7b' :: (writeString m.1 ++ ':' :: (write m.2 ++ (writeMembers ms ++ ['\x7d']))) := by
      simp [write]
    have hopen : ∀ cs, Utf8.encode ('\x7b' :: cs) = 0x7B :: Utf8.encode cs := fun _ => rfl
    have hclose : Utf8.encode ['\x7d'] = [0x7D] := rfl
    rw [hwrite, hopen, encode_writeMember, Utf8.encode_append, encode_writeMembers, hclose]
    simp [objectTail, listed_eq, joined, led, Gap.none, Function.comp_def]

/-- Members are written in the order of their names. -/
theorem isWritten_ofMembers {ms : List (String × Json)} (h : ∀ m ∈ ms, IsWritten depth m.2) :
    IsWritten (depth + 1) (ofMembers ms) := by
  have hspells := Spells.object (n := depth) ((sorted ms).map fun m => (bareMember m, m)) Gap.none
    (List.forall_mem_map.mpr fun m _ => text?_map_ofChar _)
    (List.forall_mem_map.mpr fun m hm => h m (mem_sorted hm))
  rw [IsWritten, ofMembers_eq, encode_write_object]
  simpa [Function.comp_def, ofMembers_eq, sorted_eq_self (sorted_sorted ms)] using hspells

end ModelGateway.Json
