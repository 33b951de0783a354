/-
The JSON grammar.

What stands here says which bytes are a JSON text and what a string in it means, without a
word on how texts are read.  Blanks may stand around every value, name and mark.  A string
is a row of signs, each a character as it is or an escape; an escape of four digits is half
a character if its code is a surrogate, and then only a pair of them means something.  The
nesting of values has no limit, and numbers have no size.
-/
import ModelGateway.Json.Lexeme

namespace ModelGateway.Json

/-- Blanks between the parts of a text. -/
structure Gap where
  bytes : List UInt8
  blank : ∀ b ∈ bytes, isBlank b = true

/-- No blanks. -/
def Gap.none : Gap := ⟨[], by simp⟩

/-! ### Strings -/

/-- A hexadecimal digit, in either case. -/
structure HexDigit where
  value : Fin 16
  upper : Bool

/-- A hexadecimal digit as it is written. -/
def HexDigit.byte (h : HexDigit) : UInt8 :=
  Json.byte (if h.upper then Text.hexUpper h.value else Text.hexLower h.value)

/-- The code of an escape: four hexadecimal digits. -/
structure CodeUnit where
  first : HexDigit
  second : HexDigit
  third : HexDigit
  fourth : HexDigit

namespace CodeUnit

/-- The digits as they are written. -/
def bytes (u : CodeUnit) : List UInt8 :=
  [u.first.byte, u.second.byte, u.third.byte, u.fourth.byte]

/-- The number that the digits make up. -/
def value (u : CodeUnit) : Nat :=
  ((u.first.value * 16 + u.second.value) * 16 + u.third.value) * 16 + u.fourth.value

end CodeUnit

/-- An escape of one letter. -/
inductive Escape
  | quote
  | backslash
  | slash
  | backspace
  | formFeed
  | lineFeed
  | carriageReturn
  | tab

namespace Escape

/-- The letter behind the backslash. -/
def letter : Escape → Char
  | quote => '"'
  | backslash => '\\'
  | slash => '/'
  | backspace => 'b'
  | formFeed => 'f'
  | lineFeed => 'n'
  | carriageReturn => 'r'
  | tab => 't'

/-- The character that is meant. -/
def char : Escape → Char
  | quote => '"'
  | backslash => '\\'
  | slash => '/'
  | backspace => '\x08'
  | formFeed => '\x0c'
  | lineFeed => '\n'
  | carriageReturn => '\r'
  | tab => '\t'

end Escape

/-- Whether a character may stand in a string as it is. -/
def MayStand (c : Char) : Prop := 0x20 ≤ c.toNat ∧ c ≠ '"' ∧ c ≠ '\\'

/-- A part of a string. -/
inductive Sign
  | plain (c : Char) (h : MayStand c)
  | letter (e : Escape)
  | code (u : CodeUnit)

namespace Sign

/-- A sign as it is written. -/
def bytes : Sign → List UInt8
  | plain c _ => String.utf8EncodeChar c
  | letter e => [0x5C, byte e.letter]
  | code u => 0x5C :: 0x75 :: u.bytes

/-- Whether a sign is the character itself. -/
def isPlain : Sign → Bool
  | plain _ _ => true
  | _ => false

end Sign

/-- What some signs mean; nothing if one of them is half a character without its other half. -/
def text? : List Sign → Option (List Char)
  | [] => some []
  | .plain c _ :: signs => (text? signs).map (c :: ·)
  | .letter e :: signs => (text? signs).map (e.char :: ·)
  | .code u :: signs =>
    if isLowHalf u.value then none
    else if isHighHalf u.value then
      match signs with
      | .code w :: signs =>
        if isLowHalf w.value then (text? signs).map (Char.ofNat (joinHalves u.value w.value) :: ·)
        else none
      | _ => none
    else (text? signs).map (Char.ofNat u.value :: ·)

/-- A string behind its opening quote. -/
def unquoted (signs : List Sign) : List UInt8 := signs.flatMap Sign.bytes ++ [0x22]

@[simp] theorem unquoted_cons (s : Sign) (signs : List Sign) :
    unquoted (s :: signs) = s.bytes ++ unquoted signs := by
  simp [unquoted]

/-- A string. -/
def quoted (signs : List Sign) : List UInt8 := 0x22 :: unquoted signs

/-! ### Numbers -/

/-- At least one digit. -/
def IsDigits (ds : List UInt8) : Prop := ds ≠ [] ∧ ∀ d ∈ ds, isDigit d = true

/-- The digits before a point: only zero itself begins with a zero. -/
def IsWhole (ds : List UInt8) : Prop := IsDigits ds ∧ (ds.head? = some 0x30 → ds = [0x30])

/-- What may follow the digits before the point. -/
inductive IsFraction : List UInt8 → Prop
  | none : IsFraction []
  | point {ds : List UInt8} (digits : IsDigits ds) : IsFraction (0x2E :: ds)

/-- What may follow the fraction. -/
inductive IsExponent : List UInt8 → Prop
  | none : IsExponent []
  | scaled {b : UInt8} {sign ds : List UInt8} (mark : isExponentMark b = true)
      (signed : sign = [] ∨ sign = [0x2B] ∨ sign = [0x2D]) (digits : IsDigits ds) :
      IsExponent (b :: (sign ++ ds))

/-- A number behind its sign. -/
inductive IsUnsigned : List UInt8 → Prop
  | parts {w f e : List UInt8} (whole : IsWhole w) (fraction : IsFraction f)
      (exponent : IsExponent e) : IsUnsigned (w ++ (f ++ e))

/-! ### Values -/

/-- The bytes of a word of ASCII characters. -/
def word (s : String) : List UInt8 := s.toList.map byte

/-- A value and the blanks around it. -/
structure Item where
  before : Gap
  value : List UInt8
  behind : Gap

/-- An item as it is written. -/
def Item.bytes (i : Item) : List UInt8 := i.before.bytes ++ (i.value ++ i.behind.bytes)

/-- A name, its value and the blanks around them. -/
structure Member where
  before : Gap
  name : List Sign
  behind : Gap
  item : Item

namespace Member

/-- What is written behind the name of a member. -/
def tail (m : Member) : List UInt8 := m.behind.bytes ++ 0x3A :: m.item.bytes

/-- A member as it is written. -/
def bytes (m : Member) : List UInt8 := m.before.bytes ++ (quoted m.name ++ m.tail)

end Member

/-- Parts with commas between them. -/
def listed (parts : List (List UInt8)) : List UInt8 := [0x2C].intercalate parts

/-- An array behind its opening bracket. -/
def arrayTail (items : List Item) (gap : Gap) : List UInt8 :=
  listed (items.map Item.bytes) ++ (gap.bytes ++ [0x5D])

/-- An object behind its opening bracket. -/
def objectTail (members : List Member) (gap : Gap) : List UInt8 :=
  listed (members.map Member.bytes) ++ (gap.bytes ++ [0x7D])

/-- The bytes that are a value. -/
inductive IsValue : List UInt8 → Prop
  | null : IsValue (word "null")
  | true : IsValue (word "true")
  | false : IsValue (word "false")
  | positive {t : List UInt8} (h : IsUnsigned t) : IsValue t
  | negative {t : List UInt8} (h : IsUnsigned t) : IsValue (0x2D :: t)
  | string (signs : List Sign) : IsValue (quoted signs)
  | array (items : List Item) (gap : Gap) (values : ∀ i ∈ items, IsValue i.value) :
      IsValue (0x5B :: arrayTail items gap)
  | object (members : List Member) (gap : Gap) (values : ∀ m ∈ members, IsValue m.item.value) :
      IsValue (0x7B :: objectTail members gap)

/-- A text that is an object in which one member has a certain name. -/
structure ObjectWith (name : String) (text : List UInt8) where
  lead : Gap
  before : List Member
  member : Member
  behind : List Member
  gap : Gap
  trail : Gap
  spells :
    text = lead.bytes ++ (0x7B :: objectTail (before ++ member :: behind) gap ++ trail.bytes)
  named : text? member.name = some name.toList
  others : ∀ k ∈ before ++ behind, text? k.name ≠ some name.toList
  values : ∀ k ∈ before ++ behind, IsValue k.item.value

theorem ObjectWith.isValue {name : String} {text : List UInt8} (b : ObjectWith name text)
    (h : IsValue b.member.item.value) :
    ∀ k ∈ b.before ++ b.member :: b.behind, IsValue k.item.value := by
  intro k hk
  rcases List.mem_append.mp hk with hk | hk
  · exact b.values k (List.mem_append_left _ hk)
  rcases List.mem_cons.mp hk with rfl | hk
  · exact h
  · exact b.values k (List.mem_append_right _ hk)

/-! ### Where parts begin and end -/

variable {t rest : List UInt8}

/-- What may stand behind a value: nothing, a blank, a comma or a closing bracket. -/
def Ends (rest : List UInt8) : Prop :=
  ∀ b ∈ rest.head?, isBlank b = true ∨ b = 0x2C ∨ b = 0x5D ∨ b = 0x7D

theorem ends_nil : Ends [] := by simp [Ends]

theorem ends_comma : Ends (0x2C :: rest) := by simp [Ends]

theorem ends_square : Ends (0x5D :: rest) := by simp [Ends]

theorem ends_brace : Ends (0x7D :: rest) := by simp [Ends]

theorem Gap.ends (g : Gap) (h : Ends rest) : Ends (g.bytes ++ rest) := by
  obtain ⟨bytes, blank⟩ := g
  cases bytes with
  | nil => exact h
  | cons b more =>
    intro c hc
    obtain rfl : b = c := by simpa using hc
    exact Or.inl (blank b List.mem_cons_self)

/-- What a value begins with: no blank, and nothing that closes an array. -/
def Opens (t : List UInt8) : Prop := ∃ b more, t = b :: more ∧ isBlank b = false ∧ b ≠ 0x5D

theorem IsDigits.head (h : IsDigits t) : ∃ d more, t = d :: more ∧ isDigit d = true := by
  obtain ⟨d, more, rfl⟩ := List.exists_cons_of_ne_nil h.1
  exact ⟨d, more, rfl, h.2 d List.mem_cons_self⟩

theorem isDigit_iff {b : UInt8} : isDigit b = true ↔ 0x30 ≤ b.toNat ∧ b.toNat ≤ 0x39 := by
  simp [isDigit, UInt8.le_iff_toNat_le]

theorem isBlank_iff {b : UInt8} : isBlank b = true ↔
    b.toNat = 0x20 ∨ b.toNat = 0x0A ∨ b.toNat = 0x09 ∨ b.toNat = 0x0D := by
  simp [isBlank, ← UInt8.toNat_inj, or_assoc]

theorem isExponentMark_iff {b : UInt8} :
    isExponentMark b = true ↔ b.toNat = 0x65 ∨ b.toNat = 0x45 := by
  simp [isExponentMark, ← UInt8.toNat_inj]

theorem mem_digits {b : UInt8} (h : isDigit b = true) :
    b ∈ ([0x30, 0x31, 0x32, 0x33, 0x34, 0x35, 0x36, 0x37, 0x38, 0x39] : List UInt8) := by
  have hb := isDigit_iff.mp h
  simp only [List.mem_cons, List.not_mem_nil, or_false, ← UInt8.toNat_inj, UInt8.reduceToNat]
  omega

theorem IsUnsigned.head (h : IsUnsigned t) : ∃ d more, t = d :: more ∧ isDigit d = true := by
  cases h with
  | parts whole fraction exponent =>
    obtain ⟨d, more, rfl, hd⟩ := whole.1.head
    exact ⟨d, _, rfl, hd⟩

theorem IsUnsigned.opens (h : IsUnsigned t) : Opens t := by
  obtain ⟨d, more, rfl, hd⟩ := h.head
  have hrange := isDigit_iff.mp hd
  refine ⟨d, more, rfl, Bool.eq_false_iff.mpr fun hblank => ?_, ?_⟩
  · have hvalue := isBlank_iff.mp hblank
    omega
  · rintro rfl
    cases hd

theorem IsValue.opens (h : IsValue t) : Opens t := by
  cases h with
  | null => exact ⟨_, _, rfl, by decide, by decide⟩
  | true => exact ⟨_, _, rfl, by decide, by decide⟩
  | false => exact ⟨_, _, rfl, by decide, by decide⟩
  | positive h => exact h.opens
  | negative h => exact ⟨_, _, rfl, by decide, by decide⟩
  | string signs => exact ⟨_, _, rfl, by decide, by decide⟩
  | array items gap values => exact ⟨_, _, rfl, by decide, by decide⟩
  | object members gap values => exact ⟨_, _, rfl, by decide, by decide⟩

/-! ### Rows -/

/-- A part as it stands behind others, or as the first one. -/
def led (isFirst : Bool) (part : List UInt8) : List UInt8 :=
  if isFirst then part else 0x2C :: part

/-- Parts with commas between them and, unless they begin the row, one before them. -/
def joined (isFirst : Bool) : List (List UInt8) → List UInt8
  | [] => []
  | part :: parts => led isFirst (part ++ joined false parts)

theorem joined_append {isFirst : Bool} {part : List UInt8} {parts : List (List UInt8)} :
    joined isFirst (part :: parts) ++ rest =
      led isFirst (part ++ (joined false parts ++ rest)) := by
  cases isFirst <;> simp [joined, led]

theorem listed_eq (parts : List (List UInt8)) : listed parts = joined true parts := by
  induction parts with
  | nil => rfl
  | cons part parts ih =>
    cases parts with
    | nil => simp [listed, joined, led]
    | cons next parts =>
      rw [listed, List.intercalate_cons_cons, ← listed, ih]
      simp [joined, led]

/-- Behind some parts comes either a comma or what follows the last of them. -/
theorem ends_joined {parts : List (List UInt8)} (h : Ends rest) :
    Ends (joined false parts ++ rest) := by
  cases parts with
  | nil => exact h
  | cons part more => exact ends_comma

end ModelGateway.Json
