/-
The block cipher AES with a key of 256 bits.

A block is four columns of four bytes.  A round substitutes every byte, shifts the
rows against each other, mixes each column and adds a round key; the last round does
not mix.  Every one of these steps can be undone, so a key never sends two blocks to
the same one.
-/
import ModelGateway.Text.Basic

namespace ModelGateway.Aes

/-- A column: four bytes, the first on top. -/
structure Column where
  b0 : UInt8
  b1 : UInt8
  b2 : UInt8
  b3 : UInt8
deriving DecidableEq, Repr

/-- A block: four columns, the first on the left. -/
structure Block where
  c0 : Column
  c1 : Column
  c2 : Column
  c3 : Column
deriving DecidableEq, Repr

/-! ### Bytes -/

/-- The substitution table. -/
def substitutions : Array UInt8 := #[
  0x63, 0x7c, 0x77, 0x7b, 0xf2, 0x6b, 0x6f, 0xc5, 0x30, 0x01, 0x67, 0x2b, 0xfe, 0xd7, 0xab, 0x76,
  0xca, 0x82, 0xc9, 0x7d, 0xfa, 0x59, 0x47, 0xf0, 0xad, 0xd4, 0xa2, 0xaf, 0x9c, 0xa4, 0x72, 0xc0,
  0xb7, 0xfd, 0x93, 0x26, 0x36, 0x3f, 0xf7, 0xcc, 0x34, 0xa5, 0xe5, 0xf1, 0x71, 0xd8, 0x31, 0x15,
  0x04, 0xc7, 0x23, 0xc3, 0x18, 0x96, 0x05, 0x9a, 0x07, 0x12, 0x80, 0xe2, 0xeb, 0x27, 0xb2, 0x75,
  0x09, 0x83, 0x2c, 0x1a, 0x1b, 0x6e, 0x5a, 0xa0, 0x52, 0x3b, 0xd6, 0xb3, 0x29, 0xe3, 0x2f, 0x84,
  0x53, 0xd1, 0x00, 0xed, 0x20, 0xfc, 0xb1, 0x5b, 0x6a, 0xcb, 0xbe, 0x39, 0x4a, 0x4c, 0x58, 0xcf,
  0xd0, 0xef, 0xaa, 0xfb, 0x43, 0x4d, 0x33, 0x85, 0x45, 0xf9, 0x02, 0x7f, 0x50, 0x3c, 0x9f, 0xa8,
  0x51, 0xa3, 0x40, 0x8f, 0x92, 0x9d, 0x38, 0xf5, 0xbc, 0xb6, 0xda, 0x21, 0x10, 0xff, 0xf3, 0xd2,
  0xcd, 0x0c, 0x13, 0xec, 0x5f, 0x97, 0x44, 0x17, 0xc4, 0xa7, 0x7e, 0x3d, 0x64, 0x5d, 0x19, 0x73,
  0x60, 0x81, 0x4f, 0xdc, 0x22, 0x2a, 0x90, 0x88, 0x46, 0xee, 0xb8, 0x14, 0xde, 0x5e, 0x0b, 0xdb,
  0xe0, 0x32, 0x3a, 0x0a, 0x49, 0x06, 0x24, 0x5c, 0xc2, 0xd3, 0xac, 0x62, 0x91, 0x95, 0xe4, 0x79,
  0xe7, 0xc8, 0x37, 0x6d, 0x8d, 0xd5, 0x4e, 0xa9, 0x6c, 0x56, 0xf4, 0xea, 0x65, 0x7a, 0xae, 0x08,
  0xba, 0x78, 0x25, 0x2e, 0x1c, 0xa6, 0xb4, 0xc6, 0xe8, 0xdd, 0x74, 0x1f, 0x4b, 0xbd, 0x8b, 0x8a,
  0x70, 0x3e, 0xb5, 0x66, 0x48, 0x03, 0xf6, 0x0e, 0x61, 0x35, 0x57, 0xb9, 0x86, 0xc1, 0x1d, 0x9e,
  0xe1, 0xf8, 0x98, 0x11, 0x69, 0xd9, 0x8e, 0x94, 0x9b, 0x1e, 0x87, 0xe9, 0xce, 0x55, 0x28, 0xdf,
  0x8c, 0xa1, 0x89, 0x0d, 0xbf, 0xe6, 0x42, 0x68, 0x41, 0x99, 0x2d, 0x0f, 0xb0, 0x54, 0xbb, 0x16]

/-- The byte that stands for a byte. -/
def substitute (b : UInt8) : UInt8 := substitutions.getD b.toNat 0

/-- A byte times `x`, as polynomials modulo `x⁸ + x⁴ + x³ + x + 1`. -/
def double (b : UInt8) : UInt8 := if b < 0x80 then b <<< 1 else (b <<< 1) ^^^ 0x1B

/-- A byte times `x + 1`. -/
def triple (b : UInt8) : UInt8 := double b ^^^ b

namespace Column

/-- The sum of two columns. -/
def add (a b : Column) : Column := ⟨a.b0 ^^^ b.b0, a.b1 ^^^ b.b1, a.b2 ^^^ b.b2, a.b3 ^^^ b.b3⟩

/-- Substitute every byte. -/
def substitute (c : Column) : Column :=
  ⟨Aes.substitute c.b0, Aes.substitute c.b1, Aes.substitute c.b2, Aes.substitute c.b3⟩

/-- The top byte moved to the bottom. -/
def rotate (c : Column) : Column := ⟨c.b1, c.b2, c.b3, c.b0⟩

/-- Mix the bytes of a column. -/
def mix (c : Column) : Column :=
  ⟨double c.b0 ^^^ triple c.b1 ^^^ c.b2 ^^^ c.b3,
   c.b0 ^^^ double c.b1 ^^^ triple c.b2 ^^^ c.b3,
   c.b0 ^^^ c.b1 ^^^ double c.b2 ^^^ triple c.b3,
   triple c.b0 ^^^ c.b1 ^^^ c.b2 ^^^ double c.b3⟩

/-- The bytes of a column. -/
def toList (c : Column) : List UInt8 := [c.b0, c.b1, c.b2, c.b3]

end Column

namespace Block

/-- The block of zeros. -/
def zero : Block := ⟨⟨0, 0, 0, 0⟩, ⟨0, 0, 0, 0⟩, ⟨0, 0, 0, 0⟩, ⟨0, 0, 0, 0⟩⟩

/-- The sum of two blocks. -/
def add (a b : Block) : Block := ⟨a.c0.add b.c0, a.c1.add b.c1, a.c2.add b.c2, a.c3.add b.c3⟩

/-- Substitute every byte. -/
def substitute (s : Block) : Block :=
  ⟨s.c0.substitute, s.c1.substitute, s.c2.substitute, s.c3.substitute⟩

/-- Shift each row to the left by its number. -/
def shiftRows (s : Block) : Block :=
  ⟨⟨s.c0.b0, s.c1.b1, s.c2.b2, s.c3.b3⟩, ⟨s.c1.b0, s.c2.b1, s.c3.b2, s.c0.b3⟩,
   ⟨s.c2.b0, s.c3.b1, s.c0.b2, s.c1.b3⟩, ⟨s.c3.b0, s.c0.b1, s.c1.b2, s.c2.b3⟩⟩

/-- Mix every column. -/
def mix (s : Block) : Block := ⟨s.c0.mix, s.c1.mix, s.c2.mix, s.c3.mix⟩

/-- The bytes of a block. -/
def toList (s : Block) : List UInt8 :=
  s.c0.toList ++ s.c1.toList ++ s.c2.toList ++ s.c3.toList

/-- The block that some bytes begin with, zeros standing in for missing ones. -/
def ofList (bytes : List UInt8) : Block :=
  let at' (i : Nat) : UInt8 := bytes.getD i 0
  ⟨⟨at' 0, at' 1, at' 2, at' 3⟩, ⟨at' 4, at' 5, at' 6, at' 7⟩,
   ⟨at' 8, at' 9, at' 10, at' 11⟩, ⟨at' 12, at' 13, at' 14, at' 15⟩⟩

end Block

/-! ### Round keys

A key of eight columns grows by eight columns at a time: each is the sum of the one
before it and the one eight places back, with a substitution at every fourth.
-/

/-- A key: two blocks' worth of columns. -/
structure Key where
  left : Block
  right : Block
deriving DecidableEq, Repr

/-- Four more columns, given the column before them and what is added to that one. -/
def growBlock (old : Block) (first : Column) : Block :=
  let c0 := old.c0.add first
  let c1 := old.c1.add c0
  let c2 := old.c2.add c1
  ⟨c0, c1, c2, old.c3.add c2⟩

/-- The next eight columns, with the round's constant. -/
def growKey (constant : UInt8) (k : Key) : Key :=
  let left := growBlock k.left (k.right.c3.rotate.substitute.add ⟨constant, 0, 0, 0⟩)
  ⟨left, growBlock k.right left.c3.substitute⟩

/-- The round keys behind a key, two for each constant. -/
def growAll (k : Key) : List UInt8 → List Block
  | [] => []
  | c :: cs =>
    let next := growKey c k
    next.left :: next.right :: growAll next cs

/-- The fourteen round keys behind the first. -/
def roundKeys (k : Key) : List Block :=
  k.right :: (growAll k [0x01, 0x02, 0x04, 0x08, 0x10, 0x20, 0x40]).take 13

/-! ### The cipher -/

/-- A round. -/
def round (s key : Block) : Block := s.substitute.shiftRows.mix.add key

/-- The last round, which does not mix. -/
def lastRound (s key : Block) : Block := s.substitute.shiftRows.add key

/-- Run the rounds of some keys. -/
def rounds (s : Block) : List Block → Block
  | [] => s
  | [key] => lastRound s key
  | key :: next :: keys => rounds (round s key) (next :: keys)

/-- The block that a key makes of a block. -/
def encrypt (k : Key) (s : Block) : Block := rounds (s.add k.left) (roundKeys k)

/-- The key that 32 bytes spell. -/
def Key.ofList (bytes : List UInt8) : Key := ⟨.ofList bytes, .ofList (bytes.drop 16)⟩

end ModelGateway.Aes
