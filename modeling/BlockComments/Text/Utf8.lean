/-!
# Text and its UTF-8 bytes

A text is the list of its characters. This module holds the size of a text in
bytes, its encoding, the strict decoder, the decoder that replaces what it
cannot read, and the cut of a text at a byte offset.

The decoder reads one character at a time from the front. The ranges of the
second byte rule out the forms that are longer than needed, the surrogates and
the values above 10FFFF, so exactly the encodings of texts are read.
-/
namespace BlockComments

/-- A text: its characters in order. -/
abbrev Text := List Char

/-- The raw content of a file, or a raw argument. -/
abbrev Bytes := List UInt8

namespace Utf8

def size : Text → Nat
  | [] => 0
  | c :: t => c.utf8Size + size t

@[simp] theorem size_nil : size [] = 0 := rfl
@[simp] theorem size_cons (c : Char) (t : Text) : size (c :: t) = c.utf8Size + size t := rfl

@[simp] theorem size_append (s t : Text) : size (s ++ t) = size s + size t := by
  induction s with
  | nil => simp
  | cons c s ih => simp [ih, Nat.add_assoc]

def encode (t : Text) : Bytes := t.flatMap String.utf8EncodeChar

@[simp] theorem encode_nil : encode [] = [] := rfl
@[simp] theorem encode_append (s t : Text) : encode (s ++ t) = encode s ++ encode t := by
  simp [encode]
theorem encode_cons (c : Char) (t : Text) :
    encode (c :: t) = String.utf8EncodeChar c ++ encode t := rfl

theorem length_encode (t : Text) : (encode t).length = size t := by
  induction t with
  | nil => rfl
  | cons c t ih => simp [encode_cons, ih]

def isTail (b : UInt8) : Bool := 0x80 ≤ b && b ≤ 0xBF

/-- Whether `b` can follow the leading byte `a` of a character of three or four bytes. -/
def isSecond (a b : UInt8) : Bool :=
  if a = 0xE0 then 0xA0 ≤ b && b ≤ 0xBF
  else if a = 0xED then 0x80 ≤ b && b ≤ 0x9F
  else if a = 0xF0 then 0x90 ≤ b && b ≤ 0xBF
  else if a = 0xF4 then 0x80 ≤ b && b ≤ 0x8F
  else isTail b

def leadsTwo (a : UInt8) : Bool := 0xC2 ≤ a && a ≤ 0xDF

def leadsThree (a : UInt8) : Bool := 0xE0 ≤ a && a ≤ 0xEF

def leadsFour (a : UInt8) : Bool := 0xF0 ≤ a && a ≤ 0xF4

/-- The low six bits that a continuing byte carries. -/
def tailBits (b : UInt8) : Nat := b.toNat - 0x80

def ofOne? (a : UInt8) : Option Char :=
  if a ≤ 0x7F then some (Char.ofNat a.toNat) else none

def ofTwo? (a b : UInt8) : Option Char :=
  if leadsTwo a && isTail b then
    some (Char.ofNat ((a.toNat - 0xC0) * 64 + tailBits b))
  else none

def ofThree? (a b c : UInt8) : Option Char :=
  if leadsThree a && isSecond a b && isTail c then
    some (Char.ofNat (((a.toNat - 0xE0) * 64 + tailBits b) * 64 + tailBits c))
  else none

def ofFour? (a b c d : UInt8) : Option Char :=
  if leadsFour a && isSecond a b && isTail c && isTail d then
    some (Char.ofNat ((((a.toNat - 0xF0) * 64 + tailBits b) * 64 + tailBits c) * 64 + tailBits d))
  else none

/-- The character that a byte sequence starts with. -/
def first? : Bytes → Option Char
  | [] => none
  | [a] => ofOne? a
  | [a, b] => ofOne? a <|> ofTwo? a b
  | [a, b, c] => ofOne? a <|> ofTwo? a b <|> ofThree? a b c
  | a :: b :: c :: d :: _ => ofOne? a <|> ofTwo? a b <|> ofThree? a b c <|> ofFour? a b c d

/-- Reads characters from the front. `done` holds those read, last one first,
`offset` counts their bytes, and `skip` bytes still belong to the last one. -/
def decodeFrom (done : Text) (offset : Nat) : Nat → Bytes → Except Nat Text
  | _, [] => .ok done.reverse
  | skip + 1, _ :: rest => decodeFrom done offset skip rest
  | 0, a :: rest =>
    match first? (a :: rest) with
    | some c => decodeFrom (c :: done) (offset + c.utf8Size) (c.utf8Size - 1) rest
    | none => .error offset

/-- The text that `bytes` encodes, or the offset at which the bytes stop being a text. -/
def decode (bytes : Bytes) : Except Nat Text := decodeFrom [] 0 0 bytes

def decode? (bytes : Bytes) : Option Text :=
  match decode bytes with
  | .ok t => some t
  | .error _ => none

/-- The number of leading bytes that are replaced together when no character
can be read: as many as a character could start with, and at least one. -/
def brokenLength : Bytes → Nat
  | a :: b :: c :: _ =>
    if leadsFour a && isSecond a b && isTail c then 3
    else if (leadsThree a || leadsFour a) && isSecond a b then 2
    else 1
  | [a, b] => if (leadsThree a || leadsFour a) && isSecond a b then 2 else 1
  | _ => 1

/-- Reads characters from the front and writes U+FFFD for each stretch that is none. -/
def decodeLossyFrom (done : Text) : Nat → Bytes → Text
  | _, [] => done.reverse
  | skip + 1, _ :: rest => decodeLossyFrom done skip rest
  | 0, a :: rest =>
    match first? (a :: rest) with
    | some c => decodeLossyFrom (c :: done) (c.utf8Size - 1) rest
    | none => decodeLossyFrom ('\uFFFD' :: done) (brokenLength (a :: rest) - 1) rest

def decodeLossy (bytes : Bytes) : Text := decodeLossyFrom [] 0 bytes

/-- The parts of a text before and after a byte offset, if the offset lies
between two characters. -/
def splitAt? : Nat → Text → Option (Text × Text)
  | 0, t => some ([], t)
  | _ + 1, [] => none
  | n + 1, c :: t =>
    if c.utf8Size ≤ n + 1 then
      (splitAt? (n + 1 - c.utf8Size) t).map fun (before, after) => (c :: before, after)
    else none

end Utf8

def stringBytes (s : String) : Bytes := Utf8.encode s.toList

/-- The string that shows bytes, with U+FFFD in place of what is not UTF-8. -/
def stringLossy (bytes : Bytes) : String := String.ofList (Utf8.decodeLossy bytes)

/-- The order of byte sequences by their first difference; a sequence comes
before the longer ones that start with it. -/
def bytesLe : Bytes → Bytes → Bool
  | [], _ => true
  | _ :: _, [] => false
  | a :: s, b :: t => a.toNat < b.toNat || (a == b && bytesLe s t)

def stringLe (s t : String) : Bool := bytesLe (stringBytes s) (stringBytes t)

def sortStrings (ss : List String) : List String := ss.mergeSort stringLe

end BlockComments
