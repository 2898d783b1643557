/-! # Ranges of UTF-8 bytes

The encodings of the characters in a range fall into few sequences of byte ranges, in each of which
the bytes vary freely. Lead bytes come first, so the sequences stand in the order of the characters.
-/

set_option autoImplicit false

namespace QueryLayer.Unicode.Utf8

abbrev ByteRange := Nat × Nat

def encode (code : Nat) : List Nat := (String.utf8EncodeChar (Char.ofNat code)).map UInt8.toNat

def anyTail (bytes : List Nat) : List ByteRange := bytes.map fun _ => (0x80, 0xBF)

def upward : List Nat → List (List ByteRange)
  | [] => [[]]
  | a :: rest =>
    if rest.all (· == 0x80) then [(a, 0xBF) :: anyTail rest]
    else (upward rest).map ((a, a) :: ·) ++
      if a < 0xBF then [(a + 1, 0xBF) :: anyTail rest] else []

def downward : List Nat → List (List ByteRange)
  | [] => [[]]
  | b :: rest =>
    if rest.all (· == 0xBF) then [(0x80, b) :: anyTail rest]
    else (if 0x80 < b then [(0x80, b - 1) :: anyTail rest] else []) ++
      (downward rest).map ((b, b) :: ·)

def between : List Nat → List Nat → List (List ByteRange)
  | a :: low, b :: high =>
    if a = b then (between low high).map ((a, a) :: ·)
    else
      let lowWhole := low.all (· == 0x80)
      let highWhole := high.all (· == 0xBF)
      let least := if lowWhole then a else a + 1
      let greatest := if highWhole then b else b - 1
      (if lowWhole then [] else (upward low).map ((a, a) :: ·)) ++
        (if least ≤ greatest then [(least, greatest) :: anyTail low] else []) ++
        if highWhole then [] else (downward high).map ((b, b) :: ·)
  | _, _ => [[]]

/-- The characters by the length of their encodings; nothing encodes the surrogates. -/
def lengthClasses : List (Nat × Nat) :=
  [(0, 0x7F), (0x80, 0x7FF), (0x800, 0xD7FF), (0xE000, 0xFFFF), (0x10000, 0x10FFFF)]

def sequences (lo hi : Nat) : List (List ByteRange) :=
  lengthClasses.flatMap fun (first, last) =>
    if Nat.max lo first ≤ Nat.min hi last then
      between (encode (Nat.max lo first)) (encode (Nat.min hi last))
    else []

end QueryLayer.Unicode.Utf8
