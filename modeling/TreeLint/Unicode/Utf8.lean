/-!
The encodings of runs of characters in bytes: one byte for a character below 80, and else a first
byte that tells the length and continuation bytes with six bits each.
-/
namespace TreeLint.Unicode.Utf8

/-- A run of bytes, by its first and its last. -/
abbrev ByteRun := Nat × Nat

/-- The numbers from `lo` to `hi` in `n` digits of six bits after a first digit of any size, as
sequences of runs of digits. Together the sequences spell each number once, in ascending order. -/
def digitRuns : (n lo hi : Nat) → List (List ByteRun)
  | 0, lo, hi => [[(lo, hi)]]
  | n + 1, lo, hi =>
    let block := Nat.pow 64 (n + 1)
    let first := lo / block
    let last := hi / block
    if first = last then
      (digitRuns n (lo % block) (hi % block)).map ((first, first) :: ·)
    else
      let startsInside := lo % block ≠ 0
      let endsInside := hi % block ≠ block - 1
      let start := if startsInside then first + 1 else first
      let past := if endsInside then last else last + 1
      let before := if startsInside then
        (digitRuns n (lo % block) (block - 1)).map ((first, first) :: ·) else []
      let middle := if start < past then
        [(start, past - 1) :: List.replicate (n + 1) (0, 63)] else []
      let after := if endsInside then
        (digitRuns n 0 (hi % block)).map ((last, last) :: ·) else []
      before ++ middle ++ after

/-- Turns digits into bytes: `lead` is added to the first of them, 80 to the others. -/
def bytesOfDigits (lead : Nat) : List ByteRun → List ByteRun
  | [] => []
  | (lo, hi) :: rest => (lead + lo, lead + hi) :: rest.map fun (lo, hi) => (0x80 + lo, 0x80 + hi)

/-- The characters by the length of their encodings: how many bytes continue it, what marks its
first byte, and the first and the last character. -/
def lengths : List (Nat × Nat × Nat × Nat) := [
  (0, 0, 0, 0x7F), (1, 0xC0, 0x80, 0x7FF), (2, 0xE0, 0x800, 0xD7FF), (2, 0xE0, 0xE000, 0xFFFF),
  (3, 0xF0, 0x10000, 0x10FFFF)]

/-- The encodings of the characters from `lo` to `hi`. -/
def encodings (lo hi : Nat) : List (List ByteRun) :=
  lengths.flatMap fun (n, lead, first, last) =>
    let lo := max lo first
    let hi := min hi last
    if hi < lo then [] else (digitRuns n lo hi).map (bytesOfDigits lead)

/-- The bytes of one character. -/
def encode (c : Char) : List Nat := (encodings c.toNat c.toNat).flatten.map (·.1)

end TreeLint.Unicode.Utf8
