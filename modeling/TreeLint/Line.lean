/-!
Lines of a text, counted from one.
-/
namespace TreeLint.Line

/-- The number of line breaks that start within the first `n` bytes. -/
def breaksWithin (n : Nat) : List Char → Nat
  | [] => 0
  | c :: rest =>
    if n = 0 then 0 else (if c = '\n' then 1 else 0) + breaksWithin (n - c.utf8Size) rest

/-- The line that holds a byte offset. -/
def ofByte (text : String) (offset : Nat) : Nat := breaksWithin offset text.toList + 1

/-- The line on which the `n`-th character stands. -/
def ofChar (cs : List Char) (n : Nat) : Nat := (cs.take n).count '\n' + 1

end TreeLint.Line
