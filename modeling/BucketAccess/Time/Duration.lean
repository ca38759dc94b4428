import BucketAccess.Text.Numeral

/-!
# Durations

Lengths of time in milliseconds, and their text: in seconds, with a fraction if there is one, or in
milliseconds below one second.
-/

namespace BucketAccess

structure Duration where
  millis : Nat
  deriving DecidableEq, Repr

namespace Duration

def ofSecs (n : Nat) : Duration := ⟨n * 1000⟩

def dropZeros (digits : List Char) : List Char := (digits.reverse.dropWhile (· = '0')).reverse

def text (d : Duration) : String :=
  let secs := d.millis / 1000
  let rest := d.millis % 1000
  if d.millis = 0 then "0ns"
  else if secs = 0 then s!"{rest}ms"
  else if rest = 0 then s!"{secs}s"
  else s!"{secs}." ++ String.ofList (dropZeros (Numeral.fixed 3 rest)) ++ "s"

end Duration

end BucketAccess
