import Mathlib.Algebra.Group.Nat.Defs
import Mathlib.Data.List.Basic

/-!
# Texts that user space writes to a kernel file

`strsep` cuts a text at the first separator, and the `kstrto*` functions read
one number that fills a text up to an optional final newline.  A text is a list
of characters, one for each byte.
-/

namespace OpenwrtSource.Lib.KernelText

abbrev Text := List Char

/-- The token before the first separator, and what is after it: `none` when the
text had no separator.  A text that has run out gives no token. -/
def strsep (separators : List Char) : Option Text → Option (Text × Option Text)
  | none => none
  | some text =>
    let token := text.takeWhile fun c => c ∉ separators
    match text.drop token.length with
    | [] => some (token, none)
    | _ :: rest => some (token, some rest)

def tolower (c : Char) : Char :=
  if 'A' ≤ c ∧ c ≤ 'Z' then Char.ofNat (c.toNat + 32) else c

/-- The value of a digit of any base up to 16. -/
def digitVal (c : Char) : Option Nat :=
  let lc := tolower c
  if '0' ≤ c ∧ c ≤ '9' then some (c.toNat - '0'.toNat)
  else if 'a' ≤ lc ∧ lc ≤ 'f' then some (lc.toNat - 'a'.toNat + 10)
  else none

def isDigitOf (base : Nat) (c : Char) : Bool :=
  match digitVal c with
  | some v => decide (v < base)
  | none => false

/-- Base 0 stands for the base that the text names: `0x` for 16, `0` for 8, else 10. -/
def fixupRadix (base : Nat) (text : Text) : Nat × Text :=
  let base :=
    if base = 0 then
      match text with
      | '0' :: x :: c :: _ => if tolower x = 'x' ∧ isDigitOf 16 c then 16 else 8
      | '0' :: _ => 8
      | _ => 10
    else base
  match text with
  | '0' :: x :: rest =>
    if base = 16 ∧ tolower x = 'x' then (base, rest) else (base, text)
  | _ => (base, text)

def kstrtoullUnsigned (base : Nat) (text : Text) : Option Nat :=
  let (base, text) := fixupRadix base text
  let digits := text.takeWhile (isDigitOf base)
  let value := digits.foldl (fun n c => n * base + (digitVal c).getD 0) 0
  let rest := text.drop digits.length
  if digits = [] then none
  else if value ≥ 2 ^ 64 then none
  else if rest = [] ∨ rest = ['\n'] then some value
  else none

def kstrtoull (base : Nat) : Text → Option Nat
  | '+' :: text => kstrtoullUnsigned base text
  | text => kstrtoullUnsigned base text

def kstrtou32 (base : Nat) (text : Text) : Option Nat :=
  (kstrtoull base text).filter fun value => value < 2 ^ 32

def kstrtoint (base : Nat) : Text → Option Int
  | '-' :: text =>
    ((kstrtoullUnsigned base text).filter fun value => value ≤ 2 ^ 31).map fun value => -value
  | text => ((kstrtoull base text).filter fun value => value < 2 ^ 31).map fun value => value

example : kstrtou32 0 ['0', 'x', '1', 'F', '\n'] = some 31 := by decide

end OpenwrtSource.Lib.KernelText
