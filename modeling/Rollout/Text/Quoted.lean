import Rollout.Text.Numeral
import Rollout.Text.Unprintable

/-!
# Quoted text

Texts between double quotes as they are shown to a reader: quotes, backslashes and the common
controls are escaped by a backslash, and unprintable characters are shown by their numbers.
-/

namespace Rollout.Text

/-- A character as it is shown between double quotes. -/
def shownChar (c : Char) : List Char :=
  match c with
  | '\x00' => ['\\', '0']
  | '\t' => ['\\', 't']
  | '\n' => ['\\', 'n']
  | '\r' => ['\\', 'r']
  | '"' => ['\\', '"']
  | '\\' => ['\\', '\\']
  | c =>
    if isUnprintable c then '\\' :: 'u' :: '\x7b' :: hex 1 c.toNat ++ ['\x7d'] else [c]

/-- A text as it is shown between double quotes. -/
def shown (s : String) : List Char :=
  '"' :: s.toList.flatMap shownChar ++ ['"']

end Rollout.Text
