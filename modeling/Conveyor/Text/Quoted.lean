import Conveyor.Text.Unprintable

/-!
# Quoted text

Texts that come from outside are shown between double quotes in messages, so that a reader sees
where they end and what they hold: quotes and backslashes are escaped, and characters that do not
show are written as escapes.

* `Text.quoted` — the quoted form.
-/

namespace Conveyor.Text

def escaped (c : Char) : List Char :=
  match c with
  | '"' => ['\\', '"']
  | '\\' => ['\\', '\\']
  | '\n' => ['\\', 'n']
  | '\r' => ['\\', 'r']
  | '\t' => ['\\', 't']
  | '\x00' => ['\\', '0']
  | c =>
      if isUnprintable c then ['\\', 'u', '\x7b'] ++ Nat.toDigits 16 c.toNat ++ ['\x7d']
      else [c]

/-- A text between double quotes, with escapes for what would not show. -/
def quoted (s : String) : String :=
  String.ofList ('"' :: s.toList.flatMap escaped ++ ['"'])

end Conveyor.Text
