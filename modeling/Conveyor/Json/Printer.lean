import Conveyor.Json.Document

/-!
# From document to text

The compact text of a document: no blanks, members in their order, and in texts only the escapes
that the form requires.

* `Doc.render` — the text of a document.
-/

namespace Conveyor.Json

/-- The lower-case hexadecimal digits of a code unit, on four places. -/
def unitDigits (n : Nat) : List Char :=
  [Nat.digitChar (n / 4096 % 16), Nat.digitChar (n / 256 % 16), Nat.digitChar (n / 16 % 16),
    Nat.digitChar (n % 16)]

def Piece.print : Piece → List Char
  | .char c =>
      match c with
      | '"' => ['\\', '"']
      | '\\' => ['\\', '\\']
      | '\x08' => ['\\', 'b']
      | '\t' => ['\\', 't']
      | '\n' => ['\\', 'n']
      | '\x0c' => ['\\', 'f']
      | '\r' => ['\\', 'r']
      | c => [c]
  | .unit n => '\\' :: 'u' :: unitDigits n

def QuotedText.print (t : QuotedText) : List Char :=
  '"' :: t.pieces.flatMap Piece.print ++ ['"']

def NumberText.print (t : NumberText) : List Char :=
  (if t.negative then ['-'] else []) ++ t.whole ++
    (if t.fraction.isEmpty then [] else '.' :: t.fraction) ++
    match t.exponent with
    | none => []
    | some (down, digits) => 'e' :: (if down then '-' :: digits else digits)

mutual

/-- The text of a document; of one with a fault, the text up to there. -/
def Doc.print : Doc → List Char
  | .null => "null".toList
  | .bool true => "true".toList
  | .bool false => "false".toList
  | .number t => t.print
  | .text t => t.print
  | .array items => '[' :: items.print
  | .object members => '\x7b' :: members.print
  | .absent => []
  | .brokenNumber _ => []
  | .broken _ => []
  | .unreached _ => []

def Items.print : Items → List Char
  | .done _ => [']']
  | .item value (.done _) => value.print ++ [']']
  | .item value rest => value.print ++ ',' :: rest.print

def Members.print : Members → List Char
  | .done _ => ['\x7d']
  | .member key value (.done _) => key.print ++ ':' :: value.print ++ ['\x7d']
  | .member key value rest => key.print ++ ':' :: value.print ++ ',' :: rest.print
  | .strayKey => []

end

def Doc.render (d : Doc) : String := String.ofList d.print

end Conveyor.Json
