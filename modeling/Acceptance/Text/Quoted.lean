import Acceptance.Unicode.Printable

namespace Acceptance.Text

open Acceptance.Unicode

/-! Quoted text: in double quotes, on one line, with nothing invisible left in it. Quotes,
backslashes and the common controls are escaped by a backslash; every other character
that could not be told from its surroundings is spelled by its code point. -/

/-- A character by its code point in lower-case hexadecimal digits. -/
def codePointEscape (character : Char) : List Char :=
  ['\\', 'u', '\x7b'] ++ Nat.toDigits 16 character.toNat ++ ['\x7d']

def quotedCharacter (character : Char) : List Char :=
  match character with
  | '\x00' => ['\\', '0']
  | '\t' => ['\\', 't']
  | '\r' => ['\\', 'r']
  | '\n' => ['\\', 'n']
  | '"' => ['\\', '"']
  | '\\' => ['\\', '\\']
  | _ => if needsCodePoint character then codePointEscape character else [character]

def quotedCharacters (text : List Char) : List Char :=
  '"' :: text.flatMap quotedCharacter ++ ['"']

def quoted (text : String) : String :=
  String.ofList (quotedCharacters text.toList)

example : quotedCharacters "it's\n".toList = "\"it's\\n\"".toList := by decide +kernel
example : quotedCharacters "e\u0301".toList = "\"e\\u\x7b301\x7d\"".toList := by
  decide +kernel

end Acceptance.Text
