import Rollout.Json.Basic

/-!
# Rollout.Json.Printer — document text

Two layouts of a document: compact, without any blank, and spread over lines with two blanks per level.
Members are printed as listed.

* `Json.quote`: a text between quotes; `"` and `\` and control characters are escaped, all else stands as it is.
* `Json.compact`, `Json.pretty`: the two layouts.
-/

namespace Rollout.Json

/-- The lower-case hexadecimal digit of a number below 16. -/
def hexDigit (n : Nat) : Char := (Nat.toDigits 16 n).headD '0'

/-- One character inside quotes. -/
def quoteChar (c : Char) : List Char :=
  if c = '"' then ['\\', '"']
  else if c = '\\' then ['\\', '\\']
  else if c = '\n' then ['\\', 'n']
  else if c = '\r' then ['\\', 'r']
  else if c = '\t' then ['\\', 't']
  else if c.toNat = 8 then ['\\', 'b']
  else if c.toNat = 12 then ['\\', 'f']
  else if c.toNat < 32 then ['\\', 'u', '0', '0', hexDigit (c.toNat / 16), hexDigit (c.toNat % 16)]
  else [c]

/-- A text between quotes. -/
def quote (s : String) : String :=
  String.ofList ('"' :: (s.toList.flatMap quoteChar ++ ['"']))

mutual

/-- The document without blanks. -/
def compact : Json → String
  | null => "null"
  | bool true => "true"
  | bool false => "false"
  | num n => n.text
  | str s => quote s
  | arr items => "[" ++ compactItems items ++ "]"
  | obj members => "\x7b" ++ compactMembers members ++ "\x7d"

/-- Items with commas between them. -/
def compactItems : List Json → String
  | [] => ""
  | [a] => compact a
  | a :: as => compact a ++ "," ++ compactItems as

/-- Members with commas between them. -/
def compactMembers : List (String × Json) → String
  | [] => ""
  | [(k, a)] => quote k ++ ":" ++ compact a
  | (k, a) :: as => quote k ++ ":" ++ compact a ++ "," ++ compactMembers as

end

/-- A line end and the margin of a level. -/
def newline (level : Nat) : String :=
  "\n" ++ String.ofList (List.replicate (2 * level) ' ')

mutual

/-- The document spread over lines, starting at a level. -/
def spread (level : Nat) : Json → String
  | arr [] => "[]"
  | arr (a :: as) => "[" ++ spreadItems (level + 1) (a :: as) ++ newline level ++ "]"
  | obj [] => "\x7b\x7d"
  | obj (a :: as) => "\x7b" ++ spreadMembers (level + 1) (a :: as) ++ newline level ++ "\x7d"
  | null => "null"
  | bool true => "true"
  | bool false => "false"
  | num n => n.text
  | str s => quote s

/-- Items on lines of their own. -/
def spreadItems (level : Nat) : List Json → String
  | [] => ""
  | [a] => newline level ++ spread level a
  | a :: as => newline level ++ spread level a ++ "," ++ spreadItems level as

/-- Members on lines of their own. -/
def spreadMembers (level : Nat) : List (String × Json) → String
  | [] => ""
  | [(k, a)] => newline level ++ quote k ++ ": " ++ spread level a
  | (k, a) :: as => newline level ++ quote k ++ ": " ++ spread level a ++ "," ++ spreadMembers level as

end

/-- The document spread over lines. -/
def pretty (j : Json) : String := spread 0 j

end Rollout.Json
