import RecordSchema.Rule

/-!
# Outlines of rules

A rule as one line for developers: its kind, its name and its arguments with
their kinds. In quoted texts, marks and characters that do not print are escaped.
-/

namespace RecordSchema

namespace Outline

def hexText (n : Nat) : String := String.ofList (Nat.toDigits 16 n)

/-- Characters that have no printed form, the ASCII space aside. -/
def isUnprintable (c : Char) : Bool :=
  c != ' ' && ((Unicode.separator.contains c || Unicode.other.contains c) || Unicode.graphemeExtend.contains c)

def escapeChar (c : Char) : String :=
  match c with
  | '\x00' => "\\0"
  | '\t' => "\\t"
  | '\r' => "\\r"
  | '\n' => "\\n"
  | '"' => "\\\""
  | '\\' => "\\\\"
  | c => if isUnprintable c then "\\u\x7b" ++ hexText c.toNat ++ "\x7d" else String.singleton c

def quote (s : String) : String := "\"" ++ String.join (s.toList.map escapeChar) ++ "\""

def bracket (parts : List String) : String := "[" ++ ", ".intercalate parts ++ "]"

mutual
def ofJson : Json → String
  | .null => "Null"
  | .bool b => "Bool(" ++ Value.boolText b ++ ")"
  | .number n => "Number(" ++ n.text ++ ")"
  | .string s => "String(" ++ quote s ++ ")"
  | .array items => "Array " ++ bracket (ofItems items)
  | .object fields => "Object \x7b" ++ ", ".intercalate (ofFields fields) ++ "\x7d"
def ofItems : List Json → List String
  | [] => []
  | item :: rest => ofJson item :: ofItems rest
def ofFields : List (String × Json) → List String
  | [] => []
  | (key, value) :: rest => (quote key ++ ": " ++ ofJson value) :: ofFields rest
end

end Outline

/-- A predicate shows its arguments only. -/
def Rule.outline : Rule → String
  | .named id args _ =>
    "Named \x7b id: " ++ Outline.quote id ++ ", args: " ++ Outline.bracket (Outline.ofItems args)
      ++ " \x7d"
  | .custom _ args => "Custom \x7b args: " ++ Outline.bracket (Outline.ofItems args) ++ ", .. \x7d"

end RecordSchema
