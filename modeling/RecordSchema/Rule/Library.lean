import RecordSchema.Rule.Check
import RecordSchema.SchemaError
import RecordSchema.Value

/-!
# The rule library

The registered names, and how a name with its arguments becomes a check.
Arguments are judged here; a check that was resolved cannot fail later. A rule
ignores the arguments that it does not take.
-/

namespace RecordSchema

namespace Library

def names : List String :=
  ["isEmail", "isURL", "isIP", "isFQDN", "isHexColor", "isHexadecimal", "isAlpha",
    "isAlphanumeric", "isAscii", "isNumeric", "isInt", "isFloat", "isBoolean", "isLowercase",
    "isUppercase", "isUUID", "isMACAddress", "isBase64", "isJSON", "isISO8601", "isLength",
    "matches", "contains", "equals", "isIn"]

def contains (name : String) : Bool := names.contains name

-- ---------------------------------------------------------------------------
-- Arguments
-- ---------------------------------------------------------------------------

/-- The text of a scalar: a text itself, a number or a truth value. -/
def scalarText? : Json → Option String
  | .string s => some s
  | .number n => some n.text
  | .bool b => some (Value.boolText b)
  | _ => none

/-- A refusal names the rule whose arguments are refused. -/
def refuse (rule : String) (cause : ArgumentError) : Except SchemaError α :=
  .error (.arguments rule cause)

def textArg (rule : String) (args : List Json) (index : Nat) : Except SchemaError String :=
  match args[index]? with
  | none => refuse rule (.missing index)
  | some j =>
    match scalarText? j with
    | some s => .ok s
    | none => refuse rule (.notScalar index j)

/-- A length, or no bound. -/
def lengthArg (rule : String) : Option Json → Except SchemaError (Option Nat)
  | none | some .null => .ok none
  | some (.number n) =>
    match n.toUnsigned? with
    | some length => .ok (some length)
    | none => refuse rule (.notLength (.number n))
  | some j => refuse rule (.notLength j)

/-- A number of at most 64 bits in decimal; a plus sign may precede it. -/
def unsignedText? (s : String) : Option Nat :=
  let ds :=
    match s.toList with
    | '+' :: ds => ds
    | ds => ds
  if Decimal.isDigits ds ∧ Decimal.digitsValue ds < 0x10000000000000000 then some (Decimal.digitsValue ds)
  else none

/-- Whether a text is `all`, in any case. -/
def isAll (s : String) : Bool := s.toList.map Char.toLower == ['a', 'l', 'l']

def versionNumber? : Json → Option Nat
  | .number n => n.toUnsigned?
  | .string s => unsignedText? s
  | _ => none

/-- A number that fits a byte. -/
def byte? (n : Nat) : Option Nat := if n < 0x100 then some n else none

/-- The version that the first argument asks for; none for all of them. -/
def versionArg (rule : String) (allowed : List Nat) (args : List Json) :
    Except SchemaError (Option Nat) :=
  let chosen (j : Json) : Except SchemaError (Option Nat) :=
    match ((versionNumber? j).bind byte?).filter allowed.contains with
    | some v => .ok (some v)
    | none => refuse rule (.version allowed)
  match args.head? with
  | none | some .null => .ok none
  | some (.string s) => if isAll s then .ok none else chosen (.string s)
  | some j => chosen j

/-- Two positional bounds, or one object that names them. -/
def lengthCheck (args : List Json) : Except SchemaError Check := do
  let (lowArg, highArg) :=
    match args.head? with
    | some (.object fields) => (fields.lookup "min", fields.lookup "max")
    | first => (first, args[1]?)
  let min ← lengthArg "isLength" lowArg
  let max ← lengthArg "isLength" highArg
  match min, max with
  | some low, some high =>
    if high < low then refuse "isLength" (.minAboveMax low high) else .ok (.length min max)
  | _, _ => .ok (.length min max)

/-- The flags of a pattern, if any are given. -/
def flagsArg (rule : String) (args : List Json) : Except SchemaError String :=
  match (args[1]? : Option Json) with
  | none | some .null => .ok ""
  | some _ => textArg rule args 1

/-- A pattern, and optionally the flags that it starts with. -/
def patternCheck (args : List Json) : Except SchemaError Check := do
  let pattern ← textArg "matches" args 0
  let flags ← flagsArg "matches" args
  match flags.toList.find? fun c => !"imsx".toList.contains c with
  | some c => refuse "matches" (.flag c)
  | none =>
    let source := if flags.isEmpty then pattern else "(?" ++ flags ++ ")" ++ pattern
    match Pattern.compile? source.toList with
    | some p => .ok (.matching p)
    | none => refuse "matches" (.pattern pattern)

def optionsCheck (args : List Json) : Except SchemaError Check :=
  match args.head? with
  | some (.array items) => do
    let options ← (List.range items.length).mapM (textArg "isIn" items)
    .ok (.oneOf options)
  | _ => refuse "isIn" .notOptions

-- ---------------------------------------------------------------------------
-- Resolution
-- ---------------------------------------------------------------------------

/-- The check registered under a name, once its arguments are judged. -/
def resolve (name : String) (args : List Json) : Except SchemaError Check :=
  match name with
  | "isEmail" => .ok .email
  | "isURL" => .ok .url
  | "isIP" => (versionArg "isIP" [4, 6] args).map .ip
  | "isFQDN" => .ok .fullyQualifiedName
  | "isHexColor" => .ok .hexColor
  | "isHexadecimal" => .ok .hexadecimal
  | "isAlpha" => .ok .alpha
  | "isAlphanumeric" => .ok .alphanumeric
  | "isAscii" => .ok .ascii
  | "isNumeric" => .ok .numeric
  | "isInt" => .ok .int
  | "isFloat" => .ok .float
  | "isBoolean" => .ok .boolean
  | "isLowercase" => .ok .lowercase
  | "isUppercase" => .ok .uppercase
  | "isUUID" => (versionArg "isUUID" [1, 2, 3, 4, 5] args).map .uuid
  | "isMACAddress" => .ok .macAddress
  | "isBase64" => .ok .base64
  | "isJSON" => .ok .json
  | "isISO8601" => .ok .iso8601
  | "isLength" => lengthCheck args
  | "matches" => patternCheck args
  | "contains" => (textArg "contains" args 0).map .containing
  | "equals" => (textArg "equals" args 0).map .equalTo
  | "isIn" => optionsCheck args
  | _ => .error (.unknownRule name)

/-- Resolve a rule and ask it about a text. -/
def accepts (name text : String) (args : List Json) : Except SchemaError Bool :=
  (resolve name args).map fun check => check.accepts text

-- ---------------------------------------------------------------------------
-- Checks by themselves
-- ---------------------------------------------------------------------------

def isEmail (s : String) : Bool := Check.email.accepts s

def isUrl (s : String) : Bool := Check.url.accepts s

def isHexColor (s : String) : Bool := Check.hexColor.accepts s

/-- The version is taken as it is given. -/
def isIp (s : String) (version : Option Nat) : Bool := (Check.ip version).accepts s

end Library

end RecordSchema
