import RecordSchema.Host.Email
import RecordSchema.Host.Url
import RecordSchema.Json.Reader
import RecordSchema.Pattern.Match
import RecordSchema.Pattern.Size
import RecordSchema.Rule.Iso8601
import RecordSchema.Rule.Notation
import RecordSchema.Rule.Numeral
import RecordSchema.Unicode.Case

/-!
# Checks on texts

The checks of the rule library with their arguments already read: what remains
is a question about one text.
-/

namespace RecordSchema

inductive Check where
  | email
  | url
  | ip (version : Option Nat)
  | fullyQualifiedName
  | hexColor
  | hexadecimal
  | alpha
  | alphanumeric
  | ascii
  | numeric
  | int
  | float
  | boolean
  | lowercase
  | uppercase
  | uuid (version : Option Nat)
  | macAddress
  | base64
  | json
  | iso8601
  | length (min max : Option Nat)
  | matching (pattern : Pattern)
  | containing (part : String)
  | equalTo (text : String)
  | oneOf (options : List String)

namespace Check

/-- The name under which the check is registered. -/
def name : Check → String
  | .email => "isEmail"
  | .url => "isURL"
  | .ip _ => "isIP"
  | .fullyQualifiedName => "isFQDN"
  | .hexColor => "isHexColor"
  | .hexadecimal => "isHexadecimal"
  | .alpha => "isAlpha"
  | .alphanumeric => "isAlphanumeric"
  | .ascii => "isAscii"
  | .numeric => "isNumeric"
  | .int => "isInt"
  | .float => "isFloat"
  | .boolean => "isBoolean"
  | .lowercase => "isLowercase"
  | .uppercase => "isUppercase"
  | .uuid _ => "isUUID"
  | .macAddress => "isMACAddress"
  | .base64 => "isBase64"
  | .json => "isJSON"
  | .iso8601 => "isISO8601"
  | .length _ _ => "isLength"
  | .matching _ => "matches"
  | .containing _ => "contains"
  | .equalTo _ => "equals"
  | .oneOf _ => "isIn"

/-- At least one character, all of one class. -/
def isAllOf (accepts : Char → Bool) (cs : List Char) : Bool := !cs.isEmpty && cs.all accepts

/-- Versions other than 4 and 6 do not choose between the two. -/
def isIp (version : Option Nat) (cs : List Char) : Bool :=
  match version with
  | some 4 => Ip.isV4 cs
  | some 6 => Ip.isV6 cs
  | _ => Ip.isV4 cs || Ip.isV6 cs

/-- A document whose top level is an array or an object. -/
def isJsonContainer (s : String) : Bool := (Json.ofText? s).any Json.isContainer

def isWithin (min max : Option Nat) (length : Nat) : Bool :=
  min.all (· ≤ length) && max.all (length ≤ ·)

/-- The part occurs somewhere in the text. -/
def isInfix (part : List Char) : List Char → Bool
  | [] => part.isEmpty
  | c :: rest => part.isPrefixOf (c :: rest) || isInfix part rest

def accepts (check : Check) (s : String) : Bool :=
  let cs := s.toList
  match check with
  | .email => Email.isAddress cs
  | .url => Url.isAddress cs
  | .ip version => isIp version cs
  | .fullyQualifiedName => Host.isFullyQualified cs
  | .hexColor => Notation.isHexColor cs
  | .hexadecimal => Notation.isHexadecimal cs
  | .alpha => isAllOf Char.isAlpha cs
  | .alphanumeric => isAllOf Char.isAlphanum cs
  | .ascii => isAllOf Text.isAscii cs
  | .numeric => Numeral.isNumeric cs
  | .int => Numeral.isInt cs
  | .float => Numeral.isFloat cs
  | .boolean => Notation.isBoolean s
  | .lowercase => cs == Unicode.toLower cs
  | .uppercase => cs == Unicode.toUpper cs
  | .uuid version => Notation.isUuid version cs
  | .macAddress => Notation.isMacAddress cs
  | .base64 => Notation.isBase64 cs
  | .json => isJsonContainer s
  | .iso8601 => Iso8601.accepts cs
  | .length min max => isWithin min max cs.length
  | .matching pattern => pattern.isMatch cs
  | .containing part => isInfix part.toList cs
  | .equalTo text => s == text
  | .oneOf options => options.contains s

end Check

end RecordSchema
