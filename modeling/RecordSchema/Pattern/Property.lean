import RecordSchema.Unicode.Age
import RecordSchema.Unicode.Boundary
import RecordSchema.Unicode.Property
import RecordSchema.Unicode.Script

/-!
# Names of character properties

What a pattern may write between the braces of `\p`: a category, a script or a
binary property, or a property and one of its values. Case, spaces, hyphens,
underscores and a leading `is` do not matter.
-/

namespace RecordSchema

namespace Pattern

open Unicode

/-- The form in which names are compared. -/
def normalizeName (name : List Char) : String :=
  let hasIs := (name.take 2).map Char.toLower == ['i', 's']
  let kept := ((if hasIs then name.drop 2 else name).filter fun c =>
    c.toNat < 0x80 && !(c == ' ' || c == '_' || c == '-')).map Char.toLower
  if hasIs && kept == ['c'] then "isc" else String.ofList kept

/-- The value under a name of a list of aliases. -/
def named? (table : List (List String × α)) (name : String) : Option α :=
  (table.find? fun entry => entry.1.contains name).map Prod.snd

def categoryNames : List (List String × CharSet) := [
  (["any"], .all),
  (["assigned"], assigned.union surrogate),
  (["ascii"], .ofTable "0-7F"),
  (["c", "other"], other),
  (["cc", "control", "cntrl"], control),
  (["cf", "format"], format),
  (["cn", "unassigned"], unassigned),
  (["co", "privateuse"], privateUse),
  (["l", "letter"], letter),
  (["lc", "casedletter"], casedLetter),
  (["ll", "lowercaseletter"], lowercaseLetter),
  (["lm", "modifierletter"], modifierLetter),
  (["lo", "otherletter"], otherLetter),
  (["lt", "titlecaseletter"], titlecaseLetter),
  (["lu", "uppercaseletter"], uppercaseLetter),
  (["m", "mark", "combiningmark"], mark),
  (["mc", "spacingmark"], spacingMark),
  (["me", "enclosingmark"], enclosingMark),
  (["mn", "nonspacingmark"], nonspacingMark),
  (["n", "number"], number),
  (["nd", "decimalnumber", "digit"], decimalNumber),
  (["nl", "letternumber"], letterNumber),
  (["no", "othernumber"], otherNumber),
  (["p", "punctuation", "punct"], punctuation),
  (["pc", "connectorpunctuation"], connectorPunctuation),
  (["pd", "dashpunctuation"], dashPunctuation),
  (["pe", "closepunctuation"], closePunctuation),
  (["pf", "finalpunctuation"], finalPunctuation),
  (["pi", "initialpunctuation"], initialPunctuation),
  (["po", "otherpunctuation"], otherPunctuation),
  (["ps", "openpunctuation"], openPunctuation),
  (["s", "symbol"], symbol),
  (["sc", "currencysymbol"], currencySymbol),
  (["sk", "modifiersymbol"], modifierSymbol),
  (["sm", "mathsymbol"], mathSymbol),
  (["so", "othersymbol"], otherSymbol),
  (["z", "separator"], separator),
  (["zl", "lineseparator"], lineSeparator),
  (["zp", "paragraphseparator"], paragraphSeparator),
  (["zs", "spaceseparator"], spaceSeparator)]

def binaryNames : List (List String × CharSet) := [
  (["ahex", "asciihexdigit"], asciiHexDigit),
  (["alpha", "alphabetic"], alphabetic),
  (["bidic", "bidicontrol"], bidiControl),
  (["ci", "caseignorable"], caseIgnorable),
  (["cased"], cased),
  (["cwcf", "changeswhencasefolded"], changesWhenCasefolded),
  (["cwcm", "changeswhencasemapped"], changesWhenCasemapped),
  (["cwl", "changeswhenlowercased"], changesWhenLowercased),
  (["cwt", "changeswhentitlecased"], changesWhenTitlecased),
  (["cwu", "changeswhenuppercased"], changesWhenUppercased),
  (["dash"], dash),
  (["dep", "deprecated"], deprecatedSign),
  (["di", "defaultignorablecodepoint"], defaultIgnorable),
  (["dia", "diacritic"], diacritic),
  (["ebase", "emojimodifierbase"], emojiModifierBase),
  (["ecomp", "emojicomponent"], emojiComponent),
  (["emod", "emojimodifier"], emojiModifier),
  (["emoji"], emoji),
  (["epres", "emojipresentation"], emojiPresentation),
  (["ext", "extender"], extender),
  (["extpict", "extendedpictographic"], extendedPictographic),
  (["grbase", "graphemebase"], graphemeBase),
  (["grext", "graphemeextend"], graphemeExtend),
  (["hex", "hexdigit"], hexDigit),
  (["idc", "idcontinue"], idContinue),
  (["idcompatmathcontinue"], idCompatMathContinue),
  (["idcompatmathstart"], idCompatMathStart),
  (["ideo", "ideographic"], ideographic),
  (["ids", "idstart"], idStart),
  (["idsb", "idsbinaryoperator"], idsBinaryOperator),
  (["idst", "idstrinaryoperator"], idsTrinaryOperator),
  (["idsu", "idsunaryoperator"], idsUnaryOperator),
  (["joinc", "joincontrol"], joinControl),
  (["loe", "logicalorderexception"], logicalOrderException),
  (["lower", "lowercase"], lowercase),
  (["math"], math),
  (["mcm", "modifiercombiningmark"], modifierCombiningMark),
  (["nchar", "noncharactercodepoint"], noncharacter),
  (["patsyn", "patternsyntax"], patternSyntax),
  (["patws", "patternwhitespace"], patternWhiteSpace),
  (["pcm", "prependedconcatenationmark"], prependedConcatenationMark),
  (["qmark", "quotationmark"], quotationMark),
  (["radical"], radical),
  (["ri", "regionalindicator"], regionalIndicator),
  (["sd", "softdotted"], softDotted),
  (["space", "wspace", "whitespace"], whiteSpace),
  (["sterm", "sentenceterminal"], sentenceTerminal),
  (["term", "terminalpunctuation"], terminalPunctuation),
  (["uideo", "unifiedideograph"], unifiedIdeograph),
  (["upper", "uppercase"], uppercase),
  (["vs", "variationselector"], variationSelector),
  (["xidc", "xidcontinue"], xidContinue),
  (["xids", "xidstart"], xidStart)]

/-- Other names of the values in the tables of boundary classes. -/
def graphemeAliases : List (String × String) :=
  [("cn", "control"), ("ex", "extend"), ("pp", "prepend"), ("ri", "regionalindicator"),
    ("sm", "spacingmark")]

def wordAliases : List (String × String) :=
  [("dq", "doublequote"), ("ex", "extendnumlet"), ("fo", "format"), ("hl", "hebrewletter"),
    ("ka", "katakana"), ("le", "aletter"), ("mb", "midnumlet"), ("ml", "midletter"),
    ("mn", "midnum"), ("nl", "newline"), ("nu", "numeric"), ("ri", "regionalindicator"),
    ("sq", "singlequote")]

def sentenceAliases : List (String × String) :=
  [("at", "aterm"), ("cl", "close"), ("ex", "extend"), ("fo", "format"), ("le", "oletter"),
    ("lo", "lower"), ("nu", "numeric"), ("sc", "scontinue"), ("se", "sep"), ("st", "sterm"),
    ("up", "upper")]

def boundarySet? (aliases tables : List (String × String)) (value : String) : Option CharSet :=
  let name := (aliases.lookup value).getD value
  (tables.find? fun entry => normalizeName entry.1.toList == name).map fun entry =>
    .ofTable entry.2

def graphemeSet? (value : String) : Option CharSet :=
  if value == "lv" then some hangulOpenSyllable
  else if value == "lvt" then some hangulClosedSyllable
  else boundarySet? graphemeAliases graphemeBreakTables value

def script? (name : String) : Option Script :=
  scripts.find? fun s => s.names.any fun n => normalizeName n.toList == name

/-- The version with a name such as `6.1` or `V6_1`. -/
def ageSet? (value : String) : Option CharSet :=
  let found := ageTables.find? fun entry =>
    entry.1 == value || "v" ++ String.ofList (entry.1.toList.filter (· != '.')) == value
  found.bind fun entry => charactersUpTo? entry.1

/-- A property, category or script by its name alone. -/
def propertySet? (name : List Char) : Option CharSet :=
  let n := normalizeName name
  ((named? binaryNames n).or (named? categoryNames n)).or ((script? n).map Script.set)

/-- The characters with a value of a property. -/
def valueSet? (property value : List Char) : Option CharSet :=
  let v := normalizeName value
  match normalizeName property with
  | "gc" | "generalcategory" => named? categoryNames v
  | "sc" | "script" => (script? v).map Script.set
  | "scx" | "scriptextensions" => (script? v).map Script.extendedSet
  | "age" => ageSet? v
  | "gcb" | "graphemeclusterbreak" => graphemeSet? v
  | "wb" | "wordbreak" => boundarySet? wordAliases wordBreakTables v
  | "sb" | "sentencebreak" => boundarySet? sentenceAliases sentenceBreakTables v
  | _ => none

/-- A name alone, or a property and a value joined by `!=`, `:` or `=`, which
are tried in this order and mean the same: only `\P` negates. -/
def braceSet? (text : List Char) : Option CharSet :=
  match (splitAt? ['!', '='] text).or ((splitAt? [':'] text).or (splitAt? ['='] text)) with
  | some (property, value) => valueSet? property value
  | none => propertySet? text
where
  splitAt? (mark : List Char) : List Char → Option (List Char × List Char)
    | [] => none
    | c :: rest =>
      if mark.isPrefixOf (c :: rest) then some ([], (c :: rest).drop mark.length)
      else (splitAt? mark rest).map fun (before, after) => (c :: before, after)

-- ---------------------------------------------------------------------------
-- Classes with names of their own
-- ---------------------------------------------------------------------------

/-- Characters of words: letters, marks, digits, connectors and joiners. -/
def wordSet : CharSet :=
  .unions [alphabetic, mark, decimalNumber, connectorPunctuation, joinControl]

def asciiSet : CharSet := .ofTable "0-7F"

def asciiWordSet : CharSet := .ofTable "30-39 41-5A 5F 61-7A"

/-- The class of a letter after a backslash, over all characters or over ASCII. -/
def shorthandSet? (ascii : Bool) : Char → Option CharSet
  | 'd' => some (if ascii then .ofTable "30-39" else decimalNumber)
  | 's' => some (if ascii then .ofTable "9-D 20" else whiteSpace)
  | 'w' => some (if ascii then asciiWordSet else wordSet)
  | _ => none

/-- Classes written `[:name:]`. -/
def posixTables : List (String × String) :=
  [("alnum", "30-39 41-5A 61-7A"), ("alpha", "41-5A 61-7A"), ("ascii", "0-7F"),
    ("blank", "9 20"), ("cntrl", "0-1F 7F"), ("digit", "30-39"), ("graph", "21-7E"),
    ("lower", "61-7A"), ("print", "20-7E"), ("punct", "21-2F 3A-40 5B-60 7B-7E"),
    ("space", "9-D 20"), ("upper", "41-5A"), ("word", "30-39 41-5A 5F 61-7A"),
    ("xdigit", "30-39 41-46 61-66")]

end Pattern

end RecordSchema
