import RecordSchema.Json.Source
import RecordSchema.Json.Token

/-!
# Reading documents

A pushdown machine over tokens: its stack holds the arrays and objects that are
open. The machine accepts any nesting; `Json.ofText?` limits it.
-/

namespace RecordSchema

namespace Json

namespace Source

/-- An open array or object, with what it holds so far in reverse. An object
waits for the value of its last key. -/
inductive Frame where
  | array (reversed : List Source)
  | object (reversed : List (Option String × Source)) (key : Option String)

inductive State where
  | value (stack : List Frame)
  | firstItem (stack : List Frame)
  | afterItem (reversed : List Source) (stack : List Frame)
  | firstKey (stack : List Frame)
  | key (reversed : List (Option String × Source)) (stack : List Frame)
  | colon (reversed : List (Option String × Source)) (key : Option String) (stack : List Frame)
  | afterField (reversed : List (Option String × Source)) (stack : List Frame)
  | done (source : Source)

/-- Hand a finished value to the innermost open container. -/
def settle (source : Source) : List Frame → State
  | [] => .done source
  | .array reversed :: stack => .afterItem (source :: reversed) stack
  | .object reversed key :: stack => .afterField ((key, source) :: reversed) stack

def quotedText (pieces : List Piece) : Option String := (decodePieces pieces).map String.ofList

def beginValue (stack : List Frame) : Token → Option State
  | .null => some (settle .null stack)
  | .bool b => some (settle (.bool b) stack)
  | .numeral n => some (settle (.number n.toNumber?) stack)
  | .quoted pieces => some (settle (.string (quotedText pieces)) stack)
  | .openArray => some (.firstItem stack)
  | .openObject => some (.firstKey stack)
  | _ => none

def step : State → Token → Option State
  | .value stack, token => beginValue stack token
  | .firstItem stack, .closeArray => some (settle (.array []) stack)
  | .firstItem stack, token => beginValue (.array [] :: stack) token
  | .afterItem reversed stack, .comma => some (.value (.array reversed :: stack))
  | .afterItem reversed stack, .closeArray => some (settle (.array reversed.reverse) stack)
  | .firstKey stack, .closeObject => some (settle (.object []) stack)
  | .firstKey stack, .quoted pieces => some (.colon [] (quotedText pieces) stack)
  | .key reversed stack, .quoted pieces => some (.colon reversed (quotedText pieces) stack)
  | .colon reversed key stack, .colon => some (.value (.object reversed key :: stack))
  | .afterField reversed stack, .comma => some (.key reversed stack)
  | .afterField reversed stack, .closeObject => some (settle (.object reversed.reverse) stack)
  | _, _ => none

def ofTokens? (tokens : List Token) : Option Source :=
  match tokens.foldlM step (.value []) with
  | some (.done source) => some source
  | _ => none

/-- The source of a well-formed document text, however deeply nested. -/
def ofText? (text : String) : Option Source := do ofTokens? (← Token.ofText? text)

end Source

/-- The tree of a document text. -/
def ofText? (text : String) : Option Json := do
  let source ← Source.ofText? text
  if source.depth ≤ Source.maxDepth then source.toJson? else none

end Json

end RecordSchema
