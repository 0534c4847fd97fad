import FormScaffold.Json.Token

/-!
# JSON values

Values are built from tokens by a machine that keeps the arrays and objects
still open, so they may be nested as deep as one likes.  Object members keep
their order, and a key may come more than once.
-/

namespace FormScaffold.Json

/-- A JSON value.  Strings and keys are kept as they were written. -/
inductive Value where
  | null
  | bool (b : Bool)
  | number (written : Text)
  | string (written : Text)
  | array (items : List Value)
  | object (members : List (Text × Value))

namespace Value

/-- An array or object that is still open, the last item first. -/
inductive Frame where
  | array (items : List Value)
  | object (members : List (Text × Value)) (key : Text)

/-- What may come next, inside the open arrays and objects. -/
inductive State where
  /-- A value. -/
  | value (stack : List Frame)
  /-- A value, or the end of an array that is still empty. -/
  | firstItem (stack : List Frame)
  /-- A key, or the end of an object that is still empty. -/
  | firstKey (stack : List Frame)
  /-- A further key of an object. -/
  | key (members : List (Text × Value)) (stack : List Frame)
  /-- The colon behind a key. -/
  | colon (members : List (Text × Value)) (key : Text) (stack : List Frame)
  /-- What stands behind a complete value. -/
  | after (v : Value) (stack : List Frame)

namespace State

/-- A token where a value may begin. -/
def beginValue (stack : List Frame) : Token → Option State
  | .null => some (after .null stack)
  | .bool b => some (after (.bool b) stack)
  | .number s => some (after (.number s) stack)
  | .string s => some (after (.string s) stack)
  | .openBracket => some (firstItem stack)
  | .openBrace => some (firstKey stack)
  | _ => none

def step : State → Token → Option State
  | value stack, t => beginValue stack t
  | firstItem stack, .closeBracket => some (after (.array []) stack)
  | firstItem stack, t => beginValue (.array [] :: stack) t
  | firstKey stack, .closeBrace => some (after (.object []) stack)
  | firstKey stack, .string k => some (colon [] k stack)
  | key members stack, .string k => some (colon members k stack)
  | colon members k stack, .colon => some (value (.object members k :: stack))
  | after v (.array items :: stack), .comma =>
      some (value (.array (v :: items) :: stack))
  | after v (.array items :: stack), .closeBracket =>
    some (after (.array (v :: items).reverse) stack)
  | after v (.object members k :: stack), .comma =>
      some (key ((k, v) :: members) stack)
  | after v (.object members k :: stack), .closeBrace =>
    some (after (.object ((k, v) :: members).reverse) stack)
  | _, _ => none

def result? : State → Option Value
  | after v [] => some v
  | _ => none

end State

/-- The value that these tokens write. -/
def ofTokens? (tokens : List Token) : Option Value :=
  tokens.foldlM State.step (State.value []) >>= State.result?

def parse? (s : Text) : Option Value := Token.scan? s >>= ofTokens?

/-- What a string says, if the value is one. -/
def text? : Value → Option Text
  | string s => Token.decode? s
  | _ => none

/-- What the items of an array say, if all of them are strings. -/
def texts? : Value → Option (List Text)
  | array items => items.mapM text?
  | _ => none

def optional? {α : Type} (read : Value → Option α) : Value → Option (Option α)
  | null => some none
  | v => (read v).map some

end Value
end FormScaffold.Json
