import RouteAtlas.Json.Token

/-! # Documents of a JSON text

Reading a text never fails: it gives a document in which a fault stands where the text goes wrong,
and nothing after it. A later reader that walks the document from left to right therefore meets
mistakes of meaning and mistakes of form in the order in which the text has them.
-/

namespace RouteAtlas.Json

/-- What a JSON text says, up to its first fault. -/
inductive Doc where
  | null
  | bool (value : Bool)
  | number (numeral : Numeral)
  | text (content : String)
  /-- A string with an escaped half of a surrogate pair, which stands for no text. -/
  | unpaired
  /-- An array; it is not closed if the text goes wrong before its end. -/
  | array (items : List Doc) (closed : Bool)
  /-- An object with its members in the order of the text, repeated keys included. A key is none if
      it has an escaped half of a surrogate pair. -/
  | object (members : List (Option String × Doc)) (closed : Bool)
  /-- Something that is no value. -/
  | fault

namespace Doc

/-- Whether the text does not go wrong inside this document. A fault ends a text, so a container
    that is closed has none inside. -/
def isWhole : Doc → Bool
  | .array _ closed | .object _ closed => closed
  | .fault => false
  | _ => true

/-- A container that is being read, with what precedes the open place, latest first. -/
inductive Frame where
  | array (before : List Doc)
  | object (before : List (Option String × Doc)) (key : Option String)

/-- Where a reader stands, the containers around it innermost first. -/
inductive State where
  | value (stack : List Frame)
  /-- A first item or the end of the array must follow. -/
  | item (stack : List Frame)
  /-- A key must follow, or the end of the object if no member precedes. -/
  | member (before : List (Option String × Doc)) (stack : List Frame)
  | colon (before : List (Option String × Doc)) (key : Option String) (stack : List Frame)
  /-- A value ends here. -/
  | ended (doc : Doc) (stack : List Frame)
  /-- The text went wrong. -/
  | broken (doc : Doc)

/-- Close the containers around a fault: none of them is complete. -/
def unwind : Doc → List Frame → Doc
  | doc, [] => doc
  | doc, .array before :: stack => unwind (.array (doc :: before).reverse false) stack
  | doc, .object before key :: stack => unwind (.object ((key, doc) :: before).reverse false) stack

/-- The document of a text that goes wrong here. -/
def abandon : State → Doc
  | .value stack => unwind .fault stack
  | .item stack => unwind (.array [] false) stack
  | .member before stack => unwind (.object before.reverse false) stack
  | .colon before key stack => unwind (.object ((key, .fault) :: before).reverse false) stack
  | .ended doc stack => unwind doc stack
  | .broken doc => doc

def ofToken? : Token → Option Doc
  | .null => some .null
  | .bool value => some (.bool value)
  | .number numeral => some (.number numeral)
  | .text content => some (.text content)
  | .unpaired => some .unpaired
  | _ => none

/-- Take a token where a value must follow. -/
def stepValue (stack : List Frame) (token : Token) : State :=
  match token with
  | .beginArray => .item stack
  | .beginObject => .member [] stack
  | token =>
    match ofToken? token with
    | some doc => .ended doc stack
    | none => .broken (unwind .fault stack)

def step (state : State) (token : Token) : State :=
  match state, token with
  | .value stack, token => stepValue stack token
  | .item stack, .endArray => .ended (.array [] true) stack
  | .item stack, token => stepValue (.array [] :: stack) token
  | .member [] stack, .endObject => .ended (.object [] true) stack
  | .member before stack, .text content => .colon before (some content) stack
  | .member before stack, .unpaired => .colon before none stack
  | .colon before key stack, .colon => .value (.object before key :: stack)
  | .ended doc (.array before :: stack), .comma => .value (.array (doc :: before) :: stack)
  | .ended doc (.array before :: stack), .endArray =>
    .ended (.array (doc :: before).reverse true) stack
  | .ended doc (.object before key :: stack), .comma => .member ((key, doc) :: before) stack
  | .ended doc (.object before key :: stack), .endObject =>
    .ended (.object ((key, doc) :: before).reverse true) stack
  | state, _ => .broken (abandon state)

/-- Read a document from tokens, and the tokens after it. -/
def run : State → List Token → Doc × List Token
  | .ended doc [], tokens => (doc, tokens)
  | .broken doc, _ => (doc, [])
  | state, [] => (abandon state, [])
  | state, token :: tokens => run (step state token) tokens

/-- Read a document from a text, and the tokens that follow it. -/
def read (text : String) : Doc × List Token :=
  run (.value []) (Token.scan text.toList)

end Doc

end RouteAtlas.Json
