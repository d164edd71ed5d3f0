import BearerAuth.Json.Token

/-!
# JSON documents as written

The tree behind a text, with members in the order in which they stand and with numbers and
strings as written. It is built by a machine that takes one token at a time and keeps the
unfinished arrays and objects on a stack, so nesting has no limit here.
-/
namespace BearerAuth.Json

inductive Written
  | null
  | bool (value : Bool)
  | number (literal : NumberLiteral)
  | string (literal : StringLiteral)
  | array (items : List Written)
  | object (members : List (StringLiteral × Written))
  deriving Repr

namespace Written

/-- An array or object that is not closed yet, with what it holds so far, last first. An
object waits for the value of the key it names. -/
inductive Frame
  | items (done : List Written)
  | members (done : List (StringLiteral × Written)) (key : StringLiteral)
  deriving Repr

/-- What may come next, inside the given frames. -/
inductive Phase
  | value (frames : List Frame)
  | firstItem (frames : List Frame)
  | firstKey (frames : List Frame)
  | key (done : List (StringLiteral × Written)) (frames : List Frame)
  | colon (done : List (StringLiteral × Written)) (name : StringLiteral) (frames : List Frame)
  | after (value : Written) (frames : List Frame)
  deriving Repr

/-- Begin the value that the frames wait for. -/
def begin? (token : Token) (frames : List Frame) : Option Phase :=
  match token with
  | .null => some (.after null frames)
  | .bool value => some (.after (bool value) frames)
  | .number literal => some (.after (number literal) frames)
  | .string literal => some (.after (string literal) frames)
  | .openArray => some (.firstItem frames)
  | .openObject => some (.firstKey frames)
  | _ => none

def step (phase : Phase) (token : Token) : Option Phase :=
  match phase, token with
  | .firstItem frames, .closeArray => some (.after (array []) frames)
  | .firstItem frames, token => begin? token (.items [] :: frames)
  | .firstKey frames, .closeObject => some (.after (object []) frames)
  | .firstKey frames, .string name => some (.colon [] name frames)
  | .key done frames, .string name => some (.colon done name frames)
  | .colon done name frames, .colon => some (.value (.members done name :: frames))
  | .value frames, token => begin? token frames
  | .after item (.items done :: frames), .comma => some (.value (.items (item :: done) :: frames))
  | .after item (.items done :: frames), .closeArray =>
    some (.after (array (item :: done).reverse) frames)
  | .after item (.members done name :: frames), .comma => some (.key ((name, item) :: done) frames)
  | .after item (.members done name :: frames), .closeObject =>
    some (.after (object ((name, item) :: done).reverse) frames)
  | _, _ => none

def run (phase : Phase) (tokens : List Token) : Option Phase := tokens.foldlM step phase

/-- The tree behind a list of tokens. -/
def ofTokens? (tokens : List Token) : Option Written :=
  match run (.value []) tokens with
  | some (.after value []) => some value
  | _ => none

/-- The tree behind a text. -/
def read? (text : String) : Option Written := (Token.readAll text.toList).bind ofTokens?

mutual
/-- How many arrays and objects lie inside one another. -/
def depth : Written → Nat
  | array items => depthItems items + 1
  | object members => depthMembers members + 1
  | _ => 0

def depthItems : List Written → Nat
  | [] => 0
  | item :: rest => max item.depth (depthItems rest)

def depthMembers : List (StringLiteral × Written) → Nat
  | [] => 0
  | (_, value) :: rest => max value.depth (depthMembers rest)
end

end Written
end BearerAuth.Json
