namespace OperationTree

inductive UnaryOperator where
  | negate | not | bitwiseNegate
  deriving DecidableEq, Repr, Inhabited

namespace UnaryOperator

def all : List UnaryOperator := [.negate, .not, .bitwiseNegate]

def key : UnaryOperator → String
  | .negate => "negate"
  | .not => "not"
  | .bitwiseNegate => "bitwise_negate"

def symbol : UnaryOperator → String
  | .negate => "-"
  | .not => "!"
  | .bitwiseNegate => "~"

def ofKey? (key : String) : Option UnaryOperator := all.find? (·.key == key)

end UnaryOperator

inductive BinaryOperator where
  | add | subtract | multiply | divide | remainder
  | equals | notEquals | lessThan | lessThanOrEqual | greaterThan | greaterThanOrEqual
  | and | or
  deriving DecidableEq, Repr, Inhabited

namespace BinaryOperator

def all : List BinaryOperator :=
  [.add, .subtract, .multiply, .divide, .remainder, .equals, .notEquals, .lessThan,
    .lessThanOrEqual, .greaterThan, .greaterThanOrEqual, .and, .or]

def key : BinaryOperator → String
  | .add => "add"
  | .subtract => "subtract"
  | .multiply => "multiply"
  | .divide => "divide"
  | .remainder => "remainder"
  | .equals => "equals"
  | .notEquals => "not_equals"
  | .lessThan => "less_than"
  | .lessThanOrEqual => "less_than_or_equal"
  | .greaterThan => "greater_than"
  | .greaterThanOrEqual => "greater_than_or_equal"
  | .and => "and"
  | .or => "or"

def symbol : BinaryOperator → String
  | .add => "+"
  | .subtract => "-"
  | .multiply => "*"
  | .divide => "/"
  | .remainder => "%"
  | .equals => "=="
  | .notEquals => "!="
  | .lessThan => "<"
  | .lessThanOrEqual => "<="
  | .greaterThan => ">"
  | .greaterThanOrEqual => ">="
  | .and => "&&"
  | .or => "||"

def ofKey? (key : String) : Option BinaryOperator := all.find? (·.key == key)

end BinaryOperator

/-- The keys under which payloads are written, in alphabetical order. -/
inductive PayloadKey where
  | field | method | name | op | value
  deriving DecidableEq, Repr, Inhabited

namespace PayloadKey

def all : List PayloadKey := [.field, .method, .name, .op, .value]

def text : PayloadKey → String
  | .field => "field"
  | .method => "method"
  | .name => "name"
  | .op => "op"
  | .value => "value"

end PayloadKey

inductive KindTag where
  | none | invalid | block | expressionStatement | variableDeclaration | literal
  | localReference | fieldReference | parenthesized | unary | binary | conditional
  | invocation | argument | loop | returns | anonymousFunction | conversion
  deriving DecidableEq, Repr, Inhabited

namespace KindTag

def all : List KindTag :=
  [.none, .invalid, .block, .expressionStatement, .variableDeclaration, .literal,
    .localReference, .fieldReference, .parenthesized, .unary, .binary, .conditional,
    .invocation, .argument, .loop, .returns, .anonymousFunction, .conversion]

/-- The name shown to a reader. -/
def name : KindTag → String
  | .none => "None"
  | .invalid => "Invalid"
  | .block => "Block"
  | .expressionStatement => "ExpressionStatement"
  | .variableDeclaration => "VariableDeclaration"
  | .literal => "Literal"
  | .localReference => "LocalReference"
  | .fieldReference => "FieldReference"
  | .parenthesized => "Parenthesized"
  | .unary => "Unary"
  | .binary => "Binary"
  | .conditional => "Conditional"
  | .invocation => "Invocation"
  | .argument => "Argument"
  | .loop => "Loop"
  | .returns => "Return"
  | .anonymousFunction => "AnonymousFunction"
  | .conversion => "Conversion"

/-- The tag written in a document. -/
def key : KindTag → String
  | .none => "none"
  | .invalid => "invalid"
  | .block => "block"
  | .expressionStatement => "expression_statement"
  | .variableDeclaration => "variable_declaration"
  | .literal => "literal"
  | .localReference => "local_reference"
  | .fieldReference => "field_reference"
  | .parenthesized => "parenthesized"
  | .unary => "unary"
  | .binary => "binary"
  | .conditional => "conditional"
  | .invocation => "invocation"
  | .argument => "argument"
  | .loop => "loop"
  | .returns => "return"
  | .anonymousFunction => "anonymous_function"
  | .conversion => "conversion"

def ofKey? (key : String) : Option KindTag := all.find? (·.key == key)

def payloadKey : KindTag → Option PayloadKey
  | .variableDeclaration | .localReference => some .name
  | .literal => some .value
  | .fieldReference => some .field
  | .unary | .binary => some .op
  | .invocation => some .method
  | _ => Option.none

def isPlaceholder : KindTag → Bool
  | .none | .invalid => true
  | _ => false

end KindTag

inductive Kind where
  | none
  | invalid
  | block
  | expressionStatement
  | variableDeclaration (name : String)
  | literal (value : String)
  | localReference (name : String)
  | fieldReference (field : String)
  | parenthesized
  | unary (op : UnaryOperator)
  | binary (op : BinaryOperator)
  | conditional
  | invocation (method : String)
  | argument
  | loop
  | returns
  | anonymousFunction
  | conversion
  deriving DecidableEq, Repr, Inhabited

namespace Kind

def tag : Kind → KindTag
  | .none => .none
  | .invalid => .invalid
  | .block => .block
  | .expressionStatement => .expressionStatement
  | .variableDeclaration _ => .variableDeclaration
  | .literal _ => .literal
  | .localReference _ => .localReference
  | .fieldReference _ => .fieldReference
  | .parenthesized => .parenthesized
  | .unary _ => .unary
  | .binary _ => .binary
  | .conditional => .conditional
  | .invocation _ => .invocation
  | .argument => .argument
  | .loop => .loop
  | .returns => .returns
  | .anonymousFunction => .anonymousFunction
  | .conversion => .conversion

def name (k : Kind) : String := k.tag.name

def payloadKey (k : Kind) : Option PayloadKey := k.tag.payloadKey

def isPlaceholder (k : Kind) : Bool := k.tag.isPlaceholder

def symbol : Kind → Option String
  | .unary op => some op.symbol
  | .binary op => some op.symbol
  | _ => Option.none

/-- The payload as a reader sees it: a text, or an operator's symbol. -/
def payload : Kind → Option String
  | .variableDeclaration text | .literal text | .localReference text | .fieldReference text
  | .invocation text => some text
  | .unary op => some op.symbol
  | .binary op => some op.symbol
  | _ => Option.none

/-- The payload as a document holds it: a text, or an operator's key. -/
def written : Kind → Option String
  | .variableDeclaration text | .literal text | .localReference text | .fieldReference text
  | .invocation text => some text
  | .unary op => some op.key
  | .binary op => some op.key
  | _ => Option.none

end Kind

end OperationTree
