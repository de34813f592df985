import JerryParser.Stack

/-! The parser context (`parser_context_t`, the fields the statement parser and the pre-scanner
use) and what the missing parts of the parser are to it: the expression parser, the function
compiler and the byte code emitter's instruction sizes are parameters (`ParserEnv`). A run ends
in an error the parser raises, a failed `PARSER_ASSERT`, an undefined stack access, or fuel
running out; each carries the context at that point, which is what `parser_free_jumps` sees. -/
namespace JerryParser

inductive CbcOpcode where
  | pushTrue | pushFalse | logicalNot | pushIdent | pushLiteral | propGet | propStringGet
  | assign | assignIdent | assignPropString | pop | strictEqual | throw | returnValue
  | returnWithUndefined | contextEnd
  | jumpForward | jumpForwardExitContext | branchIfFalseForward | branchIfTrueForward
  | branchIfStrictEqual | jumpBackward | branchIfTrueBackward | branchIfFalseBackward
  | extWithCreateContext | extForInCreateContext | extTryCreateContext | extCatch | extFinally
  | extForInGetNext | extPushUndefinedBase | extDebugger | extBranchIfForInHasNext
  | expression (n : Nat)
  deriving DecidableEq, Repr

inductive ExprOpcode where
  | pushTrue | pushFalse | logicalNot | pushIdent | pushLiteral | propGet | propStringGet
  | other (n : Nat)
  deriving DecidableEq, Repr

def ExprOpcode.toCbc : ExprOpcode → CbcOpcode
  | pushTrue => .pushTrue
  | pushFalse => .pushFalse
  | logicalNot => .logicalNot
  | pushIdent => .pushIdent
  | pushLiteral => .pushLiteral
  | propGet => .propGet
  | propStringGet => .propStringGet
  | other n => .expression n

def CbcOpcode.toExpr : CbcOpcode → Option ExprOpcode
  | pushTrue => some .pushTrue
  | pushFalse => some .pushFalse
  | logicalNot => some .logicalNot
  | pushIdent => some .pushIdent
  | pushLiteral => some .pushLiteral
  | propGet => some .propGet
  | propStringGet => some .propStringGet
  | expression n => some (.other n)
  | _ => none

inductive CbcInstr where
  | op (opcode : CbcOpcode) (argument : Nat)
  | forward (opcode : CbcOpcode)
  | backward (opcode : CbcOpcode) (distance : Nat)
  | expression (bytes : Nat)
  deriving DecidableEq, Repr

structure ParserBranchNode where
  nextP : Option Nat
  branch : ParserBranch
  deriving DecidableEq, Repr

structure ParserStatusFlags where
  isStrict : Bool
  isFunction : Bool
  isClosure : Bool
  hasNonStrictArg : Bool
  inWidth : Bool
  deriving DecidableEq, Repr

structure ParseExprOptions where
  statement : Bool
  block : Bool
  noComma : Bool
  hasLiteral : Bool
  deriving DecidableEq, Repr

def parseExpr : ParseExprOptions := ⟨false,false,false,false⟩

structure ExprState where
  token : LexerToken
  sourceP : Nat
  sourceEndP : Nat
  lastCbcOpcode : Option ExprOpcode
  lastCbc : Nat
  deriving DecidableEq, Repr

structure ParserContext where
  statusFlags : ParserStatusFlags
  stackDepth : UInt16
  contextStackDepth : UInt16
  lastStatement : Option Nat
  token : LexerToken
  sourceP : Nat
  sourceEndP : Nat
  lastCbc : Nat
  lastCbcOpcode : Option CbcOpcode
  byteCode : List CbcInstr
  byteCodeSize : Nat
  /-- The operand writes of `parser_set_branch_to_current_position`: the branch instruction's
  index and the byte code size it was set to. -/
  patches : List (Nat × Nat)
  stack : ParserStack
  /-- The allocated branch nodes by address; `nextNode` is the next fresh address. -/
  nodes : List (Nat × ParserBranchNode)
  nextNode : Nat
  deriving DecidableEq, Repr

inductive ParserAbort where
  | error (e : ParserError)
  | assertion
  | undefined
  | outOfFuel
  deriving DecidableEq, Repr

structure ParserFailure where
  abort : ParserAbort
  context : ParserContext
  deriving DecidableEq, Repr

abbrev ParserResult (α : Type) := Except ParserFailure (α × ParserContext)

abbrev ParserM := StateT ParserContext (Except ParserFailure)

/-- The parts of the parser that are not in the sources. `parseExpression` is
`parser_parse_expression`: besides its new state it returns how many bytes of code it wrote.
`constructFunctionObject` is `lexer_construct_function_object`, which compiles a whole nested
function and leaves this function's code alone. -/
structure ParserEnv where
  layout : ParserLayout
  lexer : Lexer
  cbcLength : CbcInstr → Nat
  tryContextStackAllocation : UInt16
  withContextStackAllocation : UInt16
  forInContextStackAllocation : UInt16
  parseExpression : ParseExprOptions → ExprState → Except (ParserError × ExprState) (ExprState × Nat)
  constructFunctionObject : ExprState → Except (ParserError × ExprState) ExprState

variable (E : ParserEnv)

def instrLength : CbcInstr → Nat
  | .expression n => n
  | i => E.cbcLength i

def parserRaiseError {α : Type} (e : ParserError) : ParserM α :=
  fun ctx => .error ⟨.error e,ctx⟩

def parserAssert (c : Bool) : ParserM Unit :=
  fun ctx => if c then .ok ((),ctx) else .error ⟨.assertion,ctx⟩

def parserUndefined {α : Type} : ParserM α :=
  fun ctx => .error ⟨.undefined,ctx⟩

def orUndefined {α : Type} : Option α → ParserM α
  | some a => pure a
  | none => parserUndefined

def lexerStep (r : Except ParserError (LexerToken × Nat)) : ParserM Unit :=
  match r with
  | .ok (t,p) => modify fun ctx => { ctx with token := t, sourceP := p }
  | .error e => parserRaiseError e

def lexerNextToken : ParserM Unit := do
  let ctx ← get
  lexerStep (E.lexer.nextToken ctx.sourceP ctx.sourceEndP)

def lexerScanIdentifier (propertyName : Bool) : ParserM Unit := do
  let ctx ← get
  lexerStep (E.lexer.scanIdentifier propertyName ctx.sourceP ctx.sourceEndP)

def lexerConstructRegexpObject : ParserM Unit := do
  let ctx ← get
  lexerStep (E.lexer.constructRegexp ctx.token ctx.sourceP ctx.sourceEndP)

def lexerExpectIdentifier : ParserM Unit := do
  let ctx ← get
  lexerStep (E.lexer.expectIdentifier ctx.statusFlags.isStrict ctx.sourceP ctx.sourceEndP)

def parserSaveRange (ctx : ParserContext) (sourceEndP : Nat) : LexerRange :=
  ⟨ctx.sourceP,sourceEndP⟩

def parserSetRange (range : LexerRange) : ParserM Unit :=
  modify fun ctx => { ctx with sourceP := range.sourceP, sourceEndP := range.sourceEndP }

def parserStackPush (r : ParserRecord) : ParserM Unit :=
  modify fun ctx => { ctx with stack := ctx.stack.push E.layout r }

def parserStackPushUint8 (b : UInt8) : ParserM Unit :=
  modify fun ctx => { ctx with stack := ctx.stack.pushUint8 b }

def parserStackPopUint8 : ParserM Unit := do
  let ctx ← get
  let s ← orUndefined (ctx.stack.popUint8 E.layout)
  set { ctx with stack := s }

def parserStackPop : ParserM ParserRecord := do
  let ctx ← get
  let (r,s) ← orUndefined (ctx.stack.pop E.layout)
  set { ctx with stack := s }
  pure r

def parserStackPopBytes (n : Nat) : ParserM Unit := do
  let ctx ← get
  let s ← orUndefined (ctx.stack.popBytes E.layout n)
  set { ctx with stack := s }

def parserStackChangeLastUint8 (b : UInt8) : ParserM Unit := do
  let ctx ← get
  let s ← orUndefined (ctx.stack.changeLastUint8 b)
  set { ctx with stack := s }

def parserStackIteratorInit : ParserM Nat := do
  pure ((← get).stack.iteratorInit E.layout)

def initLastStatement : ParserM Unit :=
  modify fun ctx => { ctx with lastStatement := some (ctx.stack.iteratorInit E.layout) }

def parserStackIteratorReadUint8 (it : Nat) : ParserM UInt8 := do
  orUndefined ((← get).stack.iteratorReadUint8 E.layout it)

def parserStackIteratorRead (it : Nat) : ParserM ParserRecord := do
  orUndefined ((← get).stack.iteratorRead E.layout it)

def parserStackIteratorWrite (it : Nat) (r : ParserRecord) : ParserM Unit := do
  let ctx ← get
  let s ← orUndefined (ctx.stack.iteratorWrite E.layout it r)
  set { ctx with stack := s }

end JerryParser
