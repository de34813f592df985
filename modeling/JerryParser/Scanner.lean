import JerryParser.Emit
import JerryParser.Sample

/-! The pre-scanner of js-parser-scanner.c: `parser_scan_until` and the four helpers it
dispatches to by scan mode. The scanner pushes its own symbols on the parser's stack above a
`SCAN_STACK_HEAD` byte and emits no byte code. The main loop runs on fuel; running out is its
own outcome, distinct from every error the scanner raises. -/
namespace JerryParser

inductive ScanMode where
  | primaryExpression | primaryExpressionAfterNew | postPrimaryExpression
  | primaryExpressionEnd | statement | functionArguments | propertyName
  deriving DecidableEq, Repr

def scanStackHead : UInt8 := 0
def scanStackParenExpression : UInt8 := 1
def scanStackParenStatement : UInt8 := 2
def scanStackColonExpression : UInt8 := 3
def scanStackColonStatement : UInt8 := 4
def scanStackSquareBracketedExpression : UInt8 := 5
def scanStackObjectLiteral : UInt8 := 6
def scanStackBlockStatement : UInt8 := 7
def scanStackBlockExpression : UInt8 := 8
def scanStackBlockProperty : UInt8 := 9

variable (E : ParserEnv)

open LexerTokenType

def parserScanPrimaryExpression (type : LexerTokenType) (stackTop : UInt8) :
    ParserM (Bool × ScanMode) :=
  match type with
  | keywNew => pure (false,.primaryExpressionAfterNew)
  | divide | assignDivide => do
      lexerConstructRegexpObject E
      pure (false,.postPrimaryExpression)
  | keywFunction => do
      parserStackPushUint8 scanStackBlockExpression
      pure (false,.functionArguments)
  | leftParen => do
      parserStackPushUint8 scanStackParenExpression
      pure (false,.primaryExpression)
  | leftSquare => do
      parserStackPushUint8 scanStackSquareBracketedExpression
      pure (false,.primaryExpression)
  | leftBrace => do
      parserStackPushUint8 scanStackObjectLiteral
      pure (true,.propertyName)
  | literal | keywThis | litTrue | litFalse | litNull => pure (false,.postPrimaryExpression)
  | rightSquare => do
      if stackTop != scanStackSquareBracketedExpression then
        parserRaiseError .primaryExpExpected
      parserStackPopUint8 E
      pure (false,.postPrimaryExpression)
  | comma => do
      if stackTop != scanStackSquareBracketedExpression then
        parserRaiseError .primaryExpExpected
      pure (false,.primaryExpression)
  | rightParen => do
      let mut mode := ScanMode.postPrimaryExpression
      if stackTop == scanStackParenStatement then
        mode := .statement
      else if stackTop != scanStackParenExpression then
        parserRaiseError .primaryExpExpected
      parserStackPopUint8 E
      pure (false,mode)
  | semicolon => do
      if stackTop != scanStackParenStatement then
        parserRaiseError .primaryExpExpected
      pure (false,.primaryExpression)
  | _ => parserRaiseError .primaryExpExpected

def parserScanPostPrimaryExpression (type : LexerTokenType) (mode : ScanMode) :
    ParserM (Bool × ScanMode) :=
  match type with
  | dot => do
      lexerScanIdentifier E false
      pure (true,mode)
  | leftParen => do
      parserStackPushUint8 scanStackParenExpression
      pure (true,.primaryExpression)
  | leftSquare => do
      parserStackPushUint8 scanStackSquareBracketedExpression
      pure (true,.primaryExpression)
  | increase | decrease => do
      if !(← get).token.wasNewline then pure (true,.primaryExpressionEnd)
      else pure (false,mode)
  | _ => pure (false,mode)

def parserScanPrimaryExpressionEnd (type : LexerTokenType) (stackTop : UInt8)
    (endType : LexerTokenType) : ParserM (Bool × ScanMode) := do
  if type == questionMark then
    parserStackPushUint8 scanStackColonExpression
    return (false,.primaryExpression)
  if type == comma then
    if stackTop == scanStackObjectLiteral then return (true,.propertyName)
    return (false,.primaryExpression)
  if type == colon && (stackTop == scanStackColonExpression || stackTop == scanStackColonStatement) then
    let mode := if stackTop == scanStackColonExpression then ScanMode.primaryExpression
      else .statement
    parserStackPopUint8 E
    return (false,mode)
  if lexerIsBinaryOpToken type || (type == semicolon && stackTop == scanStackParenStatement) then
    return (false,.primaryExpression)
  if (type == rightSquare && stackTop == scanStackSquareBracketedExpression)
      || (type == rightParen && stackTop == scanStackParenExpression)
      || (type == rightBrace && stackTop == scanStackObjectLiteral) then
    parserStackPopUint8 E
    return (false,.postPrimaryExpression)
  if type == rightParen && stackTop == scanStackParenStatement then
    parserStackPopUint8 E
    return (false,.statement)
  if stackTop != scanStackBlockStatement && stackTop != scanStackBlockExpression
      && !(stackTop == scanStackHead && endType == scanSwitch) then
    parserRaiseError .invalidExpression
  if type == rightBrace || (← get).token.wasNewline then
    return (true,.statement)
  if type != semicolon then
    parserRaiseError .invalidExpression
  return (false,.statement)

def parserScanStatement (type : LexerTokenType) (stackTop : UInt8) (mode : ScanMode) :
    ParserM (Bool × ScanMode) := do
  match type with
  | semicolon | keywElse | keywDo | keywReturn | keywTry | keywFinally | keywDebugger =>
      return (false,mode)
  | keywIf | keywWhile | keywWith | keywSwitch | keywCatch =>
      lexerNextToken E
      if (← get).token.type != leftParen then
        parserRaiseError .leftParenExpected
      parserStackPushUint8 scanStackParenStatement
      return (false,.primaryExpression)
  | keywFor =>
      lexerNextToken E
      if (← get).token.type != leftParen then
        parserRaiseError .leftParenExpected
      lexerNextToken E
      parserStackPushUint8 scanStackParenStatement
      if (← get).token.type == keywVar then return (false,.primaryExpression)
      return (true,.primaryExpression)
  | keywVar | keywThrow => return (false,.primaryExpression)
  | keywBreak | keywContinue =>
      lexerNextToken E
      let token := (← get).token
      if !token.wasNewline && token.isIdent then return (false,mode)
      return (true,mode)
  | keywDefault =>
      lexerNextToken E
      if (← get).token.type != colon then
        parserRaiseError .colonExpected
      return (false,mode)
  | keywCase =>
      parserStackPushUint8 scanStackColonStatement
      return (false,.primaryExpression)
  | leftBrace =>
      parserStackPushUint8 scanStackBlockStatement
      return (false,mode)
  | keywFunction =>
      parserStackPushUint8 scanStackBlockStatement
      return (false,.functionArguments)
  | _ =>
      if type == rightBrace && (stackTop == scanStackBlockStatement
          || stackTop == scanStackBlockExpression || stackTop == scanStackBlockProperty) then
        parserStackPopUint8 E
        if stackTop == scanStackBlockExpression then return (false,.postPrimaryExpression)
        if stackTop == scanStackBlockProperty then
          lexerNextToken E
          let t := (← get).token.type
          if t != comma && t != rightBrace then
            parserRaiseError .objectItemSeparatorExpected
          return (true,.postPrimaryExpression)
        return (false,mode)
      if type == literal && (← get).token.litLocation.type == .identLiteral then
        lexerNextToken E
        if (← get).token.type == colon then return (false,.statement)
        return (true,.postPrimaryExpression)
      return (true,.primaryExpression)

def scanArgumentList : Nat → ParserM Unit
  | 0 => fun ctx => .error ⟨.outOfFuel,ctx⟩
  | fuel + 1 => do
      if !(← get).token.isIdent then
        parserRaiseError .identifierExpected
      lexerNextToken E
      if (← get).token.type != comma then return
      lexerNextToken E
      scanArgumentList fuel

def scanFunctionArguments (fuel : Nat) (stackTop : UInt8) : ParserM Unit := do
  parserAssert (stackTop == scanStackBlockStatement || stackTop == scanStackBlockExpression
    || stackTop == scanStackBlockProperty)
  if (← get).token.isIdent then lexerNextToken E
  if (← get).token.type != leftParen then
    parserRaiseError .argumentListExpected
  lexerNextToken E
  if (← get).token.type != rightParen then scanArgumentList E fuel
  if (← get).token.type != rightParen then
    parserRaiseError .rightParenExpected
  lexerNextToken E
  if (← get).token.type != leftBrace then
    parserRaiseError .leftBraceExpected

def scanPropertyName (stackTop : UInt8) : ParserM ScanMode := do
  parserAssert (stackTop == scanStackObjectLiteral)
  lexerScanIdentifier E true
  let t := (← get).token.type
  if t == rightBrace then
    parserStackPopUint8 E
    return .postPrimaryExpression
  if t == propertyGetter || t == propertySetter then
    parserStackPushUint8 scanStackBlockProperty
    return .functionArguments
  lexerNextToken E
  if (← get).token.type != colon then
    parserRaiseError .colonExpected
  return .primaryExpression

inductive ScanNext where
  | next (mode : ScanMode)
  | again (mode : ScanMode)
  | done
  deriving DecidableEq, Repr

def scanNext : Bool × ScanMode → ScanNext
  | (true,mode) => .again mode
  | (false,mode) => .next mode

def scanDispatch (fuel : Nat) (endType : LexerTokenType) (type : LexerTokenType)
    (stackTop : UInt8) : ScanMode → ParserM ScanNext
  | .primaryExpression =>
      if type == add || type == subtract || lexerIsUnaryOpToken type then
        pure (.next .primaryExpression)
      else scanNext <$> parserScanPrimaryExpression E type stackTop
  | .primaryExpressionAfterNew => scanNext <$> parserScanPrimaryExpression E type stackTop
  | .postPrimaryExpression => do
      let (advance,mode) ← parserScanPostPrimaryExpression E type .postPrimaryExpression
      if advance then return .next mode
      scanNext <$> parserScanPrimaryExpressionEnd E type stackTop endType
  | .primaryExpressionEnd => scanNext <$> parserScanPrimaryExpressionEnd E type stackTop endType
  | .statement => do
      if endType == scanSwitch && stackTop == scanStackHead
          && (type == keywDefault || type == keywCase || type == rightBrace) then
        parserStackPopUint8 E
        return .done
      scanNext <$> parserScanStatement E type stackTop .statement
  | .functionArguments => do
      scanFunctionArguments E fuel stackTop
      return .next .statement
  | .propertyName => .next <$> scanPropertyName E stackTop

def scanLoop (endType endTypeB : LexerTokenType) : Nat → ScanMode → LexerRange →
    ParserM LexerRange
  | 0,_,_ => fun ctx => .error ⟨.outOfFuel,ctx⟩
  | fuel + 1,mode,range => do
      let ctx ← get
      let type := ctx.token.type
      let stackTop := ctx.stack.stackTopUint8
      if type == eos then
        parserRaiseError .expressionExpected
      if stackTop == scanStackHead && (type == endType || type == endTypeB) then
        parserStackPopUint8 E
        return range
      match ← scanDispatch E fuel endType type stackTop mode with
      | .done => return range
      | .again mode => scanLoop endType endTypeB fuel mode range
      | .next mode => do
          let range := { range with sourceEndP := (← get).sourceP }
          lexerNextToken E
          scanLoop endType endTypeB fuel mode range

def parserScanUntil (fuel : Nat) (endType : LexerTokenType) : ParserM LexerRange := do
  let sourceP := (← get).sourceP
  let range : LexerRange := ⟨sourceP,sourceP⟩
  if endType == keywCase then
    parserStackPushUint8 scanStackHead
    scanLoop E scanSwitch scanSwitch fuel .statement range
  else
    lexerNextToken E
    let mut endTypeB := endType
    if endType == keywIn then
      endTypeB := semicolon
      if (← get).token.type == keywVar then lexerNextToken E
    parserStackPushUint8 scanStackHead
    scanLoop E endType endTypeB fuel .primaryExpression range

end JerryParser
