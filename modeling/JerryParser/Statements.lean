import JerryParser.Branching

/-! `parser_parse_statements`: the directive prologue, then a loop that dispatches on the first
token of a statement and, after a statement ends, closes every frame whose body it was; and
`parser_free_jumps`, which the caller runs on `last_statement` when a parse fails. -/
namespace JerryParser

variable (E : ParserEnv)

open LexerTokenType

inductive StatementEnd where
  | next
  | returned
  deriving DecidableEq, Repr

def parserParseSwitchStatementEnd : ParserM Unit := do
  let hasDefault := (← get).stack.stackTopUint8 == parserStatementSwitch
  parserStackPopUint8 E
  let loop ← orUndefined (← parserStackPop E).asLoop
  let switchStatement ← orUndefined (← parserStackPop E).asSwitch
  initLastStatement E
  parserAssert switchStatement.branchListP.isNone
  if !hasDefault then
    parserSetBranchToCurrentPosition E switchStatement.defaultBranch
  parserSetBreaksToCurrentPosition E loop.branchListP
  lexerNextToken E

def parserParseForInStatementEnd : ParserM Unit := do
  parserStackPopUint8 E
  let loop ← orUndefined (← parserStackPop E).asLoop
  let forInStatement ← orUndefined (← parserStackPop E).asForIn
  initLastStatement E
  parserSetContinuesToCurrentPosition E loop.branchListP
  parserFlushCbc E
  modify fun ctx => { ctx with
    stackDepth := ctx.stackDepth - E.forInContextStackAllocation,
    contextStackDepth := ctx.contextStackDepth - E.forInContextStackAllocation }
  parserEmitCbcBackwardBranch E .extBranchIfForInHasNext forInStatement.startOffset
  parserSetBreaksToCurrentPosition E loop.branchListP
  parserSetBranchToCurrentPosition E forInStatement.branch

def parserStatementTerminator : ParserM StatementEnd := do
  let ctx ← get
  let top := ctx.stack.stackTopUint8
  if ctx.token.type == rightBrace then
    if top == parserStatementBlock then
      parserStackPopUint8 E
      initLastStatement E
      lexerNextToken E
    else if top == parserStatementSwitch || top == parserStatementSwitchNoDefault then
      parserParseSwitchStatementEnd E
    else if top == parserStatementTry then
      parserParseTryStatementEnd E
    else if top == parserStatementStart then
      if ctx.statusFlags.isClosure then
        parserStackPopUint8 E
        modify fun ctx => { ctx with lastStatement := none }
        parserAssert ((← get).stackDepth == 0)
        parserAssert ((← get).contextStackDepth == 0)
        return .returned
      parserRaiseError .invalidRightSquare
  else if ctx.token.type == semicolon then
    lexerNextToken E
  else if ctx.token.type != eos && !ctx.token.wasNewline then
    parserRaiseError .semicolonExpected
  return .next

def terminatorLoop : Nat → Bool → ParserM StatementEnd
  | 0,_ => fun ctx => .error ⟨.outOfFuel,ctx⟩
  | fuel + 1,statementTerminatorRequired => do
      if statementTerminatorRequired then
        if (← parserStatementTerminator E) == .returned then return .returned
      let top := (← get).stack.stackTopUint8
      if top == parserStatementLabel then
        parserStackPopUint8 E
        let label ← orUndefined (← parserStackPop E).asLabel
        initLastStatement E
        parserSetBreaksToCurrentPosition E label.breakListP
        terminatorLoop fuel false
      else if top == parserStatementIf then
        if ← parserParseIfStatementEnd E then return .next
        terminatorLoop fuel false
      else if top == parserStatementElse then
        parserStackPopUint8 E
        let elseStatement ← orUndefined (← parserStackPop E).asIfElse
        initLastStatement E
        parserSetBranchToCurrentPosition E elseStatement.branch
        terminatorLoop fuel false
      else if top == parserStatementDoWhile then
        parserParseDoWhileStatementEnd E
        terminatorLoop fuel true
      else if top == parserStatementWhile then
        parserParseWhileStatementEnd E
        terminatorLoop fuel false
      else if top == parserStatementFor then
        parserParseForStatementEnd E
        terminatorLoop fuel false
      else if top == parserStatementForIn then
        parserParseForInStatementEnd E
        terminatorLoop fuel false
      else if top == parserStatementWith then
        parserParseWithStatementEnd E
        terminatorLoop fuel false
      else return .next

def terminatorClose : ParserM (StatementEnd ⊕ Bool) := do
  let top := (← get).stack.stackTopUint8
  if top == parserStatementLabel then
    parserStackPopUint8 E
    let label ← orUndefined (← parserStackPop E).asLabel
    initLastStatement E
    parserSetBreaksToCurrentPosition E label.breakListP
    return .inr false
  else if top == parserStatementIf then
    if ← parserParseIfStatementEnd E then return .inl .next
    return .inr false
  else if top == parserStatementElse then
    parserStackPopUint8 E
    let elseStatement ← orUndefined (← parserStackPop E).asIfElse
    initLastStatement E
    parserSetBranchToCurrentPosition E elseStatement.branch
    return .inr false
  else if top == parserStatementDoWhile then
    parserParseDoWhileStatementEnd E
    return .inr true
  else if top == parserStatementWhile then
    parserParseWhileStatementEnd E
    return .inr false
  else if top == parserStatementFor then
    parserParseForStatementEnd E
    return .inr false
  else if top == parserStatementForIn then
    parserParseForInStatementEnd E
    return .inr false
  else if top == parserStatementWith then
    parserParseWithStatementEnd E
    return .inr false
  else return .inl .next

def terminatorStep (statementTerminatorRequired : Bool) : ParserM (StatementEnd ⊕ Bool) := do
  if statementTerminatorRequired then
    if (← parserStatementTerminator E) == .returned then return .inl .returned
  terminatorClose E

def parserEndStatement (fuel : Nat) : ParserM StatementEnd := do
  parserFlushCbc E
  terminatorLoop E fuel true

def parserParseTryStatementStart : ParserM Unit := do
  lexerNextToken E
  if (← get).token.type != leftBrace then
    parserRaiseError .leftBraceExpected
  modify fun ctx => { ctx with
    contextStackDepth := ctx.contextStackDepth + E.tryContextStackAllocation }
  let branch ← parserEmitCbcForwardBranch E .extTryCreateContext
  parserStackPush E (.tryStatement ⟨.tryBlock,branch⟩)
  parserStackPushUint8 parserStatementTry
  initLastStatement E
  lexerNextToken E

def parserParseDoStatementStart : ParserM Unit := do
  parserAssert ((← get).lastCbcOpcode == none)
  parserStackPush E (.doWhileStatement ⟨(← get).byteCodeSize⟩)
  parserStackPush E (.loopStatement ⟨none⟩)
  parserStackPushUint8 parserStatementDoWhile
  initLastStatement E
  lexerNextToken E

def parserParseExpressionStatement (fuel : Nat) : ParserM StatementEnd := do
  let mut options : ParseExprOptions := if (← get).statusFlags.isFunction
    then ⟨true,false,false,false⟩ else ⟨false,true,false,false⟩
  let token := (← get).token
  if token.type == expressionStart then
    modify fun ctx => { ctx with token := { token with type := token.savedType } }
    options := { options with hasLiteral := true }
  parserParseExpression E options
  parserEndStatement E fuel

def parserParseReturnStatement : ParserM Unit := do
  if !(← get).statusFlags.isFunction then
    parserRaiseError .invalidReturn
  lexerNextToken E
  let token := (← get).token
  if token.wasNewline || token.type == semicolon || token.type == rightBrace then
    parserEmitCbc E .returnWithUndefined
  else
    parserParseExpression E parseExpr
    parserEmitCbc E .returnValue

def holdTokenBack : ParserM Unit :=
  modify fun ctx => { ctx with token := { ctx.token with
    savedType := ctx.token.type
    type := expressionStart } }

def parserParseStatement (fuel : Nat) : ParserM StatementEnd := do
  parserAssert ((← get).stackDepth == (← get).contextStackDepth)
  let ctx ← get
  match ctx.token.type with
  | semicolon => parserEndStatement E fuel
  | rightBrace =>
      let top := ctx.stack.stackTopUint8
      if top == parserStatementLabel || top == parserStatementIf || top == parserStatementElse
          || top == parserStatementDoWhile || top == parserStatementWhile
          || top == parserStatementFor || top == parserStatementForIn
          || top == parserStatementWith then
        parserRaiseError .statementExpected
      parserEndStatement E fuel
  | leftBrace => do
      parserStackPushUint8 parserStatementBlock
      initLastStatement E
      lexerNextToken E
      return .next
  | keywVar => do parserParseVarStatement E fuel; parserEndStatement E fuel
  | keywFunction => do parserParseFunctionStatement E; return .next
  | keywIf => do parserParseIfStatementStart E; return .next
  | keywSwitch => do parserParseSwitchStatementStart E fuel; return .next
  | keywDo => do parserParseDoStatementStart E; return .next
  | keywWhile => do parserParseWhileStatementStart E fuel; return .next
  | keywFor => do parserParseForStatementStart E fuel; return .next
  | keywWith => do parserParseWithStatementStart E; return .next
  | keywTry => do parserParseTryStatementStart E; return .next
  | keywDefault => do parserParseDefaultStatement E; return .next
  | keywCase => do parserParseCaseStatement E fuel; return .next
  | keywBreak => do parserParseBreakStatement E; parserEndStatement E fuel
  | keywContinue => do parserParseContinueStatement E; parserEndStatement E fuel
  | keywThrow => do
      lexerNextToken E
      if (← get).token.wasNewline then
        parserRaiseError .expressionExpected
      parserParseExpression E parseExpr
      parserEmitCbc E .throw
      parserEndStatement E fuel
  | keywReturn => do parserParseReturnStatement E; parserEndStatement E fuel
  | keywDebugger => do
      parserEmitCbc E .extDebugger
      lexerNextToken E
      parserEndStatement E fuel
  | literal =>
      if ctx.token.litLocation.type == .identLiteral then do
        let litLocation := ctx.token.litLocation
        lexerNextToken E
        if (← get).token.type == colon then
          parserParseLabel E litLocation
          lexerNextToken E
          return .next
        parserEmitCbcLiteral E .pushIdent litLocation.charP
        holdTokenBack
        parserParseExpressionStatement E fuel
      else parserParseExpressionStatement E fuel
  | _ => parserParseExpressionStatement E fuel

def statementsLoop : Nat → ParserM Bool
  | 0 => fun ctx => .error ⟨.outOfFuel,ctx⟩
  | fuel + 1 => do
      let ctx ← get
      if ctx.token.type == eos && ctx.stack.stackTopUint8 == parserStatementStart then
        return false
      if (← parserParseStatement E fuel) == .returned then return true
      statementsLoop fuel

def useStrictLiteral : List Char := "use strict".toList

def directivePrologue : Nat → ParserM Unit
  | 0 => fun ctx => .error ⟨.outOfFuel,ctx⟩
  | fuel + 1 => do
      let token := (← get).token
      if !(token.type == literal && token.litLocation.type == .stringLiteral) then return
      parserAssert ((← get).stackDepth == 0)
      let litLocation := token.litLocation
      lexerNextToken E
      let token := (← get).token
      if token.type != semicolon && token.type != rightBrace then
        if !token.wasNewline || lexerIsBinaryOpToken token.type || token.type == leftParen
            || token.type == leftSquare || token.type == dot then
          parserEmitCbcLiteral E .pushLiteral litLocation.charP
          holdTokenBack
          return
      if litLocation.length == useStrictLiteral.length && !litLocation.hasEscape
          && E.lexer.sourceChars litLocation.charP useStrictLiteral.length == useStrictLiteral then
        modify fun ctx => { ctx with statusFlags := { ctx.statusFlags with isStrict := true } }
        let token := (← get).token
        if token.isIdent && token.literalIsReserved then
          parserRaiseError .strictIdentNotAllowed
      if (← get).token.type == semicolon then lexerNextToken E
      directivePrologue fuel

def parserParseStatements (fuel : Nat) : ParserM Unit := do
  parserAssert (← get).lastStatement.isNone
  parserStackPushUint8 parserStatementStart
  initLastStatement E
  directivePrologue E fuel
  let flags := (← get).statusFlags
  if flags.isStrict && flags.hasNonStrictArg then
    parserRaiseError .nonStrictArgDefinition
  if ← statementsLoop E fuel then return
  parserAssert ((← get).stackDepth == 0)
  parserAssert ((← get).contextStackDepth == 0)
  parserStackPopUint8 E
  modify fun ctx => { ctx with lastStatement := none }
  if (← get).statusFlags.isClosure then
    parserRaiseError .statementExpected

def freeList : Nat → Option Nat → ParserM Unit
  | _,none => pure ()
  | 0,some _ => parserUndefined
  | fuel + 1,some p => do
      let node ← orUndefined ((← get).nodes.lookup p)
      modify fun ctx => free ctx p
      freeList fuel node.nextP

def freeNodes (list : Option Nat) : ParserM Unit := do
  freeList (← get).nodes.length list

def parserFreeJumps : Nat → Nat → ParserM Unit
  | 0,_ => parserUndefined
  | fuel + 1,iterator => do
      let type ← parserStackIteratorReadUint8 E iterator
      if type == parserStatementStart then return
      if type == parserStatementLabel then
        let label ← orUndefined (← parserStackIteratorRead E (iterator - 1)).asLabel
        freeNodes label.breakListP
        parserFreeJumps fuel (iterator - 1 - E.layout.labelStatement)
      else if type == parserStatementSwitch || type == parserStatementSwitchNoDefault then
        let loop ← orUndefined (← parserStackIteratorRead E (iterator - 1)).asLoop
        let switchStatement ← orUndefined
          (← parserStackIteratorRead E (iterator - 1 - E.layout.loopStatement)).asSwitch
        freeNodes switchStatement.branchListP
        freeNodes loop.branchListP
        parserFreeJumps fuel (iterator - 1 - E.layout.loopStatement - E.layout.switchStatement)
      else if isLoopStatement type then
        let loop ← orUndefined (← parserStackIteratorRead E (iterator - 1)).asLoop
        freeNodes loop.branchListP
        parserFreeJumps fuel (iterator - (← parserStatementLengthOf E type))
      else
        parserFreeJumps fuel (iterator - (← parserStatementLengthOf E type))

end JerryParser
