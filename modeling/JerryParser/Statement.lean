import JerryParser.Scanner

/-! The statement functions of js-parser-statm.c up to the switch statement: each opens or
closes one frame on the stack. Loops re-read their deferred condition and update ranges at
their end. `fuel` bounds the loops of the source that read tokens. -/
namespace JerryParser

variable (E : ParserEnv)

open LexerTokenType

def ParserContext.exprState (ctx : ParserContext) : ExprState :=
  ⟨ctx.token,ctx.sourceP,ctx.sourceEndP,ctx.lastCbcOpcode.bind CbcOpcode.toExpr,ctx.lastCbc⟩

def ParserContext.withExpr (ctx : ParserContext) (s : ExprState) (bytes : Nat) : ParserContext :=
  let ctx := if bytes = 0 then ctx else writeInstr E ctx (.expression bytes)
  { ctx with
    token := s.token
    sourceP := s.sourceP
    sourceEndP := s.sourceEndP
    lastCbcOpcode := s.lastCbcOpcode.map ExprOpcode.toCbc
    lastCbc := s.lastCbc }

def flushForExpression (ctx : ParserContext) : ParserContext :=
  match ctx.lastCbcOpcode with
  | some op => if (CbcOpcode.toExpr op).isSome then ctx else flushCbc E ctx
  | none => ctx

def parserParseExpression (options : ParseExprOptions) : ParserM Unit := fun ctx =>
  let ctx := flushForExpression E ctx
  match E.parseExpression options ctx.exprState with
  | .ok (s,bytes) => .ok ((),ctx.withExpr E s bytes)
  | .error (e,s) => .error ⟨.error e,ctx.withExpr E s 0⟩

def lexerConstructFunctionObject : ParserM Unit := fun ctx =>
  let ctx := flushCbc E ctx
  match E.constructFunctionObject ctx.exprState with
  | .ok s => .ok ((),ctx.withExpr E s 0)
  | .error (e,s) => .error ⟨.error e,ctx.withExpr E s 0⟩

def parserStatementLengthOf (type : UInt8) : ParserM Nat := do
  match parserStatementLength E.layout type with
  | some n => pure n
  | none => do parserAssert false; pure 0

def setLastCbcOpcode (op : Option CbcOpcode) : ParserM Unit :=
  modify fun ctx => { ctx with lastCbcOpcode := op }

def parserParseEnclosedExpr : ParserM Unit := do
  lexerNextToken E
  if (← get).token.type != leftParen then
    parserRaiseError .leftParenExpected
  lexerNextToken E
  parserParseExpression E parseExpr
  if (← get).token.type != rightParen then
    parserRaiseError .rightParenExpected
  lexerNextToken E

def parserParseVarStatement : Nat → ParserM Unit
  | 0 => fun ctx => .error ⟨.outOfFuel,ctx⟩
  | fuel + 1 => do
      lexerExpectIdentifier E
      parserAssert (← get).token.isIdent
      parserEmitCbcLiteral E .pushIdent (← get).token.litLocation.charP
      lexerNextToken E
      if (← get).token.type == assign then
        parserParseExpression E ⟨true,false,true,true⟩
      else
        parserAssert ((← get).lastCbcOpcode == some .pushIdent)
        setLastCbcOpcode none
      if (← get).token.type != comma then return
      parserParseVarStatement fuel

def parserParseFunctionStatement : ParserM Unit := do
  lexerExpectIdentifier E
  parserAssert (← get).token.isIdent
  lexerConstructFunctionObject E
  lexerNextToken E

def parserParseIfStatementStart : ParserM Unit := do
  parserParseEnclosedExpr E
  let branch ← parserEmitCbcForwardBranch E .branchIfFalseForward
  parserStackPush E (.ifElseStatement ⟨branch⟩)
  parserStackPushUint8 parserStatementIf
  initLastStatement E

def parserParseIfStatementEnd : ParserM Bool := do
  parserAssert ((← get).stack.stackTopUint8 == parserStatementIf)
  if (← get).token.type != keywElse then
    parserStackPopUint8 E
    let ifStatement ← orUndefined (← parserStackPop E).asIfElse
    initLastStatement E
    parserSetBranchToCurrentPosition E ifStatement.branch
    return false
  parserStackChangeLastUint8 parserStatementElse
  let iterator := (← parserStackIteratorInit E) - 1
  let ifStatement ← orUndefined (← parserStackIteratorRead E iterator).asIfElse
  let elseBranch ← parserEmitCbcForwardBranch E .jumpForward
  parserSetBranchToCurrentPosition E ifStatement.branch
  parserStackIteratorWrite E iterator (.ifElseStatement ⟨elseBranch⟩)
  lexerNextToken E
  return true

def parserParseWithStatementStart : ParserM Unit := do
  if (← get).statusFlags.isStrict then
    parserRaiseError .withNotAllowed
  parserParseEnclosedExpr E
  modify fun ctx => { ctx with
    contextStackDepth := ctx.contextStackDepth + E.withContextStackAllocation,
    statusFlags := { ctx.statusFlags with inWidth := true } }
  let branch ← parserEmitCbcForwardBranch E .extWithCreateContext
  parserStackPush E (.withStatement ⟨branch⟩)
  parserStackPushUint8 parserStatementWith
  initLastStatement E

def withEndWalk : Nat → Nat → ParserM Unit
  | 0,_ => parserUndefined
  | fuel + 1,iterator => do
      let type ← parserStackIteratorReadUint8 E iterator
      if type == parserStatementStart then
        modify fun ctx => { ctx with statusFlags := { ctx.statusFlags with inWidth := false } }
      else if type == parserStatementWith then pure ()
      else withEndWalk fuel (iterator - (← parserStatementLengthOf E type))

def parserParseWithStatementEnd : ParserM Unit := do
  parserAssert (← get).statusFlags.inWidth
  parserStackPopUint8 E
  let withStatement ← orUndefined (← parserStackPop E).asWith
  initLastStatement E
  parserFlushCbc E
  modify fun ctx => { ctx with
    stackDepth := ctx.stackDepth - E.withContextStackAllocation,
    contextStackDepth := ctx.contextStackDepth - E.withContextStackAllocation }
  parserEmitCbc E .contextEnd
  parserSetBranchToCurrentPosition E withStatement.branch
  let iterator ← parserStackIteratorInit E
  withEndWalk E (iterator + 1) iterator

def loopBackwardOpcode : ParserM CbcOpcode := do
  let last := (← get).lastCbcOpcode
  if last == some .logicalNot then
    setLastCbcOpcode none
    return .branchIfFalseBackward
  if last == some .pushTrue then
    setLastCbcOpcode none
    return .jumpBackward
  return .branchIfTrueBackward

def parserParseDoWhileStatementEnd : ParserM Unit := do
  parserAssert ((← get).stack.stackTopUint8 == parserStatementDoWhile)
  if (← get).token.type != keywWhile then
    parserRaiseError .whileExpected
  parserStackPopUint8 E
  let loop ← orUndefined (← parserStackPop E).asLoop
  let doWhileStatement ← orUndefined (← parserStackPop E).asDoWhile
  initLastStatement E
  parserSetContinuesToCurrentPosition E loop.branchListP
  parserParseEnclosedExpr E
  if (← get).lastCbcOpcode != some .pushFalse then
    let opcode ← loopBackwardOpcode
    parserEmitCbcBackwardBranch E opcode doWhileStatement.startOffset
  else
    setLastCbcOpcode none
  parserSetBreaksToCurrentPosition E loop.branchListP

def parserParseWhileStatementStart (fuel : Nat) : ParserM Unit := do
  parserAssert ((← get).token.type == keywWhile)
  lexerNextToken E
  if (← get).token.type != leftParen then
    parserRaiseError .leftParenExpected
  let branch ← parserEmitCbcForwardBranch E .jumpForward
  parserAssert ((← get).lastCbcOpcode == none)
  let startOffset := (← get).byteCodeSize
  let conditionRange ← parserScanUntil E fuel rightParen
  lexerNextToken E
  parserStackPush E (.whileStatement ⟨branch,conditionRange,startOffset⟩)
  parserStackPush E (.loopStatement ⟨none⟩)
  parserStackPushUint8 parserStatementWhile
  initLastStatement E

def restoreRange (range : LexerRange) (token : LexerToken) : ParserM Unit := do
  parserSetRange range
  modify fun ctx => { ctx with token := token }

def parserParseWhileStatementEnd : ParserM Unit := do
  parserAssert ((← get).stack.stackTopUint8 == parserStatementWhile)
  parserStackPopUint8 E
  let loop ← orUndefined (← parserStackPop E).asLoop
  let whileStatement ← orUndefined (← parserStackPop E).asWhile
  initLastStatement E
  let ctx ← get
  let range := parserSaveRange ctx ctx.sourceEndP
  let currentToken := ctx.token
  parserSetBranchToCurrentPosition E whileStatement.branch
  parserSetContinuesToCurrentPosition E loop.branchListP
  parserSetRange whileStatement.conditionRange
  lexerNextToken E
  parserParseExpression E parseExpr
  if (← get).token.type != eos then
    parserRaiseError .invalidExpression
  let opcode ← loopBackwardOpcode
  parserEmitCbcBackwardBranch E opcode whileStatement.startOffset
  parserSetBreaksToCurrentPosition E loop.branchListP
  restoreRange range currentToken

def parserParseForInTarget : ParserM Unit := do
  if (← get).token.type == keywVar then
    lexerExpectIdentifier E
    parserAssert (← get).token.isIdent
    let literalIndex := (← get).token.litLocation.charP
    lexerNextToken E
    if (← get).token.type == assign then
      let branch ← parserEmitCbcForwardBranch E .jumpForward
      lexerNextToken E
      parserParseExpression E ⟨true,false,true,false⟩
      parserSetBranchToCurrentPosition E branch
    parserEmitCbc E .extForInGetNext
    parserEmitCbcLiteral E .assignIdent literalIndex
  else
    parserParseExpression E parseExpr
    let argument := (← get).lastCbc
    let last := (← get).lastCbcOpcode
    let opcode ← if last == some .pushIdent then do setLastCbcOpcode none; pure .assignIdent
      else if last == some .propGet then do setLastCbcOpcode none; pure .assign
      else if last == some .propStringGet then do setLastCbcOpcode none; pure .assignPropString
      else do parserEmitCbc E .extPushUndefinedBase; pure .assign
    parserEmitCbc E .extForInGetNext
    parserFlushCbc E
    modify fun ctx => { ctx with lastCbc := argument, lastCbcOpcode := some opcode }

def parserParseForStatementStart (fuel : Nat) : ParserM Unit := do
  parserAssert ((← get).token.type == keywFor)
  lexerNextToken E
  if (← get).token.type != leftParen then
    parserRaiseError .leftParenExpected
  let startRange ← parserScanUntil E fuel keywIn
  if (← get).token.type == keywIn then
    lexerNextToken E
    parserParseExpression E parseExpr
    if (← get).token.type != rightParen then
      parserRaiseError .rightParenExpected
    modify fun ctx => { ctx with
      contextStackDepth := ctx.contextStackDepth + E.forInContextStackAllocation }
    let branch ← parserEmitCbcForwardBranch E .extForInCreateContext
    parserAssert ((← get).lastCbcOpcode == none)
    let startOffset := (← get).byteCodeSize
    let range := parserSaveRange (← get) (← get).sourceEndP
    parserSetRange startRange
    lexerNextToken E
    parserParseForInTarget E
    if (← get).token.type != eos then
      parserRaiseError .inExpected
    parserFlushCbc E
    parserSetRange range
    lexerNextToken E
    parserStackPush E (.forInStatement ⟨branch,startOffset⟩)
    parserStackPush E (.loopStatement ⟨none⟩)
    parserStackPushUint8 parserStatementForIn
    initLastStatement E
  else
    parserSetRange { startRange with sourceEndP := (← get).sourceEndP }
    lexerNextToken E
    if (← get).token.type != semicolon then
      if (← get).token.type == keywVar then parserParseVarStatement E fuel
      else parserParseExpression E ⟨true,false,false,false⟩
      if (← get).token.type != semicolon then
        parserRaiseError .semicolonExpected
    let branch ← parserEmitCbcForwardBranch E .jumpForward
    parserAssert ((← get).lastCbcOpcode == none)
    let startOffset := (← get).byteCodeSize
    let conditionRange ← parserScanUntil E fuel semicolon
    let expressionRange ← parserScanUntil E fuel rightParen
    lexerNextToken E
    parserStackPush E (.forStatement ⟨branch,conditionRange,expressionRange,startOffset⟩)
    parserStackPush E (.loopStatement ⟨none⟩)
    parserStackPushUint8 parserStatementFor
    initLastStatement E

def parserParseForStatementEnd : ParserM Unit := do
  parserAssert ((← get).stack.stackTopUint8 == parserStatementFor)
  parserStackPopUint8 E
  let loop ← orUndefined (← parserStackPop E).asLoop
  let forStatement ← orUndefined (← parserStackPop E).asFor
  initLastStatement E
  let ctx ← get
  let range := parserSaveRange ctx ctx.sourceEndP
  let currentToken := ctx.token
  parserSetRange forStatement.expressionRange
  lexerNextToken E
  parserSetContinuesToCurrentPosition E loop.branchListP
  if (← get).token.type != eos then
    parserParseExpression E ⟨true,false,false,false⟩
    if (← get).token.type != eos then
      parserRaiseError .invalidExpression
  parserSetBranchToCurrentPosition E forStatement.branch
  parserSetRange forStatement.conditionRange
  lexerNextToken E
  let opcode ← if (← get).token.type != eos then do
      parserParseExpression E parseExpr
      if (← get).token.type != eos then
        parserRaiseError .invalidExpression
      loopBackwardOpcode
    else pure .jumpBackward
  parserEmitCbcBackwardBranch E opcode forStatement.startOffset
  parserSetBreaksToCurrentPosition E loop.branchListP
  restoreRange range currentToken

end JerryParser
