import JerryParser.Statement

/-! The statements of js-parser-statm.c that file branches into lists: switch (with its
pre-pass over the case labels), try, `default`, `case`, `break`, `continue`, and labels. The
walks over the stack read one tag byte per frame and skip by `parser_statement_length`; their
fuel is the iterator's height, which every skip lowers. -/
namespace JerryParser

variable (E : ParserEnv)

open LexerTokenType

def switchCaseLoop (iterator : Nat) : Nat → Bool → Bool → Option Nat → ParserSwitchStatement →
    ParserM (Bool × Bool × ParserSwitchStatement)
  | 0,_,_,_,_ => fun ctx => .error ⟨.outOfFuel,ctx⟩
  | fuel + 1,switchCaseWasFound,defaultCaseWasFound,casesP,switchStatement => do
      let _ ← parserScanUntil E fuel keywCase
      let type := (← get).token.type
      if type == keywDefault then
        if defaultCaseWasFound then
          parserRaiseError .multipleDefaultsNotAllowed
        lexerNextToken E
        if (← get).token.type != colon then
          parserRaiseError .colonExpected
        lexerNextToken E
        switchCaseLoop iterator fuel switchCaseWasFound true casesP switchStatement
      else if type == keywCase || type == rightBrace then
        let mut casesP := casesP
        let mut switchStatement := switchStatement
        if switchCaseWasFound then
          let mut opcode := CbcOpcode.branchIfStrictEqual
          if type != keywCase then
            parserEmitCbc E .strictEqual
            opcode := .branchIfTrueForward
          let newCaseP ← parserEmitCbcForwardBranchItem E opcode none
          match casesP with
          | none =>
              switchStatement := { switchStatement with branchListP := some newCaseP }
              parserStackIteratorWrite E iterator (.switchStatement switchStatement)
          | some last => updateNode last fun n => { n with nextP := some newCaseP }
          casesP := some newCaseP
        if type == rightBrace then
          return (switchCaseWasFound,defaultCaseWasFound,switchStatement)
        lexerNextToken E
        parserParseExpression E parseExpr
        if (← get).token.type != colon then
          parserRaiseError .colonExpected
        lexerNextToken E
        switchCaseLoop iterator fuel true defaultCaseWasFound casesP switchStatement
      else
        lexerNextToken E
        switchCaseLoop iterator fuel switchCaseWasFound defaultCaseWasFound casesP switchStatement

def parserParseSwitchStatementStart (fuel : Nat) : ParserM Unit := do
  parserAssert ((← get).token.type == keywSwitch)
  parserParseEnclosedExpr E
  if (← get).token.type != leftBrace then
    parserRaiseError .leftBraceExpected
  let switchBodyStart := parserSaveRange (← get) (← get).sourceEndP
  lexerNextToken E
  if (← get).token.type == rightBrace then
    parserEmitCbc E .pop
    parserFlushCbc E
    parserStackPushUint8 parserStatementBlock
    initLastStatement E
    return
  let type := (← get).token.type
  if type != keywCase && type != keywDefault then
    parserRaiseError .invalidSwitch
  let switchStatement : ParserSwitchStatement := ⟨⟨0,false⟩,none⟩
  parserStackPush E (.switchStatement switchStatement)
  let iterator ← parserStackIteratorInit E
  parserStackPush E (.loopStatement ⟨none⟩)
  parserStackPushUint8 parserStatementSwitch
  initLastStatement E
  let (switchCaseWasFound,defaultCaseWasFound,switchStatement) ←
    switchCaseLoop E iterator fuel false false none switchStatement
  parserAssert (switchCaseWasFound || defaultCaseWasFound)
  if !switchCaseWasFound then
    parserEmitCbc E .pop
  let defaultBranch ← parserEmitCbcForwardBranch E .jumpForward
  parserStackIteratorWrite E iterator (.switchStatement { switchStatement with defaultBranch })
  if !defaultCaseWasFound then
    parserStackChangeLastUint8 parserStatementSwitchNoDefault
  parserSetRange switchBodyStart
  lexerNextToken E

def tryContextEnd : ParserM Unit := do
  parserFlushCbc E
  modify fun ctx => { ctx with
    stackDepth := ctx.stackDepth - E.tryContextStackAllocation,
    contextStackDepth := ctx.contextStackDepth - E.tryContextStackAllocation }
  parserEmitCbc E .contextEnd

def parserParseTryStatementEnd : ParserM Unit := do
  parserAssert ((← get).stack.stackTopUint8 == parserStatementTry)
  let iterator := (← parserStackIteratorInit E) - 1
  let mut tryStatement ← orUndefined (← parserStackIteratorRead E iterator).asTry
  lexerNextToken E
  if tryStatement.type == .finallyBlock then
    tryContextEnd E
    parserSetBranchToCurrentPosition E tryStatement.branch
  else
    parserSetBranchToCurrentPosition E tryStatement.branch
    if tryStatement.type == .catchBlock then
      if (← get).token.type != keywFinally then
        tryContextEnd E
        parserFlushCbc E
        tryStatement := { tryStatement with type := .finallyBlock }
    else
      let t := (← get).token.type
      if t != keywCatch && t != keywFinally then
        parserRaiseError .catchFinallyExpected
  if tryStatement.type == .finallyBlock then
    parserStackPopBytes E (E.layout.tryStatement + 1)
    initLastStatement E
    return
  if (← get).token.type == keywCatch then
    lexerNextToken E
    if (← get).token.type != leftParen then
      parserRaiseError .leftParenExpected
    lexerExpectIdentifier E
    parserAssert (← get).token.isIdent
    let literalIndex := (← get).token.litLocation.charP
    lexerNextToken E
    if (← get).token.type != rightParen then
      parserRaiseError .rightParenExpected
    lexerNextToken E
    if (← get).token.type != leftBrace then
      parserRaiseError .leftBraceExpected
    let branch ← parserEmitCbcForwardBranch E .extCatch
    tryStatement := ⟨.catchBlock,branch⟩
    parserEmitCbcLiteral E .assignIdent literalIndex
    parserFlushCbc E
  else
    parserAssert ((← get).token.type == keywFinally)
    lexerNextToken E
    if (← get).token.type != leftBrace then
      parserRaiseError .leftBraceExpected
    let branch ← parserEmitCbcForwardBranch E .extFinally
    tryStatement := ⟨.finallyBlock,branch⟩
  lexerNextToken E
  parserStackIteratorWrite E iterator (.tryStatement tryStatement)

def switchRecordIterator : ParserM Nat := do
  pure ((← parserStackIteratorInit E) - (1 + E.layout.loopStatement))

def parserParseDefaultStatement : ParserM Unit := do
  let top := (← get).stack.stackTopUint8
  if top != parserStatementSwitch && top != parserStatementSwitchNoDefault then
    parserRaiseError .defaultNotInSwitch
  lexerNextToken E
  parserAssert ((← get).token.type == colon)
  lexerNextToken E
  let switchStatement ← orUndefined (← parserStackIteratorRead E (← switchRecordIterator E)).asSwitch
  parserSetBranchToCurrentPosition E switchStatement.defaultBranch

def parserParseCaseStatement (fuel : Nat) : ParserM Unit := do
  let top := (← get).stack.stackTopUint8
  if top != parserStatementSwitch && top != parserStatementSwitchNoDefault then
    parserRaiseError .caseNotInSwitch
  let _ ← parserScanUntil E fuel colon
  lexerNextToken E
  let iterator ← switchRecordIterator E
  let switchStatement ← orUndefined (← parserStackIteratorRead E iterator).asSwitch
  parserAssert switchStatement.branchListP.isSome
  let branchP ← orUndefined switchStatement.branchListP
  let node ← orUndefined ((← get).nodes.lookup branchP)
  parserStackIteratorWrite E iterator (.switchStatement { switchStatement with branchListP := node.nextP })
  parserSetBranchToCurrentPosition E node.branch
  modify fun ctx => free ctx branchP

def isContextStatement (type : UInt8) : Bool :=
  type == parserStatementForIn || type == parserStatementWith || type == parserStatementTry

def isLoopStatement (type : UInt8) : Bool :=
  type == parserStatementDoWhile || type == parserStatementWhile || type == parserStatementFor
    || type == parserStatementForIn

def isBreakTarget (type : UInt8) : Bool :=
  type == parserStatementSwitch || type == parserStatementSwitchNoDefault || isLoopStatement type

def fileIntoLoop (iterator : Nat) (opcode : CbcOpcode) (isContinue : Bool) : ParserM Unit := do
  let loop ← orUndefined (← parserStackIteratorRead E (iterator - 1)).asLoop
  let p ← parserEmitCbcForwardBranchItem E opcode loop.branchListP
  if isContinue then markContinue p
  parserStackIteratorWrite E (iterator - 1) (.loopStatement ⟨some p⟩)

def fileIntoLabel (iterator : Nat) (opcode : CbcOpcode) (labelStatement : ParserLabelStatement) :
    ParserM Unit := do
  let p ← parserEmitCbcForwardBranchItem E opcode labelStatement.breakListP
  parserStackIteratorWrite E (iterator - 1)
    (.labelStatement { labelStatement with breakListP := some p })

def breakLabelWalk : Nat → Nat → CbcOpcode → ParserM Unit
  | 0,_,_ => parserUndefined
  | fuel + 1,iterator,opcode => do
      let type ← parserStackIteratorReadUint8 E iterator
      if type == parserStatementStart then
        parserRaiseError .invalidBreakLabel
      let opcode := if isContextStatement type then .jumpForwardExitContext else opcode
      if type == parserStatementLabel then
        let labelStatement ← orUndefined (← parserStackIteratorRead E (iterator - 1)).asLabel
        if E.lexer.sameIdentifiers (← get).token.litLocation labelStatement.labelIdent then
          fileIntoLabel E iterator opcode labelStatement
          lexerNextToken E
        else breakLabelWalk fuel (iterator - 1 - E.layout.labelStatement) opcode
      else
        breakLabelWalk fuel (iterator - (← parserStatementLengthOf E type)) opcode

def breakWalk : Nat → Nat → CbcOpcode → ParserM Unit
  | 0,_,_ => parserUndefined
  | fuel + 1,iterator,opcode => do
      let type ← parserStackIteratorReadUint8 E iterator
      if type == parserStatementStart then
        parserRaiseError .invalidBreak
      let opcode := if isContextStatement type then .jumpForwardExitContext else opcode
      if isBreakTarget type then fileIntoLoop E iterator opcode false
      else breakWalk fuel (iterator - (← parserStatementLengthOf E type)) opcode

def parserParseBreakStatement : ParserM Unit := do
  lexerNextToken E
  let iterator ← parserStackIteratorInit E
  let token := (← get).token
  if !token.wasNewline && token.isIdent then
    breakLabelWalk E (iterator + 1) iterator .jumpForward
  else
    breakWalk E (iterator + 1) iterator .jumpForward

def continueLabelWalk : Nat → Nat → CbcOpcode → Option Nat → Bool → ParserM Unit
  | 0,_,_,_,_ => parserUndefined
  | fuel + 1,iterator,opcode,loopIterator,forInWasSeen => do
      let type ← parserStackIteratorReadUint8 E iterator
      if type == parserStatementStart then
        parserRaiseError .invalidContinueLabel
      match loopIterator,type == parserStatementLabel with
      | some loopAt,true =>
          let labelStatement ← orUndefined (← parserStackIteratorRead E (iterator - 1)).asLabel
          if E.lexer.sameIdentifiers (← get).token.litLocation labelStatement.labelIdent then
            fileIntoLoop E loopAt opcode true
            lexerNextToken E
          else
            continueLabelWalk fuel (iterator - 1 - E.layout.labelStatement) opcode loopIterator
              forInWasSeen
      | _,_ =>
          let (opcode,forInWasSeen) :=
            if type == parserStatementWith || type == parserStatementTry || forInWasSeen then
              (.jumpForwardExitContext,forInWasSeen)
            else if type == parserStatementForIn then (opcode,true)
            else (opcode,forInWasSeen)
          let loopIterator := if isLoopStatement type then some iterator else none
          continueLabelWalk fuel (iterator - (← parserStatementLengthOf E type)) opcode
            loopIterator forInWasSeen

def continueWalk : Nat → Nat → CbcOpcode → ParserM Unit
  | 0,_,_ => parserUndefined
  | fuel + 1,iterator,opcode => do
      let type ← parserStackIteratorReadUint8 E iterator
      if type == parserStatementStart then
        parserRaiseError .invalidContinue
      if isLoopStatement type then fileIntoLoop E iterator opcode true
      else
        let opcode := if type == parserStatementWith || type == parserStatementTry
          then .jumpForwardExitContext else opcode
        continueWalk fuel (iterator - (← parserStatementLengthOf E type)) opcode

def parserParseContinueStatement : ParserM Unit := do
  lexerNextToken E
  let iterator ← parserStackIteratorInit E
  let token := (← get).token
  if !token.wasNewline && token.isIdent then
    continueLabelWalk E (iterator + 1) iterator .jumpForward none false
  else
    continueWalk E (iterator + 1) iterator .jumpForward

def labelWalk (labelLiteral : LexerLitLocation) : Nat → Nat → ParserM Unit
  | 0,_ => parserUndefined
  | fuel + 1,iterator => do
      let type ← parserStackIteratorReadUint8 E iterator
      if type == parserStatementStart then pure ()
      else if type == parserStatementLabel then
        let labelStatement ← orUndefined (← parserStackIteratorRead E (iterator - 1)).asLabel
        if E.lexer.sameIdentifiers labelLiteral labelStatement.labelIdent then
          parserRaiseError .duplicatedLabel
        else labelWalk labelLiteral fuel (iterator - 1 - E.layout.labelStatement)
      else
        labelWalk labelLiteral fuel (iterator - (← parserStatementLengthOf E type))

def parserParseLabel (labelLiteral : LexerLitLocation) : ParserM Unit := do
  let iterator ← parserStackIteratorInit E
  labelWalk E labelLiteral (iterator + 1) iterator
  parserStackPush E (.labelStatement ⟨labelLiteral,none⟩)
  parserStackPushUint8 parserStatementLabel
  initLastStatement E

end JerryParser
