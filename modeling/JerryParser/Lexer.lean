import Mathlib

/-! Tokens (`lexer_token_type_t`, `lexer_token_t`), ranges (`lexer_range_t`) and the parser's
error codes. The lexer itself (js-lexer.c) is not part of the sources: `Lexer` is the interface
the statement parser and the pre-scanner call, over positions of one fixed source. -/
namespace JerryParser

inductive LexerTokenType where
  | eos | literal
  | keywThis | litTrue | litFalse | litNull
  | plus | negate | logicalNot | bitNot | keywVoid | keywTypeof | keywDelete | increase | decrease
  | assign | assignAdd | assignSubtract | assignMultiply | assignDivide | assignModulo
  | assignLeftShift | assignRightShift | assignUnsRightShift
  | assignBitAnd | assignBitOr | assignBitXor
  | questionMark | logicalOr | logicalAnd | bitOr | bitXor | bitAnd
  | equal | notEqual | strictEqual | strictNotEqual
  | less | greater | lessEqual | greaterEqual | keywIn | keywInstanceof
  | leftShift | rightShift | unsRightShift | add | subtract | multiply | divide | modulo
  | leftBrace | leftParen | leftSquare | rightBrace | rightParen | rightSquare
  | dot | semicolon | colon | comma
  | keywBreak | keywDo | keywCase | keywElse | keywNew | keywVar | keywCatch | keywFinally
  | keywReturn | keywContinue | keywFor | keywSwitch | keywWhile | keywDebugger
  | keywFunction | keywWith | keywDefault | keywIf | keywThrow | keywTry
  | propertyGetter | propertySetter
  | expressionStart | scanSwitch
  deriving DecidableEq, Repr, Inhabited

open LexerTokenType

def lexerIsUnaryOpToken : LexerTokenType → Bool
  | plus | negate | logicalNot | bitNot | keywVoid | keywTypeof | keywDelete | increase
  | decrease => true
  | _ => false

def lexerIsBinaryOpToken : LexerTokenType → Bool
  | assign | assignAdd | assignSubtract | assignMultiply | assignDivide | assignModulo
  | assignLeftShift | assignRightShift | assignUnsRightShift | assignBitAnd | assignBitOr
  | assignBitXor | questionMark | logicalOr | logicalAnd | bitOr | bitXor | bitAnd | equal
  | notEqual | strictEqual | strictNotEqual | less | greater | lessEqual | greaterEqual | keywIn
  | keywInstanceof | leftShift | rightShift | unsRightShift | add | subtract | multiply | divide
  | modulo => true
  | _ => false

inductive LexerLiteralType where
  | identLiteral | stringLiteral | numberLiteral | regexpLiteral
  deriving DecidableEq, Repr, Inhabited

structure LexerLitLocation where
  charP : Nat
  length : Nat
  type : LexerLiteralType
  hasEscape : Bool
  deriving DecidableEq, Repr, Inhabited

structure LexerToken where
  type : LexerTokenType
  wasNewline : Bool
  litLocation : LexerLitLocation
  literalIsReserved : Bool
  savedType : LexerTokenType
  deriving DecidableEq, Repr, Inhabited

def LexerToken.isIdent (t : LexerToken) : Bool :=
  t.type == .literal && t.litLocation.type == .identLiteral

structure LexerRange where
  sourceP : Nat
  sourceEndP : Nat
  deriving DecidableEq, Repr, Inhabited

inductive ParserError where
  | outOfMemory | invalidCharacter | unterminatedString | unterminatedRegexp
  | identifierExpected | primaryExpExpected | leftParenExpected | rightParenExpected
  | leftBraceExpected | colonExpected | semicolonExpected | whileExpected | inExpected
  | expressionExpected | invalidExpression | invalidSwitch | multipleDefaultsNotAllowed
  | defaultNotInSwitch | caseNotInSwitch | invalidBreak | invalidBreakLabel | invalidContinue
  | invalidContinueLabel | duplicatedLabel | withNotAllowed | catchFinallyExpected
  | invalidReturn | invalidRightSquare | statementExpected | strictIdentNotAllowed
  | nonStrictArgDefinition | objectItemSeparatorExpected | argumentListExpected
  deriving DecidableEq, Repr

structure Lexer where
  nextToken : Nat → Nat → Except ParserError (LexerToken × Nat)
  scanIdentifier : Bool → Nat → Nat → Except ParserError (LexerToken × Nat)
  constructRegexp : LexerToken → Nat → Nat → Except ParserError (LexerToken × Nat)
  expectIdentifier : Bool → Nat → Nat → Except ParserError (LexerToken × Nat)
  sameIdentifiers : LexerLitLocation → LexerLitLocation → Bool
  sourceChars : Nat → Nat → List Char

end JerryParser
