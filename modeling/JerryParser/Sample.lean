import JerryParser.Context

/-! A concrete environment for running the parser on given sources. A source is given as its
lexemes: names (keywords among them), punctuators, numbers and strings, each marked when a line
break precedes it; a position is the index of the next lexeme. A regular expression literal runs
to the next `/` lexeme, which is how the characters read when no lexeme in between holds a
slash. The expression parser is a small recursive-descent parser for operands joined by binary
operators, with member access, calls, grouping and object literals. -/
namespace JerryParser

open LexerTokenType

inductive Lexeme where
  | word (w : String)
  | punctuator (type : LexerTokenType)
  | number
  | string (s : String) (hasEscape : Bool)
  deriving DecidableEq, Repr

structure SourceLexeme where
  lexeme : Lexeme
  newlineBefore : Bool
  deriving DecidableEq, Repr

def keywordType : String → Option LexerTokenType
  | "this" => some keywThis | "true" => some litTrue | "false" => some litFalse
  | "null" => some litNull | "void" => some keywVoid | "typeof" => some keywTypeof
  | "delete" => some keywDelete | "in" => some keywIn | "instanceof" => some keywInstanceof
  | "break" => some keywBreak | "do" => some keywDo | "case" => some keywCase
  | "else" => some keywElse | "new" => some keywNew | "var" => some keywVar
  | "catch" => some keywCatch | "finally" => some keywFinally | "return" => some keywReturn
  | "continue" => some keywContinue | "for" => some keywFor | "switch" => some keywSwitch
  | "while" => some keywWhile | "debugger" => some keywDebugger
  | "function" => some keywFunction | "with" => some keywWith | "default" => some keywDefault
  | "if" => some keywIf | "throw" => some keywThrow | "try" => some keywTry
  | _ => none

variable (src : List SourceLexeme)

def lexemeAt (p e : Nat) : Option SourceLexeme :=
  if p < e then src[p]? else none

def tokenOf (type : LexerTokenType) (newline : Bool) (loc : LexerLitLocation) : LexerToken :=
  ⟨type,newline,loc,false,eos⟩

def nameToken (p : Nat) (w : String) (newline : Bool) : LexerToken :=
  tokenOf literal newline ⟨p,w.length,.identLiteral,false⟩

def lexemeNextToken (p e : Nat) : Except ParserError (LexerToken × Nat) :=
  match lexemeAt src p e with
  | none => .ok (tokenOf eos false default,p)
  | some ⟨lexeme,newline⟩ =>
      let token := match lexeme with
        | .word w => match keywordType w with
          | some k => tokenOf k newline default
          | none => nameToken p w newline
        | .punctuator t => tokenOf t newline default
        | .number => tokenOf literal newline ⟨p,1,.numberLiteral,false⟩
        | .string s esc => tokenOf literal newline ⟨p,s.length,.stringLiteral,esc⟩
      .ok (token,p + 1)

def lexemeScanIdentifier (propertyName : Bool) (p e : Nat) :
    Except ParserError (LexerToken × Nat) :=
  match lexemeAt src p e with
  | some ⟨.word w,newline⟩ =>
      let accessor := propertyName && (w == "get" || w == "set") && p + 1 < e &&
        (src[p + 1]?.map SourceLexeme.lexeme) != some (.punctuator colon)
      if accessor then
        .ok (tokenOf (if w == "get" then propertyGetter else propertySetter) newline default,p + 1)
      else .ok (nameToken p w newline,p + 1)
  | _ => if propertyName then lexemeNextToken src p e else .error .identifierExpected

def regexpEnd : List SourceLexeme → Nat → Option Nat
  | [],_ => none
  | l :: rest,p =>
      if l.newlineBefore then none
      else if l.lexeme = .punctuator divide then some (p + 1)
      else regexpEnd rest (p + 1)

def lexemeConstructRegexp (token : LexerToken) (p e : Nat) :
    Except ParserError (LexerToken × Nat) :=
  match regexpEnd ((src.take e).drop p) p with
  | some q => .ok (tokenOf literal token.wasNewline ⟨p,q - p,.regexpLiteral,false⟩,q)
  | none => .error .unterminatedRegexp

def lexemeExpectIdentifier (_strict : Bool) (p e : Nat) : Except ParserError (LexerToken × Nat) :=
  match lexemeNextToken src p e with
  | .ok (t,q) => if t.isIdent then .ok (t,q) else .error .identifierExpected
  | .error err => .error err

def wordAt (p : Nat) : Option String :=
  match src[p]? with
  | some ⟨.word w,_⟩ => some w
  | _ => none

def lexemeLexer : Lexer where
  nextToken := lexemeNextToken src
  scanIdentifier := lexemeScanIdentifier src
  constructRegexp := lexemeConstructRegexp src
  expectIdentifier := lexemeExpectIdentifier src
  sameIdentifiers a b := (wordAt src a.charP).isSome && wordAt src a.charP == wordAt src b.charP
  sourceChars p n := match src[p]? with
    | some ⟨.string s _,_⟩ => s.toList.take n
    | _ => []

variable (lx : Lexer)

abbrev SampleResult := Except (ParserError × ExprState) (ExprState × Nat)

def sampleAdvance (s : ExprState) : Except (ParserError × ExprState) ExprState :=
  match lx.nextToken s.sourceP s.sourceEndP with
  | .ok (t,p) => .ok { s with token := t, sourceP := p }
  | .error e => .error (e,s)

def sampleExpect (type : LexerTokenType) (e : ParserError) (s : ExprState) :
    Except (ParserError × ExprState) ExprState :=
  if s.token.type == type then sampleAdvance lx s else .error (e,s)

def sampleEmit (op : ExprOpcode) (argument : Nat) (s : ExprState) (bytes : Nat) :
    ExprState × Nat :=
  ({ s with lastCbcOpcode := some op, lastCbc := argument },
    if s.lastCbcOpcode.isSome then bytes + 1 else bytes)

mutual
def sampleExpression : Nat → Bool → ExprState → Nat → SampleResult
  | 0,_,s,_ => .error (.outOfMemory,s)
  | fuel + 1,noComma,s,bytes => do
      let (s,bytes) ← sampleOperand fuel s bytes
      sampleOperators fuel noComma s bytes

def sampleOperators : Nat → Bool → ExprState → Nat → SampleResult
  | 0,_,s,_ => .error (.outOfMemory,s)
  | fuel + 1,noComma,s,bytes => do
      let t := s.token.type
      if t == questionMark then
        let s ← sampleAdvance lx s
        let (s,bytes) ← sampleExpression fuel true s bytes
        let s ← sampleExpect lx colon .colonExpected s
        sampleExpression fuel noComma s bytes
      else if lexerIsBinaryOpToken t || (t == comma && !noComma) then
        let s ← sampleAdvance lx s
        let (s,bytes) ← sampleExpression fuel noComma s bytes
        pure (sampleEmit (.other 0) 0 s bytes)
      else pure (s,bytes)

def sampleOperand : Nat → ExprState → Nat → SampleResult
  | 0,s,_ => .error (.outOfMemory,s)
  | fuel + 1,s,bytes => do
      let t := s.token.type
      if lexerIsUnaryOpToken t || t == add || t == subtract then
        let s ← sampleAdvance lx s
        let (s,bytes) ← sampleOperand fuel s bytes
        pure (sampleEmit (if t == logicalNot then .logicalNot else .other 1) 0 s bytes)
      else
        let (s,bytes) ← samplePrimary fuel s bytes
        samplePostfix fuel s bytes

def samplePrimary : Nat → ExprState → Nat → SampleResult
  | 0,s,_ => .error (.outOfMemory,s)
  | fuel + 1,s,bytes =>
      let push (op : ExprOpcode) (argument : Nat) (s : ExprState) : SampleResult := do
        let (s,bytes) := sampleEmit op argument s bytes
        pure (← sampleAdvance lx s,bytes)
      match s.token.type with
      | literal =>
          push (if s.token.litLocation.type == .identLiteral then .pushIdent else .pushLiteral)
            s.token.litLocation.charP s
      | litTrue => push .pushTrue 0 s
      | litFalse => push .pushFalse 0 s
      | litNull | keywThis => push (.other 2) 0 s
      | leftParen => do
          let (s,bytes) ← sampleExpression fuel false (← sampleAdvance lx s) bytes
          pure (← sampleExpect lx rightParen .rightParenExpected s,bytes)
      | leftBrace => do
          let s ← sampleAdvance lx s
          if s.token.type == rightBrace then push (.other 3) 0 s
          else sampleProperties fuel s bytes
      | _ => .error (.primaryExpExpected,s)

def sampleProperties : Nat → ExprState → Nat → SampleResult
  | 0,s,_ => .error (.outOfMemory,s)
  | fuel + 1,s,bytes => do
      if s.token.type != literal then return ← .error (.primaryExpExpected,s)
      let s ← sampleExpect lx colon .colonExpected (← sampleAdvance lx s)
      let (s,bytes) ← sampleExpression fuel true s bytes
      if s.token.type == comma then sampleProperties fuel (← sampleAdvance lx s) bytes
      else
        let s ← sampleExpect lx rightBrace .objectItemSeparatorExpected s
        pure (sampleEmit (.other 3) 0 s bytes)

def samplePostfix : Nat → ExprState → Nat → SampleResult
  | 0,s,_ => .error (.outOfMemory,s)
  | fuel + 1,s,bytes =>
      match s.token.type with
      | dot => do
          let s ← match lx.scanIdentifier false s.sourceP s.sourceEndP with
            | .ok (t,p) => pure { s with token := t, sourceP := p }
            | .error e => .error (e,s)
          let (s,bytes) := sampleEmit .propStringGet s.token.litLocation.charP s bytes
          samplePostfix fuel (← sampleAdvance lx s) bytes
      | leftSquare => do
          let (s,bytes) ← sampleExpression fuel false (← sampleAdvance lx s) bytes
          let s ← sampleExpect lx rightSquare .invalidRightSquare s
          let (s,bytes) := sampleEmit .propGet 0 s bytes
          samplePostfix fuel s bytes
      | leftParen => do
          let s ← sampleAdvance lx s
          let (s,bytes) ← if s.token.type == rightParen then pure (s,bytes)
            else sampleArguments fuel s bytes
          let s ← sampleExpect lx rightParen .rightParenExpected s
          let (s,bytes) := sampleEmit (.other 4) 0 s bytes
          samplePostfix fuel s bytes
      | increase | decrease =>
          if s.token.wasNewline then pure (s,bytes)
          else do
            let s ← sampleAdvance lx s
            pure (sampleEmit (.other 5) 0 s bytes)
      | _ => pure (s,bytes)

def sampleArguments : Nat → ExprState → Nat → SampleResult
  | 0,s,_ => .error (.outOfMemory,s)
  | fuel + 1,s,bytes => do
      let (s,bytes) ← sampleExpression fuel true s bytes
      if s.token.type == comma then sampleArguments fuel (← sampleAdvance lx s) bytes
      else pure (s,bytes)
end

def sampleParseExpression (options : ParseExprOptions) (s : ExprState) : SampleResult :=
  let fuel := 4 * (s.sourceEndP - s.sourceP) + 8
  if options.hasLiteral then do
    let (s,bytes) ← samplePostfix lx fuel s 0
    sampleOperators lx fuel options.noComma s bytes
  else sampleExpression lx fuel options.noComma s 0

def sampleSkipFunction : Nat → Nat → ExprState → Except (ParserError × ExprState) ExprState
  | 0,_,s => .error (.outOfMemory,s)
  | fuel + 1,depth,s => do
      let s ← sampleAdvance lx s
      match s.token.type with
      | leftBrace => sampleSkipFunction fuel (depth + 1) s
      | rightBrace => if depth = 1 then pure s else sampleSkipFunction fuel (depth - 1) s
      | eos => .error (.expressionExpected,s)
      | _ => sampleSkipFunction fuel depth s

def sampleLayout : ParserLayout where
  loopStatement := 4
  labelStatement := 12
  ifElseStatement := 4
  switchStatement := 8
  doWhileStatement := 4
  whileStatement := 20
  forStatement := 32
  forInStatement := 8
  withStatement := 4
  tryStatement := 8
  positive := by decide
  lastByte _ := 0

def sampleCbcLength : CbcInstr → Nat
  | .op _ _ => 2
  | .forward _ => 3
  | .backward _ _ => 3
  | .expression n => n

def sampleEnv : ParserEnv where
  layout := sampleLayout
  lexer := lexemeLexer src
  cbcLength := sampleCbcLength
  tryContextStackAllocation := 2
  withContextStackAllocation := 1
  forInContextStackAllocation := 3
  parseExpression := sampleParseExpression (lexemeLexer src)
  constructFunctionObject s := sampleSkipFunction (lexemeLexer src) (s.sourceEndP + 1) 0 s

def sampleContext (flags : ParserStatusFlags) : ParserContext :=
  let (token,p) := match lexemeNextToken src 0 src.length with
    | .ok r => r
    | .error _ => (default,0)
  { statusFlags := flags, stackDepth := 0, contextStackDepth := 0, lastStatement := none,
    token := token, sourceP := p, sourceEndP := src.length, lastCbc := 0, lastCbcOpcode := none,
    byteCode := [], byteCodeSize := 0, patches := [], stack := ⟨[],0⟩, nodes := [],
    nextNode := 0 }

def kw (w : String) : SourceLexeme := ⟨.word w,false⟩
def pu (t : LexerTokenType) : SourceLexeme := ⟨.punctuator t,false⟩
def num : SourceLexeme := ⟨.number,false⟩

def programFlags : ParserStatusFlags := ⟨false,false,false,false,false⟩
def functionFlags : ParserStatusFlags := ⟨false,true,true,false,false⟩

def resultContext : Except ParserFailure (α × ParserContext) → ParserContext
  | .ok (_,d) => d
  | .error f => f.context

def returnedWith [DecidableEq α] (a : α) : Except ParserFailure (α × ParserContext) → Bool
  | .ok (b,_) => b = a
  | .error _ => false

def failedWith (abort : ParserAbort) : Except ParserFailure (α × ParserContext) → Bool
  | .ok _ => false
  | .error f => f.abort = abort

theorem eq_ok_of_returnedWith [DecidableEq α] {a : α} {r : Except ParserFailure (α × ParserContext)}
    (h : returnedWith a r = true) : r = .ok (a,resultContext r) := by
  rcases r with _ | ⟨b,d⟩
  · simp [returnedWith] at h
  · simp only [returnedWith, decide_eq_true_eq] at h
    rw [h]
    rfl

theorem eq_error_of_failedWith {a : ParserAbort} {r : Except ParserFailure (α × ParserContext)}
    (h : failedWith a r = true) : r = .error ⟨a,resultContext r⟩ := by
  rcases r with ⟨b,d⟩ | _
  · simp only [failedWith, decide_eq_true_eq] at h
    rw [h]
    rfl
  · simp [failedWith] at h

end JerryParser
