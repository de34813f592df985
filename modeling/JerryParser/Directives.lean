import JerryParser.Boundaries

/-! The directive prologue of `parser_parse_statements`: the leading string literals that stand
as whole statements. `DirectivePrologue` reads them off the lexer's tokens. The loop of the
source sets `PARSER_IS_STRICT` exactly when one of them is `"use strict"`, and hands a string
literal that continues into an expression to the main loop as a cached `CBC_PUSH_LITERAL` under
`LEXER_EXPRESSION_START`. A string literal before the end of the source stands alone only when a
line break separates them. -/
namespace JerryParser

open LexerTokenType

def LexerToken.isStringLiteral (t : LexerToken) : Bool :=
  t.type == literal && t.litLocation.type == .stringLiteral

def continuesExpression (type : LexerTokenType) : Bool :=
  lexerIsBinaryOpToken type || type == leftParen || type == leftSquare || type == dot

def endsDirective (next : LexerToken) : Bool :=
  next.type == semicolon || next.type == rightBrace ||
    (next.wasNewline && !continuesExpression next.type)

def isUseStrict (lx : Lexer) (l : LexerLitLocation) : Bool :=
  l.length == useStrictLiteral.length && !l.hasEscape &&
    lx.sourceChars l.charP useStrictLiteral.length == useStrictLiteral

inductive PrologueEnd where
  | statement
  | expression (lit : LexerLitLocation) (next : LexerToken)
  deriving DecidableEq, Repr

inductive DirectivePrologue (lx : Lexer) (e : Nat) :
    LexerToken → Nat → List LexerLitLocation → PrologueEnd → Prop where
  | stop {t p} (notString : t.isStringLiteral = false) : DirectivePrologue lx e t p [] .statement
  | expression {t p next p'} (string : t.isStringLiteral = true)
      (read : lx.nextToken p e = .ok (next,p')) (continues : endsDirective next = false) :
      DirectivePrologue lx e t p [] (.expression t.litLocation next)
  | directive {t p next p' ds stop} (string : t.isStringLiteral = true)
      (read : lx.nextToken p e = .ok (next,p')) (ends : endsDirective next = true)
      (noSemicolon : next.type ≠ semicolon) (rest : DirectivePrologue lx e next p' ds stop) :
      DirectivePrologue lx e t p (t.litLocation :: ds) stop
  | directiveSemicolon {t p next p' after p'' ds stop} (string : t.isStringLiteral = true)
      (read : lx.nextToken p e = .ok (next,p')) (isSemicolon : next.type = semicolon)
      (readAfter : lx.nextToken p' e = .ok (after,p''))
      (rest : DirectivePrologue lx e after p'' ds stop) :
      DirectivePrologue lx e t p (t.litLocation :: ds) stop

variable {E : ParserEnv}

def PrologueOutcome (c c' : ParserContext) : PrologueEnd → Prop
  | .statement => c'.token.isStringLiteral = false ∧ c'.lastCbcOpcode = c.lastCbcOpcode
  | .expression lit next => c'.lastCbcOpcode = some .pushLiteral ∧ c'.lastCbc = lit.charP ∧
      c'.token.type = expressionStart ∧ c'.token.savedType = next.type

def PrologueResult (E : ParserEnv) (fuel : Nat) (c : ParserContext) (ds : List LexerLitLocation)
    (stop : PrologueEnd) : Prop :=
  (∃ c', directivePrologue E fuel c = .ok ((),c') ∧
    c'.statusFlags.isStrict = (c.statusFlags.isStrict || ds.any (isUseStrict E.lexer)) ∧
    c'.stackDepth = 0 ∧ PrologueOutcome c c' stop) ∨
  (∃ f, directivePrologue E fuel c = .error f ∧ f.abort = .error .strictIdentNotAllowed ∧
    ds.any (isUseStrict E.lexer) = true)

theorem continues_iff_not_endsDirective (next : LexerToken) :
    (next.type != semicolon && next.type != rightBrace &&
      (!next.wasNewline || lexerIsBinaryOpToken next.type || next.type == leftParen ||
        next.type == leftSquare || next.type == dot)) = !endsDirective next := by
  simp only [endsDirective,continuesExpression,bne]
  generalize next.wasNewline = w, (next.type == semicolon) = a, (next.type == rightBrace) = b,
    lexerIsBinaryOpToken next.type = o, (next.type == leftParen) = l,
    (next.type == leftSquare) = s, (next.type == dot) = d
  revert w a b o l s d
  decide

theorem lexerNextToken_eq {c : ParserContext} {t : LexerToken} {p : Nat}
    (read : E.lexer.nextToken c.sourceP c.sourceEndP = .ok (t,p)) :
    lexerNextToken E c = .ok ((),{ c with token := t, sourceP := p }) := by
  simp [lexerNextToken,lexerStep,bind_apply,read]

@[simp] theorem flushCbc_token (c : ParserContext) : (flushCbc E c).token = c.token := by
  unfold flushCbc; split <;> rfl

@[simp] theorem flushCbc_statusFlags (c : ParserContext) :
    (flushCbc E c).statusFlags = c.statusFlags := by
  unfold flushCbc; split <;> rfl

theorem ite_ite_bool {α : Type} (a b : Bool) (x y : α) :
    (if a = true then (if b = true then x else y) else y) = if (a && b) = true then x else y := by
  cases a <;> cases b <;> rfl

theorem parserAssert_true_apply (c : ParserContext) : parserAssert true c = .ok ((),c) := rfl

theorem PrologueResult.cons {fuel : Nat} {c : ParserContext} (c2 : ParserContext)
    {l : LexerLitLocation} {ds stop} (step : directivePrologue E (fuel + 1) c = directivePrologue E fuel c2)
    (strict : c2.statusFlags.isStrict = (c.statusFlags.isStrict || isUseStrict E.lexer l))
    (cache : c2.lastCbcOpcode = c.lastCbcOpcode) (rest : PrologueResult E fuel c2 ds stop) :
    PrologueResult E (fuel + 1) c (l :: ds) stop := by
  rw [PrologueResult,step]
  rcases rest with ⟨c',run,flag,depth,outcome⟩ | ⟨f,run,abort,any⟩
  · refine .inl ⟨c',run,by rw [flag,strict,List.any_cons,Bool.or_assoc],depth,?_⟩
    cases stop with
    | statement => exact ⟨outcome.1,outcome.2.trans cache⟩
    | expression => exact outcome
  · exact .inr ⟨f,run,abort,by simp [any]⟩

theorem prologueResult {e : Nat} {t : LexerToken} {p : Nat} {ds stop}
    (prologue : DirectivePrologue E.lexer e t p ds stop) :
    ∀ (c : ParserContext) {fuel : Nat}, c.token = t → c.sourceP = p → c.sourceEndP = e →
      c.stackDepth = 0 → ds.length < fuel → PrologueResult E fuel c ds stop := by
  induction prologue with
  | stop notString =>
    rintro c (_|fuel) rfl - - depth enough
    · exact absurd enough (Nat.lt_irrefl 0)
    refine .inl ⟨c,?_,by simp,depth,notString,rfl⟩
    simp only [LexerToken.isStringLiteral] at notString
    simp only [directivePrologue,bind_apply,get_apply,notString,Bool.not_false,if_true,pure_apply]
  | @expression t p next p' string read continues =>
    rintro c (_|fuel) rfl rfl rfl depth enough
    · exact absurd enough (Nat.lt_irrefl 0)
    have cond := continues_iff_not_endsDirective next
    rw [continues,Bool.not_false,Bool.and_eq_true] at cond
    simp only [LexerToken.isStringLiteral] at string
    have zero : (c.stackDepth == 0) = true := by simp [depth]
    have run : directivePrologue E (fuel + 1) c = .ok ((),{ flushCbc E { c with token := next, sourceP := p' } with
        lastCbcOpcode := some .pushLiteral, lastCbc := c.token.litLocation.charP,
        token := { next with savedType := next.type, type := expressionStart } }) := by
      simp only [directivePrologue,pure_bind,bind_apply,get_apply,string,Bool.not_true,if_false,
        Bool.false_eq_true,zero,parserAssert_true_apply,lexerNextToken_eq read,cond.1,
        cond.2,if_true,parserEmitCbcLiteral_apply,holdTokenBack,modify_apply,pure_apply,flushCbc_token]
    exact .inl ⟨_,run,by simp,by simp [depth],rfl,rfl,rfl,rfl⟩
  | @directive t p next p' ds stop string read ends noSemicolon rest ih =>
    rintro c (_|fuel) rfl rfl rfl depth enough
    · exact absurd enough (Nat.not_lt_zero _)
    have cond := continues_iff_not_endsDirective next
    rw [ends,Bool.not_true] at cond
    have zero : (c.stackDepth == 0) = true := by simp [depth]
    have semi : (next.type == semicolon) = false := by simpa using noSemicolon
    simp only [LexerToken.isStringLiteral] at string
    cases strict : isUseStrict E.lexer c.token.litLocation
    · refine PrologueResult.cons { c with token := next, sourceP := p' } ?_ (by simp [strict])
        rfl (ih _ rfl rfl rfl depth (by simpa using enough))
      simp only [isUseStrict] at strict
      simp only [directivePrologue,pure_bind,bind_apply,get_apply,string,Bool.not_true,if_false,
        Bool.false_eq_true,zero,parserAssert_true_apply,lexerNextToken_eq read,ite_ite_bool,cond,strict,semi]
    have useStrict := strict
    simp only [isUseStrict] at useStrict
    cases reserved : (next.isIdent && next.literalIsReserved)
    · refine PrologueResult.cons
        { c with token := next, sourceP := p', statusFlags.isStrict := true } ?_ (by simp [strict]) rfl
        (ih _ rfl rfl rfl depth (by simpa using enough))
      simp only [directivePrologue,pure_bind,bind_apply,get_apply,string,Bool.not_true,if_false,
        Bool.false_eq_true,zero,parserAssert_true_apply,lexerNextToken_eq read,ite_ite_bool,cond,
        useStrict,if_true,modify_apply,reserved,semi]
    · refine .inr ⟨⟨.error .strictIdentNotAllowed,
        { c with token := next, sourceP := p', statusFlags.isStrict := true }⟩,?_,rfl,by simp [strict]⟩
      simp only [directivePrologue,pure_bind,bind_apply,get_apply,string,Bool.not_true,if_false,
        Bool.false_eq_true,zero,parserAssert_true_apply,lexerNextToken_eq read,ite_ite_bool,cond,
        useStrict,if_true,modify_apply,reserved,parserRaiseError_apply]
  | @directiveSemicolon t p next p' after p'' ds stop string read isSemicolon readAfter rest ih =>
    rintro c (_|fuel) rfl rfl rfl depth enough
    · exact absurd enough (Nat.not_lt_zero _)
    have cond := continues_iff_not_endsDirective next
    rw [show endsDirective next = true by simp [endsDirective,isSemicolon],Bool.not_true] at cond
    have zero : (c.stackDepth == 0) = true := by simp [depth]
    have semi : (next.type == semicolon) = true := by simp [isSemicolon]
    have notIdent : (next.isIdent && next.literalIsReserved) = false := by
      simp [LexerToken.isIdent,isSemicolon]
    simp only [LexerToken.isStringLiteral] at string
    cases strict : isUseStrict E.lexer c.token.litLocation
    · refine PrologueResult.cons { c with token := after, sourceP := p'' } ?_ (by simp [strict])
        rfl (ih _ rfl rfl rfl depth (by simpa using enough))
      simp only [isUseStrict] at strict
      simp only [directivePrologue,pure_bind,bind_apply,get_apply,string,Bool.not_true,if_false,
        Bool.false_eq_true,zero,parserAssert_true_apply,lexerNextToken_eq read,ite_ite_bool,cond,strict,semi,
        if_true,@lexerNextToken_eq E { c with token := next, sourceP := p' } after p'' readAfter]
    · have useStrict := strict
      simp only [isUseStrict] at useStrict
      refine PrologueResult.cons
        { c with token := after, sourceP := p'', statusFlags.isStrict := true } ?_ (by simp [strict]) rfl
        (ih _ rfl rfl rfl depth (by simpa using enough))
      simp only [directivePrologue,pure_bind,bind_apply,get_apply,string,Bool.not_true,if_false,
        Bool.false_eq_true,zero,parserAssert_true_apply,lexerNextToken_eq read,ite_ite_bool,cond,
        useStrict,if_true,modify_apply,notIdent,semi,
        @lexerNextToken_eq E { c with token := next, sourceP := p', statusFlags.isStrict := true } after p''
          readAfter]

theorem parserParseStatement_heldLiteral (fuel : Nat) {c : ParserContext} {next : LexerTokenType}
    (depths : c.stackDepth = 0 ∧ c.contextStackDepth = 0) (start : c.token.type = expressionStart)
    (saved : c.token.savedType = next) :
    parserParseStatement E fuel c = (parserParseExpression E
      ⟨c.statusFlags.isFunction,!c.statusFlags.isFunction,false,true⟩ >>= fun _ =>
        parserEndStatement E fuel) { c with token := { c.token with type := next } } := by
  subst saved
  have assert : (c.stackDepth == c.contextStackDepth) = true := by simp [depths.1,depths.2]
  simp only [parserParseStatement,bind_apply,get_apply,assert,parserAssert,start,beq_self_eq_true,
    ↓reduceIte,parserParseExpressionStatement]
  cases c.statusFlags.isFunction <;> rfl

/-- From the entry of `parser_parse_statements` through its directive prologue: when the lexer
reads the prologue's tokens, the prologue returns with `PARSER_IS_STRICT` set exactly when it was
set on entry or one of the directives is `"use strict"`, the first token after it current or the
literal that continues into an expression cached as `CBC_PUSH_LITERAL`, which the first pass of the
main loop compiles with `PARSE_EXPR_HAS_LITERAL` as an expression statement; or it raises
`PARSER_ERR_STRICT_IDENT_NOT_ALLOWED` after a `"use strict"` directive. -/
theorem statementsPrologueStrict {fuel : Nat} {c0 : ParserContext} {ds : List LexerLitLocation}
    {stop : PrologueEnd} (entry : StatementsEntry c0)
    (prologue : DirectivePrologue E.lexer c0.sourceEndP c0.token c0.sourceP ds stop)
    (enough : ds.length < fuel) :
    (∃ c, (parserStackPushUint8 parserStatementStart >>= fun _ => initLastStatement E >>= fun _ =>
          directivePrologue E fuel) c0 = .ok ((),c) ∧
        c.statusFlags.isStrict = (c0.statusFlags.isStrict || ds.any (isUseStrict E.lexer)) ∧
        PrologueOutcome c0 c stop ∧
        ∀ lit next fuel', stop = .expression lit next →
          parserParseStatement E fuel' c = (parserParseExpression E
            ⟨c.statusFlags.isFunction,!c.statusFlags.isFunction,false,true⟩ >>= fun _ =>
              parserEndStatement E fuel') { c with token := { c.token with type := next.type } }) ∨
      (∃ f, (parserStackPushUint8 parserStatementStart >>= fun _ => initLastStatement E >>= fun _ =>
          directivePrologue E fuel) c0 = .error f ∧ f.abort = .error .strictIdentNotAllowed ∧
        ds.any (isUseStrict E.lexer) = true) := by
  have frames := fun c run => ((statementsStart_triple (E := E) fuel) c0 entry).1 () c run
  simp only [bind_apply,parserStackPushUint8_apply,initLastStatement_apply] at frames ⊢
  refine Or.imp (fun ⟨c,run,flag,_,outcome⟩ => ⟨c,run,flag,?_,fun lit next fuel' stopped => ?_⟩) id
    (prologueResult prologue _ rfl rfl rfl entry.depth enough)
  · cases stop <;> exact outcome
  · subst stopped
    have pass := parserParseStatement_heldLiteral (E := E) fuel' (frames c run).depths_nil
      outcome.2.2.1 outcome.2.2.2
    rwa [bind_apply] at pass

def useStrictSemicolonSource : List SourceLexeme :=
  [⟨.string "use strict" false,false⟩,pu semicolon,⟨.string "b" false,false⟩,pu add,kw "x"]

theorem statementsPrologueStrict_sample :
    let src := useStrictSemicolonSource
    let c0 := sampleContext src programFlags
    let ds := [⟨0,10,.stringLiteral,false⟩]
    ∃ lit next, StatementsEntry c0 ∧
      DirectivePrologue (sampleEnv src).lexer c0.sourceEndP c0.token c0.sourceP ds (.expression lit next) ∧
      ds.length < 2 ∧
      ((∃ c, (parserStackPushUint8 parserStatementStart >>= fun _ => initLastStatement (sampleEnv src) >>= fun _ =>
          directivePrologue (sampleEnv src) 2) c0 = .ok ((),c) ∧
        c.statusFlags.isStrict = (c0.statusFlags.isStrict || ds.any (isUseStrict (sampleEnv src).lexer)) ∧
        PrologueOutcome c0 c (.expression lit next) ∧
        ∀ lit' next' fuel', PrologueEnd.expression lit next = .expression lit' next' →
          parserParseStatement (sampleEnv src) fuel' c = (parserParseExpression (sampleEnv src)
            ⟨c.statusFlags.isFunction,!c.statusFlags.isFunction,false,true⟩ >>= fun _ =>
              parserEndStatement (sampleEnv src) fuel') { c with token := { c.token with type := next'.type } }) ∨
      (∃ f, (parserStackPushUint8 parserStatementStart >>= fun _ => initLastStatement (sampleEnv src) >>= fun _ =>
          directivePrologue (sampleEnv src) 2) c0 = .error f ∧ f.abort = .error .strictIdentNotAllowed ∧
        ds.any (isUseStrict (sampleEnv src).lexer) = true)) :=
  have entry : StatementsEntry (sampleContext useStrictSemicolonSource programFlags) := ⟨rfl,rfl,rfl,rfl⟩
  have prologue : DirectivePrologue (sampleEnv useStrictSemicolonSource).lexer 5
      (sampleContext useStrictSemicolonSource programFlags).token 1 [⟨0,10,.stringLiteral,false⟩] _ :=
    .directiveSemicolon rfl rfl rfl rfl (.expression rfl rfl rfl)
  ⟨_,_,entry,prologue,by decide,statementsPrologueStrict entry prologue (by decide)⟩

def useStrictAtEndSource : List SourceLexeme := [⟨.string "use strict" false,false⟩]

theorem useStrictAtEndNotStrict :
    isUseStrict (sampleEnv useStrictAtEndSource).lexer ⟨0,10,.stringLiteral,false⟩ = true ∧
      (sampleContext useStrictAtEndSource programFlags).token.litLocation = ⟨0,10,.stringLiteral,false⟩ ∧
      (sampleEnv useStrictAtEndSource).lexer.nextToken 1 1 = .ok (tokenOf eos false default,1) ∧
      ∃ c, (parserStackPushUint8 parserStatementStart >>= fun _ =>
          initLastStatement (sampleEnv useStrictAtEndSource) >>= fun _ =>
          directivePrologue (sampleEnv useStrictAtEndSource) 2)
          (sampleContext useStrictAtEndSource programFlags) = .ok ((),c) ∧
        c.statusFlags.isStrict = false ∧ c.token.type = expressionStart ∧
        c.lastCbcOpcode = some .pushLiteral :=
  ⟨rfl,rfl,rfl,_,rfl,rfl,rfl,rfl⟩

end JerryParser
