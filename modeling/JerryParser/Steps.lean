import JerryParser.Walks

/-! What each primitive step of the parser does when it returns normally: the lexer calls move
the token and the source position, the stack calls change the stack alone, and the emitter calls
change the byte code, the patches, the branch nodes and `stack_depth`. Every later proof cites
these and never unfolds a primitive. -/
namespace JerryParser

variable {E : ParserEnv} {c c' : ParserContext} {α : Type}

theorem lexerStep_ok {r : Except ParserError (LexerToken × Nat)} {u : Unit}
    (h : lexerStep r c = .ok (u,c')) :
    ∃ t p, r = .ok (t,p) ∧ c' = { c with token := t, sourceP := p } := by
  unfold lexerStep at h
  split at h
  · cases h
    exact ⟨_,_,rfl,rfl⟩
  · cases h

theorem lexerNextToken_ok {u : Unit} (h : lexerNextToken E c = .ok (u,c')) :
    ∃ t p, E.lexer.nextToken c.sourceP c.sourceEndP = .ok (t,p) ∧
      c' = { c with token := t, sourceP := p } := by
  simp only [lexerNextToken, bind_apply, get_apply] at h
  exact lexerStep_ok h

theorem lexerScanIdentifier_ok {b : Bool} {u : Unit} (h : lexerScanIdentifier E b c = .ok (u,c')) :
    ∃ t p, E.lexer.scanIdentifier b c.sourceP c.sourceEndP = .ok (t,p) ∧
      c' = { c with token := t, sourceP := p } := by
  simp only [lexerScanIdentifier, bind_apply, get_apply] at h
  exact lexerStep_ok h

theorem lexerConstructRegexpObject_ok {u : Unit} (h : lexerConstructRegexpObject E c = .ok (u,c')) :
    ∃ t p, E.lexer.constructRegexp c.token c.sourceP c.sourceEndP = .ok (t,p) ∧
      c' = { c with token := t, sourceP := p } := by
  simp only [lexerConstructRegexpObject, bind_apply, get_apply] at h
  exact lexerStep_ok h

theorem lexerExpectIdentifier_ok {u : Unit} (h : lexerExpectIdentifier E c = .ok (u,c')) :
    ∃ t p, E.lexer.expectIdentifier c.statusFlags.isStrict c.sourceP c.sourceEndP = .ok (t,p) ∧
      c' = { c with token := t, sourceP := p } := by
  simp only [lexerExpectIdentifier, bind_apply, get_apply] at h
  exact lexerStep_ok h

theorem parserParseExpression_ok {options : ParseExprOptions} {u : Unit}
    (h : parserParseExpression E options c = .ok (u,c')) :
    ∃ s bytes, E.parseExpression options (flushForExpression E c).exprState = .ok (s,bytes) ∧
      c' = (flushForExpression E c).withExpr E s bytes := by
  unfold parserParseExpression at h
  dsimp only at h
  split at h
  · cases h
    exact ⟨_,_,by assumption,rfl⟩
  · cases h

theorem parserStackIteratorRead_ok {it : Nat} {r : ParserRecord}
    (h : parserStackIteratorRead E it c = .ok (r,c')) :
    c.stack.iteratorRead E.layout it = some r ∧ c' = c := by
  simpa only [parserStackIteratorRead, bind_apply, get_apply] using orUndefined_ok.mp h

theorem parserStackIteratorReadUint8_ok {it : Nat} {b : UInt8}
    (h : parserStackIteratorReadUint8 E it c = .ok (b,c')) :
    c.stack.iteratorReadUint8 E.layout it = some b ∧ c' = c := by
  simpa only [parserStackIteratorReadUint8, bind_apply, get_apply] using orUndefined_ok.mp h

theorem parserStackIteratorWrite_ok {it : Nat} {r : ParserRecord} {u : Unit}
    (h : parserStackIteratorWrite E it r c = .ok (u,c')) :
    ∃ s, c.stack.iteratorWrite E.layout it r = some s ∧ c' = { c with stack := s } := by
  simp only [parserStackIteratorWrite, bind_ok, get_apply, orUndefined_ok, set_apply, Except.ok.injEq,
    Prod.mk.injEq] at h
  obtain ⟨_,_,⟨rfl,rfl⟩,s,_,⟨hs,rfl⟩,-,rfl⟩ := h
  exact ⟨s,hs,rfl⟩

theorem parserStackPopUint8_ok {u : Unit} (h : parserStackPopUint8 E c = .ok (u,c')) :
    ∃ s, c.stack.popUint8 E.layout = some s ∧ c' = { c with stack := s } := by
  simp only [parserStackPopUint8, bind_ok, get_apply, orUndefined_ok, set_apply, Except.ok.injEq,
    Prod.mk.injEq] at h
  obtain ⟨_,_,⟨rfl,rfl⟩,s,_,⟨hs,rfl⟩,-,rfl⟩ := h
  exact ⟨s,hs,rfl⟩

theorem parserStackPop_ok {r : ParserRecord} (h : parserStackPop E c = .ok (r,c')) :
    ∃ s, c.stack.pop E.layout = some (r,s) ∧ c' = { c with stack := s } := by
  simp only [parserStackPop, bind_ok, get_apply, orUndefined_ok, set_apply, pure_apply,
    Except.ok.injEq, Prod.mk.injEq] at h
  obtain ⟨_,_,⟨rfl,rfl⟩,⟨r',s⟩,_,⟨hs,rfl⟩,_,_,⟨-,rfl⟩,rfl,rfl⟩ := h
  exact ⟨s,hs,rfl⟩

theorem parserStackPopBytes_ok {n : Nat} {u : Unit} (h : parserStackPopBytes E n c = .ok (u,c')) :
    ∃ s, c.stack.popBytes E.layout n = some s ∧ c' = { c with stack := s } := by
  simp only [parserStackPopBytes, bind_ok, get_apply, orUndefined_ok, set_apply, Except.ok.injEq,
    Prod.mk.injEq] at h
  obtain ⟨_,_,⟨rfl,rfl⟩,s,_,⟨hs,rfl⟩,-,rfl⟩ := h
  exact ⟨s,hs,rfl⟩

theorem parserStackChangeLastUint8_ok {b : UInt8} {u : Unit}
    (h : parserStackChangeLastUint8 b c = .ok (u,c')) :
    ∃ s, c.stack.changeLastUint8 b = some s ∧ c' = { c with stack := s } := by
  simp only [parserStackChangeLastUint8, bind_ok, get_apply, orUndefined_ok, set_apply, Except.ok.injEq,
    Prod.mk.injEq] at h
  obtain ⟨_,_,⟨rfl,rfl⟩,s,_,⟨hs,rfl⟩,-,rfl⟩ := h
  exact ⟨s,hs,rfl⟩

theorem updateNode_ok {p : Nat} {g : ParserBranchNode → ParserBranchNode} {u : Unit}
    (h : updateNode p g c = .ok (u,c')) :
    (c.nodes.lookup p).isSome ∧ c' = { c with nodes := c.nodes.map fun (q,n) =>
      if q = p then (q,g n) else (q,n) } := by
  simp only [updateNode, bind_apply, get_apply] at h
  split at h
  · simp [bind_apply] at h
  · rename_i hn
    simp only [bind_apply, pure_apply, set_apply, Except.ok.injEq, Prod.mk.injEq] at h
    obtain ⟨-,rfl⟩ := h
    exact ⟨by simpa using hn,rfl⟩

@[simp] theorem parserStackIteratorInit_apply (c : ParserContext) :
    parserStackIteratorInit E c = .ok (stackHeight E.layout c.stack.items,c) := rfl

@[simp] theorem parserStackPush_apply (r : ParserRecord) (c : ParserContext) :
    parserStackPush E r c = .ok ((),{ c with stack := c.stack.push E.layout r }) := rfl

@[simp] theorem parserStackPushUint8_apply (b : UInt8) (c : ParserContext) :
    parserStackPushUint8 b c = .ok ((),{ c with stack := c.stack.pushUint8 b }) := rfl

@[simp] theorem initLastStatement_apply (c : ParserContext) :
    initLastStatement E c =
      .ok ((),{ c with lastStatement := some (stackHeight E.layout c.stack.items) }) := rfl

@[simp] theorem parserFlushCbc_apply (c : ParserContext) :
    parserFlushCbc E c = .ok ((),flushCbc E c) := rfl

@[simp] theorem parserEmitCbcLiteral_apply (op : CbcOpcode) (index : Nat) (c : ParserContext) :
    parserEmitCbcLiteral E op index c =
      .ok ((),{ flushCbc E c with lastCbcOpcode := some op, lastCbc := index }) := rfl

@[simp] theorem parserEmitCbc_apply (op : CbcOpcode) (c : ParserContext) :
    parserEmitCbc E op c = .ok ((),{ flushCbc E c with lastCbcOpcode := some op, lastCbc := 0 }) :=
  rfl

@[simp] theorem parserEmitCbcForwardBranch_apply (op : CbcOpcode) (c : ParserContext) :
    parserEmitCbcForwardBranch E op c = .ok (forwardBranch E c op) := rfl

@[simp] theorem parserEmitCbcForwardBranchItem_apply (op : CbcOpcode) (next : Option Nat)
    (c : ParserContext) :
    parserEmitCbcForwardBranchItem E op next c =
      .ok (malloc (forwardBranch E c op).2 ⟨next,(forwardBranch E c op).1⟩) := rfl

@[simp] theorem parserSetBranchToCurrentPosition_apply (branch : ParserBranch) (c : ParserContext) :
    parserSetBranchToCurrentPosition E branch c = .ok ((),setBranch E c branch) := rfl

@[simp] theorem flushCbc_stack (c : ParserContext) : (flushCbc E c).stack = c.stack := by
  unfold flushCbc; split <;> rfl

@[simp] theorem flushCbc_lastStatement (c : ParserContext) :
    (flushCbc E c).lastStatement = c.lastStatement := by
  unfold flushCbc; split <;> rfl

@[simp] theorem flushCbc_depths (c : ParserContext) :
    (flushCbc E c).stackDepth = c.stackDepth ∧
      (flushCbc E c).contextStackDepth = c.contextStackDepth := by
  unfold flushCbc; split <;> exact ⟨rfl,rfl⟩

@[simp] theorem flushCbc_nodes (c : ParserContext) : (flushCbc E c).nodes = c.nodes := by
  unfold flushCbc; split <;> rfl

@[simp] theorem forwardBranch_byteCode (c : ParserContext) (op : CbcOpcode) :
    (forwardBranch E c op).2.byteCode = (flushCbc E c).byteCode ++ [.forward op] := rfl

end JerryParser
