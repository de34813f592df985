import JerryParser.Steps
import JerryParser.Sample

/-! The jumps of `break` and `continue`: the frame each is filed into, and its opcode. A jump
that leaves a for-in, with or try frame is a `CBC_JUMP_FORWARD_EXIT_CONTEXT`, which unwinds the
runtime context on the way out; a `break` leaves its target too, a `continue` stays in its loop. -/
namespace JerryParser

def LexerToken.namesLabel (t : LexerToken) : Bool := !t.wasNewline && t.isIdent

def breakTarget (E : ParserEnv) (t : LexerToken) (fs : List ParserFrame) : Option Nat :=
  if t.namesLabel then
    (findLabel (fun r => E.lexer.sameIdentifiers t.litLocation r.labelIdent) fs).map Prod.fst
  else fs.findIdx? fun f => isBreakTarget f.tag

def continueTarget (E : ParserEnv) (t : LexerToken) (fs : List ParserFrame) : Option Nat :=
  if t.namesLabel then labelledLoop (fun r => E.lexer.sameIdentifiers t.litLocation r.labelIdent) fs
  else fs.findIdx? fun f => isLoopStatement f.tag

theorem length_lt_frameHeight (L : ParserLayout) (fs : List ParserFrame)
    (below : List ParserStackItem) : fs.length < frameHeight L fs below + 1 := by
  induction fs with
  | nil => simp
  | cons f fs ih =>
    have tag : 1 ≤ stackHeight L f.items := by
      simp [ParserFrame.items, ParserStackItem.size]
    rw [frameHeight_cons, List.length_cons]
    omega

variable {E : ParserEnv} {c c' : ParserContext}

theorem fileIntoLoop_byteCode {it : Nat} {op : CbcOpcode} {isContinue : Bool} {u : Unit}
    (h : fileIntoLoop E it op isContinue c = .ok (u,c')) :
    c'.byteCode = (flushCbc E c).byteCode ++ [.forward op] := by
  simp only [fileIntoLoop, bind_ok] at h
  obtain ⟨_,c1,read,_,c2,undef,_,c3,emit,rest⟩ := h
  obtain ⟨-,rfl⟩ := parserStackIteratorRead_ok read
  obtain ⟨-,rfl⟩ := orUndefined_ok.mp undef
  cases (@parserEmitCbcForwardBranchItem_apply E _ _ _).symm.trans emit
  split at rest <;> obtain ⟨_,c4,mark,write⟩ := bind_ok.mp rest <;>
    obtain ⟨s,-,rfl⟩ := parserStackIteratorWrite_ok write
  · obtain ⟨-,rfl⟩ := updateNode_ok mark
    rfl
  · cases mark
    rfl

theorem fileIntoLabel_byteCode {it : Nat} {op : CbcOpcode} {r : ParserLabelStatement} {u : Unit}
    (h : fileIntoLabel E it op r c = .ok (u,c')) :
    c'.byteCode = (flushCbc E c).byteCode ++ [.forward op] := by
  simp only [fileIntoLabel, bind_ok] at h
  obtain ⟨_,c1,emit,write⟩ := h
  cases (@parserEmitCbcForwardBranchItem_apply E _ _ _).symm.trans emit
  obtain ⟨s,-,rfl⟩ := parserStackIteratorWrite_ok write
  rfl

theorem byteCode_after_next {m : ParserM Unit} {u : Unit}
    (h : (m >>= fun _ => lexerNextToken E) c = .ok (u,c')) :
    ∃ c1, m c = .ok ((),c1) ∧ c'.byteCode = c1.byteCode := by
  obtain ⟨_,c1,first,rest⟩ := bind_ok.mp h
  obtain ⟨_,_,-,rfl⟩ := lexerNextToken_ok rest
  exact ⟨c1,first,rfl⟩

theorem lastOpcode_of_code {code : List CbcInstr} {op : CbcOpcode}
    (h : c'.byteCode = code ++ [.forward op]) : c'.byteCode.getLast? = some (.forward op) := by
  simp [h]

variable {fs : List ParserFrame}

theorem Framed.stackAt (framed : Framed E.layout c.stack c.lastStatement fs) :
    ∃ below, StackAt c [] fs below ∧
      stackHeight E.layout c.stack.items = frameHeight E.layout fs below := by
  obtain ⟨below,hs⟩ := framed.items
  exact ⟨below,by simpa [StackAt] using hs,by rw [hs]; rfl⟩

theorem breakFiledOpcode (framed : Framed E.layout c.stack c.lastStatement fs)
    (h : parserParseBreakStatement E c = .ok ((),c')) :
    ∃ t p k, E.lexer.nextToken c.sourceP c.sourceEndP = .ok (t,p) ∧ breakTarget E t fs = some k ∧
      c'.byteCode.getLast? = some (.forward (exitOpcode .jumpForward (fs.take (k + 1)))) := by
  simp only [parserParseBreakStatement, bind_ok, parserStackIteratorInit_apply, get_apply,
    Except.ok.injEq, Prod.mk.injEq] at h
  obtain ⟨_,c1,next,_,_,⟨rfl,rfl⟩,_,_,⟨rfl,rfl⟩,walk⟩ := h
  obtain ⟨t,p,ht,rfl⟩ := lexerNextToken_ok next
  obtain ⟨below,at0,height⟩ := framed.stackAt
  have at1 : StackAt { c with token := t, sourceP := p } [] fs below := at0
  have fuel := length_lt_frameHeight E.layout fs below
  refine ⟨t,p,?_⟩
  simp only [height, breakTarget, LexerToken.namesLabel] at walk ⊢
  split at walk
  · rw [breakLabelWalk_eq at1 fuel] at walk
    split at walk
    · rename_i k r found
      obtain ⟨c2,filed,code⟩ := byteCode_after_next walk
      exact ⟨k,ht,by simp [*],lastOpcode_of_code (code.trans (fileIntoLabel_byteCode filed))⟩
    · cases walk
  · rw [breakWalk_eq at1 fuel] at walk
    split at walk
    · rename_i k found
      exact ⟨k,ht,by simp [*],lastOpcode_of_code (fileIntoLoop_byteCode walk)⟩
    · cases walk

theorem continueFiledOpcode (framed : Framed E.layout c.stack c.lastStatement fs)
    (h : parserParseContinueStatement E c = .ok ((),c')) :
    ∃ t p k, E.lexer.nextToken c.sourceP c.sourceEndP = .ok (t,p) ∧
      continueTarget E t fs = some k ∧
      c'.byteCode.getLast? = some (.forward (exitOpcode .jumpForward (fs.take k))) := by
  simp only [parserParseContinueStatement, bind_ok, parserStackIteratorInit_apply, get_apply,
    Except.ok.injEq, Prod.mk.injEq] at h
  obtain ⟨_,c1,next,_,_,⟨rfl,rfl⟩,_,_,⟨rfl,rfl⟩,walk⟩ := h
  obtain ⟨t,p,ht,rfl⟩ := lexerNextToken_ok next
  obtain ⟨below,at0,height⟩ := framed.stackAt
  have at1 : StackAt { c with token := t, sourceP := p } [] fs below := at0
  have fuel := length_lt_frameHeight E.layout fs below
  refine ⟨t,p,?_⟩
  simp only [height, continueTarget, LexerToken.namesLabel] at walk ⊢
  split at walk
  · have walkEq := @continueLabelWalk_eq E _ _ _ _ _ at1 fuel none false .jumpForward
    rw [Option.map_none'] at walkEq
    rw [walkEq] at walk
    split at walk
    · rename_i target op found
      obtain ⟨c2,filed,code⟩ := byteCode_after_next walk
      have located := continueLabelScan_target
        (fun r => E.lexer.sameIdentifiers t.litLocation r.labelIdent) fs none false .jumpForward
      rw [found] at located
      obtain ⟨k,hk,rfl⟩ := Option.map_eq_some'.mp located.symm
      obtain ⟨left,split,hop⟩ := continueLabelScan_opcode .jumpForward [] found
        ⟨rfl,rfl,fun _ h => nomatch h⟩
      have same : left = fs.take k := by
        have whole := List.take_append_drop k fs
        rw [List.nil_append] at split
        exact List.append_cancel_right (split.symm.trans whole.symm)
      subst same
      refine ⟨k,ht,by simp [*],?_⟩
      rw [← hop]
      exact lastOpcode_of_code (code.trans (fileIntoLoop_byteCode filed))
    · cases walk
  · rw [continueWalk_eq at1 fuel] at walk
    split at walk
    · rename_i k found
      exact ⟨k,ht,by simp [*],lastOpcode_of_code (fileIntoLoop_byteCode walk)⟩
    · cases walk

/-- A `break` or `continue` that resolves to a frame files `CBC_JUMP_FORWARD_EXIT_CONTEXT`
exactly when a for-in, with or try frame is among the frames it leaves: for a `break` those
above its target and the target, for a `continue` those above its target loop. -/
theorem jumpOpcodeLeavesContexts (framed : Framed E.layout c.stack c.lastStatement fs) :
    (∀ c', parserParseBreakStatement E c = .ok ((),c') → ∃ t p k,
      E.lexer.nextToken c.sourceP c.sourceEndP = .ok (t,p) ∧ breakTarget E t fs = some k ∧
      c'.byteCode.getLast? = some (.forward (if (fs.take (k + 1)).any ParserFrame.holdsContext
        then .jumpForwardExitContext else .jumpForward))) ∧
    (∀ c', parserParseContinueStatement E c = .ok ((),c') → ∃ t p k,
      E.lexer.nextToken c.sourceP c.sourceEndP = .ok (t,p) ∧ continueTarget E t fs = some k ∧
      c'.byteCode.getLast? = some (.forward (if (fs.take k).any ParserFrame.holdsContext
        then .jumpForwardExitContext else .jumpForward))) := by
  simp only [← exitOpcode_holdsContext]
  exact ⟨fun _ h => breakFiledOpcode framed h,fun _ h => continueFiledOpcode framed h⟩

def breakSource : List SourceLexeme := [kw "break",pu .semicolon]

def forInFrames : List ParserFrame := [.forInStatement ⟨none⟩ ⟨⟨0,false⟩,3⟩]

def forInContext : ParserContext :=
  { sampleContext breakSource programFlags with
    stack := ⟨frameItems forInFrames ++ [.uint8 parserStatementStart],parserStatementForIn⟩
    lastStatement :=
      some (stackHeight sampleLayout (frameItems forInFrames ++ [.uint8 parserStatementStart])) }

theorem jumpOpcodeLeavesContexts_forIn :
    Framed (sampleEnv breakSource).layout forInContext.stack forInContext.lastStatement forInFrames ∧
    (∃ c', parserParseBreakStatement (sampleEnv breakSource) forInContext = .ok ((),c') ∧
      c'.byteCode.getLast? = some (.forward .jumpForwardExitContext)) ∧
    (∃ c', parserParseContinueStatement (sampleEnv breakSource) forInContext = .ok ((),c') ∧
      c'.byteCode.getLast? = some (.forward .jumpForward)) ∧
    (∀ c', parserParseBreakStatement (sampleEnv breakSource) forInContext = .ok ((),c') → ∃ t p k,
      (sampleEnv breakSource).lexer.nextToken forInContext.sourceP forInContext.sourceEndP = .ok (t,p) ∧
      breakTarget (sampleEnv breakSource) t forInFrames = some k ∧
      c'.byteCode.getLast? = some (.forward
        (if (forInFrames.take (k + 1)).any ParserFrame.holdsContext
          then .jumpForwardExitContext else .jumpForward))) ∧
    (∀ c', parserParseContinueStatement (sampleEnv breakSource) forInContext = .ok ((),c') → ∃ t p k,
      (sampleEnv breakSource).lexer.nextToken forInContext.sourceP forInContext.sourceEndP = .ok (t,p) ∧
      continueTarget (sampleEnv breakSource) t forInFrames = some k ∧
      c'.byteCode.getLast? = some (.forward
        (if (forInFrames.take k).any ParserFrame.holdsContext
          then .jumpForwardExitContext else .jumpForward))) :=
  have framed : Framed (sampleEnv breakSource).layout forInContext.stack forInContext.lastStatement
      forInFrames := ⟨⟨[],rfl⟩,rfl,rfl⟩
  ⟨framed,⟨_,rfl,rfl⟩,⟨_,rfl,rfl⟩,jumpOpcodeLeavesContexts framed⟩

end JerryParser
