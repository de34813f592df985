import JerryParser.Jumps

/-! Code that leaves the statement frames alone. The lexer, the expression parser, the emitter
(forward branches that open no runtime context, opcodes other than `CBC_CONTEXT_END`), the
branch-node heap and the stack readers never change the stack, `last_statement`, the two depths
or the count of runtime contexts opened and closed in the byte code, and fail in the context
they started from. Such code is `Inert`, and `Inert` code keeps any property of that state. -/
namespace JerryParser

def CbcInstr.isContextEnd : CbcInstr → Bool
  | .op .contextEnd _ => true
  | _ => false

def CbcInstr.opensContext : CbcInstr → Bool
  | .forward .extWithCreateContext | .forward .extTryCreateContext => true
  | _ => false

def contextCount (c : ParserContext) : Nat × Nat :=
  (c.byteCode.countP CbcInstr.isContextEnd + if c.lastCbcOpcode = some .contextEnd then 1 else 0,
    c.byteCode.countP CbcInstr.opensContext)

def frameState (c : ParserContext) : ParserStack × Option Nat × UInt16 × UInt16 × Nat × Nat :=
  (c.stack,c.lastStatement,c.stackDepth,c.contextStackDepth,contextCount c)

structure Inert {α : Type} (m : ParserM α) : Prop where
  triple : ∀ c0, Triple (fun c => frameState c = frameState c0) m
    (fun _ c => frameState c = frameState c0) (fun c => frameState c = frameState c0)

variable {α β : Type} {E : ParserEnv}

theorem Inert.keeps {P Q : ParserContext → Prop} {m : ParserM α} (hm : Inert m)
    (hP : ∀ c d, frameState d = frameState c → P c → P d) (hQ : ∀ c, P c → Q c) :
    Triple P m (fun _ => P) Q := fun c hc =>
  have h := hm.triple c c rfl
  ⟨fun a c' ok => hP c c' (h.1 a c' ok) hc,fun f err => hQ _ (hP c _ (h.2 f err) hc)⟩

theorem Inert.bind {m : ParserM α} {k : α → ParserM β} (hm : Inert m) (hk : ∀ a, Inert (k a)) :
    Inert (m >>= k) :=
  ⟨fun c0 => (hm.triple c0).bind fun a => (hk a).triple c0⟩

theorem Inert.map {m : ParserM α} {g : α → β} (hm : Inert m) : Inert (g <$> m) :=
  ⟨fun c0 => (hm.triple c0).map.weaken (fun _ h => h) (fun _ _ ⟨_,_,h⟩ => h) fun _ h => h⟩

theorem inert_pure (a : α) : Inert (pure a : ParserM α) := ⟨fun _ => triple_pure a fun _ h => h⟩

theorem inert_get : Inert (get : ParserM ParserContext) := ⟨fun _ => triple_get fun _ h => h⟩

theorem inert_modify {g : ParserContext → ParserContext} (hg : ∀ c, frameState (g c) = frameState c) :
    Inert (modify g : ParserM Unit) :=
  ⟨fun _ => triple_modify fun c hc => (hg c).trans hc⟩

theorem inert_ite {p : Prop} [Decidable p] {m m' : ParserM α} (hm : Inert m) (hm' : Inert m') :
    Inert (if p then m else m') := by
  split
  · exact hm
  · exact hm'

theorem inert_raiseError (e : ParserError) : Inert (parserRaiseError e : ParserM α) :=
  ⟨fun _ => triple_raiseError (fun _ h => h) e⟩

theorem inert_undefined : Inert (parserUndefined : ParserM α) :=
  ⟨fun _ => triple_undefined fun _ h => h⟩

theorem inert_outOfFuel : Inert (fun ctx => .error ⟨.outOfFuel,ctx⟩ : ParserM α) :=
  ⟨fun _ => triple_outOfFuel fun _ h => h⟩

theorem inert_assert (b : Bool) : Inert (parserAssert b) :=
  ⟨fun _ => triple_assert (fun _ h => h) b fun _ h _ => h⟩

theorem inert_orUndefined (o : Option α) : Inert (orUndefined o) :=
  ⟨fun _ => triple_orUndefined (fun _ h => h) o fun _ _ h _ => h⟩

@[simp] theorem ExprOpcode.toCbc_ne_contextEnd (op : ExprOpcode) : op.toCbc ≠ .contextEnd := by
  cases op <;> simp [ExprOpcode.toCbc]

theorem frameState_writeInstr (c : ParserContext) {i : CbcInstr} (hend : i.isContextEnd = false)
    (hopen : i.opensContext = false) : frameState (writeInstr E c i) = frameState c := by
  simp [frameState, contextCount, writeInstr, hend, hopen]

@[simp] theorem flushCbc_lastCbcOpcode (c : ParserContext) : (flushCbc E c).lastCbcOpcode = none := by
  unfold flushCbc; split <;> simp_all

@[simp] theorem frameState_flushCbc (c : ParserContext) : frameState (flushCbc E c) = frameState c := by
  unfold flushCbc
  split
  · rfl
  · rename_i op h
    cases op <;> simp [frameState, contextCount, writeInstr, h, CbcInstr.isContextEnd,
      CbcInstr.opensContext]

theorem flushForExpression_ne_contextEnd (c : ParserContext) :
    (flushForExpression E c).lastCbcOpcode ≠ some .contextEnd := by
  unfold flushForExpression
  split
  · split
    · rename_i op h hs
      rw [h]
      rintro ⟨⟩
      simp [CbcOpcode.toExpr] at hs
    · simp
  · simp_all

theorem frameState_withExpr (c : ParserContext) (s : ExprState) (bytes : Nat)
    (h : c.lastCbcOpcode ≠ some .contextEnd) : frameState (c.withExpr E s bytes) = frameState c := by
  unfold ParserContext.withExpr
  split <;> simp [frameState, contextCount, writeInstr, h, CbcInstr.isContextEnd,
    CbcInstr.opensContext]

@[simp] theorem frameState_flushForExpression (c : ParserContext) :
    frameState (flushForExpression E c) = frameState c := by
  unfold flushForExpression; split
  · split <;> simp
  · rfl

@[simp] theorem frameState_setBranch (c : ParserContext) (branch : ParserBranch) :
    frameState (setBranch E c branch) = frameState c := by
  rw [← @frameState_flushCbc E c]
  rfl

theorem frameState_forwardBranch (c : ParserContext) {op : CbcOpcode}
    (h : contextAllocation E op = 0) (hopen : (CbcInstr.forward op).opensContext = false) :
    frameState (forwardBranch E c op).2 = frameState c := by
  rw [← @frameState_flushCbc E c]
  simp [forwardBranch, frameState, contextCount, writeInstr, h, hopen, CbcInstr.isContextEnd]

theorem inert_lexerStep (r : Except ParserError (LexerToken × Nat)) : Inert (lexerStep r) := by
  unfold lexerStep
  split
  · exact inert_modify fun _ => rfl
  · exact inert_raiseError _

theorem inert_lexerNextToken : Inert (lexerNextToken E) := inert_get.bind fun _ => inert_lexerStep _

theorem inert_lexerScanIdentifier (b : Bool) : Inert (lexerScanIdentifier E b) :=
  inert_get.bind fun _ => inert_lexerStep _

theorem inert_lexerConstructRegexpObject : Inert (lexerConstructRegexpObject E) :=
  inert_get.bind fun _ => inert_lexerStep _

theorem inert_lexerExpectIdentifier : Inert (lexerExpectIdentifier E) :=
  inert_get.bind fun _ => inert_lexerStep _

theorem inert_parserParseExpression (options : ParseExprOptions) :
    Inert (parserParseExpression E options) := by
  refine ⟨fun c0 c hc => ⟨fun a c' h => ?_,fun f h => ?_⟩⟩ <;>
    unfold parserParseExpression at h <;> dsimp only at h <;> split at h <;> cases h <;>
    simpa [frameState_withExpr _ _ _ (flushForExpression_ne_contextEnd c)]

theorem inert_lexerConstructFunctionObject : Inert (lexerConstructFunctionObject E) := by
  refine ⟨fun c0 c hc => ⟨fun a c' h => ?_,fun f h => ?_⟩⟩ <;>
    unfold lexerConstructFunctionObject at h <;> dsimp only at h <;> split at h <;> cases h <;>
    simpa [frameState_withExpr _ _ _ (by simp : (flushCbc E c).lastCbcOpcode ≠ some .contextEnd)]

theorem inert_parserFlushCbc : Inert (parserFlushCbc E) := inert_modify frameState_flushCbc

theorem inert_parserEmitCbcLiteral {op : CbcOpcode} (h : op ≠ .contextEnd) (index : Nat) :
    Inert (parserEmitCbcLiteral E op index) :=
  inert_modify fun c => by
    rw [← @frameState_flushCbc E c]
    simp [frameState, contextCount, h]

theorem inert_parserEmitCbc {op : CbcOpcode} (h : op ≠ .contextEnd) : Inert (parserEmitCbc E op) :=
  inert_parserEmitCbcLiteral h 0

theorem inert_parserEmitCbcBackwardBranch (op : CbcOpcode) (offset : Nat) :
    Inert (parserEmitCbcBackwardBranch E op offset) :=
  inert_modify fun c => (@frameState_writeInstr E _ (.backward op _) rfl rfl).trans
    (@frameState_flushCbc E c)

theorem inert_parserSetBranchToCurrentPosition (branch : ParserBranch) :
    Inert (parserSetBranchToCurrentPosition E branch) :=
  inert_modify fun c => frameState_setBranch c branch

theorem inert_parserEmitCbcForwardBranch {op : CbcOpcode} (h : contextAllocation E op = 0)
    (hopen : (CbcInstr.forward op).opensContext = false) : Inert (parserEmitCbcForwardBranch E op) :=
  ⟨fun _ => triple_modifyGet _ fun c hc => (frameState_forwardBranch c h hopen).trans hc⟩

theorem inert_parserEmitCbcForwardBranchItem {op : CbcOpcode} (h : contextAllocation E op = 0)
    (hopen : (CbcInstr.forward op).opensContext = false) (next : Option Nat) :
    Inert (parserEmitCbcForwardBranchItem E op next) :=
  ⟨fun _ => triple_modifyGet _ fun c hc => (frameState_forwardBranch c h hopen).trans hc⟩

theorem inert_parserSetRange (range : LexerRange) : Inert (parserSetRange range) :=
  inert_modify fun _ => rfl

theorem inert_parserStackIteratorInit : Inert (parserStackIteratorInit E) :=
  inert_get.bind fun _ => inert_pure _

theorem inert_parserStackIteratorReadUint8 (it : Nat) : Inert (parserStackIteratorReadUint8 E it) :=
  inert_get.bind fun _ => inert_orUndefined _

theorem inert_parserStackIteratorRead (it : Nat) : Inert (parserStackIteratorRead E it) :=
  inert_get.bind fun _ => inert_orUndefined _

theorem inert_parserStatementLengthOf (type : UInt8) : Inert (parserStatementLengthOf E type) := by
  unfold parserStatementLengthOf
  split
  · exact inert_pure _
  · exact (inert_assert false).bind fun _ => inert_pure _

theorem inert_updateNode (p : Nat) (g : ParserBranchNode → ParserBranchNode) :
    Inert (updateNode p g) := by
  refine ⟨fun c0 c hc => ⟨fun a c' h => ?_,fun f h => ?_⟩⟩
  · exact (updateNode_ok h).2 ▸ hc
  · simp only [updateNode, bind_apply, get_apply] at h
    split at h
    · simp only [bind_apply, parserUndefined_apply] at h
      cases h
      exact hc
    · simp at h

theorem inert_markContinue (p : Nat) : Inert (markContinue p) := inert_updateNode p _

theorem inert_free (p : Nat) : Inert (modify fun ctx => free ctx p : ParserM Unit) :=
  inert_modify fun _ => rfl

theorem inert_setBreaksLoop (fuel : Nat) (list : Option Nat) : Inert (setBreaksLoop E fuel list) := by
  induction fuel generalizing list with
  | zero => cases list <;> first | exact inert_pure _ | exact inert_undefined
  | succ fuel ih =>
    cases list with
    | none => exact inert_pure _
    | some p =>
      refine inert_get.bind fun _ => (inert_orUndefined _).bind fun node => ?_
      have tail : Inert (modify (fun ctx => free ctx p) >>= fun _ => setBreaksLoop E fuel node.nextP) :=
        (inert_free p).bind fun _ => ih _
      exact inert_ite ((inert_parserSetBranchToCurrentPosition _).bind fun _ => tail)
        ((inert_pure _).bind fun _ => tail)

theorem inert_parserSetBreaksToCurrentPosition (list : Option Nat) :
    Inert (parserSetBreaksToCurrentPosition E list) :=
  inert_get.bind fun _ => inert_setBreaksLoop _ _

theorem inert_setContinuesLoop (fuel : Nat) (list : Option Nat) :
    Inert (setContinuesLoop E fuel list) := by
  induction fuel generalizing list with
  | zero => cases list <;> first | exact inert_pure _ | exact inert_undefined
  | succ fuel ih =>
    cases list with
    | none => exact inert_pure _
    | some p =>
      refine inert_get.bind fun _ => (inert_orUndefined _).bind fun node => ?_
      exact inert_ite ((inert_parserSetBranchToCurrentPosition _).bind fun _ => ih _)
        ((inert_pure _).bind fun _ => ih _)

theorem inert_parserSetContinuesToCurrentPosition (list : Option Nat) :
    Inert (parserSetContinuesToCurrentPosition E list) :=
  inert_get.bind fun _ => inert_setContinuesLoop _ _

end JerryParser
