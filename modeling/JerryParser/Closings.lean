import JerryParser.Openings

/-! The statement functions that close frames. Each takes the frame of its kind off the top of
the stack, with its records, and moves `last_statement` down to the frame below; a frame that
holds a runtime context gives back its stack on both depths and, for a with or a try, emits the
one `CBC_CONTEXT_END` that closes it. The if statement and the try statement may instead
change their frame in place, for the `else` or the next handler block. -/
namespace JerryParser

variable {E : ParserEnv} {fs : List ParserFrame}

open LexerTokenType

variable (E) in
def Boundary (c : ParserContext) : Prop := ∃ fs, FramesAt E c fs 0 0 0

theorem Boundary.designated {c : ParserContext} (h : Boundary E c) : Designated E.layout c :=
  have ⟨_,frames⟩ := h
  frames.designated

def withOpen (fs : List ParserFrame) : Bool := fs.any fun f => f.tag == parserStatementWith

@[simp] theorem withOpen_nil : withOpen [] = false := rfl

@[simp] theorem withOpen_cons (f : ParserFrame) (fs : List ParserFrame) :
    withOpen (f :: fs) = (f.tag == parserStatementWith || withOpen fs) := rfl

theorem withOpen_iff (fs : List ParserFrame) :
    withOpen fs = true ↔ ∃ f ∈ fs, f.tag = parserStatementWith := by
  simp [withOpen]

theorem ParserFrame.tag_beq_with (f : ParserFrame) :
    (f.tag == parserStatementWith) = (match f with | .withStatement _ => true | _ => false) := by
  cases f with
  | switchStatement hasDefault => cases hasDefault <;> rfl
  | _ => rfl

theorem withOpen_cons_of_ne {f : ParserFrame} (h : f.tag ≠ parserStatementWith)
    (fs : List ParserFrame) : withOpen (f :: fs) = withOpen fs := by
  rw [withOpen_cons, beq_false_of_ne h, Bool.false_or]

variable (E) in
def WithBoundary (w : Bool) (c : ParserContext) : Prop := ∃ fs, withOpen fs = w ∧ FramesAt E c fs 0 0 0

theorem WithBoundary.boundary {w : Bool} {c : ParserContext} (h : WithBoundary E w c) :
    Boundary E c :=
  have ⟨_,_,frames⟩ := h
  ⟨_,frames⟩

theorem FramesAt.withBoundary {c : ParserContext} (h : FramesAt E c fs 0 0 0) :
    WithBoundary E (withOpen fs) c :=
  ⟨_,rfl,h⟩

variable (E) in
def EndsOver (fs : List ParserFrame) (c : ParserContext) : Prop :=
  FramesAt E c fs 0 0 0 ∨
    ∃ f, f.tag ∈ [parserStatementElse, parserStatementTry] ∧ FramesAt E c (f :: fs) 0 0 0

theorem EndsOver.withBoundary {c : ParserContext} (h : EndsOver E fs c) :
    WithBoundary E (withOpen fs) c := by
  rcases h with h | ⟨f,tagged,h⟩
  · exact h.withBoundary
  · exact ⟨_,withOpen_cons_of_ne (ne_of_mem_of_not_mem tagged (by decide)) fs,h⟩

section

variable {α β : Type} {Q : ParserContext → Prop} {rs : List ParserRecord} {a b : UInt16}
  {n : Nat}

theorem Inert.boundary {m : ParserM α} (hm : Inert m) :
    Triple (Boundary E) m (fun _ => Boundary E) (Designated E.layout) :=
  triple_exists fun _ => hm.framesAt.weaken (fun _ h => h) (fun _ _ h => ⟨_,h⟩) fun _ h => h

theorem Inert.withBoundary {m : ParserM α} {w : Bool} (hm : Inert m) :
    Triple (WithBoundary E w) m (fun _ => WithBoundary E w) (Designated E.layout) :=
  fun c ⟨_,open',h⟩ => hm.framesAt.weaken (fun _ h => h) (fun _ _ h => ⟨_,open',h⟩) (fun _ h => h) c h

theorem triple_popRecordAs {r : ParserRecord} {cast : ParserRecord → Option α} {v : α}
    (hv : cast r = some v) {k : α → ParserM β} {R : β → ParserContext → Prop}
    (hk : Triple (OverFrames E · fs rs a b n) (k v) R Q) :
    Triple (OverFrames E · fs (r :: rs) a b n)
      (parserStackPop E >>= fun x => orUndefined (cast x) >>= k) R Q :=
  triple_popRecord.bind fun _ c ⟨hx,h⟩ => by
    subst hx
    simpa only [hv, orUndefined, pure_bind] using hk c h

theorem triple_popPlainTag {f : ParserFrame} (ha : f.allocation E = 0) (ho : f.opens = 0) :
    Triple (FramesAt E · (f :: fs) 0 0 0) (parserStackPopUint8 E)
      (fun _ c => OverFrames E c fs f.records 0 0 0) Q :=
  triple_popTag.weaken (fun _ h => h) (fun _ _ h => by simpa [ha, ho] using h) fun _ h => h

theorem triple_popBlock :
    Triple (FramesAt E · (.block :: fs) 0 0 0) (parserStackPopUint8 E)
      (fun _ c => OverFrames E c fs [] 0 0 0) Q :=
  triple_popPlainTag rfl rfl

theorem triple_popLabel {r : ParserLabelStatement} :
    Triple (FramesAt E · (.label r :: fs) 0 0 0) (parserStackPopUint8 E)
      (fun _ c => OverFrames E c fs [.labelStatement r] 0 0 0) Q :=
  triple_popPlainTag rfl rfl

theorem triple_popElse {r : ParserIfElseStatement} :
    Triple (FramesAt E · (.elseStatement r :: fs) 0 0 0) (parserStackPopUint8 E)
      (fun _ c => OverFrames E c fs [.ifElseStatement r] 0 0 0) Q :=
  triple_popPlainTag rfl rfl

theorem triple_writeTop (f f' : ParserFrame) {r r' : ParserRecord} {more : List ParserRecord}
    (split : f.records = r :: more) (split' : f'.records = r' :: more) (tag : f'.tag = f.tag)
    (size : r'.size E.layout = r.size E.layout) (alloc : f'.allocation E = f.allocation E)
    (ends : f'.endsContext = f.endsContext) {k : Nat} :
    Triple (fun c => FramesAt E c (f :: fs) a b k ∧ c.stack.iteratorInit E.layout = n)
      (parserStackIteratorWrite E (n - 1) r') (fun _ c => FramesAt E c (f' :: fs) a b k) Q :=
  triple_iteratorWrite fun _ ⟨h,height⟩ =>
    have ⟨s,write,_,h'⟩ := @FramesAt.iteratorWrite E _ [] fs a b k f f' [.uint8 f.tag]
      (more.map .record) r r' h (by simp [ParserFrame.items, split])
      (by simp [ParserFrame.items, split', tag]) size alloc ends
    ⟨s,by simpa [height, ParserStackItem.size] using write,h'⟩

end

theorem inert_restoreRange (range : LexerRange) (token : LexerToken) :
    Inert (restoreRange range token) :=
  (inert_parserSetRange range).bind fun _ => inert_modify fun _ => rfl

theorem inert_withEndWalk (fuel iterator : Nat) : Inert (withEndWalk E fuel iterator) := by
  induction fuel generalizing iterator with
  | zero => exact inert_undefined
  | succ fuel ih =>
    unfold withEndWalk
    repeat' first
      | with_reducible refine inert_ite ?_ ?_
      | with_reducible refine Inert.bind ?_ fun _ => ?_
      | with_reducible exact inert_pure _
      | exact inert_modify fun _ => rfl
      | with_reducible exact inert_parserStackIteratorReadUint8 _
      | with_reducible exact inert_parserStatementLengthOf _
      | exact ih _

section

variable {Q : ParserContext → Prop}

theorem triple_dropCacheFrames {d : ParserContext} {op : CbcOpcode} {a b : UInt16} {k : Nat}
    (cached : d.lastCbcOpcode = some op) (hop : op ≠ .contextEnd) :
    Triple (fun c => FramesAt E c fs a b k ∧ c = d) (setLastCbcOpcode none)
      (fun _ c => FramesAt E c fs a b k) Q :=
  triple_modify fun _ ⟨h,same⟩ => by
    subst same
    exact h.of_frameState (frameState_dropCache (by rw [cached]; simpa using hop))

end

theorem ifStatementEnd_frames (r : ParserIfElseStatement) :
    Triple (FramesAt E · (.ifStatement r :: fs) 0 0 0) (parserParseIfStatementEnd E)
      (fun _ => EndsOver E fs) (Designated E.layout) := by
  unfold parserParseIfStatementEnd
  refine inert_get.framesAt.bind fun _ => (inert_assert _).framesAt.bind fun _ =>
    inert_get.framesAt.bind fun _ => triple_ite (fun _ => ?_) fun _ => ?_
  · refine (triple_popPlainTag (by rfl) (by rfl)).bind fun _ => triple_popRecordAs rfl ?_
    exact triple_initLast.bind fun _ => (inert_parserSetBranchToCurrentPosition _).framesAt.bind
      fun _ => triple_pure _ fun _ h => .inl h
  · refine (@triple_changeLastUint8 E fs 0 0 0 (.ifStatement r) (.elseStatement r) _ rfl rfl
      rfl).bind fun _ => triple_iteratorInit_bind fun n => ?_
    refine (inert_parserStackIteratorRead _).framesAtHeight.bind fun _ =>
      (inert_orUndefined _).framesAtHeight.bind fun _ =>
      (inert_parserEmitCbcForwardBranch (by rfl) (by rfl)).framesAtHeight.bind fun branch =>
      (inert_parserSetBranchToCurrentPosition _).framesAtHeight.bind fun _ => ?_
    exact (triple_writeTop (.elseStatement r) (.elseStatement ⟨branch⟩) (by rfl) (by rfl) (by rfl) (by rfl) (by rfl) (by rfl)).bind fun _ =>
      inert_lexerNextToken.framesAt.bind fun _ =>
      triple_pure _ fun _ h => .inr ⟨.elseStatement ⟨branch⟩,List.mem_cons_self _ _,h⟩

theorem ifStatementEnd_triple (r : ParserIfElseStatement) :
    Triple (FramesAt E · (.ifStatement r :: fs) 0 0 0) (parserParseIfStatementEnd E)
      (fun _ => WithBoundary E (withOpen fs)) (Designated E.layout) :=
  (ifStatementEnd_frames r).weaken (fun _ h => h) (fun _ _ h => h.withBoundary) fun _ h => h

theorem doWhileStatementEnd_triple (loop : ParserLoopStatement) (r : ParserDoWhileStatement) :
    Triple (FramesAt E · (.doWhileStatement loop r :: fs) 0 0 0) (parserParseDoWhileStatementEnd E)
      (fun _ c => FramesAt E c fs 0 0 0) (Designated E.layout) := by
  unfold parserParseDoWhileStatementEnd
  dsimp only
  refine inert_get.framesAt.bind fun _ => (inert_assert _).framesAt.bind fun _ =>
    inert_get.framesAt.bind fun _ => triple_unless (fun _ h => h.designated) _ fun _ => ?_
  refine (triple_popPlainTag (by rfl) (by rfl)).bind fun _ => triple_popRecordAs rfl <|
    triple_popRecordAs rfl <| triple_initLast.bind fun _ =>
    (inert_parserSetContinuesToCurrentPosition _).framesAt.bind fun _ =>
    inert_parserParseEnclosedExpr.framesAt.bind fun _ => triple_get_bind fun d => ?_
  refine triple_ite (fun _ => ?_) fun cached => ?_
  · exact (inert_loopBackwardOpcode.framesAt.bind fun _ =>
      (inert_parserEmitCbcBackwardBranch _ _).framesAt.bind fun _ =>
      (inert_parserSetBreaksToCurrentPosition _).framesAt).weaken (fun _ h => h.1) (fun _ _ h => h)
      fun _ h => h
  · exact (triple_dropCacheFrames (by simpa using cached) (by decide)).bind fun _ =>
      (inert_parserSetBreaksToCurrentPosition _).framesAt

theorem whileStatementEnd_triple (loop : ParserLoopStatement) (r : ParserWhileStatement) :
    Triple (FramesAt E · (.whileStatement loop r :: fs) 0 0 0) (parserParseWhileStatementEnd E)
      (fun _ c => FramesAt E c fs 0 0 0) (Designated E.layout) := by
  unfold parserParseWhileStatementEnd
  dsimp only
  simp only [pure_bind]
  refine inert_get.framesAt.bind fun _ => (inert_assert _).framesAt.bind fun _ =>
    (triple_popPlainTag (by rfl) (by rfl)).bind fun _ => triple_popRecordAs rfl <|
    triple_popRecordAs rfl <| triple_initLast.bind fun _ => ?_
  repeat' first
    | with_reducible refine triple_ite (fun _ => ?_) fun _ => ?_
    | with_reducible exact triple_raiseError_bind (fun _ h => h.designated) _ _
    | with_reducible refine inert_get.framesAt.bind fun _ => ?_
    | with_reducible refine (inert_parserSetBranchToCurrentPosition _).framesAt.bind fun _ => ?_
    | with_reducible refine (inert_parserSetContinuesToCurrentPosition _).framesAt.bind fun _ => ?_
    | with_reducible refine (inert_parserSetBreaksToCurrentPosition _).framesAt.bind fun _ => ?_
    | with_reducible refine (inert_parserSetRange _).framesAt.bind fun _ => ?_
    | with_reducible refine inert_lexerNextToken.framesAt.bind fun _ => ?_
    | with_reducible refine (inert_parserParseExpression _).framesAt.bind fun _ => ?_
    | with_reducible refine inert_loopBackwardOpcode.framesAt.bind fun _ => ?_
    | with_reducible refine (inert_parserEmitCbcBackwardBranch _ _).framesAt.bind fun _ => ?_
    | with_reducible exact (inert_restoreRange _ _).framesAt

theorem forStatementEnd_triple (loop : ParserLoopStatement) (r : ParserForStatement) :
    Triple (FramesAt E · (.forStatement loop r :: fs) 0 0 0) (parserParseForStatementEnd E)
      (fun _ c => FramesAt E c fs 0 0 0) (Designated E.layout) := by
  unfold parserParseForStatementEnd
  dsimp only
  simp only [pure_bind]
  refine inert_get.framesAt.bind fun _ => (inert_assert _).framesAt.bind fun _ =>
    (triple_popPlainTag (by rfl) (by rfl)).bind fun _ => triple_popRecordAs rfl <|
    triple_popRecordAs rfl <| triple_initLast.bind fun _ => ?_
  repeat' first
    | with_reducible refine triple_ite (fun _ => ?_) fun _ => ?_
    | with_reducible exact triple_raiseError_bind (fun _ h => h.designated) _ _
    | with_reducible refine inert_get.framesAt.bind fun _ => ?_
    | with_reducible refine (inert_parserSetBranchToCurrentPosition _).framesAt.bind fun _ => ?_
    | with_reducible refine (inert_parserSetContinuesToCurrentPosition _).framesAt.bind fun _ => ?_
    | with_reducible refine (inert_parserSetBreaksToCurrentPosition _).framesAt.bind fun _ => ?_
    | with_reducible refine (inert_parserSetRange _).framesAt.bind fun _ => ?_
    | with_reducible refine inert_lexerNextToken.framesAt.bind fun _ => ?_
    | with_reducible refine (inert_parserParseExpression _).framesAt.bind fun _ => ?_
    | with_reducible refine inert_loopBackwardOpcode.framesAt.bind fun _ => ?_
    | with_reducible refine (inert_parserEmitCbcBackwardBranch _ _).framesAt.bind fun _ => ?_
    | with_reducible exact (inert_restoreRange _ _).framesAt

theorem forInStatementEnd_triple (loop : ParserLoopStatement) (r : ParserForInStatement) :
    Triple (FramesAt E · (.forInStatement loop r :: fs) 0 0 0) (parserParseForInStatementEnd E)
      (fun _ c => FramesAt E c fs 0 0 0) (Designated E.layout) := by
  unfold parserParseForInStatementEnd
  refine triple_popTag.bind fun _ => triple_popRecordAs rfl <| triple_popRecordAs rfl <|
    triple_initLast.bind fun _ => (inert_parserSetContinuesToCurrentPosition _).framesAt.bind
    fun _ => inert_parserFlushCbc.framesAt.bind fun _ => (triple_subDepths (by intro; rfl)).bind
    fun _ => ?_
  refine ((inert_parserEmitCbcBackwardBranch _ _).framesAt.bind fun _ =>
    (inert_parserSetBreaksToCurrentPosition _).framesAt.bind fun _ =>
    (inert_parserSetBranchToCurrentPosition _).framesAt).weaken (fun _ h => h)
    (fun _ _ h => h.congr ?_ ?_ rfl) fun _ h => h <;>
  simp [ParserFrame.allocation]

theorem withStatementEnd_triple (r : ParserWithStatement) :
    Triple (FramesAt E · (.withStatement r :: fs) 0 0 0) (parserParseWithStatementEnd E)
      (fun _ c => FramesAt E c fs 0 0 0) (Designated E.layout) := by
  unfold parserParseWithStatementEnd
  refine inert_get.framesAt.bind fun _ => (inert_assert _).framesAt.bind fun _ =>
    triple_popTag.bind fun _ => triple_popRecordAs rfl <| triple_initLast.bind fun _ =>
    inert_parserFlushCbc.framesAt.bind fun _ => (triple_subDepths (by intro; rfl)).bind fun _ => ?_
  refine (triple_contextEnd.weaken (fun _ h => h.congr ?_ ?_ rfl) (fun _ _ h => h) fun _ h => h).bind
    fun _ => (inert_parserSetBranchToCurrentPosition _).framesAt.bind fun _ =>
    inert_parserStackIteratorInit.framesAt.bind fun _ => (inert_withEndWalk _ _).framesAt
  all_goals simp [ParserFrame.allocation]

theorem switchStatementEnd_triple (hasDefault : Bool) (loop : ParserLoopStatement)
    (r : ParserSwitchStatement) :
    Triple (FramesAt E · (.switchStatement hasDefault loop r :: fs) 0 0 0)
      (parserParseSwitchStatementEnd E) (fun _ c => FramesAt E c fs 0 0 0) (Designated E.layout) := by
  unfold parserParseSwitchStatementEnd
  simp only [pure_bind]
  refine inert_get.framesAt.bind fun _ => (triple_popPlainTag (by rfl) (by rfl)).bind fun _ =>
    triple_popRecordAs rfl <| triple_popRecordAs rfl <| triple_initLast.bind fun _ =>
    (inert_assert _).framesAt.bind fun _ => ?_
  repeat' first
    | with_reducible refine triple_ite (fun _ => ?_) fun _ => ?_
    | with_reducible refine (inert_parserSetBranchToCurrentPosition _).framesAt.bind fun _ => ?_
    | with_reducible refine (inert_parserSetBreaksToCurrentPosition _).framesAt.bind fun _ => ?_
    | with_reducible exact inert_lexerNextToken.framesAt

theorem triple_readTop {f : ParserFrame} {r : ParserRecord} {more : List ParserRecord}
    {a b : UInt16} {k n : Nat} {Q : ParserContext → Prop} (split : f.records = r :: more) :
    Triple (fun c => FramesAt E c (f :: fs) a b k ∧ c.stack.iteratorInit E.layout = n)
      (parserStackIteratorRead E (n - 1))
      (fun x c => x = r ∧ FramesAt E c (f :: fs) a b k ∧ c.stack.iteratorInit E.layout = n) Q :=
  fun c ⟨h,height⟩ => by
    obtain ⟨below,items⟩ := h.framed.items
    have read := @StackAt.readRecord E c [] below f fs r more (by simpa [StackAt] using items) split
    rw [show frameHeight E.layout (f :: fs) below = n by
      rw [← height, ParserStack.iteratorInit, items]; rfl] at read
    rw [read]
    exact ⟨fun _ _ ok => by cases ok; exact ⟨rfl,h,height⟩,fun _ err => nomatch err⟩

theorem triple_writeTry {r r' : ParserTryStatement} {n : Nat} {Q : ParserContext → Prop} :
    Triple (fun c => FramesAt E c (.tryStatement r :: fs) 0 0 0 ∧ c.stack.iteratorInit E.layout = n)
      (parserStackIteratorWrite E (n - 1) (.tryStatement r')) (fun _ => EndsOver E fs) Q :=
  (triple_writeTop (.tryStatement r) (.tryStatement r') rfl rfl rfl rfl rfl rfl).weaken
    (fun _ h => h) (fun _ _ h => .inr ⟨_,by simp [ParserFrame.tag],h⟩) fun _ h => h

theorem tryContextEnd_triple (r : ParserTryStatement) :
    Triple (FramesAt E · (.tryStatement r :: fs) 0 0 0) (tryContextEnd E)
      (fun _ c => Closing E c (.tryStatement r) fs 0 0 0) (Designated E.layout) := by
  unfold tryContextEnd
  refine (inert_parserFlushCbc.closing.weaken (fun _ h => h.closing) (fun _ _ h => h)
    fun _ h => h).bind fun _ => (triple_closingSubDepths (by intro; rfl)).bind fun _ => ?_
  refine triple_closingContextEnd.weaken (fun _ h => ?_) (fun _ _ h => h) fun _ h => h
  obtain ⟨framed,context,depth,ends⟩ := h
  exact ⟨framed,by simpa [ParserFrame.allocation] using context,
    by simpa [ParserFrame.allocation] using depth,by simpa [ParserFrame.opens] using ends⟩

theorem tryFinish_triple (r : ParserTryStatement) :
    Triple (Closing E · (.tryStatement r) fs 0 0 0)
      (parserStackPopBytes E (E.layout.tryStatement + 1) >>= fun _ => initLastStatement E >>=
        fun _ => pure PUnit.unit)
      (fun _ => EndsOver E fs) (Designated E.layout) :=
  (triple_popFrameBytes (by simp [ParserFrame.items, ParserFrame.records, ParserStackItem.size,
    ParserRecord.size, Nat.add_comm])).bind fun _ => triple_initLast.bind fun _ =>
    triple_pure _ fun _ h => .inl h

theorem tryStatementEnd_frames (r : ParserTryStatement) :
    Triple (FramesAt E · (.tryStatement r :: fs) 0 0 0) (parserParseTryStatementEnd E)
      (fun _ => EndsOver E fs) (Designated E.layout) := by
  unfold parserParseTryStatementEnd
  dsimp only
  simp only [pure_bind]
  refine inert_get.framesAt.bind fun _ => (inert_assert _).framesAt.bind fun _ =>
    triple_iteratorInit_bind fun n => triple_bind_eq (triple_readTop rfl) ?_
  simp only [ParserRecord.asTry, orUndefined, pure_bind]
  refine inert_lexerNextToken.framesAtHeight.bind fun _ => ?_
  have setBranch := @inert_parserSetBranchToCurrentPosition E
  have emitLiteral := @inert_parserEmitCbcLiteral E .assignIdent (by decide)
  have catchBranch := @inert_parserEmitCbcForwardBranch E .extCatch rfl rfl
  have finallyBranch := @inert_parserEmitCbcForwardBranch E .extFinally rfl rfl
  obtain ⟨type,branch⟩ := r
  cases type <;> simp only [beq_self_eq_true, beq_iff_eq, reduceCtorEq, ↓reduceIte]
  all_goals
    repeat' first
      | with_reducible refine triple_ite (fun _ => ?_) fun _ => ?_
      | with_reducible exact triple_raiseError_bind (fun _ h => h.1.designated) _ _
      | with_reducible exact triple_writeTry
      | with_reducible refine inert_get.framesAtHeight.bind fun _ => ?_
      | with_reducible refine (inert_assert _).framesAtHeight.bind fun _ => ?_
      | with_reducible refine inert_lexerNextToken.framesAtHeight.bind fun _ => ?_
      | with_reducible refine inert_lexerExpectIdentifier.framesAtHeight.bind fun _ => ?_
      | with_reducible refine inert_parserFlushCbc.framesAtHeight.bind fun _ => ?_
      | with_reducible refine (setBranch _).framesAtHeight.bind fun _ => ?_
      | with_reducible refine (emitLiteral _).framesAtHeight.bind fun _ => ?_
      | with_reducible refine catchBranch.framesAtHeight.bind fun _ => ?_
      | with_reducible refine finallyBranch.framesAtHeight.bind fun _ => ?_
  all_goals
    refine ((tryContextEnd_triple _).weaken (fun _ h => h.1) (fun _ _ h => h) fun _ h => h).bind
      fun _ => ?_
    first
      | exact inert_parserFlushCbc.closing.bind fun _ => tryFinish_triple _
      | exact (setBranch _).closing.bind fun _ => tryFinish_triple _

theorem tryStatementEnd_triple (r : ParserTryStatement) :
    Triple (FramesAt E · (.tryStatement r :: fs) 0 0 0) (parserParseTryStatementEnd E)
      (fun _ => WithBoundary E (withOpen fs)) (Designated E.layout) :=
  (tryStatementEnd_frames r).weaken (fun _ h => h) (fun _ _ h => h.withBoundary) fun _ h => h

def Closed (c : ParserContext) : Prop :=
  c.lastStatement = none ∧ c.stackDepth = 0 ∧ c.contextStackDepth = 0

variable (E) in
@[reducible] def PassEnd : StatementEnd → ParserContext → Prop
  | .next => Boundary E
  | .returned => Closed

theorem triple_clearLast {Q : ParserContext → Prop} :
    Triple (fun c => c.stackDepth = 0 ∧ c.contextStackDepth = 0)
      (modify fun ctx => { ctx with lastStatement := none }) (fun _ => Closed) Q :=
  triple_modify fun _ h => ⟨rfl,h⟩

theorem FramesAt.depths_nil {c : ParserContext} (h : FramesAt E c [] 0 0 0) :
    c.stackDepth = 0 ∧ c.contextStackDepth = 0 :=
  ⟨h.accounting.depth,h.accounting.context⟩

theorem triple_popStart {Q : ParserContext → Prop} :
    Triple (FramesAt E · [] 0 0 0) (parserStackPopUint8 E)
      (fun _ c => c.stackDepth = 0 ∧ c.contextStackDepth = 0) Q := fun c h => by
  obtain ⟨below,items⟩ := h.framed.items
  rw [parserStackPopUint8_of (by simpa using items)]
  exact ⟨fun _ _ ok => by cases ok; exact h.depths_nil,fun _ err => nomatch err⟩

theorem statementTerminator_triple :
    Triple (Boundary E) (parserStatementTerminator E) (PassEnd E) (Designated E.layout) := by
  unfold parserStatementTerminator
  refine triple_get_at fun d ⟨fs,h⟩ => h.at ?_
  rw [h.framed.top]
  dsimp only
  simp only [pure_bind]
  rcases fs with _ | ⟨_ | _ | _ | _ | ⟨_ | _,_,_⟩ | _ | _ | _ | _ | _ | _,fs⟩ <;>
    simp +decide only [↓reduceIte, topTag, ParserFrame.tag]
  all_goals
    repeat' first
      | with_reducible refine triple_ite (fun _ => ?_) fun _ => ?_
      | with_reducible exact triple_raiseError_bind (fun _ h => h.designated) _ _
      | with_reducible refine inert_lexerNextToken.framesAt.bind fun _ => ?_
      | exact triple_pure _ fun _ h => ⟨_,h⟩
      | with_reducible refine (switchStatementEnd_triple _ _ _).bind fun _ => ?_
      | with_reducible exact (tryStatementEnd_triple _).bind fun _ => triple_pure _ fun _ h => h.boundary
      | with_reducible refine triple_popBlock.bind fun _ => triple_initLast.bind fun _ => ?_
  refine triple_popStart.bind fun _ => triple_clearLast.bind fun _ =>
    triple_get_bind fun _ => triple_assert_bind (fun _ h => .inl h.1.1) _ fun _ =>
    triple_get_bind fun _ => triple_assert_bind (fun _ h => .inl h.1.1.1) _ fun _ =>
    triple_pure _ fun _ h => h.1.1

theorem terminatorLoop_succ (fuel : Nat) (b : Bool) :
    terminatorLoop E (fuel + 1) b = terminatorStep E b >>= fun s => match s with
      | .inl r => pure r
      | .inr b' => terminatorLoop E fuel b' := by
  funext c
  simp only [terminatorLoop, terminatorStep, terminatorClose, bind_assoc, pure_bind, ite_bind]

variable (E) in
@[reducible] def StepEnd : StatementEnd ⊕ Bool → ParserContext → Prop
  | .inl r => PassEnd E r
  | .inr _ => Boundary E

theorem terminatorClose_triple :
    Triple (Boundary E) (terminatorClose E) (StepEnd E) (Designated E.layout) := by
  unfold terminatorClose
  refine triple_get_at fun d ⟨fs,h⟩ => h.at ?_
  rw [h.framed.top]
  dsimp only
  rcases fs with _ | ⟨_ | _ | _ | _ | ⟨_ | _,_,_⟩ | _ | _ | _ | _ | _ | _,fs⟩ <;>
    simp +decide only [↓reduceIte, topTag, ParserFrame.tag]
  all_goals
    repeat' first
      | with_reducible refine triple_ite (fun _ => ?_) fun _ => ?_
      | exact triple_pure _ fun _ h => ⟨_,h⟩
      | exact triple_pure _ fun _ h => h
      | refine triple_popLabel.bind fun _ => triple_popRecordAs (by rfl) ?_
      | refine triple_popElse.bind fun _ => triple_popRecordAs (by rfl) ?_
      | with_reducible refine triple_initLast.bind fun _ => ?_
      | with_reducible refine (inert_parserSetBreaksToCurrentPosition _).framesAt.bind fun _ => ?_
      | with_reducible refine (inert_parserSetBranchToCurrentPosition _).framesAt.bind fun _ => ?_
      | with_reducible refine ((ifStatementEnd_triple _).weaken (fun _ h => h)
          (fun _ _ h => h.boundary) fun _ h => h).bind fun _ => ?_
      | with_reducible refine (doWhileStatementEnd_triple _ _).bind fun _ => ?_
      | with_reducible refine (whileStatementEnd_triple _ _).bind fun _ => ?_
      | with_reducible refine (forStatementEnd_triple _ _).bind fun _ => ?_
      | with_reducible refine (forInStatementEnd_triple _ _).bind fun _ => ?_
      | with_reducible refine (withStatementEnd_triple _).bind fun _ => ?_

theorem terminatorStep_true : terminatorStep E true = parserStatementTerminator E >>= fun r =>
    if r == .returned then pure (.inl .returned) else terminatorClose E := by
  funext c
  simp only [terminatorStep, ↓reduceIte, bind_assoc, pure_bind]

theorem terminatorStep_false : terminatorStep E false = terminatorClose E := by
  simp [terminatorStep]

theorem terminatorStep_triple (b : Bool) :
    Triple (Boundary E) (terminatorStep E b) (StepEnd E) (Designated E.layout) := by
  cases b
  · exact terminatorStep_false ▸ terminatorClose_triple
  refine terminatorStep_true ▸ statementTerminator_triple.bind fun r => ?_
  cases r
  · exact triple_ite (fun h => absurd h (by decide)) fun _ => terminatorClose_triple
  · exact triple_ite (fun _ => triple_pure _ fun _ h => h) fun h => (h rfl).elim

theorem terminatorLoop_triple (fuel : Nat) (statementTerminatorRequired : Bool) :
    Triple (Boundary E) (terminatorLoop E fuel statementTerminatorRequired) (PassEnd E)
      (Designated E.layout) := by
  induction fuel generalizing statementTerminatorRequired with
  | zero => exact triple_outOfFuel fun _ h => h.designated
  | succ fuel ih =>
    rw [terminatorLoop_succ]
    refine (terminatorStep_triple _).bind fun s => ?_
    cases s with
    | inl r => exact triple_pure _ fun _ h => h
    | inr b => exact ih b

theorem parserEndStatement_triple (fuel : Nat) :
    Triple (Boundary E) (parserEndStatement E fuel) (PassEnd E) (Designated E.layout) :=
  inert_parserFlushCbc.boundary.bind fun _ => terminatorLoop_triple fuel true

end JerryParser
