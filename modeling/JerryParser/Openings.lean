import JerryParser.Updates

/-! The statement functions that open a frame, and the helpers they share. The helpers leave
the frames alone; each opening function pushes one frame over the frames it started from and
makes its accounting: the depths grow by the contexts the frame holds, and the opened count by
the with or try context it creates. -/
namespace JerryParser

variable {E : ParserEnv}

open LexerTokenType

theorem frameState_dropCache {c : ParserContext} (h : c.lastCbcOpcode ≠ some .contextEnd) :
    frameState { c with lastCbcOpcode := none } = frameState c := by
  simp [frameState, contextCount, h]

theorem inert_parserParseEnclosedExpr : Inert (parserParseEnclosedExpr E) := by
  unfold parserParseEnclosedExpr
  dsimp only
  repeat' first
    | with_reducible refine inert_ite ?_ ?_
    | with_reducible refine Inert.bind ?_ fun _ => ?_
    | with_reducible exact inert_pure _
    | with_reducible exact inert_get
    | with_reducible exact inert_raiseError _
    | with_reducible exact inert_lexerNextToken
    | with_reducible exact inert_parserParseExpression _

section

variable {α : Type}

theorem inert_get_bind {k : ParserContext → ParserM α}
    (hk : ∀ d, Triple (fun c => frameState c = frameState d ∧ c = d) (k d)
      (fun _ c => frameState c = frameState d) (fun c => frameState c = frameState d)) :
    Inert (get >>= k) :=
  ⟨fun _ c hc => have run := hk c c ⟨rfl,rfl⟩
    ⟨fun a c' ok => (run.1 a c' ok).trans hc,fun f err => (run.2 f err).trans hc⟩⟩

theorem Inert.at {m : ParserM α} {d : ParserContext} {P : ParserContext → Prop} (hm : Inert m) :
    Triple (fun c => frameState c = frameState d ∧ P c) m (fun _ c => frameState c = frameState d)
      (fun c => frameState c = frameState d) :=
  (hm.triple d).weaken (fun _ h => h.1) (fun _ _ h => h) fun _ h => h

theorem triple_dropCache {d : ParserContext} {op : CbcOpcode} {Q : ParserContext → Prop}
    (cached : d.lastCbcOpcode = some op) (hop : op ≠ .contextEnd) :
    Triple (fun c => frameState c = frameState d ∧ c = d) (setLastCbcOpcode none)
      (fun _ c => frameState c = frameState d) Q :=
  triple_modify fun _ ⟨_,same⟩ => by
    subst same
    exact frameState_dropCache (by rw [cached]; simpa using hop)

end

theorem inert_labelWalk (labelLiteral : LexerLitLocation) (fuel iterator : Nat) :
    Inert (labelWalk E labelLiteral fuel iterator) := by
  induction fuel generalizing iterator with
  | zero => exact inert_undefined
  | succ fuel ih =>
    unfold labelWalk
    repeat' first
      | with_reducible refine inert_ite ?_ ?_
      | with_reducible refine Inert.bind ?_ fun _ => ?_
      | with_reducible exact inert_pure _
      | with_reducible exact inert_get
      | with_reducible exact inert_raiseError _
      | with_reducible exact inert_orUndefined _
      | with_reducible exact inert_parserStackIteratorReadUint8 _
      | with_reducible exact inert_parserStackIteratorRead _
      | with_reducible exact inert_parserStatementLengthOf _
      | exact ih _

theorem inert_dropCached {α : Type} {op : CbcOpcode} (hop : op ≠ .contextEnd) {k : Unit → ParserM α}
    (hk : Inert (k ())) :
    Inert (get >>= fun ctx => parserAssert (ctx.lastCbcOpcode == some op) >>= fun _ =>
      setLastCbcOpcode none >>= k) :=
  inert_get_bind fun d => triple_assert_bind (fun _ h => h.1) _ fun cached =>
    (triple_dropCache (by simpa using cached) hop).bind fun _ => hk.triple d

theorem inert_parserParseVarStatement (fuel : Nat) : Inert (parserParseVarStatement E fuel) := by
  induction fuel with
  | zero => exact inert_outOfFuel
  | succ fuel ih =>
    unfold parserParseVarStatement
    dsimp only
    repeat' first
      | with_reducible refine inert_ite ?_ ?_
      | (with_reducible refine inert_dropCached ?_ ?_); decide
      | with_reducible refine Inert.bind ?_ fun _ => ?_
      | with_reducible exact inert_pure _
      | with_reducible exact inert_get
      | with_reducible exact inert_assert _
      | with_reducible exact inert_lexerExpectIdentifier
      | with_reducible exact inert_lexerNextToken
      | with_reducible exact inert_parserParseExpression _
      | (with_reducible refine inert_parserEmitCbcLiteral ?_ _); decide
      | exact ih

theorem inert_loopBackwardOpcode : Inert loopBackwardOpcode := by
  unfold loopBackwardOpcode
  dsimp only
  simp only [pure_bind]
  refine inert_get_bind fun d => ?_
  repeat' first
    | with_reducible refine triple_ite (fun _ => ?_) fun _ => ?_
    | with_reducible exact triple_pure _ fun _ h => h.1
    | (rename_i cached
       exact (triple_dropCache (beq_iff_eq.mp cached) (by decide)).bind fun _ =>
         triple_pure _ fun _ h => h)

theorem inert_parserParseForInTarget : Inert (parserParseForInTarget E) := by
  have assign : ∀ {op : CbcOpcode} (arg : Nat), op ≠ .contextEnd → Inert (parserEmitCbc E
      .extForInGetNext >>= fun _ => parserFlushCbc E >>= fun _ =>
      modify fun ctx => { ctx with lastCbc := arg, lastCbcOpcode := some op }) := fun _ hop =>
    (inert_parserEmitCbc (by decide)).bind fun _ => inert_modify fun c => by
      rw [← @frameState_flushCbc E c]
      simp [frameState, contextCount, hop]
  unfold parserParseForInTarget
  dsimp only
  simp only [pure_bind]
  refine inert_get.bind fun _ => inert_ite ?_ ?_
  · repeat' first
      | with_reducible refine inert_ite ?_ ?_
      | with_reducible refine Inert.bind ?_ fun _ => ?_
      | with_reducible exact inert_get
      | with_reducible exact inert_assert _
      | with_reducible exact inert_lexerExpectIdentifier
      | with_reducible exact inert_lexerNextToken
      | with_reducible exact inert_parserParseExpression _
      | with_reducible exact inert_parserSetBranchToCurrentPosition _
      | (with_reducible refine inert_parserEmitCbcForwardBranch ?_ ?_) <;> rfl
      | (with_reducible refine inert_parserEmitCbcLiteral ?_ _); decide
      | (with_reducible refine inert_parserEmitCbc ?_); decide
  · refine (inert_parserParseExpression _).bind fun _ => inert_get.bind fun _ =>
      inert_get_bind fun d => ?_
    repeat' first
      | with_reducible refine triple_ite (fun _ => ?_) fun _ => ?_
      | (rename_i cached
         exact (triple_dropCache (beq_iff_eq.mp cached) (by decide)).bind fun _ =>
           (assign _ (by decide)).triple d)
      | exact (Inert.at ((inert_parserEmitCbc (by decide)).bind fun _ => assign _ (by decide)))

variable {fs : List ParserFrame}

theorem triple_pushFrameTag {f : ParserFrame} {Q : ParserContext → Prop} {a b : UInt16} {k : Nat}
    (ha : a = f.allocation E) (hb : b = f.allocation E) (hk : k = f.opens) :
    Triple (OverFrames E · fs f.records a b k) (parserStackPushUint8 f.tag)
      (fun _ c => OverFrames E c (f :: fs) [] 0 0 0) Q := by
  subst ha hb hk
  simpa using @triple_pushTag E fs 0 0 0 Q f

theorem triple_pushFrame {f : ParserFrame} {tags : List UInt8} {Q : ParserContext → Prop}
    {a b : UInt16} {k : Nat} (ha : a = f.allocation E) (hb : b = f.allocation E)
    (hk : k = f.opens) (tagged : f.tag ∈ tags) :
    Triple (OverFrames E · fs f.records a b k)
      (parserStackPushUint8 f.tag >>= fun _ => initLastStatement E)
      (fun _ c => ∃ f, f.tag ∈ tags ∧ FramesAt E c (f :: fs) 0 0 0) Q :=
  (triple_pushFrameTag ha hb hk).bind fun _ =>
    triple_initLast.weaken (fun _ h => h) (fun _ _ h => ⟨_,tagged,h⟩) fun _ h => h

theorem ifStatementStart_triple :
    Triple (FramesAt E · fs 0 0 0) (parserParseIfStatementStart E)
      (fun _ c => ∃ f, f.tag ∈ [parserStatementIf] ∧ FramesAt E c (f :: fs) 0 0 0) (Designated E.layout) := by
  unfold parserParseIfStatementStart
  refine inert_parserParseEnclosedExpr.framesAt.bind fun _ =>
    (inert_parserEmitCbcForwardBranch (by rfl) (by rfl)).framesAt.bind fun branch => ?_
  exact ((triple_pushRecord _).weaken (fun _ h => h.over) (fun _ _ h => h) fun _ h => h).bind
    fun _ => @triple_pushFrame E fs (.ifStatement ⟨branch⟩) _ _ _ _ _ rfl rfl rfl
      (List.mem_singleton_self _)

theorem withStatementStart_triple :
    Triple (FramesAt E · fs 0 0 0) (parserParseWithStatementStart E)
      (fun _ c => ∃ f, f.tag ∈ [parserStatementWith] ∧ FramesAt E c (f :: fs) 0 0 0) (Designated E.layout) := by
  unfold parserParseWithStatementStart
  dsimp only
  refine inert_get.framesAt.bind fun _ => triple_unless (fun _ h => h.designated) _ fun _ => ?_
  refine inert_parserParseEnclosedExpr.framesAt.bind fun _ =>
    (triple_addContext (by intro; rfl)).bind fun _ => (triple_forwardBranch _).bind fun branch => ?_
  exact ((triple_pushRecord _).weaken (fun _ h => h.over) (fun _ _ h => h) fun _ h => h).bind
    fun _ => @triple_pushFrame E fs (.withStatement ⟨branch⟩) _ _ _ _ _ (zero_add _)
      (by simp [contextAllocation, ParserFrame.allocation]) rfl (List.mem_singleton_self _)

theorem triple_pushFrameNext {f : ParserFrame} {tags : List UInt8} {a b : UInt16} {k : Nat}
    (ha : a = f.allocation E) (hb : b = f.allocation E) (hk : k = f.opens)
    (tagged : f.tag ∈ tags) :
    Triple (OverFrames E · fs f.records a b k)
      (parserStackPushUint8 f.tag >>= fun _ => initLastStatement E >>= fun _ => lexerNextToken E)
      (fun _ c => ∃ f, f.tag ∈ tags ∧ FramesAt E c (f :: fs) 0 0 0) (Designated E.layout) :=
  (triple_pushFrameTag ha hb hk).bind fun _ => triple_initLast.bind fun _ =>
    inert_lexerNextToken.framesAt.weaken (fun _ h => h) (fun _ _ h => ⟨_,tagged,h⟩) fun _ h => h

theorem tryStatementStart_triple :
    Triple (FramesAt E · fs 0 0 0) (parserParseTryStatementStart E)
      (fun _ c => ∃ f, f.tag ∈ [parserStatementTry] ∧ FramesAt E c (f :: fs) 0 0 0) (Designated E.layout) := by
  unfold parserParseTryStatementStart
  dsimp only
  refine inert_lexerNextToken.framesAt.bind fun _ => inert_get.framesAt.bind fun _ =>
    triple_unless (fun _ h => h.designated) _ fun _ => ?_
  refine (triple_addContext (by intro; rfl)).bind fun _ => (triple_forwardBranch _).bind fun branch => ?_
  exact ((triple_pushRecord _).weaken (fun _ h => h.over) (fun _ _ h => h) fun _ h => h).bind
    fun _ => @triple_pushFrameNext E fs (.tryStatement ⟨.tryBlock,branch⟩) _ _ _ _ (zero_add _)
      (by simp [contextAllocation, ParserFrame.allocation]) rfl (List.mem_singleton_self _)

theorem doStatementStart_triple :
    Triple (FramesAt E · fs 0 0 0) (parserParseDoStatementStart E)
      (fun _ c => ∃ f, f.tag ∈ [parserStatementDoWhile] ∧ FramesAt E c (f :: fs) 0 0 0) (Designated E.layout) := by
  unfold parserParseDoStatementStart
  refine inert_get.framesAt.bind fun _ => (inert_assert _).framesAt.bind fun _ =>
    inert_get.framesAt.bind fun ctx => ?_
  refine ((triple_pushRecord _).weaken (fun _ h => h.over) (fun _ _ h => h) fun _ h => h).bind
    fun _ => (triple_pushRecord _).bind fun _ => ?_
  exact @triple_pushFrameNext E fs (.doWhileStatement ⟨none⟩ ⟨ctx.byteCodeSize⟩) _ _ _ _ rfl rfl rfl
    (List.mem_singleton_self _)

theorem whileStatementStart_triple (fuel : Nat) :
    Triple (FramesAt E · fs 0 0 0) (parserParseWhileStatementStart E fuel)
      (fun _ c => ∃ f, f.tag ∈ [parserStatementWhile] ∧ FramesAt E c (f :: fs) 0 0 0) (Designated E.layout) := by
  unfold parserParseWhileStatementStart
  dsimp only
  refine inert_get.framesAt.bind fun _ => (inert_assert _).framesAt.bind fun _ =>
    inert_lexerNextToken.framesAt.bind fun _ => inert_get.framesAt.bind fun _ =>
    triple_unless (fun _ h => h.designated) _ fun _ => ?_
  refine (inert_parserEmitCbcForwardBranch (by rfl) (by rfl)).framesAt.bind fun branch =>
    inert_get.framesAt.bind fun _ => (inert_assert _).framesAt.bind fun _ =>
    inert_get.framesAt.bind fun ctx => (FramesAt.scan fuel _).bind fun range =>
    inert_lexerNextToken.framesAt.bind fun _ => ?_
  refine ((triple_pushRecord _).weaken (fun _ h => h.over) (fun _ _ h => h) fun _ h => h).bind
    fun _ => (triple_pushRecord _).bind fun _ => ?_
  exact @triple_pushFrame E fs (.whileStatement ⟨none⟩ ⟨branch,range,ctx.byteCodeSize⟩) _ _ _ _ _
    rfl rfl rfl (List.mem_singleton_self _)

theorem forStatementStart_triple (fuel : Nat) :
    Triple (FramesAt E · fs 0 0 0) (parserParseForStatementStart E fuel)
      (fun _ c => ∃ f, f.tag ∈ [parserStatementFor, parserStatementForIn] ∧ FramesAt E c (f :: fs) 0 0 0) (Designated E.layout) := by
  unfold parserParseForStatementStart
  dsimp only
  refine inert_get.framesAt.bind fun _ => (inert_assert _).framesAt.bind fun _ =>
    inert_lexerNextToken.framesAt.bind fun _ => inert_get.framesAt.bind fun _ =>
    triple_unless (fun _ h => h.designated) _ fun _ => (FramesAt.scan fuel _).bind fun startRange =>
    inert_get.framesAt.bind fun _ => triple_ite (fun _ => ?_) fun _ => ?_
  · refine inert_lexerNextToken.framesAt.bind fun _ => (inert_parserParseExpression _).framesAt.bind
      fun _ => inert_get.framesAt.bind fun _ => triple_unless (fun _ h => h.designated) _ fun _ => ?_
    refine (triple_addContext (by intro; rfl)).bind fun _ => (triple_forwardBranch _).bind
      fun branch => ?_
    repeat' first
      | with_reducible refine triple_unless (fun _ h => h.designated) _ fun _ => ?_
      | with_reducible refine inert_get.framesAt.bind fun _ => ?_
      | with_reducible refine (inert_assert _).framesAt.bind fun _ => ?_
      | with_reducible refine (inert_parserSetRange _).framesAt.bind fun _ => ?_
      | with_reducible refine inert_lexerNextToken.framesAt.bind fun _ => ?_
      | with_reducible refine inert_parserParseForInTarget.framesAt.bind fun _ => ?_
      | with_reducible refine inert_parserFlushCbc.framesAt.bind fun _ => ?_
    refine ((triple_pushRecord _).weaken (fun _ h => h.over) (fun _ _ h => h) fun _ h => h).bind
      fun _ => (triple_pushRecord _).bind fun _ => ?_
    exact @triple_pushFrame E fs (.forInStatement ⟨none⟩ ⟨branch,_⟩) _ _ _ _ _ (zero_add _)
      (by simp [contextAllocation, ParserFrame.allocation]) rfl (by simp [ParserFrame.tag])
  · dsimp only
    simp only [pure_bind]
    repeat' first
      | with_reducible refine triple_ite (fun _ => ?_) fun _ => ?_
      | with_reducible exact triple_raiseError_bind (fun _ h => h.designated) _ _
      | with_reducible refine inert_get.framesAt.bind fun _ => ?_
      | with_reducible refine (inert_assert _).framesAt.bind fun _ => ?_
      | with_reducible refine (inert_parserSetRange _).framesAt.bind fun _ => ?_
      | with_reducible refine inert_lexerNextToken.framesAt.bind fun _ => ?_
      | with_reducible refine (inert_parserParseVarStatement _).framesAt.bind fun _ => ?_
      | with_reducible refine (inert_parserParseExpression _).framesAt.bind fun _ => ?_
      | with_reducible refine (FramesAt.scan fuel _).bind fun _ => ?_
      | (with_reducible refine (inert_parserEmitCbcForwardBranch ?_ ?_).framesAt.bind fun _ => ?_) <;>
          try rfl
    all_goals
      refine ((triple_pushRecord _).weaken (fun _ h => h.over) (fun _ _ h => h) fun _ h => h).bind
        fun _ => (triple_pushRecord _).bind fun _ => ?_
      exact @triple_pushFrame E fs (.forStatement ⟨none⟩ ⟨_,_,_,_⟩) _ _ _ _ _ rfl rfl rfl
        (by simp [ParserFrame.tag])

theorem labelStart_triple (labelLiteral : LexerLitLocation) :
    Triple (FramesAt E · fs 0 0 0) (parserParseLabel E labelLiteral)
      (fun _ c => ∃ f, f.tag ∈ [parserStatementLabel] ∧ FramesAt E c (f :: fs) 0 0 0) (Designated E.layout) := by
  unfold parserParseLabel
  refine inert_parserStackIteratorInit.framesAt.bind fun _ => (inert_labelWalk _ _ _).framesAt.bind
    fun _ => ((triple_pushRecord _).weaken (fun _ h => h.over) (fun _ _ h => h) fun _ h => h).bind
    fun _ => ?_
  exact @triple_pushFrame E fs (.label ⟨labelLiteral,none⟩) _ _ _ _ _ rfl rfl rfl
    (List.mem_singleton_self _)

theorem FramesAt.writeSwitch {c : ParserContext} {hasDefault : Bool} {loop : ParserLoopStatement}
    {r r' : ParserSwitchStatement} {a b : UInt16} {k iterator : Nat}
    (h : FramesAt E c (.switchStatement hasDefault loop r :: fs) a b k)
    (height : c.stack.iteratorInit E.layout = iterator + (1 + E.layout.loopStatement)) :
    ∃ s, c.stack.iteratorWrite E.layout iterator (.switchStatement r') = some s ∧
      s.iteratorInit E.layout = c.stack.iteratorInit E.layout ∧
      FramesAt E { c with stack := s } (.switchStatement hasDefault loop r' :: fs) a b k :=
  have ⟨s,write,kept,frames'⟩ := @FramesAt.iteratorWrite E _ [] fs a b k _
    (.switchStatement hasDefault loop r')
    [.uint8 (ParserFrame.switchStatement hasDefault loop r).tag,.record (.loopStatement loop)]
    [] (.switchStatement r) (.switchStatement r') h rfl (by cases hasDefault <;> rfl) rfl rfl rfl
  ⟨s,by simpa [height, ParserStackItem.size, ParserRecord.size] using write,kept,frames'⟩

variable (E) in
def SwitchOpen (fs : List ParserFrame) (iterator : Nat) (c : ParserContext) : Prop :=
  ∃ hasDefault loop r, FramesAt E c (.switchStatement hasDefault loop r :: fs) 0 0 0 ∧
    c.stack.iteratorInit E.layout = iterator + (1 + E.layout.loopStatement)

section

variable {iterator : Nat}

theorem SwitchOpen.of_frameState {c d : ParserContext} (same : frameState d = frameState c)
    (h : SwitchOpen E fs iterator c) : SwitchOpen E fs iterator d :=
  have ⟨hasDefault,loop,r,frames,height⟩ := h
  ⟨hasDefault,loop,r,frames.of_frameState same,by rw [show d.stack = c.stack from congrArg Prod.fst same, height]⟩

theorem SwitchOpen.designated {c : ParserContext} (h : SwitchOpen E fs iterator c) :
    Designated E.layout c :=
  have ⟨_,_,_,frames,_⟩ := h
  frames.designated

theorem Inert.switchOpen {α : Type} {m : ParserM α} (hm : Inert m) :
    Triple (SwitchOpen E fs iterator) m (fun _ => SwitchOpen E fs iterator) (Designated E.layout) :=
  hm.keeps (fun _ _ same h => h.of_frameState same) fun _ h => h.designated

theorem switchOpen_write {Q : ParserContext → Prop} (r : ParserSwitchStatement) :
    Triple (SwitchOpen E fs iterator) (parserStackIteratorWrite E iterator (.switchStatement r))
      (fun _ => SwitchOpen E fs iterator) Q :=
  triple_iteratorWrite fun _ ⟨_,_,_,frames,height⟩ =>
    have ⟨s,write,kept,frames'⟩ := frames.writeSwitch height
    ⟨s,write,_,_,r,frames',kept.trans height⟩

theorem SwitchOpen.opened {c : ParserContext} {tags : List UInt8} (h : SwitchOpen E fs iterator c)
    (tagged : parserStatementSwitch ∈ tags ∧ parserStatementSwitchNoDefault ∈ tags) :
    ∃ f, f.tag ∈ tags ∧ FramesAt E c (f :: fs) 0 0 0 :=
  have ⟨hasDefault,_,_,frames,_⟩ := h
  ⟨_,by cases hasDefault; exacts [tagged.2,tagged.1],frames⟩

theorem switchOpen_noDefault {tags : List UInt8} {Q : ParserContext → Prop}
    (tagged : parserStatementSwitchNoDefault ∈ tags) :
    Triple (SwitchOpen E fs iterator) (parserStackChangeLastUint8 parserStatementSwitchNoDefault)
      (fun _ c => ∃ f, f.tag ∈ tags ∧ FramesAt E c (f :: fs) 0 0 0) Q :=
  triple_exists fun hasDefault => triple_exists fun loop => triple_exists fun r =>
    (@triple_changeLastUint8 E fs 0 0 0 (.switchStatement hasDefault loop r)
    (.switchStatement false loop r) Q rfl (by cases hasDefault <;> rfl) rfl).weaken (fun _ h => h.1)
    (fun _ _ h => ⟨.switchStatement false loop r,tagged,h⟩) fun _ h => h

theorem switchCaseLoop_triple (fuel : Nat) (found hasDefault : Bool) (casesP : Option Nat)
    (r : ParserSwitchStatement) :
    Triple (SwitchOpen E fs iterator) (switchCaseLoop E iterator fuel found hasDefault casesP r)
      (fun _ => SwitchOpen E fs iterator) (Designated E.layout) := by
  induction fuel generalizing found hasDefault casesP r with
  | zero => exact triple_outOfFuel fun _ h => h.designated
  | succ fuel ih =>
    unfold switchCaseLoop
    cases casesP <;> dsimp only <;> simp only [pure_bind] <;>
    refine (triple_scanKeeps (fun _ _ same h => h.of_frameState same)
      (fun _ ⟨_,_,_,frames,_⟩ => ⟨_,frames.framed⟩) _ _).bind fun _ => ?_
    repeat' first
      | with_reducible refine triple_ite (fun _ => ?_) fun _ => ?_
      | with_reducible exact triple_raiseError_bind (fun _ h => h.designated) _ _
      | with_reducible exact ih _ _ _ _
      | with_reducible exact triple_pure _ fun _ h => h
      | with_reducible refine inert_get.switchOpen.bind fun _ => ?_
      | with_reducible refine inert_lexerNextToken.switchOpen.bind fun _ => ?_
      | with_reducible refine (inert_parserParseExpression _).switchOpen.bind fun _ => ?_
      | with_reducible refine (switchOpen_write _).bind fun _ => ?_
      | (with_reducible refine (inert_parserEmitCbc ?_).switchOpen.bind fun _ => ?_); decide
      | with_reducible refine (inert_updateNode _ _).switchOpen.bind fun _ => ?_
      | (with_reducible refine (inert_parserEmitCbcForwardBranchItem ?_ ?_ _).switchOpen.bind fun _ => ?_) <;>
          try rfl

end

theorem Inert.opened {α : Type} {tags : List UInt8} {m : ParserM α} (hm : Inert m) :
    Triple (fun c => ∃ f, f.tag ∈ tags ∧ FramesAt E c (f :: fs) 0 0 0) m
      (fun _ c => ∃ f, f.tag ∈ tags ∧ FramesAt E c (f :: fs) 0 0 0) (Designated E.layout) :=
  fun c ⟨_,tagged,h⟩ => hm.framesAt.weaken (fun _ h => h) (fun _ _ h => ⟨_,tagged,h⟩) (fun _ h => h) c h

theorem switchStatementStart_triple (fuel : Nat) :
    Triple (FramesAt E · fs 0 0 0) (parserParseSwitchStatementStart E fuel)
      (fun _ c => ∃ f, f.tag ∈ [parserStatementSwitch, parserStatementSwitchNoDefault, parserStatementBlock] ∧ FramesAt E c (f :: fs) 0 0 0) (Designated E.layout) := by
  unfold parserParseSwitchStatementStart
  dsimp only
  simp only [pure_bind]
  repeat' first
    | with_reducible refine triple_ite (fun _ => ?_) fun _ => ?_
    | with_reducible exact triple_raiseError_bind (fun _ h => h.designated) _ _
    | with_reducible refine inert_get.framesAt.bind fun _ => ?_
    | with_reducible refine (inert_assert _).framesAt.bind fun _ => ?_
    | with_reducible refine inert_parserParseEnclosedExpr.framesAt.bind fun _ => ?_
    | with_reducible refine inert_lexerNextToken.framesAt.bind fun _ => ?_
    | with_reducible refine inert_parserFlushCbc.framesAt.bind fun _ => ?_
    | (with_reducible refine (inert_parserEmitCbc ?_).framesAt.bind fun _ => ?_); decide
  · exact ((@triple_pushFrameTag E fs .block _ 0 0 0 rfl rfl rfl).weaken (fun _ h => h.over)
      (fun _ _ h => h) fun _ h => h).bind fun _ => triple_initLast.bind fun _ =>
      triple_pure _ fun _ h => ⟨_,by decide,h⟩
  · refine ((triple_pushRecord _).weaken (fun _ h => h.over) (fun _ _ h => h) fun _ h => h).bind
      fun _ => triple_iteratorInit_bind fun n => ?_
    refine ((triple_pushRecord _).and (height_push _)).bind fun _ =>
      ((@triple_pushFrameTag E fs (.switchStatement true ⟨none⟩ ⟨⟨0,false⟩,none⟩) _ 0 0 0 rfl rfl
        rfl).and (height_pushUint8 _)).bind fun _ =>
      (triple_initLast.and height_initLast).bind fun _ => ?_
    refine (switchCaseLoop_triple fuel _ _ _ _).weaken (fun _ ⟨h,height⟩ =>
      ⟨_,_,_,h,by simpa [ParserRecord.size, Nat.add_assoc, Nat.add_comm 1] using height⟩)
      (fun _ _ h => h) (fun _ h => h) |>.bind fun ⟨found,hasDefault,r⟩ => ?_
    dsimp only
    repeat' first
      | with_reducible refine triple_ite (fun _ => ?_) fun _ => ?_
      | with_reducible refine (inert_assert _).switchOpen.bind fun _ => ?_
      | with_reducible refine (switchOpen_write _).bind fun _ => ?_
      | with_reducible refine (switchOpen_noDefault (by decide)).bind fun _ =>
          inert_parserSetRange _ |>.opened.bind fun _ => inert_lexerNextToken.opened
      | with_reducible refine ((inert_parserSetRange _).switchOpen.bind fun _ =>
          inert_lexerNextToken.switchOpen).weaken (fun _ h => h) (fun _ _ h => h.opened
            (by decide)) fun _ h => h
      | (with_reducible refine (inert_parserEmitCbc ?_).switchOpen.bind fun _ => ?_); decide
      | (with_reducible refine (inert_parserEmitCbcForwardBranch ?_ ?_).switchOpen.bind fun _ => ?_) <;>
          try rfl

end JerryParser
