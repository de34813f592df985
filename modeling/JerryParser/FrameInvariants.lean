import JerryParser.Keeps

/-! Invariants of the statement boundaries tied to their frames: a predicate `J fs c` of the
frames `fs` over the `START` byte and of the parts of the context that only a few statement
functions change, `PARSER_IN_WIDTH` and the branch nodes. The rest of the parser leaves both the
frames and those parts alone, so a pass of the main loop of `parser_parse_statements` keeps `J`
as soon as every statement function that opens, rewrites or closes a frame keeps it. The passes
are followed here once, for every such `J`. -/
namespace JerryParser

open LexerTokenType

variable (E : ParserEnv) (J : List ParserFrame → ParserContext → Prop)

def InvariantAt (c : ParserContext) : Prop := ∃ fs, FramesAt E c fs 0 0 0 ∧ J fs c

@[reducible] def InvariantPassEnd : StatementEnd → ParserContext → Prop
  | .next => InvariantAt E J
  | .returned => fun _ => True

structure FrameInvariant : Prop where
  keep : ∀ fs c d, untouched d = untouched c → J fs c → J fs d
  block : ∀ fs c, J (.block :: fs) c ↔ J fs c
  elseEnd : ∀ r fs c, J (.elseStatement r :: fs) c → J fs c
  labelEnd : ∀ r fs c c', J (.label r :: fs) c →
    parserSetBreaksToCurrentPosition E r.breakListP c = .ok ((),c') → J fs c'
  ifStart : Triple (InvariantAt E J) (parserParseIfStatementStart E) (fun _ => InvariantAt E J)
    (Designated E.layout)
  switchStart : ∀ fuel, Triple (InvariantAt E J) (parserParseSwitchStatementStart E fuel)
    (fun _ => InvariantAt E J) (Designated E.layout)
  doStart : Triple (InvariantAt E J) (parserParseDoStatementStart E) (fun _ => InvariantAt E J)
    (Designated E.layout)
  whileStart : ∀ fuel, Triple (InvariantAt E J) (parserParseWhileStatementStart E fuel)
    (fun _ => InvariantAt E J) (Designated E.layout)
  forStart : ∀ fuel, Triple (InvariantAt E J) (parserParseForStatementStart E fuel)
    (fun _ => InvariantAt E J) (Designated E.layout)
  tryStart : Triple (InvariantAt E J) (parserParseTryStatementStart E) (fun _ => InvariantAt E J)
    (Designated E.layout)
  withStart : Triple (InvariantAt E J) (parserParseWithStatementStart E)
    (fun _ => InvariantAt E J) (Designated E.layout)
  labelStart : ∀ labelLiteral, Triple (InvariantAt E J) (parserParseLabel E labelLiteral)
    (fun _ => InvariantAt E J) (Designated E.layout)
  caseStatement : ∀ fuel, Triple (InvariantAt E J) (parserParseCaseStatement E fuel)
    (fun _ => InvariantAt E J) (Designated E.layout)
  breakStatement : Triple (InvariantAt E J) (parserParseBreakStatement E)
    (fun _ => InvariantAt E J) (Designated E.layout)
  continueStatement : Triple (InvariantAt E J) (parserParseContinueStatement E)
    (fun _ => InvariantAt E J) (Designated E.layout)
  ifEnd : ∀ r fs, Triple (fun c => FramesAt E c (.ifStatement r :: fs) 0 0 0 ∧
      J (.ifStatement r :: fs) c) (parserParseIfStatementEnd E) (fun _ => InvariantAt E J)
    (Designated E.layout)
  tryEnd : ∀ r fs, Triple (fun c => FramesAt E c (.tryStatement r :: fs) 0 0 0 ∧
      J (.tryStatement r :: fs) c) (parserParseTryStatementEnd E) (fun _ => InvariantAt E J)
    (Designated E.layout)
  doWhileEnd : ∀ loop r fs, Triple (fun c => FramesAt E c (.doWhileStatement loop r :: fs) 0 0 0 ∧
      J (.doWhileStatement loop r :: fs) c) (parserParseDoWhileStatementEnd E)
    (fun _ c => FramesAt E c fs 0 0 0 ∧ J fs c) (Designated E.layout)
  whileEnd : ∀ loop r fs, Triple (fun c => FramesAt E c (.whileStatement loop r :: fs) 0 0 0 ∧
      J (.whileStatement loop r :: fs) c) (parserParseWhileStatementEnd E)
    (fun _ c => FramesAt E c fs 0 0 0 ∧ J fs c) (Designated E.layout)
  forEnd : ∀ loop r fs, Triple (fun c => FramesAt E c (.forStatement loop r :: fs) 0 0 0 ∧
      J (.forStatement loop r :: fs) c) (parserParseForStatementEnd E)
    (fun _ c => FramesAt E c fs 0 0 0 ∧ J fs c) (Designated E.layout)
  forInEnd : ∀ loop r fs, Triple (fun c => FramesAt E c (.forInStatement loop r :: fs) 0 0 0 ∧
      J (.forInStatement loop r :: fs) c) (parserParseForInStatementEnd E)
    (fun _ c => FramesAt E c fs 0 0 0 ∧ J fs c) (Designated E.layout)
  withEnd : ∀ r fs, Triple (fun c => FramesAt E c (.withStatement r :: fs) 0 0 0 ∧
      J (.withStatement r :: fs) c) (parserParseWithStatementEnd E)
    (fun _ c => FramesAt E c fs 0 0 0 ∧ J fs c) (Designated E.layout)
  switchEnd : ∀ hasDefault loop r fs, Triple (fun c =>
      FramesAt E c (.switchStatement hasDefault loop r :: fs) 0 0 0 ∧
      J (.switchStatement hasDefault loop r :: fs) c) (parserParseSwitchStatementEnd E)
    (fun _ c => FramesAt E c fs 0 0 0 ∧ J fs c) (Designated E.layout)

section

variable {E J} {α β : Type} {fs : List ParserFrame} {c : ParserContext} {P Q : ParserContext → Prop}
  {m : ParserM α} {R : α → ParserContext → Prop} (hJ : FrameInvariant E J)

include hJ

theorem Triple.keepingInvariant (h : Triple P m R Q) (keeps : Keeps untouched m) :
    Triple (fun c => P c ∧ J fs c) m (fun a c => R a c ∧ J fs c) Q := fun c ⟨hc,hj⟩ =>
  ⟨fun a c' ok => ⟨(h c hc).1 a c' ok,hJ.keep fs c c' (keeps c a c' ok) hj⟩,(h c hc).2⟩

theorem Inert.invariantAt (hm : Inert m) (keeps : Keeps untouched m) :
    Triple (InvariantAt E J) m (fun _ => InvariantAt E J) (Designated E.layout) :=
  triple_exists fun _ => (hm.framesAt.keepingInvariant hJ keeps).weaken (fun _ h => h)
    (fun _ _ h => ⟨_,h⟩) fun _ h => h

theorem triple_pushBlockInvariant :
    Triple (InvariantAt E J) (parserStackPushUint8 parserStatementBlock)
      (fun _ c => ∃ fs, OverFrames E c (.block :: fs) [] 0 0 0 ∧ J fs c) Q :=
  triple_exists fun fs => ((@triple_pushFrameTag E fs .block Q 0 0 0 rfl rfl rfl).keepingInvariant
    hJ (scanning_push _).keeps).weaken (fun _ ⟨h,hj⟩ => ⟨h.over,hj⟩) (fun _ _ h => ⟨_,h⟩)
    fun _ h => h

theorem triple_initBlockInvariant :
    Triple (fun c => ∃ fs, OverFrames E c (.block :: fs) [] 0 0 0 ∧ J fs c) (initLastStatement E)
      (fun _ => InvariantAt E J) Q :=
  triple_exists fun _ => (triple_initLast.keepingInvariant hJ KeepsView.keeps).weaken
    (fun _ h => h) (fun _ _ ⟨h,hj⟩ => ⟨_,h,(hJ.block _ _).mpr hj⟩) fun _ h => h

theorem triple_popRecordAsInvariant {fs' : List ParserFrame} {r : ParserRecord}
    {rs : List ParserRecord} {cast : ParserRecord → Option β} {v : β} (hv : cast r = some v)
    {k : β → ParserM α} (hk : Triple (fun c => OverFrames E c fs rs 0 0 0 ∧ J fs' c) (k v) R Q) :
    Triple (fun c => OverFrames E c fs (r :: rs) 0 0 0 ∧ J fs' c)
      (parserStackPop E >>= fun x => orUndefined (cast x) >>= k) R Q :=
  (triple_popRecord.keepingInvariant hJ KeepsView.keeps).bind fun _ c ⟨⟨hx,h⟩,hj⟩ => by
    subst hx
    simpa only [hv, orUndefined, pure_bind] using hk c ⟨h,hj⟩

theorem triple_labelEndInvariant {r : ParserLabelStatement} :
    Triple (fun c => FramesAt E c fs 0 0 0 ∧ J (.label r :: fs) c)
      (parserSetBreaksToCurrentPosition E r.breakListP) (fun _ c => FramesAt E c fs 0 0 0 ∧ J fs c)
      (Designated E.layout) := fun c ⟨h,hj⟩ =>
  have run := (inert_parserSetBreaksToCurrentPosition r.breakListP).framesAt c h
  ⟨fun _ c' ok => ⟨run.1 () c' ok,hJ.labelEnd r fs c c' hj ok⟩,run.2⟩

omit hJ in
theorem FramesAt.invariantAt {d : ParserContext} (h : FramesAt E d fs 0 0 0) (hj : J fs d)
    (hm : Triple (fun c => FramesAt E c fs 0 0 0 ∧ J fs c) m R Q) :
    Triple (fun c => c = d) m R Q :=
  hm.weaken (fun _ e => e ▸ ⟨h,hj⟩) (fun _ _ h => h) fun _ h => h

omit hJ in
theorem InvariantAt.designated (h : InvariantAt E J c) : Designated E.layout c :=
  have ⟨_,h,_⟩ := h
  h.designated

end

section

variable {E J} (hJ : FrameInvariant E J)

include hJ

theorem statementTerminator_invariant :
    Triple (InvariantAt E J) (parserStatementTerminator E) (InvariantPassEnd E J)
      (Designated E.layout) := by
  unfold parserStatementTerminator
  refine triple_get_at fun d ⟨fs,h,hj⟩ => h.invariantAt hj ?_
  rw [h.framed.top]
  dsimp only
  simp only [pure_bind]
  rcases fs with _ | ⟨_ | _ | _ | _ | ⟨_ | _,_,_⟩ | _ | _ | _ | _ | _ | _,fs⟩ <;>
    simp +decide only [↓reduceIte, topTag, ParserFrame.tag]
  all_goals
    repeat' first
      | with_reducible refine triple_ite (fun _ => ?_) fun _ => ?_
      | with_reducible exact triple_raiseError_bind (fun _ h => h.1.designated) _ _
      | with_reducible refine (inert_lexerNextToken.framesAt.keepingInvariant hJ
          scanning_nextToken.keeps).bind fun _ => ?_
      | exact triple_pure _ fun _ h => ⟨_,h⟩
      | exact triple_pure _ fun _ h => h
      | exact triple_pure _ fun _ ⟨h,hj⟩ => ⟨_,h,(hJ.block _ _).mp hj⟩
      | with_reducible refine (hJ.switchEnd _ _ _ _).bind fun _ => ?_
      | with_reducible refine (hJ.tryEnd _ _).bind fun _ => ?_
      | with_reducible refine (triple_popBlock.keepingInvariant hJ scanning_pop.keeps).bind (fun _ =>
          (triple_initLast.keepingInvariant hJ KeepsView.keeps).bind fun _ => ?_)
  refine (triple_popStart.weaken (fun _ h => h.1) (fun _ _ h => h) fun _ h => h).bind fun _ =>
    triple_clearLast.bind fun _ =>
    triple_get_bind fun _ => triple_assert_bind (fun _ h => .inl h.1.1) _ fun _ =>
    triple_get_bind fun _ => triple_assert_bind (fun _ h => .inl h.1.1.1) _ fun _ =>
    triple_pure _ fun _ _ => trivial

theorem terminatorLoop_invariant (fuel : Nat) (statementTerminatorRequired : Bool) :
    Triple (InvariantAt E J) (terminatorLoop E fuel statementTerminatorRequired)
      (InvariantPassEnd E J) (Designated E.layout) := by
  induction fuel generalizing statementTerminatorRequired with
  | zero => exact triple_outOfFuel fun _ h => h.designated
  | succ fuel ih =>
    unfold terminatorLoop
    dsimp only
    simp only [pure_bind]
    refine triple_ite (fun _ => (statementTerminator_invariant hJ).bind fun r => ?_) fun _ => ?_
    on_goal 1 =>
      cases r
      case returned => exact triple_ite (fun _ => triple_pure _ fun _ h => h) fun h => (h rfl).elim
      refine triple_ite (fun h => absurd h (by decide)) fun _ => ?_
    all_goals
      refine triple_get_at fun d ⟨fs,h,hj⟩ => h.invariantAt hj ?_
      rw [h.framed.top]
      rcases fs with _ | ⟨_ | _ | _ | _ | ⟨_ | _,_,_⟩ | _ | _ | _ | _ | _ | _,fs⟩ <;>
        simp +decide only [↓reduceIte, topTag, ParserFrame.tag]
    all_goals
      repeat' first
        | with_reducible refine triple_ite (fun _ => ?_) fun _ => ?_
        | exact triple_pure _ fun _ h => ⟨_,h⟩
        | exact triple_pure _ fun _ h => h
        | exact ih _
        | exact (ih _).weaken (fun _ h => ⟨_,h⟩) (fun _ _ h => h) fun _ h => h
        | exact (ih _).weaken (fun _ ⟨h,hj⟩ => ⟨_,h,hJ.elseEnd _ _ _ hj⟩) (fun _ _ h => h)
            fun _ h => h
        | refine (triple_popLabel.keepingInvariant hJ scanning_pop.keeps).bind fun _ =>
            triple_popRecordAsInvariant hJ (by rfl) ?_
        | refine (triple_popElse.keepingInvariant hJ scanning_pop.keeps).bind fun _ =>
            triple_popRecordAsInvariant hJ (by rfl) ?_
        | with_reducible refine (triple_initLast.keepingInvariant hJ KeepsView.keeps).bind fun _ => ?_
        | with_reducible refine (triple_labelEndInvariant hJ).bind fun _ => ?_
        | with_reducible refine ((inert_parserSetBranchToCurrentPosition _).framesAt.keepingInvariant
            hJ KeepsView.keeps).bind fun _ => ?_
        | with_reducible refine (hJ.ifEnd _ _).bind fun _ => ?_
        | with_reducible refine (hJ.doWhileEnd _ _ _).bind fun _ => ?_
        | with_reducible refine (hJ.whileEnd _ _ _).bind fun _ => ?_
        | with_reducible refine (hJ.forEnd _ _ _).bind fun _ => ?_
        | with_reducible refine (hJ.forInEnd _ _ _).bind fun _ => ?_
        | with_reducible refine (hJ.withEnd _ _).bind fun _ => ?_

theorem parserEndStatement_invariant (fuel : Nat) :
    Triple (InvariantAt E J) (parserEndStatement E fuel) (InvariantPassEnd E J)
      (Designated E.layout) :=
  (inert_parserFlushCbc.invariantAt hJ KeepsView.keeps).bind fun _ => terminatorLoop_invariant hJ fuel true

theorem expressionStatement_invariant (fuel : Nat) :
    Triple (InvariantAt E J) (parserParseExpressionStatement E fuel) (InvariantPassEnd E J)
      (Designated E.layout) := by
  unfold parserParseExpressionStatement
  dsimp only
  repeat' first
    | refine triple_ite (fun _ => ?_) fun _ => ?_
    | exact parserEndStatement_invariant hJ fuel
    | refine (inert_get.invariantAt hJ scanning_get.keeps).bind fun _ => ?_
    | refine ((inert_parserParseExpression _).invariantAt hJ
        KeepsView.keeps).bind fun _ => ?_
    | refine ((inert_pure _).invariantAt hJ (scanning_pure _).keeps).bind fun _ => ?_
    | (refine ((inert_modify ?_).invariantAt hJ (keeps_modify ?_)).bind fun _ => ?_);
        exact fun _ => rfl; exact fun _ => rfl

theorem parserParseStatement_invariant (fuel : Nat) :
    Triple (InvariantAt E J) (parserParseStatement E fuel) (InvariantPassEnd E J)
      (Designated E.layout) := by
  have keep := statementsKeep (E := E) fuel
  have get := inert_get.invariantAt hJ (E := E) scanning_get.keeps
  unfold parserParseStatement
  refine get.bind fun _ => get.bind fun _ =>
    ((inert_assert _).invariantAt hJ (scanning_assert _).keeps).bind fun _ => get.bind fun ctx => ?_
  split
  all_goals
    try dsimp only
    repeat' first
      | with_reducible exact parserEndStatement_invariant hJ fuel
      | with_reducible exact expressionStatement_invariant hJ fuel
      | with_reducible exact triple_pure _ fun _ h => h
      | with_reducible refine triple_ite (fun _ => ?_) fun _ => ?_
      | with_reducible exact triple_raiseError_bind (fun _ h => h.designated) _ _
      | with_reducible refine (triple_pushBlockInvariant hJ).bind fun _ =>
          (triple_initBlockInvariant hJ).bind fun _ => ?_
      | with_reducible refine get.bind fun _ => ?_
      | with_reducible refine ((inert_pure _).invariantAt hJ
          (scanning_pure _).keeps).bind fun _ => ?_
      | with_reducible refine (inert_lexerNextToken.invariantAt hJ
          scanning_nextToken.keeps).bind fun _ => ?_
      | with_reducible refine ((inert_parserParseVarStatement fuel).invariantAt hJ
          KeepsView.keeps).bind fun _ => ?_
      | with_reducible refine (inert_parserParseFunctionStatement.invariantAt hJ
          keep.functionStatement).bind fun _ => ?_
      | with_reducible refine (inert_parserParseReturnStatement.invariantAt hJ
          keep.returnStatement).bind fun _ => ?_
      | with_reducible refine (inert_parserParseDefaultStatement.invariantAt hJ
          keep.defaultStatement).bind fun _ => ?_
      | with_reducible refine (inert_holdTokenBack.invariantAt hJ
          KeepsView.keeps).bind fun _ => ?_
      | with_reducible refine ((inert_parserParseExpression _).invariantAt hJ
          KeepsView.keeps).bind fun _ => ?_
      | (with_reducible refine ((inert_parserEmitCbc ?_).invariantAt hJ
          KeepsView.keeps).bind fun _ => ?_); decide
      | (with_reducible refine ((inert_parserEmitCbcLiteral ?_ _).invariantAt hJ
          KeepsView.keeps).bind fun _ => ?_); decide
      | with_reducible refine hJ.ifStart.bind fun _ => ?_
      | with_reducible refine (hJ.switchStart fuel).bind fun _ => ?_
      | with_reducible refine hJ.doStart.bind fun _ => ?_
      | with_reducible refine (hJ.whileStart fuel).bind fun _ => ?_
      | with_reducible refine (hJ.forStart fuel).bind fun _ => ?_
      | with_reducible refine hJ.tryStart.bind fun _ => ?_
      | with_reducible refine hJ.withStart.bind fun _ => ?_
      | with_reducible refine (hJ.labelStart _).bind fun _ => ?_
      | with_reducible refine (hJ.caseStatement fuel).bind fun _ => ?_
      | with_reducible refine hJ.breakStatement.bind fun _ => ?_
      | with_reducible refine hJ.continueStatement.bind fun _ => ?_

theorem ReachedFrom.invariantAt {c0 c : ParserContext} (entry : StatementsEntry c0) (start : J [] c0)
    (reach : ReachedFrom E c0 c) : InvariantAt E J c := by
  induction reach with
  | start fuel prologue =>
    have keeps : Keeps untouched (parserStackPushUint8 parserStatementStart >>= fun _ =>
        initLastStatement E >>= fun _ => directivePrologue E fuel) := KeepsView.keeps
    exact ⟨[],(statementsStart_triple fuel _ entry).1 () _ prologue,
      hJ.keep [] _ _ (keeps _ _ _ prologue) start⟩
  | pass fuel _ _ next ih => exact (parserParseStatement_invariant hJ fuel _ ih).1 .next _ next

end

end JerryParser
