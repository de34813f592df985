import JerryParser.Filings

/-! The main loop of `parser_parse_statements` over statement boundaries. Each pass of the loop
starts at a boundary and, unless it fails or closes the function body, ends at one. A run
from the entry of `parser_parse_statements` is a sequence of boundaries: at each the byte stack
decomposes into frames in one way only, and both depths count the runtime contexts of those
frames. A failure leaves `last_statement` on the top tag of the frames, under whatever bytes the
pre-scanner pushed. -/
namespace JerryParser

variable {E : ParserEnv} {fs : List ParserFrame}

open LexerTokenType

theorem inert_holdTokenBack : Inert holdTokenBack := inert_modify fun _ => rfl

theorem inert_parserParseFunctionStatement : Inert (parserParseFunctionStatement E) :=
  inert_lexerExpectIdentifier.bind fun _ => inert_get.bind fun _ => (inert_assert _).bind fun _ =>
    inert_lexerConstructFunctionObject.bind fun _ => inert_lexerNextToken

theorem inert_parserParseReturnStatement : Inert (parserParseReturnStatement E) := by
  unfold parserParseReturnStatement
  dsimp only
  repeat' first
    | refine inert_ite ?_ ?_
    | refine (inert_raiseError _).bind fun _ => ?_
    | refine (inert_pure _).bind fun _ => ?_
    | refine inert_get.bind fun _ => ?_
    | refine inert_lexerNextToken.bind fun _ => ?_
    | refine (inert_parserParseExpression _).bind fun _ => ?_
    | exact inert_parserEmitCbc (by decide)

theorem inert_directivePrologue (fuel : Nat) : Inert (directivePrologue E fuel) := by
  induction fuel with
  | zero => exact inert_outOfFuel
  | succ fuel ih =>
    unfold directivePrologue
    dsimp only
    repeat' first
      | refine inert_ite ?_ ?_
      | exact ih
      | exact inert_pure _
      | refine (inert_raiseError _).bind fun _ => ?_
      | refine (inert_pure _).bind fun _ => ?_
      | refine inert_get.bind fun _ => ?_
      | refine (inert_assert _).bind fun _ => ?_
      | refine inert_lexerNextToken.bind fun _ => ?_
      | refine inert_holdTokenBack.bind fun _ => ?_
      | (refine (inert_parserEmitCbcLiteral ?_ _).bind fun _ => ?_); decide
      | (refine (inert_modify ?_).bind fun _ => ?_); exact fun _ => rfl

section

variable {α : Type}

theorem Triple.opening {m : ParserM α} {tags : List UInt8}
    (hm : ∀ fs, Triple (FramesAt E · fs 0 0 0) m
      (fun _ c => ∃ f, f.tag ∈ tags ∧ FramesAt E c (f :: fs) 0 0 0) (Designated E.layout)) :
    Triple (Boundary E) m (fun _ => Boundary E) (Designated E.layout) :=
  triple_exists fun fs => (hm fs).weaken (fun _ h => h) (fun _ _ ⟨_,_,h⟩ => ⟨_,h⟩) fun _ h => h

theorem Triple.rewriting {m : ParserM α}
    (hm : ∀ fs, Triple (FramesAt E · fs 0 0 0) m (fun _ => WithBoundary E (withOpen fs))
      (Designated E.layout)) :
    Triple (Boundary E) m (fun _ => Boundary E) (Designated E.layout) :=
  triple_exists fun fs => (hm fs).weaken (fun _ h => h) (fun _ _ h => h.boundary) fun _ h => h

theorem triple_pushBlock {Q : ParserContext → Prop} :
    Triple (Boundary E) (parserStackPushUint8 parserStatementBlock)
      (fun _ c => ∃ fs, OverFrames E c (.block :: fs) [] 0 0 0) Q :=
  triple_exists fun fs => (@triple_pushFrameTag E fs .block Q 0 0 0 rfl rfl rfl).weaken
    (fun _ h => h.over) (fun _ _ h => ⟨_,h⟩) fun _ h => h

theorem triple_initBlock {Q : ParserContext → Prop} :
    Triple (fun c => ∃ fs, OverFrames E c (.block :: fs) [] 0 0 0) (initLastStatement E)
      (fun _ => Boundary E) Q :=
  triple_exists fun _ => triple_initLast.weaken (fun _ h => h) (fun _ _ h => ⟨_,h⟩) fun _ h => h

end

theorem expressionStatement_triple (fuel : Nat) :
    Triple (Boundary E) (parserParseExpressionStatement E fuel) (PassEnd E)
      (Designated E.layout) := by
  unfold parserParseExpressionStatement
  dsimp only
  repeat' first
    | refine triple_ite (fun _ => ?_) fun _ => ?_
    | exact parserEndStatement_triple fuel
    | refine inert_get.boundary.bind fun _ => ?_
    | refine (inert_parserParseExpression _).boundary.bind fun _ => ?_
    | (refine (inert_modify ?_).boundary.bind fun _ => ?_); exact fun _ => rfl

theorem parserParseStatement_triple (fuel : Nat) :
    Triple (Boundary E) (parserParseStatement E fuel) (PassEnd E) (Designated E.layout) := by
  unfold parserParseStatement
  refine inert_get.boundary.bind fun _ => inert_get.boundary.bind fun _ =>
    (inert_assert _).boundary.bind fun _ => inert_get.boundary.bind fun ctx => ?_
  split
  all_goals
    try dsimp only
    repeat' first
      | with_reducible exact parserEndStatement_triple fuel
      | with_reducible exact expressionStatement_triple fuel
      | with_reducible exact triple_pure _ fun _ h => h
      | with_reducible refine triple_ite (fun _ => ?_) fun _ => ?_
      | with_reducible exact triple_raiseError_bind (fun _ h => h.designated) _ _
      | with_reducible refine triple_pushBlock.bind fun _ => triple_initBlock.bind fun _ => ?_
      | with_reducible refine inert_get.boundary.bind fun _ => ?_
      | with_reducible refine (inert_pure _).boundary.bind fun _ => ?_
      | with_reducible refine inert_lexerNextToken.boundary.bind fun _ => ?_
      | with_reducible refine (inert_parserParseVarStatement fuel).boundary.bind fun _ => ?_
      | with_reducible refine inert_parserParseFunctionStatement.boundary.bind fun _ => ?_
      | with_reducible refine inert_parserParseReturnStatement.boundary.bind fun _ => ?_
      | with_reducible refine inert_parserParseDefaultStatement.boundary.bind fun _ => ?_
      | with_reducible refine inert_holdTokenBack.boundary.bind fun _ => ?_
      | with_reducible refine (inert_parserParseExpression _).boundary.bind fun _ => ?_
      | (with_reducible refine (inert_parserEmitCbc ?_).boundary.bind fun _ => ?_); decide
      | (with_reducible refine (inert_parserEmitCbcLiteral ?_ _).boundary.bind fun _ => ?_); decide
      | with_reducible refine (Triple.opening fun _ => ifStatementStart_triple).bind fun _ => ?_
      | with_reducible refine (Triple.opening fun _ => switchStatementStart_triple fuel).bind fun _ => ?_
      | with_reducible refine (Triple.opening fun _ => doStatementStart_triple).bind fun _ => ?_
      | with_reducible refine (Triple.opening fun _ => whileStatementStart_triple fuel).bind fun _ => ?_
      | with_reducible refine (Triple.opening fun _ => forStatementStart_triple fuel).bind fun _ => ?_
      | with_reducible refine (Triple.opening fun _ => withStatementStart_triple).bind fun _ => ?_
      | with_reducible refine (Triple.opening fun _ => tryStatementStart_triple).bind fun _ => ?_
      | with_reducible refine (Triple.opening fun _ => labelStart_triple _).bind fun _ => ?_
      | with_reducible refine (Triple.rewriting fun _ => caseStatement_triple fuel).bind fun _ => ?_
      | with_reducible refine (Triple.rewriting fun _ => breakStatement_triple).bind fun _ => ?_
      | with_reducible refine (Triple.rewriting fun _ => continueStatement_triple).bind fun _ => ?_

theorem FramesAt.nil_of_start {c : ParserContext} {a b : UInt16} {k : Nat}
    (h : FramesAt E c fs a b k) (top : c.stack.stackTopUint8 = parserStatementStart) : fs = [] := by
  cases fs with
  | nil => rfl
  | cons f fs => exact absurd (h.framed.top.symm.trans top) f.tag_ne_start

variable (E) in
@[reducible] def LoopEnd : Bool → ParserContext → Prop
  | true => Closed
  | false => (FramesAt E · [] 0 0 0)

theorem statementsLoop_triple (fuel : Nat) :
    Triple (Boundary E) (statementsLoop E fuel) (LoopEnd E) (Designated E.layout) := by
  induction fuel with
  | zero => exact triple_outOfFuel fun _ h => h.designated
  | succ fuel ih =>
    unfold statementsLoop
    dsimp only
    simp only [pure_bind]
    refine triple_get_at fun d ⟨fs,h⟩ =>
      triple_ite (fun stop => triple_pure _ fun c same => ?_) fun _ => ?_
    · subst same
      simp only [Bool.and_eq_true, beq_iff_eq] at stop
      obtain rfl := h.nil_of_start stop.2
      exact h
    refine ((parserParseStatement_triple fuel).weaken (fun c same => by subst same; exact ⟨fs,h⟩)
      (fun _ _ h => h) fun _ h => h).bind fun r => ?_
    cases r
    case returned => exact triple_ite (fun _ => triple_pure _ fun _ h => h) fun h => (h rfl).elim
    exact triple_ite (fun h => absurd h (by decide)) fun _ => ih

structure StatementsEntry (c : ParserContext) : Prop where
  last : c.lastStatement = none
  depth : c.stackDepth = 0
  context : c.contextStackDepth = 0
  closed : (contextCount c).1 = (contextCount c).2

theorem triple_pushStart {Q : ParserContext → Prop} :
    Triple StatementsEntry (parserStackPushUint8 parserStatementStart)
      (fun _ c => OverFrames E c [] [] 0 0 0) Q :=
  triple_modify fun c entry =>
    ⟨⟨c.stack.items,by simp [ParserStack.pushUint8,ParserStack.ofItems,topByte]⟩,
      entry.context,entry.depth,by simpa using entry.closed⟩

theorem statementsStart_triple (fuel : Nat) :
    Triple StatementsEntry (parserStackPushUint8 parserStatementStart >>= fun _ =>
        initLastStatement E >>= fun _ => directivePrologue E fuel)
      (fun _ c => FramesAt E c [] 0 0 0) (Designated E.layout) :=
  triple_pushStart.bind fun _ => triple_initLast.bind fun _ => (inert_directivePrologue fuel).framesAt

theorem parserParseStatements_triple (fuel : Nat) :
    Triple StatementsEntry (parserParseStatements E fuel) (fun _ => Closed) (Designated E.layout) := by
  unfold parserParseStatements
  refine triple_get_bind fun _ =>
    triple_assert_bind (fun _ (h : StatementsEntry _ ∧ _) => .inl h.1.last) _ fun _ => ?_
  refine (triple_pushStart.weaken (fun _ h => h.1) (fun _ _ h => h) fun _ h => h).bind fun _ =>
    triple_initLast.bind fun _ => (inert_directivePrologue fuel).framesAt.bind fun _ => ?_
  dsimp only
  simp only [pure_bind]
  refine inert_get.framesAt.bind fun _ =>
    triple_ite (fun _ => triple_raiseError_bind (fun _ h => h.designated) _ _) fun _ => ?_
  refine (statementsLoop_triple fuel).weaken (fun _ h => ⟨[],h⟩) (fun _ _ h => h) (fun _ h => h)
    |>.bind fun b => ?_
  cases b
  case true => exact triple_ite (fun _ => triple_pure _ fun _ h => h) fun h => (h rfl).elim
  refine triple_ite (fun h => absurd h (by decide)) fun _ => inert_get.framesAt.bind fun _ =>
    (inert_assert _).framesAt.bind fun _ => inert_get.framesAt.bind fun _ =>
    (inert_assert _).framesAt.bind fun _ => triple_popStart.bind fun _ =>
    triple_clearLast.bind fun _ => triple_get_bind fun _ => ?_
  exact triple_ite (fun _ => triple_raiseError (fun _ h => .inl h.1.1) _) fun _ =>
    triple_pure _ fun _ h => h.1

variable (E) in
inductive Reachable : ParserContext → Prop
  | start {c0 c : ParserContext} (fuel : Nat) (entry : StatementsEntry c0)
      (prologue : (parserStackPushUint8 parserStatementStart >>= fun _ =>
        initLastStatement E >>= fun _ => directivePrologue E fuel) c0 = .ok ((),c)) :
      Reachable c
  | pass {c c' : ParserContext} (fuel : Nat) (reach : Reachable c)
      (more : (c.token.type == eos && c.stack.stackTopUint8 == parserStatementStart) = false)
      (next : parserParseStatement E fuel c = .ok (.next,c')) : Reachable c'

theorem Reachable.boundary {c : ParserContext} (reach : Reachable E c) : Boundary E c := by
  induction reach with
  | start fuel entry prologue => exact ⟨[],(statementsStart_triple fuel _ entry).1 () _ prologue⟩
  | pass fuel _ _ next ih => exact (parserParseStatement_triple fuel _ ih).1 .next _ next

variable (E) in
inductive TerminatorRun (c : ParserContext) : Bool → ParserContext → Prop
  | start : TerminatorRun c true c
  | terminator {d d' : ParserContext} : TerminatorRun c true d →
      parserStatementTerminator E d = .ok (.next,d') → TerminatorRun c false d'
  | close {d d' : ParserContext} {b : Bool} : TerminatorRun c false d →
      terminatorClose E d = .ok (.inr b,d') → TerminatorRun c b d'

section

variable {c d : ParserContext} {b : Bool}

theorem TerminatorRun.step {d' : ParserContext} {b' : Bool} (run : TerminatorRun E c b d)
    (step : terminatorStep E b d = .ok (.inr b',d')) : TerminatorRun E c b' d' := by
  cases b
  · exact .close run (terminatorStep_false ▸ step)
  rw [terminatorStep_true] at step
  obtain ⟨r,_,term,close⟩ := bind_ok.mp step
  cases r
  · exact .close (.terminator run term) close
  · cases close

theorem TerminatorRun.loop (run : TerminatorRun E c b d) :
    ∃ n, ∀ fuel, terminatorLoop E (fuel + n) true c = terminatorLoop E (fuel + 1) b d := by
  induction run with
  | start => exact ⟨1,fun _ => rfl⟩
  | terminator _ term ih =>
    obtain ⟨n,eq⟩ := ih
    refine ⟨n,fun fuel => (eq fuel).trans ?_⟩
    rw [terminatorLoop_succ,terminatorLoop_succ,terminatorStep_true,terminatorStep_false,bind_assoc]
    simp only [bind_apply,term]
    rfl
  | close _ close ih =>
    obtain ⟨n,eq⟩ := ih
    refine ⟨n + 1,fun fuel => (Nat.add_right_comm fuel 1 n ▸ eq (fuel + 1)).trans ?_⟩
    rw [terminatorLoop_succ,terminatorStep_false]
    simp only [bind_apply,close]

theorem terminatorLoop_last (fuel : Nat) (c : ParserContext) :
    ∃ b d fuel', TerminatorRun E c b d ∧ terminatorLoop E fuel true c = terminatorLoop E fuel' b d ∧
      (fuel' = 0 ∨ ∀ b' d', terminatorStep E b d ≠ .ok (.inr b',d')) := by
  suffices ∀ b d, TerminatorRun E c b d → ∃ b' d' fuel', TerminatorRun E c b' d' ∧
      terminatorLoop E fuel b d = terminatorLoop E fuel' b' d' ∧
      (fuel' = 0 ∨ ∀ b'' d'', terminatorStep E b' d' ≠ .ok (.inr b'',d'')) from this _ _ .start
  induction fuel with
  | zero => exact fun b d run => ⟨b,d,0,run,rfl,.inl rfl⟩
  | succ fuel ih =>
    intro b d run
    rcases step : terminatorStep E b d with _ | ⟨_ | b',d'⟩
    case ok.mk.inr =>
      obtain ⟨b'',d'',fuel',run',eq,last⟩ := ih b' d' (run.step step)
      refine ⟨b'',d'',fuel',run',?_,last⟩
      rw [terminatorLoop_succ,bind_apply,step]
      exact eq
    all_goals exact ⟨b,d,fuel + 1,run,rfl,.inr fun _ _ h => by cases h.symm.trans step⟩

theorem TerminatorRun.boundary (start : Boundary E c) (run : TerminatorRun E c b d) :
    Boundary E d := by
  induction run with
  | start => exact start
  | terminator _ term ih => exact (statementTerminator_triple _ ih).1 _ _ term
  | close _ close ih => exact (terminatorClose_triple _ ih).1 _ _ close

end

variable (E) in
def FrameWalk (c : ParserContext) (fs : List ParserFrame) : Prop :=
  ∃ below, c.stack.iteratorInit E.layout = frameHeight E.layout fs below ∧
    (∀ pre f rest, fs = pre ++ f :: rest →
      parserStackIteratorReadUint8 E (frameHeight E.layout (f :: rest) below) c = .ok (f.tag,c) ∧
      (∀ r more, f.records = r :: more →
        parserStackIteratorRead E (frameHeight E.layout (f :: rest) below - 1) c = .ok (r,c)) ∧
      parserStatementLengthOf E f.tag c = .ok (stackHeight E.layout f.items,c) ∧
      frameHeight E.layout (f :: rest) below - stackHeight E.layout f.items =
        frameHeight E.layout rest below) ∧
    parserStackIteratorReadUint8 E (frameHeight E.layout [] below) c = .ok (parserStatementStart,c)

theorem Framed.walk {c : ParserContext} (h : Framed E.layout c.stack c.lastStatement fs) :
    FrameWalk E c fs := by
  obtain ⟨below,items⟩ := h.items
  have at_ : ∀ pre rest, fs = pre ++ rest → StackAt c (frameItems pre) rest below := by
    rintro pre rest rfl
    simpa [StackAt] using items
  refine ⟨below,congrArg (stackHeight E.layout) items,fun pre f rest split => ?_,
    (at_ fs [] (List.append_nil fs).symm).readStart⟩
  have stack := at_ pre (f :: rest) split
  exact ⟨stack.readTag,fun _ _ hr => stack.readRecord hr,parserStatementLengthOf_tag f c,
    frameHeight_skip _ f rest below⟩

theorem terminatorClose_with {d : ParserContext} (top : d.stack.stackTopUint8 = parserStatementWith) :
    terminatorClose E d = (parserParseWithStatementEnd E >>= fun _ => pure (.inr false)) d := by
  simp +decide only [terminatorClose, bind_apply, get_apply, top, ↓reduceIte]

theorem FramesAt.with_of_top {c : ParserContext} {a b : UInt16} {k : Nat} (h : FramesAt E c fs a b k)
    (top : c.stack.stackTopUint8 = parserStatementWith) : ∃ r rest, fs = .withStatement r :: rest := by
  have tag := h.framed.top.symm.trans top
  rcases fs with _ | ⟨_ | _ | _ | _ | ⟨_ | _,_,_⟩ | _ | _ | _ | _ | r | _,rest⟩ <;>
    simp +decide only [topTag, ParserFrame.tag] at tag
  exact ⟨r,rest,rfl⟩

/-- At every statement boundary of a run the byte stack down to its `START` byte is frames in
one way only, each a tag over the records its statement pushed and as long as
`parser_statement_length` of its tag, with `last_statement` on the top tag, and a walk down the
frames reads each tag and record where it lies. The pass from the boundary enters the label, break,
continue, default and case statements on those frames, and the terminator loop of every pass enters
the with end on a with frame over frames. A pass that fails there, or a failure anywhere in
`parser_parse_statements`, leaves `last_statement` cleared or on the top tag of frames over
`START`, under whatever bytes the pre-scanner pushed: what `parser_free_jumps` starts from. -/
theorem boundaryFramesUnique {c : ParserContext} (reach : Reachable E c) :
    (∃! fs, Framed E.layout c.stack c.lastStatement fs ∧
      ∀ f ∈ fs, parserStatementLength E.layout f.tag = some (stackHeight E.layout f.items)) ∧
    (∀ fs, Framed E.layout c.stack c.lastStatement fs → FrameWalk E c fs ∧
      ∀ fuel d, c.token.type = literal → c.token.litLocation.type = .identLiteral →
        lexerNextToken E c = .ok ((),d) → d.token.type = colon →
        parserParseStatement E fuel c = (parserParseLabel E c.token.litLocation >>= fun _ =>
          lexerNextToken E >>= fun _ => pure .next) d ∧ Framed E.layout d.stack d.lastStatement fs) ∧
    (∀ fuel, (c.token.type = keywBreak → parserParseStatement E fuel c =
        (parserParseBreakStatement E >>= fun _ => parserEndStatement E fuel) c) ∧
      (c.token.type = keywContinue → parserParseStatement E fuel c =
        (parserParseContinueStatement E >>= fun _ => parserEndStatement E fuel) c) ∧
      (c.token.type = keywDefault → parserParseStatement E fuel c =
        (parserParseDefaultStatement E >>= fun _ => pure .next) c) ∧
      (c.token.type = keywCase → parserParseStatement E fuel c =
        (parserParseCaseStatement E fuel >>= fun _ => pure .next) c)) ∧
    (∀ d e, Boundary E d → TerminatorRun E d false e → e.stack.stackTopUint8 = parserStatementWith →
      (∃ r fs, FramesAt E e (.withStatement r :: fs) 0 0 0) ∧
      terminatorClose E e = (parserParseWithStatementEnd E >>= fun _ => pure (.inr false)) e) ∧
    (∀ fuel f, parserParseStatement E fuel c = .error f → Designated E.layout f.context) ∧
    ∀ fuel c0 f, StatementsEntry c0 → parserParseStatements E fuel c0 = .error f →
      Designated E.layout f.context := by
  obtain ⟨fs,h⟩ := reach.boundary
  have depth : c.stackDepth = c.contextStackDepth := by
    rw [h.accounting.depth,h.accounting.context]
  refine ⟨⟨fs,⟨h.framed,fun f _ => parserStatementLength_tag _ f⟩,
    fun gs ⟨framed,_⟩ => Framed.unique _ framed h.framed⟩,fun gs framed => ⟨framed.walk,?_⟩,
    fun fuel => ⟨fun t => ?_,fun t => ?_,fun t => ?_,fun t => ?_⟩,fun d e start run top => ?_,
    fun fuel f err => (parserParseStatement_triple fuel c ⟨fs,h⟩).2 f err,
    fun fuel c0 f entry err => (parserParseStatements_triple fuel c0 entry).2 f err⟩
  · intro fuel d t ident next colon
    refine ⟨?_,Framed.unique _ h.framed framed ▸ ((inert_lexerNextToken.framesAt c h).1 () d next).framed⟩
    simp only [parserParseStatement, bind_apply, get_apply, depth, beq_self_eq_true, parserAssert, t,
      ident, next, colon, ↓reduceIte]
  all_goals try simp only [parserParseStatement, bind_apply, get_apply, depth, beq_self_eq_true,
    parserAssert, t, ↓reduceIte]
  obtain ⟨gs,frames⟩ := run.boundary start
  obtain ⟨r,rest,rfl⟩ := frames.with_of_top top
  exact ⟨⟨r,rest,frames⟩,terminatorClose_with top⟩

def trySource : List SourceLexeme := [kw "try",pu leftBrace,kw "a",pu colon]

def tryBoundary : ParserContext :=
  { sampleContext trySource programFlags with
    stackDepth := 2, contextStackDepth := 2, lastStatement := some 10,
    token := nameToken 2 "a" false, sourceP := 3,
    byteCode := [.forward .extTryCreateContext], byteCodeSize := 3,
    stack := ⟨[.uint8 parserStatementTry,.record (.tryStatement ⟨.tryBlock,⟨0,false⟩⟩),
      .uint8 parserStatementStart],parserStatementTry⟩ }

theorem reachable_tryBoundary : Reachable (sampleEnv trySource) tryBoundary :=
  .pass 3 (.start 3 (⟨rfl,rfl,rfl,rfl⟩ : StatementsEntry (sampleContext trySource programFlags)) rfl)
    rfl rfl

theorem boundaryFramesUnique_tryBoundary :
    Reachable (sampleEnv trySource) tryBoundary ∧
    (∃ d, lexerNextToken (sampleEnv trySource) tryBoundary = .ok ((),d) ∧ d.token.type = colon) ∧
    (∃! fs, Framed (sampleEnv trySource).layout tryBoundary.stack tryBoundary.lastStatement fs ∧
      ∀ f ∈ fs, parserStatementLength (sampleEnv trySource).layout f.tag =
        some (stackHeight (sampleEnv trySource).layout f.items)) ∧
    (∀ fs, Framed (sampleEnv trySource).layout tryBoundary.stack tryBoundary.lastStatement fs →
      FrameWalk (sampleEnv trySource) tryBoundary fs ∧
      ∀ fuel d, tryBoundary.token.type = literal → tryBoundary.token.litLocation.type = .identLiteral →
        lexerNextToken (sampleEnv trySource) tryBoundary = .ok ((),d) → d.token.type = colon →
        parserParseStatement (sampleEnv trySource) fuel tryBoundary =
          (parserParseLabel (sampleEnv trySource) tryBoundary.token.litLocation >>= fun _ =>
            lexerNextToken (sampleEnv trySource) >>= fun _ => pure .next) d ∧
        Framed (sampleEnv trySource).layout d.stack d.lastStatement fs) ∧
    (∀ fuel, (tryBoundary.token.type = keywBreak → parserParseStatement (sampleEnv trySource) fuel
        tryBoundary = (parserParseBreakStatement (sampleEnv trySource) >>= fun _ =>
          parserEndStatement (sampleEnv trySource) fuel) tryBoundary) ∧
      (tryBoundary.token.type = keywContinue → parserParseStatement (sampleEnv trySource) fuel
        tryBoundary = (parserParseContinueStatement (sampleEnv trySource) >>= fun _ =>
          parserEndStatement (sampleEnv trySource) fuel) tryBoundary) ∧
      (tryBoundary.token.type = keywDefault → parserParseStatement (sampleEnv trySource) fuel
        tryBoundary = (parserParseDefaultStatement (sampleEnv trySource) >>= fun _ =>
          pure .next) tryBoundary) ∧
      (tryBoundary.token.type = keywCase → parserParseStatement (sampleEnv trySource) fuel
        tryBoundary = (parserParseCaseStatement (sampleEnv trySource) fuel >>= fun _ =>
          pure .next) tryBoundary)) ∧
    (∀ d e, Boundary (sampleEnv trySource) d → TerminatorRun (sampleEnv trySource) d false e →
      e.stack.stackTopUint8 = parserStatementWith →
      (∃ r fs, FramesAt (sampleEnv trySource) e (.withStatement r :: fs) 0 0 0) ∧
      terminatorClose (sampleEnv trySource) e =
        (parserParseWithStatementEnd (sampleEnv trySource) >>= fun _ => pure (.inr false)) e) ∧
    (∀ fuel f, parserParseStatement (sampleEnv trySource) fuel tryBoundary = .error f →
      Designated (sampleEnv trySource).layout f.context) ∧
    ∀ fuel c0 f, StatementsEntry c0 → parserParseStatements (sampleEnv trySource) fuel c0 = .error f →
      Designated (sampleEnv trySource).layout f.context :=
  ⟨reachable_tryBoundary,⟨_,rfl,rfl⟩,boundaryFramesUnique reachable_tryBoundary⟩

def unclosedSquareSource : List SourceLexeme :=
  [kw "while",pu leftParen,pu leftSquare,pu rightParen,pu semicolon]

/-- On `while ( [ ) ;` the parse fails with the pre-scanner's bytes still above the `START`
byte, so the stack `parser_free_jumps` starts from is not frames with `last_statement` on the
top. -/
theorem unclosedSquareUnframed :
    ∃ f, parserParseStatements (sampleEnv unclosedSquareSource) 20
        (sampleContext unclosedSquareSource programFlags) = .error f ∧
      ¬ ∃ fs, Framed (sampleEnv unclosedSquareSource).layout f.context.stack
        f.context.lastStatement fs :=
  ⟨_,rfl,fun ⟨_,h⟩ => absurd h.last (by decide)⟩

theorem contextDepth_counts (fs : List ParserFrame) :
    contextDepth E fs = fs.countP (·.tag == parserStatementTry) • E.tryContextStackAllocation +
      fs.countP (·.tag == parserStatementWith) • E.withContextStackAllocation +
      fs.countP (·.tag == parserStatementForIn) • E.forInContextStackAllocation := by
  induction fs with
  | nil => simp [contextDepth,zero_nsmul]
  | cons f fs ih =>
    rw [contextDepth_cons,ih]
    rcases f with _ | _ | _ | _ | ⟨_ | _,_,_⟩ | _ | _ | _ | _ | _ | _ <;>
      simp +decide only [ParserFrame.tag,ParserFrame.allocation,List.countP_cons,succ_nsmul,
        ite_true,ite_false,add_zero,zero_add] <;> abel

/-- At every statement boundary of a run both depths are the runtime contexts of the open try,
with and for-in frames, and the `CBC_CONTEXT_END`s emitted are the with and try contexts opened
that are no longer open. With no frame open both depths are 0: where the main loop stops at the end
of the source, and wherever a terminator loop reaches the `}` of a function body with `START` on
top, as the assertions there check. -/
theorem boundaryContextAccounting {c : ParserContext} (reach : Reachable E c) :
    (∃ fs, Framed E.layout c.stack c.lastStatement fs ∧
      c.contextStackDepth = fs.countP (·.tag == parserStatementTry) • E.tryContextStackAllocation +
        fs.countP (·.tag == parserStatementWith) • E.withContextStackAllocation +
        fs.countP (·.tag == parserStatementForIn) • E.forInContextStackAllocation ∧
      c.stackDepth = c.contextStackDepth ∧
      (contextCount c).1 + fs.countP ParserFrame.endsContext = (contextCount c).2) ∧
    (c.stack.stackTopUint8 = parserStatementStart → c.stackDepth = 0 ∧ c.contextStackDepth = 0) ∧
    ∀ d e, Boundary E d → TerminatorRun E d true e → e.token.type = rightBrace →
      e.stack.stackTopUint8 = parserStatementStart → e.stackDepth = 0 ∧ e.contextStackDepth = 0 := by
  obtain ⟨fs,h⟩ := reach.boundary
  refine ⟨⟨fs,h.framed,?_,?_,by simpa using h.accounting.ends⟩,fun top => ?_,
    fun d e start run _ top => ?_⟩
  · rw [h.accounting.context,add_zero,contextDepth_counts]
  · rw [h.accounting.depth,h.accounting.context]
  · obtain rfl := h.nil_of_start top
    exact h.depths_nil
  · obtain ⟨gs,frames⟩ := run.boundary start
    obtain rfl := frames.nil_of_start top
    exact frames.depths_nil

theorem boundaryContextAccounting_tryBoundary :
    Reachable (sampleEnv trySource) tryBoundary ∧
    (∃ fs, Framed (sampleEnv trySource).layout tryBoundary.stack tryBoundary.lastStatement fs ∧
      tryBoundary.contextStackDepth =
        fs.countP (·.tag == parserStatementTry) • (sampleEnv trySource).tryContextStackAllocation +
        fs.countP (·.tag == parserStatementWith) • (sampleEnv trySource).withContextStackAllocation +
        fs.countP (·.tag == parserStatementForIn) • (sampleEnv trySource).forInContextStackAllocation ∧
      tryBoundary.stackDepth = tryBoundary.contextStackDepth ∧
      (contextCount tryBoundary).1 + fs.countP ParserFrame.endsContext =
        (contextCount tryBoundary).2) ∧
    (tryBoundary.stack.stackTopUint8 = parserStatementStart →
      tryBoundary.stackDepth = 0 ∧ tryBoundary.contextStackDepth = 0) ∧
    ∀ d e, Boundary (sampleEnv trySource) d → TerminatorRun (sampleEnv trySource) d true e →
      e.token.type = rightBrace → e.stack.stackTopUint8 = parserStatementStart →
      e.stackDepth = 0 ∧ e.contextStackDepth = 0 :=
  ⟨reachable_tryBoundary,boundaryContextAccounting reachable_tryBoundary⟩

end JerryParser
