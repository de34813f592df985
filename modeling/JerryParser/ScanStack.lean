import JerryParser.Inert

/-! The scanner's bytes on the statement stack. `parser_scan_until` pushes `SCAN_STACK_HEAD`,
then only bytes other than it, and pops a byte only once `stack_top_uint8` shows it is one of
its own; the head goes last. So a scan returns with the stack it started from, and a failed
scan leaves its bytes above the frames, with `last_statement` untouched. -/
namespace JerryParser

def Coherent (s : ParserStack) : Prop := ∃ b rest, s.items = .uint8 b :: rest ∧ s.stackTopUint8 = b

def Above (c d : ParserContext) : Prop :=
  d.lastStatement = c.lastStatement ∧ ∃ bytes : List UInt8, d.stack.items = bytes.map .uint8 ++ c.stack.items

def ScanStack (c0 c : ParserContext) : Prop :=
  (frameState c).2 = (frameState c0).2 ∧ ∃ bytes : List UInt8, scanStackHead ∉ bytes ∧
    c.stack = ⟨bytes.map .uint8 ++ .uint8 scanStackHead :: c0.stack.items,
      bytes.headD scanStackHead⟩

variable {E : ParserEnv} {c0 : ParserContext}

theorem Above.refl (c : ParserContext) : Above c c := ⟨rfl,[],rfl⟩

theorem ScanStack.above {c : ParserContext} (h : ScanStack c0 c) : Above c0 c := by
  obtain ⟨same,bytes,-,hs⟩ := h
  exact ⟨congrArg (·.1) same,bytes ++ [scanStackHead],by simp [hs]⟩

theorem ScanStack.of_frameState {c d : ParserContext} (same : frameState d = frameState c)
    (h : ScanStack c0 c) : ScanStack c0 d := by
  have stack : d.stack = c.stack := congrArg Prod.fst same
  exact ⟨(congrArg Prod.snd same).trans h.1,by rw [stack]; exact h.2⟩

theorem Inert.scan {α : Type} {m : ParserM α} (hm : Inert m) :
    Triple (ScanStack c0) m (fun _ => ScanStack c0) (Above c0) :=
  hm.keeps (fun _ _ same h => h.of_frameState same) fun _ h => h.above

theorem scanStack_push {b : UInt8} (hb : b ≠ scanStackHead) :
    Triple (ScanStack c0) (parserStackPushUint8 b) (fun _ => ScanStack c0) (Above c0) := by
  refine triple_modify fun c ⟨same,bytes,fresh,hs⟩ => ⟨same,b :: bytes,?_,?_⟩
  · simpa [eq_comm] using And.intro hb fresh
  · simp [ParserStack.pushUint8, hs]

def ScanAt (c0 : ParserContext) (stackTop : UInt8) (c : ParserContext) : Prop :=
  ScanStack c0 c ∧ c.stack.stackTopUint8 = stackTop

variable {stackTop : UInt8}

theorem ScanAt.scan {c : ParserContext} (h : ScanAt c0 stackTop c) : ScanStack c0 c := h.1

theorem ScanAt.above {c : ParserContext} (h : ScanAt c0 stackTop c) : Above c0 c := h.1.above

theorem Inert.scanAt {α : Type} {m : ParserM α} (hm : Inert m) :
    Triple (ScanAt c0 stackTop) m (fun _ => ScanAt c0 stackTop) (Above c0) :=
  hm.keeps (fun _ _ same h => ⟨h.1.of_frameState same,
    (congrArg (·.1.stackTopUint8) same).trans h.2⟩) fun _ h => h.above

theorem scanStack_pop (hv : stackTop ≠ scanStackHead) :
    Triple (ScanAt c0 stackTop) (parserStackPopUint8 E) (fun _ => ScanStack c0) (Above c0) := by
  rintro c ⟨⟨same,bytes,fresh,hs⟩,top⟩
  cases bytes with
  | nil => simp [hs] at top; exact absurd top.symm hv
  | cons b bytes =>
    refine ⟨fun _ c' h => ?_,fun f h => ?_⟩
    · obtain ⟨s,pop,rfl⟩ := parserStackPopUint8_ok h
      simp only [hs, ParserStack.popUint8, List.map_cons, List.cons_append,
        Option.some.injEq] at pop
      subst pop
      refine ⟨same,bytes,fun h => fresh (List.mem_cons_of_mem b h),?_⟩
      cases bytes <;> rfl
    · simp only [parserStackPopUint8, bind_apply, get_apply, hs, ParserStack.popUint8,
        List.map_cons, List.cons_append, orUndefined, pure_apply, set_apply] at h
      cases h

theorem scanStack_popHead (coherent : Coherent c0.stack) :
    Triple (ScanAt c0 scanStackHead) (parserStackPopUint8 E)
      (fun _ c => frameState c = frameState c0) (Above c0) := by
  rintro c ⟨⟨same,bytes,fresh,hs⟩,top⟩
  obtain ⟨b,rest,items,cache⟩ := coherent
  cases bytes with
  | cons b' bytes => simp [hs] at top; exact absurd (top ▸ List.mem_cons_self b' bytes) fresh
  | nil =>
    refine ⟨fun _ c' h => ?_,fun f h => ?_⟩
    · obtain ⟨s,pop,rfl⟩ := parserStackPopUint8_ok h
      simp only [hs, ParserStack.popUint8, List.map_nil, List.nil_append,
        Option.some.injEq] at pop
      subst pop
      have restored : ParserStack.ofItems E.layout c0.stack.items = c0.stack := by
        cases hc : c0.stack
        simp only [hc] at items cache
        simp [ParserStack.ofItems, topByte, items, cache]
      exact Prod.ext restored same
    · simp only [parserStackPopUint8, bind_apply, get_apply, hs, ParserStack.popUint8,
        List.map_nil, List.nil_append, orUndefined, pure_apply, set_apply] at h
      cases h

variable {α : Type}

theorem scanAt_done (a : α) :
    Triple (ScanAt c0 stackTop) (pure a) (fun _ => ScanStack c0) (Above c0) :=
  triple_pure a fun _ h => h.scan

theorem scanAt_push {b : UInt8} (hb : b ≠ scanStackHead) :
    Triple (ScanAt c0 stackTop) (parserStackPushUint8 b) (fun _ => ScanStack c0) (Above c0) :=
  (scanStack_push hb).weaken (fun _ h => h.scan) (fun _ _ h => h) fun _ h => h

theorem scanAt_pushed {b : UInt8} (hb : b ≠ scanStackHead) (a : α) :
    Triple (ScanAt c0 stackTop) (parserStackPushUint8 b >>= fun _ => pure a)
      (fun _ => ScanStack c0) (Above c0) :=
  (scanAt_push hb).bind fun _ => triple_pure a fun _ h => h

theorem scanAt_popped (hv : stackTop ≠ scanStackHead) (a : α) :
    Triple (ScanAt c0 stackTop) (parserStackPopUint8 E >>= fun _ => pure a)
      (fun _ => ScanStack c0) (Above c0) :=
  (scanStack_pop hv).bind fun _ => triple_pure a fun _ h => h

open LexerTokenType in
theorem scanPrimaryExpression_triple (type : LexerTokenType) :
    Triple (ScanAt c0 stackTop) (parserScanPrimaryExpression E type stackTop)
      (fun _ => ScanStack c0) (Above c0) := by
  unfold parserScanPrimaryExpression
  split
  all_goals try dsimp only
  all_goals try simp only [pure_bind]
  all_goals repeat' split
  all_goals first
    | exact scanAt_done _
    | exact triple_raiseError (fun _ h => h.above) _
    | exact triple_raiseError_bind (fun _ h => h.above) _ _
    | exact inert_lexerConstructRegexpObject.scanAt.bind fun _ => scanAt_done _
    | exact scanAt_pushed (by decide) _
    | exact scanAt_popped (by rintro rfl; simp_all +decide) _

def PostPrimary (c0 : ParserContext) (stackTop : UInt8) (r : Bool × ScanMode) : ParserContext → Prop :=
  if r.1 then ScanStack c0 else ScanAt c0 stackTop

open LexerTokenType in
theorem scanPostPrimaryExpression_triple (type : LexerTokenType) (mode : ScanMode) :
    Triple (ScanAt c0 stackTop) (parserScanPostPrimaryExpression E type mode)
      (PostPrimary c0 stackTop) (Above c0) := by
  unfold parserScanPostPrimaryExpression
  split
  all_goals first
    | exact triple_pure _ fun _ h => h
    | exact (inert_lexerScanIdentifier false).scanAt.bind fun _ => triple_pure _ fun _ h => h.scan
    | exact ((scanStack_push (by decide)).weaken (fun _ h => h.scan) (fun _ _ h => h)
        fun _ h => h).bind fun _ => triple_pure _ fun _ h => h
    | exact inert_get.scanAt.bind fun _ => triple_ite (fun _ => triple_pure _ fun _ h => h.scan)
        fun _ => triple_pure _ fun _ h => h

theorem scanPrimaryExpressionEnd_triple (type : LexerTokenType) (endType : LexerTokenType) :
    Triple (ScanAt c0 stackTop) (parserScanPrimaryExpressionEnd E type stackTop endType)
      (fun _ => ScanStack c0) (Above c0) := by
  unfold parserScanPrimaryExpressionEnd
  dsimp only
  simp only [pure_bind]
  repeat' first
    | with_reducible refine triple_ite (fun _ => ?_) fun _ => ?_
    | with_reducible exact scanAt_done _
    | with_reducible exact triple_raiseError_bind (fun _ h => h.above) _ _
    | (with_reducible refine scanAt_pushed ?_ _); decide
    | (with_reducible refine scanAt_popped ?_ _); rintro rfl; simp_all [scanStackHead, scanStackColonExpression, scanStackColonStatement, scanStackSquareBracketedExpression, scanStackParenExpression, scanStackObjectLiteral, scanStackParenStatement]
    | with_reducible refine inert_get.scanAt.bind fun _ => ?_

open LexerTokenType in
theorem scanStatement_triple (type : LexerTokenType) (mode : ScanMode) :
    Triple (ScanAt c0 stackTop) (parserScanStatement E type stackTop mode)
      (fun _ => ScanStack c0) (Above c0) := by
  unfold parserScanStatement
  split
  all_goals try dsimp only
  all_goals try simp only [pure_bind]
  all_goals repeat' first
    | with_reducible refine triple_ite (fun _ => ?_) fun _ => ?_
    | with_reducible exact scanAt_done _
    | with_reducible exact triple_pure _ fun _ h => h
    | with_reducible exact triple_raiseError_bind (fun _ h => h.above) _ _
    | with_reducible exact triple_raiseError_bind (fun _ h => ScanStack.above h) _ _
    | (with_reducible refine scanAt_pushed ?_ _); decide
    | (with_reducible refine (scanAt_push ?_).bind fun _ => ?_); decide
    | (with_reducible refine (scanStack_pop ?_).bind fun _ => ?_); rintro rfl; simp_all [scanStackHead,
        scanStackBlockStatement, scanStackBlockExpression, scanStackBlockProperty]
    | with_reducible refine inert_get.scanAt.bind fun _ => ?_
    | with_reducible refine inert_lexerNextToken.scanAt.bind fun _ => ?_
    | with_reducible refine inert_get.scan.bind fun _ => ?_
    | with_reducible refine inert_lexerNextToken.scan.bind fun _ => ?_

theorem inert_scanArgumentList (fuel : Nat) : Inert (scanArgumentList E fuel) := by
  induction fuel with
  | zero => exact inert_outOfFuel
  | succ fuel ih =>
    unfold scanArgumentList
    dsimp only
    simp only [pure_bind]
    repeat' first
      | with_reducible refine inert_ite ?_ ?_
      | with_reducible refine Inert.bind ?_ fun _ => ?_
      | with_reducible exact inert_get
      | with_reducible exact inert_lexerNextToken
      | with_reducible exact inert_raiseError _
      | with_reducible exact inert_pure _
      | exact ih

theorem inert_scanFunctionArguments (fuel : Nat) (stackTop : UInt8) :
    Inert (scanFunctionArguments E fuel stackTop) := by
  unfold scanFunctionArguments
  dsimp only
  simp only [pure_bind]
  repeat' first
    | with_reducible refine inert_ite ?_ ?_
    | with_reducible refine Inert.bind ?_ fun _ => ?_
    | with_reducible exact inert_assert _
    | with_reducible exact inert_get
    | with_reducible exact inert_lexerNextToken
    | with_reducible exact inert_raiseError _
    | with_reducible exact inert_pure _
    | exact inert_scanArgumentList _

theorem scanPropertyName_triple :
    Triple (ScanAt c0 stackTop) (scanPropertyName E stackTop) (fun _ => ScanStack c0) (Above c0) := by
  unfold scanPropertyName
  dsimp only
  simp only [pure_bind]
  refine triple_assert_bind (fun _ h => h.above) _ fun literal => ?_
  repeat' first
    | with_reducible refine triple_ite (fun _ => ?_) fun _ => ?_
    | with_reducible exact scanAt_done _
    | with_reducible exact triple_raiseError_bind (fun _ h => h.above) _ _
    | (with_reducible refine scanAt_pushed ?_ _); decide
    | (with_reducible refine scanAt_popped ?_ _); rintro rfl; simp_all [scanStackHead,
        scanStackObjectLiteral]
    | with_reducible refine inert_get.scanAt.bind fun _ => ?_
    | with_reducible refine inert_lexerNextToken.scanAt.bind fun _ => ?_
    | with_reducible refine (inert_lexerScanIdentifier _).scanAt.bind fun _ => ?_

def AfterPass (c0 : ParserContext) : ScanNext → ParserContext → Prop
  | .done => fun c => frameState c = frameState c0
  | _ => ScanStack c0

theorem Triple.scanNext {P : ParserContext → Prop} {m : ParserM (Bool × ScanMode)}
    (hm : Triple P m (fun _ => ScanStack c0) (Above c0)) :
    Triple P (scanNext <$> m) (AfterPass c0) (Above c0) :=
  hm.map.weaken (fun _ h => h) (fun _ _ ⟨⟨advance,_⟩,e,h⟩ => e ▸ by cases advance <;> exact h)
    fun _ h => h

theorem scanDispatch_triple (coherent : Coherent c0.stack) (fuel : Nat)
    (endType type : LexerTokenType) (mode : ScanMode) :
    Triple (ScanAt c0 stackTop) (scanDispatch E fuel endType type stackTop mode) (AfterPass c0)
      (Above c0) := by
  cases mode with
  | primaryExpression =>
    exact triple_ite (fun _ => triple_pure _ fun _ h => h.scan)
      fun _ => (scanPrimaryExpression_triple type).scanNext
  | primaryExpressionAfterNew => exact (scanPrimaryExpression_triple type).scanNext
  | postPrimaryExpression =>
    refine (scanPostPrimaryExpression_triple type _).bind fun ⟨advance,mode⟩ => ?_
    cases advance
    · exact (scanPrimaryExpressionEnd_triple type endType).scanNext
    · exact triple_pure _ fun _ h => h
  | primaryExpressionEnd => exact (scanPrimaryExpressionEnd_triple type endType).scanNext
  | statement =>
    refine triple_ite (fun head => ?_) fun _ => (scanStatement_triple type _).scanNext
    have top : stackTop = scanStackHead := by simp_all
    subst top
    exact (scanStack_popHead coherent).bind fun _ => triple_pure _ fun _ h => h
  | functionArguments =>
    exact (inert_scanFunctionArguments fuel stackTop).scanAt.bind fun _ =>
      triple_pure _ fun _ h => h.scan
  | propertyName =>
    exact scanPropertyName_triple.map.weaken (fun _ h => h) (fun _ _ ⟨_,e,h⟩ => e ▸ h)
      fun _ h => h

theorem triple_get_top {k : ParserContext → ParserM α} {R : α → ParserContext → Prop}
    {Q : ParserContext → Prop} (hk : ∀ d, Triple (ScanAt c0 d.stack.stackTopUint8) (k d) R Q) :
    Triple (ScanStack c0) (get >>= k) R Q :=
  fun c hc => hk c c ⟨hc,rfl⟩

theorem scanLoop_triple (coherent : Coherent c0.stack) (endType endTypeB : LexerTokenType)
    (fuel : Nat) (mode : ScanMode) (range : LexerRange) :
    Triple (ScanStack c0) (scanLoop E endType endTypeB fuel mode range)
      (fun _ c => frameState c = frameState c0) (Above c0) := by
  induction fuel generalizing mode range with
  | zero => exact triple_outOfFuel (fun _ h => h.above)
  | succ fuel ih =>
    unfold scanLoop
    refine triple_get_top fun d => ?_
    dsimp only
    simp only [pure_bind]
    refine triple_ite (fun _ => triple_raiseError_bind (fun _ h => h.above) _ _) fun _ => ?_
    refine triple_ite (fun head => ?_) fun _ => ?_
    · have top : d.stack.stackTopUint8 = scanStackHead := by simp_all
      rw [top]
      exact (scanStack_popHead coherent).bind fun _ => triple_pure _ fun _ h => h
    · refine (scanDispatch_triple coherent fuel endType _ mode).bind fun next => ?_
      cases next with
      | next mode =>
        exact inert_get.scan.bind fun _ => inert_lexerNextToken.scan.bind fun _ => ih _ _
      | again mode => exact ih _ _
      | done => exact triple_pure _ fun _ h => h

theorem Above.of_frameState {c d : ParserContext} (same : frameState d = frameState c) :
    Above c d :=
  ⟨congrArg (·.2.1) same,[],by rw [show d.stack = c.stack from congrArg Prod.fst same]; rfl⟩

theorem scanStack_start :
    Triple (fun c => frameState c = frameState c0) (parserStackPushUint8 scanStackHead)
      (fun _ => ScanStack c0) (Above c0) := by
  refine triple_modify fun c same => ?_
  have rest : (frameState c).2 = (frameState c0).2 := congrArg Prod.snd same
  refine ⟨rest,[],List.not_mem_nil _,?_⟩
  simp [ParserStack.pushUint8, show c.stack = c0.stack from congrArg Prod.fst same]

theorem parserScanUntil_triple (coherent : Coherent c0.stack) (fuel : Nat)
    (endType : LexerTokenType) :
    Triple (fun c => frameState c = frameState c0) (parserScanUntil E fuel endType)
      (fun _ c => frameState c = frameState c0) (Above c0) := by
  have keep : ∀ {β : Type} {m : ParserM β}, Inert m → Triple (fun c => frameState c = frameState c0) m
      (fun _ c => frameState c = frameState c0) (Above c0) := fun hm =>
    (hm.triple c0).weaken (fun _ h => h) (fun _ _ h => h) fun _ h => Above.of_frameState h
  unfold parserScanUntil
  dsimp only
  simp only [pure_bind]
  have scan : ∀ endType endTypeB mode range, Triple (fun c => frameState c = frameState c0)
      (parserStackPushUint8 scanStackHead >>= fun _ => scanLoop E endType endTypeB fuel mode range)
      (fun _ c => frameState c = frameState c0) (Above c0) := fun _ _ _ _ =>
    scanStack_start.bind fun _ => scanLoop_triple coherent _ _ _ _ _
  refine (keep inert_get).bind fun _ => triple_ite (fun _ => scan _ _ _ _) fun _ =>
    (keep inert_lexerNextToken).bind fun _ => triple_ite (fun _ => ?_) fun _ => scan _ _ _ _
  exact (keep inert_get).bind fun _ => triple_ite (fun _ => (keep inert_lexerNextToken).bind
    fun _ => scan _ _ _ _) fun _ => scan _ _ _ _

end JerryParser
