import JerryParser.FrameInvariants

/-! `PARSER_IN_WIDTH` over the statement boundaries of a run. Every statement function but the
two of the with statement leaves the flag alone; the with start sets it, and the with end's walk
down the stack clears it at the `START` byte and stops at the next with frame. From an entry with
the flag clear it is set at each boundary exactly when a with frame is open in the current
body. -/
namespace JerryParser

open LexerTokenType

set_option synthInstance.maxSize 100000000

section

variable {α β : Type} {E : ParserEnv} {m : ParserM α}

abbrev KeepsInWidth (m : ParserM α) : Prop := Keeps (·.statusFlags.inWidth) m

theorem untouched_inWidth : Untouched fun c => c.statusFlags.inWidth :=
  fun _ _ same => congrArg Prod.fst same

theorem Keeps.inWidth (h : Keeps untouched m) : KeepsInWidth m := h.view untouched_inWidth

instance (priority := low) [KeepsView untouched m] : KeepsView (·.statusFlags.inWidth) m :=
  ⟨KeepsView.keeps.inWidth⟩

instance keepsInWidth_free (p : Nat) :
    KeepsView (·.statusFlags.inWidth) (modify fun ctx => free ctx p : ParserM Unit) :=
  ⟨keeps_modify fun _ => rfl⟩

instance keepsInWidth_updateNode (p : Nat) (f : ParserBranchNode → ParserBranchNode) :
    KeepsView (·.statusFlags.inWidth) (updateNode p f) :=
  ⟨fun _ _ _ ok => by rw [(updateNode_ok ok).2]⟩

instance keepsInWidth_markContinue (p : Nat) : KeepsView (·.statusFlags.inWidth) (markContinue p) :=
  keepsInWidth_updateNode p _

instance keepsInWidth_forwardBranchItem (op : CbcOpcode) (next : Option Nat) :
    KeepsView (·.statusFlags.inWidth) (parserEmitCbcForwardBranchItem E op next) :=
  ⟨keeps_modifyGet fun c => congrArg Prod.fst (untouched_forwardBranch E c op)⟩

instance keepsInWidth_setBreaksLoop (fuel : Nat) (list : Option Nat) :
    KeepsView (·.statusFlags.inWidth) (setBreaksLoop E fuel list) := by
  induction fuel generalizing list <;> cases list <;> simp only [setBreaksLoop] <;> exact inferInstance

instance keepsInWidth_setBreaks (list : Option Nat) :
    KeepsView (·.statusFlags.inWidth) (parserSetBreaksToCurrentPosition E list) := by
  unfold parserSetBreaksToCurrentPosition
  exact inferInstance

instance keepsInWidth_fileIntoLoop (iterator : Nat) (op : CbcOpcode) (isContinue : Bool) :
    KeepsView (·.statusFlags.inWidth) (fileIntoLoop E iterator op isContinue) := by
  unfold fileIntoLoop
  exact inferInstance

instance keepsInWidth_fileIntoLabel (iterator : Nat) (op : CbcOpcode) (r : ParserLabelStatement) :
    KeepsView (·.statusFlags.inWidth) (fileIntoLabel E iterator op r) := by
  unfold fileIntoLabel
  exact inferInstance

instance keepsInWidth_breakLabelWalk (fuel iterator : Nat) (op : CbcOpcode) :
    KeepsView (·.statusFlags.inWidth) (breakLabelWalk E fuel iterator op) := by
  induction fuel generalizing iterator op <;> unfold breakLabelWalk <;> exact inferInstance

instance keepsInWidth_breakWalk (fuel iterator : Nat) (op : CbcOpcode) :
    KeepsView (·.statusFlags.inWidth) (breakWalk E fuel iterator op) := by
  induction fuel generalizing iterator op <;> unfold breakWalk <;> exact inferInstance

instance keepsInWidth_continueLabelWalk (fuel iterator : Nat) (op : CbcOpcode) (loop : Option Nat)
    (forIn : Bool) :
    KeepsView (·.statusFlags.inWidth) (continueLabelWalk E fuel iterator op loop forIn) := by
  induction fuel generalizing iterator op loop forIn <;> unfold continueLabelWalk <;>
    refine ⟨?_⟩ <;>
    repeat' first
      | exact KeepsView.keeps
      | refine Keeps.bind ?_ fun _ => ?_
      | refine keeps_ite ?_ ?_
      | split

instance keepsInWidth_continueWalk (fuel iterator : Nat) (op : CbcOpcode) :
    KeepsView (·.statusFlags.inWidth) (continueWalk E fuel iterator op) := by
  induction fuel generalizing iterator op <;> unfold continueWalk <;> exact inferInstance

instance keepsInWidth_switchCaseLoop (iterator fuel : Nat) (found hasDefault : Bool)
    (casesP : Option Nat) (r : ParserSwitchStatement) :
    KeepsView (·.statusFlags.inWidth) (switchCaseLoop E iterator fuel found hasDefault casesP r) := by
  induction fuel generalizing found hasDefault casesP r <;> unfold switchCaseLoop <;>
    refine ⟨?_⟩ <;>
    repeat' first
      | exact KeepsView.keeps
      | refine Keeps.bind ?_ fun _ => ?_
      | refine keeps_ite ?_ ?_
      | split

structure StatementsKeepInWidth (E : ParserEnv) (fuel : Nat) : Prop where
  switchStart : KeepsInWidth (parserParseSwitchStatementStart E fuel)
  caseStatement : KeepsInWidth (parserParseCaseStatement E fuel)
  breakStatement : KeepsInWidth (parserParseBreakStatement E)
  continueStatement : KeepsInWidth (parserParseContinueStatement E)
  doWhileEnd : KeepsInWidth (parserParseDoWhileStatementEnd E)
  whileEnd : KeepsInWidth (parserParseWhileStatementEnd E)
  forEnd : KeepsInWidth (parserParseForStatementEnd E)
  forInEnd : KeepsInWidth (parserParseForInStatementEnd E)
  switchEnd : KeepsInWidth (parserParseSwitchStatementEnd E)

theorem statementsKeepInWidth (fuel : Nat) : StatementsKeepInWidth E fuel := by
  constructor
  all_goals first
    | unfold parserParseSwitchStatementStart
    | unfold parserParseCaseStatement
    | unfold parserParseBreakStatement
    | unfold parserParseContinueStatement
    | unfold parserParseDoWhileStatementEnd
    | unfold parserParseWhileStatementEnd
    | unfold parserParseForStatementEnd
    | unfold parserParseForInStatementEnd
    | unfold parserParseSwitchStatementEnd
  all_goals exact KeepsView.keeps

end

section

variable {α : Type} {E : ParserEnv} {c c' : ParserContext} {above below : List ParserStackItem}
  {fs : List ParserFrame}

theorem withEndWalk_eq {rest : List ParserFrame} {fuel : Nat} (h : StackAt c above rest below)
    (fuel_ok : rest.length < fuel) :
    withEndWalk E fuel (frameHeight E.layout rest below) c = .ok ((),if withOpen rest then c
      else { c with statusFlags := { c.statusFlags with inWidth := false } }) := by
  induction rest generalizing above fuel with
  | nil =>
    obtain ⟨fuel,rfl⟩ : ∃ n, fuel = n + 1 := ⟨fuel - 1,by simp at fuel_ok; omega⟩
    simp only [withEndWalk, bind_apply, h.readStart]
    rfl
  | cons f rest ih =>
    obtain ⟨fuel,rfl⟩ : ∃ n, fuel = n + 1 := ⟨fuel - 1,by simp at fuel_ok; omega⟩
    simp only [withEndWalk, bind_apply, h.readTag, tag_beq_start, Bool.false_eq_true, if_false,
      withOpen_cons]
    cases f.tag == parserStatementWith
    · simp only [Bool.false_eq_true, if_false, Bool.false_or, bind_apply,
        parserStatementLengthOf_tag, frameHeight_skip, ih h.next (by simpa using fuel_ok)]
    · rfl

variable (E) in
def EndsInWithWalk (fs : List ParserFrame) (m : ParserM Unit) : Prop :=
  ∀ c c', m c = .ok ((),c') → FramesAt E c' fs 0 0 0 →
    c'.statusFlags.inWidth = (c.statusFlags.inWidth && withOpen fs)

theorem EndsInWithWalk.bind {m : ParserM α} {k : α → ParserM Unit} (hm : KeepsInWidth m)
    (hk : ∀ a, EndsInWithWalk E fs (k a)) : EndsInWithWalk E fs (m >>= k) := fun c c' ok h =>
  have ⟨a,d,first,rest⟩ := bind_ok.mp ok
  (hk a d c' rest h).trans (congrArg (· && withOpen fs) (hm c a d first))

theorem endsInWithWalk_withEndWalk :
    EndsInWithWalk E fs (parserStackIteratorInit E >>= fun it => withEndWalk E (it + 1) it) :=
    fun c c' run h => by
  have ⟨n,d,init,walk⟩ := bind_ok.mp run
  cases init
  have same := ((inert_withEndWalk _ _).triple c c rfl).1 () c' walk
  obtain ⟨below,stackAt,height,fuel⟩ := (h.of_frameState same.symm).walk rfl
  rw [height, withEndWalk_eq stackAt (height ▸ fuel), Except.ok.injEq, Prod.mk.injEq] at walk
  rw [← walk.2]
  cases withOpen fs <;> simp

theorem inWidth_of_withStatementEnd (ok : parserParseWithStatementEnd E c = .ok ((),c')) :
    c.statusFlags.inWidth = true := by
  have ⟨_,_,read,ok⟩ := bind_ok.mp ok
  cases read
  have ⟨_,_,asserted,_⟩ := bind_ok.mp ok
  by_contra off
  simp [parserAssert, off] at asserted

theorem endsInWithWalk_withStatementEnd : EndsInWithWalk E fs (parserParseWithStatementEnd E) := by
  unfold parserParseWithStatementEnd
  repeat' first
    | with_reducible exact endsInWithWalk_withEndWalk
    | refine EndsInWithWalk.bind KeepsView.keeps fun _ => ?_

theorem withStatementEnd_flag (r : ParserWithStatement) :
    Triple (FramesAt E · (.withStatement r :: fs) 0 0 0) (parserParseWithStatementEnd E)
      (fun _ c => FramesAt E c fs 0 0 0 ∧ c.statusFlags.inWidth = withOpen fs)
      (Designated E.layout) := fun c h =>
  have run := withStatementEnd_triple r c h
  ⟨fun _ c' ok => have frames := run.1 () c' ok
    ⟨frames,by rw [endsInWithWalk_withStatementEnd c c' ok frames, inWidth_of_withStatementEnd ok,
      Bool.true_and]⟩,run.2⟩

def SetsInWidth (m : ParserM α) : Prop :=
  ∀ c a c', m c = .ok (a,c') → c'.statusFlags.inWidth = true

theorem SetsInWidth.after {β : Type} {m : ParserM β} {k : β → ParserM α}
    (hk : ∀ b, SetsInWidth (k b)) : SetsInWidth (m >>= k) := fun _ _ _ ok =>
  have ⟨b,d,_,rest⟩ := bind_ok.mp ok
  hk b d _ _ rest

theorem SetsInWidth.bind {β : Type} {m : ParserM β} {k : β → ParserM α} (hm : SetsInWidth m)
    (hk : ∀ b, KeepsInWidth (k b)) : SetsInWidth (m >>= k) := fun _ _ _ ok =>
  have ⟨b,d,first,rest⟩ := bind_ok.mp ok
  (hk b d _ _ rest).trans (hm _ b d first)

theorem setsInWidth_withStatementStart : SetsInWidth (parserParseWithStatementStart E) := by
  unfold parserParseWithStatementStart
  refine SetsInWidth.after fun _ => ?_
  dsimp only
  split <;>
  refine SetsInWidth.after fun _ => SetsInWidth.after fun _ => SetsInWidth.bind ?_ fun _ =>
    KeepsView.keeps
  all_goals
    intro c _ _ ok
    cases ok
    rfl

end

def FlagOnFrames (fs : List ParserFrame) (c : ParserContext) : Prop :=
  c.statusFlags.inWidth = withOpen fs

section

variable {α : Type} {E : ParserEnv} {fs : List ParserFrame} {f : ParserFrame} {w : Bool}
  {c : ParserContext} {P Q : ParserContext → Prop} {m : ParserM α} {R : α → ParserContext → Prop}

theorem Triple.keepingInWidth (h : Triple P m R Q) (keeps : KeepsInWidth m) :
    Triple (fun c => P c ∧ c.statusFlags.inWidth = w) m
      (fun a c => R a c ∧ c.statusFlags.inWidth = w) Q := fun c ⟨hc,hw⟩ =>
  ⟨fun a c' ok => ⟨(h c hc).1 a c' ok,(keeps c a c' ok).trans hw⟩,(h c hc).2⟩

theorem WithBoundary.flagOnFrames (h : WithBoundary E w c) (hw : c.statusFlags.inWidth = w) :
    InvariantAt E FlagOnFrames c :=
  have ⟨_,o,h⟩ := h
  ⟨_,h,hw.trans o.symm⟩

theorem Triple.flagRewriting
    (hm : ∀ fs, Triple (FramesAt E · fs 0 0 0) m (fun _ => WithBoundary E (withOpen fs))
      (Designated E.layout)) (keeps : KeepsInWidth m) :
    Triple (InvariantAt E FlagOnFrames) m (fun _ => InvariantAt E FlagOnFrames)
      (Designated E.layout) :=
  triple_exists fun fs => ((hm fs).keepingInWidth keeps).weaken (fun _ h => h)
    (fun _ _ ⟨h,hw⟩ => h.flagOnFrames hw) fun _ h => h

theorem Triple.flagOpening {tags : List UInt8}
    (hm : ∀ fs, Triple (FramesAt E · fs 0 0 0) m
      (fun _ c => ∃ f, f.tag ∈ tags ∧ FramesAt E c (f :: fs) 0 0 0) (Designated E.layout))
    (keeps : KeepsInWidth m) (notWith : parserStatementWith ∉ tags) :
    Triple (InvariantAt E FlagOnFrames) m (fun _ => InvariantAt E FlagOnFrames)
      (Designated E.layout) :=
  triple_exists fun fs => ((hm fs).keepingInWidth keeps).weaken (fun _ h => h)
    (fun _ _ ⟨⟨_,tagged,h⟩,hw⟩ =>
      ⟨_,h,by rw [FlagOnFrames, hw, withOpen_cons_of_ne (ne_of_mem_of_not_mem tagged notWith)]⟩)
    fun _ h => h

theorem Triple.flagClosing
    (hm : Triple (FramesAt E · (f :: fs) 0 0 0) m (fun _ c => FramesAt E c fs 0 0 0)
      (Designated E.layout)) (keeps : KeepsInWidth m) (notWith : f.tag ≠ parserStatementWith) :
    Triple (fun c => FramesAt E c (f :: fs) 0 0 0 ∧ FlagOnFrames (f :: fs) c) m
      (fun _ c => FramesAt E c fs 0 0 0 ∧ FlagOnFrames fs c) (Designated E.layout) :=
  (hm.keepingInWidth keeps).weaken (fun _ ⟨h,hw⟩ => ⟨h,hw.trans (withOpen_cons_of_ne notWith fs)⟩)
    (fun _ _ h => h) fun _ h => h

theorem Triple.flagEnding
    (hm : Triple (FramesAt E · (f :: fs) 0 0 0) m (fun _ => WithBoundary E (withOpen fs))
      (Designated E.layout)) (keeps : KeepsInWidth m) (notWith : f.tag ≠ parserStatementWith) :
    Triple (fun c => FramesAt E c (f :: fs) 0 0 0 ∧ FlagOnFrames (f :: fs) c) m
      (fun _ => InvariantAt E FlagOnFrames) (Designated E.layout) :=
  (hm.keepingInWidth keeps).weaken (fun _ ⟨h,hw⟩ => ⟨h,hw.trans (withOpen_cons_of_ne notWith fs)⟩)
    (fun _ _ ⟨h,hw⟩ => h.flagOnFrames hw) fun _ h => h

theorem withStatementStart_flag :
    Triple (InvariantAt E FlagOnFrames) (parserParseWithStatementStart E)
      (fun _ => InvariantAt E FlagOnFrames) (Designated E.layout) :=
  triple_exists fun _ c ⟨h,_⟩ =>
    have run := withStatementStart_triple c h
    ⟨fun _ c' ok =>
      have ⟨_,tagged,h'⟩ := run.1 () c' ok
      ⟨_,h',by rw [FlagOnFrames, setsInWidth_withStatementStart c () c' ok, withOpen_cons,
        List.mem_singleton.mp tagged, beq_self_eq_true, Bool.true_or]⟩,run.2⟩

omit E in
theorem ParserFrame.tag_ne_with
    (h : (match f with | .withStatement _ => true | _ => false) = false) :
    f.tag ≠ parserStatementWith :=
  ne_of_beq_false (by rw [ParserFrame.tag_beq_with]; exact h)

variable (E) in
theorem flagInvariant : FrameInvariant E FlagOnFrames where
  keep _ _ _ same h := (congrArg Prod.fst same).trans h
  block _ _ := by rw [FlagOnFrames, FlagOnFrames, withOpen_cons_of_ne (ParserFrame.tag_ne_with rfl)]
  elseEnd _ _ _ h := h.trans (withOpen_cons_of_ne (ParserFrame.tag_ne_with rfl) _)
  labelEnd _ _ _ _ h ok := ((keepsInWidth_setBreaks _).keeps _ _ _ ok).trans
    (h.trans (withOpen_cons_of_ne (ParserFrame.tag_ne_with rfl) _))
  ifStart := Triple.flagOpening (fun _ => ifStatementStart_triple)
    (statementsKeep 0).ifStart.inWidth (by decide)
  switchStart fuel := Triple.flagOpening (fun _ => switchStatementStart_triple fuel)
    (statementsKeepInWidth fuel).switchStart (by decide)
  doStart := Triple.flagOpening (fun _ => doStatementStart_triple)
    (statementsKeep 0).doStart.inWidth (by decide)
  whileStart fuel := Triple.flagOpening (fun _ => whileStatementStart_triple fuel)
    (statementsKeep fuel).whileStart.inWidth (by decide)
  forStart fuel := Triple.flagOpening (fun _ => forStatementStart_triple fuel)
    (statementsKeep fuel).forStart.inWidth (by decide)
  tryStart := Triple.flagOpening (fun _ => tryStatementStart_triple)
    (statementsKeep 0).tryStart.inWidth (by decide)
  withStart := withStatementStart_flag
  labelStart _ := Triple.flagOpening (fun _ => labelStart_triple _) KeepsView.keeps
    (by decide)
  caseStatement fuel := Triple.flagRewriting (fun _ => caseStatement_triple fuel)
    (statementsKeepInWidth fuel).caseStatement
  breakStatement := Triple.flagRewriting (fun _ => breakStatement_triple)
    (statementsKeepInWidth 0).breakStatement
  continueStatement := Triple.flagRewriting (fun _ => continueStatement_triple)
    (statementsKeepInWidth 0).continueStatement
  ifEnd r _ := Triple.flagEnding (ifStatementEnd_triple r) (statementsKeep 0).ifEnd.inWidth
    (ParserFrame.tag_ne_with rfl)
  tryEnd r _ := Triple.flagEnding (tryStatementEnd_triple r) (statementsKeep 0).tryEnd.inWidth
    (ParserFrame.tag_ne_with rfl)
  doWhileEnd loop r _ := Triple.flagClosing (doWhileStatementEnd_triple loop r)
    (statementsKeepInWidth 0).doWhileEnd (ParserFrame.tag_ne_with rfl)
  whileEnd loop r _ := Triple.flagClosing (whileStatementEnd_triple loop r)
    (statementsKeepInWidth 0).whileEnd (ParserFrame.tag_ne_with rfl)
  forEnd loop r _ := Triple.flagClosing (forStatementEnd_triple loop r)
    (statementsKeepInWidth 0).forEnd (ParserFrame.tag_ne_with rfl)
  forInEnd loop r _ := Triple.flagClosing (forInStatementEnd_triple loop r)
    (statementsKeepInWidth 0).forInEnd (ParserFrame.tag_ne_with rfl)
  withEnd r _ := (withStatementEnd_flag r).weaken (fun _ h => h.1) (fun _ _ h => h) fun _ h => h
  switchEnd hasDefault loop r _ := Triple.flagClosing (switchStatementEnd_triple hasDefault loop r)
    (statementsKeepInWidth 0).switchEnd (ParserFrame.tag_ne_with rfl)

/-- `PARSER_IN_WIDTH` over a run of `parser_parse_statements` entered with it clear: at every
statement boundary it is set exactly when a with frame is open above the `START` byte of the
current body. The with start returns with it set, and the with end leaves it set exactly when
a with frame is still open below the one it pops. -/
theorem withFlagTracksFrames {c0 c : ParserContext} (entry : StatementsEntry c0)
    (clear : c0.statusFlags.inWidth = false) (reach : ReachedFrom E c0 c) :
    ((∃ fs, Framed E.layout c.stack c.lastStatement fs) ∧
      ∀ fs, Framed E.layout c.stack c.lastStatement fs →
        (c.statusFlags.inWidth = true ↔ ∃ f ∈ fs, f.tag = parserStatementWith)) ∧
    (∀ d d', parserParseWithStatementStart E d = .ok ((),d') → d'.statusFlags.inWidth = true) ∧
    ∀ r fs d d', FramesAt E d (.withStatement r :: fs) 0 0 0 →
      parserParseWithStatementEnd E d = .ok ((),d') →
      (d'.statusFlags.inWidth = true ↔ ∃ f ∈ fs, f.tag = parserStatementWith) := by
  obtain ⟨fs,h,hw⟩ := reach.invariantAt (flagInvariant E) entry clear
  refine ⟨⟨⟨fs,h.framed⟩,fun gs framed => ?_⟩,fun d d' ok => setsInWidth_withStatementStart d () d' ok,
    fun r gs d d' h ok => ?_⟩
  · rw [Framed.unique _ framed h.framed, hw, withOpen_iff]
  · rw [((withStatementEnd_flag r d h).1 () d' ok).2, withOpen_iff]

def operandExpression (lx : Lexer) (_ : ParseExprOptions) (s : ExprState) : SampleResult := do
  let (s,bytes) := sampleEmit .pushIdent s.token.litLocation.charP s 0
  pure (← sampleAdvance lx s,bytes)

def operandEnv (src : List SourceLexeme) : ParserEnv :=
  { sampleEnv src with parseExpression := operandExpression (lexemeLexer src) }

def withSource : List SourceLexeme := [kw "with",pu leftParen,kw "x",pu rightParen,pu leftBrace]

theorem withFlagTracksFrames_withSource :
    ∃ c, ReachedFrom (operandEnv withSource) (sampleContext withSource programFlags) c ∧
      c.statusFlags.inWidth = true ∧
      (((∃ fs, Framed (operandEnv withSource).layout c.stack c.lastStatement fs) ∧
        ∀ fs, Framed (operandEnv withSource).layout c.stack c.lastStatement fs →
          (c.statusFlags.inWidth = true ↔ ∃ f ∈ fs, f.tag = parserStatementWith)) ∧
      (∀ d d', parserParseWithStatementStart (operandEnv withSource) d = .ok ((),d') →
        d'.statusFlags.inWidth = true) ∧
      ∀ r fs d d', FramesAt (operandEnv withSource) d (.withStatement r :: fs) 0 0 0 →
        parserParseWithStatementEnd (operandEnv withSource) d = .ok ((),d') →
        (d'.statusFlags.inWidth = true ↔ ∃ f ∈ fs, f.tag = parserStatementWith)) := by
  have reach : ReachedFrom (operandEnv withSource) (sampleContext withSource programFlags) _ :=
    .pass 8 (.pass 8 (.start 8 rfl) rfl rfl) rfl rfl
  exact ⟨_,reach,rfl,withFlagTracksFrames
    (⟨rfl,rfl,rfl,rfl⟩ : StatementsEntry (sampleContext withSource programFlags)) rfl reach⟩

end

end JerryParser
