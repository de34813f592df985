import JerryParser.Boundaries
import JerryParser.ScanRuns

/-! The last-opcode cache at the statement boundaries. A pass of the main loop of
`parser_parse_statements` that goes on ends in code that flushes the cache, or in code that
leaves an empty cache empty: the pre-scanner, which changes only the lexer's token and position
and the stack, the stack and branch-node operations, and the emits that flush first. So the
cache is empty at the start of every pass, unless the pass starts on the token the directive
prologue held back behind `LEXER_EXPRESSION_START` with its string literal cached; and a loop
records as its start offset the code size at which its first instruction will be written. -/
namespace JerryParser

open LexerTokenType

section

variable {α β : Type} {E : ParserEnv}

def ScanOnly (c d : ParserContext) : Prop :=
  ∃ t p s, d = { c with token := t, sourceP := p, stack := s }

theorem ScanOnly.refl (c : ParserContext) : ScanOnly c c := ⟨c.token,c.sourceP,c.stack,rfl⟩

theorem ScanOnly.read {c0 c : ParserContext} (h : ScanOnly c0 c) (t : LexerToken) (p : Nat) :
    ScanOnly c0 { c with token := t, sourceP := p } := by
  obtain ⟨_,_,s,rfl⟩ := h
  exact ⟨t,p,s,rfl⟩

theorem ScanOnly.restack {c0 c : ParserContext} (h : ScanOnly c0 c) (s : ParserStack) :
    ScanOnly c0 { c with stack := s } := by
  obtain ⟨t,p,_,rfl⟩ := h
  exact ⟨t,p,s,rfl⟩

class Scanning (m : ParserM α) : Prop where
  triple : ∀ c0, Triple (ScanOnly c0) m (fun _ => ScanOnly c0) (ScanOnly c0)

theorem Scanning.bind {m : ParserM α} {k : α → ParserM β} (hm : Scanning m)
    (hk : ∀ a, Scanning (k a)) : Scanning (m >>= k) :=
  ⟨fun c0 => (hm.triple c0).bind fun a => (hk a).triple c0⟩

theorem Scanning.map {m : ParserM α} {g : α → β} (hm : Scanning m) : Scanning (g <$> m) :=
  ⟨fun c0 => (hm.triple c0).map.weaken (fun _ h => h) (fun _ _ ⟨_,_,h⟩ => h) fun _ h => h⟩

theorem scanning_pure (a : α) : Scanning (pure a : ParserM α) :=
  ⟨fun _ => triple_pure a fun _ h => h⟩

theorem scanning_get : Scanning (get : ParserM ParserContext) := ⟨fun _ => triple_get fun _ h => h⟩

theorem scanning_ite {p : Prop} {_ : Decidable p} {m m' : ParserM α} (hm : Scanning m)
    (hm' : Scanning m') : Scanning (if p then m else m') := by
  split
  · exact hm
  · exact hm'

theorem scanning_raiseError (e : ParserError) : Scanning (parserRaiseError e : ParserM α) :=
  ⟨fun _ => triple_raiseError (fun _ h => h) e⟩

theorem scanning_undefined : Scanning (parserUndefined : ParserM α) :=
  ⟨fun _ => triple_undefined fun _ h => h⟩

theorem scanning_outOfFuel : Scanning (fun ctx => .error ⟨.outOfFuel,ctx⟩ : ParserM α) :=
  ⟨fun _ => triple_outOfFuel fun _ h => h⟩

theorem scanning_assert (b : Bool) : Scanning (parserAssert b) :=
  ⟨fun _ => triple_assert (fun _ h => h) b fun _ h _ => h⟩

theorem scanning_orUndefined (o : Option α) : Scanning (orUndefined o) :=
  ⟨fun _ => triple_orUndefined (fun _ h => h) o fun _ _ h _ => h⟩

theorem scanning_lexerStep (r : Except ParserError (LexerToken × Nat)) : Scanning (lexerStep r) := by
  unfold lexerStep
  split
  · exact ⟨fun _ => triple_modify fun _ h => h.read _ _⟩
  · exact scanning_raiseError _

theorem scanning_lexer (step : ParserContext → Except ParserError (LexerToken × Nat)) :
    Scanning (get >>= fun ctx => lexerStep (step ctx)) :=
  scanning_get.bind fun _ => scanning_lexerStep _

theorem scanning_nextToken : Scanning (lexerNextToken E) := scanning_lexer _

theorem scanning_scanIdentifier (b : Bool) : Scanning (lexerScanIdentifier E b) := scanning_lexer _

theorem scanning_constructRegexp : Scanning (lexerConstructRegexpObject E) := scanning_lexer _

theorem scanning_push (b : UInt8) : Scanning (parserStackPushUint8 b) :=
  ⟨fun _ => triple_modify fun _ h => h.restack _⟩

theorem scanning_pop : Scanning (parserStackPopUint8 E) :=
  ⟨fun _ => triple_get_bind fun d => (triple_orUndefined (fun _ h => h.1) _ fun _ _ h _ => h).bind
    fun s c ⟨h,same⟩ => ⟨fun _ _ ok => by subst same; cases ok; exact h.restack s,
      fun _ err => nomatch err⟩⟩

instance {m : ParserM α} {k : α → ParserM β} [Scanning m] [∀ a, Scanning (k a)] :
    Scanning (m >>= k) :=
  Scanning.bind ‹_› fun _ => inferInstance

instance {p : Prop} [Decidable p] {m m' : ParserM α} [Scanning m] [Scanning m'] :
    Scanning (if p then m else m') :=
  scanning_ite ‹_› ‹_›

attribute [instance] scanning_pure scanning_get scanning_raiseError scanning_undefined
  scanning_outOfFuel scanning_assert scanning_orUndefined scanning_nextToken scanning_scanIdentifier
  scanning_constructRegexp scanning_push scanning_pop

set_option synthInstance.maxSize 100000

theorem scanning_scanHelpers (type endType : LexerTokenType) (stackTop : UInt8) (mode : ScanMode) :
    Scanning (parserScanPrimaryExpression E type stackTop) ∧
      Scanning (parserScanPostPrimaryExpression E type mode) ∧
      Scanning (parserScanPrimaryExpressionEnd E type stackTop endType) ∧
      Scanning (parserScanStatement E type stackTop mode) ∧
      Scanning (scanPropertyName E stackTop) := by
  refine ⟨?_,?_,?_,?_,?_⟩
  all_goals first
    | unfold parserScanPrimaryExpression; split
    | unfold parserScanPostPrimaryExpression; split
    | unfold parserScanPrimaryExpressionEnd
    | unfold parserScanStatement; split
    | unfold scanPropertyName
  all_goals exact inferInstance

instance scanning_scanArgumentList (fuel : Nat) : Scanning (scanArgumentList E fuel) := by
  induction fuel <;> unfold scanArgumentList <;> exact inferInstance

theorem scanning_scanFunctionArguments (fuel : Nat) (stackTop : UInt8) :
    Scanning (scanFunctionArguments E fuel stackTop) := by
  unfold scanFunctionArguments
  exact inferInstance

theorem scanning_scanDispatch (fuel : Nat) (endType type : LexerTokenType) (stackTop : UInt8)
    (mode : ScanMode) : Scanning (scanDispatch E fuel endType type stackTop mode) := by
  obtain ⟨primary,post,primaryEnd,statement,propertyName⟩ :=
    scanning_scanHelpers (E := E) type endType stackTop .statement
  cases mode with
  | primaryExpression => exact scanning_ite (scanning_pure _) primary.map
  | primaryExpressionAfterNew => exact primary.map
  | postPrimaryExpression =>
    exact (scanning_scanHelpers type endType stackTop _).2.1.bind fun _ =>
      scanning_ite (scanning_pure _) primaryEnd.map
  | primaryExpressionEnd => exact primaryEnd.map
  | statement =>
    exact scanning_ite (scanning_pop.bind fun _ => scanning_pure _) statement.map
  | functionArguments =>
    exact (scanning_scanFunctionArguments fuel stackTop).bind fun _ => scanning_pure _
  | propertyName => exact propertyName.map

attribute [instance] scanning_scanDispatch

theorem scanning_scanLoop (endType endTypeB : LexerTokenType) (fuel : Nat) (mode : ScanMode)
    (range : LexerRange) : Scanning (scanLoop E endType endTypeB fuel mode range) := by
  induction fuel generalizing mode range with
  | zero => exact scanning_outOfFuel
  | succ fuel ih =>
    unfold scanLoop
    dsimp only
    repeat' first
      | exact inferInstance
      | refine Scanning.bind ?_ fun _ => ?_
      | refine scanning_ite ?_ ?_
      | split

theorem scanning_parserScanUntil (fuel : Nat) (endType : LexerTokenType) :
    Scanning (parserScanUntil E fuel endType) := by
  unfold parserScanUntil
  have scan : ∀ endType endTypeB mode range, Scanning (parserStackPushUint8 scanStackHead >>=
      fun _ => scanLoop E endType endTypeB fuel mode range) := fun _ _ _ _ =>
    (scanning_push _).bind fun _ => scanning_scanLoop _ _ _ _ _
  refine scanning_get.bind fun _ => scanning_ite (scan _ _ _ _) ?_
  refine scanning_nextToken.bind fun _ => ?_
  split
  · exact scanning_get.bind fun _ => scanning_ite (scanning_nextToken.bind fun _ => scan _ _ _ _)
      (scanning_pure _ |>.bind fun _ => scan _ _ _ _)
  · exact scan _ _ _ _

attribute [instance] scanning_parserScanUntil

end

def CacheEmpty (c : ParserContext) : Prop := c.lastCbcOpcode = none

section

variable {α β : Type} {E : ParserEnv} {m : ParserM α} {k : α → ParserM β}

def KeepsEmpty (m : ParserM α) : Prop := Triple CacheEmpty m (fun _ => CacheEmpty) fun _ => True

def Empties (m : ParserM α) : Prop := Triple (fun _ => True) m (fun _ => CacheEmpty) fun _ => True

theorem KeepsEmpty.bind (hm : KeepsEmpty m) (hk : ∀ a, KeepsEmpty (k a)) : KeepsEmpty (m >>= k) :=
  Triple.bind hm hk

theorem Empties.bind (hm : Empties m) (hk : ∀ a, KeepsEmpty (k a)) : Empties (m >>= k) :=
  Triple.bind hm hk

theorem empties_after (m : ParserM α) (hk : ∀ a, Empties (k a)) : Empties (m >>= k) :=
  Triple.bind (R := fun _ _ => True) (fun _ _ => ⟨fun _ _ _ => trivial,fun _ _ => trivial⟩) hk

theorem Empties.keeps (h : Empties m) : KeepsEmpty m :=
  h.weaken (fun _ _ => trivial) (fun _ _ h => h) fun _ h => h

theorem Scanning.keepsEmpty (h : Scanning m) : KeepsEmpty m := fun c hc =>
  ⟨fun a c' ok => by obtain ⟨_,_,_,rfl⟩ := (h.triple c c (.refl c)).1 a c' ok; exact hc,
    fun _ _ => trivial⟩

theorem keepsEmpty_ite {p : Prop} {_ : Decidable p} {m' : ParserM α} (hm : KeepsEmpty m)
    (hm' : KeepsEmpty m') : KeepsEmpty (if p then m else m') := by
  split
  · exact hm
  · exact hm'

theorem empties_ite {p : Prop} {_ : Decidable p} {m' : ParserM α} (hm : Empties m) (hm' : Empties m') :
    Empties (if p then m else m') := by
  split
  · exact hm
  · exact hm'

theorem keepsEmpty_modify {g : ParserContext → ParserContext}
    (hg : ∀ c, (g c).lastCbcOpcode = c.lastCbcOpcode) : KeepsEmpty (modify g : ParserM Unit) :=
  triple_modify fun c h => (hg c).trans h

theorem keepsEmpty_of_ok (h : ∀ c a c', m c = .ok (a,c') → c'.lastCbcOpcode = c.lastCbcOpcode) :
    KeepsEmpty m :=
  fun c hc => ⟨fun a c' ok => (h c a c' ok).trans hc,fun _ _ => trivial⟩

class KeepsCache (m : ParserM α) : Prop where
  keepsEmpty : KeepsEmpty m

class EmptiesCache (m : ParserM α) : Prop where
  empties : Empties m

instance (priority := low) [Scanning m] : KeepsCache m := ⟨Scanning.keepsEmpty ‹_›⟩

instance (priority := low) [EmptiesCache m] : KeepsCache m := ⟨EmptiesCache.empties.keeps⟩

instance [KeepsCache m] [∀ a, KeepsCache (k a)] : KeepsCache (m >>= k) :=
  ⟨KeepsCache.keepsEmpty.bind fun _ => KeepsCache.keepsEmpty⟩

instance {p : Prop} [Decidable p] {m' : ParserM α} [KeepsCache m] [KeepsCache m'] :
    KeepsCache (if p then m else m') :=
  ⟨keepsEmpty_ite KeepsCache.keepsEmpty KeepsCache.keepsEmpty⟩

instance [EmptiesCache m] [∀ a, KeepsCache (k a)] : EmptiesCache (m >>= k) :=
  ⟨EmptiesCache.empties.bind fun _ => KeepsCache.keepsEmpty⟩

instance (priority := low) [∀ a, EmptiesCache (k a)] : EmptiesCache (m >>= k) :=
  ⟨empties_after m fun _ => EmptiesCache.empties⟩

instance {p : Prop} [Decidable p] {m' : ParserM α} [EmptiesCache m] [EmptiesCache m'] :
    EmptiesCache (if p then m else m') :=
  ⟨empties_ite EmptiesCache.empties EmptiesCache.empties⟩

instance keepsEmpty_raiseError_bind (e : ParserError) (k : α → ParserM β) :
    KeepsCache (parserRaiseError e >>= k) :=
  ⟨triple_raiseError_bind (fun _ _ => trivial) e k⟩

instance empties_raiseError_bind (e : ParserError) (k : α → ParserM β) :
    EmptiesCache (parserRaiseError e >>= k) :=
  ⟨triple_raiseError_bind (fun _ _ => trivial) e k⟩

instance keepsEmpty_expectIdentifier : KeepsCache (lexerExpectIdentifier E) :=
  ⟨(scanning_lexer _).keepsEmpty⟩

instance keepsEmpty_stackPush (r : ParserRecord) : KeepsCache (parserStackPush E r) :=
  ⟨keepsEmpty_modify fun _ => rfl⟩

instance keepsEmpty_initLast : KeepsCache (initLastStatement E) := ⟨keepsEmpty_modify fun _ => rfl⟩

instance keepsEmpty_clearLast : KeepsCache (modify fun ctx => { ctx with lastStatement := none }) :=
  ⟨keepsEmpty_modify fun _ => rfl⟩

instance keepsEmpty_setRange (range : LexerRange) : KeepsCache (parserSetRange range) :=
  ⟨keepsEmpty_modify fun _ => rfl⟩

instance keepsEmpty_setToken (token : LexerToken) :
    KeepsCache (modify fun ctx => { ctx with token := token }) :=
  ⟨keepsEmpty_modify fun _ => rfl⟩

instance keepsEmpty_setStrict :
    KeepsCache (modify fun ctx => { ctx with statusFlags := { ctx.statusFlags with isStrict := true } }) :=
  ⟨keepsEmpty_modify fun _ => rfl⟩

instance keepsEmpty_clearInWidth :
    KeepsCache (modify fun ctx => { ctx with statusFlags := { ctx.statusFlags with inWidth := false } }) :=
  ⟨keepsEmpty_modify fun _ => rfl⟩

instance keepsEmpty_stackPop : KeepsCache (parserStackPop E) :=
  ⟨keepsEmpty_of_ok fun _ _ _ ok => by obtain ⟨_,_,rfl⟩ := parserStackPop_ok ok; rfl⟩

instance keepsEmpty_popBytes (n : Nat) : KeepsCache (parserStackPopBytes E n) :=
  ⟨keepsEmpty_of_ok fun _ _ _ ok => by obtain ⟨_,_,rfl⟩ := parserStackPopBytes_ok ok; rfl⟩

instance keepsEmpty_changeLast (b : UInt8) : KeepsCache (parserStackChangeLastUint8 b) :=
  ⟨keepsEmpty_of_ok fun _ _ _ ok => by obtain ⟨_,_,rfl⟩ := parserStackChangeLastUint8_ok ok; rfl⟩

instance keepsEmpty_iteratorInit : KeepsCache (parserStackIteratorInit E) :=
  ⟨keepsEmpty_of_ok fun _ _ _ ok => by cases ok; rfl⟩

instance keepsEmpty_iteratorRead (it : Nat) : KeepsCache (parserStackIteratorRead E it) :=
  ⟨keepsEmpty_of_ok fun _ _ _ ok => by rw [(parserStackIteratorRead_ok ok).2]⟩

instance keepsEmpty_iteratorReadUint8 (it : Nat) : KeepsCache (parserStackIteratorReadUint8 E it) :=
  ⟨keepsEmpty_of_ok fun _ _ _ ok => by rw [(parserStackIteratorReadUint8_ok ok).2]⟩

instance keepsEmpty_iteratorWrite (it : Nat) (r : ParserRecord) :
    KeepsCache (parserStackIteratorWrite E it r) :=
  ⟨keepsEmpty_of_ok fun _ _ _ ok => by obtain ⟨_,_,rfl⟩ := parserStackIteratorWrite_ok ok; rfl⟩

set_option synthInstance.maxSize 10000000

instance keepsEmpty_statementLengthOf (type : UInt8) : KeepsCache (parserStatementLengthOf E type) := by
  unfold parserStatementLengthOf
  split <;> exact inferInstance

instance keepsEmpty_switchRecordIterator : KeepsCache (switchRecordIterator E) := by
  unfold switchRecordIterator
  exact inferInstance

instance keepsEmpty_free (p : Nat) : KeepsCache (modify fun ctx => free ctx p : ParserM Unit) :=
  ⟨keepsEmpty_modify fun _ => rfl⟩

instance keepsEmpty_restoreRange (range : LexerRange) (token : LexerToken) :
    KeepsCache (restoreRange range token) := by
  unfold restoreRange
  exact inferInstance

instance keepsEmpty_updateNode (p : Nat) (g : ParserBranchNode → ParserBranchNode) :
    KeepsCache (updateNode p g) :=
  ⟨keepsEmpty_of_ok fun _ _ _ ok => by rw [(updateNode_ok ok).2]⟩

instance empties_flush : EmptiesCache (parserFlushCbc E) :=
  ⟨triple_modify fun c _ => flushCbc_lastCbcOpcode c⟩

instance empties_forwardBranch (op : CbcOpcode) : EmptiesCache (parserEmitCbcForwardBranch E op) :=
  ⟨triple_modifyGet _ fun c _ => flushCbc_lastCbcOpcode c⟩

instance empties_forwardBranchItem (op : CbcOpcode) (next : Option Nat) :
    EmptiesCache (parserEmitCbcForwardBranchItem E op next) :=
  ⟨triple_modifyGet _ fun c _ => flushCbc_lastCbcOpcode c⟩

instance empties_backwardBranch (op : CbcOpcode) (offset : Nat) :
    EmptiesCache (parserEmitCbcBackwardBranch E op offset) :=
  ⟨triple_modify fun c _ => flushCbc_lastCbcOpcode c⟩

instance empties_setBranch (branch : ParserBranch) :
    EmptiesCache (parserSetBranchToCurrentPosition E branch) :=
  ⟨triple_modify fun c _ => flushCbc_lastCbcOpcode c⟩

instance empties_dropCache : EmptiesCache (setLastCbcOpcode none) := ⟨triple_modify fun _ _ => rfl⟩

instance keepsEmpty_setBreaksLoop (fuel : Nat) (list : Option Nat) :
    KeepsCache (setBreaksLoop E fuel list) := by
  induction fuel generalizing list with
  | zero => cases list <;> simp only [setBreaksLoop] <;> exact inferInstance
  | succ fuel ih => cases list <;> simp only [setBreaksLoop] <;> exact inferInstance

instance keepsEmpty_setContinuesLoop (fuel : Nat) (list : Option Nat) :
    KeepsCache (setContinuesLoop E fuel list) := by
  induction fuel generalizing list with
  | zero => cases list <;> simp only [setContinuesLoop] <;> exact inferInstance
  | succ fuel ih => cases list <;> simp only [setContinuesLoop] <;> exact inferInstance

instance keepsEmpty_setBreaks (list : Option Nat) :
    KeepsCache (parserSetBreaksToCurrentPosition E list) := by
  unfold parserSetBreaksToCurrentPosition
  exact inferInstance

instance keepsEmpty_setContinues (list : Option Nat) :
    KeepsCache (parserSetContinuesToCurrentPosition E list) := by
  unfold parserSetContinuesToCurrentPosition
  exact inferInstance

instance keepsEmpty_withEndWalk (fuel iterator : Nat) : KeepsCache (withEndWalk E fuel iterator) := by
  induction fuel generalizing iterator with
  | zero => exact ⟨scanning_undefined.keepsEmpty⟩
  | succ fuel ih =>
    unfold withEndWalk
    exact inferInstance

instance keepsEmpty_labelWalk (labelLiteral : LexerLitLocation) (fuel iterator : Nat) :
    KeepsCache (labelWalk E labelLiteral fuel iterator) := by
  induction fuel generalizing iterator with
  | zero => exact ⟨scanning_undefined.keepsEmpty⟩
  | succ fuel ih =>
    unfold labelWalk
    exact inferInstance

instance keepsEmpty_parseLabel (labelLiteral : LexerLitLocation) :
    KeepsCache (parserParseLabel E labelLiteral) := by
  unfold parserParseLabel
  exact inferInstance

instance keepsEmpty_ifStatementEnd : KeepsCache (parserParseIfStatementEnd E) := by
  unfold parserParseIfStatementEnd
  exact inferInstance

instance keepsEmpty_doWhileStatementEnd : KeepsCache (parserParseDoWhileStatementEnd E) := by
  unfold parserParseDoWhileStatementEnd
  exact inferInstance

instance keepsEmpty_whileStatementEnd : KeepsCache (parserParseWhileStatementEnd E) := by
  unfold parserParseWhileStatementEnd
  exact inferInstance

instance keepsEmpty_forStatementEnd : KeepsCache (parserParseForStatementEnd E) := by
  unfold parserParseForStatementEnd
  exact inferInstance

instance keepsEmpty_forInStatementEnd : KeepsCache (parserParseForInStatementEnd E) := by
  unfold parserParseForInStatementEnd
  exact inferInstance

instance keepsEmpty_withStatementEnd : KeepsCache (parserParseWithStatementEnd E) := by
  unfold parserParseWithStatementEnd
  exact inferInstance

instance keepsEmpty_switchStatementEnd : KeepsCache (parserParseSwitchStatementEnd E) := by
  unfold parserParseSwitchStatementEnd
  exact inferInstance

instance keepsEmpty_tryStatementEnd : KeepsCache (parserParseTryStatementEnd E) := by
  unfold parserParseTryStatementEnd
  exact inferInstance

instance keepsEmpty_statementTerminator : KeepsCache (parserStatementTerminator E) := by
  unfold parserStatementTerminator
  exact inferInstance

instance keepsEmpty_terminatorLoop (fuel : Nat) (required : Bool) :
    KeepsCache (terminatorLoop E fuel required) := by
  induction fuel generalizing required <;> unfold terminatorLoop <;> exact inferInstance

instance empties_endStatement (fuel : Nat) : EmptiesCache (parserEndStatement E fuel) := by
  unfold parserEndStatement
  exact inferInstance

instance empties_expressionStatement (fuel : Nat) :
    EmptiesCache (parserParseExpressionStatement E fuel) := by
  unfold parserParseExpressionStatement
  exact inferInstance

instance keepsEmpty_ifStatementStart : KeepsCache (parserParseIfStatementStart E) := by
  unfold parserParseIfStatementStart
  exact inferInstance

instance keepsEmpty_switchStatementStart (fuel : Nat) :
    KeepsCache (parserParseSwitchStatementStart E fuel) := by
  unfold parserParseSwitchStatementStart
  exact inferInstance

instance keepsEmpty_doStatementStart : KeepsCache (parserParseDoStatementStart E) := by
  unfold parserParseDoStatementStart
  exact inferInstance

instance keepsEmpty_whileStatementStart (fuel : Nat) :
    KeepsCache (parserParseWhileStatementStart E fuel) := by
  unfold parserParseWhileStatementStart
  exact inferInstance

instance keepsEmpty_forStatementStart (fuel : Nat) :
    KeepsCache (parserParseForStatementStart E fuel) := by
  unfold parserParseForStatementStart
  exact inferInstance

instance keepsEmpty_withStatementStart : KeepsCache (parserParseWithStatementStart E) := by
  unfold parserParseWithStatementStart
  exact inferInstance

instance keepsEmpty_tryStatementStart : KeepsCache (parserParseTryStatementStart E) := by
  unfold parserParseTryStatementStart
  exact inferInstance

instance keepsEmpty_defaultStatement : KeepsCache (parserParseDefaultStatement E) := by
  unfold parserParseDefaultStatement
  exact inferInstance

instance keepsEmpty_caseStatement (fuel : Nat) : KeepsCache (parserParseCaseStatement E fuel) := by
  unfold parserParseCaseStatement
  exact inferInstance

end

def CacheReady (c : ParserContext) : Prop := c.token.type = expressionStart ∨ CacheEmpty c

section

variable {α : Type} {m : ParserM α} {d : ParserContext}

theorem KeepsEmpty.at (h : KeepsEmpty m) (hd : CacheEmpty d) :
    Triple (fun c => c = d) m (fun _ => CacheEmpty) fun _ => True :=
  h.weaken (fun _ e => e ▸ hd) (fun _ _ h => h) fun _ h => h

theorem Empties.at {P : ParserContext → Prop} (h : Empties m) :
    Triple P m (fun _ => CacheEmpty) fun _ => True :=
  h.weaken (fun _ _ => trivial) (fun _ _ h => h) fun _ h => h

end

/-- `lexer_construct_function_object` compiles the nested function with the parser's context
saved around it: it hands back the last-opcode cache it was given. -/
def FunctionObjectKeepsCache (E : ParserEnv) : Prop :=
  ∀ s s', E.constructFunctionObject s = .ok s' → s'.lastCbcOpcode = s.lastCbcOpcode

section

variable {E : ParserEnv} (keeps : FunctionObjectKeepsCache E)
include keeps

theorem empties_constructFunctionObject : Empties (lexerConstructFunctionObject E) := by
  refine fun c _ => ⟨fun _ c' ok => ?_,fun _ _ => trivial⟩
  unfold lexerConstructFunctionObject at ok
  dsimp only at ok
  split at ok
  · cases ok
    rename_i s built
    simp only [CacheEmpty,ParserContext.withExpr,if_pos,keeps _ _ built,ParserContext.exprState,
      flushCbc_lastCbcOpcode,Option.none_bind,Option.map_none']
  · cases ok

set_option synthInstance.maxSize 10000000

theorem parserParseStatement_cache (fuel : Nat) :
    Triple CacheReady (parserParseStatement E fuel) (fun _ => CacheEmpty) fun _ => True := by
  have : EmptiesCache (lexerConstructFunctionObject E) := ⟨empties_constructFunctionObject keeps⟩
  have : KeepsCache (parserParseFunctionStatement E) := by
    unfold parserParseFunctionStatement
    exact inferInstance
  unfold parserParseStatement
  refine triple_get_of fun _ _ => triple_get_of fun _ _ => triple_assert_bind (fun _ _ => trivial) _
    fun _ => triple_get_at fun d ready => ?_
  split
  all_goals first
    | exact Empties.at EmptiesCache.empties
    | exact KeepsEmpty.at KeepsCache.keepsEmpty (ready.resolve_left (by simp_all))

end

section

variable {α : Type} {E : ParserEnv} {m : ParserM α}

theorem KeepsEmpty.ready {β : Type} {k : α → ParserM β} (hm : KeepsEmpty m)
    (hk : ∀ a, Triple CacheEmpty (k a) (fun _ => CacheReady) fun _ => True) :
    Triple CacheEmpty (m >>= k) (fun _ => CacheReady) fun _ => True :=
  Triple.bind hm hk

theorem triple_heldBack (op : CbcOpcode) (index : Nat) :
    Triple CacheEmpty (parserEmitCbcLiteral E op index >>= fun _ => holdTokenBack >>= fun _ =>
      pure PUnit.unit) (fun _ => CacheReady) fun _ => True :=
  Triple.bind (R := fun _ _ => True) (triple_modify fun _ _ => trivial) fun _ =>
    (triple_modify fun _ _ => Or.inl rfl).bind fun _ => triple_pure _ fun _ h => h

theorem directivePrologue_cache (fuel : Nat) :
    Triple CacheEmpty (directivePrologue E fuel) (fun _ => CacheReady) fun _ => True := by
  induction fuel with
  | zero => exact triple_outOfFuel fun _ _ => trivial
  | succ fuel ih =>
    unfold directivePrologue
    repeat' first
      | with_reducible exact ih
      | with_reducible exact triple_heldBack _ _
      | with_reducible exact triple_raiseError_bind (fun _ _ => trivial) _ _
      | exact triple_pure _ fun _ h => Or.inr h
      | with_reducible refine triple_ite (fun _ => ?_) fun _ => ?_
      | with_reducible refine KeepsEmpty.ready ?_ fun _ => ?_
      | exact KeepsCache.keepsEmpty

variable (E) in
inductive ReachedFrom (c0 : ParserContext) : ParserContext → Prop
  | start {c : ParserContext} (fuel : Nat)
      (prologue : (parserStackPushUint8 parserStatementStart >>= fun _ =>
        initLastStatement E >>= fun _ => directivePrologue E fuel) c0 = .ok ((),c)) :
      ReachedFrom c0 c
  | pass {c c' : ParserContext} (fuel : Nat) (reach : ReachedFrom c0 c)
      (more : (c.token.type == eos && c.stack.stackTopUint8 == parserStatementStart) = false)
      (next : parserParseStatement E fuel c = .ok (.next,c')) : ReachedFrom c0 c'

variable (E) in
def runPasses (fuel : Nat) (c0 : ParserContext) : Nat → ParserContext
  | 0 => resultContext ((parserStackPushUint8 parserStatementStart >>= fun _ =>
      initLastStatement E >>= fun _ => directivePrologue E fuel) c0)
  | n + 1 => resultContext (parserParseStatement E fuel (runPasses fuel c0 n))

variable (E) in
def passesGoOn (fuel : Nat) (c0 : ParserContext) : Nat → Bool
  | 0 => returnedWith () ((parserStackPushUint8 parserStatementStart >>= fun _ =>
      initLastStatement E >>= fun _ => directivePrologue E fuel) c0)
  | n + 1 =>
    let c := runPasses E fuel c0 n
    passesGoOn fuel c0 n && !(c.token.type == eos && c.stack.stackTopUint8 == parserStatementStart) &&
      returnedWith .next (parserParseStatement E fuel c)

theorem ReachedFrom.of_passesGoOn (fuel : Nat) (c0 : ParserContext) (n : Nat)
    (h : passesGoOn E fuel c0 n = true) : ReachedFrom E c0 (runPasses E fuel c0 n) := by
  induction n with
  | zero => exact .start fuel (eq_ok_of_returnedWith h)
  | succ n ih =>
    simp only [passesGoOn, Bool.and_eq_true, Bool.not_eq_true'] at h
    exact .pass fuel (ih h.1.1) h.1.2 (eq_ok_of_returnedWith h.2)

theorem ReachedFrom.reachable {c0 c : ParserContext} (entry : StatementsEntry c0)
    (reach : ReachedFrom E c0 c) : Reachable E c := by
  induction reach with
  | start fuel prologue => exact .start fuel entry prologue
  | pass fuel _ more next ih => exact .pass fuel ih more next

theorem ReachedFrom.cacheReady {c0 c : ParserContext} (keeps : FunctionObjectKeepsCache E)
    (empty : CacheEmpty c0) (reach : ReachedFrom E c0 c) : CacheReady c := by
  induction reach with
  | start fuel prologue =>
    exact ((scanning_push _).keepsEmpty.ready fun _ => keepsEmpty_initLast.keepsEmpty.ready fun _ =>
      directivePrologue_cache fuel) c0 empty |>.1 () _ prologue
  | pass fuel _ _ next ih => exact .inr ((parserParseStatement_cache keeps fuel _ ih).1 _ _ next)

def AfterBranch (E : ParserEnv) (op : CbcOpcode) (branch : ParserBranch) (c : ParserContext) : Prop :=
  ∃ d, forwardBranch E d op = (branch,c)

theorem triple_afterBranch (op : CbcOpcode) :
    Triple (fun _ => True) (parserEmitCbcForwardBranch E op) (AfterBranch E op) fun _ => True :=
  triple_modifyGet _ fun c _ => ⟨c,rfl⟩

theorem AfterBranch.empty {op : CbcOpcode} {branch : ParserBranch} {c : ParserContext}
    (h : AfterBranch E op branch c) : c.lastCbcOpcode = none := by
  obtain ⟨d,fb⟩ := h
  rw [← show (forwardBranch E d op).2 = c from congrArg Prod.snd fb]
  exact flushCbc_lastCbcOpcode d

def CodeAt (S : Nat) (c : ParserContext) : Prop := c.byteCodeSize = S ∧ c.lastCbcOpcode = none

theorem Scanning.codeAt {m : ParserM α} {S : Nat} (hm : Scanning m) :
    Triple (CodeAt S) m (fun _ => CodeAt S) fun _ => True := fun c hc =>
  ⟨fun _ _ ok => by
    obtain ⟨_,_,_,rfl⟩ := ((hm.triple c) c (ScanOnly.refl c)).1 _ _ ok
    exact hc,fun _ _ => trivial⟩

theorem triple_pushLoopFrame {P : ParserContext → Prop}
    (hP : ∀ c s l, P c → P { c with stack := s, lastStatement := l }) (r : ParserRecord) (tag : UInt8) :
    Triple P (parserStackPush E r >>= fun _ => parserStackPush E (.loopStatement ⟨none⟩) >>=
        fun _ => parserStackPushUint8 tag >>= fun _ => initLastStatement E)
      (fun _ c => P c ∧ ∃ rest, c.stack.items =
        .uint8 tag :: .record (.loopStatement ⟨none⟩) :: .record r :: rest) fun _ => True :=
  fun c hc => ⟨fun _ c' ok => by
    simp only [bind_apply,parserStackPush,parserStackPushUint8,initLastStatement,modify_apply,
      Except.ok.injEq,Prod.mk.injEq] at ok
    obtain ⟨-,rfl⟩ := ok
    exact ⟨hP _ _ _ hc,_,rfl⟩,fun _ _ => trivial⟩

theorem doStart_records :
    Triple (fun _ => True) (parserParseDoStatementStart E)
      (fun _ c => ∃ r rest, c.stack.items = .uint8 parserStatementDoWhile ::
        .record (.loopStatement ⟨none⟩) :: .record (.doWhileStatement r) :: rest ∧
        CodeAt r.startOffset c) fun _ => True := by
  unfold parserParseDoStatementStart
  refine triple_get_at fun d _ => triple_assert_bind (fun _ _ => trivial) _ fun empty =>
    triple_get_at fun _ same => fun c same' => ⟨fun _ c' ok => ?_,fun _ _ => trivial⟩
  subst same same'
  simp only [bind_apply,parserStackPush,parserStackPushUint8,initLastStatement,modify_apply] at ok
  obtain ⟨t,p,-,rfl⟩ := lexerNextToken_ok ok
  exact ⟨_,_,rfl,rfl,by simpa using empty⟩

theorem whileStart_records (fuel : Nat) :
    Triple (fun _ => True) (parserParseWhileStatementStart E fuel)
      (fun _ c => ∃ w rest, c.stack.items = .uint8 parserStatementWhile ::
        .record (.loopStatement ⟨none⟩) :: .record (.whileStatement w) :: rest ∧
        (∃ e, AfterBranch E .jumpForward w.branch e ∧ CodeAt w.startOffset e) ∧
        CodeAt w.startOffset c) fun _ => True := by
  unfold parserParseWhileStatementStart
  dsimp only
  refine (triple_true _).bind fun _ => (triple_true _).bind fun _ => (triple_true _).bind fun _ =>
    (triple_true _).bind fun _ => triple_unless (fun _ _ => trivial) _ fun _ => ?_
  refine (triple_afterBranch _).bind fun branch => triple_get_at fun e after => ?_
  refine triple_assert_bind (fun _ _ => trivial) _ fun _ => triple_get_at fun _ same => ?_
  subst same
  refine ((scanning_parserScanUntil fuel _).codeAt.weaken (fun _ same => by subst same; exact ⟨rfl,after.empty⟩)
    (fun _ _ h => h) fun _ h => h).bind fun range => scanning_nextToken.codeAt.bind fun _ => ?_
  exact (triple_pushLoopFrame (fun _ _ _ h => h) _ _).weaken (fun _ h => h)
    (fun _ _ ⟨code,rest,items⟩ => ⟨_,rest,items,⟨_,after,rfl,after.empty⟩,code⟩) fun _ h => h

theorem forTail_records (fuel : Nat) :
    Triple (fun _ => True) (do
        let branch ← parserEmitCbcForwardBranch E .jumpForward
        parserAssert ((← get).lastCbcOpcode == none)
        let startOffset := (← get).byteCodeSize
        let conditionRange ← parserScanUntil E fuel semicolon
        let expressionRange ← parserScanUntil E fuel rightParen
        lexerNextToken E
        parserStackPush E (.forStatement ⟨branch,conditionRange,expressionRange,startOffset⟩)
        parserStackPush E (.loopStatement ⟨none⟩)
        parserStackPushUint8 parserStatementFor
        initLastStatement E)
      (fun _ c => ∃ r rest, c.stack.items = .uint8 parserStatementFor ::
          .record (.loopStatement ⟨none⟩) :: .record (.forStatement r) :: rest ∧
          (∃ e, AfterBranch E .jumpForward r.branch e ∧ CodeAt r.startOffset e) ∧
          CodeAt r.startOffset c) fun _ => True := by
  refine (triple_afterBranch _).bind fun branch => triple_get_at fun e after => ?_
  refine triple_assert_bind (fun _ _ => trivial) _ fun _ => triple_get_at fun _ same => ?_
  subst same
  refine ((scanning_parserScanUntil fuel _).codeAt.weaken (fun _ same => by subst same; exact ⟨rfl,after.empty⟩)
    (fun _ _ h => h) fun _ h => h).bind fun _ => (scanning_parserScanUntil fuel _).codeAt.bind fun _ =>
    scanning_nextToken.codeAt.bind fun _ => ?_
  exact (triple_pushLoopFrame (fun _ _ _ h => h) _ _).weaken (fun _ h => h)
    (fun _ _ ⟨code,rest,items⟩ => ⟨_,rest,items,⟨_,after,rfl,after.empty⟩,code⟩) fun _ h => h

theorem forStart_records (fuel : Nat) :
    Triple (fun _ => True) (parserParseForStatementStart E fuel)
      (fun _ c => (∃ r rest, c.stack.items = .uint8 parserStatementFor ::
          .record (.loopStatement ⟨none⟩) :: .record (.forStatement r) :: rest ∧
          (∃ e, AfterBranch E .jumpForward r.branch e ∧ CodeAt r.startOffset e) ∧
          CodeAt r.startOffset c) ∨
        ∃ r rest, c.stack.items = .uint8 parserStatementForIn ::
          .record (.loopStatement ⟨none⟩) :: .record (.forInStatement r) :: rest ∧
          ∃ e, AfterBranch E .extForInCreateContext r.branch e ∧ CodeAt r.startOffset e) fun _ => True := by
  unfold parserParseForStatementStart
  dsimp only
  refine (triple_true _).bind fun _ => (triple_true _).bind fun _ => (triple_true _).bind fun _ =>
    (triple_true _).bind fun _ => triple_unless (fun _ _ => trivial) _ fun _ =>
    (triple_true _).bind fun _ => (triple_true _).bind fun _ => triple_ite (fun _ => ?_) fun _ => ?_
  · refine (triple_true _).bind fun _ => (triple_true _).bind fun _ => (triple_true _).bind fun _ =>
      triple_unless (fun _ _ => trivial) _ fun _ => (triple_true _).bind fun _ =>
      (triple_afterBranch _).bind fun branch => triple_get_at fun e after => ?_
    refine triple_assert_bind (fun _ _ => trivial) _ fun _ => triple_get_at fun _ same => ?_
    subst same
    refine (triple_true _).bind fun _ => (triple_true _).bind fun _ => (triple_true _).bind fun _ =>
      (triple_true _).bind fun _ => (triple_true _).bind fun _ => (triple_true _).bind fun _ =>
      triple_unless (fun _ _ => trivial) _ fun _ => (triple_true _).bind fun _ =>
      (triple_true _).bind fun _ => (triple_true _).bind fun _ => ?_
    exact (triple_pushLoopFrame (fun _ _ _ h => h) _ _).weaken (fun _ h => h)
      (fun _ _ ⟨_,rest,items⟩ => .inr ⟨_,rest,items,_,after,rfl,after.empty⟩) fun _ h => h
  · repeat' first
      | exact (forTail_records fuel).weaken (fun _ h => h) (fun _ _ h => .inl h) fun _ h => h
      | refine triple_ite (fun _ => ?_) fun _ => ?_
      | refine (triple_true _).bind fun _ => ?_

theorem parserParseStatement_depth {fuel : Nat} {r : StatementEnd} {c c' : ParserContext}
    (h : parserParseStatement E fuel c = .ok (r,c')) : c.stackDepth = c.contextStackDepth := by
  unfold parserParseStatement at h
  obtain ⟨_,_,⟨⟩,h⟩ := bind_ok.mp h
  obtain ⟨_,_,⟨⟩,h⟩ := bind_ok.mp h
  obtain ⟨_,_,assert,-⟩ := bind_ok.mp h
  simpa using (parserAssert_ok.mp assert).1

theorem sampleAdvance_cache {lx : Lexer} {s s' : ExprState} (h : sampleAdvance lx s = .ok s') :
    s'.lastCbcOpcode = s.lastCbcOpcode := by
  unfold sampleAdvance at h
  split at h <;> cases h
  rfl

theorem sampleSkipFunction_cache (lx : Lexer) (fuel depth : Nat) (s s' : ExprState)
    (h : sampleSkipFunction lx fuel depth s = .ok s') : s'.lastCbcOpcode = s.lastCbcOpcode := by
  induction fuel generalizing depth s with
  | zero => cases h
  | succ fuel ih =>
    unfold sampleSkipFunction at h
    cases adv : sampleAdvance lx s with
    | error e => rw [adv] at h; cases h
    | ok s1 =>
      rw [adv] at h
      rw [← sampleAdvance_cache adv]
      simp only [bind,Except.bind] at h
      split at h
      · exact ih _ _ h
      · split_ifs at h
        · cases h; rfl
        · exact ih _ _ h
      · cases h
      · exact ih _ _ h

theorem sampleEnv_keepsCache (src : List SourceLexeme) : FunctionObjectKeepsCache (sampleEnv src) :=
  fun s s' h => sampleSkipFunction_cache _ _ _ s s' h

def varWhileSource : List SourceLexeme :=
  [kw "var",kw "x",pu semicolon,kw "while",pu leftParen,kw "x",pu rightParen,pu semicolon]

end

end JerryParser
