import JerryParser.OpcodeCache
import JerryParser.Directives

/-! What most of the parser leaves alone: `PARSER_IN_WIDTH` and the heap of branch nodes. The
lexer, the pre-scanner, the stack and the byte code emitter change neither. Of the statement
functions, the with statement alone changes the flag, and those that file, take or drain the
branch lists of `break`, `continue` and `case` alone change the nodes. `Keeps g m` says that `m`
returns only with the view `g` of the context as it found it; code that keeps both parts keeps
every view of them. -/
namespace JerryParser

open LexerTokenType

section

variable {α β γ : Type} {E : ParserEnv} {g : ParserContext → γ} {m : ParserM α}
  {k : α → ParserM β}

def Keeps (g : ParserContext → γ) (m : ParserM α) : Prop :=
  ∀ c a c', m c = .ok (a,c') → g c' = g c

theorem Keeps.bind (hm : Keeps g m) (hk : ∀ a, Keeps g (k a)) : Keeps g (m >>= k) :=
  fun c _ _ ok =>
    have ⟨a,c',first,rest⟩ := bind_ok.mp ok
    (hk a c' _ _ rest).trans (hm c a c' first)

theorem keeps_raiseError_bind (e : ParserError) (k : α → ParserM β) :
    Keeps g (parserRaiseError e >>= k) := fun _ _ _ ok =>
  have ⟨_,_,raised,_⟩ := bind_ok.mp ok
  nomatch raised

theorem keeps_ite {p : Prop} {_ : Decidable p} {m' : ParserM α} (hm : Keeps g m)
    (hm' : Keeps g m') : Keeps g (if p then m else m') := by
  split
  · exact hm
  · exact hm'

theorem keeps_modifyGet {f : ParserContext → α × ParserContext} (hf : ∀ c, g (f c).2 = g c) :
    Keeps g (modifyGet f : ParserM α) := fun c _ _ ok => by
  rw [modifyGet_apply, Except.ok.injEq] at ok
  rw [← hf c, ok]

theorem keeps_modify {f : ParserContext → ParserContext} (hf : ∀ c, g (f c) = g c) :
    Keeps g (modify f : ParserM Unit) :=
  keeps_modifyGet (f := fun c => ((),f c)) hf

def untouched (c : ParserContext) : Bool × List (Nat × ParserBranchNode) × Nat :=
  (c.statusFlags.inWidth,c.nodes,c.nextNode)

def Untouched (g : ParserContext → γ) : Prop := ∀ c d, untouched d = untouched c → g d = g c

theorem Keeps.view (h : Keeps untouched m) (hg : Untouched g) : Keeps g m :=
  fun c a c' ok => hg c c' (h c a c' ok)

theorem Scanning.keeps (h : Scanning m) : Keeps untouched m := fun c a c' ok => by
  obtain ⟨_,_,_,rfl⟩ := (h.triple c c (.refl c)).1 a c' ok
  rfl

theorem keeps_scanOnly (h : ∀ c a c', m c = .ok (a,c') → ScanOnly c c') : Keeps untouched m :=
  fun c a c' ok => by
    obtain ⟨_,_,_,rfl⟩ := h c a c' ok
    rfl

class KeepsView (g : ParserContext → γ) (m : ParserM α) : Prop where
  keeps : Keeps g m

instance [KeepsView g m] [∀ a, KeepsView g (k a)] : KeepsView g (m >>= k) :=
  ⟨KeepsView.keeps.bind fun _ => KeepsView.keeps⟩

instance {p : Prop} [Decidable p] {m' : ParserM α} [KeepsView g m] [KeepsView g m'] :
    KeepsView g (if p then m else m') :=
  ⟨keeps_ite KeepsView.keeps KeepsView.keeps⟩

instance keeps_raiseErrorThen (e : ParserError) (k : α → ParserM β) :
    KeepsView g (parserRaiseError e >>= k) :=
  ⟨keeps_raiseError_bind e k⟩

instance (priority := low) [Scanning m] : KeepsView untouched m := ⟨Scanning.keeps ‹_›⟩

variable (E)

@[simp] theorem untouched_flushCbc (c : ParserContext) : untouched (flushCbc E c) = untouched c := by
  unfold flushCbc
  split <;> rfl

@[simp] theorem untouched_forwardBranch (c : ParserContext) (op : CbcOpcode) :
    untouched (forwardBranch E c op).2 = untouched c :=
  untouched_flushCbc E c

@[simp] theorem untouched_withExpr (c : ParserContext) (s : ExprState) (bytes : Nat) :
    untouched (c.withExpr E s bytes) = untouched c := by
  unfold ParserContext.withExpr
  split <;> rfl

@[simp] theorem untouched_flushForExpression (c : ParserContext) :
    untouched (flushForExpression E c) = untouched c := by
  unfold flushForExpression
  repeat' split
  all_goals simp

variable {E}

instance keeps_stackPush (r : ParserRecord) : KeepsView untouched (parserStackPush E r) :=
  ⟨keeps_modify fun _ => rfl⟩

instance keeps_initLast : KeepsView untouched (initLastStatement E) :=
  ⟨keeps_modify fun _ => rfl⟩

instance keeps_setRange (range : LexerRange) : KeepsView untouched (parserSetRange range) :=
  ⟨keeps_modify fun _ => rfl⟩

instance keeps_stackPop : KeepsView untouched (parserStackPop E) :=
  ⟨keeps_scanOnly fun _ _ _ ok => by
    obtain ⟨_,_,rfl⟩ := parserStackPop_ok ok; exact .restack (.refl _) _⟩

instance keeps_popBytes (n : Nat) : KeepsView untouched (parserStackPopBytes E n) :=
  ⟨keeps_scanOnly fun _ _ _ ok => by
    obtain ⟨_,_,rfl⟩ := parserStackPopBytes_ok ok; exact .restack (.refl _) _⟩

instance keeps_changeLast (b : UInt8) : KeepsView untouched (parserStackChangeLastUint8 b) :=
  ⟨keeps_scanOnly fun _ _ _ ok => by
    obtain ⟨_,_,rfl⟩ := parserStackChangeLastUint8_ok ok; exact .restack (.refl _) _⟩

instance keeps_iteratorWrite (it : Nat) (r : ParserRecord) :
    KeepsView untouched (parserStackIteratorWrite E it r) :=
  ⟨keeps_scanOnly fun _ _ _ ok => by
    obtain ⟨_,_,rfl⟩ := parserStackIteratorWrite_ok ok; exact .restack (.refl _) _⟩

instance keeps_iteratorInit : KeepsView untouched (parserStackIteratorInit E) :=
  ⟨fun _ _ _ ok => by cases ok; rfl⟩

instance keeps_iteratorRead (it : Nat) : KeepsView untouched (parserStackIteratorRead E it) :=
  ⟨fun _ _ _ ok => by rw [(parserStackIteratorRead_ok ok).2]⟩

instance keeps_iteratorReadUint8 (it : Nat) :
    KeepsView untouched (parserStackIteratorReadUint8 E it) :=
  ⟨fun _ _ _ ok => by rw [(parserStackIteratorReadUint8_ok ok).2]⟩

instance keeps_statementLengthOf (type : UInt8) :
    KeepsView untouched (parserStatementLengthOf E type) := by
  unfold parserStatementLengthOf
  split <;> exact inferInstance

instance keeps_switchRecordIterator : KeepsView untouched (switchRecordIterator E) := by
  unfold switchRecordIterator
  exact inferInstance

instance keeps_flush : KeepsView untouched (parserFlushCbc E) :=
  ⟨keeps_modify (untouched_flushCbc E)⟩

instance keeps_emitCbcLiteral (op : CbcOpcode) (index : Nat) :
    KeepsView untouched (parserEmitCbcLiteral E op index) :=
  ⟨keeps_modify (untouched_flushCbc E)⟩

instance keeps_emitCbc (op : CbcOpcode) : KeepsView untouched (parserEmitCbc E op) :=
  keeps_emitCbcLiteral op 0

instance keeps_forwardBranch (op : CbcOpcode) :
    KeepsView untouched (parserEmitCbcForwardBranch E op) :=
  ⟨keeps_modifyGet fun c => untouched_forwardBranch E c op⟩

instance keeps_backwardBranch (op : CbcOpcode) (offset : Nat) :
    KeepsView untouched (parserEmitCbcBackwardBranch E op offset) :=
  ⟨keeps_modify (untouched_flushCbc E)⟩

instance keeps_setBranch (branch : ParserBranch) :
    KeepsView untouched (parserSetBranchToCurrentPosition E branch) :=
  ⟨keeps_modify (untouched_flushCbc E)⟩

instance keeps_parseExpression (options : ParseExprOptions) :
    KeepsView untouched (parserParseExpression E options) :=
  ⟨fun c _ _ ok => by
  unfold parserParseExpression at ok
  dsimp only at ok
  split at ok
  · cases ok
    simp
  · cases ok⟩

instance keeps_constructFunctionObject : KeepsView untouched (lexerConstructFunctionObject E) :=
  ⟨fun c _ _ ok => by
    unfold lexerConstructFunctionObject at ok
    dsimp only at ok
    split at ok
    · cases ok
      simp
    · cases ok⟩

instance keeps_expectIdentifier : KeepsView untouched (lexerExpectIdentifier E) :=
  ⟨(scanning_lexer _).keeps⟩

instance keeps_setLastCbcOpcode (op : Option CbcOpcode) :
    KeepsView untouched (setLastCbcOpcode op) :=
  ⟨keeps_modify fun _ => rfl⟩

instance keeps_holdTokenBack : KeepsView untouched holdTokenBack :=
  ⟨keeps_modify fun _ => rfl⟩

instance keeps_restoreRange (range : LexerRange) (token : LexerToken) :
    KeepsView untouched (restoreRange range token) :=
  ⟨(keeps_setRange range).keeps.bind fun _ => keeps_modify fun _ => rfl⟩

instance keeps_update (depth contextDepth : ParserContext → UInt16)
    (last : ParserContext → Option Nat) (token : ParserContext → LexerToken)
    (sourceP sourceEndP lastCbc byteCodeSize : ParserContext → Nat)
    (lastCbcOpcode : ParserContext → Option CbcOpcode) (byteCode : ParserContext → List CbcInstr)
    (patches : ParserContext → List (Nat × Nat)) (stack : ParserContext → ParserStack) :
    KeepsView untouched (modify fun ctx =>
      ⟨ctx.statusFlags,depth ctx,contextDepth ctx,last ctx,token ctx,sourceP ctx,sourceEndP ctx,
        lastCbc ctx,lastCbcOpcode ctx,byteCode ctx,byteCodeSize ctx,patches ctx,stack ctx,ctx.nodes,
        ctx.nextNode⟩ : ParserM Unit) :=
  ⟨keeps_modify fun _ => rfl⟩

instance keeps_setStrict : KeepsView untouched
    (modify fun ctx => { ctx with statusFlags := { ctx.statusFlags with isStrict := true } } : ParserM Unit) :=
  ⟨keeps_modify fun _ => rfl⟩

section

set_option synthInstance.maxSize 100000000

instance keeps_setContinuesLoop (fuel : Nat) (list : Option Nat) :
    KeepsView untouched (setContinuesLoop E fuel list) := by
  induction fuel generalizing list <;> cases list <;> simp only [setContinuesLoop] <;> exact inferInstance

instance keeps_setContinues (list : Option Nat) :
    KeepsView untouched (parserSetContinuesToCurrentPosition E list) := by
  unfold parserSetContinuesToCurrentPosition
  exact inferInstance

instance keeps_labelWalk (labelLiteral : LexerLitLocation) (fuel iterator : Nat) :
    KeepsView untouched (labelWalk E labelLiteral fuel iterator) := by
  induction fuel generalizing iterator <;> unfold labelWalk <;> exact inferInstance

instance keeps_parseLabel (labelLiteral : LexerLitLocation) :
    KeepsView untouched (parserParseLabel E labelLiteral) := by
  unfold parserParseLabel
  exact inferInstance

instance keeps_directivePrologue (fuel : Nat) : KeepsView untouched (directivePrologue E fuel) := by
  induction fuel <;> unfold directivePrologue <;> exact inferInstance

instance keeps_enclosedExpr : KeepsView untouched (parserParseEnclosedExpr E) := by
  unfold parserParseEnclosedExpr
  exact inferInstance

instance keeps_forInTarget : KeepsView untouched (parserParseForInTarget E) := by
  unfold parserParseForInTarget
  exact inferInstance

instance keeps_loopBackwardOpcode : KeepsView untouched loopBackwardOpcode := by
  unfold loopBackwardOpcode
  exact inferInstance

instance keeps_tryContextEnd : KeepsView untouched (tryContextEnd E) := by
  unfold tryContextEnd
  exact inferInstance

instance keeps_parseVarStatement (fuel : Nat) :
    KeepsView untouched (parserParseVarStatement E fuel) := by
  induction fuel <;> unfold parserParseVarStatement <;> exact inferInstance

structure StatementsKeep (E : ParserEnv) (fuel : Nat) : Prop where
  functionStatement : Keeps untouched (parserParseFunctionStatement E)
  ifStart : Keeps untouched (parserParseIfStatementStart E)
  doStart : Keeps untouched (parserParseDoStatementStart E)
  whileStart : Keeps untouched (parserParseWhileStatementStart E fuel)
  forStart : Keeps untouched (parserParseForStatementStart E fuel)
  tryStart : Keeps untouched (parserParseTryStatementStart E)
  defaultStatement : Keeps untouched (parserParseDefaultStatement E)
  returnStatement : Keeps untouched (parserParseReturnStatement E)
  ifEnd : Keeps untouched (parserParseIfStatementEnd E)
  tryEnd : Keeps untouched (parserParseTryStatementEnd E)

theorem statementsKeep (fuel : Nat) : StatementsKeep E fuel := by
  constructor
  all_goals first
    | unfold parserParseFunctionStatement
    | unfold parserParseIfStatementStart
    | unfold parserParseDoStatementStart
    | unfold parserParseWhileStatementStart
    | unfold parserParseForStatementStart
    | unfold parserParseTryStatementStart
    | unfold parserParseDefaultStatement
    | unfold parserParseReturnStatement
    | unfold parserParseIfStatementEnd
    | unfold parserParseTryStatementEnd
  all_goals exact KeepsView.keeps

end

end

end JerryParser
