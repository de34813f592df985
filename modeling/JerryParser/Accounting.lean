import JerryParser.ScanStack

/-! The frames at a statement boundary and their accounting: both depths count the runtime
contexts the open frames hold, and every with or try context opened and no longer open has been
closed by one `CBC_CONTEXT_END`. Inside a statement function the state is one of a few kinds
(frames with the accounting of a frame still to be pushed, or of one just popped; records over
frames while a frame is pushed or popped), and each step moves between them. A failure leaves
the frames with `last_statement` on the top tag, under whatever bytes the pre-scanner pushed. -/
namespace JerryParser

def ParserFrame.endsContext : ParserFrame → Bool
  | .withStatement _ | .tryStatement _ => true
  | _ => false

def ParserFrame.opens (f : ParserFrame) : Nat := if f.endsContext then 1 else 0

variable (E : ParserEnv)

structure Accounting (c : ParserContext) (fs : List ParserFrame) (a b : UInt16) (k : Nat) :
    Prop where
  context : c.contextStackDepth = contextDepth E fs + a
  depth : c.stackDepth = contextDepth E fs + b
  ends : (contextCount c).1 + fs.countP ParserFrame.endsContext + k = (contextCount c).2

structure FramesAt (c : ParserContext) (fs : List ParserFrame) (a b : UInt16) (k : Nat) :
    Prop where
  framed : Framed E.layout c.stack c.lastStatement fs
  accounting : Accounting E c fs a b k

structure OverFrames (c : ParserContext) (fs : List ParserFrame) (rs : List ParserRecord)
    (a b : UInt16) (k : Nat) : Prop where
  stack : ∃ below, c.stack = ParserStack.ofItems E.layout
    (rs.map .record ++ (frameItems fs ++ .uint8 parserStatementStart :: below))
  accounting : Accounting E c fs a b k

def Designated (L : ParserLayout) (c : ParserContext) : Prop :=
  c.lastStatement = none ∨ ∃ (bytes : List UInt8) (fs : List ParserFrame) (below : List ParserStackItem),
    c.stack.items = bytes.map .uint8 ++ (frameItems fs ++ .uint8 parserStatementStart :: below) ∧
    c.lastStatement = some (stackHeight L (frameItems fs ++ .uint8 parserStatementStart :: below))

variable {E} {c d : ParserContext} {fs : List ParserFrame} {rs : List ParserRecord}
  {a b : UInt16} {k : Nat}

theorem topByte_frames (L : ParserLayout) (fs : List ParserFrame) (below : List ParserStackItem) :
    topByte L (frameItems fs ++ .uint8 parserStatementStart :: below) = topTag fs := by
  cases fs <;> rfl

theorem contextDepth_cons (f : ParserFrame) (fs : List ParserFrame) :
    contextDepth E (f :: fs) = f.allocation E + contextDepth E fs := by
  simp [contextDepth]

theorem accounting_cons {f : ParserFrame} :
    Accounting E c (f :: fs) a b k ↔
      Accounting E c fs (f.allocation E + a) (f.allocation E + b) (f.opens + k) := by
  have shift : ∀ x : UInt16, contextDepth E (f :: fs) + x =
      contextDepth E fs + (f.allocation E + x) := fun _ => by
    rw [contextDepth_cons, add_assoc, add_left_comm]
  have opens : (f :: fs).countP ParserFrame.endsContext =
      fs.countP ParserFrame.endsContext + f.opens := by
    cases h : f.endsContext <;> simp [List.countP_cons, ParserFrame.opens, h]
  constructor
  · rintro ⟨context,depth,ends⟩
    exact ⟨context.trans (shift a),depth.trans (shift b),by omega⟩
  · rintro ⟨context,depth,ends⟩
    exact ⟨context.trans (shift a).symm,depth.trans (shift b).symm,by omega⟩

theorem Accounting.of_frameState (same : frameState d = frameState c) (h : Accounting E c fs a b k) :
    Accounting E d fs a b k := by
  simp only [frameState, Prod.mk.injEq] at same
  obtain ⟨-,-,depth,context,counts⟩ := same
  exact ⟨context ▸ h.context,depth ▸ h.depth,counts ▸ h.ends⟩

theorem FramesAt.of_frameState (same : frameState d = frameState c) (h : FramesAt E c fs a b k) :
    FramesAt E d fs a b k := by
  have accounting := h.accounting.of_frameState same
  simp only [frameState, Prod.mk.injEq] at same
  obtain ⟨stack,last,-⟩ := same
  exact ⟨stack ▸ last ▸ h.framed,accounting⟩

theorem OverFrames.of_frameState (same : frameState d = frameState c)
    (h : OverFrames E c fs rs a b k) : OverFrames E d fs rs a b k := by
  have accounting := h.accounting.of_frameState same
  simp only [frameState, Prod.mk.injEq] at same
  exact ⟨same.1 ▸ h.stack,accounting⟩

theorem Framed.coherent {L : ParserLayout} {s : ParserStack} {last : Option Nat}
    (h : Framed L s last fs) : Coherent s := by
  obtain ⟨below,items⟩ := h.items
  cases fs with
  | nil => exact ⟨_,_,items,h.top⟩
  | cons f fs => exact ⟨_,_,by simpa [ParserFrame.items] using items,h.top⟩

theorem Framed.designatedAbove (h : Framed E.layout c.stack c.lastStatement fs) (above : Above c d) :
    Designated E.layout d := by
  obtain ⟨below,items⟩ := h.items
  obtain ⟨last,bytes,hd⟩ := above
  exact .inr ⟨bytes,fs,below,by rw [hd,items],by rw [last,h.last,items]⟩

theorem FramesAt.designatedAbove (h : FramesAt E c fs a b k) (above : Above c d) :
    Designated E.layout d :=
  h.framed.designatedAbove above

theorem FramesAt.designated (h : FramesAt E c fs a b k) : Designated E.layout c :=
  h.designatedAbove (Above.refl c)

section

variable {α : Type} {m : ParserM α}

theorem Inert.framesAt (hm : Inert m) :
    Triple (FramesAt E · fs a b k) m (fun _ c => FramesAt E c fs a b k) (Designated E.layout) :=
  hm.keeps (fun _ _ same h => h.of_frameState same) fun _ h => h.designated

theorem Inert.overFrames {Q : ParserContext → Prop} (hm : Inert m) (hQ : ∀ c, OverFrames E c fs rs a b k → Q c) :
    Triple (OverFrames E · fs rs a b k) m (fun _ c => OverFrames E c fs rs a b k) Q :=
  hm.keeps (fun _ _ same h => h.of_frameState same) hQ

end

theorem triple_scanKeeps {P : ParserContext → Prop}
    (hP : ∀ c d, frameState d = frameState c → P c → P d)
    (hF : ∀ c, P c → ∃ fs, Framed E.layout c.stack c.lastStatement fs) (fuel : Nat)
    (endType : LexerTokenType) :
    Triple P (parserScanUntil E fuel endType) (fun _ => P) (Designated E.layout) := fun c h =>
  have ⟨_,framed⟩ := hF c h
  have run := parserScanUntil_triple framed.coherent fuel endType c rfl
  ⟨fun _ _ ok => hP _ _ (run.1 _ _ ok) h,fun _ err => framed.designatedAbove (run.2 _ err)⟩

theorem FramesAt.scan (fuel : Nat) (endType : LexerTokenType) :
    Triple (FramesAt E · fs a b k) (parserScanUntil E fuel endType) (fun _ c => FramesAt E c fs a b k)
      (Designated E.layout) :=
  triple_scanKeeps (fun _ _ same h => h.of_frameState same) (fun _ h => ⟨_,h.framed⟩) fuel endType

theorem FramesAt.congr {a' b' : UInt16} {k' : Nat} (h : FramesAt E c fs a b k) (ha : a = a')
    (hb : b = b') (hk : k = k') : FramesAt E c fs a' b' k' := by
  subst ha hb hk
  exact h

section

variable {Q : ParserContext → Prop}

theorem triple_addContext {g : ParserContext → ParserContext} {x : UInt16}
    (hg : ∀ c, frameState (g c) =
      (c.stack,c.lastStatement,c.stackDepth,c.contextStackDepth + x,contextCount c)) :
    Triple (FramesAt E · fs a b k) (modify g) (fun _ c => FramesAt E c fs (a + x) b k) Q := by
  refine triple_modify fun c ⟨framed,context,depth,ends⟩ => ?_
  simp only [frameState, Prod.mk.injEq] at hg
  obtain ⟨stack,last,hy,hx,counts⟩ := hg c
  exact ⟨stack ▸ last ▸ framed,by rw [hx,context,add_assoc],hy ▸ depth,counts ▸ ends⟩

theorem Accounting.subDepths {x : UInt16} (h : Accounting E c fs a b k)
    (hd : frameState d =
      (c.stack,c.lastStatement,c.stackDepth - x,c.contextStackDepth - x,contextCount c)) :
    Accounting E d fs (a - x) (b - x) k := by
  simp only [frameState, Prod.mk.injEq] at hd
  obtain ⟨-,-,hy,hx,counts⟩ := hd
  exact ⟨by rw [hx,h.context,add_sub_assoc],by rw [hy,h.depth,add_sub_assoc],counts ▸ h.ends⟩

theorem triple_subDepths {g : ParserContext → ParserContext} {x : UInt16}
    (hg : ∀ c, frameState (g c) =
      (c.stack,c.lastStatement,c.stackDepth - x,c.contextStackDepth - x,contextCount c)) :
    Triple (FramesAt E · fs a b k) (modify g) (fun _ c => FramesAt E c fs (a - x) (b - x) k) Q :=
  triple_modify fun c h => ⟨by
    rw [show (g c).stack = c.stack from congrArg Prod.fst (hg c),
      show (g c).lastStatement = c.lastStatement from congrArg (·.2.1) (hg c)]
    exact h.framed,h.accounting.subDepths (hg c)⟩

@[simp] theorem forwardBranch_stack (c : ParserContext) (op : CbcOpcode) :
    (forwardBranch E c op).2.stack = c.stack := by
  simp [forwardBranch, writeInstr]

theorem contextCount_forwardBranch (c : ParserContext) (op : CbcOpcode) :
    contextCount (forwardBranch E c op).2 = ((contextCount c).1,
      (contextCount c).2 + if (CbcInstr.forward op).opensContext then 1 else 0) := by
  have flushed := congrArg (·.2.2.2.2) (@frameState_flushCbc E c)
  simp only [frameState] at flushed
  rw [← flushed]
  cases h : (CbcInstr.forward op).opensContext <;>
    simp [forwardBranch, contextCount, writeInstr, h, CbcInstr.isContextEnd]

theorem triple_forwardBranch (op : CbcOpcode) :
    Triple (FramesAt E · fs a b k) (parserEmitCbcForwardBranch E op)
      (fun _ c => FramesAt E c fs a (b + contextAllocation E op)
        (k + if (CbcInstr.forward op).opensContext then 1 else 0)) Q := by
  refine triple_modifyGet _ fun c ⟨framed,context,depth,ends⟩ => ?_
  have counts := @contextCount_forwardBranch E c op
  refine ⟨by simpa [forwardBranch, writeInstr] using framed,by simpa [forwardBranch, writeInstr],
    by simp [forwardBranch, writeInstr, depth, add_assoc],?_⟩
  rw [counts]
  simp only at ends ⊢
  omega

theorem Accounting.contextEnd (h : Accounting E c fs a b (k + 1)) :
    Accounting E { flushCbc E c with lastCbcOpcode := some .contextEnd, lastCbc := 0 } fs a b k := by
  obtain ⟨context,depth,ends⟩ := h
  have flushed := congrArg (·.2.2.2.2) (@frameState_flushCbc E c)
  simp only [frameState] at flushed
  refine ⟨by simpa using context,by simpa using depth,?_⟩
  simp only [contextCount, Prod.mk.injEq] at flushed ends ⊢
  simp only [flushCbc_lastCbcOpcode, reduceCtorEq, if_false, add_zero] at flushed
  simp only [if_true]
  omega

theorem triple_contextEnd :
    Triple (FramesAt E · fs a b (k + 1)) (parserEmitCbc E .contextEnd)
      (fun _ c => FramesAt E c fs a b k) Q :=
  triple_modify fun _ h => ⟨by simpa using h.framed,h.accounting.contextEnd⟩

end

theorem parserStackPopUint8_of {t : UInt8} {rest : List ParserStackItem}
    (h : c.stack.items = .uint8 t :: rest) :
    parserStackPopUint8 E c = .ok ((),{ c with stack := ParserStack.ofItems E.layout rest }) := by
  simp only [parserStackPopUint8, bind_apply, get_apply, ParserStack.popUint8, h]
  rfl

theorem parserStackPop_of {r : ParserRecord} {rest : List ParserStackItem}
    (h : c.stack.items = .record r :: rest) :
    parserStackPop E c = .ok (r,{ c with stack := ParserStack.ofItems E.layout rest }) := by
  simp only [parserStackPop, bind_apply, get_apply, ParserStack.pop, h]
  rfl

theorem FramesAt.over (h : FramesAt E c fs a b k) : OverFrames E c fs [] a b k := by
  obtain ⟨below,items⟩ := h.framed.items
  refine ⟨⟨below,?_⟩,h.accounting⟩
  rw [List.map_nil,List.nil_append,ParserStack.ofItems,topByte_frames,← h.framed.top,← items]

section

variable {Q : ParserContext → Prop}

theorem triple_pushRecord (r : ParserRecord) :
    Triple (OverFrames E · fs rs a b k) (parserStackPush E r) (fun _ c => OverFrames E c fs (r :: rs) a b k) Q :=
  triple_modify fun _ ⟨⟨below,hs⟩,⟨context,depth,ends⟩⟩ =>
    ⟨⟨below,by simp [ParserStack.push,hs,ParserStack.ofItems]⟩,context,depth,ends⟩

theorem triple_pushTag (f : ParserFrame) :
    Triple (OverFrames E · fs f.records (f.allocation E + a) (f.allocation E + b) (f.opens + k))
      (parserStackPushUint8 f.tag) (fun _ c => OverFrames E c (f :: fs) [] a b k) Q :=
  triple_modify fun c ⟨⟨below,hs⟩,accounting⟩ =>
    have ⟨context,depth,ends⟩ := accounting_cons.mpr accounting
    ⟨⟨below,by simp [ParserStack.pushUint8,hs,ParserStack.ofItems,ParserFrame.items,topByte]⟩,
      context,depth,ends⟩

theorem triple_initLast :
    Triple (OverFrames E · fs [] a b k) (initLastStatement E) (fun _ c => FramesAt E c fs a b k) Q :=
  triple_modify fun _ ⟨⟨below,hs⟩,⟨context,depth,ends⟩⟩ =>
    ⟨⟨⟨below,by simp [hs,ParserStack.ofItems]⟩,by simp [hs,ParserStack.ofItems,topByte_frames],
      by simp [hs,ParserStack.ofItems,ParserStack.iteratorInit]⟩,context,depth,ends⟩

theorem triple_popTag {f : ParserFrame} :
    Triple (FramesAt E · (f :: fs) a b k) (parserStackPopUint8 E)
      (fun _ c => OverFrames E c fs f.records (f.allocation E + a) (f.allocation E + b) (f.opens + k)) Q := by
  intro c h
  obtain ⟨below,items⟩ := h.framed.items
  rw [parserStackPopUint8_of (by simpa [ParserFrame.items] using items)]
  exact ⟨fun _ _ ok => by
    cases ok
    have ⟨context,depth,ends⟩ := accounting_cons.mp h.accounting
    exact ⟨⟨below,by simp⟩,context,depth,ends⟩,fun _ err => (nomatch err)⟩

theorem triple_popRecord {r : ParserRecord} :
    Triple (OverFrames E · fs (r :: rs) a b k) (parserStackPop E)
      (fun x c => x = r ∧ OverFrames E c fs rs a b k) Q := by
  rintro c ⟨⟨below,hs⟩,⟨context,depth,ends⟩⟩
  rw [@parserStackPop_of E c r (rs.map .record ++ (frameItems fs ++ .uint8 parserStatementStart ::
    below)) (by simp [hs,ParserStack.ofItems])]
  exact ⟨fun _ _ ok => by cases ok; exact ⟨rfl,⟨below,by simp⟩,context,depth,ends⟩,
    fun _ err => (nomatch err)⟩

end

end JerryParser
