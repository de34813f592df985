import JerryParser.Logic

/-! The walks over the statement stack. On a stack of frames, an iterator at the top of a
frame reads that frame's tag and the records below it, `parser_statement_length` of the tag
skips exactly that frame, and each walk of the statement parser comes down to a choice of a
frame made over the list of frames. -/
namespace JerryParser

def frameHeight (L : ParserLayout) (rest : List ParserFrame) (below : List ParserStackItem) : Nat :=
  stackHeight L (frameItems rest ++ .uint8 parserStatementStart :: below)

theorem frameHeight_cons (L : ParserLayout) (f : ParserFrame) (rest : List ParserFrame)
    (below : List ParserStackItem) :
    frameHeight L (f :: rest) below = stackHeight L f.items + frameHeight L rest below := by
  simp [frameHeight]

theorem parserStatementLength_tag (L : ParserLayout) (f : ParserFrame) :
    parserStatementLength L f.tag = some (stackHeight L f.items) := by
  cases f with
  | switchStatement hasDefault =>
    cases hasDefault <;> simp [parserStatementLength, ParserFrame.tag, ParserFrame.items,
      ParserFrame.records, ParserStackItem.size, ParserRecord.size, parserStatementSwitch,
      parserStatementSwitchNoDefault, parserStatementBlock, parserStatementLabel,
      parserStatementIf, parserStatementElse] <;> omega
  | _ => simp [parserStatementLength, ParserFrame.tag, ParserFrame.items, ParserFrame.records,
      ParserStackItem.size, ParserRecord.size, parserStatementSwitch,
      parserStatementSwitchNoDefault, parserStatementBlock, parserStatementLabel,
      parserStatementIf, parserStatementElse, parserStatementDoWhile, parserStatementWhile,
      parserStatementFor, parserStatementForIn, parserStatementWith, parserStatementTry] <;> omega

def StackAt (c : ParserContext) (above : List ParserStackItem) (rest : List ParserFrame)
    (below : List ParserStackItem) : Prop :=
  c.stack.items = above ++ (frameItems rest ++ .uint8 parserStatementStart :: below)

variable {E : ParserEnv} {c : ParserContext} {above below : List ParserStackItem}
  {f : ParserFrame} {rest : List ParserFrame}

theorem StackAt.next (h : StackAt c above (f :: rest) below) :
    StackAt c (above ++ f.items) rest below := by
  simpa [StackAt] using h

theorem StackAt.readTag (h : StackAt c above (f :: rest) below) :
    parserStackIteratorReadUint8 E (frameHeight E.layout (f :: rest) below) c = .ok (f.tag,c) := by
  have items : c.stack.items = above ++ .uint8 f.tag ::
      (f.records.map .record ++ (frameItems rest ++ .uint8 parserStatementStart :: below)) := by
    simpa [StackAt, ParserFrame.items] using h
  have read := c.stack.iteratorReadUint8_at E.layout items
  simp only [parserStackIteratorReadUint8, bind_apply, get_apply]
  rw [show frameHeight E.layout (f :: rest) below = stackHeight E.layout (.uint8 f.tag ::
      (f.records.map .record ++ (frameItems rest ++ .uint8 parserStatementStart :: below))) by
    simp [frameHeight, ParserFrame.items], read]
  rfl

theorem StackAt.readStart (h : StackAt c above [] below) :
    parserStackIteratorReadUint8 E (frameHeight E.layout [] below) c =
      .ok (parserStatementStart,c) := by
  have read := c.stack.iteratorReadUint8_at E.layout (by simpa [StackAt] using h)
  simp only [parserStackIteratorReadUint8, bind_apply, get_apply, frameHeight, frameItems_nil,
    List.nil_append, read]
  rfl

theorem StackAt.readRecord {r : ParserRecord} {more : List ParserRecord}
    (h : StackAt c above (f :: rest) below) (hr : f.records = r :: more) :
    parserStackIteratorRead E (frameHeight E.layout (f :: rest) below - 1) c = .ok (r,c) := by
  have items : c.stack.items = (above ++ [.uint8 f.tag]) ++ .record r ::
      (more.map .record ++ (frameItems rest ++ .uint8 parserStatementStart :: below)) := by
    simpa [StackAt, ParserFrame.items, hr] using h
  have read := c.stack.iteratorRead_at E.layout items
  simp only [parserStackIteratorRead, bind_apply, get_apply]
  rw [show frameHeight E.layout (f :: rest) below - 1 = stackHeight E.layout (.record r ::
      (more.map .record ++ (frameItems rest ++ .uint8 parserStatementStart :: below))) by
    simp [frameHeight, ParserFrame.items, hr, ParserStackItem.size], read]
  rfl

theorem StackAt.readSecond {r r' : ParserRecord} (h : StackAt c above (f :: rest) below)
    (hr : f.records = [r,r']) :
    parserStackIteratorRead E (frameHeight E.layout (f :: rest) below - 1 - r.size E.layout) c =
      .ok (r',c) := by
  have items : c.stack.items = (above ++ [.uint8 f.tag,.record r]) ++ .record r' ::
      (frameItems rest ++ .uint8 parserStatementStart :: below) := by
    simpa [StackAt, ParserFrame.items, hr] using h
  have read := c.stack.iteratorRead_at E.layout items
  simp only [parserStackIteratorRead, bind_apply, get_apply]
  rw [show frameHeight E.layout (f :: rest) below - 1 - r.size E.layout = stackHeight E.layout
      (.record r' :: (frameItems rest ++ .uint8 parserStatementStart :: below)) by
    simp [frameHeight, ParserFrame.items, hr, ParserStackItem.size], read]
  rfl

theorem parserStatementLengthOf_tag (f : ParserFrame) (c : ParserContext) :
    parserStatementLengthOf E f.tag c = .ok (stackHeight E.layout f.items,c) := by
  simp only [parserStatementLengthOf, parserStatementLength_tag]
  rfl

theorem frameHeight_skip (L : ParserLayout) (f : ParserFrame) (rest : List ParserFrame)
    (below : List ParserStackItem) :
    frameHeight L (f :: rest) below - stackHeight L f.items = frameHeight L rest below := by
  rw [frameHeight_cons]
  omega

def exitOpcode (opcode : CbcOpcode) (left : List ParserFrame) : CbcOpcode :=
  if left.any (fun f => isContextStatement f.tag) then .jumpForwardExitContext else opcode

@[simp] theorem exitOpcode_nil (opcode : CbcOpcode) : exitOpcode opcode [] = opcode := rfl

theorem exitOpcode_cons (opcode : CbcOpcode) (f : ParserFrame) (left : List ParserFrame) :
    exitOpcode opcode (f :: left) = exitOpcode
      (if isContextStatement f.tag then .jumpForwardExitContext else opcode) left := by
  unfold exitOpcode
  rw [List.any_cons]
  cases isContextStatement f.tag <;> simp

def findLabel (named : ParserLabelStatement → Bool) :
    List ParserFrame → Option (Nat × ParserLabelStatement)
  | [] => none
  | .label r :: rest =>
      if named r then some (0,r) else (findLabel named rest).map fun (k,r) => (k + 1,r)
  | _ :: rest => (findLabel named rest).map fun (k,r) => (k + 1,r)

def continueLabelScan (named : ParserLabelStatement → Bool) :
    List ParserFrame → Option (List ParserFrame) → Bool → CbcOpcode →
      Option (List ParserFrame × CbcOpcode)
  | [],_,_,_ => none
  | f :: rest,loop,seen,opcode =>
      match loop,f with
      | some target,.label r =>
          if named r then some (target,opcode) else continueLabelScan named rest loop seen opcode
      | _,_ =>
          let (opcode,seen) :=
            if f.tag == parserStatementWith || f.tag == parserStatementTry || seen then
              (CbcOpcode.jumpForwardExitContext,seen)
            else if f.tag == parserStatementForIn then (opcode,true) else (opcode,seen)
          continueLabelScan named rest (if isLoopStatement f.tag then some (f :: rest) else none)
            seen opcode

def labelRunNamed (named : ParserLabelStatement → Bool) : List ParserFrame → Bool
  | .label r :: rest => named r || labelRunNamed named rest
  | _ => false

def labelledLoop (named : ParserLabelStatement → Bool) : List ParserFrame → Option Nat
  | [] => none
  | f :: rest =>
      if isLoopStatement f.tag && labelRunNamed named rest then some 0
      else (labelledLoop named rest).map (· + 1)

theorem continueLabelScan_target (named : ParserLabelStatement → Bool) (rest : List ParserFrame)
    (loop : Option (List ParserFrame)) (seen : Bool) (opcode : CbcOpcode) :
    (continueLabelScan named rest loop seen opcode).map Prod.fst = match loop with
      | some t => if labelRunNamed named rest then some t
          else (labelledLoop named rest).map (rest.drop ·)
      | none => (labelledLoop named rest).map (rest.drop ·) := by
  induction rest generalizing loop seen opcode with
  | nil => cases loop <;> rfl
  | cons f rest ih =>
    have generic : (continueLabelScan named (f :: rest) none seen opcode).map Prod.fst =
        (labelledLoop named (f :: rest)).map ((f :: rest).drop ·) := by
      simp only [continueLabelScan, ih, labelledLoop]
      cases isLoopStatement f.tag <;> cases labelRunNamed named rest <;>
        simp [Option.map_map, Function.comp_def]
    cases loop with
    | none => exact generic
    | some t =>
      cases f with
      | label r =>
        have notLoop : isLoopStatement (ParserFrame.label r).tag = false := rfl
        simp only [continueLabelScan, labelRunNamed, labelledLoop, notLoop]
        cases named r <;> simp [ih, Option.map_map, Function.comp_def]
      | _ => simpa only [continueLabelScan, labelRunNamed] using generic

structure ContinueScanState (opcode : CbcOpcode) (pre rest : List ParserFrame)
    (loop : Option (List ParserFrame)) (seen : Bool) (current : CbcOpcode) : Prop where
  forIn : seen = pre.any fun f => f.tag == parserStatementForIn
  settled : (if seen then CbcOpcode.jumpForwardExitContext else current) = exitOpcode opcode pre
  pending : ∀ t, loop = some t → ∃ left, pre ++ rest = left ++ t ∧
    current = exitOpcode opcode left

theorem frame_context (f : ParserFrame) : isContextStatement f.tag =
    (f.tag == parserStatementForIn || (f.tag == parserStatementWith || f.tag == parserStatementTry)) := by
  cases f with
  | switchStatement hasDefault => cases hasDefault <;> rfl
  | _ => rfl

theorem frame_holdsContext (f : ParserFrame) : isContextStatement f.tag = f.holdsContext := by
  cases f with
  | switchStatement hasDefault => cases hasDefault <;> rfl
  | _ => rfl

theorem exitOpcode_holdsContext (opcode : CbcOpcode) (left : List ParserFrame) :
    exitOpcode opcode left =
      if left.any ParserFrame.holdsContext then .jumpForwardExitContext else opcode := by
  simp only [exitOpcode, frame_holdsContext]

theorem frame_loop_not_withTry (f : ParserFrame) : (isLoopStatement f.tag &&
    (f.tag == parserStatementWith || f.tag == parserStatementTry)) = false := by
  cases f with
  | switchStatement hasDefault => cases hasDefault <;> rfl
  | _ => rfl

theorem frame_forIn_loop (f : ParserFrame) :
    (f.tag == parserStatementForIn && !isLoopStatement f.tag) = false := by
  cases f with
  | switchStatement hasDefault => cases hasDefault <;> rfl
  | _ => rfl

theorem exitOpcode_append_single (opcode : CbcOpcode) (pre : List ParserFrame) (f : ParserFrame) :
    exitOpcode opcode (pre ++ [f]) =
      if isContextStatement f.tag then .jumpForwardExitContext else exitOpcode opcode pre := by
  unfold exitOpcode
  rw [List.any_append, List.any_cons, List.any_nil, Bool.or_false]
  cases isContextStatement f.tag <;> cases pre.any (fun f => isContextStatement f.tag) <;> rfl

theorem continueLabelScan_opcode {named : ParserLabelStatement → Bool} (opcode : CbcOpcode)
    (pre : List ParserFrame) {rest : List ParserFrame} {loop : Option (List ParserFrame)} {seen : Bool}
    {current op : CbcOpcode} {t : List ParserFrame}
    (h : continueLabelScan named rest loop seen current = some (t,op))
    (state : ContinueScanState opcode pre rest loop seen current) :
    ∃ left, pre ++ rest = left ++ t ∧ op = exitOpcode opcode left := by
  induction rest generalizing pre loop seen current with
  | nil => cases h
  | cons f rest ih =>
    have asLabel : ∀ r t', loop = some t' → f = .label r → ¬ named r = true →
        continueLabelScan named rest loop seen current = some (t,op) →
        ∃ left, pre ++ f :: rest = left ++ t ∧ op = exitOpcode opcode left := by
      intro r t' hl hf _ next
      subst hf
      have notContext : isContextStatement (ParserFrame.label r).tag = false := rfl
      refine (ih (pre ++ [.label r]) next ⟨?_,?_,?_⟩).imp
        fun left ⟨same,hop⟩ => ⟨by simpa using same,hop⟩
      · have notForIn : ((ParserFrame.label r).tag == parserStatementForIn) = false := rfl
        simp [state.forIn, notForIn]
      · rw [exitOpcode_append_single, notContext]
        exact state.settled
      · intro t'' hl''
        simpa using state.pending t'' hl''
    have generic : continueLabelScan named rest
        (if isLoopStatement f.tag then some (f :: rest) else none)
        (if f.tag == parserStatementWith || f.tag == parserStatementTry || seen then
          (CbcOpcode.jumpForwardExitContext,seen)
          else if f.tag == parserStatementForIn then (current,true) else (current,seen)).2
        (if f.tag == parserStatementWith || f.tag == parserStatementTry || seen then
          (CbcOpcode.jumpForwardExitContext,seen)
          else if f.tag == parserStatementForIn then (current,true) else (current,seen)).1 =
          some (t,op) →
        ∃ left, pre ++ f :: rest = left ++ t ∧ op = exitOpcode opcode left := by
      intro next
      have excl := frame_loop_not_withTry f
      have forInLoop := frame_forIn_loop f
      refine (ih (pre ++ [f]) next ⟨?_,?_,?_⟩).imp
        fun left ⟨same,hop⟩ => ⟨by simpa using same,hop⟩
      · rw [List.any_append, List.any_cons, List.any_nil, Bool.or_false, ← state.forIn]
        revert excl forInLoop
        cases f.tag == parserStatementForIn <;> cases f.tag == parserStatementWith ||
          f.tag == parserStatementTry <;> cases isLoopStatement f.tag <;> cases seen <;> simp
      · rw [exitOpcode_append_single, frame_context, ← state.settled]
        revert excl forInLoop
        cases f.tag == parserStatementForIn <;> cases f.tag == parserStatementWith ||
          f.tag == parserStatementTry <;> cases isLoopStatement f.tag <;> cases seen <;> simp
      · intro t' hl
        cases hloop : isLoopStatement f.tag
        · simp [hloop] at hl
        · simp only [hloop, if_true, Option.some.injEq] at hl
          subst hl
          refine ⟨pre,by simp,?_⟩
          have notWithTry : (f.tag == parserStatementWith || f.tag == parserStatementTry) = false := by
            simpa [hloop] using excl
          rw [← state.settled, notWithTry, Bool.false_or]
          cases seen <;> cases f.tag == parserStatementForIn <;> rfl
    cases loop with
    | none =>
      simp only [continueLabelScan] at h
      exact generic h
    | some t' =>
      cases f with
      | label r =>
        simp only [continueLabelScan] at h
        split at h
        · simp only [Option.some.injEq, Prod.mk.injEq] at h
          obtain ⟨rfl,rfl⟩ := h
          exact state.pending _ rfl
        · exact asLabel r t' rfl rfl (by assumption) h
      | _ =>
        simp only [continueLabelScan] at h
        exact generic h

theorem tag_beq_start (f : ParserFrame) : (f.tag == parserStatementStart) = false := by
  simpa using f.tag_ne_start

theorem tag_beq_label (f : ParserFrame) :
    (f.tag == parserStatementLabel) = (match f with | .label _ => true | _ => false) := by
  cases f with
  | switchStatement hasDefault => cases hasDefault <;> rfl
  | _ => rfl

theorem breakWalk_eq {rest : List ParserFrame} {fuel : Nat} (h : StackAt c above rest below)
    (fuel_ok : rest.length < fuel) (opcode : CbcOpcode) :
    breakWalk E fuel (frameHeight E.layout rest below) opcode c =
      match rest.findIdx? (fun f => isBreakTarget f.tag) with
      | some k => fileIntoLoop E (frameHeight E.layout (rest.drop k) below)
          (exitOpcode opcode (rest.take (k + 1))) false c
      | none => parserRaiseError .invalidBreak c := by
  induction rest generalizing above fuel opcode with
  | nil =>
    obtain ⟨fuel,rfl⟩ : ∃ n, fuel = n + 1 := ⟨fuel - 1,by simp at fuel_ok; omega⟩
    simp only [breakWalk, bind_apply, h.readStart]
    rfl
  | cons f rest ih =>
    obtain ⟨fuel,rfl⟩ : ∃ n, fuel = n + 1 := ⟨fuel - 1,by simp at fuel_ok; omega⟩
    simp only [breakWalk, bind_apply, h.readTag, tag_beq_start, Bool.false_eq_true, if_false,
      pure_apply, List.findIdx?_cons]
    cases isBreakTarget f.tag
    · simp only [Bool.false_eq_true, if_false, bind_apply, pure_apply, parserStatementLengthOf_tag,
        frameHeight_skip, ih h.next (by simpa using fuel_ok), List.findIdx?_start_succ]
      cases rest.findIdx? (fun f => isBreakTarget f.tag) with
      | none => rfl
      | some k => simp [exitOpcode_cons]
    · simp [exitOpcode]

theorem continueWalk_eq {rest : List ParserFrame} {fuel : Nat} (h : StackAt c above rest below)
    (fuel_ok : rest.length < fuel) (opcode : CbcOpcode) :
    continueWalk E fuel (frameHeight E.layout rest below) opcode c =
      match rest.findIdx? (fun f => isLoopStatement f.tag) with
      | some k => fileIntoLoop E (frameHeight E.layout (rest.drop k) below)
          (exitOpcode opcode (rest.take k)) true c
      | none => parserRaiseError .invalidContinue c := by
  induction rest generalizing above fuel opcode with
  | nil =>
    obtain ⟨fuel,rfl⟩ : ∃ n, fuel = n + 1 := ⟨fuel - 1,by simp at fuel_ok; omega⟩
    simp only [continueWalk, bind_apply, h.readStart]
    rfl
  | cons f rest ih =>
    obtain ⟨fuel,rfl⟩ : ∃ n, fuel = n + 1 := ⟨fuel - 1,by simp at fuel_ok; omega⟩
    simp only [continueWalk, bind_apply, h.readTag, tag_beq_start, Bool.false_eq_true, if_false,
      pure_apply, List.findIdx?_cons]
    cases loop : isLoopStatement f.tag
    · have context : isContextStatement f.tag = (f.tag == parserStatementWith
          || f.tag == parserStatementTry) := by
        simp only [isLoopStatement, Bool.or_eq_false_iff] at loop
        simp [isContextStatement, loop.2]
      simp only [Bool.false_eq_true, if_false, bind_apply, pure_apply, parserStatementLengthOf_tag,
        frameHeight_skip, ih h.next (by simpa using fuel_ok), List.findIdx?_start_succ]
      cases rest.findIdx? (fun f => isLoopStatement f.tag) with
      | none => rfl
      | some k => simp [exitOpcode_cons, context]
    · simp

theorem labelFrameHeight (L : ParserLayout) (r : ParserLabelStatement) (rest : List ParserFrame)
    (below : List ParserStackItem) :
    frameHeight L (.label r :: rest) below - 1 - L.labelStatement = frameHeight L rest below := by
  simp only [frameHeight_cons, ParserFrame.items, ParserFrame.records, List.map, stackHeight_cons,
    ParserStackItem.size, ParserRecord.size, stackHeight_nil]
  omega

theorem breakLabelWalk_eq {rest : List ParserFrame} {fuel : Nat} (h : StackAt c above rest below)
    (fuel_ok : rest.length < fuel) (opcode : CbcOpcode) :
    breakLabelWalk E fuel (frameHeight E.layout rest below) opcode c =
      match findLabel (fun r => E.lexer.sameIdentifiers c.token.litLocation r.labelIdent) rest with
      | some (k,r) => (fileIntoLabel E (frameHeight E.layout (rest.drop k) below)
          (exitOpcode opcode (rest.take (k + 1))) r >>= fun _ => lexerNextToken E) c
      | none => parserRaiseError .invalidBreakLabel c := by
  induction rest generalizing above fuel opcode with
  | nil =>
    obtain ⟨fuel,rfl⟩ : ∃ n, fuel = n + 1 := ⟨fuel - 1,by simp at fuel_ok; omega⟩
    simp only [breakLabelWalk, bind_apply, h.readStart]
    rfl
  | cons f rest ih =>
    obtain ⟨fuel,rfl⟩ : ∃ n, fuel = n + 1 := ⟨fuel - 1,by simp at fuel_ok; omega⟩
    have next := ih h.next (by simpa using fuel_ok)
    simp only [breakLabelWalk, bind_apply, h.readTag, tag_beq_start, Bool.false_eq_true, if_false,
      pure_apply, tag_beq_label]
    cases f with
    | label r =>
      have ctx : isContextStatement parserStatementLabel = false := rfl
      simp only [if_true, bind_apply, h.readRecord rfl, get_apply, ParserRecord.asLabel, ParserFrame.tag,
        orUndefined, pure_apply, findLabel, ctx]
      cases E.lexer.sameIdentifiers c.token.litLocation r.labelIdent
      · simp only [Bool.false_eq_true, if_false, labelFrameHeight, next]
        cases findLabel (fun r => E.lexer.sameIdentifiers c.token.litLocation r.labelIdent) rest with
        | none => rfl
        | some p => simp [exitOpcode_cons, ParserFrame.tag, ctx, bind_apply]
      · simp [exitOpcode, ParserFrame.tag, ctx, bind_apply]
    | _ =>
      simp only [Bool.false_eq_true, if_false, bind_apply, pure_apply, parserStatementLengthOf_tag,
        frameHeight_skip, next, findLabel]
      cases findLabel (fun r => E.lexer.sameIdentifiers c.token.litLocation r.labelIdent) rest with
      | none => rfl
      | some p => simp [exitOpcode_cons]

theorem continueLabelWalk_eq {rest : List ParserFrame} {fuel : Nat}
    (h : StackAt c above rest below) (fuel_ok : rest.length < fuel)
    (loop : Option (List ParserFrame)) (seen : Bool) (opcode : CbcOpcode) :
    continueLabelWalk E fuel (frameHeight E.layout rest below) opcode
        (loop.map (frameHeight E.layout · below)) seen c =
      match continueLabelScan (fun r => E.lexer.sameIdentifiers c.token.litLocation r.labelIdent)
          rest loop seen opcode with
      | some (target,op) => (fileIntoLoop E (frameHeight E.layout target below) op true >>=
          fun _ => lexerNextToken E) c
      | none => parserRaiseError .invalidContinueLabel c := by
  induction rest generalizing above fuel loop seen opcode with
  | nil =>
    obtain ⟨fuel,rfl⟩ : ∃ n, fuel = n + 1 := ⟨fuel - 1,by simp at fuel_ok; omega⟩
    simp only [continueLabelWalk, bind_apply, h.readStart]
    rfl
  | cons f rest ih =>
    obtain ⟨fuel,rfl⟩ : ∃ n, fuel = n + 1 := ⟨fuel - 1,by simp at fuel_ok; omega⟩
    have next := ih h.next (by simpa using fuel_ok)
    simp only [continueLabelWalk, bind_apply, h.readTag, tag_beq_start, Bool.false_eq_true,
      if_false, pure_apply]
    have loopAt : (if isLoopStatement f.tag then some (frameHeight E.layout (f :: rest) below)
        else none) = (if isLoopStatement f.tag then some (f :: rest) else none).map
          (frameHeight E.layout · below) := by
      split <;> rfl
    rcases loop with _ | target
    · simp only [Option.map_none', continueLabelScan, parserStatementLengthOf_tag, frameHeight_skip,
        bind_apply, pure_apply, loopAt, next]
    · simp only [Option.map_some', tag_beq_label]
      cases f with
      | label r =>
        simp only [bind_apply, h.readRecord rfl, get_apply, ParserRecord.asLabel, orUndefined,
          pure_apply, continueLabelScan, labelFrameHeight]
        by_cases same : E.lexer.sameIdentifiers c.token.litLocation r.labelIdent = true
        · simp [same, bind_apply]
        · simp only [same, Bool.false_eq_true, if_false]
          simpa only [Option.map_some', bind_apply] using next (some target) seen opcode
      | _ =>
        simp only [continueLabelScan, parserStatementLengthOf_tag, frameHeight_skip, bind_apply,
          pure_apply, loopAt, next]

end JerryParser
