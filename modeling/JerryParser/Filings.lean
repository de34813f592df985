import JerryParser.Closings

/-! The statements that change a frame in place without opening or closing one: `break` and
`continue` file a new jump into the list of the frame they target, and `case` takes the next
case branch off the switch record. The walks of Walks.lean choose the frame; writing its record
back keeps the kind of every frame, so the statement boundary stays one. -/
namespace JerryParser

variable {E : ParserEnv} {fs pre post : List ParserFrame} {below : List ParserStackItem}

open LexerTokenType

namespace ParserFrame

def withLoop (loop : ParserLoopStatement) : ParserFrame → ParserFrame
  | switchStatement hasDefault _ r => switchStatement hasDefault loop r
  | doWhileStatement _ r => doWhileStatement loop r
  | whileStatement _ r => whileStatement loop r
  | forStatement _ r => forStatement loop r
  | forInStatement _ r => forInStatement loop r
  | f => f

variable {f : ParserFrame} (loop : ParserLoopStatement)

@[simp] theorem withLoop_allocation (E : ParserEnv) :
    (f.withLoop loop).allocation E = f.allocation E := by
  cases f <;> rfl

@[simp] theorem withLoop_endsContext : (f.withLoop loop).endsContext = f.endsContext := by
  cases f <;> rfl

@[simp] theorem withLoop_tag : (f.withLoop loop).tag = f.tag := by
  cases f with
  | switchStatement hasDefault => cases hasDefault <;> rfl
  | _ => rfl

theorem loopRecord (h : isBreakTarget f.tag = true) :
    ∃ (l : ParserLoopStatement) (more : List ParserRecord), f.records = .loopStatement l :: more ∧
      (f.withLoop loop).records = .loopStatement loop :: more ∧ (f.withLoop loop).tag = f.tag := by
  cases f with
  | switchStatement hasDefault => cases hasDefault <;> exact ⟨_,_,rfl,rfl,rfl⟩
  | doWhileStatement | whileStatement | forStatement | forInStatement => exact ⟨_,_,rfl,rfl,rfl⟩
  | _ => simp only [tag] at h; exact absurd h (by decide)

end ParserFrame

theorem isBreakTarget_of_loop {t : UInt8} (h : isLoopStatement t = true) : isBreakTarget t = true := by
  simp [isBreakTarget, h]

theorem findIdx?_split {p : ParserFrame → Bool} {k : Nat} (h : fs.findIdx? p = some k) :
    ∃ f post, fs.drop k = f :: post ∧ fs = fs.take k ++ f :: post ∧ p f = true := by
  obtain ⟨hk,hp,-⟩ := List.findIdx?_eq_some_iff_getElem.mp h
  exact ⟨_,_,List.drop_eq_getElem_cons hk,(List.take_append_drop k fs).symm.trans
    (by rw [List.drop_eq_getElem_cons hk]),hp⟩

theorem findLabel_split {named : ParserLabelStatement → Bool} {k : Nat}
    {r : ParserLabelStatement} (h : findLabel named fs = some (k,r)) :
    ∃ post, fs.drop k = .label r :: post := by
  induction fs generalizing k with
  | nil => cases h
  | cons f fs ih =>
    cases f with
    | label r' =>
      simp only [findLabel] at h
      split at h
      · cases h
        exact ⟨fs,rfl⟩
      · obtain ⟨⟨k',r''⟩,found,same⟩ := Option.map_eq_some'.mp h
        cases same
        exact ih found
    | _ =>
      obtain ⟨⟨k',r''⟩,found,same⟩ := Option.map_eq_some'.mp h
      cases same
      exact ih found

theorem labelledLoop_split {named : ParserLabelStatement → Bool} {k : Nat}
    (h : labelledLoop named fs = some k) :
    ∃ f post, fs.drop k = f :: post ∧ isLoopStatement f.tag = true := by
  induction fs generalizing k with
  | nil => cases h
  | cons f fs ih =>
    simp only [labelledLoop] at h
    split at h
    · rename_i loop
      cases h
      exact ⟨f,fs,rfl,by simpa using (Bool.and_eq_true _ _).mp loop |>.1⟩
    · obtain ⟨k',found,rfl⟩ := Option.map_eq_some'.mp h
      exact ih found

theorem exitOpcode_jump (left : List ParserFrame) :
    contextAllocation E (exitOpcode .jumpForward left) = 0 ∧
      (CbcInstr.forward (exitOpcode .jumpForward left)).opensContext = false := by
  rw [exitOpcode_holdsContext]
  split <;> exact ⟨rfl,rfl⟩

section

variable {α : Type} {Q : ParserContext → Prop}

theorem triple_readFrame {f : ParserFrame} {r : ParserRecord} {more : List ParserRecord}
    {a b : UInt16} {k : Nat} (split : f.records = r :: more) :
    Triple (fun c => FramesAt E c fs a b k ∧ StackAt c (frameItems pre) (f :: post) below)
      (parserStackIteratorRead E (frameHeight E.layout (f :: post) below - 1))
      (fun x c => x = r ∧ FramesAt E c fs a b k ∧ StackAt c (frameItems pre) (f :: post) below) Q :=
  fun c ⟨h,stackAt⟩ => by
    rw [stackAt.readRecord split]
    exact ⟨fun _ _ ok => by cases ok; exact ⟨rfl,h,stackAt⟩,fun _ err => nomatch err⟩

theorem StackAt.iterator {c : ParserContext} {f : ParserFrame} 
    (stackAt : StackAt c (frameItems pre) (f :: post) below) :
    frameHeight E.layout (f :: post) below - 1 =
      c.stack.iteratorInit E.layout - stackHeight E.layout (frameItems pre ++ [.uint8 f.tag]) := by
  simp only [StackAt] at stackAt
  simp only [ParserStack.iteratorInit, stackAt, stackHeight_append, frameHeight, stackHeight_cons,
    ParserStackItem.size, stackHeight_nil]
  omega

end

theorem Inert.framesAtStackAt {α : Type} {m : ParserM α} {fs' rest : List ParserFrame}
    {above : List ParserStackItem} {a b : UInt16} {k : Nat} (hm : Inert m) :
    Triple (fun c => FramesAt E c fs' a b k ∧ StackAt c above rest below) m
      (fun _ c => FramesAt E c fs' a b k ∧ StackAt c above rest below) (Designated E.layout) :=
  @Inert.framesAtWith E fs' a b k α m
    (fun s => s.items = above ++ (frameItems rest ++ .uint8 parserStatementStart :: below)) hm

theorem triple_writeLoop {f : ParserFrame} (target : isBreakTarget f.tag = true) (p : Nat)
    {Q : ParserContext → Prop} :
    Triple (fun c => FramesAt E c (pre ++ f :: post) 0 0 0 ∧
        StackAt c (frameItems pre) (f :: post) below)
      (parserStackIteratorWrite E (frameHeight E.layout (f :: post) below - 1)
        (.loopStatement ⟨some p⟩))
      (fun _ c => FramesAt E c (pre ++ f.withLoop ⟨some p⟩ :: post) 0 0 0) Q := by
  obtain ⟨l,more,split,-⟩ := f.loopRecord ⟨none⟩ target
  obtain ⟨l',more',split',filed,tag⟩ := f.loopRecord ⟨some p⟩ target
  obtain rfl : more = more' := by rw [split] at split'; cases split'; rfl
  exact triple_iteratorWrite fun c ⟨h,stackAt⟩ =>
    have ⟨s,write,_,h'⟩ := h.iteratorWrite
      (show f.items = [.uint8 f.tag] ++ .record (.loopStatement l) :: List.map .record more by
        simp [ParserFrame.items, split])
      (show (f.withLoop ⟨some p⟩).items = [.uint8 f.tag] ++
        .record (.loopStatement ⟨some p⟩) :: List.map .record more by
        simp [ParserFrame.items, filed, tag]) rfl (f.withLoop_allocation ⟨some p⟩ E)
      (f.withLoop_endsContext ⟨some p⟩)
    ⟨s,by rw [stackAt.iterator]; exact write,h'⟩

theorem fileIntoLoop_triple {f : ParserFrame} (target : isBreakTarget f.tag = true)
    {op : CbcOpcode} (alloc : contextAllocation E op = 0)
    (opens : (CbcInstr.forward op).opensContext = false) (isContinue : Bool) :
    Triple (fun c => FramesAt E c (pre ++ f :: post) 0 0 0 ∧
        StackAt c (frameItems pre) (f :: post) below)
      (fileIntoLoop E (frameHeight E.layout (f :: post) below) op isContinue)
      (fun _ => WithBoundary E (withOpen (pre ++ f :: post))) (Designated E.layout) := by
  obtain ⟨l,more,split,-⟩ := f.loopRecord ⟨none⟩ target
  unfold fileIntoLoop
  refine triple_bind_eq (triple_readFrame split) ?_
  simp only [ParserRecord.asLoop, orUndefined, pure_bind]
  refine (inert_parserEmitCbcForwardBranchItem alloc opens _).framesAtStackAt.bind fun p => ?_
  have write : Triple (fun c => FramesAt E c (pre ++ f :: post) 0 0 0 ∧
      StackAt c (frameItems pre) (f :: post) below)
      (parserStackIteratorWrite E (frameHeight E.layout (f :: post) below - 1)
        (.loopStatement ⟨some p⟩)) (fun _ => WithBoundary E (withOpen (pre ++ f :: post)))
      (Designated E.layout) :=
    (triple_writeLoop target p).weaken (fun _ h => h) (fun _ _ h => ⟨_,by simp [withOpen],h⟩)
      fun _ h => h
  exact triple_ite (fun _ => (inert_markContinue p).framesAtStackAt.bind fun _ => write)
    fun _ => write

theorem triple_writeLabel {r : ParserLabelStatement} (p : Nat) {Q : ParserContext → Prop} :
    Triple (fun c => FramesAt E c (pre ++ .label r :: post) 0 0 0 ∧
        StackAt c (frameItems pre) (.label r :: post) below)
      (parserStackIteratorWrite E (frameHeight E.layout (.label r :: post) below - 1)
        (.labelStatement { r with breakListP := some p }))
      (fun _ c => FramesAt E c (pre ++ .label { r with breakListP := some p } :: post) 0 0 0) Q :=
  triple_iteratorWrite fun c ⟨h,stackAt⟩ =>
    have ⟨s,write,_,h'⟩ := @FramesAt.iteratorWrite E c pre post 0 0 0 (.label r)
      (.label { r with breakListP := some p }) [.uint8 parserStatementLabel] [] _ _ h rfl rfl rfl
      rfl rfl
    ⟨s,by rw [stackAt.iterator]; exact write,h'⟩

theorem fileIntoLabel_triple {r : ParserLabelStatement} {op : CbcOpcode}
    (alloc : contextAllocation E op = 0) (opens : (CbcInstr.forward op).opensContext = false) :
    Triple (fun c => FramesAt E c (pre ++ .label r :: post) 0 0 0 ∧
        StackAt c (frameItems pre) (.label r :: post) below)
      (fileIntoLabel E (frameHeight E.layout (.label r :: post) below) op r)
      (fun _ => WithBoundary E (withOpen (pre ++ .label r :: post))) (Designated E.layout) := by
  unfold fileIntoLabel
  exact (inert_parserEmitCbcForwardBranchItem alloc opens _).framesAtStackAt.bind fun p =>
    (triple_writeLabel p).weaken (fun _ h => h)
      (fun _ _ h => ⟨_,by simp [withOpen, ParserFrame.tag],h⟩) fun _ h => h

theorem StackAt.split {c : ParserContext} {k : Nat} {g : ParserFrame} (h : StackAt c [] fs below)
    (drop : fs.drop k = g :: post) :
    fs = fs.take k ++ g :: post ∧ StackAt c (frameItems (fs.take k)) (g :: post) below := by
  have whole : fs = fs.take k ++ g :: post := by rw [← drop, List.take_append_drop]
  refine ⟨whole,?_⟩
  have items := h
  rw [whole] at items
  simpa [StackAt] using items

theorem FramesAt.walk {c : ParserContext} {a b : UInt16} {k n : Nat} (h : FramesAt E c fs a b k)
    (height : c.stack.iteratorInit E.layout = n) :
    ∃ below, StackAt c [] fs below ∧ n = frameHeight E.layout fs below ∧ fs.length < n + 1 := by
  obtain ⟨below,items⟩ := h.framed.items
  have hn : n = frameHeight E.layout fs below := by rw [← height, ParserStack.iteratorInit, items]; rfl
  exact ⟨below,by simpa [StackAt] using items,hn,hn ▸ length_lt_frameHeight _ _ _⟩

theorem inert_switchRecordIterator : Inert (switchRecordIterator E) :=
  inert_parserStackIteratorInit.bind fun _ => inert_pure _

theorem inert_parserParseDefaultStatement : Inert (parserParseDefaultStatement E) := by
  unfold parserParseDefaultStatement
  dsimp only
  repeat' first
    | refine inert_ite ?_ ?_
    | refine (inert_raiseError _).bind fun _ => ?_
    | refine inert_get.bind fun _ => ?_
    | refine inert_lexerNextToken.bind fun _ => ?_
    | refine (inert_assert _).bind fun _ => ?_
    | refine inert_switchRecordIterator.bind fun _ => ?_
    | refine (inert_parserStackIteratorRead _).bind fun _ => ?_
    | refine (inert_orUndefined _).bind fun _ => ?_
    | exact inert_parserSetBranchToCurrentPosition _

theorem triple_switchRecordIterator {α : Type} {hasDefault : Bool} {loop : ParserLoopStatement}
    {r : ParserSwitchStatement} {R : α → ParserContext → Prop} {Q : ParserContext → Prop}
    {k : Nat → ParserM α} (hk : ∀ iterator, Triple (SwitchOpen E fs iterator) (k iterator) R Q) :
    Triple (FramesAt E · (.switchStatement hasDefault loop r :: fs) 0 0 0)
      (switchRecordIterator E >>= k) R Q := fun c h => by
  obtain ⟨below,items⟩ := h.framed.items
  have above : 1 + E.layout.loopStatement ≤ c.stack.iteratorInit E.layout := by
    simp only [ParserStack.iteratorInit, items, frameItems_cons, ParserFrame.items,
      ParserFrame.records, List.map_cons, stackHeight_append, stackHeight_cons,
      ParserStackItem.size, ParserRecord.size]
    omega
  exact hk _ c ⟨_,_,_,h,(Nat.sub_add_cancel above).symm⟩

theorem caseStatement_triple (fuel : Nat) :
    Triple (FramesAt E · fs 0 0 0) (parserParseCaseStatement E fuel)
      (fun _ => WithBoundary E (withOpen fs)) (Designated E.layout) := by
  unfold parserParseCaseStatement
  refine triple_get_at fun d h => h.at ?_
  rw [h.framed.top]
  dsimp only
  rcases fs with _ | ⟨_ | _ | _ | _ | ⟨_ | _,_,_⟩ | _ | _ | _ | _ | _ | _,fs⟩ <;>
    simp +decide only [↓reduceIte, topTag, ParserFrame.tag, pure_bind]
  all_goals try exact triple_raiseError_bind (fun _ h => h.designated) _ _
  all_goals
    refine (FramesAt.scan _ _).bind fun _ => inert_lexerNextToken.framesAt.bind fun _ =>
      triple_switchRecordIterator fun iterator => ?_
    repeat' first
      | refine (inert_parserStackIteratorRead _).switchOpen.bind fun _ => ?_
      | refine (inert_orUndefined _).switchOpen.bind fun _ => ?_
      | refine (inert_assert _).switchOpen.bind fun _ => ?_
      | refine inert_get.switchOpen.bind fun _ => ?_
      | refine (switchOpen_write _).bind fun _ => ?_
      | refine (inert_parserSetBranchToCurrentPosition _).switchOpen.bind fun _ => ?_
    exact (inert_free _).switchOpen.weaken (fun _ h => h)
      (fun _ _ ⟨_,_,_,h,_⟩ => ⟨_,by simp [ParserFrame.tag_beq_with],h⟩) fun _ h => h

section

variable (E fs) in
structure Filing (J S : ParserContext → Prop) : Prop where
  token : Triple (fun c => FramesAt E c fs 0 0 0 ∧ J c) (lexerNextToken E)
    (fun _ c => FramesAt E c fs 0 0 0 ∧ J c) (Designated E.layout)
  next : Triple S (lexerNextToken E) (fun _ => S) (Designated E.layout)
  label : ∀ pre r post below op, fs = pre ++ .label r :: post → contextAllocation E op = 0 →
    (CbcInstr.forward op).opensContext = false →
    Triple (fun c => (FramesAt E c fs 0 0 0 ∧ StackAt c (frameItems pre) (.label r :: post) below) ∧
      J c) (fileIntoLabel E (frameHeight E.layout (.label r :: post) below) op r) (fun _ => S)
      (Designated E.layout)
  loop : ∀ pre f post below op isContinue, fs = pre ++ f :: post → isBreakTarget f.tag = true →
    contextAllocation E op = 0 → (CbcInstr.forward op).opensContext = false →
    Triple (fun c => (FramesAt E c fs 0 0 0 ∧ StackAt c (frameItems pre) (f :: post) below) ∧ J c)
      (fileIntoLoop E (frameHeight E.layout (f :: post) below) op isContinue) (fun _ => S)
      (Designated E.layout)

variable {J S : ParserContext → Prop}

theorem Filing.breakStatement (h : Filing E fs J S) :
    Triple (fun c => FramesAt E c fs 0 0 0 ∧ J c) (parserParseBreakStatement E) (fun _ => S)
      (Designated E.layout) := by
  unfold parserParseBreakStatement
  refine h.token.bind fun _ => triple_iteratorInit_bind fun n => (triple_get fun _ h => h).bind
    fun _ => triple_ite (fun _ => ?_) fun _ => ?_ <;>
  intro c ⟨⟨frames,hj⟩,height⟩ <;>
  obtain ⟨below,stackAt,rfl,fuel⟩ := frames.walk height
  · rw [breakLabelWalk_eq stackAt fuel]
    split
    · rename_i k r found
      obtain ⟨post,drop⟩ := findLabel_split found
      obtain ⟨whole,stackAt'⟩ := stackAt.split drop
      rw [drop]
      have ⟨alloc,opens⟩ := @exitOpcode_jump E (fs.take (k + 1))
      exact ((h.label _ _ _ _ _ whole alloc opens).bind fun _ => h.next) c ⟨⟨frames,stackAt'⟩,hj⟩
    · exact frames.raiseError _
  · rw [breakWalk_eq stackAt fuel]
    split
    · rename_i k found
      obtain ⟨f,post,drop,-,target⟩ := findIdx?_split found
      obtain ⟨whole,stackAt'⟩ := stackAt.split drop
      rw [drop]
      have ⟨alloc,opens⟩ := @exitOpcode_jump E (fs.take (k + 1))
      exact h.loop _ _ _ _ _ false whole target alloc opens c ⟨⟨frames,stackAt'⟩,hj⟩
    · exact frames.raiseError _

theorem Filing.continueStatement (h : Filing E fs J S) :
    Triple (fun c => FramesAt E c fs 0 0 0 ∧ J c) (parserParseContinueStatement E) (fun _ => S)
      (Designated E.layout) := by
  unfold parserParseContinueStatement
  refine h.token.bind fun _ => triple_iteratorInit_bind fun n => (triple_get fun _ h => h).bind
    fun _ => triple_ite (fun _ => ?_) fun _ => ?_ <;>
  intro c ⟨⟨frames,hj⟩,height⟩ <;>
  obtain ⟨below,stackAt,rfl,fuel⟩ := frames.walk height
  · have walk := @continueLabelWalk_eq E _ _ _ _ _ stackAt fuel none false .jumpForward
    rw [Option.map_none'] at walk
    rw [walk]
    split
    · rename_i target op found
      have located := continueLabelScan_target
        (fun r => E.lexer.sameIdentifiers c.token.litLocation r.labelIdent) fs none false .jumpForward
      rw [found] at located
      obtain ⟨k,labelled,rfl⟩ := Option.map_eq_some'.mp located.symm
      obtain ⟨f,post,drop,loop⟩ := labelledLoop_split labelled
      obtain ⟨whole,stackAt'⟩ := stackAt.split drop
      obtain ⟨left,-,rfl⟩ := continueLabelScan_opcode .jumpForward [] found
        ⟨rfl,rfl,fun _ h => nomatch h⟩
      have ⟨alloc,opens⟩ := @exitOpcode_jump E left
      rw [drop]
      exact ((h.loop _ _ _ _ _ true whole (isBreakTarget_of_loop loop) alloc opens).bind fun _ =>
        h.next) c ⟨⟨frames,stackAt'⟩,hj⟩
    · exact frames.raiseError _
  · rw [continueWalk_eq stackAt fuel]
    split
    · rename_i k found
      obtain ⟨f,post,drop,-,loop⟩ := findIdx?_split found
      obtain ⟨whole,stackAt'⟩ := stackAt.split drop
      rw [drop]
      have ⟨alloc,opens⟩ := @exitOpcode_jump E (fs.take k)
      exact h.loop _ _ _ _ _ true whole (isBreakTarget_of_loop loop) alloc opens c
        ⟨⟨frames,stackAt'⟩,hj⟩
    · exact frames.raiseError _

theorem filingBoundary : Filing E fs (fun _ => True) (WithBoundary E (withOpen fs)) where
  token := inert_lexerNextToken.framesAt.weaken (fun _ h => h.1) (fun _ _ h => ⟨h,trivial⟩)
    fun _ h => h
  next := inert_lexerNextToken.withBoundary
  label _ _ _ _ _ whole alloc opens := by
    subst whole
    exact (fileIntoLabel_triple alloc opens).weaken (fun _ h => h.1) (fun _ _ h => h) fun _ h => h
  loop _ _ _ _ _ isContinue whole target alloc opens := by
    subst whole
    exact (fileIntoLoop_triple target alloc opens isContinue).weaken (fun _ h => h.1)
      (fun _ _ h => h) fun _ h => h

end

theorem breakStatement_triple :
    Triple (FramesAt E · fs 0 0 0) (parserParseBreakStatement E)
      (fun _ => WithBoundary E (withOpen fs)) (Designated E.layout) :=
  filingBoundary.breakStatement.weaken (fun _ h => ⟨h,trivial⟩) (fun _ _ h => h) fun _ h => h

theorem continueStatement_triple :
    Triple (FramesAt E · fs 0 0 0) (parserParseContinueStatement E)
      (fun _ => WithBoundary E (withOpen fs)) (Designated E.layout) :=
  filingBoundary.continueStatement.weaken (fun _ h => ⟨h,trivial⟩) (fun _ _ h => h) fun _ h => h

end JerryParser
