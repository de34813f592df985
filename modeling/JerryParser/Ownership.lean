import JerryParser.BranchLists

/-! The heap of branch nodes over a run of `parser_parse_statements`: at every statement boundary
every allocated node is on exactly one of the branch lists the open frames hold, once. `break`
and `continue` allocate a node in front of the list of the frame they target, the cases of a
switch are chained at its start, `case` takes the head off, and the end of a loop, a switch or a
label drains the list with `parser_set_breaks_to_current_position`. So no node is freed twice
or read after it is freed, none is left once no statement is open, and `parser_free_jumps` on the
error path frees every one. -/
namespace JerryParser

open LexerTokenType

set_option synthInstance.maxSize 100000000

def OwnedBy (heads : List (Option Nat)) (c : ParserContext) : Prop :=
  Owns c.nodes c.nextNode heads

def NodesOnFrames (fs : List ParserFrame) : ParserContext → Prop :=
  OwnedBy (frameLists fs)

def ParserRecord.heads : ParserRecord → List (Option Nat)
  | .loopStatement r => [r.branchListP]
  | .labelStatement r => [r.breakListP]
  | .switchStatement r => [r.branchListP]
  | _ => []

section

variable {α β : Type} {E : ParserEnv} {fs : List ParserFrame} {f : ParserFrame}
  {hs : List (Option Nat)} {c : ParserContext} {P Q : ParserContext → Prop} {m : ParserM α}
  {R : α → ParserContext → Prop}

abbrev KeepsNodes (m : ParserM α) : Prop := Keeps (fun c => (c.nodes,c.nextNode)) m

theorem Keeps.nodes (h : Keeps untouched m) : KeepsNodes m :=
  h.view fun _ _ same => congrArg Prod.snd same

instance (priority := low) [KeepsView untouched m] : KeepsView (fun c => (c.nodes,c.nextNode)) m :=
  ⟨KeepsView.keeps.nodes⟩

instance keepsNodes_update (flags : ParserContext → ParserStatusFlags)
    (depth contextDepth : ParserContext → UInt16) (last : ParserContext → Option Nat)
    (token : ParserContext → LexerToken) (sourceP sourceEndP lastCbc byteCodeSize : ParserContext → Nat)
    (lastCbcOpcode : ParserContext → Option CbcOpcode) (byteCode : ParserContext → List CbcInstr)
    (patches : ParserContext → List (Nat × Nat)) (stack : ParserContext → ParserStack) :
    KeepsView (fun c => (c.nodes,c.nextNode)) (modify fun ctx =>
      ⟨flags ctx,depth ctx,contextDepth ctx,last ctx,token ctx,sourceP ctx,sourceEndP ctx,
        lastCbc ctx,lastCbcOpcode ctx,byteCode ctx,byteCodeSize ctx,patches ctx,stack ctx,ctx.nodes,
        ctx.nextNode⟩ : ParserM Unit) :=
  ⟨keeps_modify fun _ => rfl⟩

theorem OwnedBy.keep {d : ParserContext} (same : (d.nodes,d.nextNode) = (c.nodes,c.nextNode))
    (h : OwnedBy hs c) : OwnedBy hs d := by
  simp only [Prod.mk.injEq] at same
  rwa [OwnedBy, same.1, same.2]

theorem Triple.keepingNodes {V : List (Nat × ParserBranchNode) → Nat → Prop}
    (h : Triple P m R Q) (keeps : KeepsNodes m) :
    Triple (fun c => P c ∧ V c.nodes c.nextNode) m (fun a c => R a c ∧ V c.nodes c.nextNode) Q :=
  fun c ⟨hc,hv⟩ => ⟨fun a c' ok => ⟨(h c hc).1 a c' ok,by
    have same := keeps c a c' ok
    simp only [Prod.mk.injEq] at same
    rwa [same.1, same.2]⟩,(h c hc).2⟩

theorem Triple.keepingOwned (h : Triple P m R Q) (keeps : KeepsNodes m) :
    Triple (fun c => P c ∧ OwnedBy hs c) m (fun a c => R a c ∧ OwnedBy hs c) Q :=
  h.keepingNodes (V := fun nodes next => Owns nodes next hs) keeps

theorem Keeps.owned (h : Keeps untouched m) :
    Triple (OwnedBy hs) m (fun _ => OwnedBy hs) fun _ => True :=
  fun _ hn => ⟨fun _ _ ok => hn.keep (h.nodes _ _ _ ok),fun _ _ => trivial⟩

theorem Triple.andReturns {P' Q' : ParserContext → Prop} {R' : α → ParserContext → Prop}
    (h : Triple P m R Q) (h' : Triple P' m R' Q') :
    Triple (fun c => P c ∧ P' c) m (fun a c => R a c ∧ R' a c) Q :=
  fun c ⟨hc,hc'⟩ => ⟨fun a c' ok => ⟨(h c hc).1 a c' ok,(h' c hc').1 a c' ok⟩,(h c hc).2⟩

theorem OwnedBy.setBreaks {head : Option Nat} {c' : ParserContext} (h : OwnedBy (head :: hs) c)
    (ok : parserSetBreaksToCurrentPosition E head c = .ok ((),c')) : OwnedBy hs c' := by
  obtain ⟨_,chains,nodup,exact,below⟩ := h
  cases chains with
  | cons first rest =>
    obtain ⟨_,_,⟨rfl,rfl⟩,ok⟩ := bind_ok.mp ok
    obtain ⟨nodes,next⟩ := setBreaksLoop_nodes first (List.nodup_append.mp nodup).1 ok
    rw [OwnedBy, nodes, next]
    exact ⟨_,HoldsChains.remove ⟨.cons first rest,nodup,exact,below⟩ rest⟩

theorem triple_drain {head : Option Nat} :
    Triple (OwnedBy (head :: hs)) (parserSetBreaksToCurrentPosition E head) (fun _ => OwnedBy hs)
      fun _ => True :=
  fun _ h => ⟨fun _ _ ok => h.setBreaks ok,fun _ _ => trivial⟩

theorem OwnedBy.take {p : Nat} {n : ParserBranchNode} (h : OwnedBy (some p :: hs) c)
    (read : c.nodes.lookup p = some n) : OwnedBy (n.nextP :: hs) (free c p) := by
  rw [free_eq_freeAll]
  exact Owns.take h read

theorem triple_freeHead {p : Nat} {n : ParserBranchNode} :
    Triple (fun c => OwnedBy (some p :: hs) c ∧ c.nodes.lookup p = some n)
      (modify fun c => free c p : ParserM Unit) (fun _ => OwnedBy (n.nextP :: hs)) fun _ => True :=
  fun _ ⟨h,read⟩ => ⟨fun _ _ ok => by cases ok; exact h.take read,fun _ _ => trivial⟩

theorem triple_assertNone {head : Option Nat} {k : Unit → ParserM α}
    (hk : Triple (OwnedBy hs) (k ()) R fun _ => True) :
    Triple (OwnedBy (head :: hs)) (parserAssert head.isNone >>= k) R fun _ => True :=
  triple_assert_bind (fun _ _ => trivial) _ fun none =>
    hk.weaken (fun _ h => (Owns.nones [head] (by simpa using none)).mp h)
      (fun _ _ h => h) fun _ h => h

end

section

variable {α β : Type} {E : ParserEnv} {fs : List ParserFrame} {f : ParserFrame}
  {c : ParserContext} {m : ParserM α}

theorem ParserFrame.lists_eq_nil
    (h : f.tag ∈ [parserStatementIf, parserStatementElse, parserStatementTry,
      parserStatementWith, parserStatementBlock]) : f.lists = [] := by
  cases f with
  | switchStatement hasDefault => cases hasDefault <;> simp +decide [ParserFrame.tag] at h
  | _ => first | rfl | simp +decide [ParserFrame.tag] at h

def LeavesFreshTop (m : ParserM α) : Prop :=
  ∀ c a c', m c = .ok (a,c') → ∃ t r rest,
    c'.stack.items = .uint8 t :: .record r :: rest ∧ ∀ h ∈ r.heads, h = none

theorem LeavesFreshTop.after {m : ParserM β} {k : β → ParserM α}
    (hk : ∀ b, LeavesFreshTop (k b)) : LeavesFreshTop (m >>= k) := fun _ _ _ ok =>
  have ⟨b,d,_,rest⟩ := bind_ok.mp ok
  hk b d _ _ rest

theorem leavesFreshTop_ite {p : Prop} {_ : Decidable p} {m' : ParserM α} (hm : LeavesFreshTop m)
    (hm' : LeavesFreshTop m') : LeavesFreshTop (if p then m else m') := by
  split
  · exact hm
  · exact hm'

theorem leavesFreshTop_raiseError_bind (e : ParserError) (k : β → ParserM α) :
    LeavesFreshTop (parserRaiseError e >>= k) := fun _ _ _ ok =>
  have ⟨_,_,raised,_⟩ := bind_ok.mp ok
  nomatch raised

theorem keeps_get {γ : Type} {g : ParserContext → γ} : Keeps g (get : ParserM ParserContext) :=
  fun _ _ _ ok => by cases ok; rfl

theorem keeps_assert {γ : Type} {g : ParserContext → γ} (b : Bool) : Keeps g (parserAssert b) :=
  fun _ _ _ ok => by rw [(parserAssert_ok.mp ok).2]

theorem keepsStack_lexerStep (r : Except ParserError (LexerToken × Nat)) :
    Keeps (·.stack) (lexerStep r) := by
  unfold lexerStep
  split
  · exact keeps_modify fun _ => rfl
  · exact fun _ _ _ ok => nomatch ok

theorem leavesFreshTop_push {r : ParserRecord} {t : UInt8} {k : Unit → ParserM α}
    (fresh : ∀ h ∈ r.heads, h = none) (hk : ∀ u, Keeps (·.stack) (k u)) :
    LeavesFreshTop (parserStackPush E r >>= fun _ => parserStackPushUint8 t >>= k) :=
  fun c a c' ok => by
    obtain ⟨_,_,⟨rfl,rfl⟩,ok⟩ := bind_ok.mp ok
    obtain ⟨_,_,⟨rfl,rfl⟩,ok⟩ := bind_ok.mp ok
    exact ⟨t,r,c.stack.items,by rw [show c'.stack = _ from hk () _ _ _ ok]; rfl,fresh⟩

theorem leavesFreshTop_pushLoop {t : UInt8} {k : Unit → ParserM α}
    (hk : ∀ u, Keeps (·.stack) (k u)) :
    LeavesFreshTop (parserStackPush E (.loopStatement ⟨none⟩) >>= fun _ =>
      parserStackPushUint8 t >>= k) :=
  leavesFreshTop_push (fun _ h => List.eq_of_mem_singleton h) hk

theorem leavesFreshTop_pushLabel {labelLiteral : LexerLitLocation} {t : UInt8}
    {k : Unit → ParserM α} (hk : ∀ u, Keeps (·.stack) (k u)) :
    LeavesFreshTop (parserStackPush E (.labelStatement ⟨labelLiteral,none⟩) >>= fun _ =>
      parserStackPushUint8 t >>= k) :=
  leavesFreshTop_push (fun _ h => List.eq_of_mem_singleton h) hk

def OpensFresh (tags : List UInt8) (m : ParserM α) : Prop :=
  ∀ c a c', m c = .ok (a,c') → ∀ f fs, f.tag ∈ tags → FramesAt E c' (f :: fs) 0 0 0 →
    ∀ h ∈ f.lists, h = none

theorem opensFresh_plain {tags : List UInt8}
    (plain : ∀ t ∈ tags, t ∈ [parserStatementIf, parserStatementElse, parserStatementTry,
      parserStatementWith, parserStatementBlock]) : OpensFresh (E := E) tags m :=
  fun _ _ _ _ f _ tagged _ h mem => by
    rw [ParserFrame.lists_eq_nil (plain _ tagged)] at mem
    cases mem

theorem LeavesFreshTop.opensFresh {tags : List UInt8} (h : LeavesFreshTop m)
    (loops : ∀ t ∈ tags, t ∈ [parserStatementDoWhile, parserStatementWhile, parserStatementFor,
      parserStatementForIn, parserStatementLabel]) : OpensFresh (E := E) tags m :=
  fun c a c' ok f fs tagged frames => by
    obtain ⟨t,r,rest,top,fresh⟩ := h c a c' ok
    obtain ⟨below,items⟩ := frames.framed.items
    have tag := loops _ tagged
    rw [top] at items
    cases f with
    | switchStatement hasDefault => cases hasDefault <;> simp +decide [ParserFrame.tag] at tag
    | doWhileStatement | whileStatement | forStatement | forInStatement | label =>
      simp only [frameItems_cons, ParserFrame.items, ParserFrame.records, List.map,
        List.cons_append, List.cons.injEq, ParserStackItem.record.injEq] at items
      obtain ⟨-,rfl,-⟩ := items
      exact fresh
    | _ => simp +decide [ParserFrame.tag] at tag

theorem Triple.nodesOpening {tags : List UInt8}
    (hm : ∀ fs, Triple (FramesAt E · fs 0 0 0) m
      (fun _ c => ∃ f, f.tag ∈ tags ∧ FramesAt E c (f :: fs) 0 0 0) (Designated E.layout))
    (keeps : KeepsNodes m) (fresh : OpensFresh (E := E) tags m) :
    Triple (InvariantAt E NodesOnFrames) m (fun _ => InvariantAt E NodesOnFrames)
      (Designated E.layout) :=
  triple_exists fun fs c ⟨h,hn⟩ =>
    have run := hm fs c h
    ⟨fun a c' ok =>
      have ⟨f,tagged,h'⟩ := run.1 a c' ok
      ⟨_,h',(Owns.nones _ (fresh c a c' ok f fs tagged h')).mpr (hn.keep (keeps c a c' ok))⟩,
      run.2⟩

end

section

variable {α β : Type} {E : ParserEnv} {fs : List ParserFrame} {hs : List (Option Nat)}
  {Q : ParserContext → Prop} {R : α → ParserContext → Prop} {a b : UInt16} {n : Nat}

theorem triple_popRecordOwned {r : ParserRecord} {rs : List ParserRecord}
    {k : ParserRecord → ParserM α}
    (hk : Triple (fun c => OverFrames E c fs rs a b n ∧ OwnedBy hs c) (k r) R Q) :
    Triple (fun c => OverFrames E c fs (r :: rs) a b n ∧ OwnedBy hs c) (parserStackPop E >>= k) R Q :=
  (triple_popRecord.keepingOwned KeepsView.keeps).bind fun _ c ⟨⟨hx,h⟩,hn⟩ => hx ▸ hk c ⟨h,hn⟩

variable (E fs hs) in
structure EndsDrain : Prop where
  doWhileEnd : ∀ loop r, Triple (fun c => FramesAt E c (.doWhileStatement loop r :: fs) 0 0 0 ∧
      OwnedBy (loop.branchListP :: hs) c) (parserParseDoWhileStatementEnd E) (fun _ => OwnedBy hs)
    fun _ => True
  whileEnd : ∀ loop r, Triple (fun c => FramesAt E c (.whileStatement loop r :: fs) 0 0 0 ∧
      OwnedBy (loop.branchListP :: hs) c) (parserParseWhileStatementEnd E) (fun _ => OwnedBy hs)
    fun _ => True
  forEnd : ∀ loop r, Triple (fun c => FramesAt E c (.forStatement loop r :: fs) 0 0 0 ∧
      OwnedBy (loop.branchListP :: hs) c) (parserParseForStatementEnd E) (fun _ => OwnedBy hs)
    fun _ => True
  forInEnd : ∀ loop r, Triple (fun c => FramesAt E c (.forInStatement loop r :: fs) 0 0 0 ∧
      OwnedBy (loop.branchListP :: hs) c) (parserParseForInStatementEnd E) (fun _ => OwnedBy hs)
    fun _ => True
  switchEnd : ∀ hasDefault loop r, Triple (fun c =>
      FramesAt E c (.switchStatement hasDefault loop r :: fs) 0 0 0 ∧
      OwnedBy (r.branchListP :: loop.branchListP :: hs) c) (parserParseSwitchStatementEnd E)
    (fun _ => OwnedBy hs) fun _ => True

theorem endsDrain : EndsDrain E fs hs := by
  refine ⟨fun _ _ => ?_,fun _ _ => ?_,fun _ _ => ?_,fun _ _ => ?_,fun _ _ _ => ?_⟩
  all_goals first
    | unfold parserParseDoWhileStatementEnd
    | unfold parserParseWhileStatementEnd
    | unfold parserParseForStatementEnd
    | unfold parserParseForInStatementEnd
    | unfold parserParseSwitchStatementEnd
  all_goals
    try dsimp only
    repeat' first
      | with_reducible refine triple_unless (fun _ _ => trivial) _ fun _ => ?_
      | with_reducible refine triple_ite (fun _ => ?_) fun _ => ?_
      | with_reducible exact triple_raiseError_bind (fun _ _ => trivial) _ _
      | with_reducible refine (triple_get fun _ h => h).bind fun _ => ?_
      | with_reducible refine triple_assertNone ?_
      | with_reducible refine triple_assert_bind (fun _ _ => trivial) _ fun _ => ?_
      | (with_reducible refine ((triple_popTag.keepingOwned KeepsView.keeps).bind
          fun _ => ?_)); dsimp only [ParserFrame.records]
      | (with_reducible refine triple_popRecordOwned ?_); simp only [ParserRecord.asLoop,
          ParserRecord.asDoWhile, ParserRecord.asWhile, ParserRecord.asFor, ParserRecord.asForIn,
          ParserRecord.asSwitch, orUndefined, pure_bind]
      | with_reducible refine triple_drain.bind fun _ => ?_
      | with_reducible exact triple_drain
      | refine Triple.weaken (P := OwnedBy _) ?_ (fun _ h => h.2) (fun _ _ h => h) fun _ h => h
      | with_reducible refine (Keeps.owned KeepsView.keeps).bind fun _ => ?_
      | exact Keeps.owned KeepsView.keeps

end

section

variable {α : Type} {E : ParserEnv} {fs : List ParserFrame} {f : ParserFrame} {c : ParserContext}
  {m : ParserM α}

theorem keepsStack_initLast : Keeps (·.stack) (initLastStatement E) := keeps_modify fun _ => rfl

theorem keepsStack_nextToken : Keeps (·.stack) (lexerNextToken E) :=
  keeps_get.bind fun _ => keepsStack_lexerStep _

theorem leavesFreshTop_openings (fuel : Nat) :
    LeavesFreshTop (parserParseDoStatementStart E) ∧
      LeavesFreshTop (parserParseWhileStatementStart E fuel) ∧
      LeavesFreshTop (parserParseForStatementStart E fuel) ∧
      ∀ labelLiteral, LeavesFreshTop (parserParseLabel E labelLiteral) := by
  refine ⟨?_,?_,?_,fun _ => ?_⟩
  all_goals first
    | unfold parserParseDoStatementStart
    | unfold parserParseWhileStatementStart
    | unfold parserParseForStatementStart
    | unfold parserParseLabel
  all_goals repeat' first
    | with_reducible exact leavesFreshTop_pushLoop fun _ => keepsStack_initLast
    | with_reducible exact leavesFreshTop_pushLoop fun _ => (keepsStack_initLast.bind
        fun _ => keepsStack_nextToken)
    | with_reducible exact leavesFreshTop_pushLabel fun _ => keepsStack_initLast
    | with_reducible exact leavesFreshTop_raiseError_bind _ _
    | with_reducible refine leavesFreshTop_ite ?_ ?_
    | refine LeavesFreshTop.after fun _ => ?_

instance keepsNodes_withEndWalk (fuel iterator : Nat) :
    KeepsView (fun c => (c.nodes,c.nextNode)) (withEndWalk E fuel iterator) := by
  induction fuel generalizing iterator <;> unfold withEndWalk <;> exact inferInstance

theorem keepsNodes_withStatement :
    KeepsNodes (parserParseWithStatementStart E) ∧ KeepsNodes (parserParseWithStatementEnd E) := by
  constructor
  all_goals first | unfold parserParseWithStatementStart | unfold parserParseWithStatementEnd
  all_goals exact KeepsView.keeps

theorem EndsOver.nodesOnFrames (h : EndsOver E fs c) (hn : NodesOnFrames fs c) :
    InvariantAt E NodesOnFrames c := by
  rcases h with h | ⟨f,tagged,h⟩
  · exact ⟨_,h,hn⟩
  · have plain : ∀ t ∈ [parserStatementElse, parserStatementTry], t ∈ [parserStatementIf,
        parserStatementElse, parserStatementTry, parserStatementWith, parserStatementBlock] := by
      decide
    refine ⟨_,h,?_⟩
    rwa [NodesOnFrames, frameLists_cons, ParserFrame.lists_eq_nil (plain _ tagged), List.nil_append]

theorem Triple.nodesEnding
    (hm : Triple (FramesAt E · (f :: fs) 0 0 0) m (fun _ => EndsOver E fs) (Designated E.layout))
    (keeps : KeepsNodes m) (plain : f.lists = []) :
    Triple (fun c => FramesAt E c (f :: fs) 0 0 0 ∧ NodesOnFrames (f :: fs) c) m
      (fun _ => InvariantAt E NodesOnFrames) (Designated E.layout) :=
  (hm.keepingOwned keeps).weaken
    (fun _ ⟨h,hn⟩ => ⟨h,by rwa [NodesOnFrames, frameLists_cons, plain, List.nil_append] at hn⟩)
    (fun _ _ ⟨h,hn⟩ => h.nodesOnFrames hn) fun _ h => h

theorem Triple.nodesClosing {m : ParserM Unit}
    (frames : Triple (FramesAt E · (f :: fs) 0 0 0) m (fun _ c => FramesAt E c fs 0 0 0)
      (Designated E.layout))
    (nodes : Triple (fun c => FramesAt E c (f :: fs) 0 0 0 ∧ OwnedBy (f.lists ++ frameLists fs) c)
      m (fun _ => OwnedBy (frameLists fs)) fun _ => True) :
    Triple (fun c => FramesAt E c (f :: fs) 0 0 0 ∧ NodesOnFrames (f :: fs) c) m
      (fun _ c => FramesAt E c fs 0 0 0 ∧ NodesOnFrames fs c) (Designated E.layout) :=
  (frames.andReturns nodes).weaken (fun _ h => ⟨h.1,h⟩) (fun _ _ h => h) fun _ h => h

end

section

variable {α : Type} {E : ParserEnv} {fs pre post : List ParserFrame} {below : List ParserStackItem}
  {f : ParserFrame} {hs : List (Option Nat)} {m : ParserM α}

theorem Inert.nodesAt (hm : Inert m) (keeps : Keeps untouched m) :
    Triple (InvariantAt E NodesOnFrames) m (fun _ => InvariantAt E NodesOnFrames)
      (Designated E.layout) :=
  triple_exists fun _ => (hm.framesAt.keepingOwned keeps.nodes).weaken (fun _ h => h)
    (fun _ _ h => ⟨_,h⟩) fun _ h => h

theorem forwardBranchItem_alloc {op : CbcOpcode} {next : Option Nat} {p : Nat} {c c' : ParserContext}
    (ok : parserEmitCbcForwardBranchItem E op next c = .ok (p,c')) :
    ∃ branch, p = c.nextNode ∧ c'.nodes = (p,⟨next,branch⟩) :: c.nodes ∧ c'.nextNode = p + 1 := by
  have same := untouched_forwardBranch E c op
  simp only [untouched, Prod.mk.injEq] at same
  rw [parserEmitCbcForwardBranchItem_apply, Except.ok.injEq] at ok
  cases ok
  exact ⟨_,same.2.2,by rw [← same.2.1],rfl⟩

theorem triple_itemOwned (front : List (Option Nat)) {back : List (Option Nat)} {head : Option Nat}
    {op : CbcOpcode} :
    Triple (OwnedBy (front ++ head :: back)) (parserEmitCbcForwardBranchItem E op head)
      (fun p => OwnedBy (front ++ some p :: back)) fun _ => True := fun _ h =>
  ⟨fun _ _ ok => by
    obtain ⟨branch,rfl,nodes,next⟩ := forwardBranchItem_alloc ok
    rw [OwnedBy, nodes, next]
    exact h.allocAt branch,fun _ _ => trivial⟩

theorem triple_markContinueOwned {p : Nat} :
    Triple (OwnedBy hs) (markContinue p) (fun _ => OwnedBy hs) fun _ => True :=
  fun _ h => ⟨fun _ _ ok => by
    obtain ⟨-,rfl⟩ := updateNode_ok ok
    exact h.update (p := p) (g := fun n => { n with branch := { n.branch with highestBit := true } })
      fun _ => rfl,fun _ _ => trivial⟩

theorem ParserFrame.lists_split {l : ParserLoopStatement} {more : List ParserRecord}
    (target : isBreakTarget f.tag = true) (split : f.records = .loopStatement l :: more) :
    ∃ xs, f.lists = xs ++ [l.branchListP] ∧
      ∀ loop, (f.withLoop loop).lists = xs ++ [loop.branchListP] := by
  cases f with
  | switchStatement _ _ r => cases split; exact ⟨[r.branchListP],rfl,fun _ => rfl⟩
  | doWhileStatement | whileStatement | forStatement | forInStatement =>
    cases split; exact ⟨[],rfl,fun _ => rfl⟩
  | _ => simp only [ParserFrame.tag] at target; exact absurd target (by decide)

theorem fileIntoLoop_owned (target : isBreakTarget f.tag = true) {op : CbcOpcode}
    (alloc : contextAllocation E op = 0) (opens : (CbcInstr.forward op).opensContext = false)
    (isContinue : Bool) :
    Triple (fun c => (FramesAt E c (pre ++ f :: post) 0 0 0 ∧
        StackAt c (frameItems pre) (f :: post) below) ∧ NodesOnFrames (pre ++ f :: post) c)
      (fileIntoLoop E (frameHeight E.layout (f :: post) below) op isContinue)
      (fun _ => InvariantAt E NodesOnFrames) (Designated E.layout) := by
  obtain ⟨l,more,split,-⟩ := f.loopRecord ⟨none⟩ target
  obtain ⟨xs,lists,lists'⟩ := f.lists_split target split
  have around : ∀ (g : ParserFrame) (head : Option Nat), g.lists = xs ++ [head] →
      frameLists (pre ++ g :: post) = (frameLists pre ++ xs) ++ head :: frameLists post := by
    intro g head h
    simp [h]
  unfold fileIntoLoop
  refine (((triple_readFrame split).keepingOwned KeepsView.keeps).weaken
    (fun _ ⟨h,hn⟩ => ⟨h,by rwa [NodesOnFrames, around _ _ lists] at hn⟩) (fun _ _ h => h)
    fun _ h => h).bind fun x c hc => ?_
  obtain ⟨⟨rfl,h⟩,hn⟩ := hc
  simp only [ParserRecord.asLoop, orUndefined, pure_bind]
  refine (((inert_parserEmitCbcForwardBranchItem alloc opens _).framesAtStackAt.andReturns
    (triple_itemOwned _)).bind fun p => ?_) c ⟨h,hn⟩
  have write : Triple (fun c => (FramesAt E c (pre ++ f :: post) 0 0 0 ∧
      StackAt c (frameItems pre) (f :: post) below) ∧
      OwnedBy ((frameLists pre ++ xs) ++ some p :: frameLists post) c)
      (parserStackIteratorWrite E (frameHeight E.layout (f :: post) below - 1)
        (.loopStatement ⟨some p⟩)) (fun _ => InvariantAt E NodesOnFrames) (Designated E.layout) :=
    ((triple_writeLoop target p).keepingOwned KeepsView.keeps).weaken
      (fun _ h => h) (fun _ _ ⟨h,hn⟩ => ⟨_,h,by rwa [NodesOnFrames, around _ _ (lists' _)]⟩)
      fun _ h => h
  exact triple_ite (fun _ => ((inert_markContinue p).framesAtStackAt.andReturns
    triple_markContinueOwned).bind fun _ => write) fun _ => write

theorem fileIntoLabel_owned {r : ParserLabelStatement} {op : CbcOpcode}
    (alloc : contextAllocation E op = 0) (opens : (CbcInstr.forward op).opensContext = false) :
    Triple (fun c => (FramesAt E c (pre ++ .label r :: post) 0 0 0 ∧
        StackAt c (frameItems pre) (.label r :: post) below) ∧
        NodesOnFrames (pre ++ .label r :: post) c)
      (fileIntoLabel E (frameHeight E.layout (.label r :: post) below) op r)
      (fun _ => InvariantAt E NodesOnFrames) (Designated E.layout) := by
  unfold fileIntoLabel
  refine (((inert_parserEmitCbcForwardBranchItem alloc opens _).framesAtStackAt.andReturns
    (triple_itemOwned (frameLists pre))).weaken
    (fun _ ⟨h,hn⟩ => ⟨h,by simpa [NodesOnFrames, ParserFrame.lists] using hn⟩) (fun _ _ h => h)
    fun _ h => h).bind fun p => ?_
  exact ((triple_writeLabel p).keepingOwned KeepsView.keeps).weaken (fun _ h => h)
    (fun _ _ ⟨h,hn⟩ => ⟨_,h,by simpa [NodesOnFrames, ParserFrame.lists] using hn⟩) fun _ h => h

theorem filingNodes : Filing E fs (NodesOnFrames fs) (InvariantAt E NodesOnFrames) where
  token := inert_lexerNextToken.framesAt.keepingOwned scanning_nextToken.keeps.nodes
  next := inert_lexerNextToken.nodesAt scanning_nextToken.keeps
  label _ _ _ _ _ whole alloc opens := by
    subst whole
    exact fileIntoLabel_owned alloc opens
  loop _ _ _ _ _ isContinue whole target alloc opens := by
    subst whole
    exact fileIntoLoop_owned target alloc opens isContinue

variable {β : Type} {hasDefault : Bool} {loop : ParserLoopStatement} {r : ParserSwitchStatement}
  {R : β → ParserContext → Prop} {Q : ParserContext → Prop} {J : ParserContext → Prop}

theorem triple_switchRecordIteratorAt {k : Nat → ParserM β}
    (hk : ∀ iterator, Triple (fun c => (FramesAt E c (.switchStatement hasDefault loop r :: fs) 0 0 0 ∧
      c.stack.iteratorInit E.layout = iterator + (1 + E.layout.loopStatement)) ∧ J c) (k iterator) R Q) :
    Triple (fun c => FramesAt E c (.switchStatement hasDefault loop r :: fs) 0 0 0 ∧ J c)
      (switchRecordIterator E >>= k) R Q := fun c ⟨h,hj⟩ => by
  obtain ⟨below,items⟩ := h.framed.items
  have above : 1 + E.layout.loopStatement ≤ c.stack.iteratorInit E.layout := by
    simp only [ParserStack.iteratorInit, items, frameItems_cons, ParserFrame.items,
      ParserFrame.records, List.map_cons, stackHeight_append, stackHeight_cons,
      ParserStackItem.size, ParserRecord.size]
    omega
  exact hk _ c ⟨⟨h,(Nat.sub_add_cancel above).symm⟩,hj⟩

theorem triple_readSwitchAt {iterator : Nat} :
    Triple (fun c => (FramesAt E c (.switchStatement hasDefault loop r :: fs) 0 0 0 ∧
      c.stack.iteratorInit E.layout = iterator + (1 + E.layout.loopStatement)) ∧ J c)
      (parserStackIteratorRead E iterator)
      (fun x c => x = .switchStatement r ∧ (FramesAt E c (.switchStatement hasDefault loop r :: fs) 0 0 0 ∧
        c.stack.iteratorInit E.layout = iterator + (1 + E.layout.loopStatement)) ∧ J c) Q :=
  fun c ⟨⟨h,height⟩,hj⟩ => by
    obtain ⟨below,items⟩ := h.framed.items
    have whole : c.stack.items = [.uint8 (ParserFrame.switchStatement hasDefault loop r).tag,
        .record (.loopStatement loop)] ++ .record (.switchStatement r) ::
        (frameItems fs ++ .uint8 parserStatementStart :: below) := by
      simpa [ParserFrame.items, ParserFrame.records] using items
    have at_ : iterator = stackHeight E.layout (.record (.switchStatement r) ::
        (frameItems fs ++ .uint8 parserStatementStart :: below)) := by
      rw [ParserStack.iteratorInit, whole] at height
      simp only [stackHeight_append, stackHeight_cons, stackHeight_nil, ParserStackItem.size,
        ParserRecord.size] at height ⊢
      omega
    have read := c.stack.iteratorRead_at E.layout whole
    have run : parserStackIteratorRead E iterator c = .ok (.switchStatement r,c) := by
      simp only [parserStackIteratorRead, bind_apply, get_apply]
      rw [at_, read]
      rfl
    rw [run]
    exact ⟨fun _ _ ok => by cases ok; exact ⟨rfl,⟨h,height⟩,hj⟩,fun _ err => nomatch err⟩

@[simp] theorem ParserFrame.switch_tag_checked {hasDefault : Bool} {loop : ParserLoopStatement}
    {r : ParserSwitchStatement} :
    ((ParserFrame.switchStatement hasDefault loop r).tag != parserStatementSwitch &&
      (ParserFrame.switchStatement hasDefault loop r).tag != parserStatementSwitchNoDefault) =
      false := by
  cases hasDefault <;> rfl

theorem triple_undefined_bind {P : ParserContext → Prop} {R : β → ParserContext → Prop}
    (hPQ : ∀ c, P c → Q c) (k : α → ParserM β) : Triple P (parserUndefined >>= k) R Q :=
  (triple_undefined (R := fun _ _ => False) hPQ).bind fun _ _ h => h.elim

theorem caseStatement_owned (fuel : Nat) :
    Triple (InvariantAt E NodesOnFrames) (parserParseCaseStatement E fuel)
      (fun _ => InvariantAt E NodesOnFrames) (Designated E.layout) := by
  refine triple_exists fun fs => ?_
  unfold parserParseCaseStatement
  refine triple_get_at fun d ⟨h,hn⟩ => h.invariantAt hn ?_
  rw [h.framed.top]
  dsimp only
  rcases fs with _ | ⟨_ | _ | _ | _ | ⟨hasDefault,loop,r⟩ | _ | _ | _ | _ | _ | _,fs⟩ <;>
    simp +decide only [↓reduceIte, topTag, ParserFrame.switch_tag_checked, pure_bind] <;>
    try simp +decide only [↓reduceIte, ParserFrame.tag]
  all_goals try exact triple_raiseError_bind (fun _ h => h.1.designated) _ _
  refine ((FramesAt.scan _ _).keepingOwned (scanning_parserScanUntil _ _).keeps.nodes).bind
    fun _ => (inert_lexerNextToken.framesAt.keepingOwned scanning_nextToken.keeps.nodes).bind
    fun _ => triple_switchRecordIteratorAt fun iterator => ?_
  refine triple_bind_eq triple_readSwitchAt ?_
  simp only [ParserRecord.asSwitch, orUndefined, pure_bind]
  refine triple_assert_bind (fun _ h => h.1.1.designated) _ fun listed => ?_
  obtain ⟨branchP,listed⟩ := Option.isSome_iff_exists.mp listed
  simp only [listed, pure_bind]
  refine triple_get_at fun d ⟨⟨frames,height⟩,hn⟩ => ?_
  have hn : OwnedBy (some branchP :: loop.branchListP :: frameLists fs) d := by
    simpa [NodesOnFrames, ParserFrame.lists, listed] using hn
  cases found : d.nodes.lookup branchP with
  | none => exact triple_undefined_bind (fun _ e => e ▸ frames.designated) _
  | some n =>
    simp only [pure_bind]
    let V := fun (nodes : List (Nat × ParserBranchNode)) (next : Nat) =>
      Owns nodes next (some branchP :: loop.branchListP :: frameLists fs) ∧
        nodes.lookup branchP = some n
    refine (((triple_iteratorWrite (P := fun c => c = d) (R := fun _ c => FramesAt E c (.switchStatement hasDefault loop
      { r with branchListP := n.nextP } :: fs) 0 0 0) fun c e => ?_).keepingNodes (V := V)
      KeepsView.keeps).weaken (fun c e => ⟨e,e ▸ ⟨hn,found⟩⟩) (fun _ _ h => h)
      fun _ h => h).bind fun _ => ?_
    · subst e
      obtain ⟨s,write,-,frames'⟩ := frames.writeSwitch height
      exact ⟨s,write,frames'⟩
    refine ((inert_parserSetBranchToCurrentPosition _).framesAt.keepingNodes (V := V)
      KeepsView.keeps).bind fun _ => ?_
    exact ((inert_free branchP).framesAt.andReturns triple_freeHead).weaken (fun _ h => h)
      (fun _ _ ⟨h,hn⟩ => ⟨_,h,hn⟩) fun _ h => h

end

section

variable {α : Type} {E : ParserEnv} {fs : List ParserFrame} {hs : List (Option Nat)}
  {iterator : Nat} {loop : ParserLoopStatement} {head casesP : Option Nat} {m : ParserM α}
  {P Q : ParserContext → Prop} {R : α → ParserContext → Prop}

variable (E) in
def SwitchLoopAt (fs : List ParserFrame) (iterator : Nat) (loop : ParserLoopStatement)
    (c : ParserContext) : Prop :=
  ∃ hasDefault r, FramesAt E c (.switchStatement hasDefault loop r :: fs) 0 0 0 ∧
    c.stack.iteratorInit E.layout = iterator + (1 + E.layout.loopStatement)

def CasesOwned (hs : List (Option Nat)) (head casesP : Option Nat)
    (nodes : List (Nat × ParserBranchNode)) (next : Nat) : Prop :=
  Owns nodes next (head :: hs) ∧ CasesEnd nodes head casesP

def CaseAllocated (hs : List (Option Nat)) (head : Option Nat) (l p : Nat)
    (nodes : List (Nat × ParserBranchNode)) (next : Nat) : Prop :=
  ∃ nodes' branch, nodes = (p,⟨none,branch⟩) :: nodes' ∧ next = p + 1 ∧
    CasesOwned hs head (some l) nodes' p

theorem SwitchLoopAt.designated {c : ParserContext} (h : SwitchLoopAt E fs iterator loop c) :
    Designated E.layout c :=
  have ⟨_,_,frames,_⟩ := h
  frames.designated

theorem SwitchLoopAt.of_frameState {c d : ParserContext} (same : frameState d = frameState c)
    (h : SwitchLoopAt E fs iterator loop c) : SwitchLoopAt E fs iterator loop d :=
  have ⟨hasDefault,r,frames,height⟩ := h
  ⟨hasDefault,r,frames.of_frameState same,
    by rw [show d.stack = c.stack from congrArg Prod.fst same, height]⟩

theorem Inert.switchLoopAt (hm : Inert m) :
    Triple (SwitchLoopAt E fs iterator loop) m (fun _ => SwitchLoopAt E fs iterator loop)
      (Designated E.layout) :=
  hm.keeps (fun _ _ same h => h.of_frameState same) fun _ h => h.designated

theorem Triple.keepingCases (h : Triple P m R Q) (keeps : Keeps untouched m) :
    Triple (fun c => P c ∧ CasesOwned hs head casesP c.nodes c.nextNode) m
      (fun a c => R a c ∧ CasesOwned hs head casesP c.nodes c.nextNode) Q :=
  h.keepingNodes keeps.nodes

theorem switchLoopAt_write (r : ParserSwitchStatement) :
    Triple (SwitchLoopAt E fs iterator loop)
      (parserStackIteratorWrite E iterator (.switchStatement r))
      (fun _ => SwitchLoopAt E fs iterator loop) Q :=
  triple_iteratorWrite fun _ ⟨_,_,frames,height⟩ =>
    have ⟨s,write,kept,frames'⟩ := frames.writeSwitch height
    ⟨s,write,_,r,frames',kept.trans height⟩

theorem triple_firstCase {op : CbcOpcode} :
    Triple (fun c => CasesOwned hs head none c.nodes c.nextNode)
      (parserEmitCbcForwardBranchItem E op none)
      (fun p c => CasesOwned hs (some p) (some p) c.nodes c.nextNode) fun _ => True :=
  fun _ ⟨h,_,chain,last⟩ => ⟨fun _ _ ok => by
    obtain ⟨branch,rfl,nodes,next⟩ := forwardBranchItem_alloc ok
    obtain rfl := List.getLast?_eq_none_iff.mp last
    cases chain
    rw [nodes, next]
    exact h.firstCase branch,fun _ _ => trivial⟩

theorem triple_nextCase {op : CbcOpcode} {l : Nat} :
    Triple (fun c => CasesOwned hs head (some l) c.nodes c.nextNode)
      (parserEmitCbcForwardBranchItem E op none)
      (fun p c => CaseAllocated hs head l p c.nodes c.nextNode) fun _ => True :=
  fun _ h => ⟨fun _ _ ok =>
    have ⟨branch,first,nodes,next⟩ := forwardBranchItem_alloc ok
    ⟨_,branch,nodes,next,first ▸ h⟩,fun _ _ => trivial⟩

theorem triple_linkCase {l p : Nat} :
    Triple (fun c => CaseAllocated hs head l p c.nodes c.nextNode)
      (updateNode l fun n => { n with nextP := some p })
      (fun _ c => CasesOwned hs head (some p) c.nodes c.nextNode) fun _ => True :=
  fun c ⟨_,branch,nodes,next,h,ends⟩ => ⟨fun _ _ ok => by
    obtain ⟨-,rfl⟩ := updateNode_ok ok
    show CasesOwned hs head (some p) (updateAt l (fun n => { n with nextP := some p }) c.nodes)
      c.nextNode
    rw [nodes, next]
    exact h.appendCase ends branch,fun _ _ => trivial⟩

theorem switchCaseLoop_owned (fuel : Nat) (found hasDefault : Bool) (casesP : Option Nat)
    (sw : ParserSwitchStatement) :
    Triple (fun c => SwitchLoopAt E fs iterator loop c ∧
        CasesOwned hs sw.branchListP casesP c.nodes c.nextNode)
      (switchCaseLoop E iterator fuel found hasDefault casesP sw)
      (fun x c => SwitchLoopAt E fs iterator loop c ∧ OwnedBy (x.2.2.branchListP :: hs) c)
      (Designated E.layout) := by
  induction fuel generalizing found hasDefault casesP sw with
  | zero => exact triple_outOfFuel fun _ h => h.1.designated
  | succ fuel ih =>
    unfold switchCaseLoop
    cases casesP <;> dsimp only <;> simp only [pure_bind] <;>
    refine ((triple_scanKeeps (fun _ _ same h => h.of_frameState same)
      (fun _ ⟨_,_,frames,_⟩ => ⟨_,frames.framed⟩) _ _).keepingCases
      (scanning_parserScanUntil _ _).keeps).bind fun _ => ?_
    repeat' first
      | with_reducible refine triple_ite (fun _ => ?_) fun _ => ?_
      | with_reducible exact triple_raiseError_bind (fun _ h => h.1.designated) _ _
      | with_reducible refine (inert_get.switchLoopAt.keepingCases keeps_get).bind fun _ => ?_
      | with_reducible refine (inert_lexerNextToken.switchLoopAt.keepingCases
          scanning_nextToken.keeps).bind fun _ => ?_
      | with_reducible refine ((inert_parserParseExpression _).switchLoopAt.keepingCases
          KeepsView.keeps).bind fun _ => ?_
      | with_reducible refine ((switchLoopAt_write _).keepingCases
          KeepsView.keeps).bind fun _ => ?_
      | (with_reducible refine ((inert_parserEmitCbc ?_).switchLoopAt.keepingCases
          KeepsView.keeps).bind fun _ => ?_); decide
      | (with_reducible refine ((inert_parserEmitCbcForwardBranchItem ?_ ?_ _).switchLoopAt.andReturns
          triple_firstCase).bind fun _ => ?_) <;> try rfl
      | (with_reducible refine ((inert_parserEmitCbcForwardBranchItem ?_ ?_ _).switchLoopAt.andReturns
          triple_nextCase).bind fun _ => ?_) <;> try rfl
      | with_reducible refine ((inert_updateNode _ _).switchLoopAt.andReturns
          triple_linkCase).bind fun _ => ?_
      | exact (ih _ _ _ _).weaken (fun _ h => h) (fun _ _ h => h) fun _ h => h
      | exact triple_pure _ fun _ h => ⟨h.1,h.2.1⟩

theorem switchWrite_owned {defaultBranch : ParserBranch} :
    Triple (fun c => SwitchLoopAt E fs iterator loop c ∧
        OwnedBy (head :: loop.branchListP :: frameLists fs) c)
      (parserStackIteratorWrite E iterator (.switchStatement ⟨defaultBranch,head⟩))
      (fun _ c => ∃ hasDefault, FramesAt E c
        (.switchStatement hasDefault loop ⟨defaultBranch,head⟩ :: fs) 0 0 0 ∧
        NodesOnFrames (.switchStatement hasDefault loop ⟨defaultBranch,head⟩ :: fs) c) Q :=
  triple_iteratorWrite fun _ ⟨⟨_,_,frames,height⟩,hn⟩ =>
    have ⟨s,write,_,frames'⟩ := frames.writeSwitch height
    ⟨s,write,_,frames',hn⟩

theorem switchNoDefault_owned {r : ParserSwitchStatement} :
    Triple (fun c => ∃ hasDefault, FramesAt E c (.switchStatement hasDefault loop r :: fs) 0 0 0 ∧
        NodesOnFrames (.switchStatement hasDefault loop r :: fs) c)
      (parserStackChangeLastUint8 parserStatementSwitchNoDefault)
      (fun _ => InvariantAt E NodesOnFrames) Q :=
  triple_exists fun hasDefault => ((@triple_changeLastUint8 E fs 0 0 0
    (.switchStatement hasDefault loop r) (.switchStatement false loop r) Q rfl
    (by cases hasDefault <;> rfl) rfl).keepingOwned KeepsView.keeps).weaken
    (fun _ h => h) (fun _ _ h => ⟨_,h⟩) fun _ h => h

theorem switchStatementStart_owned (fuel : Nat) :
    Triple (InvariantAt E NodesOnFrames) (parserParseSwitchStatementStart E fuel)
      (fun _ => InvariantAt E NodesOnFrames) (Designated E.layout) := by
  unfold parserParseSwitchStatementStart
  dsimp only
  simp only [pure_bind]
  repeat' first
    | with_reducible refine triple_ite (fun _ => ?_) fun _ => ?_
    | with_reducible exact triple_raiseError_bind (fun _ h => h.designated) _ _
    | with_reducible refine (inert_get.nodesAt keeps_get).bind fun _ => ?_
    | with_reducible refine ((inert_assert _).nodesAt (keeps_assert _)).bind fun _ => ?_
    | with_reducible refine (inert_parserParseEnclosedExpr.nodesAt KeepsView.keeps).bind fun _ => ?_
    | with_reducible refine (inert_lexerNextToken.nodesAt scanning_nextToken.keeps).bind fun _ => ?_
    | with_reducible refine (inert_parserFlushCbc.nodesAt KeepsView.keeps).bind fun _ => ?_
    | (with_reducible refine ((inert_parserEmitCbc ?_).nodesAt
        KeepsView.keeps).bind fun _ => ?_); decide
  all_goals refine triple_exists fun fs => ?_
  · exact ((((@triple_pushFrameTag E fs .block _ 0 0 0 rfl rfl rfl).weaken (fun _ h => h.over)
      (fun _ _ h => h) fun _ h => h).keepingOwned (scanning_push _).keeps.nodes).bind fun _ =>
      (triple_initLast.keepingOwned KeepsView.keeps).bind fun _ =>
      triple_pure _ fun _ h => ⟨_,h⟩)
  refine ((((triple_pushRecord _).weaken (fun _ h => h.over) (fun _ _ h => h) fun _ h => h).keepingOwned
    KeepsView.keeps).bind fun _ => triple_iteratorInit_bind fun n => ?_)
  refine ((((triple_pushRecord _).and (height_push _)).keepingOwned KeepsView.keeps).weaken
    (fun _ ⟨⟨h,hn⟩,height⟩ => ⟨⟨h,height⟩,hn⟩) (fun _ _ h => h) fun _ h => h).bind fun _ =>
    (((@triple_pushFrameTag E fs (.switchStatement true ⟨none⟩ ⟨⟨0,false⟩,none⟩) _ 0 0 0 rfl rfl
      rfl).and (height_pushUint8 _)).keepingOwned (scanning_push _).keeps.nodes).bind fun _ =>
    ((triple_initLast.and height_initLast).keepingOwned KeepsView.keeps).bind fun _ => ?_
  refine ((switchCaseLoop_owned fuel _ _ _ _).weaken (fun _ ⟨⟨h,height⟩,hn⟩ =>
    ⟨⟨_,_,h,by simpa [ParserRecord.size, Nat.add_assoc, Nat.add_comm 1] using height⟩,
      (Owns.nones [none,none] fun _ h => by simp_all).mpr hn,[],.none,rfl⟩)
    (fun _ _ h => h) fun _ h => h).bind fun ⟨found,hasDefault,sw⟩ => ?_
  dsimp only
  repeat' first
    | with_reducible refine triple_ite (fun _ => ?_) fun _ => ?_
    | with_reducible refine ((inert_assert _).switchLoopAt.keepingOwned
        (keeps_assert _)).bind fun _ => ?_
    | (with_reducible refine ((inert_parserEmitCbc ?_).switchLoopAt.keepingOwned
        KeepsView.keeps).bind fun _ => ?_); decide
    | (with_reducible refine ((inert_parserEmitCbcForwardBranch ?_ ?_).switchLoopAt.keepingOwned
        KeepsView.keeps).bind fun _ => ?_) <;> try rfl
    | with_reducible exact switchNoDefault_owned.bind fun _ => ((inert_parserSetRange _).nodesAt
        KeepsView.keeps).bind fun _ => inert_lexerNextToken.nodesAt scanning_nextToken.keeps
    | exact ((((inert_parserSetRange _).nodesAt KeepsView.keeps).bind fun _ =>
        inert_lexerNextToken.nodesAt scanning_nextToken.keeps).weaken (fun _ ⟨_,h,hn⟩ => ⟨_,h,hn⟩)
        (fun _ _ h => h) fun _ h => h)
    | refine switchWrite_owned.bind fun _ => ?_

end

section

variable (E : ParserEnv)

theorem nodesInvariant : FrameInvariant E NodesOnFrames where
  keep _ _ _ same h := OwnedBy.keep (congrArg Prod.snd same) h
  block _ _ := Iff.rfl
  elseEnd _ _ _ h := h
  labelEnd _ _ _ _ h ok := OwnedBy.setBreaks h ok
  ifStart := Triple.nodesOpening (fun _ => ifStatementStart_triple) (statementsKeep 0).ifStart.nodes
    (opensFresh_plain (by decide))
  switchStart := switchStatementStart_owned
  doStart := Triple.nodesOpening (fun _ => doStatementStart_triple)
    (statementsKeep 0).doStart.nodes ((leavesFreshTop_openings 0).1.opensFresh (by decide))
  whileStart fuel := Triple.nodesOpening (fun _ => whileStatementStart_triple fuel)
    (statementsKeep fuel).whileStart.nodes ((leavesFreshTop_openings fuel).2.1.opensFresh (by decide))
  forStart fuel := Triple.nodesOpening (fun _ => forStatementStart_triple fuel)
    (statementsKeep fuel).forStart.nodes ((leavesFreshTop_openings fuel).2.2.1.opensFresh (by decide))
  tryStart := Triple.nodesOpening (fun _ => tryStatementStart_triple)
    (statementsKeep 0).tryStart.nodes (opensFresh_plain (by decide))
  withStart := Triple.nodesOpening (fun _ => withStatementStart_triple) keepsNodes_withStatement.1
    (opensFresh_plain (by decide))
  labelStart labelLiteral := Triple.nodesOpening (fun _ => labelStart_triple labelLiteral)
    KeepsView.keeps
    (((leavesFreshTop_openings 0).2.2.2 labelLiteral).opensFresh (by decide))
  caseStatement := caseStatement_owned
  breakStatement := triple_exists fun _ => filingNodes.breakStatement
  continueStatement := triple_exists fun _ => filingNodes.continueStatement
  ifEnd r _ := Triple.nodesEnding (ifStatementEnd_frames r) (statementsKeep 0).ifEnd.nodes rfl
  tryEnd r _ := Triple.nodesEnding (tryStatementEnd_frames r) (statementsKeep 0).tryEnd.nodes rfl
  doWhileEnd loop r _ := Triple.nodesClosing (doWhileStatementEnd_triple loop r)
    (endsDrain.doWhileEnd loop r)
  whileEnd loop r _ := Triple.nodesClosing (whileStatementEnd_triple loop r)
    (endsDrain.whileEnd loop r)
  forEnd loop r _ := Triple.nodesClosing (forStatementEnd_triple loop r) (endsDrain.forEnd loop r)
  forInEnd loop r _ := Triple.nodesClosing (forInStatementEnd_triple loop r)
    (endsDrain.forInEnd loop r)
  withEnd r _ := (withStatementEnd_triple r).keepingOwned keepsNodes_withStatement.2
  switchEnd hasDefault loop r _ := Triple.nodesClosing (switchStatementEnd_triple hasDefault loop r)
    (endsDrain.switchEnd hasDefault loop r)

end

section

variable {E : ParserEnv} {c0 c : ParserContext}

theorem OwnedBy.nil (empty : c.nodes = []) : OwnedBy [] c :=
  ⟨[],.nil,List.nodup_nil,by simp [empty],fun _ mem => nomatch mem⟩

/-- The branch nodes over a run of `parser_parse_statements` entered with none allocated: at
every statement boundary each node is on exactly one of the branch lists the open frames hold,
once, at an address below the one `malloc` gives next. -/
theorem nodesOwnedByFrames (entry : StatementsEntry c0) (empty : c0.nodes = [])
    (reach : ReachedFrom E c0 c) : InvariantAt E NodesOnFrames c :=
  reach.invariantAt (nodesInvariant E) entry (OwnedBy.nil empty)

def whileBreakSource : List SourceLexeme :=
  [kw "while",pu leftParen,kw "x",pu rightParen,pu leftBrace,kw "break",pu semicolon,pu rightBrace]

theorem nodesOwnedByFrames_whileBreak :
    ∃ c, ReachedFrom (sampleEnv whileBreakSource) (sampleContext whileBreakSource programFlags) c ∧
      c.nodes ≠ [] ∧ InvariantAt (sampleEnv whileBreakSource) NodesOnFrames c := by
  have reach := ReachedFrom.of_passesGoOn (E := sampleEnv whileBreakSource) 8
    (sampleContext whileBreakSource programFlags) 3 (by decide!)
  exact ⟨_,reach,by decide!,nodesOwnedByFrames
    (⟨rfl,rfl,rfl,rfl⟩ : StatementsEntry (sampleContext whileBreakSource programFlags)) rfl reach⟩

/-- Back at the `START` byte of the body, with no statement open, every jump filed was resolved
and freed: no node is left. -/
theorem noNodeLeftAtStart (entry : StatementsEntry c0) (empty : c0.nodes = [])
    (reach : ReachedFrom E c0 c) (top : c.stack.stackTopUint8 = parserStatementStart) :
    c.nodes = [] := by
  obtain ⟨fs,h,hn⟩ := reach.invariantAt (nodesInvariant E) entry (OwnedBy.nil empty)
  obtain rfl := h.nil_of_start top
  exact Owns.nil hn

theorem noNodeLeftAtStart_whileBreak :
    ∃ c c', ReachedFrom (sampleEnv whileBreakSource) (sampleContext whileBreakSource programFlags) c ∧
      c.nodes ≠ [] ∧ parserParseStatement (sampleEnv whileBreakSource) 8 c = .ok (.next,c') ∧
      ReachedFrom (sampleEnv whileBreakSource) (sampleContext whileBreakSource programFlags) c' ∧
      c'.stack.stackTopUint8 = parserStatementStart ∧ c'.nodes = [] := by
  have reach := ReachedFrom.of_passesGoOn (E := sampleEnv whileBreakSource) 8
    (sampleContext whileBreakSource programFlags) 4 (by decide!)
  refine ⟨_,_,ReachedFrom.of_passesGoOn _ _ 3 (by decide!),by decide!,
    eq_ok_of_returnedWith (by decide!),reach,by decide!,noNodeLeftAtStart
    (⟨rfl,rfl,rfl,rfl⟩ : StatementsEntry (sampleContext whileBreakSource programFlags)) rfl reach
    (by decide!)⟩

/-- `parser_free_jumps (last_statement)` run at any statement boundary of such a run, with fuel
above the number of open frames, frees every branch node. -/
theorem freeJumpsFreesEveryNode (entry : StatementsEntry c0) (empty : c0.nodes = [])
    (reach : ReachedFrom E c0 c) :
    ∃ it n, c.lastStatement = some it ∧ ∀ fuel, n < fuel →
      ∃ c', parserFreeJumps E fuel it c = .ok ((),c') ∧ c'.nodes = [] := by
  obtain ⟨fs,h,ps,chains,nodup,exact,-⟩ :=
    reach.invariantAt (nodesInvariant E) entry (OwnedBy.nil empty)
  obtain ⟨below,items⟩ := h.framed.items
  refine ⟨_,fs.length,by rw [h.framed.last, items]; rfl,fun _ enough =>
    ⟨_,parserFreeJumps_eq (show StackAt c [] fs below from items) enough chains nodup,?_⟩⟩
  rw [freeAll_nodes, List.filter_eq_nil_iff]
  intro x mem
  simpa using exact.subset (List.mem_map_of_mem Prod.fst mem)

theorem freeJumpsFreesEveryNode_whileBreak :
    ∃ c, ReachedFrom (sampleEnv whileBreakSource) (sampleContext whileBreakSource programFlags) c ∧
      c.nodes ≠ [] ∧ ∃ it n, c.lastStatement = some it ∧ ∀ fuel, n < fuel →
        ∃ c', parserFreeJumps (sampleEnv whileBreakSource) fuel it c = .ok ((),c') ∧ c'.nodes = [] := by
  have reach := ReachedFrom.of_passesGoOn (E := sampleEnv whileBreakSource) 8
    (sampleContext whileBreakSource programFlags) 3 (by decide!)
  exact ⟨_,reach,by decide!,freeJumpsFreesEveryNode
    (⟨rfl,rfl,rfl,rfl⟩ : StatementsEntry (sampleContext whileBreakSource programFlags)) rfl reach⟩

end

end JerryParser
