import JerryParser.Accounting

/-! The steps that change frames in place: a record written back through an iterator, the top
tag changed by `parser_stack_change_last_uint8`, and a whole frame dropped by
`parser_stack_pop` of its bytes. A write keeps the kind of the frame it changes, so the frames
keep their accounting. A try statement ends its runtime context while its frame is still on the
stack; `Closing` is that state. -/
namespace JerryParser

variable {E : ParserEnv} {c : ParserContext} {fs pre post : List ParserFrame} {a b : UInt16}
  {k : Nat}

@[simp] theorem frameItems_append (fs gs : List ParserFrame) :
    frameItems (fs ++ gs) = frameItems fs ++ frameItems gs :=
  List.flatMap_append ..

section

variable {α : Type} {P Q : ParserContext → Prop} {R : α → ParserContext → Prop}

theorem triple_get_at {k : ParserContext → ParserM α}
    (hk : ∀ d, P d → Triple (fun c => c = d) (k d) R Q) : Triple P (get >>= k) R Q :=
  fun c hc => hk c hc c rfl

theorem triple_get_of {k : ParserContext → ParserM α} (hk : ∀ d, P d → Triple P (k d) R Q) :
    Triple P (get >>= k) R Q :=
  fun c hc => hk c hc c hc

theorem triple_iteratorInit_bind {k : Nat → ParserM α}
    (hk : ∀ n, Triple (fun c => P c ∧ c.stack.iteratorInit E.layout = n) (k n) R Q) :
    Triple P (parserStackIteratorInit E >>= k) R Q :=
  fun c hc => hk _ c ⟨hc,rfl⟩

theorem triple_bind_eq {β : Type} {m : ParserM α} {k : α → ParserM β} {v : α}
    {P' : ParserContext → Prop} {S : β → ParserContext → Prop}
    (hm : Triple P m (fun x c => x = v ∧ P' c) Q) (hk : Triple P' (k v) S Q) :
    Triple P (m >>= k) S Q :=
  hm.bind fun _ c ⟨hx,h⟩ => hx ▸ hk c h

theorem Triple.and {m : ParserM α} {P' : ParserContext → Prop} {R' : α → ParserContext → Prop}
    (h : Triple P m R Q) (h' : Triple P' m R' Q) :
    Triple (fun c => P c ∧ P' c) m (fun a c => R a c ∧ R' a c) Q := fun c hc =>
  ⟨fun a c' ok => ⟨(h c hc.1).1 a c' ok,(h' c hc.2).1 a c' ok⟩,(h c hc.1).2⟩

theorem triple_exists {β : Type} {m : ParserM α} {P : β → ParserContext → Prop}
    (h : ∀ x, Triple (P x) m R Q) : Triple (fun c => ∃ x, P x c) m R Q :=
  fun c ⟨x,hc⟩ => h x c hc

theorem triple_iteratorWrite {it : Nat} {r : ParserRecord} {R : Unit → ParserContext → Prop}
    (hw : ∀ c, P c → ∃ s, c.stack.iteratorWrite E.layout it r = some s ∧
      R () { c with stack := s }) :
    Triple P (parserStackIteratorWrite E it r) R Q := fun c hc => by
  obtain ⟨s,write,post⟩ := hw c hc
  have run : parserStackIteratorWrite E it r c = .ok ((),{ c with stack := s }) := by
    simp only [parserStackIteratorWrite, bind_apply, get_apply, write, orUndefined, pure_apply,
      set_apply]
  rw [run]
  exact ⟨fun _ _ ok => by cases ok; exact post,fun _ err => nomatch err⟩

end

theorem FramesAt.at {α : Type} {m : ParserM α} {R : α → ParserContext → Prop}
    {Q : ParserContext → Prop} {d : ParserContext} (h : FramesAt E d fs a b k)
    (hm : Triple (FramesAt E · fs a b k) m R Q) : Triple (fun c => c = d) m R Q :=
  hm.weaken (fun _ e => e ▸ h) (fun _ _ h => h) fun _ h => h

theorem FramesAt.raiseError {α : Type} {R : α → ParserContext → Prop} {c : ParserContext}
    (h : FramesAt E c fs a b k) (e : ParserError) :
    (∀ x c', (parserRaiseError e : ParserM α) c = .ok (x,c') → R x c') ∧
      ∀ f, (parserRaiseError e : ParserM α) c = .error f → Designated E.layout f.context :=
  ⟨fun _ _ ok => (nomatch ok),fun _ err => by cases err; exact h.designated⟩

section

variable {Q : ParserContext → Prop} {n : Nat}

theorem height_push (r : ParserRecord) :
    Triple (fun c => c.stack.iteratorInit E.layout = n) (parserStackPush E r)
      (fun _ c => c.stack.iteratorInit E.layout = n + r.size E.layout) Q :=
  triple_modify fun c h => by
    simp only [ParserStack.push, ParserStack.ofItems, ParserStack.iteratorInit, stackHeight_cons,
      ParserStackItem.size] at h ⊢
    omega

theorem height_pushUint8 (t : UInt8) :
    Triple (fun c => c.stack.iteratorInit E.layout = n) (parserStackPushUint8 t)
      (fun _ c => c.stack.iteratorInit E.layout = n + 1) Q :=
  triple_modify fun c h => by
    simp only [ParserStack.pushUint8, ParserStack.iteratorInit, stackHeight_cons,
      ParserStackItem.size] at h ⊢
    omega

theorem height_initLast :
    Triple (fun c => c.stack.iteratorInit E.layout = n) (initLastStatement E)
      (fun _ c => c.stack.iteratorInit E.layout = n) Q :=
  triple_modify fun _ h => h

end

theorem Inert.framesAtWith {α : Type} {m : ParserM α} {S : ParserStack → Prop} (hm : Inert m) :
    Triple (fun c => FramesAt E c fs a b k ∧ S c.stack) m
      (fun _ c => FramesAt E c fs a b k ∧ S c.stack) (Designated E.layout) :=
  hm.keeps (fun _ d same h => ⟨h.1.of_frameState same,
    by rw [show d.stack = _ from congrArg Prod.fst same]; exact h.2⟩) fun _ h => h.1.designated

theorem Inert.framesAtHeight {α : Type} {m : ParserM α} {n : Nat} (hm : Inert m) :
    Triple (fun c => FramesAt E c fs a b k ∧ c.stack.iteratorInit E.layout = n) m
      (fun _ c => FramesAt E c fs a b k ∧ c.stack.iteratorInit E.layout = n) (Designated E.layout) :=
  @Inert.framesAtWith E fs a b k α m (fun s => s.iteratorInit E.layout = n) hm

theorem contextDepth_replace {f f' : ParserFrame} (alloc : f'.allocation E = f.allocation E) :
    contextDepth E (pre ++ f' :: post) = contextDepth E (pre ++ f :: post) := by
  simp [contextDepth, alloc]

theorem countP_replace {f f' : ParserFrame} (ends : f'.endsContext = f.endsContext) :
    (pre ++ f' :: post).countP ParserFrame.endsContext =
      (pre ++ f :: post).countP ParserFrame.endsContext := by
  simp [List.countP_append, List.countP_cons, ends]

theorem FramesAt.iteratorWrite {f f' : ParserFrame} {A B : List ParserStackItem}
    {r r' : ParserRecord} (h : FramesAt E c (pre ++ f :: post) a b k)
    (split : f.items = A ++ .record r :: B) (split' : f'.items = A ++ .record r' :: B)
    (size : r'.size E.layout = r.size E.layout) (alloc : f'.allocation E = f.allocation E)
    (ends : f'.endsContext = f.endsContext) :
    ∃ s, c.stack.iteratorWrite E.layout
        (c.stack.iteratorInit E.layout - stackHeight E.layout (frameItems pre ++ A)) r' = some s ∧
      s.iteratorInit E.layout = c.stack.iteratorInit E.layout ∧
      FramesAt E { c with stack := s } (pre ++ f' :: post) a b k := by
  obtain ⟨below,items⟩ := h.framed.items
  have whole : c.stack.items = (frameItems pre ++ A) ++ .record r ::
      (B ++ (frameItems post ++ .uint8 parserStatementStart :: below)) := by
    simp [items, split]
  have tag : f'.tag = f.tag := by
    cases A with
    | nil => simp [ParserFrame.items] at split
    | cons i A =>
      simp only [ParserFrame.items, List.cons_append, List.cons.injEq] at split split'
      exact ParserStackItem.uint8.inj (split'.1.trans split.1.symm)
  have height : stackHeight E.layout ((frameItems pre ++ A) ++ .record r' ::
      (B ++ (frameItems post ++ .uint8 parserStatementStart :: below))) =
      stackHeight E.layout c.stack.items := by
    simp [whole, ParserStackItem.size, size]
  refine ⟨⟨(frameItems pre ++ A) ++ .record r' :: (B ++ (frameItems post ++
    .uint8 parserStatementStart :: below)),c.stack.stackTopUint8⟩,?_,height,
    ⟨⟨below,by simp [split']⟩,?_,?_⟩,?_,?_,?_⟩
  · rw [show c.stack.iteratorInit E.layout - stackHeight E.layout (frameItems pre ++ A) =
      stackHeight E.layout (.record r :: (B ++ (frameItems post ++ .uint8 parserStatementStart ::
        below))) by rw [ParserStack.iteratorInit, whole, stackHeight_append]; omega]
    exact c.stack.iteratorWrite_at E.layout whole size
  · rw [h.framed.top]
    cases pre <;> simp [topTag, tag]
  · exact h.framed.last.trans (by rw [height])
  · rw [contextDepth_replace alloc]; exact h.accounting.context
  · rw [contextDepth_replace alloc]; exact h.accounting.depth
  · rw [countP_replace ends]; exact h.accounting.ends

theorem triple_changeLastUint8 {f f' : ParserFrame} {Q : ParserContext → Prop}
    (records : f'.records = f.records) (alloc : f'.allocation E = f.allocation E)
    (ends : f'.endsContext = f.endsContext) :
    Triple (FramesAt E · (f :: fs) a b k) (parserStackChangeLastUint8 f'.tag)
      (fun _ c => FramesAt E c (f' :: fs) a b k) Q := fun c h => by
  obtain ⟨below,items⟩ := h.framed.items
  have change : c.stack.changeLastUint8 f'.tag = some ⟨f'.items ++ (frameItems fs ++
      .uint8 parserStatementStart :: below),f'.tag⟩ := by
    simp only [ParserFrame.items, frameItems_cons, List.cons_append] at items
    simp [ParserStack.changeLastUint8, items, h.framed.top, topTag, ParserFrame.items, records]
  have run : parserStackChangeLastUint8 f'.tag c = .ok ((),{ c with stack := ⟨f'.items ++
      (frameItems fs ++ .uint8 parserStatementStart :: below),f'.tag⟩ }) := by
    simp only [parserStackChangeLastUint8, bind_apply, get_apply, change, orUndefined, pure_apply,
      set_apply]
  rw [run]
  refine ⟨fun _ _ ok => ?_,fun _ err => nomatch err⟩
  cases ok
  have accounting := accounting_cons.mp h.accounting
  rw [← alloc, show f.opens = f'.opens by simp [ParserFrame.opens, ends]] at accounting
  obtain ⟨context,depth,counts⟩ := accounting
  refine ⟨⟨⟨below,by simp⟩,rfl,h.framed.last.trans ?_⟩,accounting_cons.mpr ⟨context,depth,counts⟩⟩
  simp [items, ParserFrame.items, records, ParserStackItem.size]

variable (E) in
structure Closing (c : ParserContext) (f : ParserFrame) (fs : List ParserFrame) (a b : UInt16)
    (k : Nat) : Prop where
  framed : Framed E.layout c.stack c.lastStatement (f :: fs)
  accounting : Accounting E c fs a b k

theorem FramesAt.closing {f : ParserFrame} (h : FramesAt E c (f :: fs) a b k) :
    Closing E c f fs (f.allocation E + a) (f.allocation E + b) (f.opens + k) :=
  ⟨h.framed,accounting_cons.mp h.accounting⟩

section

variable {f : ParserFrame} {Q : ParserContext → Prop}

theorem Closing.designated (h : Closing E c f fs a b k) : Designated E.layout c :=
  h.framed.designatedAbove (Above.refl c)

theorem Inert.closing {α : Type} {m : ParserM α} (hm : Inert m) :
    Triple (Closing E · f fs a b k) m (fun _ c => Closing E c f fs a b k) (Designated E.layout) :=
  hm.keeps (fun _ _ same h => by
    have accounting := h.accounting.of_frameState same
    simp only [frameState, Prod.mk.injEq] at same
    exact ⟨same.1 ▸ same.2.1 ▸ h.framed,accounting⟩) fun _ h => h.designated

theorem triple_closingSubDepths {g : ParserContext → ParserContext} {x : UInt16}
    (hg : ∀ c, frameState (g c) =
      (c.stack,c.lastStatement,c.stackDepth - x,c.contextStackDepth - x,contextCount c)) :
    Triple (Closing E · f fs a b k) (modify g) (fun _ c => Closing E c f fs (a - x) (b - x) k) Q :=
  triple_modify fun c h => ⟨by
    rw [show (g c).stack = c.stack from congrArg Prod.fst (hg c),
      show (g c).lastStatement = c.lastStatement from congrArg (·.2.1) (hg c)]
    exact h.framed,h.accounting.subDepths (hg c)⟩

theorem triple_closingContextEnd :
    Triple (Closing E · f fs a b (k + 1)) (parserEmitCbc E .contextEnd)
      (fun _ c => Closing E c f fs a b k) Q :=
  triple_modify fun _ h => ⟨by simpa using h.framed,h.accounting.contextEnd⟩

theorem dropBytes_append (L : ParserLayout) (top rest : List ParserStackItem) :
    dropBytes L (top ++ rest) (stackHeight L top) = some rest := by
  induction top with
  | nil => simp [dropBytes]
  | cons i top ih =>
    obtain ⟨n,hn⟩ : ∃ n, i.size L + stackHeight L top = n + 1 :=
      ⟨_,(Nat.succ_pred_eq_of_pos (Nat.add_pos_left (i.size_pos L) _)).symm⟩
    rw [List.cons_append, stackHeight_cons, hn, dropBytes, if_pos (by omega),
      show n + 1 - i.size L = stackHeight L top by omega, ih]

theorem triple_popFrameBytes {n : Nat} (hn : n = stackHeight E.layout f.items) :
    Triple (Closing E · f fs a b k) (parserStackPopBytes E n)
      (fun _ c => OverFrames E c fs [] a b k) Q := fun c h => by
  obtain ⟨below,items⟩ := h.framed.items
  have pop : c.stack.popBytes E.layout n = some (ParserStack.ofItems E.layout
      (frameItems fs ++ .uint8 parserStatementStart :: below)) := by
    rw [ParserStack.popBytes, items, frameItems_cons, List.append_assoc, hn, dropBytes_append]
    rfl
  have run : parserStackPopBytes E n c = .ok ((),{ c with stack := (ParserStack.ofItems E.layout
      (frameItems fs ++ .uint8 parserStatementStart :: below)) }) := by
    simp only [parserStackPopBytes, bind_apply, get_apply, pop, orUndefined, pure_apply, set_apply]
  rw [run]
  obtain ⟨context,depth,ends⟩ := h.accounting
  exact ⟨fun _ _ ok => by cases ok; exact ⟨⟨below,by simp⟩,context,depth,ends⟩,
    fun _ err => nomatch err⟩

end

end JerryParser
