import JerryParser.Updates

/-! The scan loop of `parser_scan_until` as a machine over its mode and the symbols it has
pushed. Every pass hands on a mode that fits those symbols: property names are read over an
object literal, function arguments over a block, and outside switch mode statement mode never
stands on the head. Every pass also reads on in the source, or hands on a mode of lower rank
with the token it started on, so that on a finite source the loop ends. -/
namespace JerryParser

open LexerTokenType

def ScanBytes (c0 : ParserContext) (bytes : List UInt8) (c : ParserContext) : Prop :=
  (frameState c).2 = (frameState c0).2 ∧ scanStackHead ∉ bytes ∧
    c.stack = ⟨bytes.map .uint8 ++ .uint8 scanStackHead :: c0.stack.items,bytes.headD scanStackHead⟩

theorem scanStack_iff {c0 c : ParserContext} : ScanStack c0 c ↔ ∃ bytes, ScanBytes c0 bytes c := by
  simp only [ScanStack,ScanBytes,exists_and_left]

def isStatementSymbol (b : UInt8) : Bool :=
  b == scanStackParenStatement || b == scanStackColonStatement || b == scanStackBlockStatement ||
    b == scanStackBlockProperty

def isBlockSymbol (b : UInt8) : Bool :=
  b == scanStackBlockStatement || b == scanStackBlockExpression || b == scanStackBlockProperty

def BottomFits (bytes : List UInt8) : Prop :=
  ∀ b, bytes.getLast? = some b → isStatementSymbol b = false

structure ModeFits (switch : Bool) (mode : ScanMode) (bytes : List UInt8) : Prop where
  propertyName : mode = .propertyName → bytes.head? = some scanStackObjectLiteral
  functionArguments : mode = .functionArguments → ∃ b, bytes.head? = some b ∧ isBlockSymbol b
  statement : switch = false → mode = .statement → bytes ≠ []
  bottom : switch = false → BottomFits bytes

theorem bottomFits_nil : BottomFits [] := fun _ h => nomatch h

theorem BottomFits.push {bytes : List UInt8} (h : BottomFits bytes) {x : UInt8}
    (hx : isStatementSymbol x = true → bytes ≠ []) : BottomFits (x :: bytes) := by
  intro b last
  cases bytes with
  | nil =>
    simp only [List.getLast?_singleton,Option.some.injEq] at last
    subst last
    cases hb : isStatementSymbol x
    · rfl
    · exact absurd rfl (hx hb)
  | cons y ys =>
    rw [List.getLast?_cons_cons] at last
    exact h b last

theorem BottomFits.pop {x : UInt8} {rest : List UInt8} (h : BottomFits (x :: rest)) :
    BottomFits rest := by
  intro b last
  cases rest with
  | nil => cases last
  | cons y ys => exact h b (by rw [List.getLast?_cons_cons]; exact last)

theorem BottomFits.ne_nil {x : UInt8} {rest : List UInt8} (h : BottomFits (x :: rest))
    (hx : isStatementSymbol x = true) : rest ≠ [] := by
  rintro rfl
  exact absurd (h x rfl) (by simp [hx])

theorem ModeFits.plain {switch : Bool} {mode : ScanMode} {bytes : List UInt8}
    (bottom : switch = false → BottomFits bytes) (pn : mode ≠ .propertyName)
    (fa : mode ≠ .functionArguments) (st : mode ≠ .statement) : ModeFits switch mode bytes :=
  ⟨fun h => absurd h pn,fun h => absurd h fa,fun _ h => absurd h st,bottom⟩

def LexerReads (lx : Lexer) (e p : Nat) (t : LexerToken) (p' : Nat) : Prop :=
  lx.nextToken p e = .ok (t,p') ∨ (∃ b, lx.scanIdentifier b p e = .ok (t,p')) ∨
    ∃ tok, lx.constructRegexp tok p e = .ok (t,p')

inductive LexerReadsOn (lx : Lexer) (e p : Nat) : LexerToken → Nat → Prop
  | one {t : LexerToken} {p' : Nat} : LexerReads lx e p t p' → LexerReadsOn lx e p t p'
  | more {t t' : LexerToken} {p' p'' : Nat} : LexerReadsOn lx e p t p' → LexerReads lx e p' t' p'' →
      LexerReadsOn lx e p t' p''

def Stays (cs c : ParserContext) : Prop :=
  c.token = cs.token ∧ c.sourceP = cs.sourceP ∧ c.sourceEndP = cs.sourceEndP

def MovedOn (lx : Lexer) (cs c : ParserContext) : Prop :=
  c.sourceEndP = cs.sourceEndP ∧ LexerReadsOn lx cs.sourceEndP cs.sourceP c.token c.sourceP

def Moved (lx : Lexer) (cs c : ParserContext) : Prop := Stays cs c ∨ MovedOn lx cs c

theorem Moved.inside_end {lx : Lexer} {cs c : ParserContext} (h : Moved lx cs c) :
    c.sourceEndP = cs.sourceEndP := by
  rcases h with ⟨-,-,e⟩ | ⟨e,-⟩ <;> exact e

theorem Moved.refl (lx : Lexer) (cs : ParserContext) : Moved lx cs cs := .inl ⟨rfl,rfl,rfl⟩

theorem Moved.advance {lx : Lexer} {cs c : ParserContext} (h : Moved lx cs c) {t : LexerToken}
    {p : Nat} (read : LexerReads lx c.sourceEndP c.sourceP t p) :
    MovedOn lx cs { c with token := t, sourceP := p } := by
  rcases h with ⟨-,pos,e⟩ | ⟨e,chain⟩
  · exact ⟨e,.one (pos ▸ e ▸ read)⟩
  · exact ⟨e,.more chain (e ▸ read)⟩

def Advance (e p : Nat) (t : LexerToken) (p' : Nat) : Prop :=
  (p < p' ∧ p' ≤ e) ∨ (t.type = eos ∧ p' = e)

def LexerFinite (lx : Lexer) (e : Nat) : Prop :=
  ∀ {p t p'}, p ≤ e → LexerReads lx e p t p' → Advance e p t p'

theorem LexerFinite.readsOn {lx : Lexer} {e p : Nat} (fin : LexerFinite lx e) (le : p ≤ e)
    {t : LexerToken} {p' : Nat} (h : LexerReadsOn lx e p t p') : Advance e p t p' := by
  induction h with
  | one read => exact fin le read
  | @more _ _ p' _ _ read ih =>
    have le' : p' ≤ e := by rcases ih with ⟨-,h⟩ | ⟨-,h⟩ <;> omega
    rcases fin le' read with ⟨lt,le''⟩ | atEnd
    · exact .inl ⟨by rcases ih with ⟨h,-⟩ | ⟨-,h⟩ <;> omega,le''⟩
    · exact .inr atEnd

def ScanMode.rank : ScanMode → Nat
  | .propertyName | .functionArguments => 0
  | .primaryExpression | .primaryExpressionAfterNew => 1
  | .statement => 2
  | .postPrimaryExpression | .primaryExpressionEnd => 3

def scanMeasure (mode : ScanMode) (c : ParserContext) : Nat :=
  if c.token.type = eos then 0 else 4 * (c.sourceEndP - c.sourceP) + mode.rank + 1

def PassPost (lx : Lexer) (c0 cs : ParserContext) (switch : Bool) (mode : ScanMode) :
    ScanNext → ParserContext → Prop
  | .next m => fun c => ∃ bytes, ScanBytes c0 bytes c ∧ ModeFits switch m bytes ∧ Moved lx cs c
  | .again m => fun c => ∃ bytes, ScanBytes c0 bytes c ∧ ModeFits switch m bytes ∧
      (Stays cs c ∧ m.rank < mode.rank ∨ MovedOn lx cs c) ∧ (switch = false → bytes ≠ [])
  | .done => fun _ => switch = true

theorem BottomFits.tail {bytes : List UInt8} (h : BottomFits bytes) : BottomFits bytes.tail := by
  cases bytes with
  | nil => exact h
  | cons x rest => exact h.pop

theorem BottomFits.tail_ne_nil {bytes : List UInt8} {x : UInt8} (h : BottomFits bytes)
    (top : bytes.headD scanStackHead = x) (hx : isStatementSymbol x = true) : bytes.tail ≠ [] := by
  cases bytes with
  | nil => exact absurd (top ▸ hx) (by decide)
  | cons y rest => cases top; exact h.ne_nil hx

theorem BottomFits.push_plain {bytes : List UInt8} (h : BottomFits bytes) {x : UInt8}
    (hx : isStatementSymbol x = false) : BottomFits (x :: bytes) :=
  h.push fun h' => absurd (hx.symm.trans h') Bool.false_ne_true

theorem head?_of_headD {bytes : List UInt8} {x : UInt8} (top : bytes.headD scanStackHead = x)
    (hx : x ≠ scanStackHead) : bytes.head? = some x := by
  cases bytes with
  | nil => exact absurd top.symm hx
  | cons y rest => exact congrArg some top

theorem ne_nil_of_headD {bytes : List UInt8} {x : UInt8} (top : bytes.headD scanStackHead = x)
    (hx : x ≠ scanStackHead) : bytes ≠ [] := by
  rintro rfl
  exact hx top.symm

section

variable {E : ParserEnv} {c0 cs : ParserContext} {switch : Bool} {mode : ScanMode}
  {M : ParserContext → Prop} {Q : ParserContext → Prop}

theorem triple_push_scan {bytes : List UInt8} {x : UInt8} (hx : x ≠ scanStackHead)
    (hM : ∀ c s, M c → M { c with stack := s }) :
    Triple (fun c => ScanBytes c0 bytes c ∧ M c) (parserStackPushUint8 x)
      (fun _ c => ScanBytes c0 (x :: bytes) c ∧ M c) Q :=
  triple_modify fun c ⟨⟨same,fresh,hs⟩,m⟩ =>
    ⟨⟨same,by simpa [eq_comm] using And.intro hx fresh,by simp [ParserStack.pushUint8,hs]⟩,hM _ _ m⟩

theorem triple_pop_scan {bytes : List UInt8} {x : UInt8}
    (hM : ∀ c s, M c → M { c with stack := s }) :
    Triple (fun c => ScanBytes c0 (x :: bytes) c ∧ M c) (parserStackPopUint8 E)
      (fun _ c => ScanBytes c0 bytes c ∧ M c) Q := by
  rintro c ⟨⟨same,fresh,hs⟩,m⟩
  refine ⟨fun _ c' h => ?_,fun f h => ?_⟩
  · obtain ⟨s,pop,rfl⟩ := parserStackPopUint8_ok h
    simp only [hs,ParserStack.popUint8,List.map_cons,List.cons_append,Option.some.injEq] at pop
    subst pop
    refine ⟨⟨same,fun h => fresh (List.mem_cons_of_mem x h),?_⟩,hM _ _ m⟩
    cases bytes <;> rfl
  · simp only [parserStackPopUint8,bind_apply,get_apply,hs,ParserStack.popUint8,List.map_cons,
      List.cons_append,orUndefined,pure_apply,set_apply] at h
    cases h

theorem triple_popTop_scan {bytes : List UInt8} {x : UInt8} (top : bytes.headD scanStackHead = x)
    (hx : x ≠ scanStackHead) (hM : ∀ c s, M c → M { c with stack := s }) :
    Triple (fun c => ScanBytes c0 bytes c ∧ M c) (parserStackPopUint8 E)
      (fun _ c => ScanBytes c0 bytes.tail c ∧ M c) Q := by
  cases bytes with
  | nil => exact absurd top.symm hx
  | cons y rest => cases top; exact triple_pop_scan hM

theorem MovedOn.moved {lx : Lexer} {c : ParserContext} (h : MovedOn lx cs c) : Moved lx cs c :=
  .inr h

theorem triple_leafNext {bytes : List UInt8} {m : ScanMode} (hM : ∀ c, M c → Moved E.lexer cs c)
    (fits : ModeFits switch m bytes) :
    Triple (fun c => ScanBytes c0 bytes c ∧ M c) (pure (false,m))
      (fun r c => PassPost E.lexer c0 cs switch mode (scanNext r) c) Q :=
  triple_pure _ fun c h => ⟨bytes,h.1,fits,hM c h.2⟩

theorem triple_leafAgain {bytes : List UInt8} {m : ScanMode} (fits : ModeFits switch m bytes)
    (rank : m.rank < mode.rank) (ne : switch = false → bytes ≠ []) :
    Triple (fun c => ScanBytes c0 bytes c ∧ Moved E.lexer cs c) (pure (true,m))
      (fun r c => PassPost E.lexer c0 cs switch mode (scanNext r) c) Q :=
  triple_pure _ fun _ h => ⟨bytes,h.1,fits,h.2.imp_left fun stays => ⟨stays,rank⟩,ne⟩

theorem triple_leafAgainOn {bytes : List UInt8} {m : ScanMode} (fits : ModeFits switch m bytes)
    (ne : switch = false → bytes ≠ []) :
    Triple (fun c => ScanBytes c0 bytes c ∧ MovedOn E.lexer cs c) (pure (true,m))
      (fun r c => PassPost E.lexer c0 cs switch mode (scanNext r) c) Q :=
  triple_pure _ fun _ h => ⟨bytes,h.1,fits,.inr h.2,ne⟩

theorem triple_lexer_scan {bytes : List UInt8}
    {step : ParserContext → Except ParserError (LexerToken × Nat)}
    (read : ∀ c t p, step c = .ok (t,p) → LexerReads E.lexer c.sourceEndP c.sourceP t p) :
    Triple (fun c => ScanBytes c0 bytes c ∧ Moved E.lexer cs c)
      (get >>= fun ctx => lexerStep (step ctx))
      (fun _ c => ScanBytes c0 bytes c ∧ MovedOn E.lexer cs c) (fun _ => True) := by
  refine triple_get_bind fun d => ?_
  rintro c ⟨⟨hs,m⟩,rfl⟩
  refine ⟨fun _ c' h => ?_,fun _ _ => trivial⟩
  obtain ⟨t,p,r,rfl⟩ := lexerStep_ok h
  exact ⟨hs,m.advance (read _ t p r)⟩

variable {bytes : List UInt8}

theorem triple_nextToken_scan :
    Triple (fun c => ScanBytes c0 bytes c ∧ Moved E.lexer cs c) (lexerNextToken E)
      (fun _ c => ScanBytes c0 bytes c ∧ MovedOn E.lexer cs c) (fun _ => True) :=
  triple_lexer_scan fun _ _ _ r => .inl r

theorem triple_scanIdentifier_scan (b : Bool) :
    Triple (fun c => ScanBytes c0 bytes c ∧ Moved E.lexer cs c) (lexerScanIdentifier E b)
      (fun _ c => ScanBytes c0 bytes c ∧ MovedOn E.lexer cs c) (fun _ => True) :=
  triple_lexer_scan fun _ _ _ r => .inr (.inl ⟨b,r⟩)

theorem triple_constructRegexp_scan :
    Triple (fun c => ScanBytes c0 bytes c ∧ Moved E.lexer cs c) (lexerConstructRegexpObject E)
      (fun _ c => ScanBytes c0 bytes c ∧ MovedOn E.lexer cs c) (fun _ => True) :=
  triple_lexer_scan fun c _ _ r => .inr (.inr ⟨c.token,r⟩)

theorem triple_nextToken_moved :
    Triple (fun c => ScanBytes c0 bytes c ∧ Moved E.lexer cs c) (lexerNextToken E)
      (fun _ c => ScanBytes c0 bytes c ∧ Moved E.lexer cs c) (fun _ => True) :=
  triple_nextToken_scan.weaken (fun _ h => h) (fun _ _ h => ⟨h.1,.inr h.2⟩) fun _ h => h

theorem triple_nextToken_on :
    Triple (fun c => ScanBytes c0 bytes c ∧ MovedOn E.lexer cs c) (lexerNextToken E)
      (fun _ c => ScanBytes c0 bytes c ∧ MovedOn E.lexer cs c) (fun _ => True) :=
  triple_nextToken_scan.weaken (fun _ h => ⟨h.1,.inr h.2⟩) (fun _ _ h => h) fun _ h => h

open LexerTokenType in
theorem scanPrimaryExpression_pass (type : LexerTokenType) (rank : mode.rank = 1)
    (fits : ModeFits switch mode bytes) :
    Triple (fun c => ScanBytes c0 bytes c ∧ Moved E.lexer cs c)
      (parserScanPrimaryExpression E type (bytes.headD scanStackHead))
      (fun r c => PassPost E.lexer c0 cs switch mode (scanNext r) c) (fun _ => True) := by
  unfold parserScanPrimaryExpression
  split
  all_goals try dsimp only
  all_goals try simp only [pure_bind]
  · exact triple_leafNext (fun _ h => h) ⟨nofun,nofun,fun _ => nofun,fits.bottom⟩
  iterate 2
    exact triple_constructRegexp_scan.bind fun _ =>
      triple_leafNext (fun _ h => .inr h) ⟨nofun,nofun,fun _ => nofun,fits.bottom⟩
  · exact (triple_push_scan (by decide) fun _ _ h => h).bind fun _ => triple_leafNext (fun _ h => h)
      ⟨nofun,fun _ => ⟨_,rfl,rfl⟩,fun _ => nofun,fun h => (fits.bottom h).push_plain (by decide)⟩
  iterate 2
    exact (triple_push_scan (by decide) fun _ _ h => h).bind fun _ => triple_leafNext (fun _ h => h)
      ⟨nofun,nofun,fun _ => nofun,fun h => (fits.bottom h).push_plain (by decide)⟩
  · exact (triple_push_scan (by decide) fun _ _ h => h).bind fun _ => triple_leafAgain
      ⟨fun _ => rfl,nofun,fun _ => nofun,fun h => (fits.bottom h).push_plain (by decide)⟩
      (by rw [rank]; decide) fun _ => List.cons_ne_nil _ _
  iterate 5
    exact triple_leafNext (fun _ h => h) ⟨nofun,nofun,fun _ => nofun,fits.bottom⟩
  · refine triple_ite (fun _ => triple_raiseError_bind (fun _ _ => trivial) _ _) fun h => ?_
    have top : bytes.headD scanStackHead = scanStackSquareBracketedExpression := by simpa using h
    exact (triple_popTop_scan top (by decide) fun _ _ h => h).bind fun _ =>
      triple_leafNext (fun _ h => h) ⟨nofun,nofun,fun _ => nofun,fun h => (fits.bottom h).tail⟩
  · exact triple_ite (fun _ => triple_raiseError_bind (fun _ _ => trivial) _ _) fun _ =>
      triple_leafNext (fun _ h => h) ⟨nofun,nofun,fun _ => nofun,fits.bottom⟩
  · refine triple_ite (fun h => ?_) fun _ => triple_ite
      (fun _ => triple_raiseError_bind (fun _ _ => trivial) _ _) fun h => ?_
    · have top : bytes.headD scanStackHead = scanStackParenStatement := by simpa using h
      exact (triple_popTop_scan top (by decide) fun _ _ h => h).bind fun _ =>
        triple_leafNext (fun _ h => h) ⟨nofun,nofun,fun h _ => (fits.bottom h).tail_ne_nil top rfl,
          fun h => (fits.bottom h).tail⟩
    · have top : bytes.headD scanStackHead = scanStackParenExpression := by simpa using h
      exact (triple_popTop_scan top (by decide) fun _ _ h => h).bind fun _ =>
        triple_leafNext (fun _ h => h) ⟨nofun,nofun,fun _ => nofun,fun h => (fits.bottom h).tail⟩
  · exact triple_ite (fun _ => triple_raiseError_bind (fun _ _ => trivial) _ _) fun _ =>
      triple_leafNext (fun _ h => h) ⟨nofun,nofun,fun _ => nofun,fits.bottom⟩
  · exact triple_raiseError (fun _ _ => trivial) _

open LexerTokenType in
theorem scanPostPrimaryExpression_pass (type : LexerTokenType)
    (bottom : switch = false → BottomFits bytes) :
    Triple (fun c => ScanBytes c0 bytes c ∧ Moved E.lexer cs c)
      (parserScanPostPrimaryExpression E type .postPrimaryExpression)
      (fun r c => (r.1 = true → PassPost E.lexer c0 cs switch .postPrimaryExpression (.next r.2) c) ∧
        (r.1 = false → ScanBytes c0 bytes c ∧ Moved E.lexer cs c)) (fun _ => True) := by
  unfold parserScanPostPrimaryExpression
  split
  · exact (triple_scanIdentifier_scan false).bind fun _ => triple_pure _ fun _ h =>
      ⟨fun _ => ⟨bytes,h.1,⟨nofun,nofun,fun _ => nofun,bottom⟩,.inr h.2⟩,nofun⟩
  iterate 2
    exact (triple_push_scan (by decide) fun _ _ h => h).bind fun _ => triple_pure _ fun _ h =>
      ⟨fun _ => ⟨_,h.1,⟨nofun,nofun,fun _ => nofun,fun h => (bottom h).push_plain (by decide)⟩,h.2⟩,
        nofun⟩
  iterate 2
    exact triple_get_of fun _ _ => triple_ite
      (fun _ => triple_pure _ fun _ h => ⟨fun _ => ⟨bytes,h.1,⟨nofun,nofun,fun _ => nofun,bottom⟩,h.2⟩,
        nofun⟩)
      fun _ => triple_pure _ fun _ h => ⟨nofun,fun _ => h⟩
  · exact triple_pure _ fun _ h => ⟨nofun,fun _ => h⟩

theorem scanPrimaryExpressionEnd_pass (type endType : LexerTokenType)
    (hswitch : switch = (endType == scanSwitch)) (rank : mode.rank = 3)
    (bottom : switch = false → BottomFits bytes) :
    Triple (fun c => ScanBytes c0 bytes c ∧ Moved E.lexer cs c)
      (parserScanPrimaryExpressionEnd E type (bytes.headD scanStackHead) endType)
      (fun r c => PassPost E.lexer c0 cs switch mode (scanNext r) c) (fun _ => True) := by
  have primary : ∀ {bytes : List UInt8}, (switch = false → BottomFits bytes) →
      Triple (fun c => ScanBytes c0 bytes c ∧ Moved E.lexer cs c) (pure (false,.primaryExpression))
        (fun r c => PassPost E.lexer c0 cs switch mode (scanNext r) c) (fun _ => True) :=
    fun bottom => triple_leafNext (fun _ h => h) ⟨nofun,nofun,fun _ => nofun,bottom⟩
  unfold parserScanPrimaryExpressionEnd
  dsimp only
  simp only [pure_bind]
  refine triple_ite (fun _ => ?_) fun _ => triple_ite (fun _ => ?_) fun _ =>
    triple_ite (fun colon => ?_) fun _ => triple_ite (fun _ => primary bottom) fun _ =>
    triple_ite (fun closing => ?_) fun _ => triple_ite (fun paren => ?_) fun _ =>
    triple_ite (fun _ => triple_raiseError_bind (fun _ _ => trivial) _ _) fun block => ?_
  · exact (triple_push_scan (by decide) fun _ _ h => h).bind fun _ =>
      primary fun h => (bottom h).push_plain (by decide)
  · refine triple_ite (fun obj => ?_) fun _ => primary bottom
    have top : bytes.headD scanStackHead = scanStackObjectLiteral := by simpa using obj
    exact triple_leafAgain ⟨fun _ => head?_of_headD top (by decide),nofun,fun _ => nofun,bottom⟩
      (by rw [rank]; decide) fun _ => ne_nil_of_headD top (by decide)
  · simp only [Bool.and_eq_true,beq_iff_eq,Bool.or_eq_true] at colon
    refine (triple_popTop_scan rfl ?_ fun _ _ h => h).bind fun _ => ?_
    · rcases colon.2 with h | h <;> rw [h] <;> decide
    split
    · exact primary fun h => (bottom h).tail
    · have top : bytes.headD scanStackHead = scanStackColonStatement := by simp_all
      exact triple_leafNext (fun _ h => h) ⟨nofun,nofun,
        fun h _ => (bottom h).tail_ne_nil top rfl,fun h => (bottom h).tail⟩
  · simp only [Bool.and_eq_true,beq_iff_eq,Bool.or_eq_true] at closing
    refine (triple_popTop_scan rfl ?_ fun _ _ h => h).bind fun _ =>
      triple_leafNext (fun _ h => h) ⟨nofun,nofun,fun _ => nofun,fun h => (bottom h).tail⟩
    rcases closing with (⟨-,h⟩ | ⟨-,h⟩) | ⟨-,h⟩ <;> rw [h] <;> decide
  · simp only [Bool.and_eq_true,beq_iff_eq] at paren
    exact (triple_popTop_scan paren.2 (by decide) fun _ _ h => h).bind fun _ =>
      triple_leafNext (fun _ h => h) ⟨nofun,nofun,fun h _ => (bottom h).tail_ne_nil paren.2 rfl,
        fun h => (bottom h).tail⟩
  · have inBlock : switch = false → bytes ≠ [] := by
      rintro off rfl
      rw [off] at hswitch
      rw [List.headD_nil,← hswitch] at block
      exact block (by decide)
    have fits : ModeFits switch .statement bytes := ⟨nofun,nofun,fun h _ => inBlock h,bottom⟩
    refine triple_get_of fun _ _ => triple_ite (fun _ => ?_) fun _ =>
      triple_ite (fun _ => triple_raiseError_bind (fun _ _ => trivial) _ _) fun _ =>
        triple_leafNext (fun _ h => h) fits
    exact triple_leafAgain fits (by rw [rank]; decide) inBlock

open LexerTokenType in
theorem scanStatement_pass (type : LexerTokenType) (fits : ModeFits switch .statement bytes) :
    Triple (fun c => ScanBytes c0 bytes c ∧ Moved E.lexer cs c)
      (parserScanStatement E type (bytes.headD scanStackHead) .statement)
      (fun r c => PassPost E.lexer c0 cs switch .statement (scanNext r) c) (fun _ => True) := by
  have nonempty : switch = false → bytes ≠ [] := fun h => fits.statement h rfl
  have primary : ModeFits switch .primaryExpression bytes := ⟨nofun,nofun,fun _ => nofun,fits.bottom⟩
  have pushed : ∀ {x : UInt8}, (switch = false → BottomFits (x :: bytes)) →
      ModeFits switch .primaryExpression (x :: bytes) := fun bottom =>
    ⟨nofun,nofun,fun _ => nofun,bottom⟩
  have stmtPush : ∀ {x : UInt8}, switch = false → BottomFits (x :: bytes) := fun h =>
    (fits.bottom h).push fun _ => nonempty h
  unfold parserScanStatement
  split
  all_goals try dsimp only
  all_goals try simp only [pure_bind]
  iterate 7
    exact triple_leafNext (fun _ h => h) fits
  iterate 5
    exact triple_nextToken_scan.bind fun _ => triple_get_of fun _ _ => triple_ite
      (fun _ => triple_raiseError_bind (fun _ _ => trivial) _ _) fun _ =>
        (triple_push_scan (by decide) fun _ _ h => h).bind fun _ =>
          triple_leafNext (fun _ h => .inr h) (pushed stmtPush)
  · exact triple_nextToken_scan.bind fun _ => triple_get_of fun _ _ => triple_ite
      (fun _ => triple_raiseError_bind (fun _ _ => trivial) _ _) fun _ => triple_nextToken_on.bind
        fun _ => (triple_push_scan (by decide) fun _ _ h => h).bind fun _ => triple_get_of fun _ _ =>
          triple_ite (fun _ => triple_leafNext (fun _ h => .inr h) (pushed stmtPush))
            fun _ => triple_leafAgainOn (pushed stmtPush) fun _ => List.cons_ne_nil _ _
  iterate 2
    exact triple_leafNext (fun _ h => h) primary
  iterate 2
    exact triple_nextToken_scan.bind fun _ => triple_get_of fun _ _ => triple_ite
      (fun _ => triple_leafNext (fun _ h => .inr h) fits) fun _ => triple_leafAgainOn fits nonempty
  · exact triple_nextToken_scan.bind fun _ => triple_get_of fun _ _ => triple_ite
      (fun _ => triple_raiseError_bind (fun _ _ => trivial) _ _) fun _ =>
        triple_leafNext (fun _ h => .inr h) fits
  · exact (triple_push_scan (by decide) fun _ _ h => h).bind fun _ =>
      triple_leafNext (fun _ h => h) (pushed stmtPush)
  · exact (triple_push_scan (by decide) fun _ _ h => h).bind fun _ =>
      triple_leafNext (fun _ h => h) ⟨nofun,nofun,fun _ _ => List.cons_ne_nil _ _,stmtPush⟩
  · exact (triple_push_scan (by decide) fun _ _ h => h).bind fun _ =>
      triple_leafNext (fun _ h => h) ⟨nofun,fun _ => ⟨_,rfl,rfl⟩,fun _ => nofun,stmtPush⟩
  refine triple_ite (fun closing => ?_) fun _ => triple_get_of fun _ _ => triple_ite (fun _ => ?_)
    fun _ => triple_leafAgain primary (by decide) nonempty
  · simp only [Bool.and_eq_true,Bool.or_eq_true,beq_iff_eq] at closing
    refine (triple_popTop_scan rfl ?_ fun _ _ h => h).bind fun _ => triple_ite
      (fun _ => triple_leafNext (fun _ h => h) ⟨nofun,nofun,fun _ => nofun,fun h => (fits.bottom h).tail⟩)
      fun expression => triple_ite (fun property => ?_) fun property => ?_
    · rcases closing.2 with (h | h) | h <;> rw [h] <;> decide
    · rw [beq_iff_eq] at property
      exact triple_nextToken_scan.bind fun _ => triple_get_of fun _ _ => triple_ite
        (fun _ => triple_raiseError_bind (fun _ _ => trivial) _ _) fun _ => triple_leafAgainOn
          ⟨nofun,nofun,fun _ => nofun,fun h => (fits.bottom h).tail⟩
          fun h => (fits.bottom h).tail_ne_nil property rfl
    · have top : bytes.headD scanStackHead = scanStackBlockStatement := by
        rcases closing.2 with (h | h) | h
        · exact h
        · exact absurd (beq_iff_eq.mpr h) expression
        · exact absurd (beq_iff_eq.mpr h) property
      exact triple_leafNext (fun _ h => h) ⟨nofun,nofun,fun h _ => (fits.bottom h).tail_ne_nil top rfl,
        fun h => (fits.bottom h).tail⟩
  · exact triple_nextToken_scan.bind fun _ => triple_get_of fun _ _ => triple_ite
      (fun _ => triple_leafNext (fun _ h => .inr h) fits) fun _ =>
        triple_leafAgainOn ⟨nofun,nofun,fun _ => nofun,fits.bottom⟩ nonempty

theorem scanArgumentList_moved (fuel : Nat) :
    Triple (fun c => ScanBytes c0 bytes c ∧ Moved E.lexer cs c) (scanArgumentList E fuel)
      (fun _ c => ScanBytes c0 bytes c ∧ Moved E.lexer cs c) (fun _ => True) := by
  induction fuel with
  | zero => exact triple_outOfFuel fun _ _ => trivial
  | succ fuel ih =>
    unfold scanArgumentList
    dsimp only
    simp only [pure_bind]
    exact triple_get_of fun _ _ => triple_ite (fun _ => triple_raiseError_bind (fun _ _ => trivial) _ _)
      fun _ => triple_nextToken_moved.bind fun _ => triple_get_of fun _ _ =>
        triple_ite (fun _ => triple_pure _ fun _ h => h) fun _ => triple_nextToken_moved.bind fun _ => ih

theorem scanFunctionArguments_moved (fuel : Nat) (stackTop : UInt8) :
    Triple (fun c => ScanBytes c0 bytes c ∧ Moved E.lexer cs c) (scanFunctionArguments E fuel stackTop)
      (fun _ c => ScanBytes c0 bytes c ∧ Moved E.lexer cs c) (fun _ => True) := by
  unfold scanFunctionArguments
  dsimp only
  simp only [pure_bind]
  refine triple_assert_bind (fun _ _ => trivial) _ fun _ => ?_
  repeat' first
    | with_reducible refine triple_get_of fun _ _ => ?_
    | with_reducible refine triple_ite (fun _ => ?_) fun _ => ?_
    | with_reducible exact triple_raiseError_bind (fun _ _ => trivial) _ _
    | with_reducible exact triple_raiseError (fun _ _ => trivial) _
    | with_reducible exact triple_pure _ fun _ h => h
    | with_reducible refine triple_nextToken_moved.bind fun _ => ?_
    | with_reducible refine (scanArgumentList_moved _).bind fun _ => ?_

theorem scanPropertyName_pass (fits : ModeFits switch .propertyName bytes) :
    Triple (fun c => ScanBytes c0 bytes c ∧ Moved E.lexer cs c)
      (scanPropertyName E (bytes.headD scanStackHead))
      (fun m c => PassPost E.lexer c0 cs switch .propertyName (.next m) c) (fun _ => True) := by
  have head := fits.propertyName rfl
  have top : bytes.headD scanStackHead = scanStackObjectLiteral := by
    rw [List.headD_eq_head?_getD,head]; rfl
  unfold scanPropertyName
  dsimp only
  simp only [pure_bind]
  refine triple_assert_bind (fun _ _ => trivial) _ fun _ => (triple_scanIdentifier_scan true).bind
    fun _ => triple_get_of fun _ _ => triple_ite (fun _ => ?_) fun _ => triple_ite (fun _ => ?_) fun _ => ?_
  · exact (triple_popTop_scan top (by decide) fun _ _ h => h).bind fun _ => triple_pure _ fun _ h =>
      ⟨_,h.1,⟨nofun,nofun,fun _ => nofun,fun h => (fits.bottom h).tail⟩,.inr h.2⟩
  · exact (triple_push_scan (by decide) fun _ _ h => h).bind fun _ => triple_pure _ fun _ h =>
      ⟨_,h.1,⟨nofun,fun _ => ⟨_,rfl,rfl⟩,fun _ => nofun,
        fun h => (fits.bottom h).push fun _ => by rintro rfl; cases head⟩,.inr h.2⟩
  · exact triple_nextToken_on.bind fun _ => triple_get_of fun _ _ => triple_ite
      (fun _ => triple_raiseError_bind (fun _ _ => trivial) _ _) fun _ => triple_pure _ fun _ h =>
        ⟨_,h.1,⟨nofun,nofun,fun _ => nofun,fits.bottom⟩,.inr h.2⟩

theorem triple_true {α : Type} {P : ParserContext → Prop} (m : ParserM α) :
    Triple P m (fun _ _ => True) (fun _ => True) :=
  fun _ _ => ⟨fun _ _ _ => trivial,fun _ _ => trivial⟩

theorem Triple.passNext {P : ParserContext → Prop} {m : ParserM (Bool × ScanMode)}
    (hm : Triple P m (fun r c => PassPost E.lexer c0 cs switch mode (JerryParser.scanNext r) c) Q) :
    Triple P (JerryParser.scanNext <$> m) (PassPost E.lexer c0 cs switch mode) Q :=
  hm.map.weaken (fun _ h => h) (fun _ _ ⟨_,e,h⟩ => e ▸ h) fun _ h => h

theorem scanDispatch_pass (fuel : Nat) (endType type : LexerTokenType)
    (hswitch : switch = (endType == scanSwitch)) (fits : ModeFits switch mode bytes) :
    Triple (fun c => ScanBytes c0 bytes c ∧ Moved E.lexer cs c)
      (scanDispatch E fuel endType type (bytes.headD scanStackHead) mode)
      (PassPost E.lexer c0 cs switch mode) (fun _ => True) := by
  cases mode with
  | primaryExpression =>
    exact triple_ite (fun _ => triple_pure _ fun _ h => ⟨bytes,h.1,fits,h.2⟩)
      fun _ => (scanPrimaryExpression_pass type (by rfl) fits).passNext
  | primaryExpressionAfterNew => exact (scanPrimaryExpression_pass type (by rfl) fits).passNext
  | postPrimaryExpression =>
    refine (scanPostPrimaryExpression_pass type fits.bottom).bind fun ⟨advance,_⟩ => ?_
    cases advance
    · show Triple _ (scanNext <$> _) _ _
      exact (scanPrimaryExpressionEnd_pass type endType hswitch (by rfl) fits.bottom).passNext.weaken
        (fun _ h => h.2 rfl) (fun _ _ h => h) fun _ h => h
    · exact triple_pure _ fun _ h => h.1 rfl
  | primaryExpressionEnd =>
    exact (scanPrimaryExpressionEnd_pass type endType hswitch (by rfl) fits.bottom).passNext
  | statement =>
    refine triple_ite (fun head => ?_) fun _ => (scanStatement_pass type fits).passNext
    have isSwitch : switch = true := by
      simp only [Bool.and_eq_true,beq_iff_eq] at head
      rw [hswitch,head.1.1]; rfl
    exact (triple_true _).bind fun _ => triple_pure _ fun _ _ => isSwitch
  | functionArguments =>
    obtain ⟨b,head,-⟩ := fits.functionArguments rfl
    exact (scanFunctionArguments_moved fuel _).bind fun _ => triple_pure _ fun _ h =>
      ⟨bytes,h.1,⟨nofun,nofun,fun _ _ => (by rintro rfl; cases head),fits.bottom⟩,h.2⟩
  | propertyName =>
    exact (scanPropertyName_pass fits).map.weaken (fun _ h => h) (fun _ _ ⟨_,e,h⟩ => e ▸ h)
      fun _ h => h

end

end JerryParser
