import JerryParser.ScanModes

/-! The runs of `parser_scan_until`: where it starts its loop, the iterations of the loop pass
by pass, and the iterations it returns or runs out of fuel from. Over these, the symbols fit the
mode at every iteration, the range it returns ends right after the last token it scanned, and on
a finite source enough fuel always suffices. -/
namespace JerryParser

open LexerTokenType

inductive ScanStart (E : ParserEnv) (endType : LexerTokenType) (c0 : ParserContext) :
    LexerTokenType → LexerTokenType → ScanMode → ParserContext → Prop
  | switch : (endType == keywCase) = true →
      ScanStart E endType c0 scanSwitch scanSwitch .statement
        { c0 with stack := c0.stack.pushUint8 scanStackHead }
  | first {c1 : ParserContext} : (endType == keywCase) = false → lexerNextToken E c0 = .ok ((),c1) →
      (endType == keywIn) = false →
      ScanStart E endType c0 endType endType .primaryExpression
        { c1 with stack := c1.stack.pushUint8 scanStackHead }
  | inFirst {c1 : ParserContext} : (endType == keywCase) = false →
      lexerNextToken E c0 = .ok ((),c1) → (endType == keywIn) = true →
      (c1.token.type == keywVar) = false →
      ScanStart E endType c0 endType semicolon .primaryExpression
        { c1 with stack := c1.stack.pushUint8 scanStackHead }
  | inVar {c1 c2 : ParserContext} : (endType == keywCase) = false →
      lexerNextToken E c0 = .ok ((),c1) → (endType == keywIn) = true →
      (c1.token.type == keywVar) = true → lexerNextToken E c1 = .ok ((),c2) →
      ScanStart E endType c0 endType semicolon .primaryExpression
        { c2 with stack := c2.stack.pushUint8 scanStackHead }

def ScanGoesOn (endType endTypeB : LexerTokenType) (c : ParserContext) : Prop :=
  (c.token.type == eos) = false ∧
    (c.stack.stackTopUint8 == scanStackHead && (c.token.type == endType || c.token.type == endTypeB)) =
      false

def ScanExits (endType endTypeB : LexerTokenType) (c : ParserContext) : Prop :=
  (c.token.type == eos) = false ∧
    (c.stack.stackTopUint8 == scanStackHead && (c.token.type == endType || c.token.type == endTypeB)) =
      true

inductive ScanIter (E : ParserEnv) (endType endTypeB : LexerTokenType) :
    Nat → ScanMode → LexerRange → ParserContext → Nat → Nat → ScanMode → LexerRange →
      ParserContext → Prop
  | start {fuel : Nat} {mode : ScanMode} {range : LexerRange} {c : ParserContext} :
      ScanIter E endType endTypeB fuel mode range c 0 fuel mode range c
  | again {fuel k fuel'' : Nat} {mode mode' mode'' : ScanMode} {range range'' : LexerRange}
      {c c' d : ParserContext} : ScanGoesOn endType endTypeB c →
      scanDispatch E fuel endType c.token.type c.stack.stackTopUint8 mode c = .ok (.again mode',c') →
      ScanIter E endType endTypeB fuel mode' range c' k fuel'' mode'' range'' d →
      ScanIter E endType endTypeB (fuel + 1) mode range c (k + 1) fuel'' mode'' range'' d
  | next {fuel k fuel'' : Nat} {mode mode' mode'' : ScanMode} {range range'' : LexerRange}
      {c c' c'' d : ParserContext} : ScanGoesOn endType endTypeB c →
      scanDispatch E fuel endType c.token.type c.stack.stackTopUint8 mode c = .ok (.next mode',c') →
      lexerNextToken E c' = .ok ((),c'') →
      ScanIter E endType endTypeB fuel mode' { range with sourceEndP := c'.sourceP } c'' k fuel''
        mode'' range'' d →
      ScanIter E endType endTypeB (fuel + 1) mode range c (k + 1) fuel'' mode'' range'' d

section

variable {E : ParserEnv} {endType endTypeB : LexerTokenType} {n : Nat} {mode : ScanMode}
  {range : LexerRange} {c : ParserContext}

theorem scanLoop_goesOn (goesOn : ScanGoesOn endType endTypeB c) :
    scanLoop E endType endTypeB (n + 1) mode range c =
      (scanDispatch E n endType c.token.type c.stack.stackTopUint8 mode >>= fun next =>
        match next with
        | .done => pure range
        | .again mode => scanLoop E endType endTypeB n mode range
        | .next mode => get >>= fun d => lexerNextToken E >>= fun _ =>
            scanLoop E endType endTypeB n mode { range with sourceEndP := d.sourceP }) c := by
  simp only [scanLoop,bind_apply,get_apply,pure_bind,goesOn.1,goesOn.2,Bool.false_eq_true,
    if_false]
  try rfl

theorem scanLoop_exits (exits : ScanExits endType endTypeB c) :
    scanLoop E endType endTypeB (n + 1) mode range c =
      (parserStackPopUint8 E >>= fun _ => pure range) c := by
  simp only [scanLoop,bind_apply,get_apply,pure_bind,exits.1,exits.2,Bool.false_eq_true,if_false,
    if_true]

theorem scanLoop_eos (isEos : (c.token.type == eos) = true) :
    scanLoop E endType endTypeB (n + 1) mode range c = .error ⟨.error .expressionExpected,c⟩ := by
  simp only [scanLoop,bind_apply,get_apply,pure_bind,isEos,if_true,parserRaiseError_apply]

theorem scanLoop_trichotomy (c : ParserContext) :
    (c.token.type == eos) = true ∨ ScanExits endType endTypeB c ∨ ScanGoesOn endType endTypeB c := by
  unfold ScanExits ScanGoesOn
  cases (c.token.type == eos) <;>
    cases (c.stack.stackTopUint8 == scanStackHead && (c.token.type == endType || c.token.type == endTypeB)) <;>
    simp

theorem lexerStep_error {r : Except ParserError (LexerToken × Nat)} {f : ParserFailure}
    (h : lexerStep r c = .error f) : ∃ e, f.abort = .error e := by
  unfold lexerStep at h
  split at h
  · cases h
  · cases h; exact ⟨_,rfl⟩

theorem lexerNextToken_error {f : ParserFailure} (h : lexerNextToken E c = .error f) :
    ∃ e, f.abort = .error e := by
  simp only [lexerNextToken,bind_apply,get_apply] at h
  exact lexerStep_error h

theorem parserStackPopUint8_error {f : ParserFailure} (h : parserStackPopUint8 E c = .error f) :
    f.abort = .undefined := by
  simp only [parserStackPopUint8,bind_apply,get_apply] at h
  cases hs : c.stack.popUint8 E.layout <;> simp only [hs,orUndefined,parserUndefined_apply,pure_apply,
    set_apply] at h <;> cases h
  rfl

theorem scanLoop_ok_iter {fuel : Nat} {r : LexerRange} {c' : ParserContext}
    (h : scanLoop E endType endTypeB fuel mode range c = .ok (r,c')) :
    ∃ k n mode' d, ScanIter E endType endTypeB fuel mode range c k (n + 1) mode' r d ∧
      (ScanExits endType endTypeB d ∧ parserStackPopUint8 E d = .ok ((),c') ∨
        ScanGoesOn endType endTypeB d ∧
          scanDispatch E n endType d.token.type d.stack.stackTopUint8 mode' d = .ok (.done,c')) := by
  induction fuel generalizing mode range c with
  | zero => cases h
  | succ n ih =>
    rcases scanLoop_trichotomy c with isEos | exits | goesOn
    · rw [scanLoop_eos isEos] at h
      cases h
    · rw [scanLoop_exits exits] at h
      obtain ⟨_,_,pop,done⟩ := bind_ok.mp h
      cases done
      exact ⟨0,n,mode,c,.start,.inl ⟨exits,pop⟩⟩
    · rw [scanLoop_goesOn goesOn] at h
      obtain ⟨next,c1,disp,rest⟩ := bind_ok.mp h
      cases next with
      | done =>
        cases rest
        exact ⟨0,n,mode,c,.start,.inr ⟨goesOn,disp⟩⟩
      | again m =>
        obtain ⟨k,n',mode',d,iter,ret⟩ := ih rest
        exact ⟨k + 1,n',mode',d,.again goesOn disp iter,ret⟩
      | next m =>
        obtain ⟨_,_,⟨⟩,rest⟩ := bind_ok.mp rest
        obtain ⟨_,c2,lex,rest⟩ := bind_ok.mp rest
        obtain ⟨k,n',mode',d,iter,ret⟩ := ih rest
        exact ⟨k + 1,n',mode',d,.next goesOn disp lex iter,ret⟩

theorem scanLoop_outOfFuel_iter {fuel : Nat} {f : ParserFailure}
    (h : scanLoop E endType endTypeB fuel mode range c = .error f) (fuelOut : f.abort = .outOfFuel) :
    ∃ k fuel' mode' range' d, ScanIter E endType endTypeB fuel mode range c k fuel' mode' range' d ∧
      (fuel' = 0 ∨ ∃ n, fuel' = n + 1 ∧ ScanGoesOn endType endTypeB d ∧
        scanDispatch E n endType d.token.type d.stack.stackTopUint8 mode' d = .error f) := by
  induction fuel generalizing mode range c with
  | zero => exact ⟨0,0,mode,range,c,.start,.inl rfl⟩
  | succ n ih =>
    rcases scanLoop_trichotomy c with isEos | exits | goesOn
    · rw [scanLoop_eos isEos] at h
      cases h
      cases fuelOut
    · rw [scanLoop_exits exits] at h
      rcases bind_error.mp h with pop | ⟨_,_,_,done⟩
      · cases (parserStackPopUint8_error pop).symm.trans fuelOut
      · cases done
    · rw [scanLoop_goesOn goesOn] at h
      rcases bind_error.mp h with disp | ⟨next,c1,disp,rest⟩
      · exact ⟨0,n + 1,mode,range,c,.start,.inr ⟨n,rfl,goesOn,disp⟩⟩
      cases next with
      | done => cases rest
      | again m =>
        obtain ⟨k,fuel',mode',range',d,iter,ret⟩ := ih rest
        exact ⟨k + 1,fuel',mode',range',d,.again goesOn disp iter,ret⟩
      | next m =>
        rcases bind_error.mp rest with getFails | ⟨_,_,⟨⟩,rest⟩
        · simp at getFails
        rcases bind_error.mp rest with lex | ⟨_,c2,lex,rest⟩
        · obtain ⟨e,raised⟩ := lexerNextToken_error lex
          cases raised.symm.trans fuelOut
        · obtain ⟨k,fuel',mode',range',d,iter,ret⟩ := ih rest
          exact ⟨k + 1,fuel',mode',range',d,.next goesOn disp lex iter,ret⟩

theorem parserScanUntil_start (fuel : Nat) (endType : LexerTokenType) (c0 : ParserContext) :
    (∃ endT endTB mode c, ScanStart E endType c0 endT endTB mode c ∧
      parserScanUntil E fuel endType c0 = scanLoop E endT endTB fuel mode ⟨c0.sourceP,c0.sourceP⟩ c) ∨
    ∃ f, parserScanUntil E fuel endType c0 = .error f ∧ ∃ e, f.abort = .error e := by
  unfold parserScanUntil
  simp only [bind_apply,get_apply,pure_bind]
  cases isCase : (endType == keywCase)
  · simp only [Bool.false_eq_true,if_false,bind_apply]
    cases lex : lexerNextToken E c0 with
    | error f => exact .inr ⟨f,rfl,lexerNextToken_error lex⟩
    | ok p =>
      obtain ⟨⟨⟩,c1⟩ := p
      cases isIn : (endType == keywIn)
      · exact .inl ⟨_,_,_,_,.first isCase lex isIn,rfl⟩
      · simp only [if_true,bind_apply,get_apply]
        cases isVar : (c1.token.type == keywVar)
        · exact .inl ⟨_,_,_,_,.inFirst isCase lex isIn isVar,rfl⟩
        · simp only [if_true,bind_apply]
          cases lex' : lexerNextToken E c1 with
          | error f => exact .inr ⟨f,rfl,lexerNextToken_error lex'⟩
          | ok p =>
            obtain ⟨⟨⟩,c2⟩ := p
            exact .inl ⟨_,_,_,_,.inVar isCase lex isIn isVar lex',rfl⟩
  · exact .inl ⟨_,_,_,_,.switch isCase,rfl⟩

theorem ScanIter.loop {fuel k fuel' : Nat} {mode mode' : ScanMode} {range range' : LexerRange}
    {d : ParserContext} (iter : ScanIter E endType endTypeB fuel mode range c k fuel' mode' range' d) :
    scanLoop E endType endTypeB fuel mode range c = scanLoop E endType endTypeB fuel' mode' range' d := by
  induction iter with
  | start => rfl
  | again goesOn disp _ ih =>
    rw [scanLoop_goesOn goesOn,bind_apply,disp]
    exact ih
  | next goesOn disp lex _ ih =>
    rw [scanLoop_goesOn goesOn,bind_apply,disp]
    simp only [bind_apply,get_apply,lex]
    exact ih

variable (E endType endTypeB) in
def ScanLast (fuel : Nat) (mode : ScanMode) (range : LexerRange) (d : ParserContext) : Prop :=
  ∀ fuel' mode' range' d', ¬ ScanIter E endType endTypeB fuel mode range d 1 fuel' mode' range' d'

theorem scanLoop_lastIter (fuel : Nat) (mode : ScanMode) (range : LexerRange) (c : ParserContext) :
    ∃ k fuel' mode' range' d, ScanIter E endType endTypeB fuel mode range c k fuel' mode' range' d ∧
      ScanLast E endType endTypeB fuel' mode' range' d := by
  induction fuel generalizing mode range c with
  | zero => exact ⟨0,0,mode,range,c,.start,fun _ _ _ _ h => nomatch h⟩
  | succ n ih =>
    have last : (ScanGoesOn endType endTypeB c →
        (∀ m c', scanDispatch E n endType c.token.type c.stack.stackTopUint8 mode c ≠ .ok (.again m,c')) ∧
        ∀ m c' c'', scanDispatch E n endType c.token.type c.stack.stackTopUint8 mode c = .ok (.next m,c') →
          lexerNextToken E c' ≠ .ok ((),c'')) → ScanLast E endType endTypeB (n + 1) mode range c :=
      fun stops _ _ _ _ h => by
        cases h with
        | again goesOn disp => exact (stops goesOn).1 _ _ disp
        | next goesOn disp lex => exact (stops goesOn).2 _ _ _ disp lex
    rcases scanLoop_trichotomy c with isEos | exits | goesOn
    · exact ⟨0,_,_,_,_,.start,last fun goesOn => nomatch goesOn.1.symm.trans isEos⟩
    · exact ⟨0,_,_,_,_,.start,last fun goesOn => nomatch goesOn.2.symm.trans exits.2⟩
    cases disp : scanDispatch E n endType c.token.type c.stack.stackTopUint8 mode c with
    | error f => exact ⟨0,_,_,_,_,.start,last fun _ => ⟨fun _ _ h => (nomatch h.symm.trans disp),
        fun _ _ _ h => (nomatch h.symm.trans disp)⟩⟩
    | ok p =>
      obtain ⟨next,c'⟩ := p
      cases next with
      | done => exact ⟨0,_,_,_,_,.start,last fun _ => ⟨fun _ _ h => (nomatch h.symm.trans disp),
          fun _ _ _ h => (nomatch h.symm.trans disp)⟩⟩
      | again m =>
        obtain ⟨k,fuel',mode',range',d,iter,stop⟩ := ih m range c'
        exact ⟨k + 1,fuel',mode',range',d,.again goesOn disp iter,stop⟩
      | next m =>
        cases lex : lexerNextToken E c' with
        | error f =>
          refine ⟨0,_,_,_,_,.start,last fun _ => ⟨fun _ _ h => (nomatch h.symm.trans disp),
            fun _ _ _ h h' => ?_⟩⟩
          cases h.symm.trans disp
          exact nomatch h'.symm.trans lex
        | ok q =>
          obtain ⟨⟨⟩,c''⟩ := q
          obtain ⟨k,fuel',mode',range',d,iter,stop⟩ := ih m { range with sourceEndP := c'.sourceP } c''
          exact ⟨k + 1,fuel',mode',range',d,.next goesOn disp lex iter,stop⟩
theorem ScanStart.run {fuel : Nat} {c0 : ParserContext} {endT endTB : LexerTokenType} {mode : ScanMode}
    (start : ScanStart E endType c0 endT endTB mode c) :
    parserScanUntil E fuel endType c0 = scanLoop E endT endTB fuel mode ⟨c0.sourceP,c0.sourceP⟩ c := by
  unfold parserScanUntil
  cases start with
  | switch isCase => simp only [bind_apply,get_apply,pure_bind,isCase,if_true]; rfl
  | first isCase lex isIn =>
    simp only [bind_apply,get_apply,pure_bind,isCase,isIn,lex,Bool.false_eq_true,if_false]; rfl
  | inFirst isCase lex isIn isVar =>
    simp only [bind_apply,get_apply,pure_bind,isCase,isIn,lex,isVar,Bool.false_eq_true,if_false,
      if_true]; rfl
  | inVar isCase lex isIn isVar lex' =>
    simp only [bind_apply,get_apply,pure_bind,isCase,isIn,lex,isVar,lex',Bool.false_eq_true,
      if_false,if_true]; rfl

end

def ScanFits (c0 : ParserContext) (switch : Bool) (mode : ScanMode) (c : ParserContext) : Prop :=
  ∃ bytes, ScanBytes c0 bytes c ∧ ModeFits switch mode bytes

section

variable {E : ParserEnv} {c0 c : ParserContext} {endType endTypeB : LexerTokenType}
  {bytes : List UInt8}

theorem ScanBytes.top (h : ScanBytes c0 bytes c) : c.stack.stackTopUint8 = bytes.headD scanStackHead :=
  congrArg ParserStack.stackTopUint8 h.2.2

theorem ScanBytes.read (h : ScanBytes c0 bytes c) {t : LexerToken} {p : Nat} :
    ScanBytes c0 bytes { c with token := t, sourceP := p } := h

theorem scanDispatch_post {n : Nat} {mode : ScanMode} {next : ScanNext} {c' : ParserContext}
    (fits : ScanFits c0 (endType == scanSwitch) mode c)
    (h : scanDispatch E n endType c.token.type c.stack.stackTopUint8 mode c = .ok (next,c')) :
    PassPost E.lexer c0 c (endType == scanSwitch) mode next c' := by
  obtain ⟨bytes,hs,hf⟩ := fits
  rw [hs.top] at h
  exact ((scanDispatch_pass n endType c.token.type rfl hf) c ⟨hs,Moved.refl _ _⟩).1 _ _ h

theorem scanIter_fits {fuel k fuel' : Nat} {mode mode' : ScanMode} {range range' : LexerRange}
    {d : ParserContext} (iter : ScanIter E endType endTypeB fuel mode range c k fuel' mode' range' d)
    (fits : ScanFits c0 (endType == scanSwitch) mode c) : ScanFits c0 (endType == scanSwitch) mode' d := by
  induction iter with
  | start => exact fits
  | again _ disp _ ih =>
    obtain ⟨bytes,hs,hf,-⟩ := scanDispatch_post fits disp
    exact ih ⟨bytes,hs,hf⟩
  | next _ disp lex _ ih =>
    obtain ⟨bytes,hs,hf,-⟩ := scanDispatch_post fits disp
    obtain ⟨t,p,-,rfl⟩ := lexerNextToken_ok lex
    exact ih ⟨bytes,hs.read,hf⟩

theorem scanBytes_start (same : frameState c = frameState c0) :
    ScanBytes c0 [] { c with stack := c.stack.pushUint8 scanStackHead } := by
  refine ⟨(congrArg Prod.snd same : (frameState c).2 = _),List.not_mem_nil _,?_⟩
  simp [ParserStack.pushUint8,show c.stack = c0.stack from congrArg Prod.fst same]

theorem scanStart_fits {endT endTB : LexerTokenType} {mode : ScanMode}
    (start : ScanStart E endType c0 endT endTB mode c) : ScanFits c0 (endT == scanSwitch) mode c := by
  cases start with
  | switch => exact ⟨[],scanBytes_start rfl,⟨nofun,nofun,nofun,nofun⟩⟩
  | first _ lex _ =>
    obtain ⟨t,p,-,rfl⟩ := lexerNextToken_ok lex
    exact ⟨[],scanBytes_start rfl,⟨nofun,nofun,fun _ => nofun,fun _ => bottomFits_nil⟩⟩
  | inFirst _ lex _ _ =>
    obtain ⟨t,p,-,rfl⟩ := lexerNextToken_ok lex
    exact ⟨[],scanBytes_start rfl,⟨nofun,nofun,fun _ => nofun,fun _ => bottomFits_nil⟩⟩
  | inVar _ lex _ _ lex' =>
    obtain ⟨t,p,-,rfl⟩ := lexerNextToken_ok lex
    obtain ⟨t',p',-,rfl⟩ := lexerNextToken_ok lex'
    exact ⟨[],scanBytes_start rfl,⟨nofun,nofun,fun _ => nofun,fun _ => bottomFits_nil⟩⟩

/-- Every run of `parser_scan_until` fails reading its first token or starts its loop, and from
each start it goes through iterations of its loop up to a last one, failing runs included. At
every iteration the stack has the mode's symbol on top: property names are read over
`SCAN_STACK_OBJECT_LITERAL`, function arguments over a block, and outside switch mode statement
mode never stands on `SCAN_STACK_HEAD`. The scanner's own bytes stay over the head and the stack it
started on, so its pops never reach a frame byte. -/
theorem scanModeStackCoupling (fuel : Nat) (endType : LexerTokenType) (c0 : ParserContext) :
    ((∃ f, parserScanUntil E fuel endType c0 = .error f ∧ ∃ e, f.abort = .error e) ∨
      ∃ endT endTB mode c, ScanStart E endType c0 endT endTB mode c) ∧
    ∀ endT endTB mode c, ScanStart E endType c0 endT endTB mode c →
      (∃ k fuel' mode' range' d,
        ScanIter E endT endTB fuel mode ⟨c0.sourceP,c0.sourceP⟩ c k fuel' mode' range' d ∧
        ScanLast E endT endTB fuel' mode' range' d) ∧
      ∀ k fuel' mode' range' d,
        ScanIter E endT endTB fuel mode ⟨c0.sourceP,c0.sourceP⟩ c k fuel' mode' range' d →
        parserScanUntil E fuel endType c0 = scanLoop E endT endTB fuel' mode' range' d ∧
        (mode' = .propertyName → d.stack.stackTopUint8 = scanStackObjectLiteral) ∧
        (mode' = .functionArguments → d.stack.stackTopUint8 = scanStackBlockStatement ∨
          d.stack.stackTopUint8 = scanStackBlockExpression ∨
          d.stack.stackTopUint8 = scanStackBlockProperty) ∧
        (endT ≠ scanSwitch → mode' = .statement → d.stack.stackTopUint8 ≠ scanStackHead) ∧
        ScanStack c0 d := by
  refine ⟨(parserScanUntil_start fuel endType c0).symm.imp id fun ⟨_,_,_,_,start,_⟩ =>
      ⟨_,_,_,_,start⟩,fun endT endTB mode c start => ⟨scanLoop_lastIter _ _ _ c,
      fun k fuel' mode' range' d iter => ⟨start.run.trans iter.loop,?_⟩⟩⟩
  obtain ⟨bytes,hs,hf⟩ := scanIter_fits iter (scanStart_fits start)
  refine ⟨fun h => ?_,fun h => ?_,fun notSwitch h => ?_,scanStack_iff.mpr ⟨bytes,hs⟩⟩
  · rw [hs.top,List.headD_eq_head?_getD,hf.propertyName h]; rfl
  · obtain ⟨b,head,block⟩ := hf.functionArguments h
    rw [hs.top,List.headD_eq_head?_getD,head]
    simpa [isBlockSymbol,or_assoc] using block
  · obtain ⟨x,rest,rfl⟩ := List.exists_cons_of_ne_nil (hf.statement (by simpa using notSwitch) h)
    rw [hs.top]
    rintro rfl
    exact hs.2.1 (List.mem_cons_self _ _)

def objectSource : List SourceLexeme :=
  [pu leftParen,pu leftBrace,kw "a",pu colon,num,pu rightBrace,pu rightParen]

theorem scanModeStackCoupling_object :
    ∃ endT endTB mode c k fuel' mode' range d,
      ScanStart (sampleEnv objectSource) rightParen (sampleContext objectSource programFlags) endT endTB
        mode c ∧
      ScanIter (sampleEnv objectSource) endT endTB 8 mode ⟨1,1⟩ c k fuel' mode' range d ∧
      mode' = .propertyName ∧
      (parserScanUntil (sampleEnv objectSource) 8 rightParen (sampleContext objectSource programFlags) =
          scanLoop (sampleEnv objectSource) endT endTB fuel' mode' range d ∧
        (mode' = .propertyName → d.stack.stackTopUint8 = scanStackObjectLiteral) ∧
        (mode' = .functionArguments → d.stack.stackTopUint8 = scanStackBlockStatement ∨
          d.stack.stackTopUint8 = scanStackBlockExpression ∨
          d.stack.stackTopUint8 = scanStackBlockProperty) ∧
        (endT ≠ scanSwitch → mode' = .statement → d.stack.stackTopUint8 ≠ scanStackHead) ∧
        ScanStack (sampleContext objectSource programFlags) d) := by
  have start : ScanStart (sampleEnv objectSource) rightParen (sampleContext objectSource programFlags)
      _ _ _ _ := .first rfl rfl rfl
  refine ⟨_,_,_,_,_,_,_,_,_,start,.again ⟨rfl,rfl⟩ rfl .start,rfl,?_⟩
  exact (scanModeStackCoupling 8 rightParen _).2 _ _ _ _ start |>.2 _ _ _ _ _
    (by exact .again ⟨rfl,rfl⟩ rfl .start : ScanIter _ _ _ 8 _ ⟨1,1⟩ _ _ _ _ _ _)

end

def LexerRead (lx : Lexer) (c : ParserContext) : Prop :=
  ∃ q, LexerReads lx c.sourceEndP q c.token c.sourceP

section

variable {E : ParserEnv} {c0 c : ParserContext} {endType endTypeB : LexerTokenType}

theorem Moved.read {lx : Lexer} {c' : ParserContext} (h : Moved lx c c') (read : LexerRead lx c) :
    LexerRead lx c' := by
  rcases h with ⟨tok,pos,e⟩ | ⟨e,chain⟩
  · rw [LexerRead,tok,pos,e]; exact read
  · cases chain with
    | one r => exact ⟨_,e ▸ r⟩
    | more _ r => exact ⟨_,e ▸ r⟩

theorem ScanBytes.top_ne {bytes : List UInt8} (h : ScanBytes c0 bytes c) (ne : bytes ≠ []) :
    c.stack.stackTopUint8 ≠ scanStackHead := by
  obtain ⟨x,rest,rfl⟩ := List.exists_cons_of_ne_nil ne
  rw [h.top]
  rintro rfl
  exact h.2.1 (List.mem_cons_self _ _)

theorem ScanIter.zero {fuel fuel' : Nat} {mode mode' : ScanMode} {range range' : LexerRange}
    {d : ParserContext} (iter : ScanIter E endType endTypeB fuel mode range c 0 fuel' mode' range' d) :
    range' = range ∧ d = c := by
  cases iter
  exact ⟨rfl,rfl⟩

theorem scanIter_range {fuel k fuel' : Nat} {mode mode' : ScanMode} {range range' : LexerRange}
    {d : ParserContext} (notSwitch : (endType == scanSwitch) = false)
    (iter : ScanIter E endType endTypeB fuel mode range c k fuel' mode' range' d)
    (fits : ScanFits c0 false mode c) (read : LexerRead E.lexer c) :
    LexerRead E.lexer d ∧ range'.sourceP = range.sourceP ∧ d.sourceEndP = c.sourceEndP ∧
      (0 < k → d.stack.stackTopUint8 ≠ scanStackHead ∨
        E.lexer.nextToken range'.sourceEndP d.sourceEndP = .ok (d.token,d.sourceP) ∧
          ∃ q t, LexerReads E.lexer d.sourceEndP q t range'.sourceEndP) := by
  induction iter with
  | start => exact ⟨read,rfl,rfl,fun h => absurd h (Nat.lt_irrefl 0)⟩
  | @again _ k _ _ _ _ _ _ c c' _ _ disp rest ih =>
    obtain ⟨bytes,hs,hf,moved,ne⟩ := notSwitch ▸ scanDispatch_post (notSwitch ▸ fits) disp
    have moved' : Moved E.lexer c c' := moved.imp (fun h => h.1) id
    obtain ⟨read',start,sameEnd,last⟩ := ih ⟨bytes,hs,hf⟩ (moved'.read read)
    refine ⟨read',start,sameEnd.trans (moved'.inside_end),fun _ => ?_⟩
    rcases Nat.eq_zero_or_pos k with rfl | pos
    · obtain ⟨rfl,rfl⟩ := rest.zero
      exact .inl (hs.top_ne (ne rfl))
    · exact last pos
  | @next _ k _ _ _ _ _ _ c c' c'' _ _ disp lex rest ih =>
    obtain ⟨bytes,hs,hf,moved⟩ := notSwitch ▸ scanDispatch_post (notSwitch ▸ fits) disp
    obtain ⟨t,p,r,rfl⟩ := lexerNextToken_ok lex
    obtain ⟨read',start,sameEnd,last⟩ := ih ⟨bytes,hs.read,hf⟩ ⟨_,.inl r⟩
    refine ⟨read',start,sameEnd.trans moved.inside_end,fun _ => ?_⟩
    rcases Nat.eq_zero_or_pos k with rfl | pos
    · obtain ⟨rfl,rfl⟩ := rest.zero
      obtain ⟨q,r'⟩ := moved.read read
      exact .inr ⟨r,q,_,r'⟩
    · exact last pos

theorem scanStart_read {endType endT endTB : LexerTokenType} {mode : ScanMode}
    (notCase : (endType == keywCase) = false) (start : ScanStart E endType c0 endT endTB mode c) :
    endT = endType ∧ LexerRead E.lexer c := by
  cases start with
  | switch isCase => cases notCase.symm.trans isCase
  | first _ lex _ =>
    obtain ⟨t,p,r,rfl⟩ := lexerNextToken_ok lex
    exact ⟨rfl,_,.inl r⟩
  | inFirst _ lex _ _ =>
    obtain ⟨t,p,r,rfl⟩ := lexerNextToken_ok lex
    exact ⟨rfl,_,.inl r⟩
  | inVar _ _ _ _ lex =>
    obtain ⟨t,p,r,rfl⟩ := lexerNextToken_ok lex
    exact ⟨rfl,_,.inl r⟩

/-- For `)`, `;` and `in`, the range `parser_scan_until` returns starts where the scan started,
and either the terminator was the first token it read and the range is empty, or the range ends
where the lexer stopped after a token and reads the terminator next: re-lexing the range sees the
scanned tokens and then its end. -/
theorem scanRangeCoversTokens {fuel : Nat} {endType : LexerTokenType} {range : LexerRange}
    {c' : ParserContext} (endTypes : endType = rightParen ∨ endType = semicolon ∨ endType = keywIn)
    (ok : parserScanUntil E fuel endType c0 = .ok (range,c')) :
    range.sourceP = c0.sourceP ∧
      ((∃ endT endTB mode c, ScanStart E endType c0 endT endTB mode c ∧ ScanExits endT endTB c ∧
          range.sourceEndP = c0.sourceP) ∨
        E.lexer.nextToken range.sourceEndP c'.sourceEndP = .ok (c'.token,c'.sourceP) ∧
        ∃ q t, LexerReads E.lexer c'.sourceEndP q t range.sourceEndP) := by
  have notCase : (endType == keywCase) = false := by rcases endTypes with rfl | rfl | rfl <;> rfl
  have notSwitch : (endType == scanSwitch) = false := by rcases endTypes with rfl | rfl | rfl <;> rfl
  rcases parserScanUntil_start fuel endType c0 with ⟨endT,endTB,mode,c,start,run⟩ | ⟨f,err,_⟩
  swap
  · cases ok.symm.trans err
  rw [run] at ok
  obtain ⟨rfl,read⟩ := scanStart_read notCase start
  obtain ⟨k,n,mode',d,iter,last⟩ := scanLoop_ok_iter ok
  obtain ⟨-,rangeStart,-,covers⟩ :=
    scanIter_range notSwitch iter (notSwitch ▸ scanStart_fits start) read
  rcases last with ⟨exits,pop⟩ | ⟨_,disp⟩
  swap
  · have switch : (endT == scanSwitch) = true :=
      scanDispatch_post (scanIter_fits iter (scanStart_fits start)) disp
    cases notSwitch.symm.trans switch
  obtain ⟨s,-,rfl⟩ := parserStackPopUint8_ok pop
  refine ⟨rangeStart,?_⟩
  rcases Nat.eq_zero_or_pos k with rfl | passed
  · obtain ⟨rfl,rfl⟩ := iter.zero
    exact .inl ⟨_,_,_,_,start,exits,rfl⟩
  refine .inr ((covers passed).resolve_left fun ne => ne ?_)
  have head := exits.2
  simp only [Bool.and_eq_true,beq_iff_eq] at head
  exact head.1

def parenSource : List SourceLexeme := [pu leftParen,kw "a",pu rightParen]

theorem scanRangeCoversTokens_paren :
    ∃ range c', parserScanUntil (sampleEnv parenSource) 4 rightParen
        (sampleContext parenSource programFlags) = .ok (range,c') ∧ range.sourceEndP ≠ 1 ∧
      (range.sourceP = (sampleContext parenSource programFlags).sourceP ∧
        ((∃ endT endTB mode c, ScanStart (sampleEnv parenSource) rightParen
            (sampleContext parenSource programFlags) endT endTB mode c ∧ ScanExits endT endTB c ∧
            range.sourceEndP = (sampleContext parenSource programFlags).sourceP) ∨
          (sampleEnv parenSource).lexer.nextToken range.sourceEndP c'.sourceEndP =
            .ok (c'.token,c'.sourceP) ∧
          ∃ q t, LexerReads (sampleEnv parenSource).lexer c'.sourceEndP q t range.sourceEndP)) :=
  ⟨_,_,rfl,by decide,scanRangeCoversTokens (.inl rfl)
    (show parserScanUntil (sampleEnv parenSource) 4 rightParen _ = _ from rfl)⟩

end

def Fueled {α : Type} (P : ParserContext → Prop) (m : ParserM α) (R : α → ParserContext → Prop) :
    Prop :=
  ∀ c, P c → (∀ a c', m c = .ok (a,c') → R a c') ∧ ∀ f, m c = .error f → f.abort ≠ .outOfFuel

def FuelFree {α : Type} (m : ParserM α) : Prop := Fueled (fun _ => True) m fun _ _ => True

section

variable {α β : Type} {E : ParserEnv} {P : ParserContext → Prop} {R : α → ParserContext → Prop}

theorem Triple.fueled {Q : ParserContext → Prop} {m : ParserM α} (hm : Triple P m R Q)
    (fuel : ∀ c, P c → ∀ f, m c = .error f → f.abort ≠ .outOfFuel) : Fueled P m R :=
  fun c hc => ⟨(hm c hc).1,fuel c hc⟩

theorem Fueled.bind {m : ParserM α} {k : α → ParserM β} {S : β → ParserContext → Prop}
    (hm : Fueled P m R) (hk : ∀ a, Fueled (R a) (k a) S) : Fueled P (m >>= k) S := by
  intro c hc
  refine ⟨fun b c'' h => ?_,fun f h => ?_⟩
  · obtain ⟨a,c',first,rest⟩ := bind_ok.mp h
    exact (hk a c' ((hm c hc).1 a c' first)).1 b c'' rest
  · rcases bind_error.mp h with first | ⟨a,c',first,rest⟩
    · exact (hm c hc).2 f first
    · exact (hk a c' ((hm c hc).1 a c' first)).2 f rest

theorem Fueled.weaken {P' : ParserContext → Prop} {R' : α → ParserContext → Prop} {m : ParserM α}
    (hm : Fueled P m R) (hP : ∀ c, P' c → P c) (hR : ∀ a c, R a c → R' a c) : Fueled P' m R' :=
  fun c hc => ⟨fun a c' h => hR a c' ((hm c (hP c hc)).1 a c' h),(hm c (hP c hc)).2⟩

theorem fueled_pure (a : α) (h : ∀ c, P c → R a c) : Fueled P (pure a) R :=
  (triple_pure (Q := fun _ => True) a h).fueled fun _ _ _ h => nomatch h

theorem fueled_get_at {k : ParserContext → ParserM α}
    (hk : ∀ d, P d → Fueled (fun c => c = d) (k d) R) : Fueled P (get >>= k) R :=
  fun c hc => hk c hc c rfl

theorem fueled_get_of {k : ParserContext → ParserM α} (hk : ∀ d, P d → Fueled P (k d) R) :
    Fueled P (get >>= k) R :=
  fun c hc => hk c hc c hc

theorem fueled_ite {p : Prop} [Decidable p] {m m' : ParserM α} (hm : p → Fueled P m R)
    (hm' : ¬p → Fueled P m' R) : Fueled P (if p then m else m') R := by
  split
  · exact hm ‹_›
  · exact hm' ‹_›

theorem fueled_raiseError (e : ParserError) : Fueled P (parserRaiseError e : ParserM α) R :=
  fun _ _ => ⟨fun _ _ h => (nomatch h),fun _ h => by cases h; exact nofun⟩

theorem fueled_raiseError_bind (e : ParserError) (k : α → ParserM β) {S : β → ParserContext → Prop} :
    Fueled P (parserRaiseError e >>= k) S :=
  fun _ _ => ⟨fun _ _ h => (nomatch h),fun _ h => by cases h; exact nofun⟩

theorem fueled_assert_bind (b : Bool) {k : Unit → ParserM α} (hk : b = true → Fueled P (k ()) R) :
    Fueled P (parserAssert b >>= k) R := by
  cases b with
  | false => exact fun _ _ => ⟨fun _ _ h => (nomatch h),fun _ h => by cases h; exact nofun⟩
  | true => exact hk rfl

theorem fueled_lexer {step : ParserContext → Except ParserError (LexerToken × Nat)}
    {R : Unit → ParserContext → Prop}
    (hR : ∀ c t p, P c → step c = .ok (t,p) → R () { c with token := t, sourceP := p }) :
    Fueled P (get >>= fun ctx => lexerStep (step ctx)) R := by
  refine fun c hc => ⟨fun _ c' h => ?_,fun f h => ?_⟩
  · obtain ⟨t,p,r,rfl⟩ := lexerStep_ok h
    exact hR _ t p hc r
  · obtain ⟨e,raised⟩ := lexerStep_error h
    rw [raised]
    exact nofun

theorem Fueled.map {m : ParserM α} {g : α → β} (hm : Fueled P m R) :
    Fueled P (g <$> m) (fun b c => ∃ a, g a = b ∧ R a c) :=
  show Fueled P (m >>= fun a => pure (g a)) _ from
    hm.bind fun a => fueled_pure _ fun _ hc => ⟨a,rfl,hc⟩

theorem FuelFree.bind {m : ParserM α} {k : α → ParserM β} (hm : FuelFree m)
    (hk : ∀ a, FuelFree (k a)) : FuelFree (m >>= k) :=
  Fueled.bind hm hk

theorem fuelFree_pure (a : α) : FuelFree (pure a) := fueled_pure a fun _ _ => trivial

theorem fuelFree_get : FuelFree (get : ParserM ParserContext) :=
  (triple_get (Q := fun _ => True) fun _ _ => trivial).fueled fun _ _ _ h => nomatch h

theorem fuelFree_ite {p : Prop} [Decidable p] {m m' : ParserM α} (hm : FuelFree m)
    (hm' : FuelFree m') : FuelFree (if p then m else m') :=
  fueled_ite (fun _ => hm) fun _ => hm'

theorem fuelFree_raiseError (e : ParserError) : FuelFree (parserRaiseError e : ParserM α) :=
  fueled_raiseError e

theorem fuelFree_push (b : UInt8) : FuelFree (parserStackPushUint8 b) :=
  (triple_modify (Q := fun _ => True) fun _ _ => trivial).fueled fun _ _ _ h => nomatch h

theorem fuelFree_pop : FuelFree (parserStackPopUint8 E) := fun c _ =>
  ⟨fun _ _ _ => trivial,fun _ h => by rw [parserStackPopUint8_error h]; exact nofun⟩

theorem fuelFree_assert (b : Bool) : FuelFree (parserAssert b) := by
  cases b <;> exact fun _ _ => ⟨fun _ _ _ => trivial,fun _ h => by cases h <;> exact nofun⟩

theorem fuelFree_lexer (step : ParserContext → Except ParserError (LexerToken × Nat)) :
    FuelFree (get >>= fun ctx => lexerStep (step ctx)) :=
  fueled_lexer fun _ _ _ _ _ => trivial

theorem fuelFree_nextToken : FuelFree (lexerNextToken E) := fuelFree_lexer _

theorem fuelFree_scanIdentifier (b : Bool) : FuelFree (lexerScanIdentifier E b) := fuelFree_lexer _

theorem fuelFree_constructRegexp : FuelFree (lexerConstructRegexpObject E) := fuelFree_lexer _

theorem FuelFree.map {m : ParserM α} {g : α → β} (hm : FuelFree m) : FuelFree (g <$> m) :=
  (Fueled.map hm).weaken (fun _ h => h) fun _ _ _ => trivial

theorem fuelFree_scanHelpers (type endType : LexerTokenType) (stackTop : UInt8) :
    FuelFree (parserScanPrimaryExpression E type stackTop) ∧
      FuelFree (parserScanPostPrimaryExpression E type .postPrimaryExpression) ∧
      FuelFree (parserScanPrimaryExpressionEnd E type stackTop endType) ∧
      FuelFree (parserScanStatement E type stackTop .statement) ∧
      FuelFree (scanPropertyName E stackTop) := by
  refine ⟨?_,?_,?_,?_,?_⟩
  all_goals first
    | unfold parserScanPrimaryExpression; split
    | unfold parserScanPostPrimaryExpression; split
    | unfold parserScanPrimaryExpressionEnd
    | unfold parserScanStatement; split
    | unfold scanPropertyName
  all_goals repeat' first
    | with_reducible exact fuelFree_pure _
    | with_reducible exact fuelFree_get
    | with_reducible exact fuelFree_assert _
    | with_reducible exact fuelFree_raiseError _
    | with_reducible exact fuelFree_pop
    | with_reducible exact fuelFree_push _
    | with_reducible exact fuelFree_nextToken
    | with_reducible exact fuelFree_scanIdentifier _
    | with_reducible exact fuelFree_constructRegexp
    | with_reducible refine fuelFree_ite ?_ ?_
    | with_reducible refine FuelFree.bind ?_ fun _ => ?_

end

def FuelRoom (e n : Nat) (c : ParserContext) : Prop :=
  c.sourceEndP = e ∧ c.sourceP ≤ e ∧ e - c.sourceP < n

section

variable {E : ParserEnv} {e : Nat} (fin : LexerFinite E.lexer e)
include fin

theorem fueled_nextToken_room {n : Nat} :
    Fueled (FuelRoom e n) (lexerNextToken E) (fun _ => FuelRoom e n) :=
  fueled_lexer fun c _ _ ⟨he,le,lt⟩ r => by
    rw [he] at r
    rcases fin le (.inl r) with ⟨lt',le'⟩ | ⟨-,rfl⟩ <;> exact ⟨he,by simp only; omega,by simp only; omega⟩

theorem scanArgumentList_fueled (n : Nat) :
    Fueled (FuelRoom e n) (scanArgumentList E n) (fun _ => FuelRoom e n) := by
  induction n with
  | zero => exact fun _ ⟨_,_,h⟩ => absurd h (Nat.not_lt_zero _)
  | succ n ih =>
    have first : Fueled (FuelRoom e (n + 1)) (lexerNextToken E) fun _ c =>
        c.sourceEndP = e ∧ c.sourceP ≤ e ∧ (c.token.type = eos ∧ c.sourceP = e ∨ e - c.sourceP < n) :=
      fueled_lexer fun c _ _ ⟨he,le,lt⟩ r => by
        rw [he] at r
        rcases fin le (.inl r) with ⟨lt',le'⟩ | ⟨isEos,rfl⟩
        · exact ⟨he,le',.inr (by simp only; omega)⟩
        · exact ⟨he,le_refl _,.inl ⟨isEos,rfl⟩⟩
    unfold scanArgumentList
    dsimp only
    simp only [pure_bind]
    refine fueled_get_of fun _ _ => fueled_ite (fun _ => fueled_raiseError_bind _ _) fun _ =>
      first.bind fun _ => fueled_get_at fun d ⟨he,le,room⟩ => fueled_ite
        (fun _ => fueled_pure _ fun c h => h ▸ ⟨he,le,by rcases room with ⟨-,rfl⟩ | room <;> omega⟩)
        fun comma => ?_
    have room' : FuelRoom e n d := by
      refine ⟨he,le,room.resolve_left fun ⟨isEos,_⟩ => comma ?_⟩
      rw [isEos]
      rfl
    exact (fueled_nextToken_room fin).bind (fun _ => ih.weaken (fun _ h => h)
      fun _ _ ⟨he,le,lt⟩ => ⟨he,le,by omega⟩) |>.weaken (fun _ h => h ▸ room') fun _ _ h => h

theorem scanFunctionArguments_fueled (n : Nat) (stackTop : UInt8) :
    Fueled (FuelRoom e n) (scanFunctionArguments E n stackTop) (fun _ _ => True) := by
  unfold scanFunctionArguments
  dsimp only
  simp only [pure_bind]
  refine fueled_assert_bind _ fun _ => ?_
  repeat' first
    | with_reducible refine fueled_get_of fun _ _ => ?_
    | with_reducible refine fueled_ite (fun _ => ?_) fun _ => ?_
    | with_reducible exact fueled_raiseError_bind _ _
    | with_reducible exact fueled_raiseError _
    | with_reducible exact fueled_pure _ fun _ _ => trivial
    | with_reducible refine (fueled_nextToken_room fin).bind fun _ => ?_
    | with_reducible refine (scanArgumentList_fueled fin n).bind fun _ => ?_

theorem scanDispatch_fueled {n : Nat} {endType type : LexerTokenType} {stackTop : UInt8}
    {mode : ScanMode} {d : ParserContext} (room : FuelRoom e n d) {f : ParserFailure}
    (h : scanDispatch E n endType type stackTop mode d = .error f) : f.abort ≠ .outOfFuel := by
  obtain ⟨primary,post,primaryEnd,statement,property⟩ := @fuelFree_scanHelpers E type endType stackTop
  cases mode with
  | primaryExpression => exact ((fuelFree_ite (fuelFree_pure _) primary.map) d trivial).2 f h
  | primaryExpressionAfterNew => exact (primary.map d trivial).2 f h
  | postPrimaryExpression =>
    refine ((post.bind fun ⟨advance,_⟩ => ?_) d trivial).2 f h
    cases advance
    · exact primaryEnd.map
    · exact fuelFree_pure _
  | primaryExpressionEnd => exact (primaryEnd.map d trivial).2 f h
  | statement =>
    exact ((fuelFree_ite (fuelFree_pop.bind fun _ => fuelFree_pure _) statement.map) d trivial).2 f h
  | functionArguments =>
    exact (((scanFunctionArguments_fueled fin n stackTop).bind fun _ =>
      (fuelFree_pure _ : FuelFree (pure (ScanNext.next .statement)))) d room).2 f h
  | propertyName => exact (property.map d trivial).2 f h

end

section

variable {src : List SourceLexeme} {e p : Nat}

theorem regexpEnd_bounds : ∀ {l : List SourceLexeme} {p q : Nat}, regexpEnd l p = some q →
    p < q ∧ q ≤ p + l.length
  | [],_,_,h => nomatch h
  | l :: rest,p,q,h => by
    unfold regexpEnd at h
    split_ifs at h
    · cases h
      simp only [List.length_cons]
      omega
    · have := regexpEnd_bounds h
      simp only [List.length_cons]
      omega

theorem lexemeAt_lt {l : SourceLexeme} (h : lexemeAt src p e = some l) : p < e := by
  unfold lexemeAt at h
  split_ifs at h with lt
  exact lt

theorem lexemeAt_none (h : lexemeAt src p e = none) (le : e ≤ src.length) : e ≤ p := by
  unfold lexemeAt at h
  split_ifs at h with lt
  · rw [List.getElem?_eq_none_iff] at h
    omega
  · omega

theorem lexemeNextToken_advance (le : e ≤ src.length) {t : LexerToken} {p' : Nat} (hp : p ≤ e)
    (h : lexemeNextToken src p e = .ok (t,p')) : Advance e p t p' := by
  unfold lexemeNextToken at h
  split at h
  · cases h
    exact .inr ⟨rfl,by have := lexemeAt_none ‹_› le; omega⟩
  · simp only [Except.ok.injEq,Prod.mk.injEq] at h
    obtain ⟨-,rfl⟩ := h
    exact .inl ⟨by omega,lexemeAt_lt ‹_›⟩

theorem lexemeLexer_finite (le : e ≤ src.length) : LexerFinite (lexemeLexer src) e := by
  rintro p t p' hp (read | ⟨b,read⟩ | ⟨tok,read⟩)
  · exact lexemeNextToken_advance le hp read
  · simp only [lexemeLexer,lexemeScanIdentifier] at read
    split at read
    · split_ifs at read <;> simp only [Except.ok.injEq,Prod.mk.injEq] at read <;> obtain ⟨-,rfl⟩ := read <;>
        exact .inl ⟨by omega,lexemeAt_lt ‹_›⟩
    · split_ifs at read
      exact lexemeNextToken_advance le hp read
  · simp only [lexemeLexer,lexemeConstructRegexp] at read
    split at read
    · simp only [Except.ok.injEq,Prod.mk.injEq] at read
      obtain ⟨-,rfl⟩ := read
      have := regexpEnd_bounds ‹_›
      simp only [List.length_drop,List.length_take] at this
      exact .inl ⟨this.1,by omega⟩
    · cases read

end

section

variable {E : ParserEnv} {e : Nat} {endType endTypeB : LexerTokenType} {c0 c : ParserContext}

theorem ScanMode.rank_le (m : ScanMode) : m.rank ≤ 3 := by
  cases m <;> decide

theorem Advance.le {p p' : Nat} {t : LexerToken} (h : Advance e p t p') (le : p ≤ e) :
    p ≤ p' ∧ p' ≤ e := by
  rcases h with ⟨lt,le'⟩ | ⟨-,rfl⟩ <;> omega

theorem scanMeasure_drop (fin : LexerFinite E.lexer e) (he : c.sourceEndP = e) (le : c.sourceP ≤ e)
    (notEos : c.token.type ≠ eos) {m m' : ScanMode} {c' : ParserContext}
    (h : Stays c c' ∧ m'.rank < m.rank ∨ MovedOn E.lexer c c') :
    scanMeasure m' c' < scanMeasure m c ∧ c'.sourceEndP = e ∧ c'.sourceP ≤ e := by
  have rank := m'.rank_le
  rcases h with ⟨⟨tok,pos,en⟩,lower⟩ | ⟨en,chain⟩
  · simp only [scanMeasure,tok,pos,en,notEos,if_false]
    exact ⟨by omega,he,le⟩
  · rw [he] at chain
    have en' := en.trans he
    rcases fin.readsOn le chain with ⟨lt,le'⟩ | ⟨isEos,rfl⟩
    · refine ⟨?_,en',le'⟩
      simp only [scanMeasure,notEos,if_false,en',he]
      split_ifs <;> omega
    · refine ⟨?_,en',le_refl _⟩
      simp only [scanMeasure,isEos,notEos,if_true,if_false]
      omega

theorem scanIter_measure (fin : LexerFinite E.lexer e) {fuel k fuel' : Nat} {mode mode' : ScanMode}
    {range range' : LexerRange} {d : ParserContext}
    (iter : ScanIter E endType endTypeB fuel mode range c k fuel' mode' range' d)
    (fits : ScanFits c0 (endType == scanSwitch) mode c) (he : c.sourceEndP = e) (le : c.sourceP ≤ e) :
    k + scanMeasure mode' d ≤ scanMeasure mode c ∧ fuel' + k = fuel ∧ d.sourceEndP = e ∧
      d.sourceP ≤ e := by
  induction iter with
  | start => exact ⟨by omega,rfl,he,le⟩
  | again goesOn disp _ ih =>
    obtain ⟨bytes,hs,hf,moved,-⟩ := scanDispatch_post fits disp
    obtain ⟨drop,he',le'⟩ := scanMeasure_drop fin he le (by simpa using goesOn.1) moved
    obtain ⟨total,spent,rest⟩ := ih ⟨bytes,hs,hf⟩ he' le'
    exact ⟨by omega,by omega,rest⟩
  | @next _ _ _ mode mode' _ _ _ c c' _ _ goesOn disp lex _ ih =>
    obtain ⟨bytes,hs,hf,moved⟩ := scanDispatch_post fits disp
    obtain ⟨t,p,r,rfl⟩ := lexerNextToken_ok lex
    obtain ⟨drop,he',le'⟩ := scanMeasure_drop fin he le (by simpa using goesOn.1)
      (.inr (moved.advance (.inl r)) : Stays c _ ∧ mode'.rank < mode.rank ∨ MovedOn E.lexer c _)
    obtain ⟨total,spent,rest⟩ := ih ⟨bytes,hs.read,hf⟩ he' le'
    exact ⟨by omega,by omega,rest⟩

theorem scanStart_inside {endT endTB : LexerTokenType} {mode : ScanMode}
    (fin : LexerFinite E.lexer c0.sourceEndP) (inside : c0.sourceP ≤ c0.sourceEndP)
    (start : ScanStart E endType c0 endT endTB mode c) :
    c.sourceEndP = c0.sourceEndP ∧ c0.sourceP ≤ c.sourceP ∧ c.sourceP ≤ c0.sourceEndP ∧
      mode.rank ≤ 2 := by
  cases start with
  | switch => exact ⟨rfl,le_refl _,inside,by decide⟩
  | first _ lex _ =>
    obtain ⟨t,p,r,rfl⟩ := lexerNextToken_ok lex
    have := (fin inside (.inl r)).le inside
    exact ⟨rfl,this.1,this.2,by decide⟩
  | inFirst _ lex _ _ =>
    obtain ⟨t,p,r,rfl⟩ := lexerNextToken_ok lex
    have := (fin inside (.inl r)).le inside
    exact ⟨rfl,this.1,this.2,by decide⟩
  | inVar _ lex _ _ lex' =>
    obtain ⟨t,p,r,rfl⟩ := lexerNextToken_ok lex
    have first : c0.sourceP ≤ p ∧ p ≤ c0.sourceEndP := (fin inside (.inl r)).le inside
    obtain ⟨t',p',r',rfl⟩ := lexerNextToken_ok lex'
    have second : p ≤ p' ∧ p' ≤ c0.sourceEndP := (fin first.2 (.inl r')).le first.2
    exact ⟨rfl,show c0.sourceP ≤ p' by omega,second.2,by decide⟩

/-- On a finite source `parser_scan_until` terminates: with fuel above four times the source
left, every failure is for another reason than running out of fuel. Each pass of its loop reads
on, or stays on its token and hands on a mode of lower rank. -/
theorem scanUntilTerminates {fuel : Nat} {f : ParserFailure}
    (fin : LexerFinite E.lexer c0.sourceEndP) (inside : c0.sourceP ≤ c0.sourceEndP)
    (enough : 4 * (c0.sourceEndP - c0.sourceP) + 4 ≤ fuel)
    (run : parserScanUntil E fuel endType c0 = .error f) : f.abort ≠ .outOfFuel := by
  intro fuelOut
  rcases parserScanUntil_start fuel endType c0 with ⟨endT,endTB,mode,c,start,eq⟩ | ⟨_,eq,_,raised⟩
  · rw [eq] at run
    obtain ⟨k,fuel',mode',range',d,iter,out⟩ := scanLoop_outOfFuel_iter run fuelOut
    obtain ⟨he,after,le,rank⟩ := scanStart_inside fin inside start
    obtain ⟨total,spent,he',le'⟩ := scanIter_measure fin iter (scanStart_fits start) he le
    have atStart : scanMeasure mode c ≤ 4 * (c0.sourceEndP - c0.sourceP) + 3 := by
      unfold scanMeasure
      split_ifs <;> omega
    rcases out with rfl | ⟨n,rfl,goesOn,disp⟩
    · omega
    · refine scanDispatch_fueled fin ⟨he',le',?_⟩ disp fuelOut
      have left : scanMeasure mode' d = 4 * (c0.sourceEndP - d.sourceP) + mode'.rank + 1 := by
        simp only [scanMeasure,(by simpa using goesOn.1 : d.token.type ≠ eos),if_false,he']
      omega
  · rw [eq] at run
    cases run
    rw [raised] at fuelOut
    cases fuelOut

def unclosedSource : List SourceLexeme := [pu leftParen,kw "a"]

theorem scanUntilTerminates_unclosed :
    ∃ f, parserScanUntil (sampleEnv unclosedSource) 8 rightParen
        (sampleContext unclosedSource programFlags) = .error f ∧ f.abort ≠ .outOfFuel := by
  have run : parserScanUntil (sampleEnv unclosedSource) 8 rightParen
      (sampleContext unclosedSource programFlags) = .error _ := rfl
  exact ⟨_,run,scanUntilTerminates (lexemeLexer_finite (le_refl _)) (by decide) (by decide) run⟩

end

end JerryParser
