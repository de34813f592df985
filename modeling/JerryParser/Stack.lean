import JerryParser.Lexer

/-! The parser's byte stack (js-parser-mem.c is not in the sources). Records pushed by
`parser_stack_push` stay records here, each as many bytes long as the layout says; bytes pushed
by `parser_stack_push_uint8` stay bytes. A read or write that does not land on an item of the
right kind is undefined (`none`). Pages are not modelled: only byte heights are. -/
namespace JerryParser

def parserStatementStart : UInt8 := 0
def parserStatementBlock : UInt8 := 1
def parserStatementLabel : UInt8 := 2
def parserStatementIf : UInt8 := 3
def parserStatementElse : UInt8 := 4
def parserStatementSwitch : UInt8 := 5
def parserStatementSwitchNoDefault : UInt8 := 6
def parserStatementDoWhile : UInt8 := 7
def parserStatementWhile : UInt8 := 8
def parserStatementFor : UInt8 := 9
def parserStatementForIn : UInt8 := 10
def parserStatementWith : UInt8 := 11
def parserStatementTry : UInt8 := 12

structure ParserBranch where
  offset : Nat
  highestBit : Bool
  deriving DecidableEq, Repr, Inhabited

structure ParserLoopStatement where
  branchListP : Option Nat
  deriving DecidableEq, Repr

structure ParserLabelStatement where
  labelIdent : LexerLitLocation
  breakListP : Option Nat
  deriving DecidableEq, Repr

structure ParserIfElseStatement where
  branch : ParserBranch
  deriving DecidableEq, Repr

structure ParserSwitchStatement where
  defaultBranch : ParserBranch
  branchListP : Option Nat
  deriving DecidableEq, Repr

structure ParserDoWhileStatement where
  startOffset : Nat
  deriving DecidableEq, Repr

structure ParserWhileStatement where
  branch : ParserBranch
  conditionRange : LexerRange
  startOffset : Nat
  deriving DecidableEq, Repr

structure ParserForStatement where
  branch : ParserBranch
  conditionRange : LexerRange
  expressionRange : LexerRange
  startOffset : Nat
  deriving DecidableEq, Repr

structure ParserForInStatement where
  branch : ParserBranch
  startOffset : Nat
  deriving DecidableEq, Repr

structure ParserWithStatement where
  branch : ParserBranch
  deriving DecidableEq, Repr

inductive ParserTryBlockType where
  | tryBlock | catchBlock | finallyBlock
  deriving DecidableEq, Repr

structure ParserTryStatement where
  type : ParserTryBlockType
  branch : ParserBranch
  deriving DecidableEq, Repr

inductive ParserRecord where
  | loopStatement (r : ParserLoopStatement)
  | labelStatement (r : ParserLabelStatement)
  | ifElseStatement (r : ParserIfElseStatement)
  | switchStatement (r : ParserSwitchStatement)
  | doWhileStatement (r : ParserDoWhileStatement)
  | whileStatement (r : ParserWhileStatement)
  | forStatement (r : ParserForStatement)
  | forInStatement (r : ParserForInStatement)
  | withStatement (r : ParserWithStatement)
  | tryStatement (r : ParserTryStatement)
  deriving DecidableEq, Repr

structure ParserLayout where
  loopStatement : Nat
  labelStatement : Nat
  ifElseStatement : Nat
  switchStatement : Nat
  doWhileStatement : Nat
  whileStatement : Nat
  forStatement : Nat
  forInStatement : Nat
  withStatement : Nat
  tryStatement : Nat
  positive : 0 < loopStatement ∧ 0 < labelStatement ∧ 0 < ifElseStatement ∧
    0 < switchStatement ∧ 0 < doWhileStatement ∧ 0 < whileStatement ∧ 0 < forStatement ∧
    0 < forInStatement ∧ 0 < withStatement ∧ 0 < tryStatement
  lastByte : ParserRecord → UInt8

def ParserRecord.size (L : ParserLayout) : ParserRecord → Nat
  | loopStatement _ => L.loopStatement
  | labelStatement _ => L.labelStatement
  | ifElseStatement _ => L.ifElseStatement
  | switchStatement _ => L.switchStatement
  | doWhileStatement _ => L.doWhileStatement
  | whileStatement _ => L.whileStatement
  | forStatement _ => L.forStatement
  | forInStatement _ => L.forInStatement
  | withStatement _ => L.withStatement
  | tryStatement _ => L.tryStatement

theorem ParserRecord.size_pos (L : ParserLayout) (r : ParserRecord) : 0 < r.size L := by
  obtain ⟨h1,h2,h3,h4,h5,h6,h7,h8,h9,h10⟩ := L.positive
  cases r <;> assumption

def parserStatementLength (L : ParserLayout) (type : UInt8) : Option Nat :=
  if type = parserStatementBlock then some 1
  else if type = parserStatementLabel then some (L.labelStatement + 1)
  else if type = parserStatementIf ∨ type = parserStatementElse then some (L.ifElseStatement + 1)
  else if type = parserStatementSwitch ∨ type = parserStatementSwitchNoDefault then
    some (L.switchStatement + L.loopStatement + 1)
  else if type = parserStatementDoWhile then some (L.doWhileStatement + L.loopStatement + 1)
  else if type = parserStatementWhile then some (L.whileStatement + L.loopStatement + 1)
  else if type = parserStatementFor then some (L.forStatement + L.loopStatement + 1)
  else if type = parserStatementForIn then some (L.forInStatement + L.loopStatement + 1)
  else if type = parserStatementWith then some (L.withStatement + 1)
  else if type = parserStatementTry then some (L.tryStatement + 1)
  else none

def ParserRecord.asLoop : ParserRecord → Option ParserLoopStatement
  | loopStatement r => some r
  | _ => none
def ParserRecord.asLabel : ParserRecord → Option ParserLabelStatement
  | labelStatement r => some r
  | _ => none
def ParserRecord.asIfElse : ParserRecord → Option ParserIfElseStatement
  | ifElseStatement r => some r
  | _ => none
def ParserRecord.asSwitch : ParserRecord → Option ParserSwitchStatement
  | switchStatement r => some r
  | _ => none
def ParserRecord.asDoWhile : ParserRecord → Option ParserDoWhileStatement
  | doWhileStatement r => some r
  | _ => none
def ParserRecord.asWhile : ParserRecord → Option ParserWhileStatement
  | whileStatement r => some r
  | _ => none
def ParserRecord.asFor : ParserRecord → Option ParserForStatement
  | forStatement r => some r
  | _ => none
def ParserRecord.asForIn : ParserRecord → Option ParserForInStatement
  | forInStatement r => some r
  | _ => none
def ParserRecord.asWith : ParserRecord → Option ParserWithStatement
  | withStatement r => some r
  | _ => none
def ParserRecord.asTry : ParserRecord → Option ParserTryStatement
  | tryStatement r => some r
  | _ => none

inductive ParserStackItem where
  | uint8 (b : UInt8)
  | record (r : ParserRecord)
  deriving DecidableEq, Repr

def ParserStackItem.size (L : ParserLayout) : ParserStackItem → Nat
  | uint8 _ => 1
  | record r => r.size L

theorem ParserStackItem.size_pos (L : ParserLayout) (i : ParserStackItem) : 0 < i.size L := by
  cases i with
  | uint8 => exact Nat.one_pos
  | record r => exact r.size_pos L

structure ParserStack where
  items : List ParserStackItem
  stackTopUint8 : UInt8
  deriving DecidableEq, Repr

variable (L : ParserLayout)

def stackHeight (items : List ParserStackItem) : Nat :=
  (items.map (ParserStackItem.size L)).sum

@[simp] theorem stackHeight_nil : stackHeight L [] = 0 := rfl

@[simp] theorem stackHeight_cons (i : ParserStackItem) (items : List ParserStackItem) :
    stackHeight L (i :: items) = i.size L + stackHeight L items := by
  simp [stackHeight]

@[simp] theorem stackHeight_append (a b : List ParserStackItem) :
    stackHeight L (a ++ b) = stackHeight L a + stackHeight L b := by
  induction a with
  | nil => simp
  | cons i a ih => simp only [List.cons_append, stackHeight_cons, ih]; omega

def topByte : List ParserStackItem → UInt8
  | [] => 0
  | .uint8 b :: _ => b
  | .record r :: _ => L.lastByte r

def ParserStack.ofItems (items : List ParserStackItem) : ParserStack :=
  ⟨items,topByte L items⟩

def ParserStack.push (s : ParserStack) (r : ParserRecord) : ParserStack :=
  ParserStack.ofItems L (.record r :: s.items)

def ParserStack.pushUint8 (s : ParserStack) (b : UInt8) : ParserStack :=
  ⟨.uint8 b :: s.items,b⟩

def ParserStack.popUint8 (s : ParserStack) : Option ParserStack :=
  match s.items with
  | .uint8 _ :: rest => some (ParserStack.ofItems L rest)
  | _ => none

def ParserStack.pop (s : ParserStack) : Option (ParserRecord × ParserStack) :=
  match s.items with
  | .record r :: rest => some (r,ParserStack.ofItems L rest)
  | _ => none

def dropBytes : List ParserStackItem → Nat → Option (List ParserStackItem)
  | items,0 => some items
  | [],_ + 1 => none
  | i :: rest,n + 1 => if i.size L ≤ n + 1 then dropBytes rest (n + 1 - i.size L) else none

def ParserStack.popBytes (s : ParserStack) (n : Nat) : Option ParserStack :=
  (dropBytes L s.items n).map (ParserStack.ofItems L)

def ParserStack.changeLastUint8 (s : ParserStack) (b : UInt8) : Option ParserStack :=
  match s.items with
  | .uint8 old :: rest => if s.stackTopUint8 = old then some ⟨.uint8 b :: rest,b⟩ else none
  | _ => none

def itemAt : List ParserStackItem → Nat → Option ParserStackItem
  | [],_ => none
  | i :: rest,depth =>
      if depth = 0 then some i
      else if i.size L ≤ depth then itemAt rest (depth - i.size L)
      else none

def writeAt (new : ParserStackItem) : List ParserStackItem → Nat → Option (List ParserStackItem)
  | [],_ => none
  | i :: rest,depth =>
      if depth = 0 then (if i.size L = new.size L then some (new :: rest) else none)
      else if i.size L ≤ depth then (writeAt new rest (depth - i.size L)).map (i :: ·)
      else none

@[simp] theorem itemAt_zero (i : ParserStackItem) (rest : List ParserStackItem) :
    itemAt L (i :: rest) 0 = some i := rfl

theorem itemAt_append (pre rest : List ParserStackItem) (d : Nat) :
    itemAt L (pre ++ rest) (stackHeight L pre + d) = itemAt L rest d := by
  induction pre with
  | nil => simp
  | cons i pre ih =>
    have pos := i.size_pos L
    simp only [List.cons_append, itemAt, stackHeight_cons]
    rw [if_neg (by omega), if_pos (by omega), ← ih]
    congr 1
    omega

theorem writeAt_append (new : ParserStackItem) (pre rest : List ParserStackItem) (d : Nat) :
    writeAt L new (pre ++ rest) (stackHeight L pre + d) = (writeAt L new rest d).map (pre ++ ·) := by
  induction pre with
  | nil => simp
  | cons i pre ih =>
    have pos := i.size_pos L
    rw [List.cons_append, stackHeight_cons]
    simp only [writeAt]
    rw [if_neg (by omega), if_pos (by omega), Nat.add_assoc, Nat.add_sub_cancel_left, ih,
      Option.map_map]
    rfl

def ParserStack.iteratorInit (s : ParserStack) : Nat := stackHeight L s.items

def ParserStack.iteratorReadUint8 (s : ParserStack) (it : Nat) : Option UInt8 :=
  if 0 < it ∧ it ≤ stackHeight L s.items then
    match itemAt L s.items (stackHeight L s.items - it) with
    | some (.uint8 b) => some b
    | _ => none
  else none

def ParserStack.iteratorRead (s : ParserStack) (it : Nat) : Option ParserRecord :=
  if it ≤ stackHeight L s.items then
    match itemAt L s.items (stackHeight L s.items - it) with
    | some (.record r) => some r
    | _ => none
  else none

def ParserStack.iteratorWrite (s : ParserStack) (it : Nat) (r : ParserRecord) :
    Option ParserStack :=
  if it ≤ stackHeight L s.items then
    (writeAt L (.record r) s.items (stackHeight L s.items - it)).map
      fun items => ⟨items,s.stackTopUint8⟩
  else none

theorem ParserStack.iteratorReadUint8_at {s : ParserStack} {pre rest : List ParserStackItem}
    {b : UInt8} (h : s.items = pre ++ .uint8 b :: rest) :
    s.iteratorReadUint8 L (stackHeight L (.uint8 b :: rest)) = some b := by
  have depth : stackHeight L s.items - stackHeight L (.uint8 b :: rest) = stackHeight L pre := by
    rw [h, stackHeight_append]; omega
  have at0 := itemAt_append L pre (.uint8 b :: rest) 0
  rw [Nat.add_zero, ← h] at at0
  unfold iteratorReadUint8
  rw [if_pos ⟨by simp only [stackHeight_cons, ParserStackItem.size]; omega,
    by rw [h, stackHeight_append]; omega⟩, depth, at0]
  rfl

theorem ParserStack.iteratorRead_at {s : ParserStack} {pre rest : List ParserStackItem}
    {r : ParserRecord} (h : s.items = pre ++ .record r :: rest) :
    s.iteratorRead L (stackHeight L (.record r :: rest)) = some r := by
  have depth : stackHeight L s.items - stackHeight L (.record r :: rest) = stackHeight L pre := by
    rw [h, stackHeight_append]; omega
  have at0 := itemAt_append L pre (.record r :: rest) 0
  rw [Nat.add_zero, ← h] at at0
  unfold iteratorRead
  rw [if_pos (by rw [h, stackHeight_append]; omega), depth, at0]
  rfl

theorem ParserStack.iteratorWrite_at {s : ParserStack} {pre rest : List ParserStackItem}
    {r r' : ParserRecord} (h : s.items = pre ++ .record r :: rest) (size : r'.size L = r.size L) :
    s.iteratorWrite L (stackHeight L (.record r :: rest)) r' =
      some ⟨pre ++ .record r' :: rest,s.stackTopUint8⟩ := by
  have depth : stackHeight L s.items - stackHeight L (.record r :: rest) = stackHeight L pre := by
    rw [h, stackHeight_append]; omega
  have at0 := writeAt_append L (.record r') pre (.record r :: rest) 0
  rw [Nat.add_zero, ← h] at at0
  unfold iteratorWrite
  rw [if_pos (by rw [h, stackHeight_append]; omega), depth, at0]
  simp [writeAt, ParserStackItem.size, size]

end JerryParser
