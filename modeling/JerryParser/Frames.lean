import JerryParser.Statements

/-! Statement frames: the tag byte of each statement type over the records it pushes. A
well-formed stack is a run of frames over a `PARSER_STATEMENT_START` byte; it decomposes in one
way only, and a walk that skips by `parser_statement_length` lands on frame boundaries. -/
namespace JerryParser

inductive ParserFrame where
  | block
  | label (r : ParserLabelStatement)
  | ifStatement (r : ParserIfElseStatement)
  | elseStatement (r : ParserIfElseStatement)
  | switchStatement (hasDefault : Bool) (loop : ParserLoopStatement) (r : ParserSwitchStatement)
  | doWhileStatement (loop : ParserLoopStatement) (r : ParserDoWhileStatement)
  | whileStatement (loop : ParserLoopStatement) (r : ParserWhileStatement)
  | forStatement (loop : ParserLoopStatement) (r : ParserForStatement)
  | forInStatement (loop : ParserLoopStatement) (r : ParserForInStatement)
  | withStatement (r : ParserWithStatement)
  | tryStatement (r : ParserTryStatement)
  deriving DecidableEq, Repr

namespace ParserFrame

def tag : ParserFrame → UInt8
  | block => parserStatementBlock
  | label _ => parserStatementLabel
  | ifStatement _ => parserStatementIf
  | elseStatement _ => parserStatementElse
  | switchStatement true _ _ => parserStatementSwitch
  | switchStatement false _ _ => parserStatementSwitchNoDefault
  | doWhileStatement _ _ => parserStatementDoWhile
  | whileStatement _ _ => parserStatementWhile
  | forStatement _ _ => parserStatementFor
  | forInStatement _ _ => parserStatementForIn
  | withStatement _ => parserStatementWith
  | tryStatement _ => parserStatementTry

def records : ParserFrame → List ParserRecord
  | block => []
  | label r => [.labelStatement r]
  | ifStatement r | elseStatement r => [.ifElseStatement r]
  | switchStatement _ loop r => [.loopStatement loop,.switchStatement r]
  | doWhileStatement loop r => [.loopStatement loop,.doWhileStatement r]
  | whileStatement loop r => [.loopStatement loop,.whileStatement r]
  | forStatement loop r => [.loopStatement loop,.forStatement r]
  | forInStatement loop r => [.loopStatement loop,.forInStatement r]
  | withStatement r => [.withStatement r]
  | tryStatement r => [.tryStatement r]

def items (f : ParserFrame) : List ParserStackItem := .uint8 f.tag :: f.records.map .record

def decode : List ParserStackItem → Option (ParserFrame × List ParserStackItem)
  | .uint8 t :: rest =>
      if t = parserStatementBlock then some (block,rest) else
      match rest with
      | .record (.labelStatement r) :: rest =>
          if t = parserStatementLabel then some (label r,rest) else none
      | .record (.ifElseStatement r) :: rest =>
          if t = parserStatementIf then some (ifStatement r,rest)
          else if t = parserStatementElse then some (elseStatement r,rest) else none
      | .record (.loopStatement loop) :: .record (.switchStatement r) :: rest =>
          if t = parserStatementSwitch then some (switchStatement true loop r,rest)
          else if t = parserStatementSwitchNoDefault then some (switchStatement false loop r,rest)
          else none
      | .record (.loopStatement loop) :: .record (.doWhileStatement r) :: rest =>
          if t = parserStatementDoWhile then some (doWhileStatement loop r,rest) else none
      | .record (.loopStatement loop) :: .record (.whileStatement r) :: rest =>
          if t = parserStatementWhile then some (whileStatement loop r,rest) else none
      | .record (.loopStatement loop) :: .record (.forStatement r) :: rest =>
          if t = parserStatementFor then some (forStatement loop r,rest) else none
      | .record (.loopStatement loop) :: .record (.forInStatement r) :: rest =>
          if t = parserStatementForIn then some (forInStatement loop r,rest) else none
      | .record (.withStatement r) :: rest =>
          if t = parserStatementWith then some (withStatement r,rest) else none
      | .record (.tryStatement r) :: rest =>
          if t = parserStatementTry then some (tryStatement r,rest) else none
      | _ => none
  | _ => none

@[simp] theorem decode_items (f : ParserFrame) (rest : List ParserStackItem) :
    decode (f.items ++ rest) = some (f,rest) := by
  cases f with
  | switchStatement hasDefault loop r => cases hasDefault <;> rfl
  | _ => rfl

theorem items_append_inj {f g : ParserFrame} {rest rest' : List ParserStackItem}
    (h : f.items ++ rest = g.items ++ rest') : f = g ∧ rest = rest' := by
  have same := congrArg decode h
  simp only [decode_items, Option.some.injEq, Prod.mk.injEq] at same
  exact same

theorem tag_ne_start (f : ParserFrame) : f.tag ≠ parserStatementStart := by
  cases f with
  | switchStatement hasDefault => cases hasDefault <;> simp only [tag] <;> decide
  | _ => simp only [tag]; decide

def holdsContext : ParserFrame → Bool
  | forInStatement _ _ | withStatement _ | tryStatement _ => true
  | _ => false

def allocation (E : ParserEnv) : ParserFrame → UInt16
  | forInStatement _ _ => E.forInContextStackAllocation
  | withStatement _ => E.withContextStackAllocation
  | tryStatement _ => E.tryContextStackAllocation
  | _ => 0

end ParserFrame

def frameItems (fs : List ParserFrame) : List ParserStackItem := fs.flatMap ParserFrame.items

@[simp] theorem frameItems_nil : frameItems [] = [] := rfl

@[simp] theorem frameItems_cons (f : ParserFrame) (fs : List ParserFrame) :
    frameItems (f :: fs) = f.items ++ frameItems fs := rfl

def topTag : List ParserFrame → UInt8
  | [] => parserStatementStart
  | f :: _ => f.tag

def contextDepth (E : ParserEnv) (fs : List ParserFrame) : UInt16 :=
  (fs.map (ParserFrame.allocation E)).sum

theorem frameItems_start_inj {fs gs : List ParserFrame} {below below' : List ParserStackItem}
    (h : frameItems fs ++ .uint8 parserStatementStart :: below =
      frameItems gs ++ .uint8 parserStatementStart :: below') : fs = gs ∧ below = below' := by
  induction fs generalizing gs with
  | nil =>
    cases gs with
    | nil => simpa using h
    | cons g gs =>
      simp only [frameItems_nil, List.nil_append, frameItems_cons, ParserFrame.items,
        List.cons_append, List.cons.injEq, ParserStackItem.uint8.injEq] at h
      exact absurd h.1.symm g.tag_ne_start
  | cons f fs ih =>
    cases gs with
    | nil =>
      simp only [frameItems_nil, List.nil_append, frameItems_cons, ParserFrame.items,
        List.cons_append, List.cons.injEq, ParserStackItem.uint8.injEq] at h
      exact absurd h.1 f.tag_ne_start
    | cons g gs =>
      simp only [frameItems_cons, List.append_assoc] at h
      obtain ⟨rfl,rest⟩ := ParserFrame.items_append_inj h
      exact (ih rest).imp_left (congrArg _)

variable (L : ParserLayout)

structure Framed (s : ParserStack) (last : Option Nat) (fs : List ParserFrame) : Prop where
  items : ∃ below, s.items = frameItems fs ++ .uint8 parserStatementStart :: below
  top : s.stackTopUint8 = topTag fs
  last : last = some (stackHeight L s.items)

theorem Framed.unique {s : ParserStack} {last last' : Option Nat} {fs gs : List ParserFrame}
    (h : Framed L s last fs) (h' : Framed L s last' gs) : fs = gs := by
  obtain ⟨below,hs⟩ := h.items
  obtain ⟨below',hs'⟩ := h'.items
  exact (frameItems_start_inj (hs.symm.trans hs')).1

end JerryParser
