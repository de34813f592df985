import JerryParser.Context

/-! The byte code emitter (js-parser-util.c is not in the sources), modelled from the spec: a
last-opcode cache that every emit flushes first, forward branches whose operands are written by
`parser_set_branch_to_current_position`, backward branches with their distance, and branch
nodes on a heap, each freed once its list is drained. Opcode fusion inside expressions belongs
to the expression parser. -/
namespace JerryParser

variable (E : ParserEnv)

/-- Modelled from the spec: one instruction written at the end of the byte code. -/
def writeInstr (ctx : ParserContext) (i : CbcInstr) : ParserContext :=
  { ctx with byteCode := ctx.byteCode ++ [i], byteCodeSize := ctx.byteCodeSize + instrLength E i }

/-- Modelled from the spec: the cached opcode, if any, written out and the cache emptied. -/
def flushCbc (ctx : ParserContext) : ParserContext :=
  match ctx.lastCbcOpcode with
  | none => ctx
  | some op => { writeInstr E ctx (.op op ctx.lastCbc) with lastCbcOpcode := none }

/-- Modelled from the spec: `parser_flush_cbc`. -/
def parserFlushCbc : ParserM Unit := modify (flushCbc E)

/-- Modelled from the spec: `parser_emit_cbc_literal`, the cache flushed and the opcode with its
literal cached. -/
def parserEmitCbcLiteral (op : CbcOpcode) (index : Nat) : ParserM Unit :=
  modify fun ctx => { flushCbc E ctx with lastCbcOpcode := some op, lastCbc := index }

/-- Modelled from the spec: `parser_emit_cbc` and `parser_emit_cbc_ext`. -/
def parserEmitCbc (op : CbcOpcode) : ParserM Unit := parserEmitCbcLiteral E op 0

/-- Modelled from the spec: the stack a context-creating opcode reserves for its runtime context. -/
def contextAllocation : CbcOpcode → UInt16
  | .extWithCreateContext => E.withContextStackAllocation
  | .extForInCreateContext => E.forInContextStackAllocation
  | .extTryCreateContext => E.tryContextStackAllocation
  | _ => 0

/-- Modelled from the spec: a forward branch written after the flush, its operand left to patch,
the stack depth raised by the context it opens. -/
def forwardBranch (ctx : ParserContext) (op : CbcOpcode) : ParserBranch × ParserContext :=
  let ctx := flushCbc E ctx
  (⟨ctx.byteCode.length,false⟩,
    { writeInstr E ctx (.forward op) with stackDepth := ctx.stackDepth + contextAllocation E op })

/-- Modelled from the spec: `parser_emit_cbc_forward_branch` and
`parser_emit_cbc_ext_forward_branch`. -/
def parserEmitCbcForwardBranch (op : CbcOpcode) : ParserM ParserBranch :=
  modifyGet fun ctx => forwardBranch E ctx op

/-- Modelled from the spec: `parser_emit_cbc_backward_branch` and
`parser_emit_cbc_ext_backward_branch`, with the distance back to `offset`. -/
def parserEmitCbcBackwardBranch (op : CbcOpcode) (offset : Nat) : ParserM Unit :=
  modify fun ctx =>
    let ctx := flushCbc E ctx
    writeInstr E ctx (.backward op (ctx.byteCodeSize - offset))

/-- Modelled from the spec: after the flush, the branch's operand patched to the current size. -/
def setBranch (ctx : ParserContext) (branch : ParserBranch) : ParserContext :=
  let ctx := flushCbc E ctx
  { ctx with patches := ctx.patches ++ [(branch.offset,ctx.byteCodeSize)] }

/-- Modelled from the spec: `parser_set_branch_to_current_position`. -/
def parserSetBranchToCurrentPosition (branch : ParserBranch) : ParserM Unit :=
  modify fun ctx => setBranch E ctx branch

/-- Modelled from the spec: a node allocated at the next address. -/
def malloc (ctx : ParserContext) (node : ParserBranchNode) : Nat × ParserContext :=
  (ctx.nextNode,{ ctx with nodes := (ctx.nextNode,node) :: ctx.nodes, nextNode := ctx.nextNode + 1 })

/-- Modelled from the spec: the node at `p` freed. -/
def free (ctx : ParserContext) (p : Nat) : ParserContext :=
  { ctx with nodes := ctx.nodes.filter (·.1 != p) }

/-- Modelled from the spec: `parser_emit_cbc_forward_branch_item`, a fresh node holding a new
forward branch, in front of `next`. -/
def parserEmitCbcForwardBranchItem (op : CbcOpcode) (next : Option Nat) : ParserM Nat :=
  modifyGet fun ctx =>
    let (branch,ctx) := forwardBranch E ctx op
    malloc ctx ⟨next,branch⟩

/-- Modelled from the spec: the allocated node at `p` changed; writing a node that is not
allocated is undefined. -/
def updateNode (p : Nat) (f : ParserBranchNode → ParserBranchNode) : ParserM Unit := do
  let ctx ← get
  if (ctx.nodes.lookup p).isNone then parserUndefined
  set { ctx with nodes := ctx.nodes.map fun (q,n) => if q = p then (q,f n) else (q,n) }

/-- Modelled from the spec: the continue mark (`offset |= CBC_HIGHEST_BIT_MASK`) set on the node
at `p`. -/
def markContinue (p : Nat) : ParserM Unit :=
  updateNode p fun n => { n with branch := { n.branch with highestBit := true } }

/-- Modelled from the spec: the drain loop of `parser_set_breaks_to_current_position`. Every node
without the continue mark is patched, and every node is freed. `fuel` is the number of allocated
nodes; a walk that leaves them, or would visit a freed one, is undefined. -/
def setBreaksLoop : Nat → Option Nat → ParserM Unit
  | _,none => pure ()
  | 0,some _ => parserUndefined
  | fuel + 1,some p => do
      let node ← orUndefined ((← get).nodes.lookup p)
      if !node.branch.highestBit then parserSetBranchToCurrentPosition E node.branch
      modify fun ctx => free ctx p
      setBreaksLoop fuel node.nextP

/-- Modelled from the spec: `parser_set_breaks_to_current_position`. -/
def parserSetBreaksToCurrentPosition (list : Option Nat) : ParserM Unit := do
  setBreaksLoop E (← get).nodes.length list

/-- Modelled from the spec: the walk of `parser_set_continues_to_current_position`. Every node
with the continue mark is patched; nothing is freed. -/
def setContinuesLoop : Nat → Option Nat → ParserM Unit
  | _,none => pure ()
  | 0,some _ => parserUndefined
  | fuel + 1,some p => do
      let node ← orUndefined ((← get).nodes.lookup p)
      if node.branch.highestBit then parserSetBranchToCurrentPosition E node.branch
      setContinuesLoop fuel node.nextP

/-- Modelled from the spec: `parser_set_continues_to_current_position`. -/
def parserSetContinuesToCurrentPosition (list : Option Nat) : ParserM Unit := do
  setContinuesLoop E (← get).nodes.length list

end JerryParser
