import JerryParser.Lexer

/-! The interpreter loop `vm_loop` of js-parser-scanner.c: the literal encoding it selects from the
header's status flags, the operand decoders, the value stack `vm_stack` with its cursor, and one
iteration of the loop over the byte code. The opcode lists (`CBC_OPCODE_LIST`), the value of
`CBC_EXT_OPCODE`, the header flag constants and the value operations of ecma are not in the
sources: they are parameters. The literal encoding the emitter writes is taken from the spec. -/
namespace JerryParser

inductive LiteralEncoding
  | small
  | full
  deriving DecidableEq, Repr

def LiteralEncoding.limit : LiteralEncoding → Nat
  | .small => 255
  | .full => 128

def LiteralEncoding.delta : LiteralEncoding → Nat
  | .small => 0xfe01
  | .full => 0x8000

def LiteralEncoding.Admits : LiteralEncoding → Nat → Prop
  | .small,i => i ≤ 510
  | .full,i => i < 32768

instance : ∀ e i, Decidable (LiteralEncoding.Admits e i)
  | .small,_ => inferInstanceAs (Decidable (_ ≤ _))
  | .full,_ => inferInstanceAs (Decidable (_ < _))

def encodeLiteral (e : LiteralEncoding) (index : Nat) : List UInt8 :=
  if index < e.limit then [index.toUInt8]
  else [((index + e.delta) / 256).toUInt8,((index + e.delta) % 256).toUInt8]

structure LiteralEncodingFlags where
  fullLiteralEncoding : Nat
  literalEncodingSmall : Nat
  deriving DecidableEq, Repr

def selectedLiteralEncoding (k : LiteralEncodingFlags) (statusFlags : Nat) : LiteralEncoding :=
  if statusFlags &&& k.fullLiteralEncoding = 0 then .small else .full

def vmLiteralEncoding (k : LiteralEncodingFlags) (statusFlags : Nat) : LiteralEncoding :=
  if statusFlags &&& (if k.fullLiteralEncoding = k.literalEncodingSmall then 1 else 0) ≠ 0 then .small
  else .full

def vmDecodeLiteral (e : LiteralEncoding) : List UInt8 → Option (Nat × List UInt8)
  | [] => none
  | b :: rest =>
      if e.limit ≤ b.toNat then
        match rest with
        | [] => none
        | b2 :: rest => some ((((b.toNat <<< 8) ||| b2.toNat) + 65536 - e.delta) % 65536,rest)
      else some (b.toNat,rest)

theorem shiftLeft_eight_or {a b : Nat} (h : b < 2 ^ 8) : a <<< 8 ||| b = 256 * a + b := by
  rw [Nat.shiftLeft_eq,Nat.mul_comm,Nat.mul_add_lt_is_or h]

theorem toNat_toUInt8 {n : Nat} (h : n < 256) : n.toUInt8.toNat = n :=
  UInt8.toNat_ofNat_of_lt h

theorem vmDecodeLiteral_encodeLiteral (e : LiteralEncoding) {i : Nat} (admits : e.Admits i)
    (rest : List UInt8) : vmDecodeLiteral e (encodeLiteral e i ++ rest) = some (i,rest) := by
  have fits : i + e.delta < 65536 ∧ (i < e.limit ∨ e.limit ≤ (i + e.delta) / 256) ∧ e.delta ≤ 65536 := by
    cases e <;> simp only [LiteralEncoding.Admits,LiteralEncoding.delta,LiteralEncoding.limit] at * <;> omega
  unfold encodeLiteral
  split
  case isTrue small =>
    have : i < 256 := by cases e <;> simp only [LiteralEncoding.limit] at small <;> omega
    simp [vmDecodeLiteral,toNat_toUInt8 this,Nat.not_le.mpr small]
  case isFalse large =>
    have hi : (i + e.delta) / 256 < 256 := by omega
    have lo : (i + e.delta) % 256 < 256 := Nat.mod_lt _ (by decide)
    simp only [List.cons_append,List.nil_append,vmDecodeLiteral,toNat_toUInt8 hi,toNat_toUInt8 lo,
      shiftLeft_eight_or lo]
    rw [if_pos (by omega),Nat.div_add_mod]
    congr
    omega

theorem vmLiteralEncoding_of_ne (k : LiteralEncodingFlags)
    (ne : k.fullLiteralEncoding ≠ k.literalEncodingSmall) (statusFlags : Nat) :
    vmLiteralEncoding k statusFlags = .full := by
  simp [vmLiteralEncoding,ne]

theorem vmLiteralEncoding_zero (k : LiteralEncodingFlags) :
    selectedLiteralEncoding k 0 = .small ∧ vmLiteralEncoding k 0 = .full := by
  simp [selectedLiteralEncoding,vmLiteralEncoding]

/-- Whatever values the two constants have, the index 128, which the small encoding writes as the
one byte `0x80`, is misread in a header with no flag set: `vm_loop` takes the byte for the first of
two, whatever byte code follows it. -/
theorem vmLiteralOperandMisread (k : LiteralEncodingFlags) :
    ∃ statusFlags i, (selectedLiteralEncoding k statusFlags).Admits i ∧ ∀ rest,
      vmDecodeLiteral (vmLiteralEncoding k statusFlags)
        (encodeLiteral (selectedLiteralEncoding k statusFlags) i ++ rest) ≠ some (i,rest) := by
  obtain ⟨selected,read⟩ := vmLiteralEncoding_zero k
  refine ⟨0,128,by rw [selected]; decide,fun rest => ?_⟩
  rw [selected,read]
  cases rest with
  | nil => decide
  | cons b rest => simp [encodeLiteral,vmDecodeLiteral,LiteralEncoding.limit,toNat_toUInt8]

theorem vmDecodeLiteral_of_lt (e : LiteralEncoding) {b : UInt8} (h : b.toNat < 128)
    (rest : List UInt8) : vmDecodeLiteral e (b :: rest) = some (b.toNat,rest) := by
  have : b.toNat < e.limit := by cases e <;> simp only [LiteralEncoding.limit] <;> omega
  simp [vmDecodeLiteral,Nat.not_le.mpr this]

def vmStackSize : Nat := 1024

structure VmStack where
  slots : List (Int × Nat)
  top : Int
  deriving DecidableEq, Repr

def VmStack.empty : VmStack := ⟨[],0⟩

inductive VmFault
  | assertion
  | unreachable
  | outOfCode
  | uninitialized
  | throw (value : Nat)
  | outOfFuel
  deriving DecidableEq, Repr

def VmStack.push (s : VmStack) (v : Nat) : VmStack := ⟨(s.top,v) :: s.slots,s.top + 1⟩

def VmStack.fetch (s : VmStack) : Except VmFault (Option Nat × VmStack) :=
  if 0 < s.top then .ok (s.slots.lookup s.top,{ s with top := s.top - 1 }) else .error .assertion

theorem VmStack.fetch_push {s : VmStack} (inside : 0 ≤ s.top) (v : Nat) :
    (s.push v).fetch = .ok (s.slots.lookup (s.top + 1),{ s with slots := (s.top,v) :: s.slots }) := by
  have : (s.top + 1 == s.top) = false := by simp
  simp [fetch,push,List.lookup,this,Int.lt_add_one_iff.mpr inside]

theorem lookup_eq_none_of_lt {l : List (Int × Nat)} {n : Int} (below : ∀ p ∈ l, p.1 < n) :
    l.lookup n = none := by
  induction l with
  | nil => rfl
  | cons p l ih =>
      have : (n == p.1) = false := by simpa using (Int.ne_of_gt (below p (.head _)))
      simp only [List.lookup,this]
      exact ih fun q mem => below q (.tail _ mem)

def VmStack.Below (s : VmStack) : Prop := ∀ p ∈ s.slots, p.1 < s.top

theorem VmStack.Below.push {s : VmStack} (below : s.Below) (v : Nat) : (s.push v).Below := by
  intro p mem
  rcases List.mem_cons.mp mem with rfl | mem
  · exact Int.lt_succ _
  · exact Int.lt_trans (below p mem) (Int.lt_succ _)

theorem VmStack.foldl_push (vs : List Nat) {s : VmStack} (below : s.Below) :
    (vs.foldl push s).Below ∧ (vs.foldl push s).top = s.top + vs.length := by
  induction vs generalizing s with
  | nil => exact ⟨below,by simp⟩
  | cons v vs ih =>
      obtain ⟨below,top⟩ := ih (below.push v)
      exact ⟨below,by rw [List.foldl_cons,top]; simp only [push,List.length_cons]; omega⟩

theorem VmStack.fetch_pushes (vs : List Nat) (nonempty : vs ≠ []) :
    (vs.foldl push empty).fetch = .ok (none,{ vs.foldl push empty with top := vs.length - 1 }) := by
  obtain ⟨below,top⟩ := foldl_push vs (s := empty) nofun
  have : 0 < vs.length := List.length_pos.mpr nonempty
  rw [fetch,top,if_pos (by simp [empty]; omega),lookup_eq_none_of_lt fun p mem => top ▸ below p mem]
  simp [empty]

inductive VmOperand
  | stack
  | byte
  | literal
  | branch1
  | branch2
  | branch3
  | none
  | other
  deriving DecidableEq, Repr

inductive VmGroup
  | add
  | pop
  | ret
  | push
  | call
  | other
  deriving DecidableEq, Repr

inductive VmPostProcess
  | none
  | pushResult
  | other
  deriving DecidableEq, Repr

structure VmDecoded where
  left : VmOperand
  right : VmOperand
  group : VmGroup
  post : VmPostProcess
  deriving DecidableEq, Repr

/-- What of the decoding is not in the sources: `CBC_EXT_OPCODE`, `CBC_EXT_NOP`, the entries of
`CBC_OPCODE_LIST` and `CBC_EXT_OPCODE_LIST`, and the operand and post-processing kinds whose
enumerator is zero (the fields the entries `vm_decode_cbc` writes itself leave clear). -/
structure VmTables where
  extOpcode : UInt8
  extNop : UInt8
  decodeTable : UInt8 → VmDecoded
  extDecodeTable : UInt8 → VmDecoded
  zeroOperand : VmOperand
  zeroPost : VmPostProcess

def vmDecodeCbc (t : VmTables) (opcode extOpcode : UInt8) : VmDecoded :=
  if opcode ≠ t.extOpcode then
    match opcode with
    | 0x08 => ⟨t.zeroOperand,t.zeroOperand,.pop,t.zeroPost⟩
    | 0x10 => ⟨t.zeroOperand,t.zeroOperand,.ret,.pushResult⟩
    | 0x74 => ⟨.stack,.stack,.add,.pushResult⟩
    | 0x75 => ⟨.stack,.literal,.add,.pushResult⟩
    | 0x76 => ⟨.literal,.literal,.add,.pushResult⟩
    | _ => t.decodeTable opcode
  else t.extDecodeTable extOpcode

/-- The compiled-code header and what the loop calls outside the sources: the literal values at
`literal_start_p`, the identifier lookup of a right operand (its value, or a throw completion),
`vm_op_add`, `vm_op_return` and `opfunc_call_n` with its effect on the stack cursor. -/
structure VmEnv where
  tables : VmTables
  flags : LiteralEncodingFlags
  statusFlags : Nat
  argumentEnd : Nat
  registerEnd : Nat
  identEnd : Nat
  literal : Nat → Nat
  getIdent : Nat → Except Nat Nat
  opAdd : Nat → Nat → Nat
  opReturn : UInt8 → Nat → Nat
  callN : Nat → UInt8 → VmStack → VmStack

structure VmFrame where
  byteCode : List UInt8
  stack : VmStack
  deriving DecidableEq, Repr

def vmReadByte : List UInt8 → Except VmFault (UInt8 × List UInt8)
  | [] => .error .outOfCode
  | b :: rest => .ok (b,rest)

def vmSkipBytes : Nat → List UInt8 → Except VmFault (List UInt8)
  | 0,code => .ok code
  | n + 1,code => do vmSkipBytes n (← vmReadByte code).2

def vmReadLiteral (e : LiteralEncoding) (code : List UInt8) : Except VmFault (Nat × List UInt8) :=
  match vmDecodeLiteral e code with
  | some r => .ok r
  | none => .error .outOfCode

def vmLeftOperand (env : VmEnv) (e : LiteralEncoding) :
    VmOperand → VmFrame → Except VmFault ((Nat × UInt8) × VmFrame)
  | .stack,s => do
      let (v,stack) ← s.stack.fetch
      pure ((v.getD 0,0),{ s with stack })
  | .byte,s => do
      let (b,code) ← vmReadByte s.byteCode
      pure ((0,b),{ s with byteCode := code })
  | .literal,s => do
      let (i,code) ← vmReadLiteral e s.byteCode
      let v := if i < env.argumentEnd then 0 else if i < env.registerEnd then 0
        else if i < env.identEnd then 0 else env.literal i
      pure ((v,0),{ s with byteCode := code })
  | .branch3,s => do pure ((0,0),{ s with byteCode := ← vmSkipBytes 3 s.byteCode })
  | .branch2,s => do pure ((0,0),{ s with byteCode := ← vmSkipBytes 2 s.byteCode })
  | .branch1,s => do pure ((0,0),{ s with byteCode := ← vmSkipBytes 1 s.byteCode })
  | .none,s => pure ((0,0),s)
  | .other,_ => .error .unreachable

def vmRightOperand (env : VmEnv) (e : LiteralEncoding) :
    VmOperand → VmFrame → Except VmFault (Nat × VmFrame)
  | .stack,s => do
      let (v,stack) ← s.stack.fetch
      pure (v.getD 0,{ s with stack })
  | .literal,s => do
      let (i,code) ← vmReadLiteral e s.byteCode
      let v ← if i < env.argumentEnd then pure 0 else if i < env.registerEnd then pure 0
        else if i < env.identEnd then (env.getIdent i).mapError .throw else pure (env.literal i)
      pure (v,{ s with byteCode := code })
  | .none,s => pure (0,s)
  | _,_ => .error .unreachable

def vmGroup (env : VmEnv) (opcode : UInt8) (left right : Nat) (byteArg : UInt8) :
    VmGroup → VmFrame → Except VmFault (Option Nat × VmFrame)
  | .add,s => pure (some (env.opAdd left right),s)
  | .pop,s => pure (none,{ s with stack := { s.stack with top := s.stack.top - 1 } })
  | .ret,s => pure (some (env.opReturn opcode left),s)
  | .push,s => pure (some left,s)
  | .call,s => pure (none,{ s with stack := env.callN right byteArg s.stack })
  | .other,_ => .error .unreachable

def vmPostProcess (result : Option Nat) : VmPostProcess → VmFrame → Except VmFault VmFrame
  | .none,s => pure s
  | .pushResult,s => match result with
      | some v => pure { s with stack := s.stack.push v }
      | none => .error .uninitialized
  | .other,_ => .error .unreachable

def vmStep (env : VmEnv) (e : LiteralEncoding) (s : VmFrame) : Except VmFault (VmFrame × Bool) := do
  let (opcode,code) ← vmReadByte s.byteCode
  let (extOpcode,code) ← if opcode = env.tables.extOpcode then vmReadByte code
    else pure (env.tables.extNop,code)
  let d := vmDecodeCbc env.tables opcode extOpcode
  let ((left,byteArg),s) ← vmLeftOperand env e d.left { s with byteCode := code }
  let (right,s) ← vmRightOperand env e d.right s
  let (result,s) ← vmGroup env opcode left right byteArg d.group s
  let s ← vmPostProcess result d.post s
  pure (s,d.group == .ret)

def vmLoop (env : VmEnv) (fuel : Nat) (s : VmFrame) : Except VmFault VmFrame :=
  go fuel s
where
  go : Nat → VmFrame → Except VmFault VmFrame
    | 0,_ => .error .outOfFuel
    | fuel + 1,s => do
        let (s,leave) ← vmStep env (vmLiteralEncoding env.flags env.statusFlags) s
        if leave then pure s else go fuel s

theorem vmStep_addLiterals (env : VmEnv) (notExt : env.tables.extOpcode ≠ 0x76)
    (plain : env.identEnd = 0) (e : LiteralEncoding) :
    ∃ v, ∀ s rest, vmStep env e ⟨0x76 :: 0 :: 0 :: rest,s⟩ = .ok (⟨rest,s.push v⟩,false) := by
  refine ⟨env.opAdd (if 0 < env.argumentEnd then 0 else if 0 < env.registerEnd then 0 else env.literal 0)
    (if 0 < env.argumentEnd then 0 else if 0 < env.registerEnd then 0 else env.literal 0),fun s rest => ?_⟩
  simp only [vmStep,vmReadByte,Ne.symm notExt,vmDecodeCbc,bind,Except.bind,pure,Except.pure,if_false,
    ne_eq,not_false_eq_true,if_true,vmLeftOperand,vmRightOperand,vmReadLiteral,
    vmDecodeLiteral_of_lt _ (by decide : (0 : UInt8).toNat < 128),plain,Nat.not_lt_zero,
    (by decide : (0 : UInt8).toNat = 0)]
  split_ifs <;> rfl

theorem VmStack.foldl_push_slots (v n : Nat) (s : VmStack) :
    ((List.replicate n v).foldl push s).top = s.top + n ∧
      (∀ p ∈ s.slots, p ∈ ((List.replicate n v).foldl push s).slots) ∧
      ∀ i : Nat, i < n → (s.top + i,v) ∈ ((List.replicate n v).foldl push s).slots := by
  induction n generalizing s with
  | zero => exact ⟨by simp,fun _ h => h,fun _ h => absurd h (Nat.not_lt_zero _)⟩
  | succ n ih =>
    obtain ⟨top,keep,written⟩ := ih (s.push v)
    rw [List.replicate_succ,List.foldl_cons]
    refine ⟨by rw [top]; simp only [push]; omega,fun p mem => keep p (.tail _ mem),fun i lt => ?_⟩
    cases i with
    | zero => simpa using keep _ (.head _)
    | succ i =>
      have : s.top + ((i + 1 : Nat) : Int) = (s.push v).top + i := by simp only [push]; omega
      exact this ▸ written i (by omega)

theorem vmLoop_go_addLiterals {env : VmEnv} {v : Nat}
    (step : ∀ s rest, vmStep env (vmLiteralEncoding env.flags env.statusFlags) ⟨0x76 :: 0 :: 0 :: rest,s⟩ =
      .ok (⟨rest,s.push v⟩,false)) (n fuel : Nat) (rest : List UInt8) (s : VmStack) :
    vmLoop.go env (n + fuel) ⟨(List.replicate n [0x76,0,0]).flatten ++ rest,s⟩ =
      vmLoop.go env fuel ⟨rest,(List.replicate n v).foldl VmStack.push s⟩ := by
  induction n generalizing s with
  | zero => simp
  | succ n ih =>
    rw [Nat.add_right_comm,vmLoop.go]
    simp only [List.replicate_succ,List.flatten_cons,List.cons_append,List.nil_append,step,List.foldl_cons]
    exact ih (s.push v)

theorem vmStackUnchecked (env : VmEnv) (notExt : env.tables.extOpcode ≠ 0x76 ∧ env.tables.extOpcode ≠ 0x08)
    (plain : env.identEnd = 0) (bare : env.tables.zeroOperand = .none ∧ env.tables.zeroPost = .none) :
    (∃ v, ∀ n fuel rest, ∃ s, vmLoop.go env (n + fuel) ⟨(List.replicate n [0x76,0,0]).flatten ++ rest,.empty⟩ =
      vmLoop.go env fuel ⟨rest,s⟩ ∧ s.top = n ∧ ∀ i : Nat, i < n → ((i : Int),v) ∈ s.slots) ∧
    ∀ fuel s rest, vmLoop.go env (fuel + 1) ⟨0x08 :: rest,s⟩ =
      vmLoop.go env fuel ⟨rest,{ s with top := s.top - 1 }⟩ := by
  refine ⟨?_,fun fuel s rest => ?_⟩
  · obtain ⟨v,step⟩ := vmStep_addLiterals env notExt.1 plain (vmLiteralEncoding env.flags env.statusFlags)
    refine ⟨v,fun n fuel rest => ?_⟩
    obtain ⟨top,-,written⟩ := VmStack.foldl_push_slots v n .empty
    exact ⟨_,vmLoop_go_addLiterals step n fuel rest .empty,by simpa [VmStack.empty] using top,
      fun i lt => by simpa [VmStack.empty] using written i lt⟩
  · simp only [vmLoop.go,vmStep,vmReadByte,Ne.symm notExt.2,vmDecodeCbc,bind,Except.bind,pure,Except.pure,
      if_false,ne_eq,not_false_eq_true,if_true,bare,vmLeftOperand,vmRightOperand,vmGroup,vmPostProcess]
    rfl

/-- `ADD` of two literals (`0x76`) pushes into slot 0 and moves the cursor to 1; the `ADD` of two
stack values (`0x74`) that follows reads its left operand at the cursor, slot 1, which no push has
written, and its right operand then fails the assertion. -/
theorem vmStackFetchUnwritten (env : VmEnv)
    (notExt : env.tables.extOpcode ≠ 0x76 ∧ env.tables.extOpcode ≠ 0x74) (plain : env.identEnd = 0)
    (fuel : Nat) :
    (∃ v, vmStep env (vmLiteralEncoding env.flags env.statusFlags) ⟨[0x76,0,0,0x74],.empty⟩ =
        .ok (⟨[0x74],⟨[(0,v)],1⟩⟩,false)) ∧
      (∀ v, (VmStack.mk [(0,v)] 1).fetch = .ok (none,⟨[(0,v)],0⟩)) ∧
      vmLoop env (fuel + 2) ⟨[0x76,0,0,0x74],.empty⟩ = .error .assertion := by
  have first : ∃ v, vmStep env (vmLiteralEncoding env.flags env.statusFlags) ⟨[0x76,0,0,0x74],.empty⟩ =
      .ok (⟨[0x74],⟨[(0,v)],1⟩⟩,false) := by
    simp only [vmStep,vmReadByte,Ne.symm notExt.1,vmDecodeCbc,bind,Except.bind,pure,Except.pure,if_false,
      ne_eq,not_false_eq_true,if_true,vmLeftOperand,vmRightOperand,vmReadLiteral,
      vmDecodeLiteral_of_lt _ (by decide : (0 : UInt8).toNat < 128),plain,Nat.not_lt_zero]
    split_ifs <;> exact ⟨_,rfl⟩
  have fetch : ∀ v, (VmStack.mk [(0,v)] 1).fetch = .ok (none,⟨[(0,v)],0⟩) := fun _ => rfl
  have second : ∀ v, vmStep env (vmLiteralEncoding env.flags env.statusFlags) ⟨[0x74],⟨[(0,v)],1⟩⟩ = .error .assertion := by
    intro v
    simp only [vmStep,vmReadByte,Ne.symm notExt.2,vmDecodeCbc,bind,Except.bind,pure,Except.pure,if_false,
      ne_eq,not_false_eq_true,if_true,vmLeftOperand,vmRightOperand,fetch]
    rfl
  obtain ⟨v,step⟩ := first
  refine ⟨⟨v,step⟩,fetch,?_⟩
  simp only [vmLoop,vmLoop.go,bind,Except.bind,step,second]
  rfl

def sampleVmEnv : VmEnv where
  tables := ⟨0,0,fun _ => ⟨.none,.none,.other,.none⟩,fun _ => ⟨.none,.none,.other,.none⟩,.none,.none⟩
  flags := ⟨2,0⟩
  statusFlags := 0
  argumentEnd := 0
  registerEnd := 0
  identEnd := 0
  literal := id
  getIdent := .ok
  opAdd := (· + ·)
  opReturn := fun _ v => v
  callN := fun _ _ s => s

example := vmStackUnchecked sampleVmEnv ⟨by decide,by decide⟩ rfl ⟨rfl,rfl⟩

theorem vmStackFetchUnwritten_sample :
    (sampleVmEnv.tables.extOpcode ≠ 0x76 ∧ sampleVmEnv.tables.extOpcode ≠ 0x74) ∧
      sampleVmEnv.identEnd = 0 ∧
      ((∃ v, vmStep sampleVmEnv (vmLiteralEncoding sampleVmEnv.flags sampleVmEnv.statusFlags)
          ⟨[0x76,0,0,0x74],.empty⟩ = .ok (⟨[0x74],⟨[(0,v)],1⟩⟩,false)) ∧
        (∀ v, (VmStack.mk [(0,v)] 1).fetch = .ok (none,⟨[(0,v)],0⟩)) ∧
        vmLoop sampleVmEnv 2 ⟨[0x76,0,0,0x74],.empty⟩ = .error .assertion) :=
  ⟨by decide,rfl,vmStackFetchUnwritten sampleVmEnv (by decide) rfl 0⟩

end JerryParser
