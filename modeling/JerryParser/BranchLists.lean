import JerryParser.WithFlag

/-! The lists of branch nodes that loop, label and switch records hold: each a chain of
`parser_branch_node_t` cells from the record's head through `next_p`. Freeing a chain node by
node leaves every chain apart from it in place, and `parser_free_jumps`, walked from the top of
the frames down to their `START` byte, frees exactly the nodes of the lists they hold. -/
namespace JerryParser

inductive Chain (nodes : List (Nat × ParserBranchNode)) : Option Nat → List Nat → Prop
  | none : Chain nodes none []
  | some {p : Nat} {n : ParserBranchNode} {ps : List Nat} (read : nodes.lookup p = some n)
      (next : Chain nodes n.nextP ps) : Chain nodes (some p) (p :: ps)

inductive Chains (nodes : List (Nat × ParserBranchNode)) : List (Option Nat) → List Nat → Prop
  | nil : Chains nodes [] []
  | cons {head : Option Nat} {heads : List (Option Nat)} {ps qs : List Nat}
      (first : Chain nodes head ps) (rest : Chains nodes heads qs) :
      Chains nodes (head :: heads) (ps ++ qs)

def ParserFrame.lists : ParserFrame → List (Option Nat)
  | .label r => [r.breakListP]
  | .switchStatement _ loop r => [r.branchListP,loop.branchListP]
  | .doWhileStatement loop _ | .whileStatement loop _ | .forStatement loop _
  | .forInStatement loop _ => [loop.branchListP]
  | _ => []

def frameLists (fs : List ParserFrame) : List (Option Nat) := fs.flatMap ParserFrame.lists

@[simp] theorem frameLists_nil : frameLists [] = [] := rfl

@[simp] theorem frameLists_cons (f : ParserFrame) (fs : List ParserFrame) :
    frameLists (f :: fs) = f.lists ++ frameLists fs := rfl

@[simp] theorem frameLists_append (fs gs : List ParserFrame) :
    frameLists (fs ++ gs) = frameLists fs ++ frameLists gs :=
  List.flatMap_append ..

def freeAll (c : ParserContext) (ps : List Nat) : ParserContext :=
  { c with nodes := c.nodes.filter fun q => q.1 ∉ ps }

section

variable {nodes nodes' : List (Nat × ParserBranchNode)} {head : Option Nat}
  {heads : List (Option Nat)} {ps qs : List Nat} {c : ParserContext}

theorem lookup_filter {P : Nat × ParserBranchNode → Bool} {q : Nat} (keep : ∀ n, P (q,n) = true) :
    (nodes.filter P).lookup q = nodes.lookup q := by
  induction nodes with
  | nil => rfl
  | cons e nodes ih =>
    obtain ⟨k,n⟩ := e
    by_cases same : q = k
    · subst same
      simp [List.filter_cons, keep, List.lookup_cons]
    · have ne : (q == k) = false := beq_false_of_ne same
      cases kept : P (k,n) <;> simp [List.filter_cons, kept, List.lookup_cons, ne, ih]

theorem mem_keys_of_lookup {q : Nat} {n : ParserBranchNode} (h : nodes.lookup q = some n) :
    q ∈ nodes.map Prod.fst := by
  induction nodes with
  | nil => cases h
  | cons e nodes ih =>
    obtain ⟨k,m⟩ := e
    by_cases same : q = k
    · simp [same]
    · simp only [List.lookup_cons, beq_false_of_ne same] at h
      exact List.mem_cons_of_mem _ (ih h)

theorem Chain.congr (h : Chain nodes head ps)
    (same : ∀ q ∈ ps, nodes'.lookup q = nodes.lookup q) : Chain nodes' head ps := by
  induction h with
  | none => exact .none
  | some read _ ih =>
    exact .some ((same _ (List.mem_cons_self _ _)).trans read)
      (ih fun q hq => same q (List.mem_cons_of_mem _ hq))

theorem Chains.congr (h : Chains nodes heads ps)
    (same : ∀ q ∈ ps, nodes'.lookup q = nodes.lookup q) : Chains nodes' heads ps := by
  induction h with
  | nil => exact .nil
  | cons first _ ih =>
    exact .cons (first.congr fun q hq => same q (List.mem_append_left _ hq))
      (ih fun q hq => same q (List.mem_append_right _ hq))

theorem Chain.subset_keys (h : Chain nodes head ps) : ps ⊆ nodes.map Prod.fst := by
  induction h with
  | none => exact List.nil_subset _
  | some read _ ih => exact List.cons_subset.mpr ⟨mem_keys_of_lookup read,ih⟩

theorem Chain.length_le (h : Chain nodes head ps) (nodup : ps.Nodup) :
    ps.length ≤ nodes.length := by
  simpa using (List.subperm_of_subset nodup h.subset_keys).length_le

theorem Chains.split {heads' : List (Option Nat)} (h : Chains nodes (heads ++ heads') ps) :
    ∃ qs rs, ps = qs ++ rs ∧ Chains nodes heads qs ∧ Chains nodes heads' rs := by
  induction heads generalizing ps with
  | nil => exact ⟨[],ps,rfl,.nil,h⟩
  | cons head heads ih =>
    cases h with
    | cons first rest =>
      obtain ⟨qs,rs,rfl,left,right⟩ := ih rest
      exact ⟨_,rs,(List.append_assoc _ _ _).symm,.cons first left,right⟩

@[simp] theorem freeAll_stack (c : ParserContext) (ps : List Nat) : (freeAll c ps).stack = c.stack :=
  rfl

@[simp] theorem freeAll_nextNode (c : ParserContext) (ps : List Nat) :
    (freeAll c ps).nextNode = c.nextNode :=
  rfl

@[simp] theorem freeAll_nodes (c : ParserContext) (ps : List Nat) :
    (freeAll c ps).nodes = c.nodes.filter fun q => q.1 ∉ ps := rfl

theorem freeAll_nil (c : ParserContext) : freeAll c [] = c := by
  simp [freeAll]

theorem freeAll_freeAll (c : ParserContext) (ps qs : List Nat) :
    freeAll (freeAll c ps) qs = freeAll c (ps ++ qs) := by
  simp only [freeAll, List.filter_filter]
  congr
  funext q
  simp [Bool.and_comm]

theorem free_eq_freeAll (c : ParserContext) (p : Nat) : free c p = freeAll c [p] := by
  simp only [free, freeAll, List.mem_singleton]
  congr
  funext q
  rw [Bool.eq_iff_iff]
  simp

theorem Chain.freeAll (h : Chain c.nodes head ps) (apart : ∀ q ∈ ps, q ∉ qs) :
    Chain (freeAll c qs).nodes head ps :=
  h.congr fun q hq => lookup_filter fun _ => by simpa using apart q hq

theorem Chains.freeAll (h : Chains c.nodes heads ps) (apart : ∀ q ∈ ps, q ∉ qs) :
    Chains (freeAll c qs).nodes heads ps :=
  h.congr fun q hq => lookup_filter fun _ => by simpa using apart q hq

theorem freeList_chain {fuel : Nat} (h : Chain c.nodes head ps) (nodup : ps.Nodup)
    (fuel_ok : ps.length ≤ fuel) : freeList fuel head c = .ok ((),freeAll c ps) := by
  induction fuel generalizing c head ps with
  | zero =>
    obtain rfl := List.length_eq_zero.mp (Nat.le_zero.mp fuel_ok)
    cases h
    rw [freeAll_nil]
    rfl
  | succ fuel ih =>
    cases h with
    | none =>
      rw [freeAll_nil]
      rfl
    | @some p n ps read next =>
      obtain ⟨fresh,nodup⟩ := List.nodup_cons.mp nodup
      have rest := ih (c := free c p) (by
        rw [free_eq_freeAll]
        exact next.freeAll fun q hq => by
          simp only [List.mem_singleton]
          rintro rfl
          exact fresh hq) nodup (by simpa using fuel_ok)
      rw [free_eq_freeAll, freeAll_freeAll, List.singleton_append] at rest
      simp only [freeList, bind_apply, get_apply, read, orUndefined, pure_apply, modify_apply,
        free_eq_freeAll, rest]

theorem freeNodes_chain (h : Chain c.nodes head ps) (nodup : ps.Nodup) :
    freeNodes head c = .ok ((),freeAll c ps) := by
  simp only [freeNodes, bind_apply, get_apply]
  exact freeList_chain h nodup (h.length_le nodup)

theorem setBreaksLoop_nodes {E : ParserEnv} {fuel : Nat} {c' : ParserContext}
    (h : Chain c.nodes head ps) (nodup : ps.Nodup) (ok : setBreaksLoop E fuel head c = .ok ((),c')) :
    c'.nodes = (freeAll c ps).nodes ∧ c'.nextNode = c.nextNode := by
  induction fuel generalizing c head ps with
  | zero =>
    cases h with
    | none => cases ok; simp [freeAll_nil]
    | some => cases ok
  | succ fuel ih =>
    cases h with
    | none => cases ok; simp [freeAll_nil]
    | @some p n ps read next =>
      obtain ⟨fresh,nodup⟩ := List.nodup_cons.mp nodup
      obtain ⟨_,_,⟨rfl,rfl⟩,ok⟩ := bind_ok.mp ok
      obtain ⟨_,d,found,ok⟩ := bind_ok.mp ok
      rw [read, orUndefined_ok] at found
      obtain ⟨found,hd⟩ := found
      cases found
      rw [hd] at ok
      obtain ⟨c1,same,ok⟩ : ∃ c1, untouched c1 = untouched c ∧
          (modify (fun ctx => free ctx p) >>= fun _ => setBreaksLoop E fuel n.nextP) c1 =
            .ok ((),c') := by
        split at ok
        · obtain ⟨_,c1,patch,ok⟩ := bind_ok.mp ok
          exact ⟨c1,(keeps_setBranch _).keeps _ _ _ patch,ok⟩
        · exact ⟨_,rfl,ok⟩
      obtain ⟨_,_,⟨rfl,rfl⟩,ok⟩ := bind_ok.mp ok
      simp only [untouched, Prod.mk.injEq] at same
      have later := ih (c := free c1 p) (by
        rw [free_eq_freeAll]
        exact (same.2.1 ▸ next).freeAll fun q hq => by
          simp only [List.mem_singleton]
          rintro rfl
          exact fresh hq) nodup ok
      rw [free_eq_freeAll, freeAll_freeAll, List.singleton_append] at later
      simpa [same.2.1, same.2.2] using later

def drainThen {α : Type} (heads : List (Option Nat)) (k : ParserM α) : ParserM α :=
  heads.foldr (fun head m => freeNodes head >>= fun _ => m) k

theorem drainThen_chains {α : Type} {k : ParserM α} (h : Chains c.nodes heads ps)
    (nodup : ps.Nodup) : drainThen heads k c = k (freeAll c ps) := by
  induction heads generalizing c ps with
  | nil =>
    cases h
    rw [freeAll_nil]
    rfl
  | cons head heads ih =>
    cases h with
    | cons first rest =>
      obtain ⟨nodup₁,nodup₂,apart⟩ := List.nodup_append.mp nodup
      have later := ih (rest.freeAll fun _ hq hq' => apart hq' hq) nodup₂
      simp only [drainThen, List.foldr_cons, bind_apply, freeNodes_chain first nodup₁] at later ⊢
      rw [later, freeAll_freeAll]

end

structure HoldsChains (nodes : List (Nat × ParserBranchNode)) (next : Nat)
    (heads : List (Option Nat)) (ps : List Nat) : Prop where
  chains : Chains nodes heads ps
  nodup : ps.Nodup
  exact : (nodes.map Prod.fst).Perm ps
  below : ∀ p ∈ ps, p < next

def Owns (nodes : List (Nat × ParserBranchNode)) (next : Nat) (heads : List (Option Nat)) :
    Prop :=
  ∃ ps, HoldsChains nodes next heads ps

def updateAt (p : Nat) (g : ParserBranchNode → ParserBranchNode)
    (nodes : List (Nat × ParserBranchNode)) : List (Nat × ParserBranchNode) :=
  nodes.map fun (q,n) => if q = p then (q,g n) else (q,n)

section

variable {nodes : List (Nat × ParserBranchNode)} {next : Nat} {head : Option Nat}
  {heads heads' : List (Option Nat)} {ps qs rs : List Nat}

theorem Chains.perm (h : Chains nodes heads ps) (hp : heads.Perm heads') :
    ∃ ps', Chains nodes heads' ps' ∧ ps.Perm ps' := by
  induction hp generalizing ps with
  | nil => exact ⟨ps,h,.refl _⟩
  | cons _ _ ih =>
    cases h with
    | cons first rest =>
      obtain ⟨_,rest',perm⟩ := ih rest
      exact ⟨_,.cons first rest',perm.append_left _⟩
  | swap =>
    cases h with
    | cons first rest =>
      cases rest with
      | cons second rest =>
        exact ⟨_,.cons second (.cons first rest),
          by simpa only [List.append_assoc] using List.perm_append_comm.append_right _⟩
  | trans _ _ ih₁ ih₂ =>
    obtain ⟨_,h₁,p₁⟩ := ih₁ h
    obtain ⟨rs,h₂,p₂⟩ := ih₂ h₁
    exact ⟨rs,h₂,p₁.trans p₂⟩

theorem Owns.perm (h : Owns nodes next heads) (hp : heads.Perm heads') : Owns nodes next heads' :=
  have ⟨_,chains,nodup,exact,below⟩ := h
  have ⟨ps',chains',perm⟩ := chains.perm hp
  ⟨ps',chains',perm.nodup_iff.mp nodup,exact.trans perm,fun p hp => below p (perm.mem_iff.mpr hp)⟩

theorem Owns.nones (hs : List (Option Nat)) (none : ∀ h ∈ hs, h = none) :
    Owns nodes next (hs ++ heads) ↔ Owns nodes next heads := by
  induction hs with
  | nil => rfl
  | cons h hs ih =>
    obtain rfl := none h (List.mem_cons_self _ _)
    rw [← ih fun h' mem => none h' (List.mem_cons_of_mem _ mem)]
    constructor
    · rintro ⟨_,chains,nodup,exact,below⟩
      cases chains with
      | cons first rest =>
        cases first
        exact ⟨_,rest,nodup,exact,below⟩
    · rintro ⟨ps,chains,nodup,exact,below⟩
      exact ⟨ps,.cons .none chains,nodup,exact,below⟩

theorem Owns.nil (h : Owns nodes next []) : nodes = [] := by
  obtain ⟨_,chains,-,exact,-⟩ := h
  cases chains
  simpa using exact

theorem Chain.alloc {x : ParserBranchNode} (h : Chain nodes head ps) (below : ∀ p ∈ ps, p < next) :
    Chain ((next,x) :: nodes) head ps :=
  h.congr fun q hq => by rw [List.lookup_cons, beq_false_of_ne (below q hq).ne]

theorem Chains.alloc {x : ParserBranchNode} (h : Chains nodes heads ps)
    (below : ∀ p ∈ ps, p < next) : Chains ((next,x) :: nodes) heads ps :=
  h.congr fun q hq => by rw [List.lookup_cons, beq_false_of_ne (below q hq).ne]

theorem Owns.alloc (h : Owns nodes next (head :: heads)) (branch : ParserBranch) :
    Owns ((next,⟨head,branch⟩) :: nodes) (next + 1) (some next :: heads) := by
  obtain ⟨_,chains,nodup,exact,below⟩ := h
  cases chains with
  | cons first rest =>
    have fresh : next ∉ _ := fun mem => Nat.lt_irrefl _ (below next mem)
    refine ⟨next :: _,.cons (.some List.lookup_cons_self
      (first.alloc fun p hp => below p (List.mem_append_left _ hp)))
      (rest.alloc fun p hp => below p (List.mem_append_right _ hp)),
      List.nodup_cons.mpr ⟨fresh,nodup⟩,exact.cons next,?_⟩
    intro p hp
    rcases List.mem_cons.mp hp with rfl | hp
    · exact Nat.lt_succ_self _
    · exact Nat.lt_succ_of_lt (below p hp)

theorem lookup_updateAt {p q : Nat} {g : ParserBranchNode → ParserBranchNode} :
    (updateAt p g nodes).lookup q = if q = p then (nodes.lookup q).map g else nodes.lookup q := by
  induction nodes with
  | nil => simp [updateAt]
  | cons e nodes ih =>
    obtain ⟨k,x⟩ := e
    have head : (if k = p then (k,g x) else (k,x)) = (k,if k = p then g x else x) := by
      split <;> rfl
    show ((if k = p then (k,g x) else (k,x)) :: updateAt p g nodes).lookup q = _
    rw [head, List.lookup_cons, List.lookup_cons, ih]
    by_cases hq : q = k
    · subst hq
      by_cases hp : q = p <;> simp [hp]
    · simp [beq_false_of_ne hq]

@[simp] theorem keys_updateAt {p : Nat} {g : ParserBranchNode → ParserBranchNode} :
    (updateAt p g nodes).map Prod.fst = nodes.map Prod.fst := by
  simp only [updateAt, List.map_map]
  congr
  funext e
  simp only [Function.comp]
  split <;> rfl

theorem Chain.update {p : Nat} {g : ParserBranchNode → ParserBranchNode}
    (h : Chain nodes head ps) (hg : ∀ x, (g x).nextP = x.nextP) :
    Chain (updateAt p g nodes) head ps := by
  induction h with
  | none => exact .none
  | @some q x _ read _ ih =>
    refine .some (n := if q = p then g x else x) ?_ ?_
    · rw [lookup_updateAt, read]
      split <;> rfl
    · split
      · rwa [hg]
      · exact ih

theorem Chains.update {p : Nat} {g : ParserBranchNode → ParserBranchNode}
    (h : Chains nodes heads ps) (hg : ∀ x, (g x).nextP = x.nextP) :
    Chains (updateAt p g nodes) heads ps := by
  induction h with
  | nil => exact .nil
  | cons first _ ih => exact .cons (first.update hg) ih

theorem Owns.update {p : Nat} {g : ParserBranchNode → ParserBranchNode}
    (h : Owns nodes next heads) (hg : ∀ x, (g x).nextP = x.nextP) :
    Owns (updateAt p g nodes) next heads :=
  have ⟨ps,chains,nodup,exact,below⟩ := h
  ⟨ps,chains.update hg,nodup,by rwa [keys_updateAt],below⟩

theorem Chains.update_apart {p : Nat} {g : ParserBranchNode → ParserBranchNode}
    (h : Chains nodes heads ps) (apart : p ∉ ps) : Chains (updateAt p g nodes) heads ps :=
  h.congr fun q hq => by rw [lookup_updateAt, if_neg (show q ≠ p from fun same => apart (same ▸ hq))]

theorem Chain.snoc {l q : Nat} {y : ParserBranchNode} (h : Chain nodes head ps)
    (last : ps.getLast? = Option.some l) (nodup : ps.Nodup) (fresh : q ∉ ps)
    (read : nodes.lookup q = Option.some y) (ends : y.nextP = Option.none) :
    Chain (updateAt l (fun n => { n with nextP := Option.some q }) nodes) head (ps ++ [q]) := by
  induction h with
  | none => cases last
  | @some p x ps read' next ih =>
    have notLast : q ≠ l := fun same => fresh (same ▸ List.mem_of_getLast?_eq_some last)
    rcases ps with _ | ⟨p',ps⟩
    · obtain rfl : p = l := by simpa using last
      refine Chain.some (n := { x with nextP := Option.some q })
        (by rw [lookup_updateAt, if_pos rfl, read']; rfl) ?_
      exact Chain.some (by rw [lookup_updateAt, if_neg notLast, read]) (ends ▸ Chain.none)
    · obtain ⟨out,nodup⟩ := List.nodup_cons.mp nodup
      have ne : p ≠ l := fun same =>
        out (same ▸ List.mem_of_getLast?_eq_some (by simpa using last))
      exact Chain.some (by rw [lookup_updateAt, if_neg ne, read'])
        (ih (by simpa using last) nodup (fun mem => fresh (List.mem_cons_of_mem _ mem)))

theorem HoldsChains.remove (h : HoldsChains nodes next heads (qs ++ rs))
    (others : Chains nodes heads' rs) :
    HoldsChains (nodes.filter fun e => e.1 ∉ qs) next heads' rs := by
  obtain ⟨-,nodup,exact,below⟩ := h
  obtain ⟨-,nodup',apart⟩ := List.nodup_append.mp nodup
  have outside : ∀ q ∈ rs, q ∉ qs := fun q hr hq => apart hq hr
  refine ⟨others.congr fun q hq => lookup_filter fun _ => by simpa using outside q hq,nodup',?_,
    fun p hp => below p (List.mem_append_right _ hp)⟩
  have gone : qs.filter (fun q => decide (q ∉ qs)) = [] := List.filter_eq_nil_iff.mpr (by simp)
  have kept : rs.filter (fun q => decide (q ∉ qs)) = rs :=
    List.filter_eq_self.mpr (by simpa using outside)
  have perm := exact.filter fun q => decide (q ∉ qs)
  rw [List.filter_append, gone, kept, List.nil_append, List.filter_map] at perm
  exact perm

theorem Owns.allocAt {hs : List (Option Nat)} (h : Owns nodes next (hs ++ head :: heads))
    (branch : ParserBranch) :
    Owns ((next,⟨head,branch⟩) :: nodes) (next + 1) (hs ++ some next :: heads) :=
  ((h.perm List.perm_middle).alloc branch).perm List.perm_middle.symm

theorem Owns.take {p : Nat} {n : ParserBranchNode} (h : Owns nodes next (some p :: heads))
    (read : nodes.lookup p = some n) :
    Owns (nodes.filter fun e => e.1 ∉ [p]) next (n.nextP :: heads) := by
  obtain ⟨_,chains,nodup,exact,below⟩ := h
  cases chains with
  | @cons _ _ _ qs first rest =>
    cases first with
    | @some _ _ ps read' next' =>
      obtain rfl := Option.some.inj (read'.symm.trans read)
      have whole : HoldsChains nodes next _ ((p :: ps) ++ qs) :=
        ⟨.cons (.some read' next') rest,nodup,exact,below⟩
      exact ⟨_,HoldsChains.remove (show HoldsChains nodes next _ ([p] ++ (ps ++ qs)) from whole)
        (.cons next' rest)⟩

theorem Chain.unique (h : Chain nodes head ps) (h' : Chain nodes head qs) : ps = qs := by
  induction h generalizing qs with
  | none => cases h'; rfl
  | some read _ ih =>
    cases h' with
    | some read' next' =>
      obtain rfl := Option.some.inj (read.symm.trans read')
      rw [ih next']

def CasesEnd (nodes : List (Nat × ParserBranchNode)) (head last : Option Nat) : Prop :=
  ∃ ps, Chain nodes head ps ∧ ps.getLast? = last

theorem Owns.firstCase (h : Owns nodes next (none :: heads)) (branch : ParserBranch) :
    Owns ((next,⟨none,branch⟩) :: nodes) (next + 1) (some next :: heads) ∧
      CasesEnd ((next,⟨none,branch⟩) :: nodes) (some next) (some next) :=
  ⟨h.alloc branch,[next],.some List.lookup_cons_self .none,rfl⟩

theorem Owns.appendCase {l : Nat} (h : Owns nodes next (head :: heads))
    (ends : CasesEnd nodes head (some l)) (branch : ParserBranch) :
    Owns (updateAt l (fun n => { n with nextP := some next }) ((next,⟨none,branch⟩) :: nodes))
        (next + 1) (head :: heads) ∧
      CasesEnd (updateAt l (fun n => { n with nextP := some next })
        ((next,⟨none,branch⟩) :: nodes)) head (some next) := by
  obtain ⟨ps,chain,last⟩ := ends
  obtain ⟨_,chains,nodup,exact,below⟩ := h
  cases chains with
  | @cons _ _ ps' qs first rest =>
    obtain rfl := chain.unique first
    have fresh : next ∉ ps ++ qs := fun mem => Nat.lt_irrefl _ (below _ mem)
    have apart : l ∉ qs := (List.nodup_append.mp nodup).2.2 (List.mem_of_getLast?_eq_some last)
    have chain' := (first.alloc fun p hp => below p (List.mem_append_left _ hp)).snoc last
      (List.nodup_append.mp nodup).1 (fun mem => fresh (List.mem_append_left _ mem))
      List.lookup_cons_self (rfl : (⟨none,branch⟩ : ParserBranchNode).nextP = none)
    have middle : ps ++ [next] ++ qs = ps ++ next :: qs := by simp
    refine ⟨⟨_,.cons chain' ((rest.alloc fun p hp => below p (List.mem_append_right _ hp)).update_apart
      apart),?_,?_,?_⟩,_,chain',by simp⟩
    · rw [middle]
      exact List.perm_middle.nodup_iff.mpr (List.nodup_cons.mpr ⟨fresh,nodup⟩)
    · rw [keys_updateAt, middle]
      exact (exact.cons next).trans List.perm_middle.symm
    · intro p hp
      rw [middle, List.mem_append, List.mem_cons] at hp
      rcases hp with hp | rfl | hp
      · exact Nat.lt_succ_of_lt (below p (List.mem_append_left _ hp))
      · exact Nat.lt_succ_self _
      · exact Nat.lt_succ_of_lt (below p (List.mem_append_right _ hp))

end

section

variable {E : ParserEnv} {c : ParserContext} {above below : List ParserStackItem}
  {f : ParserFrame} {rest : List ParserFrame}

theorem switchFrameHeight (L : ParserLayout) (hasDefault : Bool) (loop : ParserLoopStatement)
    (r : ParserSwitchStatement) (rest : List ParserFrame) (below : List ParserStackItem) :
    frameHeight L (.switchStatement hasDefault loop r :: rest) below - 1 - L.loopStatement -
      L.switchStatement = frameHeight L rest below := by
  simp only [frameHeight_cons, ParserFrame.items, ParserFrame.records, List.map, stackHeight_cons,
    ParserStackItem.size, ParserRecord.size, stackHeight_nil]
  omega

theorem parserFreeJumps_cons {fuel : Nat} (h : StackAt c above (f :: rest) below) :
    parserFreeJumps E (fuel + 1) (frameHeight E.layout (f :: rest) below) c =
      drainThen f.lists (parserFreeJumps E fuel (frameHeight E.layout rest below)) c := by
  simp only [parserFreeJumps, bind_apply, h.readTag, tag_beq_start, Bool.false_eq_true, if_false,
    parserStatementLengthOf_tag, frameHeight_skip, drainThen]
  have len : ∀ d, parserStatementLengthOf E f.tag d = .ok (stackHeight E.layout f.items,d) :=
    parserStatementLengthOf_tag f
  cases f with
  | label r =>
    simp only [ParserFrame.tag, beq_self_eq_true, if_true, bind_apply, h.readRecord rfl,
      ParserRecord.asLabel, orUndefined, pure_apply, labelFrameHeight, ParserFrame.lists,
      List.foldr]
  | switchStatement hasDefault loop r =>
    have second := h.readSecond (E := E) (r := .loopStatement loop) rfl
    simp only [ParserRecord.size] at second
    cases hasDefault <;>
    simp +decide only [ParserFrame.tag, if_true, if_false, bind_apply, h.readRecord rfl, second,
      ParserRecord.asLoop, ParserRecord.asSwitch, orUndefined, pure_apply, switchFrameHeight,
      ParserFrame.lists, List.foldr]
  | doWhileStatement loop r | whileStatement loop r | forStatement loop r
  | forInStatement loop r =>
    simp only [ParserFrame.tag] at len
    simp +decide only [ParserFrame.tag, if_true, if_false, isLoopStatement, bind_apply,
      h.readRecord rfl, ParserRecord.asLoop, orUndefined, pure_apply, ParserFrame.lists, List.foldr,
      len, frameHeight_skip]
  | block | ifStatement _ | elseStatement _ | withStatement _ | tryStatement _ =>
    simp only [ParserFrame.tag] at len
    simp +decide only [ParserFrame.tag, if_true, if_false, isLoopStatement, ParserFrame.lists,
      List.foldr, pure_apply, bind_apply, len, frameHeight_skip]

theorem parserFreeJumps_eq {fuel : Nat} {ps : List Nat} (h : StackAt c above rest below)
    (fuel_ok : rest.length < fuel) (chains : Chains c.nodes (frameLists rest) ps)
    (nodup : ps.Nodup) :
    parserFreeJumps E fuel (frameHeight E.layout rest below) c = .ok ((),freeAll c ps) := by
  induction rest generalizing c above fuel ps with
  | nil =>
    obtain ⟨fuel,rfl⟩ : ∃ n, fuel = n + 1 := ⟨fuel - 1,by simp at fuel_ok; omega⟩
    cases chains
    simp only [parserFreeJumps, bind_apply, h.readStart, freeAll_nil]
    rfl
  | cons f rest ih =>
    obtain ⟨fuel,rfl⟩ : ∃ n, fuel = n + 1 := ⟨fuel - 1,by simp at fuel_ok; omega⟩
    rw [frameLists_cons] at chains
    obtain ⟨qs,rs,rfl,mine,others⟩ := chains.split
    obtain ⟨nodup₁,nodup₂,apart⟩ := List.nodup_append.mp nodup
    rw [parserFreeJumps_cons h, drainThen_chains mine nodup₁,
      ih (c := freeAll c qs) h.next (by simpa using fuel_ok)
        (others.freeAll fun _ hq hq' => apart hq' hq) nodup₂,
      freeAll_freeAll]

end

section

variable {E : ParserEnv}

/-- When a parse fails with a statement designated, the stack holds the frames between the
pre-scanner's bytes and the `START` byte that `parser_free_jumps (last_statement)` starts from,
and from the top of any such frames it frees exactly the nodes of the branch lists they hold,
when those are chains apart from each other. -/
theorem freeJumpsFreesFrameLists {c : ParserContext} {it : Nat}
    (designated : Designated E.layout c) (last : c.lastStatement = some it) :
    (∃ (bytes : List UInt8) (fs : List ParserFrame) (below : List ParserStackItem),
      c.stack.items = bytes.map .uint8 ++ (frameItems fs ++ .uint8 parserStatementStart :: below) ∧
      it = frameHeight E.layout fs below) ∧
    ∀ (bytes : List UInt8) (fs : List ParserFrame) (below : List ParserStackItem),
      c.stack.items = bytes.map .uint8 ++ (frameItems fs ++ .uint8 parserStatementStart :: below) →
      it = frameHeight E.layout fs below →
      ∀ ps fuel, Chains c.nodes (frameLists fs) ps → ps.Nodup → fs.length < fuel →
        parserFreeJumps E fuel it c = .ok ((),freeAll c ps) := by
  refine ⟨?_,fun bytes fs below items height _ _ chains nodup fuel_ok => ?_⟩
  · obtain cleared | ⟨bytes,fs,below,items,designates⟩ := designated
    · simp [last] at cleared
    · rw [last, Option.some.injEq] at designates
      exact ⟨bytes,fs,below,items,designates⟩
  · subst height
    exact parserFreeJumps_eq (show StackAt c (bytes.map .uint8) fs below from items) fuel_ok chains nodup

def breakFailSource : List SourceLexeme :=
  [kw "while",pu .leftParen,kw "x",pu .rightParen,pu .leftBrace,kw "break",pu .semicolon,
    pu .rightParen]

theorem freeJumpsFreesFrameLists_breakFail :
    ∃ f, parserParseStatements (sampleEnv breakFailSource) 20
        (sampleContext breakFailSource programFlags) = .error f ∧
      f.context.lastStatement = some 27 ∧ f.context.nodes ≠ [] ∧
      (∃ (bytes : List UInt8) (fs : List ParserFrame) (below : List ParserStackItem),
        f.context.stack.items =
          bytes.map .uint8 ++ (frameItems fs ++ .uint8 parserStatementStart :: below) ∧
        27 = frameHeight sampleLayout fs below) ∧
      parserFreeJumps (sampleEnv breakFailSource) 3 27 f.context = .ok ((),freeAll f.context [0]) ∧
      (freeAll f.context [0]).nodes = [] := by
  have failed := eq_error_of_failedWith (a := .error .primaryExpExpected)
    (r := parserParseStatements (sampleEnv breakFailSource) 20
      (sampleContext breakFailSource programFlags)) (by decide!)
  have designated := (parserParseStatements_triple 20 (sampleContext breakFailSource programFlags)
    ⟨rfl,rfl,rfl,rfl⟩).2 _ failed
  obtain ⟨split,frees⟩ := freeJumpsFreesFrameLists designated (by decide! : _ = some 27)
  refine ⟨_,failed,by decide!,by decide!,split,frees [] [.block,.whileStatement ⟨some 0⟩ ⟨⟨0,false⟩,⟨2,3⟩,3⟩]
    [] (by decide!) (by decide!) [0] 3 ?_ (by decide) (by decide),by decide!⟩
  exact .cons (.some (n := ⟨none,⟨1,false⟩⟩) (by decide!) .none) .nil

end

end JerryParser
