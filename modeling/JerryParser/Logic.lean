import JerryParser.Frames

/-! Reasoning about parser code: how each monadic step evaluates on a context, how a normal
return of a sequence splits into normal returns of its steps, and `Triple P m R Q`, that from a
context where `P` holds `m` returns into `R` or fails into `Q`, with its rules. -/
namespace JerryParser

variable {α β γ : Type}

@[simp] theorem get_apply (c : ParserContext) :
    (get : ParserM ParserContext) c = .ok (c,c) := rfl

@[simp] theorem set_apply (c c' : ParserContext) : (set c' : ParserM Unit) c = .ok ((),c') := rfl

@[simp] theorem modify_apply (g : ParserContext → ParserContext) (c : ParserContext) :
    (modify g : ParserM Unit) c = .ok ((),g c) := rfl

@[simp] theorem modifyGet_apply (g : ParserContext → α × ParserContext) (c : ParserContext) :
    (modifyGet g : ParserM α) c = .ok (g c) := rfl

@[simp] theorem pure_apply (a : α) (c : ParserContext) : (pure a : ParserM α) c = .ok (a,c) := rfl

theorem bind_apply (m : ParserM α) (k : α → ParserM β) (c : ParserContext) :
    (m >>= k) c = match m c with
      | .ok (a,c') => k a c'
      | .error e => .error e := by
  show (m c).bind _ = _
  cases m c <;> rfl

theorem ite_bind {p : Prop} [Decidable p] (m m' : ParserM α) (k : α → ParserM β) :
    (if p then m else m') >>= k = if p then m >>= k else m' >>= k := by
  split <;> rfl

theorem bind_ok {m : ParserM α} {k : α → ParserM β} {c c'' : ParserContext} {b : β} :
    (m >>= k) c = .ok (b,c'') ↔ ∃ a c', m c = .ok (a,c') ∧ k a c' = .ok (b,c'') := by
  rw [bind_apply]
  cases h : m c with
  | error e => simp
  | ok p =>
    obtain ⟨a,c'⟩ := p
    simp only [Except.ok.injEq, Prod.mk.injEq]
    exact ⟨fun h => ⟨a,c',⟨rfl,rfl⟩,h⟩,fun ⟨_,_,⟨ha,hc⟩,h⟩ => ha ▸ hc ▸ h⟩

theorem map_ok {m : ParserM α} {g : α → β} {c c' : ParserContext} {b : β} :
    (g <$> m) c = .ok (b,c') ↔ ∃ a, m c = .ok (a,c') ∧ g a = b := by
  show (m >>= fun a => pure (g a)) c = _ ↔ _
  simp only [bind_ok, pure_apply, Except.ok.injEq, Prod.mk.injEq]
  constructor
  · rintro ⟨a,c'',h,rfl,rfl⟩
    exact ⟨a,h,rfl⟩
  · rintro ⟨a,h,rfl⟩
    exact ⟨a,c',h,rfl,rfl⟩

@[simp] theorem parserRaiseError_apply (e : ParserError) (c : ParserContext) :
    (parserRaiseError e : ParserM α) c = .error ⟨.error e,c⟩ := rfl

@[simp] theorem parserUndefined_apply (c : ParserContext) :
    (parserUndefined : ParserM α) c = .error ⟨.undefined,c⟩ := rfl

theorem parserAssert_ok {b : Bool} {c c' : ParserContext} {u : Unit} :
    parserAssert b c = .ok (u,c') ↔ b = true ∧ c' = c := by
  cases b <;> simp [parserAssert, eq_comm]

theorem orUndefined_ok {o : Option α} {c c' : ParserContext} {a : α} :
    orUndefined o c = .ok (a,c') ↔ o = some a ∧ c' = c := by
  cases o <;> simp [orUndefined, eq_comm]

theorem bind_error {m : ParserM α} {k : α → ParserM β} {c : ParserContext} {f : ParserFailure} :
    (m >>= k) c = .error f ↔
      m c = .error f ∨ ∃ a c', m c = .ok (a,c') ∧ k a c' = .error f := by
  rw [bind_apply]
  cases h : m c with
  | error e => simp
  | ok p =>
    obtain ⟨a,c'⟩ := p
    simp only [Except.ok.injEq, Prod.mk.injEq, reduceCtorEq, false_or]
    exact ⟨fun h => ⟨a,c',⟨rfl,rfl⟩,h⟩,fun ⟨_,_,⟨ha,hc⟩,h⟩ => ha ▸ hc ▸ h⟩

def Triple (P : ParserContext → Prop) (m : ParserM α) (R : α → ParserContext → Prop)
    (Q : ParserContext → Prop) : Prop :=
  ∀ c, P c → (∀ a c', m c = .ok (a,c') → R a c') ∧ (∀ f, m c = .error f → Q f.context)

namespace Triple

variable {P Q : ParserContext → Prop} {R : α → ParserContext → Prop}

theorem bind {m : ParserM α} {k : α → ParserM β} {S : β → ParserContext → Prop}
    (hm : Triple P m R Q) (hk : ∀ a, Triple (R a) (k a) S Q) : Triple P (m >>= k) S Q := by
  intro c hc
  refine ⟨fun b c'' h => ?_,fun f h => ?_⟩
  · obtain ⟨a,c',first,rest⟩ := bind_ok.mp h
    exact (hk a c' ((hm c hc).1 a c' first)).1 b c'' rest
  · rcases bind_error.mp h with first | ⟨a,c',first,rest⟩
    · exact (hm c hc).2 f first
    · exact (hk a c' ((hm c hc).1 a c' first)).2 f rest

theorem weaken {P' Q' : ParserContext → Prop} {R' : α → ParserContext → Prop} {m : ParserM α}
    (hm : Triple P m R Q) (hP : ∀ c, P' c → P c) (hR : ∀ a c, R a c → R' a c)
    (hQ : ∀ c, Q c → Q' c) : Triple P' m R' Q' :=
  fun c hc => ⟨fun a c' h => hR a c' ((hm c (hP c hc)).1 a c' h),
    fun f h => hQ _ ((hm c (hP c hc)).2 f h)⟩

end Triple

section

variable {P Q : ParserContext → Prop}

theorem triple_modifyGet (g : ParserContext → α × ParserContext) {R : α → ParserContext → Prop}
    (hg : ∀ c, P c → R (g c).1 (g c).2) : Triple P (modifyGet g : ParserM α) R Q := by
  refine fun c hc => ⟨fun a c' h => ?_,fun _ h => (nomatch h)⟩
  rw [modifyGet_apply, Except.ok.injEq] at h
  simpa [h] using hg c hc

theorem triple_pure (a : α) {R : α → ParserContext → Prop} (h : ∀ c, P c → R a c) :
    Triple P (pure a : ParserM α) R Q :=
  triple_modifyGet (fun c => (a,c)) h

theorem triple_get {R : ParserContext → ParserContext → Prop} (h : ∀ c, P c → R c c) :
    Triple P (get : ParserM ParserContext) R Q :=
  triple_modifyGet (fun c => (c,c)) h

theorem triple_modify {g : ParserContext → ParserContext} {R : Unit → ParserContext → Prop}
    (hg : ∀ c, P c → R () (g c)) : Triple P (modify g : ParserM Unit) R Q :=
  triple_modifyGet (fun c => ((),g c)) hg

theorem Triple.map {m : ParserM α} {g : α → β} {R : α → ParserContext → Prop}
    (hm : Triple P m R Q) : Triple P (g <$> m) (fun b c => ∃ a, g a = b ∧ R a c) Q :=
  show Triple P (m >>= fun a => pure (g a)) _ Q from
    hm.bind fun a => triple_pure _ fun _ hc => ⟨a,rfl,hc⟩

theorem triple_get_bind {k : ParserContext → ParserM α} {R : α → ParserContext → Prop}
    (hk : ∀ d, Triple (fun c => P c ∧ c = d) (k d) R Q) : Triple P (get >>= k) R Q :=
  fun c hc => hk c c ⟨hc,rfl⟩

theorem triple_ite {p : Prop} [Decidable p] {m m' : ParserM α} {R : α → ParserContext → Prop}
    (hm : p → Triple P m R Q) (hm' : ¬p → Triple P m' R Q) :
    Triple P (if p then m else m') R Q := by
  split
  · exact hm ‹_›
  · exact hm' ‹_›

section

variable (hPQ : ∀ c, P c → Q c)
include hPQ

theorem triple_raiseError {R : α → ParserContext → Prop} (e : ParserError) :
    Triple P (parserRaiseError e : ParserM α) R Q :=
  fun c hc => ⟨fun _ _ h => (nomatch h),fun _ h => by cases h; exact hPQ c hc⟩

theorem triple_raiseError_bind {R : β → ParserContext → Prop} (e : ParserError)
    (k : α → ParserM β) : Triple P (parserRaiseError e >>= k) R Q := fun c hc => by
  have run : (parserRaiseError e >>= k) c = .error ⟨.error e,c⟩ := rfl
  exact ⟨fun _ _ h => (by rw [run] at h; cases h),fun _ h => by rw [run] at h; cases h; exact hPQ c hc⟩

theorem triple_unless {p : Prop} [Decidable p] {R : α → ParserContext → Prop} (e : ParserError)
    {k : PUnit → ParserM α} (hk : ¬p → Triple P (k ()) R Q) :
    Triple P (if p then parserRaiseError e >>= k else pure PUnit.unit >>= k) R Q :=
  triple_ite (fun _ => triple_raiseError_bind hPQ e k)
    fun hp => (triple_pure _ fun _ h => h).bind fun _ => hk hp

theorem triple_outOfFuel {R : α → ParserContext → Prop} :
    Triple P (fun ctx => .error ⟨.outOfFuel,ctx⟩ : ParserM α) R Q :=
  fun c hc => ⟨fun _ _ h => (nomatch h),fun _ h => by cases h; exact hPQ c hc⟩

theorem triple_undefined {R : α → ParserContext → Prop} :
    Triple P (parserUndefined : ParserM α) R Q :=
  fun c hc => ⟨fun _ _ h => (nomatch h),fun _ h => by cases h; exact hPQ c hc⟩

theorem triple_assert (b : Bool) {R : Unit → ParserContext → Prop} (hR : ∀ c, P c → b = true → R () c) :
    Triple P (parserAssert b) R Q := by
  intro c hc
  refine ⟨fun _ _ h => ?_,fun _ h => ?_⟩ <;> cases b <;> simp only [parserAssert] at h <;> cases h
  · exact hR c hc rfl
  · exact hPQ c hc

theorem triple_assert_bind (b : Bool) {k : Unit → ParserM α} {R : α → ParserContext → Prop}
    (hk : b = true → Triple P (k ()) R Q) : Triple P (parserAssert b >>= k) R Q := by
  cases b with
  | false =>
    intro c hc
    have run : (parserAssert false >>= k) c = .error ⟨.assertion,c⟩ := rfl
    exact ⟨fun _ _ h => (by rw [run] at h; cases h),fun _ h => by rw [run] at h; cases h; exact hPQ c hc⟩
  | true => exact fun c hc => hk rfl c hc

theorem triple_orUndefined (o : Option α) {R : α → ParserContext → Prop}
    (hR : ∀ c a, P c → o = some a → R a c) : Triple P (orUndefined o) R Q := by
  cases o with
  | none => exact triple_undefined hPQ
  | some a => exact triple_pure a fun c hc => hR c a hc rfl

end

end

end JerryParser
