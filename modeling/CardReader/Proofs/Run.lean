import CardReader.Frame.Answer

namespace CardReader.Run

variable {ε κ α β : Type}

theorem bind_ok {x : EStateM ε κ α} {s t : κ} {a : α} (h : x s = .ok a t)
    (f : α → EStateM ε κ β) : (x >>= f) s = f a t := by
  change EStateM.bind x f s = f a t
  rw [EStateM.bind, h]

theorem bind_error {x : EStateM ε κ α} {s t : κ} {e : ε} (h : x s = .error e t)
    (f : α → EStateM ε κ β) : (x >>= f) s = .error e t := by
  change EStateM.bind x f s = .error e t
  rw [EStateM.bind, h]

theorem of_bind_ok {x : EStateM ε κ α} {f : α → EStateM ε κ β} {s u : κ} {b : β}
    (h : (x >>= f) s = .ok b u) : ∃ a t, x s = .ok a t ∧ f a t = .ok b u := by
  cases hx : x s with
  | ok a t =>
    rw [bind_ok hx] at h
    exact ⟨a, t, rfl, h⟩
  | error e t =>
    rw [bind_error hx] at h
    contradiction

@[simp] theorem pure_run (a : α) (s : κ) : (pure a : EStateM ε κ α) s = .ok a s := rfl

@[simp] theorem pure_bind_run (a : α) (f : α → EStateM ε κ β) (s : κ) :
    ((pure a : EStateM ε κ α) >>= f) s = f a s := rfl

@[simp] theorem throw_bind_run (e : ε) (f : α → EStateM ε κ β) (s : κ) :
    ((throw e : EStateM ε κ α) >>= f) s = .error e s := rfl

@[simp] theorem get_bind_run (f : κ → EStateM ε κ β) (s : κ) :
    ((get : EStateM ε κ κ) >>= f) s = f s s := rfl

@[simp] theorem set_bind_run (t : κ) (f : PUnit → EStateM ε κ β) (s : κ) :
    ((set t : EStateM ε κ PUnit) >>= f) s = f ⟨⟩ t := rfl

@[simp] theorem modify_bind_run (g : κ → κ) (f : PUnit → EStateM ε κ β) (s : κ) :
    ((modify g : EStateM ε κ PUnit) >>= f) s = f ⟨⟩ (g s) := rfl

@[simp] theorem ok_bind (a : α) (f : α → Except ε β) : (Except.ok a >>= f) = f a := rfl

@[simp] theorem error_bind (e : ε) (f : α → Except ε β) :
    ((Except.error e : Except ε α) >>= f) = .error e := rfl

theorem of_bind_eq_ok {x : Except ε α} {f : α → Except ε β} {b : β} (h : (x >>= f) = .ok b) :
    ∃ a, x = .ok a ∧ f a = .ok b := by
  cases x with
  | ok a => exact ⟨a, rfl, h⟩
  | error e => contradiction

theorem guarded_ok {c : Prop} [Decidable c] {e : ε} {f : PUnit → Except ε α} {a : α}
    (h : (if c then (throw e : Except ε PUnit) >>= f else f ⟨⟩) = .ok a) :
    ¬ c ∧ f ⟨⟩ = .ok a := by
  by_cases hc : c
  · rw [if_pos hc] at h
    contradiction
  · rw [if_neg hc] at h
    exact ⟨hc, h⟩

theorem of_guarded_ok {c : Prop} [Decidable c] {e : ε} {f : PUnit → EStateM ε κ α} {s t : κ} {a : α}
    (h : (if c then (throw e : EStateM ε κ PUnit) >>= f else f ⟨⟩) s = .ok a t) :
    ¬ c ∧ f ⟨⟩ s = .ok a t := by
  by_cases hc : c
  · rw [if_pos hc] at h
    contradiction
  · rw [if_neg hc] at h
    exact ⟨hc, h⟩

theorem guarded_failed {c : Prop} [Decidable c] {e e' : ε} {f : PUnit → Except ε α}
    (h : (if c then (throw e : Except ε PUnit) >>= f else f ⟨⟩) = .error e') :
    c ∧ e' = e ∨ ¬ c ∧ f ⟨⟩ = .error e' := by
  by_cases hc : c
  · rw [if_pos hc] at h
    exact .inl ⟨hc, (Except.error.inj h).symm⟩
  · rw [if_neg hc] at h
    exact .inr ⟨hc, h⟩

theorem guarded_error {c : Prop} [Decidable c] {e e' : ε} {f : PUnit → Except ε α}
    (h : (if c then (throw e : Except ε PUnit) >>= f else f ⟨⟩) = .error e') :
    e' = e ∨ f ⟨⟩ = .error e' := (guarded_failed h).imp And.right And.right

def succeeded : EStateM.Result ε κ α → Bool
  | .ok _ _ => true
  | .error _ _ => false

theorem succeeded_iff (out : EStateM.Result ε κ α) : succeeded out ↔ ∃ a t, out = .ok a t := by
  cases out with
  | ok a t => exact iff_of_true rfl ⟨a, t, rfl⟩
  | error e t =>
    refine iff_of_false Bool.false_ne_true ?_
    rintro ⟨a, u, h⟩
    contradiction

def after : EStateM.Result ε κ α → κ
  | .ok _ t => t
  | .error _ t => t

def outcome : EStateM.Result ε κ α → Except ε α
  | .ok a _ => .ok a
  | .error e _ => .error e

theorem bind_outcome_ok {x : EStateM ε κ α} {s : κ} {a : α} (h : outcome (x s) = .ok a)
    (f : α → EStateM ε κ β) : (x >>= f) s = f a (after (x s)) := by
  cases hx : x s with
  | ok a' t =>
    rw [hx] at h
    rw [bind_ok hx, Except.ok.inj h]
    rfl
  | error e t =>
    rw [hx] at h
    contradiction

theorem bind_outcome_error {x : EStateM ε κ α} {s : κ} {e : ε} (h : outcome (x s) = .error e)
    (f : α → EStateM ε κ β) : (x >>= f) s = .error e (after (x s)) := by
  cases hx : x s with
  | ok a t =>
    rw [hx] at h
    contradiction
  | error e' t =>
    rw [hx] at h
    rw [bind_error hx, Except.error.inj h]
    rfl

/-- However `x` ends, `R` relates the state before to the state after. -/
def Keeps (R : κ → κ → Prop) (x : EStateM ε κ α) : Prop := ∀ s, R s (after (x s))

/-- Relations that sequences of steps keep when their steps do. -/
structure Closed (R : κ → κ → Prop) : Prop where
  refl : ∀ s, R s s
  trans : ∀ {s t u}, R s t → R t u → R s u

theorem closed_eq : Closed (fun s t : κ => t = s) where
  refl _ := rfl
  trans hst htu := htu.trans hst

namespace Keeps

variable {R : κ → κ → Prop}

theorem of_ok {x : EStateM ε κ α} {s t : κ} {a : α} (hx : Keeps R x) (h : x s = .ok a t) :
    R s t := by
  have hs := hx s
  rw [h] at hs
  exact hs

theorem of_error {x : EStateM ε κ α} {s t : κ} {e : ε} (hx : Keeps R x) (h : x s = .error e t) :
    R s t := by
  have hs := hx s
  rw [h] at hs
  exact hs

theorem pure (hR : Closed R) (a : α) : Keeps R (Pure.pure a : EStateM ε κ α) :=
  fun s => hR.refl s

theorem throw (hR : Closed R) (e : ε) : Keeps R (MonadExcept.throw e : EStateM ε κ α) :=
  fun s => hR.refl s

theorem get (hR : Closed R) : Keeps R (MonadState.get : EStateM ε κ κ) := fun s => hR.refl s

theorem change {g : κ → κ} (hg : ∀ s, R s (g s)) : Keeps R (modify g : EStateM ε κ PUnit) := hg

theorem extend (hR : Closed R) {x : EStateM ε κ α} {f : α → EStateM ε κ β} {r s : κ}
    (hx : R r (after (x s))) (hf : ∀ a, Keeps R (f a)) : R r (after ((x >>= f) s)) := by
  cases h : x s with
  | ok a t =>
    rw [h] at hx
    rw [bind_ok h]
    exact hR.trans hx (hf a t)
  | error e t =>
    rw [h] at hx
    rw [bind_error h]
    exact hx

theorem bind (hR : Closed R) {x : EStateM ε κ α} {f : α → EStateM ε κ β} (hx : Keeps R x)
    (hf : ∀ a, Keeps R (f a)) : Keeps R (x >>= f) := fun s => extend hR (hx s) hf

theorem ite {c : Prop} [Decidable c] {x y : EStateM ε κ α} (hx : Keeps R x) (hy : Keeps R y) :
    Keeps R (if c then x else y) := by
  by_cases h : c
  · rw [if_pos h]
    exact hx
  · rw [if_neg h]
    exact hy

theorem guarded (hR : Closed R) {c : Prop} [Decidable c] (e : ε) {f : PUnit → EStateM ε κ α}
    (hf : Keeps R (f ⟨⟩)) :
    Keeps R (if c then (MonadExcept.throw e : EStateM ε κ PUnit) >>= f else f ⟨⟩) := by
  apply ite _ hf
  intro s
  rw [throw_bind_run]
  exact hR.refl s

end Keeps

/-- If `x` fails, `E` holds of the failure. -/
def Fails (E : ε → Prop) (x : EStateM ε κ α) : Prop := ∀ s e t, x s = .error e t → E e

namespace Fails

variable {E : ε → Prop}

theorem pure (a : α) : Fails E (Pure.pure a : EStateM ε κ α) := by
  intro s e t h
  contradiction

theorem any (hE : ∀ e, E e) {x : EStateM ε κ α} : Fails E x := fun _ e _ _ => hE e

theorem get : Fails E (MonadState.get : EStateM ε κ κ) := by
  intro s e t h
  contradiction

theorem change (g : κ → κ) : Fails E (modify g : EStateM ε κ PUnit) := by
  intro s e t h
  contradiction

theorem put (t : κ) : Fails E (set t : EStateM ε κ PUnit) := by
  intro s e u h
  contradiction

theorem throw {e : ε} (he : E e) : Fails E (MonadExcept.throw e : EStateM ε κ α) := by
  intro s e' t h
  injection h with he' _
  rw [← he']
  exact he

theorem bind {x : EStateM ε κ α} {f : α → EStateM ε κ β} (hx : Fails E x)
    (hf : ∀ a, Fails E (f a)) : Fails E (x >>= f) := by
  intro s e t h
  cases hrun : x s with
  | ok a u =>
    rw [bind_ok hrun] at h
    exact hf a u e t h
  | error e' u =>
    rw [bind_error hrun] at h
    injection h with he _
    rw [← he]
    exact hx s e' u hrun

theorem ite {c : Prop} [Decidable c] {x y : EStateM ε κ α} (hx : Fails E x) (hy : Fails E y) :
    Fails E (if c then x else y) := by
  by_cases h : c
  · rw [if_pos h]
    exact hx
  · rw [if_neg h]
    exact hy

theorem guarded {c : Prop} [Decidable c] {e : ε} (he : E e) {f : PUnit → EStateM ε κ α}
    (hf : Fails E (f ⟨⟩)) :
    Fails E (if c then (MonadExcept.throw e : EStateM ε κ PUnit) >>= f else f ⟨⟩) :=
  ite (bind (throw he) fun _ => hf) hf

end Fails

end CardReader.Run

namespace CardReader.Coding

open Run

variable {κ ι α : Type}

theorem ofExcept_keeps {R : κ → κ → Prop} (hR : Closed R) (out : Except FrameError α) :
    Keeps R (ofExcept out : Coding κ α) := by
  cases out with
  | ok a => exact Keeps.pure hR a
  | error e => exact Keeps.throw hR e

theorem ofExcept_fails {E : FrameError → Prop} {out : Except FrameError α}
    (h : ∀ e, out = .error e → E e) : Fails E (ofExcept out : Coding κ α) := by
  cases out with
  | ok a => exact Fails.pure a
  | error e => exact Fails.throw (h e rfl)

theorem after_onPart (get : κ → ι) (set : ι → κ → κ) (step : Coding ι α) (k : κ) :
    after (onPart get set step k) = set (after (step (get k))) k := by
  unfold onPart
  cases step (get k) with
  | ok a i => rfl
  | error e i => rfl

theorem onPart_fails {E : FrameError → Prop} (get : κ → ι) (set : ι → κ → κ) {step : Coding ι α}
    (h : Fails E step) : Fails E (onPart get set step) := by
  intro k e k' hrun
  unfold onPart at hrun
  cases hstep : step (get k) with
  | ok a i =>
    rw [hstep] at hrun
    contradiction
  | error e' i =>
    rw [hstep] at hrun
    injection hrun with he _
    rw [← he]
    exact h _ _ _ hstep

end CardReader.Coding
