/-!
# Effects

An effect runs in a state, ends with a result or a failure, and leaves a state in both
cases: what happened before a failure has happened.
-/

namespace FtpControl

structure Effect (ε σ α : Type) where
  run : σ → Except ε α × σ

namespace Effect

variable {ε ε' σ τ α β : Type}

instance : Monad (Effect ε σ) where
  pure a := ⟨fun s => (.ok a, s)⟩
  bind m f := ⟨fun s =>
    match m.run s with
    | (.ok a, s) => (f a).run s
    | (.error e, s) => (.error e, s)⟩

@[simp] theorem run_pure (a : α) (s : σ) : (pure a : Effect ε σ α).run s = (.ok a, s) := rfl

theorem run_bind (m : Effect ε σ α) (f : α → Effect ε σ β) (s : σ) :
    (m >>= f).run s =
      match m.run s with
      | (.ok a, s) => (f a).run s
      | (.error e, s) => (.error e, s) := rfl

@[ext] theorem ext {m n : Effect ε σ α} (h : ∀ s, m.run s = n.run s) : m = n := by
  cases m; cases n
  congr
  exact funext h

instance : LawfulMonad (Effect ε σ) := LawfulMonad.mk' _
  (fun m => by
    ext s : 1
    change (match m.run s with
      | (.ok a, s) => (.ok a, s)
      | (.error e, s) => (.error e, s)) = m.run s
    split <;> simp_all)
  (fun _ _ => rfl)
  (fun m f g => by
    ext s : 1
    simp only [run_bind]
    cases m.run s with
    | mk r s => cases r <;> rfl)

def fail (e : ε) : Effect ε σ α :=
  ⟨fun s => (.error e, s)⟩

def ofExcept : Except ε α → Effect ε σ α
  | .ok a => pure a
  | .error e => fail e

/-- The current state. -/
def state : Effect ε σ σ :=
  ⟨fun s => (.ok s, s)⟩

def update (f : σ → σ) : Effect ε σ Unit :=
  ⟨fun s => (.ok (), f s)⟩

/-- The outcome as a value; the effect itself does not fail. -/
def attempt (m : Effect ε σ α) : Effect ε' σ (Except ε α) :=
  ⟨fun s => (.ok (m.run s).1, (m.run s).2)⟩

/-- Goes on with `h` from the state in which `m` failed. -/
def rescue (m : Effect ε σ α) (h : ε → Effect ε' σ α) : Effect ε' σ α :=
  ⟨fun s =>
    match m.run s with
    | (.ok a, s) => (.ok a, s)
    | (.error e, s) => (h e).run s⟩

/-- Runs `last` after `m`, whatever came of it; a failure of `last` takes the place of the
outcome of `m`. -/
def ensure (m : Effect ε σ α) (last : Effect ε σ Unit) : Effect ε σ α :=
  ⟨fun s =>
    match last.run (m.run s).2 with
    | (.ok _, t) => ((m.run s).1, t)
    | (.error e, t) => (.error e, t)⟩

/-- Runs an effect on a part of the state. -/
def zoom (get : σ → τ) (put : σ → τ → σ) (m : Effect ε τ α) : Effect ε σ α :=
  ⟨fun s => ((m.run (get s)).1, put s (m.run (get s)).2)⟩

@[simp] theorem run_fail (e : ε) (s : σ) : (fail e : Effect ε σ α).run s = (.error e, s) := rfl

@[simp] theorem run_state (s : σ) : (state : Effect ε σ σ).run s = (.ok s, s) := rfl

@[simp] theorem run_update (f : σ → σ) (s : σ) :
    (update f : Effect ε σ Unit).run s = (.ok (), f s) := rfl

@[simp] theorem run_attempt (m : Effect ε σ α) (s : σ) :
    (attempt m : Effect ε' σ (Except ε α)).run s = (.ok (m.run s).1, (m.run s).2) := rfl

theorem run_rescue (m : Effect ε σ α) (h : ε → Effect ε' σ α) (s : σ) :
    (m.rescue h).run s =
      match m.run s with
      | (.ok a, s) => (.ok a, s)
      | (.error e, s) => (h e).run s := rfl

theorem run_ensure (m : Effect ε σ α) (last : Effect ε σ Unit) (s : σ) :
    (m.ensure last).run s =
      match last.run (m.run s).2 with
      | (.ok _, t) => ((m.run s).1, t)
      | (.error e, t) => (.error e, t) := rfl

@[simp] theorem run_zoom (get : σ → τ) (put : σ → τ → σ) (m : Effect ε τ α) (s : σ) :
    (m.zoom get put).run s = ((m.run (get s)).1, put s (m.run (get s)).2) := rfl

end Effect

end FtpControl
