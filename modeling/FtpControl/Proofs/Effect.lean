import FtpControl.Live
import Mathlib.Tactic

/-!
# Reasoning about effects

Judgements about every run of an effect. `Keeps R m`: the state after `m` stands in the
relation `R` to the state before, whatever the outcome. `Meets P m Q E`: from a state with
`P`, a result satisfies `Q` and a failure satisfies `E`, each together with the state it
leaves. `Fails E m`: a failure satisfies `E`, wherever the run began. `Escapes E m s`: the run
from `s` ends in a failure without `E`. `Alike R m m'`: from states in the relation `R`, both
effects have the same outcome and leave states in the relation. There is one rule for each way
of composing effects.
-/

namespace FtpControl.Effect

variable {ε ε' σ τ α β : Type}

theorem run_bind_ok {m : Effect ε σ α} {f : α → Effect ε σ β} {s t : σ} {a : α}
    (h : m.run s = (.ok a, t)) : (m >>= f).run s = (f a).run t := by
  rw [run_bind, h]

theorem run_bind_error {m : Effect ε σ α} {f : α → Effect ε σ β} {s t : σ} {e : ε}
    (h : m.run s = (.error e, t)) : (m >>= f).run s = (.error e, t) := by
  rw [run_bind, h]

theorem run_rescue_ok {m : Effect ε σ α} {h : ε → Effect ε' σ α} {s t : σ} {a : α}
    (hm : m.run s = (.ok a, t)) : (m.rescue h).run s = (.ok a, t) := by
  rw [run_rescue, hm]

theorem run_rescue_error {m : Effect ε σ α} {h : ε → Effect ε' σ α} {s t : σ} {e : ε}
    (hm : m.run s = (.error e, t)) : (m.rescue h).run s = (h e).run t := by
  rw [run_rescue, hm]

theorem run_map (f : α → β) (m : Effect ε σ α) (s : σ) :
    (f <$> m).run s = ((m.run s).1.map f, (m.run s).2) := by
  rw [map_eq_pure_bind, run_bind]
  rcases m.run s with ⟨e | a, t⟩ <;> rfl

theorem fst_run_ensure (m : Effect ε σ α) (last : Effect ε σ Unit) (s : σ) :
    ((m.ensure last).run s).1 = (last.run (m.run s).2).1.bind fun _ => (m.run s).1 := by
  rw [run_ensure]
  rcases last.run (m.run s).2 with ⟨e | ⟨⟩, t⟩ <;> rfl

theorem snd_run_ensure (m : Effect ε σ α) (last : Effect ε σ Unit) (s : σ) :
    ((m.ensure last).run s).2 = (last.run (m.run s).2).2 := by
  rw [run_ensure]
  rcases last.run (m.run s).2 with ⟨e | ⟨⟩, t⟩ <;> rfl

/-! ## Relations kept by every run -/

def Keeps (R : σ → σ → Prop) (m : Effect ε σ α) : Prop :=
  ∀ s, R s (m.run s).2

namespace Keeps

variable {R : σ → σ → Prop}

theorem imp {R' : σ → σ → Prop} {m : Effect ε σ α} (h : Keeps R m) (hR : ∀ s t, R s t → R' s t) :
    Keeps R' m :=
  fun s => hR _ _ (h s)

theorem update {f : σ → σ} (h : ∀ s, R s (f s)) : Keeps R (.update f : Effect ε σ Unit) := h

/-- What follows a look at the state is judged in the very state that was seen. -/
theorem read {f : σ → Effect ε σ α} (h : ∀ s, R s ((f s).run s).2) :
    Keeps R (Effect.state >>= f) := h

theorem attempt {m : Effect ε σ α} (hm : Keeps R m) :
    Keeps R (attempt m : Effect ε' σ (Except ε α)) := hm

theorem ite {p : Prop} [Decidable p] {m n : Effect ε σ α} (hm : Keeps R m) (hn : Keeps R n) :
    Keeps R (if p then m else n) := by
  split_ifs
  · exact hm
  · exact hn

variable [IsPreorder σ R]

theorem pure (a : α) : Keeps R (Pure.pure a : Effect ε σ α) :=
  fun s => refl_of R s

theorem fail (e : ε) : Keeps R (Effect.fail e : Effect ε σ α) :=
  fun s => refl_of R s

/-- Nothing follows a failure. -/
theorem failed {e : ε} {f : α → Effect ε σ β} : Keeps R (Effect.fail e >>= f) :=
  fail e

theorem state : Keeps R (Effect.state : Effect ε σ σ) :=
  fun s => refl_of R s

theorem ofExcept (r : Except ε α) : Keeps R (Effect.ofExcept r : Effect ε σ α) := by
  cases r with
  | ok a => exact pure a
  | error e => exact fail e

theorem given {r : Except ε α} {f : α → Effect ε σ β} (h : ∀ a, r = .ok a → Keeps R (f a)) :
    Keeps R (Effect.ofExcept r >>= f) := by
  cases r with
  | ok a => exact h a rfl
  | error e => exact fail e

theorem bind {m : Effect ε σ α} {f : α → Effect ε σ β} (hm : Keeps R m) (hf : ∀ a, Keeps R (f a)) :
    Keeps R (m >>= f) := by
  intro s
  have hs := hm s
  rw [run_bind]
  rcases hr : m.run s with ⟨a | e, t⟩
  · rw [hr] at hs
    exact hs
  · rw [hr] at hs
    exact trans_of R hs (hf _ _)

theorem map {m : Effect ε σ α} (f : α → β) (hm : Keeps R m) : Keeps R (f <$> m) := by
  rw [map_eq_pure_bind]
  exact hm.bind fun _ => pure _

theorem rescue {m : Effect ε σ α} {h : ε → Effect ε' σ α} (hm : Keeps R m)
    (hh : ∀ e, Keeps R (h e)) : Keeps R (m.rescue h) := by
  intro s
  have hs := hm s
  rw [run_rescue]
  rcases hr : m.run s with ⟨a | e, t⟩
  · rw [hr] at hs
    exact trans_of R hs (hh _ _)
  · rw [hr] at hs
    exact hs

theorem ensure {m : Effect ε σ α} {last : Effect ε σ Unit} (hm : Keeps R m) (hl : Keeps R last) :
    Keeps R (m.ensure last) := by
  intro s
  have ht := trans_of R (hm s) (hl _)
  rw [run_ensure]
  rcases hr : last.run (m.run s).2 with ⟨a | e, t⟩ <;> rwa [hr] at ht

end Keeps

/-! ## Results and failures -/

def Meets (P : σ → Prop) (m : Effect ε σ α) (Q : α → σ → Prop) (E : ε → σ → Prop) : Prop :=
  ∀ s, P s →
    match m.run s with
    | (.ok a, t) => Q a t
    | (.error e, t) => E e t

namespace Meets

variable {P : σ → Prop} {Q : α → σ → Prop} {E : ε → σ → Prop}

theorem imp {P' : σ → Prop} {Q' : α → σ → Prop} {E' : ε → σ → Prop} {m : Effect ε σ α}
    (h : Meets P m Q E) (hP : ∀ s, P' s → P s) (hQ : ∀ a s, Q a s → Q' a s)
    (hE : ∀ e s, E e s → E' e s) : Meets P' m Q' E' := by
  intro s hs
  have ht := h s (hP s hs)
  rcases hr : m.run s with ⟨e | a, t⟩ <;> rw [hr] at ht
  · exact hE _ _ ht
  · exact hQ _ _ ht

theorem start {P' : σ → Prop} {m : Effect ε σ α} (h : Meets P m Q E) (hP : ∀ s, P' s → P s) :
    Meets P' m Q E :=
  fun s hs => h s (hP s hs)

theorem yields {Q' : α → σ → Prop} {m : Effect ε σ α} (h : Meets P m Q E)
    (hQ : ∀ a s, Q a s → Q' a s) : Meets P m Q' E :=
  h.imp (fun _ hs => hs) hQ fun _ _ hs => hs

theorem failing {E' : ε → σ → Prop} {m : Effect ε σ α} (h : Meets P m Q E)
    (hE : ∀ e s, E e s → E' e s) : Meets P m Q E' :=
  h.imp (fun _ hs => hs) (fun _ _ hs => hs) hE

theorem and {P' : σ → Prop} {Q' : α → σ → Prop} {E' : ε → σ → Prop} {m : Effect ε σ α}
    (h : Meets P m Q E) (h' : Meets P' m Q' E') :
    Meets (fun s => P s ∧ P' s) m (fun a s => Q a s ∧ Q' a s) fun e s => E e s ∧ E' e s := by
  intro s hs
  have ht := h s hs.1
  have ht' := h' s hs.2
  rcases hr : m.run s with ⟨e | a, t⟩ <;> rw [hr] at ht ht' <;> exact ⟨ht, ht'⟩

theorem assuming {p : Prop} {m : Effect ε σ α} (h : p → Meets P m Q E) :
    Meets (fun s => p ∧ P s) m Q E :=
  fun s hs => h hs.1 s hs.2

/-- What holds behind `m`, whatever came of it. -/
theorem leaves {I : σ → Prop} {m : Effect ε σ α} {s : σ} (h : Meets P m (fun _ => I) fun _ => I)
    (hs : P s) : I (m.run s).2 := by
  have ht := h s hs
  rcases hr : m.run s with ⟨e | a, t⟩ <;> rw [hr] at ht
  · exact ht
  · exact ht

theorem ofLeaves {I : σ → Prop} {m : Effect ε σ α} (h : ∀ s, P s → I (m.run s).2) :
    Meets P m (fun _ => I) fun _ => I := by
  intro s hs
  have ht := h s hs
  rcases hr : m.run s with ⟨e | a, t⟩ <;> rw [hr] at ht
  · exact ht
  · exact ht

/-- What holds behind `m`, whatever came of it, is where `last` begins. -/
theorem ensure {I J : σ → Prop} {m : Effect ε σ α} {last : Effect ε σ Unit}
    (hm : Meets P m (fun _ => I) fun _ => I) (hl : Meets I last (fun _ => J) fun _ => J) :
    Meets P (m.ensure last) (fun _ => J) fun _ => J := by
  intro s hs
  have hj := hl _ (hm.leaves hs)
  rw [run_ensure]
  rcases hr : last.run (m.run s).2 with ⟨e | a, t⟩ <;> rw [hr] at hj
  · exact hj
  · rcases hr' : (m.run s).1 with e | a <;> exact hj

/-- A last step leaves the outcome of `m` as it is, unless it fails itself. -/
theorem ensured {Q' : α → σ → Prop} {E' : ε → σ → Prop} {m : Effect ε σ α}
    {last : Effect ε σ Unit} (hm : Meets P m Q E)
    (hQ : ∀ a, Meets (Q a) last (fun _ => Q' a) E')
    (hE : ∀ e, Meets (E e) last (fun _ => E' e) E') :
    Meets P (m.ensure last) Q' E' := by
  intro s hs
  have ht := hm s hs
  rw [run_ensure]
  rcases hr : m.run s with ⟨e | a, t⟩ <;> rw [hr] at ht
  · have hu := hE e t ht
    rcases hl : last.run t with ⟨e' | ⟨⟩, u⟩ <;> rw [hl] at hu <;> exact hu
  · have hu := hQ a t ht
    rcases hl : last.run t with ⟨e' | ⟨⟩, u⟩ <;> rw [hl] at hu <;> exact hu

/-- An effect that cannot fail meets any condition on failures. -/
theorem sure {m : Effect ε σ α} (h : Meets P m Q fun _ _ => False) : Meets P m Q E :=
  h.failing fun _ _ hs => hs.elim

/-- The run of an effect that cannot fail. -/
theorem result {m : Effect ε σ α} {s : σ} (h : Meets P m Q fun _ _ => False) (hs : P s) :
    ∃ a t, m.run s = (.ok a, t) ∧ Q a t := by
  have ht := h s hs
  rcases hr : m.run s with ⟨e | a, t⟩ <;> rw [hr] at ht
  · exact ht.elim
  · exact ⟨a, t, rfl, ht⟩

/-- The run of an effect that can only fail. -/
theorem failure {m : Effect ε σ α} {s : σ} (h : Meets P m (fun _ _ => False) E) (hs : P s) :
    ∃ e t, m.run s = (.error e, t) ∧ E e t := by
  have ht := h s hs
  rcases hr : m.run s with ⟨e | a, t⟩ <;> rw [hr] at ht
  · exact ⟨e, t, rfl, ht⟩
  · exact ht.elim

theorem trivial (P : σ → Prop) (m : Effect ε σ α) :
    Meets P m (fun _ _ => True) fun _ _ => True := by
  intro s _
  rcases m.run s with ⟨e | a, t⟩ <;> exact True.intro

/-- What every run keeps holds of results and failures alike. -/
theorem ofKeeps {R : σ → σ → Prop} {P' : σ → Prop} {m : Effect ε σ α} (h : Keeps R m)
    (hR : ∀ s t, P s → R s t → P' t) : Meets P m (fun _ => P') (fun _ => P') :=
  .ofLeaves fun s hs => hR s _ hs (h s)

theorem pure {a : α} (h : ∀ s, P s → Q a s) : Meets P (Pure.pure a : Effect ε σ α) Q E := h

theorem fail {e : ε} (h : ∀ s, P s → E e s) : Meets P (Effect.fail e : Effect ε σ α) Q E := h

theorem failed {e : ε} {f : α → Effect ε σ β} {Q' : β → σ → Prop} (h : ∀ s, P s → E e s) :
    Meets P (Effect.fail e >>= f) Q' E := h

theorem value {a : α} {f : α → Effect ε σ β} {Q' : β → σ → Prop} (h : Meets P (f a) Q' E) :
    Meets P (Pure.pure a >>= f) Q' E := h

theorem update {f : σ → σ} {Q : Unit → σ → Prop} (h : ∀ s, P s → Q () (f s)) :
    Meets P (.update f : Effect ε σ Unit) Q E := h

theorem given {r : Except ε α} {f : α → Effect ε σ β} {Q' : β → σ → Prop}
    (hE : ∀ e, r = .error e → ∀ s, P s → E e s) (h : ∀ a, r = .ok a → Meets P (f a) Q' E) :
    Meets P (Effect.ofExcept r >>= f) Q' E := by
  cases r with
  | ok a => exact h a rfl
  | error e => exact fail (hE e rfl)

/-- The failure of `m` is a result like any other. -/
theorem attempt {E' : ε' → σ → Prop} {Q' : Except ε α → σ → Prop} {m : Effect ε σ α}
    (hm : Meets P m Q E) (hQ : ∀ a s, Q a s → Q' (.ok a) s) (hE : ∀ e s, E e s → Q' (.error e) s) :
    Meets P (Effect.attempt m) Q' E' := by
  intro s hs
  have ht := hm s hs
  rw [run_attempt]
  rcases hr : m.run s with ⟨e | a, t⟩ <;> rw [hr] at ht
  · exact hE e t ht
  · exact hQ a t ht

theorem bind {m : Effect ε σ α} {f : α → Effect ε σ β} {Q' : β → σ → Prop} (hm : Meets P m Q E)
    (hf : ∀ a, Meets (Q a) (f a) Q' E) : Meets P (m >>= f) Q' E := by
  intro s hs
  have ht := hm s hs
  rcases hr : m.run s with ⟨e | a, t⟩ <;> rw [hr] at ht
  · rw [run_bind_error hr]
    exact ht
  · rw [run_bind_ok hr]
    exact hf a t ht

theorem map {m : Effect ε σ α} {Q' : β → σ → Prop} (f : α → β)
    (hm : Meets P m (fun a => Q' (f a)) E) : Meets P (f <$> m) Q' E := by
  rw [map_eq_pure_bind]
  exact hm.bind fun _ => .pure fun _ hs => hs

/-- A step of which nothing need be known. -/
theorem skip {m : Effect ε σ α} {f : α → Effect ε σ β} {Q' : β → σ → Prop}
    (h : ∀ a, Meets (fun _ => True) (f a) Q' fun _ _ => True) :
    Meets P (m >>= f) Q' fun _ _ => True :=
  .bind (.trivial P m) h

theorem of_ok {m : Effect ε σ α} {s t : σ} {a : α} (h : Meets P m Q E) (hs : P s)
    (hr : m.run s = (.ok a, t)) : Q a t := by
  have ht := h s hs
  rw [hr] at ht
  exact ht

theorem ite {p : Prop} [Decidable p] {m n : Effect ε σ α} (hm : Meets P m Q E)
    (hn : Meets P n Q E) : Meets P (if p then m else n) Q E := by
  split_ifs
  · exact hm
  · exact hn

theorem rescue {E' : ε' → σ → Prop} {m : Effect ε σ α} {h : ε → Effect ε' σ α}
    (hm : Meets P m Q E) (hh : ∀ e, Meets (E e) (h e) Q E') : Meets P (m.rescue h) Q E' := by
  intro s hs
  have ht := hm s hs
  rw [run_rescue]
  rcases hr : m.run s with ⟨e | a, t⟩ <;> rw [hr] at ht
  · exact hh e t ht
  · exact ht

end Meets

theorem Keeps.ofMeets {R : σ → σ → Prop} {m : Effect ε σ α}
    (h : ∀ s, Meets (· = s) m (fun _ => R s) fun _ => R s) : Keeps R m :=
  fun s => (h s).leaves rfl

/-! ## Operations of things on a network -/

section Live

open Live

variable {R : Live σ → Live σ → Prop} {N : Network → Network → Prop} {S : Live τ → Live τ → Prop}

theorem run_look (f : σ → Effect ε (Live σ) α) (s : Live σ) :
    (Live.this >>= f).run s = (f s.self).run s := rfl

theorem run_change (f : σ → σ) (s : Live σ) :
    (Live.change f : Effect ε (Live σ) Unit).run s = (.ok (), { s with self := f s.self }) := rfl

theorem Keeps.change {f : σ → σ} (h : ∀ s, R s { s with self := f s.self }) :
    Keeps R (change f : Effect ε (Live σ) Unit) := h

theorem Keeps.call {m : Effect ε Network α} (hm : Keeps N m)
    (h : ∀ s net, N s.net net → R s { s with net := net }) :
    Keeps R (call m : Effect ε (Live σ) α) :=
  fun s => h s _ (hm s.net)

theorem Keeps.this [IsPreorder (Live σ) R] : Keeps R (this : Effect ε (Live σ) σ) :=
  fun s => refl_of R s

theorem Keeps.focus {get : σ → τ} {put : σ → τ → σ} {m : Effect ε (Live τ) α} (hm : Keeps S m)
    (h : ∀ s t, S ⟨get s.self, s.net⟩ t → R s ⟨put s.self t.self, t.net⟩) :
    Keeps R (focus get put m) :=
  fun s => h s _ (hm _)

theorem Keeps.lend {x : τ} {m : Effect ε (Live τ) α} (hm : Keeps S m)
    (h : ∀ s t, S ⟨x, s.net⟩ t → R s { s with net := t.net }) :
    Keeps R (lend x m : Effect ε (Live σ) α) :=
  fun s => h s _ (hm _)

variable {P : Live σ → Prop} {E : ε → Live σ → Prop}

theorem Meets.change {f : σ → σ} {Q : Unit → Live σ → Prop}
    (h : ∀ s, P s → Q () { s with self := f s.self }) :
    Meets P (change f : Effect ε (Live σ) Unit) Q E := h

theorem Meets.look {f : σ → Effect ε (Live σ) α} {Q : α → Live σ → Prop}
    (h : ∀ x, Meets (fun s => P s ∧ s.self = x) (f x) Q E) : Meets P (Live.this >>= f) Q E :=
  fun s hs => h s.self s ⟨hs, rfl⟩

theorem Meets.known {f : σ → Effect ε (Live σ) α} {Q : α → Live σ → Prop} {x : σ}
    (hP : ∀ s, P s → s.self = x) (h : Meets P (f x) Q E) : Meets P (Live.this >>= f) Q E := by
  intro s hs
  have ht := h s hs
  rwa [← hP s hs] at ht

theorem Meets.call {P' : Network → Prop} {Q' : α → Network → Prop} {E' : ε → Network → Prop}
    {Q : α → Live σ → Prop} {m : Effect ε Network α} (hm : Meets P' m Q' E') {x : σ}
    (hP : ∀ s, P s → P' s.net ∧ s.self = x) (hQ : ∀ a net, Q' a net → Q a ⟨x, net⟩)
    (hE : ∀ e net, E' e net → E e ⟨x, net⟩) : Meets P (Live.call m) Q E := by
  intro s hs
  obtain ⟨hn, rfl⟩ := hP s hs
  have ht := hm s.net hn
  simp only [Live.call, run_zoom]
  rcases hr : m.run s.net with ⟨e | a, t⟩ <;> rw [hr] at ht
  · exact hE _ _ ht
  · exact hQ _ _ ht

/-- A call judged by the network alone. -/
theorem Meets.net {P : Network → Prop} {Q : α → Network → Prop} {E : ε → Network → Prop}
    {m : Effect ε Network α} (hm : Meets P m Q E) :
    Meets (fun s : Live σ => P s.net) (Live.call m) (fun a s => Q a s.net)
      fun e s => E e s.net := by
  intro s hs
  have ht := hm s.net hs
  rw [Live.call, run_zoom]
  rcases hr : m.run s.net with ⟨e | a, t⟩ <;> rwa [hr] at ht

/-- What the lender is like does not change. -/
theorem Meets.lend {x : τ} {A : σ → Prop} {P : Live τ → Prop} {Q : α → Live τ → Prop}
    {E : ε → Live τ → Prop} {m : Effect ε (Live τ) α} (hm : Meets P m Q E) :
    Meets (fun s : Live σ => A s.self ∧ P ⟨x, s.net⟩) (Live.lend x m)
      (fun a s => A s.self ∧ ∃ y, Q a ⟨y, s.net⟩) fun e s => A s.self ∧ ∃ y, E e ⟨y, s.net⟩ := by
  intro s ⟨hself, hs⟩
  have ht := hm _ hs
  rw [Live.lend, run_zoom]
  rcases hr : m.run ⟨x, s.net⟩ with ⟨e | a, t⟩ <;> rw [hr] at ht
  · exact ⟨hself, t.self, ht⟩
  · exact ⟨hself, t.self, ht⟩

theorem Meets.focus {get : σ → τ} {put : σ → τ → σ} {P : Live τ → Prop} {Q : α → Live τ → Prop}
    {E : ε → Live τ → Prop} {m : Effect ε (Live τ) α} (hput : ∀ x y, get (put x y) = y)
    (hm : Meets P m Q E) :
    Meets (fun s => P ⟨get s.self, s.net⟩) (Live.focus get put m)
      (fun a s => Q a ⟨get s.self, s.net⟩) fun e s => E e ⟨get s.self, s.net⟩ := by
  intro s hs
  have ht := hm _ hs
  rw [Live.focus, run_zoom]
  rcases hr : m.run ⟨get s.self, s.net⟩ with ⟨e | a, t⟩ <;> rw [hr] at ht
  · simpa only [hput] using ht
  · simpa only [hput] using ht

end Live

/-! ## How an effect may fail -/

def Fails (E : ε → Prop) (m : Effect ε σ α) : Prop :=
  ∀ s e, (m.run s).1 = .error e → E e

namespace Fails

variable {E : ε → Prop}

theorem pure (a : α) : Fails E (Pure.pure a : Effect ε σ α) := by
  rintro s e ⟨⟩

theorem fail {e : ε} (h : E e) : Fails E (Effect.fail e : Effect ε σ α) := by
  rintro s _ ⟨⟩
  exact h

theorem imp {E' : ε → Prop} {m : Effect ε σ α} (hm : Fails E m) (hE : ∀ e, E e → E' e) :
    Fails E' m :=
  fun s e he => hE e (hm s e he)

/-- Nothing follows a failure. -/
theorem failed {e : ε} {f : α → Effect ε σ β} (h : E e) : Fails E (Effect.fail e >>= f) :=
  fail h

theorem value {a : α} {f : α → Effect ε σ β} (h : Fails E (f a)) :
    Fails E (Pure.pure a >>= f) := h

theorem state : Fails E (Effect.state : Effect ε σ σ) := by
  rintro s e ⟨⟩

theorem update (f : σ → σ) : Fails E (.update f : Effect ε σ Unit) := by
  rintro s e ⟨⟩

theorem ofExcept {r : Except ε α} (h : ∀ e, r = .error e → E e) :
    Fails E (Effect.ofExcept r : Effect ε σ α) := by
  cases r with
  | ok a => exact pure a
  | error e => exact fail (h e rfl)

theorem given {r : Except ε α} {f : α → Effect ε σ β} (hE : ∀ e, r = .error e → E e)
    (h : ∀ a, r = .ok a → Fails E (f a)) : Fails E (Effect.ofExcept r >>= f) := by
  cases r with
  | ok a => exact h a rfl
  | error e => exact fail (hE e rfl)

theorem bind {m : Effect ε σ α} {f : α → Effect ε σ β} (hm : Fails E m) (hf : ∀ a, Fails E (f a)) :
    Fails E (m >>= f) := by
  intro s e he
  rw [run_bind] at he
  rcases hr : m.run s with ⟨e' | a, t⟩ <;> rw [hr] at he
  · cases he
    exact hm s _ (by rw [hr])
  · exact hf a t e he

theorem rescue {E' : ε' → Prop} {m : Effect ε' σ α} {h : ε' → Effect ε σ α} (hm : Fails E' m)
    (hh : ∀ e, E' e → Fails E (h e)) : Fails E (m.rescue h) := by
  intro s e he
  rw [run_rescue] at he
  rcases hr : m.run s with ⟨e' | a, t⟩ <;> rw [hr] at he
  · exact hh e' (hm s e' (by rw [hr])) t e he
  · cases he

theorem ensure {m : Effect ε σ α} {last : Effect ε σ Unit} (hm : Fails E m) (hl : Fails E last) :
    Fails E (m.ensure last) := by
  intro s e he
  rw [run_ensure] at he
  rcases hr : last.run (m.run s).2 with ⟨e' | a, t⟩ <;> rw [hr] at he
  · cases he
    exact hl _ _ (by rw [hr])
  · exact hm s e he

theorem ite {p : Prop} [Decidable p] {m n : Effect ε σ α} (hm : Fails E m) (hn : Fails E n) :
    Fails E (if p then m else n) := by
  split_ifs
  · exact hm
  · exact hn

theorem this : Fails E (Live.this : Effect ε (Live σ) σ) := by
  rintro s e ⟨⟩

theorem change (f : σ → σ) : Fails E (Live.change f : Effect ε (Live σ) Unit) := by
  rintro s e ⟨⟩

theorem call {m : Effect ε Network α} (hm : Fails E m) :
    Fails E (Live.call m : Effect ε (Live σ) α) :=
  fun s => hm s.net

theorem focus {get : σ → τ} {put : σ → τ → σ} {m : Effect ε (Live τ) α} (hm : Fails E m) :
    Fails E (Live.focus get put m) :=
  fun _ => hm _

theorem ofMeets {m : Effect ε σ α} (h : ∀ s, Meets (· = s) m (fun _ _ => True) fun e _ => E e) :
    Fails E m := by
  intro s e he
  have ht := h s s rfl
  rcases hr : m.run s with ⟨e' | a, t⟩ <;> rw [hr] at ht he
  · cases he
    exact ht
  · cases he

theorem meets {P : σ → Prop} {m : Effect ε σ α} (hm : Fails E m) :
    Meets P m (fun _ _ => True) fun e _ => E e := by
  intro s _
  rcases hr : m.run s with ⟨e | a, t⟩
  · exact hm s e (by rw [hr])
  · trivial

/-- What every run keeps holds along with what is known of the failures. -/
theorem along {R : σ → σ → Prop} {P P' : σ → Prop} {m : Effect ε σ α} (hm : Fails E m)
    (h : Keeps R m) (hR : ∀ s t, P s → R s t → P' t) :
    Meets P m (fun _ => P') fun e s => E e ∧ P' s := by
  have both := (hm.meets (P := P)).and (.ofKeeps h hR)
  exact both.imp (fun _ hs => ⟨hs, hs⟩) (fun _ _ hs => hs.2) fun _ _ hs => hs

/-- What every run of an effect without failures keeps holds of its results. -/
theorem keeps {R : σ → σ → Prop} {P P' : σ → Prop} {E' : ε → σ → Prop} {m : Effect ε σ α}
    (hm : Fails (fun _ => False) m) (h : Keeps R m) (hR : ∀ s t, P s → R s t → P' t) :
    Meets P m (fun _ => P') E' :=
  (hm.along h hR).failing fun _ _ hs => hs.1.elim

end Fails

/-! ## Failures that are not foreseen -/

/-- From `s` the effect ends in a failure that `E` leaves out. -/
def Escapes (E : ε → Prop) (m : Effect ε σ α) (s : σ) : Prop :=
  ∃ e, (m.run s).1 = .error e ∧ ¬ E e

namespace Escapes

variable {E : ε → Prop} {m : Effect ε σ α} {f : α → Effect ε σ β} {s : σ}

theorem not_of_fails (hm : Fails E m) : ¬ Escapes E m s :=
  fun ⟨e, he, hE⟩ => hE (hm s e he)

theorem iff_of_meets {P : σ → Prop} {B : Prop}
    (hm : Meets P m (fun _ _ => ¬ B) fun e _ => E e ↔ ¬ B) (hs : P s) : Escapes E m s ↔ B := by
  have ht := hm s hs
  unfold Escapes
  rcases hr : m.run s with ⟨e | a, t⟩ <;> rw [hr] at ht
  · simpa using not_congr ht
  · simpa using ht

theorem of_meets {P : σ → Prop} (hm : Meets P m (fun _ _ => False) fun e _ => ¬ E e) (hs : P s) :
    Escapes E m s :=
  (iff_of_meets (B := True) (hm.imp (fun _ hs => hs) (fun _ _ h => h.elim)
    fun _ _ h => iff_of_false h (by simp)) hs).2 True.intro

theorem iff_of_error {e : ε} {t : σ} (h : m.run s = (.error e, t)) : Escapes E m s ↔ ¬ E e := by
  constructor
  · rintro ⟨e', he, hE⟩
    rw [h] at he
    cases he
    exact hE
  · exact fun hE => ⟨e, by rw [h], hE⟩

theorem bind_iff :
    Escapes E (m >>= f) s ↔
      Escapes E m s ∨ ∃ a t, m.run s = (.ok a, t) ∧ Escapes E (f a) t := by
  rcases hr : m.run s with ⟨e | a, t⟩
  · rw [iff_of_error (run_bind_error hr), iff_of_error hr]
    simp
  · unfold Escapes
    rw [run_bind_ok hr, hr]
    simp

/-- What follows a step without failures is judged where the step leads. -/
theorem bind_iff_of_ok {a : α} {t : σ} (h : m.run s = (.ok a, t)) :
    Escapes E (m >>= f) s ↔ Escapes E (f a) t := by
  rw [bind_iff, h]
  simp [Escapes, h]

theorem bind_iff_of_fails (hf : ∀ a, Fails E (f a)) : Escapes E (m >>= f) s ↔ Escapes E m s := by
  rw [bind_iff]
  exact ⟨fun h => h.resolve_right fun ⟨_, _, _, hft⟩ => not_of_fails (hf _) hft, .inl⟩

/-- A failure of the end hides that of the rest. -/
theorem ensure_iff {last : Effect ε σ Unit} (hl : Fails E last) :
    Escapes E (m.ensure last) s ↔
      Escapes E m s ∧ (last.run (m.run s).2).1 = .ok () := by
  unfold Escapes
  rw [run_ensure]
  rcases hr : last.run (m.run s).2 with ⟨e | a, t⟩
  · have he : E e := hl _ e (by rw [hr])
    simp [he]
  · simp

end Escapes

/-! ## Two runs side by side -/

def Alike (R : σ → σ → Prop) (m m' : Effect ε σ α) : Prop :=
  ∀ s t, R s t → (m.run s).1 = (m'.run t).1 ∧ R (m.run s).2 (m'.run t).2

namespace Alike

variable {R : σ → σ → Prop} {N : Network → Network → Prop}

theorem run {m m' : Effect ε σ α} (h : Alike R m m') {s t u : σ} {r : Except ε α} (hst : R s t)
    (hrun : m.run s = (r, u)) : ∃ v, m'.run t = (r, v) ∧ R u v := by
  obtain ⟨hresult, hstate⟩ := h s t hst
  rw [hrun] at hresult hstate
  exact ⟨(m'.run t).2, Prod.ext hresult.symm rfl, hstate⟩

theorem pure (a : α) : Alike R (Pure.pure a : Effect ε σ α) (Pure.pure a) :=
  fun _ _ h => ⟨rfl, h⟩

theorem fail (e : ε) : Alike R (Effect.fail e : Effect ε σ α) (Effect.fail e) :=
  fun _ _ h => ⟨rfl, h⟩

theorem ofExcept (r : Except ε α) : Alike R (Effect.ofExcept r) (Effect.ofExcept r) := by
  cases r with
  | ok a => exact pure a
  | error e => exact fail e

/-- Nothing follows a failure. -/
theorem failed {e : ε} {f f' : α → Effect ε σ β} :
    Alike R (Effect.fail e >>= f) (Effect.fail e >>= f') :=
  fail e

theorem update {f f' : σ → σ} (h : ∀ s t, R s t → R (f s) (f' t)) :
    Alike R (.update f : Effect ε σ Unit) (.update f') :=
  fun s t hst => ⟨rfl, h s t hst⟩

theorem bind {m m' : Effect ε σ α} {f f' : α → Effect ε σ β} (hm : Alike R m m')
    (hf : ∀ a, Alike R (f a) (f' a)) : Alike R (m >>= f) (m' >>= f') := by
  intro s t hst
  obtain ⟨hresult, hstate⟩ := hm s t hst
  rw [run_bind, run_bind]
  rcases hr : m.run s with ⟨e | a, u⟩ <;> rcases hr' : m'.run t with ⟨e' | a', u'⟩ <;>
    rw [hr, hr'] at hresult hstate <;> cases hresult
  · exact ⟨rfl, hstate⟩
  · exact hf a u u' hstate

/-- Nothing follows an effect without results. -/
theorem halted {E : ε → σ → Prop} {m m' : Effect ε σ α} {f f' : α → Effect ε σ β}
    (hm : Alike R m m') (hstop : Meets (fun _ => True) m (fun _ _ => False) E) :
    Alike R (m >>= f) (m' >>= f') := by
  intro s t hst
  obtain ⟨hresult, hstate⟩ := hm s t hst
  obtain ⟨e, u, hrun, -⟩ := hstop.failure (s := s) trivial
  rcases hrun' : m'.run t with ⟨r, u'⟩
  rw [hrun, hrun'] at hresult hstate
  obtain rfl := hresult
  rw [run_bind_error hrun, run_bind_error hrun']
  exact ⟨rfl, hstate⟩

theorem map {m m' : Effect ε σ α} (f : α → β) (hm : Alike R m m') :
    Alike R (f <$> m) (f <$> m') := by
  rw [map_eq_pure_bind, map_eq_pure_bind]
  exact hm.bind fun _ => pure _

theorem rescue {m m' : Effect ε σ α} {h h' : ε → Effect ε' σ α} (hm : Alike R m m')
    (hh : ∀ e, Alike R (h e) (h' e)) : Alike R (m.rescue h) (m'.rescue h') := by
  intro s t hst
  obtain ⟨hresult, hstate⟩ := hm s t hst
  rw [run_rescue, run_rescue]
  rcases hr : m.run s with ⟨e | a, u⟩ <;> rcases hr' : m'.run t with ⟨e' | a', u'⟩ <;>
    rw [hr, hr'] at hresult hstate <;> cases hresult
  · exact hh e u u' hstate
  · exact ⟨rfl, hstate⟩

theorem ensure {m m' : Effect ε σ α} {last last' : Effect ε σ Unit} (hm : Alike R m m')
    (hl : Alike R last last') : Alike R (m.ensure last) (m'.ensure last') := by
  intro s t hst
  obtain ⟨hresult, hstate⟩ := hm s t hst
  obtain ⟨hresult', hstate'⟩ := hl _ _ hstate
  rw [run_ensure, run_ensure]
  rcases hr : last.run (m.run s).2 with ⟨e | a, u⟩ <;>
    rcases hr' : last'.run (m'.run t).2 with ⟨e' | a', u'⟩ <;>
    rw [hr, hr'] at hresult' hstate' <;> cases hresult'
  · exact ⟨rfl, hstate'⟩
  · exact ⟨hresult, hstate'⟩

theorem attempt {m m' : Effect ε σ α} (hm : Alike R m m') :
    Alike R (Effect.attempt m : Effect ε' σ (Except ε α)) (Effect.attempt m') := by
  intro s t hst
  obtain ⟨hresult, hstate⟩ := hm s t hst
  exact ⟨congrArg Except.ok hresult, hstate⟩

theorem ite {p : Prop} [Decidable p] {m m' n n' : Effect ε σ α} (hm : Alike R m m')
    (hn : Alike R n n') : Alike R (if p then m else n) (if p then m' else n') := by
  split_ifs
  · exact hm
  · exact hn

/-- The same thing, on networks in the relation `N`. -/
def On (N : Network → Network → Prop) (s t : Live σ) : Prop :=
  s.self = t.self ∧ N s.net t.net

theorem this : Alike (On N) (Live.this : Effect ε (Live σ) σ) Live.this :=
  fun _ _ h => ⟨congrArg Except.ok h.1, h⟩

theorem change (f : σ → σ) :
    Alike (On N) (Live.change f : Effect ε (Live σ) Unit) (Live.change f) :=
  fun _ _ h => ⟨rfl, congrArg f h.1, h.2⟩

theorem call {m m' : Effect ε Network α} (hm : Alike N m m') :
    Alike (On N) (Live.call m : Effect ε (Live σ) α) (Live.call m') := by
  intro s t ⟨hself, hnet⟩
  obtain ⟨hresult, hstate⟩ := hm s.net t.net hnet
  exact ⟨hresult, hself, hstate⟩

theorem focus {get : σ → τ} {put : σ → τ → σ} {m m' : Effect ε (Live τ) α}
    (hm : Alike (On N) m m') : Alike (On N) (Live.focus get put m) (Live.focus get put m') := by
  intro s t ⟨hself, hnet⟩
  obtain ⟨hresult, hself', hnet'⟩ :=
    hm ⟨get s.self, s.net⟩ ⟨get t.self, t.net⟩ ⟨by rw [hself], hnet⟩
  exact ⟨hresult, congrArg₂ put hself hself', hnet'⟩

theorem lend {x : τ} {m m' : Effect ε (Live τ) α} (hm : Alike (On N) m m') :
    Alike (On N) (Live.lend x m : Effect ε (Live σ) α) (Live.lend x m') := by
  intro s t ⟨hself, hnet⟩
  obtain ⟨hresult, -, hnet'⟩ := hm ⟨x, s.net⟩ ⟨x, t.net⟩ ⟨rfl, hnet⟩
  exact ⟨hresult, hself, hnet'⟩

end Alike

end FtpControl.Effect
