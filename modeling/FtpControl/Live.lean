import FtpControl.Network.Calls

/-!
# Things that live on a network

An operation of a channel, a data connection or a whole client works on that thing and on
the network at once, and may do so on a part of the thing alone.
-/

namespace FtpControl

structure Live (σ : Type) where
  self : σ
  net : Network

abbrev Op (σ α : Type) := Effect Failure (Live σ) α

namespace Live

variable {ε σ τ α : Type}

/-- A call to the network. -/
def call (m : Effect ε Network α) : Effect ε (Live σ) α :=
  m.zoom Live.net fun s n => { s with net := n }

def this : Effect ε (Live σ) σ :=
  ⟨fun s => (.ok s.self, s)⟩

def change (f : σ → σ) : Effect ε (Live σ) Unit :=
  .update fun s => { s with self := f s.self }

/-- An operation of a part. -/
def focus (get : σ → τ) (put : σ → τ → σ) (m : Effect ε (Live τ) α) : Effect ε (Live σ) α :=
  m.zoom (fun s => ⟨get s.self, s.net⟩) fun s t => ⟨put s.self t.self, t.net⟩

/-- An operation of something else, which is then let go. -/
def lend (x : τ) (m : Effect ε (Live τ) α) : Effect ε (Live σ) α :=
  m.zoom (fun s => ⟨x, s.net⟩) fun s t => { s with net := t.net }

end Live

end FtpControl
