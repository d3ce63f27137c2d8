import FtpControl.Proofs.Channel.Greeting

/-!
# Tracing the greeting

Connecting turns the tracing of replies on. Once a connection has come about it is off again,
whatever comes of the greeting. Where none comes about, because no socket takes the time limit or
the server cannot be reached, it stays on, and from then on nobody but the caller turns it off.
-/

namespace FtpControl

open Effect Live

namespace Channel

variable {c : Channel} {net : Network} {s t u : Live Channel}

/-- Operations that leave it to the channel what is traced. -/
def Operation.Discreet : Operation → Prop
  | setTracing _ => False
  | _ => True

/-- What a channel can become by such operations, with anything done to the network in between. -/
inductive Leads (s : Live Channel) : Live Channel → Prop
  | here : Leads s s
  | after (op : Operation) (hop : op.Discreet) {t : Live Channel} (h : Leads s t) :
      Leads s (op.perform.run t).2
  | elsewhere {t : Live Channel} (h : Leads s t) (net : Network) : Leads s ⟨t.self, net⟩

/-- A channel that nobody has tried to connect. -/
structure Untried (c : Channel) : Prop where
  state : c.state = .unconnected
  socket : c.socket = none
  peer : c.peer = none

/-- A channel that traces for want of a connection, and for no other reason. -/
structure Traced (c : Channel) : Prop where
  tracing_iff : c.tracing = true ↔ c.peer = none
  unconnected : c.state = .unconnected → c.peer = none

theorem Traced.marks (h : Traced s.self) (hmarks : Marks s t) : Traced t.self := by
  constructor
  · rw [hmarks.tracing, hmarks.peer]
    exact h.tracing_iff
  · intro hstate
    rw [hmarks.peer]
    exact h.unconnected (hmarks.unconnected hstate)

theorem snd_perform_connect (peer : Target) (millis : Int) (s : Live Channel) :
    ((Operation.connect peer millis).perform.run s).2 = ((connect peer millis).run s).2 := by
  rw [Operation.perform, run_map]

/-! ## One operation -/

/-- Whatever connecting ends in, what is traced is settled by whether a connection came about. -/
theorem traced_of_connect (hpeer : s.self.state = .unconnected → s.self.peer = none)
    (hs : s.self.state ≠ .unconnected → Traced s.self) (peer : Target) (millis : Int) :
    Traced ((connect peer millis).run s).2.self := by
  by_cases hstate : s.self.state = .unconnected
  swap
  · rw [run_connect_again hstate]
    exact hs hstate
  rcases hrun : (connect peer millis).run s with ⟨result, t⟩
  cases connects_of_run hstate hrun with
  | unusable h hself =>
    rw [hself]
    exact ⟨iff_of_true rfl (hpeer hstate), fun _ => hpeer hstate⟩
  | refused hlimit h hself =>
    rw [hself]
    exact ⟨iff_of_true rfl (hpeer hstate), fun _ => hpeer hstate⟩
  | ungreeted h hclosed htracing =>
    constructor
    · simp [htracing, h.peer]
    · simp [hclosed]
  | greeted h hbanner hself =>
    obtain ⟨hconnected, -, hpeer, htracing⟩ := hself
    constructor
    · simp [htracing, hpeer]
    · simp [hconnected]

/-- Where there is no connection yet, it depends on the server and the time limit alone. -/
theorem tracing_connect_iff (hstate : s.self.state = .unconnected) (peer : Target) (millis : Int) :
    ((connect peer millis).run s).2.self.tracing = true ↔ ¬ s.net.script.Reaches millis := by
  rcases hrun : (connect peer millis).run s with ⟨result, t⟩
  cases connects_of_run hstate hrun with
  | unusable h hself =>
    rw [hself]
    exact iff_of_true rfl fun hreaches => h hreaches.1
  | refused hlimit h hself =>
    rw [hself]
    exact iff_of_true rfl fun hreaches => by simp [hreaches.2] at h
  | ungreeted h hclosed htracing => simp [htracing, h.reaches]
  | greeted h hbanner hself => simp [hself.2.2.2, h]

theorem Traced.perform {op : Operation} (h : Traced s.self) (hop : op.Discreet) :
    Traced (op.perform.run s).2.self := by
  cases op with
  | connect peer millis =>
    rw [snd_perform_connect]
    exact traced_of_connect h.unconnected (fun _ => h) peer millis
  | setTracing on => exact hop.elim
  | _ => exact h.marks (marks_perform id s)

/-- Without a connection there is nothing to do but to connect. -/
theorem Untried.perform {op : Operation} (h : Untried s.self) (hop : op.Discreet) :
    Untried (op.perform.run s).2.self ∨ Traced (op.perform.run s).2.self := by
  have hidle : s.self.state ≠ .connected := by simp [h.state]
  by_cases hbarred : op.Barred s.self.state
  · rw [run_perform_of_idle hidle h.socket hbarred]
    exact .inl h
  cases op with
  | connect peer millis =>
    rw [snd_perform_connect]
    exact .inr (traced_of_connect (fun _ => h.peer) (fun hne => absurd h.state hne) peer millis)
  | setTracing on => exact hop.elim
  | _ => exact absurd trivial hbarred

/-! ## All of its life -/

theorem untried_or_traced (h : Leads ⟨{}, net⟩ s) : Untried s.self ∨ Traced s.self := by
  induction h with
  | here => exact .inl ⟨rfl, rfl, rfl⟩
  | after op hop _ ih =>
    obtain h | h := ih
    · exact h.perform hop
    · exact .inr (h.perform hop)
  | elsewhere _ net ih => exact ih

theorem Traced.leads (h : Traced s.self) (hst : Leads s t) : Traced t.self := by
  induction hst with
  | here => exact h
  | after op hop _ ih => exact ih.perform hop
  | elsewhere _ net ih => exact ih

/-- A connection that has come about is not taken back. -/
theorem peer_of_leads (hs : Traced s.self) (hst : Leads s t) (hpeer : s.self.peer ≠ none) :
    t.self.peer ≠ none := by
  induction hst with
  | here => exact hpeer
  | elsewhere _ net ih => exact ih
  | @after op hop t hst ih =>
    by_cases hmarking : op.Marking
    swap
    · rw [(marks_perform hmarking t).peer]
      exact ih
    cases op with
    | connect peer millis =>
      -- A channel with a peer is not new, so it is not connected again.
      have hstate : t.self.state ≠ .unconnected := fun h => ih ((hs.leads hst).unconnected h)
      rw [snd_perform_connect, run_connect_again hstate]
      exact ih
    | setTracing on => exact ih
    | _ => exact hmarking.elim

/-- Where the caller leaves it to the channel, replies are traced behind an attempt to connect if
and only if no connection has come about by it: the time limit or the server stood in its way. At
any later time they are traced if and only if there has still been no connection, so where tracing
is off it stays off. -/
theorem tracing_of_leads (hs : Leads ⟨{}, net⟩ s) (peer : Target) (millis : Int) :
    let t := ((connect peer millis).run s).2
    (s.self.state = .unconnected → (t.self.tracing = true ↔ ¬ s.net.script.Reaches millis)) ∧
      (s.self.state ≠ .unconnected → t = s) ∧
        ∀ u, Leads t u → (u.self.tracing = true ↔ u.self.peer = none) ∧
          (t.self.tracing = false → u.self.tracing = false) := by
  have ht : Traced ((connect peer millis).run s).2.self := by
    obtain h | h := untried_or_traced hs
    · exact traced_of_connect (fun _ => h.peer) (fun hne => absurd h.state hne) peer millis
    · exact traced_of_connect h.unconnected (fun _ => h) peer millis
  refine ⟨fun hstate => tracing_connect_iff hstate peer millis, fun hstate => ?_, fun u hu => ?_⟩
  · rw [run_connect_again hstate]
  · have hu' := ht.leads hu
    refine ⟨hu'.tracing_iff, fun hoff => ?_⟩
    rw [Bool.eq_false_iff] at hoff ⊢
    rw [Ne, hu'.tracing_iff]
    exact peer_of_leads ht hu fun hpeer => hoff (ht.tracing_iff.2 hpeer)

/-- Behind a server that cannot be reached, tracing is left on, and only the caller can turn it
off. -/
theorem tracing_of_unreached :
    let s : Live Channel := ⟨{}, {}⟩
    let t := ((connect ⟨some "ftp.test", 21⟩ 10000).run s).2
    Leads s s ∧ t.self.state = .closed ∧ t.self.tracing = true ∧
      ∀ u, Leads t u → (u.self.tracing = true ↔ u.self.peer = none) := by
  have hs : Leads ⟨{}, {}⟩ ⟨{}, {}⟩ := .here
  have hunreached : ¬ ({} : Script).Reaches 10000 := by decide +kernel
  obtain ⟨hnew, -, hlater⟩ := tracing_of_leads hs ⟨some "ftp.test", 21⟩ 10000
  exact ⟨hs, by decide +kernel, (hnew rfl).2 hunreached, fun u hu => (hlater u hu).1⟩

end Channel

end FtpControl
