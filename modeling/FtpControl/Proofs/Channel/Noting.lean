import FtpControl.Proofs.Channel.Turns

/-!
# What an exchange is noted as

An exchange is noted as one command that goes out, unless it cannot be written. Reading the reply
is not noted. Where the transport fails, what the channel held is closed, and that is all that
comes behind.
-/

namespace FtpControl

open Effect Live Reply

/-- Events among which nothing is sent. -/
def Unsent (more : List Event) : Prop :=
  ∀ e ∈ more, e.sent? = none

theorem unsent_nil : Unsent [] := by
  simp [Unsent]

theorem unsent_append {more later : List Event} (h : Unsent more) (h' : Unsent later) :
    Unsent (more ++ later) := by
  intro e he
  obtain he | he := List.mem_append.1 he
  · exact h e he
  · exact h' e he

/-- Events that close something. -/
def Closings (more : List Event) : Prop :=
  ∀ e ∈ more, ∃ h, e = .close h

theorem closings_nil : Closings [] := by
  simp [Closings]

theorem closings_append {more later : List Event} (h : Closings more) (h' : Closings later) :
    Closings (more ++ later) := by
  intro e he
  obtain he | he := List.mem_append.1 he
  · exact h e he
  · exact h' e he

theorem Closings.unsent {more : List Event} (h : Closings more) : Unsent more := by
  intro e he
  obtain ⟨k, rfl⟩ := h e he
  rfl

namespace Network

variable {w : List Event} {P Q : List Event → Prop} {net net' : Network}

/-- The events behind `w` are in the order `P`. -/
def Since (w : List Event) (P : List Event → Prop) (net : Network) : Prop :=
  ∃ more, P more ∧ net.events = w ++ more

theorem since_of_eq (hP : P []) (h : net.events = w) : net.Since w P :=
  ⟨[], hP, by rw [h, List.append_nil]⟩

theorem Since.imp (h : net.Since w P) (hPQ : ∀ more, P more → Q more) : net.Since w Q := by
  obtain ⟨more, hmore, hnet⟩ := h
  exact ⟨more, hPQ more hmore, hnet⟩

theorem Since.trans {R : List Event → Prop} (h : net.Since w P) (h' : net'.Since net.events Q)
    (hR : ∀ more later, P more → Q later → R (more ++ later)) : net'.Since w R := by
  obtain ⟨more, hmore, hnet⟩ := h
  obtain ⟨later, hlater, hnet'⟩ := h'
  exact ⟨more ++ later, hR more later hmore hlater, by rw [hnet', hnet, List.append_assoc]⟩

/-- The second network comes from the first without anything being sent. -/
def Hushed (net net' : Network) : Prop :=
  net'.Since net.events Unsent

theorem hushed_of_eq (h : net'.events = net.events) : net.Hushed net' :=
  since_of_eq unsent_nil h

/-- The second network comes from the first by closing things. -/
def Fading (net net' : Network) : Prop :=
  net'.Since net.events Closings

theorem fading_of_eq (h : net'.events = net.events) : net.Fading net' :=
  since_of_eq closings_nil h

theorem Fading.hushed (h : net.Fading net') : net.Hushed net' :=
  h.imp fun _ => Closings.unsent

instance : IsPreorder Network Hushed where
  refl _ := hushed_of_eq rfl
  trans _ _ _ h h' := h.trans h' fun _ _ => unsent_append

instance : IsPreorder Network Fading where
  refl _ := fading_of_eq rfl
  trans _ _ _ h h' := h.trans h' fun _ _ => closings_append

end Network

namespace Net

theorem events_log (source : LogSource) (level : LogLevel) (message : String) :
    Keeps (fun net net' => net'.events = net.events) (log source level message) := by
  intro net
  obtain ⟨logs, hlog⟩ := run_log source level message net
  rw [hlog]

theorem fading_close (h : Handle) : Keeps Network.Fading (close h) := by
  intro net
  rw [run_close]
  exact ⟨[.close h], by simp [Closings], rfl⟩

theorem meets_transmit_noted (n : Nat) (bytes : List UInt8) (w : List Event) :
    Meets (fun net => net.events = w) (transmit n bytes)
      (fun _ net => net.events = w ++ [.send (.writer n) bytes]) fun _ net => net.events = w := by
  apply Meets.bind (Q := fun _ net => net.events = w)
  · intro net hnet
    rw [run_nextExchange]
    exact hnet
  intro answer
  apply Meets.bind (Q := fun _ net => net.events = w)
  · cases answer.failure with
    | none => exact .pure fun _ hnet => hnet
    | some why => exact .fail fun _ hnet => hnet
  intro _
  rintro net rfl
  rfl

end Net

namespace Channel

/-- Operations in which nothing is sent. -/
abbrev Hushed {α : Type} (op : Op Channel α) : Prop :=
  Keeps (fun s t => s.net.Hushed t.net) op

instance : IsPreorder (Live Channel) fun s t => s.net.Hushed t.net where
  refl s := refl_of Network.Hushed s.net
  trans _ _ _ h h' := trans_of Network.Hushed h h'

theorem hushed_call {α : Type} {m : Net α} (hm : Keeps Network.Hushed m) : Hushed (call m) :=
  .call hm fun _ _ h => h

/-- Operations that make no event. -/
abbrev Eventless {α : Type} (op : Op Channel α) : Prop :=
  Keeps (fun s t => t.net.events = s.net.events) op

theorem eventless_log (source : LogSource) (level : LogLevel) (message : String) :
    Eventless (call (Net.log source level message)) :=
  .call (Net.events_log source level message) fun _ _ h => h

theorem eventless_setSource (n : Nat) (src : Source) : Eventless (call (Net.setSource n src)) :=
  .call (N := fun net net' => net'.events = net.events) (fun _ => rfl) fun _ _ h => h

theorem eventless_receive : Eventless receive :=
  keeps_receive eventless_log eventless_setSource

/-! ## Fading away -/

/-- Things may be closed, but not while the channel is connected. -/
structure Fades (s t : Live Channel) : Prop where
  closings : s.net.Fading t.net
  connected : t.self.state = .connected → s.self.state = .connected ∧ t.net.events = s.net.events

instance : IsPreorder (Live Channel) Fades where
  refl _ := ⟨Network.fading_of_eq rfl, fun h => ⟨h, rfl⟩⟩
  trans s t u h h' := by
    refine ⟨trans_of Network.Fading h.closings h'.closings, fun hu => ?_⟩
    obtain ⟨ht, hevents'⟩ := h'.connected hu
    obtain ⟨hs, hevents⟩ := h.connected ht
    exact ⟨hs, hevents'.trans hevents⟩

theorem fades_of_eq {s : Live Channel} {net : Network} (h : net.events = s.net.events) :
    Fades s { s with net := net } :=
  ⟨Network.fading_of_eq h, fun hs => ⟨hs, h⟩⟩

theorem fading_closeResources (hs : List Handle) :
    Keeps Network.Fading (closeResources hs) := by
  induction hs with
  | nil => exact .pure _
  | cons k hs ih =>
    apply Keeps.bind (R := Network.Fading)
    · apply Keeps.bind (.attempt (Net.fading_close k))
      intro r
      have logged := (Net.events_log .channel .error
        s!"Error closing control resource <{k.label}>").imp fun _ _ => Network.fading_of_eq
      split
      · exact .pure _
      · exact .bind logged fun _ => .pure _
      · exact .fail _
    · exact fun _ => .bind ih fun _ => .pure _

/-- A release closes the channel whatever comes of it. -/
theorem fades_release : Keeps Fades release := by
  have fading : Keeps (fun s t : Live Channel => s.net.Fading t.net) release := by
    have : IsPreorder (Live Channel) fun s t => s.net.Fading t.net :=
      { refl := fun s => refl_of Network.Fading s.net
        trans := fun _ _ _ h h' => trans_of Network.Fading h h' }
    refine .bind .this fun c => ?_
    refine .bind (.call (fading_closeResources c.resources) fun _ _ h => h) fun error => ?_
    refine .bind (.change fun _ => Network.fading_of_eq rfl) fun _ => ?_
    cases c.peer with
    | none => exact keeps_report _
    | some peer =>
      refine .bind ((eventless_log _ _ _).imp fun _ _ => Network.fading_of_eq) fun _ => ?_
      exact keeps_report _
  have closed : Keeps (fun _ t : Live Channel => t.self.state = .closed) release :=
    keeps_release fun _ _ h => by rw [h.1]; rfl
  intro s
  refine ⟨fading s, fun hconnected => ?_⟩
  rw [closed s] at hconnected
  cases hconnected

theorem reading_fades : Reading Fades where
  log source level message := .call (Net.events_log source level message) fun _ _ => fades_of_eq
  setSource _ _ :=
    .call (N := fun net net' => net'.events = net.events) (fun _ => rfl) fun _ _ => fades_of_eq
  release := fades_release

/-! ## Exchanges -/

variable {m : Nat} {w : List Event}

/-- A reply is read without an event; a failure may close what the channel holds. -/
theorem meets_readReply_noted :
    Meets (fun s => s.net.events = w) readReply (fun _ t => t.net.events = w)
      fun _ t => t.net.Since w Closings := by
  apply Meets.bind (Q := fun _ s => s.net.events = w)
  · apply Meets.look
    intro c
    apply Meets.ite
    · exact .pure fun s hs => hs.1
    · exact .fail fun s hs => Network.since_of_eq closings_nil hs.1
  intro _
  apply Meets.rescue (E := fun _ s => s.net.events = w)
  · exact .ofKeeps eventless_receive fun _ _ hs h => h.trans hs
  intro e
  split
  · rename_i f
    apply Meets.ite
    · apply Meets.bind (Q := fun _ t => t.net.events = w)
      · exact .ofKeeps (eventless_log _ _ _) fun _ _ hs h => h.trans hs
      intro _
      apply Meets.bind (Q := fun _ t => t.net.Since w Closings)
      · exact .ofKeeps reading_fades.releaseQuietly fun _ _ hs h => hs ▸ h.closings
      · exact fun _ => .fail fun _ hs => hs
    · exact .fail fun _ hs => Network.since_of_eq closings_nil hs
  · exact .fail fun _ hs => Network.since_of_eq closings_nil hs

/-- A command goes out first of all, or nothing does. -/
inductive Spoken (m : Nat) (command : String) : List Event → Prop
  | silent {more : List Event} (h : Unsent more) : Spoken m command more
  | said {later : List Event} (h : Unsent later) :
      Spoken m command (.send (.writer m) (Text.encodeUtf8 command.toList ++ [13, 10]) :: later)

theorem meets_transmit_noted (command : String) :
    Meets (fun s => s.self.writer = some m ∧ s.net.events = w) (transmit command)
      (fun _ t => t.net.events =
        w ++ [.send (.writer m) (Text.encodeUtf8 command.toList ++ [13, 10])])
      fun _ t => t.net.Since w Closings := by
  apply Meets.look
  intro c
  by_cases hc : c.writer = some m
  swap
  · rintro s ⟨⟨hs, -⟩, rfl⟩
    exact absurd hs hc
  rw [hc, Command.bytes_eq]
  apply Meets.rescue
  · apply (Meets.net (Net.meets_transmit_noted m _ w)).start
    exact fun _ hs => hs.1.2
  intro e
  split
  · apply Meets.bind (Q := fun _ t => t.net.Since w Closings)
    · exact .ofKeeps reading_fades.releaseQuietly fun _ _ hs h => hs ▸ h.closings
    · exact fun _ => .fail fun _ hs => hs
  · exact .fail fun _ hs => Network.since_of_eq closings_nil hs

theorem meets_send_noted (command : String) :
    Meets (fun s => s.self.writer = some m ∧ s.net.events = w) (send command)
      (fun _ t => t.net.events =
        w ++ [.send (.writer m) (Text.encodeUtf8 command.toList ++ [13, 10])])
      fun _ t => t.net.Since w (Spoken m command) := by
  have silent : ∀ t : Live Channel, t.net.Since w Closings → t.net.Since w (Spoken m command) :=
    fun t ht => ht.imp fun _ hmore => .silent hmore.unsent
  have start : ∀ t : Live Channel, t.self.writer = some m ∧ t.net.events = w →
      t.net.Since w (Spoken m command) :=
    fun t ht => silent t (Network.since_of_eq closings_nil ht.2)
  apply Meets.bind (Q := fun _ s => s.self.writer = some m ∧ s.net.events = w)
  · apply Meets.look
    intro c
    apply Meets.ite
    · exact .pure fun s hs => hs.1
    · exact .fail fun s hs => start s hs.1
  intro _
  apply Meets.given (fun _ _ => start)
  intro shown _
  apply Meets.bind (Q := fun _ s => s.self.writer = some m ∧ s.net.events = w)
  · exact fun s hs => ⟨hs.1, (Net.events_log _ _ _ s.net).trans hs.2⟩
  intro _
  apply Meets.bind ((meets_transmit_noted command).failing fun _ => silent)
  intro _
  apply meets_readReply_noted.failing
  rintro _ t ⟨later, hlater, ht⟩
  exact ⟨_ :: later, .said hlater.unsent, by rw [ht, List.append_assoc]; rfl⟩

section Sending

variable {command shown : String} {s t : Live Channel} {line : ControlLine}
  (hshown : Command.masked command = .ok shown) (hstate : s.self.state = .connected)
  (hwriter : s.self.writer = some m)
include hshown hstate hwriter

/-- A command that cannot be written is not noted. -/
theorem events_send_of_failure {why : String} (h : (s.net.lines m).answered = .error why) :
    s.net.Fading ((send command).run s).2.net := by
  obtain ⟨u, hsu, hevents, hsend⟩ := run_send hshown hstate
  rw [← hsu.self] at hwriter
  rw [← hsu.lines] at h
  obtain ⟨v, htransmit, -⟩ := run_transmit_of_failure command hwriter h
  have hnoted := meets_transmit_noted command u ⟨hwriter, hevents⟩
  rw [htransmit] at hnoted
  rw [hsend, run_bind_error htransmit]
  exact hnoted

/-- A command that is written is noted, and nothing behind it unless the channel is lost. -/
theorem events_send_of_answered (h : (s.net.lines m).answered = .ok line) :
    let t := ((send command).run s).2
    t.net.Since (s.net.events ++ [.send (.writer m) (Text.encodeUtf8 command.toList ++ [13, 10])])
        Closings ∧
      (t.self.state = .connected → t.net.events =
        s.net.events ++ [.send (.writer m) (Text.encodeUtf8 command.toList ++ [13, 10])]) := by
  obtain ⟨u, hsu, hevents, hsend⟩ := run_send hshown hstate
  rw [← hsu.self] at hwriter
  rw [← hsu.lines] at h
  obtain ⟨v, htransmit, -⟩ := run_transmit_of_answered command hwriter h
  have hnoted := (meets_transmit_noted command).of_ok ⟨hwriter, hevents⟩ htransmit
  have hfades := reading_fades.readReply v
  rw [hsend, run_bind_ok htransmit, ← hnoted]
  exact ⟨hfades.closings, fun hconnected => (hfades.connected hconnected).2⟩

/-- A command that is answered is answered by what its line holds. -/
theorem outcome_of_send (hreplies : s.self.replies = some m) {reply : Reply}
    (h : (send command).run s = (.ok reply, t)) :
    ∃ line, (s.net.lines m).answered = .ok line ∧ line.outcome = .ok reply := by
  obtain ⟨t', hrun, -⟩ := run_turn (.send command shown hshown) hstate hwriter hreplies
  have hresult : ((Turn.send command shown hshown).outcome (s.net.lines m)).mapError
      Failure.fault = .ok reply := congrArg Prod.fst (hrun.symm.trans h)
  cases hanswered : (s.net.lines m).answered with
  | error why =>
    rw [Turn.outcome_of_failure (.send command shown hshown) hanswered] at hresult
    cases hresult
  | ok line =>
    rw [Turn.outcome_of_draws (.send command shown hshown) hanswered] at hresult
    refine ⟨line, rfl, ?_⟩
    cases houtcome : line.outcome with
    | error f => simp [houtcome, Except.mapError] at hresult
    | ok found =>
      rw [houtcome] at hresult
      cases hresult
      rfl

end Sending

end Channel

end FtpControl
