import FtpControl.Proofs.Channel.Hearing
import FtpControl.Proofs.Channel.Noting
import FtpControl.Proofs.DataConnection.Standing
import FtpControl.Proofs.Endpoint.Canonical

/-!
# What the server is told of a listener

A negotiation in active mode tells the server of a listener that is tied to the host of the
control socket and listens already. Whatever comes of the negotiation, no other command is sent.
The command spells the address of the listener, and the server's approval is the reply to it.
-/

namespace FtpControl

open Effect Live

/-! ## The listener -/

namespace Net

/-- What tying a listener to a host and making it listen leave as it is. -/
structure Readied (n : Nat) (e : Event) (net net' : Network) : Prop where
  lines : net'.lines = net.lines
  plan : net'.listeners n = net.listeners n
  events : net'.events = net.events ++ [e]

theorem meets_bind_readied (n : Nat) (host : String) (net : Network) :
    Meets (· = net) (bind n host)
      (fun _ net' => (net.listeners n).bindError = none ∧
        Readied n (.bind (.listener n) ⟨host, 0⟩) net net')
      fun _ net' => Readied n (.bind (.listener n) ⟨host, 0⟩) net net' := by
  rintro net rfl
  simp only [bind, record, run_bind, run_update, run_state]
  cases hbind : (net.listeners n).bindError with
  | none => exact ⟨rfl, rfl, rfl, rfl⟩
  | some why => exact ⟨rfl, rfl, rfl⟩

theorem meets_listen_readied (n backlog : Nat) (net : Network) :
    Meets (· = net) (listen n backlog)
      (fun _ net' => (net.listeners n).listenError = none ∧
        Readied n (.listen (.listener n) backlog) net net')
      fun _ net' => Readied n (.listen (.listener n) backlog) net net' := by
  rintro net rfl
  simp only [listen, record, run_bind, run_update, run_state]
  cases hlisten : (net.listeners n).listenError with
  | none => exact ⟨rfl, rfl, rfl, rfl⟩
  | some why => exact ⟨rfl, rfl, rfl⟩

end Net

/-- The tuple between parentheses and nothing else. -/
theorem Endpoint.ofPassive_bare (e : Endpoint) :
    ofPassive ("(" ++ e.argument ++ ")") = .ok e := by
  have hread : ofPassive ("" ++ "(" ++ e.argument ++ ")" ++ "") = .ok e :=
    ofPassive_argument e (by simp) (by simp) ""
  rwa [String.empty_append, String.append_empty] at hread

namespace Negotiation

/-- What goes before a `PORT` command, and the command. -/
def advertisement (n m : Nat) (host command : String) : List Event :=
  [.bind (.listener n) ⟨host, 0⟩, .listen (.listener n) 1,
    .send (.writer m) (Text.encodeUtf8 command.toList ++ [13, 10])]

/-- The course of a negotiation in active mode: nothing is sent at all, or a `PORT` command
once a listener is tied to the host and listens, and nothing behind it. -/
inductive Course (plan : ListenerPlan) (n m : Nat) (own : Except String Address) :
    List Event → Prop
  | silent {more : List Event} (h : Unsent more) : Course plan n m own more
  | told {near : Address} (hown : own = .ok near) (hbind : plan.bindError = none)
      (hlisten : plan.listenError = none) (e : Endpoint) {later : List Event} (h : Unsent later) :
      Course plan n m own (advertisement n m near.host e.portCommand ++ later)

/-- A channel on the way to an announcement, behind these events. -/
structure Preparing (s : Live Channel) (more : List Event) (t : Live Channel) : Prop where
  self : t.self = s.self
  lines : t.net.lines = s.net.lines
  plan : t.net.listeners s.net.counts.listener = s.net.script.nextListener
  events : t.net.events = s.net.events ++ more

/-- A data connection whose listener was announced to the server as what it is: `near` is its
own address and `own` that of the control socket. -/
structure Advertised (s : Live Channel) (m : Nat) (own near : Address) (e : Endpoint)
    (d : DataConnection) (t : Live Channel) : Prop where
  tied : (s.net.sockets (.control m)).ownAddress = .ok own
  given : (t.net.sockets (.listener s.net.counts.listener)).ownAddress = .ok near
  held : d.listener = some s.net.counts.listener
  bound : s.net.script.nextListener.bindError = none
  listening : s.net.script.nextListener.listenError = none
  events : t.net.events =
    s.net.events ++ advertisement s.net.counts.listener m own.host d.command
  command : d.command = "PORT " ++ e.argument
  readBack : Endpoint.ofPassive ("(" ++ e.argument ++ ")") = .ok e
  address : e.address = ⟨own.host, near.port⟩
  approved : d.reply.code.toString = "200"
  heard : ∃ line, (s.net.lines m).answered = .ok line ∧ line.outcome = .ok d.reply

variable {s t u : Live Channel} {m : Nat} {own near : Address} {more : List Event} {e : Event}

/-- In order since the start of the negotiation. -/
abbrev OnCourse (s : Live Channel) (m : Nat) (t : Live Channel) : Prop :=
  t.net.Since s.net.events (Course s.net.script.nextListener s.net.counts.listener m
    (s.net.sockets (.control m)).ownAddress)

theorem onCourse_of_silent (hmore : Unsent more) (h : t.net.events = s.net.events ++ more) :
    OnCourse s m t :=
  ⟨more, .silent hmore, h⟩

theorem OnCourse.later (h : OnCourse s m t) (h' : t.net.Hushed u.net) : OnCourse s m u := by
  apply Network.Since.trans h h'
  rintro _ later (hmore | ⟨hown, hbind, hlisten, e, hmore⟩) hlater
  · exact .silent (unsent_append hmore hlater)
  · rw [List.append_assoc]
    exact .told hown hbind hlisten e (unsent_append hmore hlater)

theorem Advertised.onCourse {near : Address} {e : Endpoint} {d : DataConnection}
    (h : Advertised s m own near e d t) : OnCourse s m t := by
  refine ⟨_, .told h.tied h.bound h.listening e unsent_nil, ?_⟩
  rw [h.events, h.command, List.append_nil]
  rfl

theorem Preparing.then (h : Preparing s more t) {net : Network}
    (h' : Net.Readied s.net.counts.listener e t.net net) :
    Preparing s (more ++ [e]) ⟨t.self, net⟩ := by
  constructor
  · exact h.self
  · rw [h'.lines, h.lines]
  · rw [h'.plan, h.plan]
  · rw [h'.events, h.events, List.append_assoc]

/-- A step towards the announcement. -/
theorem meets_step {op : Net Unit} {P : Prop} (hmore : Unsent (more ++ [e]))
    (h : ∀ net, net.listeners s.net.counts.listener = s.net.script.nextListener →
      Meets (· = net) op (fun _ net' => P ∧ Net.Readied s.net.counts.listener e net net')
        fun _ net' => Net.Readied s.net.counts.listener e net net') :
    Meets (Preparing s more) (call op) (fun _ t => P ∧ Preparing s (more ++ [e]) t)
      fun _ => OnCourse s m := by
  intro t ht
  have hnet := h t.net ht.plan t.net rfl
  rw [call, run_zoom]
  rcases hr : op.run t.net with ⟨f | a, net⟩ <;> rw [hr] at hnet
  · exact onCourse_of_silent hmore (ht.then hnet).events
  · exact ⟨hnet.1, ht.then hnet.2⟩

theorem meets_bind_preparing (host : String) :
    Meets (Preparing s []) (call (Net.bind s.net.counts.listener host))
      (fun _ t => s.net.script.nextListener.bindError = none ∧
        Preparing s [.bind (.listener s.net.counts.listener) ⟨host, 0⟩] t)
      fun _ => OnCourse s m := by
  apply meets_step (by simp [Unsent, Event.sent?])
  intro net hplan
  rw [← hplan]
  exact Net.meets_bind_readied _ host net

theorem meets_listen_preparing (host : String) :
    Meets (Preparing s [.bind (.listener s.net.counts.listener) ⟨host, 0⟩])
      (call (Net.listen s.net.counts.listener 1))
      (fun _ t => s.net.script.nextListener.listenError = none ∧
        Preparing s [.bind (.listener s.net.counts.listener) ⟨host, 0⟩,
          .listen (.listener s.net.counts.listener) 1] t)
      fun _ => OnCourse s m := by
  apply meets_step (by simp [Unsent, Event.sent?])
  intro net hplan
  rw [← hplan]
  exact Net.meets_listen_readied _ 1 net

theorem unsent_opening (n : Nat) (host : String) :
    Unsent [.bind (.listener n) ⟨host, 0⟩, .listen (.listener n) 1] := by
  simp [Unsent, Event.sent?]

/-- A listener that listens and knows its own address. -/
def Placed (s : Live Channel) (host : String) (near : Address) (t : Live Channel) : Prop :=
  (t.net.sockets (.listener s.net.counts.listener)).ownAddress = .ok near ∧
    Preparing s [.bind (.listener s.net.counts.listener) ⟨host, 0⟩,
      .listen (.listener s.net.counts.listener) 1] t

theorem Placed.onCourse {host : String} (h : Placed s host near t) : OnCourse s m t :=
  onCourse_of_silent (unsent_opening _ host) h.2.events

theorem meets_ownAddress_placed (host : String) :
    Meets (Preparing s [.bind (.listener s.net.counts.listener) ⟨host, 0⟩,
        .listen (.listener s.net.counts.listener) 1])
      (call (Net.ownAddress (.listener s.net.counts.listener))) (fun near => Placed s host near)
      fun _ => OnCourse s m := by
  intro t ht
  have hcourse : OnCourse s m t := onCourse_of_silent (unsent_opening _ host) ht.events
  rw [call, run_zoom]
  by_cases hopen : (t.net.sockets (.listener s.net.counts.listener)).isOpen = true
  · rw [Net.run_ownAddress hopen]
    dsimp only
    cases hnear : (t.net.sockets (.listener s.net.counts.listener)).ownAddress with
    | ok near => exact ⟨hnear, ht⟩
    | error why => exact hcourse
  · have hclosed := Net.run_openSocket (.listener s.net.counts.listener) t.net
    rw [if_neg hopen] at hclosed
    rw [Net.ownAddress, run_bind_error hclosed]
    exact hcourse

theorem meets_log_placed (host : String) (source : LogSource) (level : LogLevel)
    (message : String) {E : Failure → Live Channel → Prop} :
    Meets (Placed s host near) (call (Net.log source level message)) (fun _ => Placed s host near)
      E := by
  rintro t ⟨hnear, ht⟩
  obtain ⟨logs, hlog⟩ := Net.run_log source level message t.net
  rw [Channel.run_call hlog]
  exact ⟨hnear, ht.self, ht.lines, ht.plan, ht.events⟩

/-- What is known when the server has answered the announcement. -/
structure Told (s : Live Channel) (m : Nat) (host command : String) (near : Address)
    (reply : Reply) (t : Live Channel) : Prop where
  given : (t.net.sockets (.listener s.net.counts.listener)).ownAddress = .ok near
  events : t.net.events = s.net.events ++ advertisement s.net.counts.listener m host command
  heard : ∃ line, (s.net.lines m).answered = .ok line ∧ line.outcome = .ok reply

section Announcing

variable (hstate : s.self.state = .connected) (hwriter : s.self.writer = some m)
  (hreplies : s.self.replies = some m) (hown : (s.net.sockets (.control m)).ownAddress = .ok own)
include hstate hwriter hreplies hown

theorem meets_send_told (hbind : s.net.script.nextListener.bindError = none)
    (hlisten : s.net.script.nextListener.listenError = none) (e : Endpoint) :
    Meets (Placed s own.host near) (Channel.send e.portCommand)
      (Told s m own.host e.portCommand near) fun _ => OnCourse s m := by
  rintro t ⟨hnear, ht⟩
  rw [← ht.self] at hstate hwriter hreplies
  have hevents := Channel.meets_send_noted e.portCommand t ⟨hwriter, rfl⟩
  have haloof := Channel.aloof_send e.portCommand t
  rcases hrun : (Channel.send e.portCommand).run t with ⟨f | reply, u⟩ <;>
    rw [hrun] at hevents haloof
  · obtain ⟨more, hmore, hu⟩ := hevents
    rw [ht.events, List.append_assoc] at hu
    cases hmore with
    | silent h => exact onCourse_of_silent (unsent_append (unsent_opening _ _) h) hu
    | said h => exact ⟨_, .told hown hbind hlisten e h, hu⟩
  · constructor
    · exact (congrArg Socket.ownAddress (congrFun haloof _)).trans hnear
    · rw [hevents, ht.events, List.append_assoc]
      rfl
    · rw [← ht.lines]
      exact Channel.outcome_of_send (Endpoint.masked_portCommand e) hstate hwriter hreplies hrun

theorem meets_announce_told :
    Meets (Preparing s []) (announce s.net.counts.listener own.host)
      (fun d t => ∃ near e, Advertised s m own near e d t) fun _ => OnCourse s m := by
  apply Meets.bind (meets_bind_preparing own.host)
  intro _
  apply Meets.assuming
  intro hbind
  apply Meets.bind (meets_listen_preparing own.host)
  intro _
  apply Meets.assuming
  intro hlisten
  apply Meets.bind (meets_ownAddress_placed own.host)
  intro near
  apply Meets.bind (meets_log_placed own.host _ _ _)
  intro _
  cases haddress : Endpoint.ofAddress own.host near.port with
  | error f => exact .failed fun t ht => ht.onCourse
  | ok e =>
    apply Meets.value
    apply Meets.bind (meets_send_told hstate hwriter hreplies hown hbind hlisten e)
    intro answer
    cases hvalid : Channel.validate ["200"] answer with
    | error f =>
      apply Meets.failed
      intro t ht
      exact ⟨_, .told hown hbind hlisten e unsent_nil, by rw [List.append_nil, ht.events]⟩
    | ok reply =>
      obtain ⟨rfl, -⟩ := Channel.validate_ok hvalid
      apply Meets.value
      apply Meets.look
      intro c
      apply Meets.pure
      rintro t ⟨ht, rfl⟩
      refine ⟨near, e, hown, ht.given, rfl, hbind, hlisten, ht.events, rfl, ?_,
        Endpoint.address_of_ofAddress haddress, Channel.code_of_validate hvalid, ht.heard⟩
      exact Endpoint.ofPassive_bare e

/-- A listener that is given up is closed without a word. -/
theorem meets_active_told (hsocket : s.self.socket = some m)
    (hopen : (s.net.sockets (.control m)).isOpen = true) :
    Meets (· = s) active (fun d t => ∃ near e, Advertised s m own near e d t)
      fun _ => OnCourse s m := by
  apply Meets.bind (Q := fun host t => host = own.host ∧ t = s)
  · rintro _ rfl
    rw [Channel.run_localHost hstate hsocket hopen, hown]
    exact ⟨rfl, rfl⟩
  intro host
  apply Meets.assuming
  rintro rfl
  apply Meets.bind (Q := fun n t => n = s.net.counts.listener ∧ Preparing s [] t)
  · rintro _ rfl
    exact ⟨rfl, rfl, rfl, setAt_same _ _ _, (List.append_nil _).symm⟩
  intro n
  apply Meets.assuming
  rintro rfl
  apply Meets.rescue (meets_announce_told hstate hwriter hreplies hown)
  intro f
  apply Meets.bind (Q := fun _ => OnCourse s m)
  · have hushed := (Net.fading_close (.listener s.net.counts.listener)).imp
      fun _ _ => Network.Fading.hushed
    exact .ofKeeps (Channel.hushed_call hushed) fun _ _ ht h => ht.later h
  intro _
  split
  · exact .fail fun _ ht => ht
  · exact .fail fun _ ht => ht

end Announcing

/-- Over a connected channel, a negotiation in active mode sends nothing but one `PORT` command, and
that only when its listener is tied to the host of the control socket and listens. A connection
comes of it when the command spells the address of the listener and the reply to it is a 200. -/
theorem advertised_of_reachable (hs : Channel.Reachable s) (hstate : s.self.state = .connected) :
    let result := ((run .active).run s).1
    let t := ((run .active).run s).2
    ∃ m, s.self.resources = [.writer m, .reader m, .control m] ∧ OnCourse s m t ∧
      ∀ d, result = .ok d → ∃ own near e, Advertised s m own near e d t := by
  obtain ⟨m, hequipped, -⟩ := Channel.equipped_of_connected hs.lifecycle hstate
  obtain ⟨m', hsocket, hopen⟩ := Channel.open_of_lifecycle hs.lifecycle hstate
  have hsame : m' = m := Option.some.inj (hsocket.symm.trans hequipped.1)
  subst hsame
  refine ⟨m', by rw [Channel.resources_of_equipped hequipped]; rfl, ?_⟩
  change OnCourse s m' (active.run s).2 ∧ ∀ d, (active.run s).1 = .ok d →
    ∃ own near e, Advertised s m' own near e d (active.run s).2
  cases hown : (s.net.sockets (.control m')).ownAddress with
  | error why =>
    have hhost := Channel.run_localHost hstate hsocket hopen
    rw [hown] at hhost
    rw [active, run_bind_error hhost]
    refine ⟨onCourse_of_silent unsent_nil (List.append_nil _).symm, ?_⟩
    rintro d ⟨⟩
  | ok own =>
    have ht := meets_active_told hstate hequipped.2.2.1 hequipped.2.2.2 hown hsocket hopen s rfl
    rcases hrun : active.run s with ⟨f | d, t⟩ <;> rw [hrun] at ht
    · refine ⟨ht, ?_⟩
      rintro d ⟨⟩
    · obtain ⟨near, e, ht⟩ := ht
      refine ⟨ht.onCourse, ?_⟩
      rintro _ ⟨⟩
      exact ⟨own, near, e, ht⟩

/-- The first listener of a client at 10.0.0.2 is given port 40000, which is 156 and 64. -/
theorem advertised_of_visit :
    DataConnection.visit.self.state = .connected ∧
      ∃ m d own near e, d.command = "PORT 10,0,0,2,156,64" ∧
        Advertised DataConnection.visit m own near e d
          ((run .active).run DataConnection.visit).2 := by
  have hstate : DataConnection.visit.self.state = .connected := by decide +kernel
  obtain ⟨m, -, -, hadvertised⟩ := advertised_of_reachable DataConnection.reachable_visit hstate
  have hcommand : ((run .active).run DataConnection.visit).1.map DataConnection.command =
      .ok "PORT 10,0,0,2,156,64" := by decide +kernel
  cases hresult : ((run .active).run DataConnection.visit).1 with
  | error f =>
    rw [hresult] at hcommand
    cases hcommand
  | ok d =>
    rw [hresult] at hcommand
    obtain ⟨own, near, e, h⟩ := hadvertised d hresult
    exact ⟨hstate, m, d, own, near, e, Except.ok.inj hcommand, h⟩

end Negotiation

end FtpControl
