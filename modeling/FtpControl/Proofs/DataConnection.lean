import FtpControl.Negotiation
import FtpControl.Proofs.Channel.Faults

/-!
# What a data connection holds

A negotiation hands over a data connection together with all that it has opened for it, and
keeps nothing when it fails. Closing the connection closes all that it holds, each handle
once, also behind a close that fails.
-/

namespace FtpControl

open Effect Live

/-- Of data connections and listeners, at most these are open. -/
def Network.OpenAtMost (hs : List Handle) (net : Network) : Prop :=
  ∀ h, h.onControl = false → (net.sockets h).isOpen = true → h ∈ hs

theorem isOpen_of_data {net net' : Network} {h : Handle} (hdata : net'.dataLedger = net.dataLedger)
    (hh : h.onControl = false) : (net'.sockets h).isOpen = (net.sockets h).isOpen :=
  isOpen_of_restrict hdata (by simp [hh])

theorem openAtMost_of_data {hs : List Handle} {net net' : Network}
    (hdata : net'.dataLedger = net.dataLedger) (h : net.OpenAtMost hs) : net'.OpenAtMost hs := by
  intro k hk hopen
  apply h k hk
  rwa [← isOpen_of_data hdata hk]

theorem openAtMost_of_hand {hs : List Handle} {h : Handle} {net net' : Network}
    (hledger : net'.ledger = net.ledger.hand h) (hnet : net.OpenAtMost hs) :
    net'.OpenAtMost (h :: hs) := by
  intro k hk hopen
  rcases isOpen_of_hand hledger hopen with rfl | hold
  · exact List.mem_cons_self
  · exact List.mem_cons_of_mem h (hnet k hk hold)

theorem openAtMost_of_close {hs : List Handle} {net net' : Network}
    (hledger : net'.ledger = hs.foldl Ledger.close net.ledger) (hnet : net.OpenAtMost hs) :
    net'.OpenAtMost [] := by
  intro k hk hopen
  obtain ⟨hold, hnot⟩ := isOpen_of_close hledger hopen
  exact absurd (hnet k hk hold) hnot

namespace DataConnection

/-- What the connection holds, in the order in which it is closed. -/
def handles (d : DataConnection) : List Handle :=
  (d.listener.map Handle.listener).toList ++ d.socket.toList

/-- The state of a new connection. -/
structure Fresh (d : DataConnection) : Prop where
  notClosed : d.closed = false
  afar : ∀ h ∈ d.handles, h.onControl = false
  shown : Command.masked d.command = .ok d.command

theorem meets_closeSocket (h : Handle) (l : Ledger) :
    Meets (fun s : Live DataConnection => s.net.ledger = l) (closeSocket h)
      (fun _ s => s.net.ledger = l.close h) fun _ _ => False := by
  refine .bind (Q := fun r s => (∀ e, r = .error e → ∃ why, e = .system why) ∧
    s.net.ledger = l.close h) ?_ fun r => ?_
  · refine .attempt (.net (Net.meets_close h l)) (fun a s hs => ⟨by simp, hs⟩) ?_
    rintro e s ⟨he, hs⟩
    exact ⟨fun e' h' => by cases h'; exact he, hs⟩
  · rcases r with e | ⟨⟩
    · rintro s ⟨he, hs⟩
      obtain ⟨why, rfl⟩ := he e rfl
      exact (Net.quiet_log _ _ _ s.net).trans hs
    · exact .pure fun s hs => hs.2

theorem meets_closeSockets (hs : List Handle) (l : Ledger) :
    Meets (fun s : Live DataConnection => s.net.ledger = l) (closeSockets hs)
      (fun _ s => s.net.ledger = hs.foldl Ledger.close l) fun _ _ => False := by
  induction hs generalizing l with
  | nil => exact .pure fun _ hs => hs
  | cons h hs ih =>
    refine .bind (meets_closeSocket h l) fun first => .bind (ih (l.close h)) fun later => ?_
    exact .pure fun _ hs => hs

theorem fails_shutdownListener (n : Nat) : Fails (fun _ => False) (shutdownListener n) := by
  refine .rescue (.call (Net.fails_shutdown _)) ?_
  rintro _ ⟨why, rfl⟩
  exact .call (Net.fails_log _ _ _)

/-- Operations that make no entry. -/
abbrev Still {α : Type} (m : Op DataConnection α) : Prop :=
  Keeps (fun s t => t.net.ledger = s.net.ledger) m

theorem still_quiet {α : Type} {m : Net α} (hm : Net.Quiet m) : Still (call m) :=
  .call hm fun _ _ h => h

theorem still_shutdownListener (n : Nat) : Still (shutdownListener n) := by
  refine .rescue (still_quiet (Net.quiet_shutdown _)) fun e => ?_
  split
  · exact still_quiet (Net.quiet_log _ _ _)
  · exact .fail _

theorem still_dataSocket : Still dataSocket := by
  refine .bind .this fun d => .ite .failed ?_
  cases d.socket with
  | none => exact .fail _
  | some handle => exact .pure _

theorem still_localAddress : Still localAddress := by
  refine .bind .this fun d => ?_
  cases d.listener with
  | none => exact .bind still_dataSocket fun _ => still_quiet (Net.quiet_ownAddress _)
  | some n => exact still_quiet (Net.quiet_ownAddress _)

/-- What follows the shutdown of the listener. -/
theorem meets_closing (d : DataConnection) (hs : List Handle) (l : Ledger) :
    Meets (fun s : Live DataConnection => s.net.ledger = l)
      (do
        let error ← closeSockets hs
        change fun d => { d with listener := none, socket := none }
        log .debug s!"[DATA] {d.mode.name} data connection closed"
        match error with
        | some why => fault (.dataCloseFailed why)
        | none => pure ())
      (fun _ s => s.net.ledger = hs.foldl Ledger.close l)
      fun e s => e.IsFault ∧ s.net.ledger = hs.foldl Ledger.close l := by
  refine .bind (.sure (meets_closeSockets hs l)) fun error => ?_
  refine .bind (Q := fun _ s => s.net.ledger = hs.foldl Ledger.close l) (.change fun s h => h)
    fun _ => ?_
  refine .bind (Q := fun _ s => s.net.ledger = hs.foldl Ledger.close l) ?_ fun _ => ?_
  · exact fun s h => (Net.quiet_log _ _ _ s.net).trans h
  · cases error with
    | none => exact .pure fun _ h => h
    | some why => exact .fail fun _ h => ⟨⟨_, rfl⟩, h⟩

/-- Every handle is closed once, and only the report of an error can make the call fail. -/
theorem meets_close {d : DataConnection} (hd : d.closed = false) (l : Ledger) :
    Meets (fun s => s.self = d ∧ s.net.ledger = l) close
      (fun _ s => s.net.ledger = d.handles.foldl Ledger.close l)
      fun e s => e.IsFault ∧ s.net.ledger = d.handles.foldl Ledger.close l := by
  refine .known (fun s hs => hs.1) ?_
  rw [hd]
  refine .bind (Q := fun _ s => s.net.ledger = l) (.change fun s hs => hs.2) fun _ => ?_
  unfold handles
  cases d.listener with
  | none => exact meets_closing d _ l
  | some n =>
    refine .bind (Q := fun _ s => s.net.ledger = l) ?_ fun _ => meets_closing d _ l
    exact .sure (((Meets.ofKeeps (still_shutdownListener n) fun s t hs h => h.trans hs).and
      (fails_shutdownListener n).meets).imp (fun s hs => ⟨hs, trivial⟩) (fun _ _ h => h.1)
      fun _ _ h => h.2)

theorem fails_close : Fails Failure.IsFault close := by
  intro s e he
  cases hclosed : s.self.closed with
  | true =>
    rw [close, run_look, hclosed] at he
    cases he
  | false =>
    have ht := meets_close hclosed s.net.ledger s ⟨rfl, rfl⟩
    rcases hr : close.run s with ⟨e' | a, t⟩ <;> rw [hr] at ht he
    · cases he
      exact ht.1
    · cases he

/-- Operations that leave the connection as it is, whatever they do to the network. -/
abbrev Outward {α : Type} (m : Op DataConnection α) : Prop :=
  Keeps (fun s t => t.self = s.self) m

theorem outward_call {α : Type} (m : Net α) : Outward (call m) :=
  fun _ => rfl

theorem outward_shutdownListener (n : Nat) : Outward (shutdownListener n) := by
  refine .rescue (outward_call _) fun e => ?_
  split
  · exact outward_call _
  · exact .fail _

theorem outward_closeSocket (h : Handle) : Outward (closeSocket h) := by
  refine .bind (.attempt (outward_call _)) fun r => ?_
  split
  · exact .pure _
  · exact .bind (outward_call _) fun _ => .pure _
  · exact .fail _

theorem outward_closeSockets (hs : List Handle) : Outward (closeSockets hs) := by
  induction hs with
  | nil => exact .pure _
  | cons h hs ih =>
    exact .bind (outward_closeSocket h) fun _ => .bind ih fun _ => .pure _

/-- The connection when it holds nothing any more. -/
def bare (d : DataConnection) : DataConnection :=
  { d with listener := none, socket := none }

/-- The connection once it has been closed. -/
def shut (d : DataConnection) : DataConnection :=
  bare { d with closed := true }

theorem meets_outward {α : Type} {c : DataConnection} {m : Op DataConnection α} (hm : Outward m) :
    Meets (fun s => s.self = c) m (fun _ s => s.self = c) fun _ s => s.self = c :=
  .ofKeeps hm fun _ _ hs h => h.trans hs

theorem fails_closeSockets (hs : List Handle) : Fails (fun _ => False) (closeSockets hs) :=
  .ofMeets fun s => (meets_closeSockets hs s.net.ledger).imp (fun _ h => by rw [h])
    (fun _ _ _ => trivial) fun _ _ h => h

theorem meets_closing_bare (c d : DataConnection) (hs : List Handle) :
    Meets (fun s => s.self = c)
      (do
        let error ← closeSockets hs
        change fun d => { d with listener := none, socket := none }
        log .debug s!"[DATA] {d.mode.name} data connection closed"
        match error with
        | some why => fault (.dataCloseFailed why)
        | none => pure ())
      (fun _ s => s.self = c.bare) fun _ s => s.self = c.bare := by
  apply Meets.bind (Q := fun _ s => s.self = c)
  · exact (fails_closeSockets hs).keeps (outward_closeSockets hs) fun _ _ hs h => h.trans hs
  intro error
  apply Meets.bind (Q := fun _ s => s.self = c.bare)
  · exact .change fun s hs => congrArg bare hs
  intro _
  apply Meets.bind (meets_outward (outward_call _))
  intro _
  cases error with
  | none => exact .pure fun _ hs => hs
  | some why => exact .fail fun _ hs => hs

theorem meets_close_shut {d : DataConnection} (hd : d.closed = false) :
    Meets (fun s => s.self = d) close (fun _ s => s.self = d.shut) fun _ s => s.self = d.shut := by
  apply Meets.known fun s hs => hs
  rw [hd]
  apply Meets.bind (Q := fun _ s => s.self = { d with closed := true })
  · exact .change fun s hs => congrArg (fun c => { c with closed := true }) hs
  intro _
  have closing := meets_closing_bare { d with closed := true } d
  unfold shut
  generalize { d with closed := true } = c at closing ⊢
  cases d.listener with
  | none => exact closing _
  | some n =>
    apply Meets.bind (Q := fun _ s => s.self = c)
    · exact (fails_shutdownListener n).keeps (outward_shutdownListener n) fun _ _ hs h => h.trans hs
    · exact fun _ => closing _

end DataConnection

theorem Endpoint.masked_portCommand (e : Endpoint) :
    Command.masked e.portCommand = .ok e.portCommand := by
  have hlist : e.portCommand.toList = "PORT ".toList ++ e.argument.toList :=
    String.toList_append
  have hverb : Text.upper (("PORT ".toList ++ e.argument.toList).take 4) ≠ "PASS".toList := by
    change Text.upper "PORT".toList ≠ "PASS".toList
    decide
  unfold Command.masked
  rw [hlist]
  exact if_neg hverb

theorem Channel.code_of_validate {code : String} {answer reply : Reply}
    (h : validate [code] answer = .ok reply) : reply.code.toString = code := by
  obtain ⟨rfl, hcode⟩ := validate_ok h
  exact List.mem_singleton.1 hcode

namespace Negotiation

variable {α : Type} {hs : List Handle}

theorem meets_contained {m : Op Channel α} (hm : Contained m) :
    Meets (fun s => s.net.OpenAtMost hs) m (fun _ s => s.net.OpenAtMost hs)
      fun _ s => s.net.OpenAtMost hs :=
  .ofKeeps hm fun _ _ hs h => openAtMost_of_data h hs

theorem meets_quiet {m : Net α} (hm : Net.Quiet m) :
    Meets (fun s : Live Channel => s.net.OpenAtMost hs) (call m) (fun _ s => s.net.OpenAtMost hs)
      fun _ s => s.net.OpenAtMost hs :=
  meets_contained (contained_within (within_quiet hm))

/-- A call that hands out a data connection or a listener. -/
theorem meets_hand {kind : Nat → Handle} {h : α → Handle} {m : Net α} (hm : Net.Opens kind h m) :
    Meets (fun s : Live Channel => s.net.OpenAtMost hs) (call m)
      (fun a s => (∃ n, h a = kind n) ∧ s.net.OpenAtMost (h a :: hs))
      fun _ s => s.net.OpenAtMost hs := by
  refine .net (P := fun net => net.OpenAtMost hs)
    (Q := fun a net => (∃ n, h a = kind n) ∧ net.OpenAtMost (h a :: hs))
    (E := fun _ net => net.OpenAtMost hs) fun net hnet => ?_
  have ht := hm net.ledger net rfl
  rcases hr : m.run net with ⟨e | a, t⟩ <;> rw [hr] at ht
  · exact openAtMost_of_data (congrArg (Ledger.restrict fun h => !h.onControl) ht) hnet
  · exact ⟨ht.1, openAtMost_of_hand ht.2 hnet⟩

/-- The connection that an announcement yields. -/
def Announced (n : Nat) (d : DataConnection) (s : Live Channel) : Prop :=
  ∃ (e : Endpoint) (reply : Reply), reply.code.toString = "200" ∧
    d = { mode := .active, command := e.portCommand, reply
          timeoutMillis := s.self.timeoutMillis, listener := some n }

/-- What holds before the command of an announcement and what holds behind it. -/
theorem meets_announce_along {P S E : Live Channel → Prop} (n : Nat) (host : String)
    (hquiet : ∀ {β : Type} {m : Net β}, Net.Quiet m → Meets P (call m) (fun _ => P) fun _ => E)
    (hsend : ∀ e : Endpoint, Meets P (Channel.send e.portCommand) (fun _ => S) fun _ => E)
    (hP : ∀ s, P s → E s) (hS : ∀ s, S s → E s) :
    Meets P (announce n host) (fun d s => S s ∧ Announced n d s) fun _ => E := by
  apply Meets.bind (hquiet (Net.quiet_bind n host))
  intro _
  apply Meets.bind (hquiet (Net.quiet_listen n 1))
  intro _
  apply Meets.bind (hquiet (Net.quiet_ownAddress _))
  intro own
  apply Meets.bind (hquiet (Net.quiet_log _ _ _))
  intro _
  split
  · apply Meets.value
    apply Meets.bind (hsend _)
    intro answer
    apply Meets.given (fun _ _ => hS)
    intro reply hreply
    apply Meets.look
    intro c
    apply Meets.pure
    rintro s ⟨hs, rfl⟩
    exact ⟨hs, _, reply, Channel.code_of_validate hreply, rfl⟩
  · exact .failed hP

/-- The connection that dialling yields. -/
def Dialled (h : Handle) (d : DataConnection) : Prop :=
  ∃ (reply : Reply) (timeoutMillis : Int), reply.code.toString = "227" ∧
    d = { mode := .passive, command := "PASV", reply, timeoutMillis, socket := some h }

/-- What holds before the command, behind it, and behind dialling. -/
theorem meets_passive_along {P S E : Live Channel → Prop} {T : Handle → Live Channel → Prop}
    {L : Int → Prop} (hsend : Meets P (Channel.send "PASV") (fun _ => S) fun _ => E)
    (hquiet : ∀ {β : Type} {m : Net β}, Net.Quiet m → Meets S (call m) (fun _ => S) fun _ => E)
    (hdial : ∀ peer limit, Meets S (call (Net.dialData peer limit)) T fun _ => E)
    (hlog : ∀ h source level message,
      Meets (T h) (call (Net.log source level message)) (fun _ => T h) fun _ => E)
    (hlimit : ∀ s, S s → L s.self.timeoutMillis) (hS : ∀ s, S s → E s) :
    Meets P passive (fun d s => ∃ h, T h s ∧ L d.timeoutMillis ∧ Dialled h d) fun _ => E := by
  apply Meets.bind hsend
  intro answer
  apply Meets.given (fun _ _ => hS)
  intro reply hreply
  apply Meets.bind (Q := fun _ => S)
  · unfold passiveEndpoint
    split
    · exact .bind (hquiet (Net.quiet_log _ _ _)) fun _ => .pure fun _ hs => hs
    · exact .fail hS
  intro peer
  apply Meets.look
  intro c
  by_cases hc : L c.timeoutMillis
  swap
  · rintro s ⟨hs, rfl⟩
    exact absurd (hlimit s hs) hc
  apply Meets.given (fun _ _ s hs => hS s hs.1)
  intro limit _
  apply Meets.bind (Q := T)
  · apply Meets.rescue ((hdial peer.address limit).start fun _ hs => hs.1)
    intro e
    split
    · exact .fail fun _ hs => hs
    · exact .fail fun _ hs => hs
  intro h
  apply Meets.bind (hlog h _ _ _)
  intro _
  exact .pure fun s hs => ⟨h, hs, hc, reply, _, Channel.code_of_validate hreply, rfl⟩

theorem meets_announce (n : Nat) (host : String) :
    Meets (fun s => s.net.OpenAtMost [.listener n]) (announce n host)
      (fun d s => d.Fresh ∧ s.net.OpenAtMost d.handles)
      fun _ s => s.net.OpenAtMost [.listener n] := by
  apply (meets_announce_along n host (fun hm => meets_quiet hm)
    (fun _ => meets_contained (Channel.contained_send _)) (fun _ hs => hs) fun _ hs => hs).yields
  rintro d s ⟨hs, e, reply, -, rfl⟩
  refine ⟨⟨rfl, ?_, Endpoint.masked_portCommand e⟩, hs⟩
  simp [DataConnection.handles, Handle.onControl]

theorem meets_active :
    Meets (fun s => s.net.OpenAtMost []) active
      (fun d s => d.Fresh ∧ s.net.OpenAtMost d.handles) fun _ s => s.net.OpenAtMost [] := by
  refine .bind (meets_contained ?_) fun host => ?_
  · exact contained_within (Channel.within_aside Channel.aside_localHost)
  refine .bind (meets_hand Net.opens_openListener) fun n => ?_
  refine .rescue ((meets_announce n host).start fun _ hs => hs.2) fun e => ?_
  refine .bind (Q := fun _ s => s.net.OpenAtMost []) ?_ fun _ => ?_
  · apply Meets.net (Meets.ofLeaves _)
    intro net hnet
    have hledger : ((Net.close (.listener n)).run net).2.ledger =
        [Handle.listener n].foldl Ledger.close net.ledger := Net.ledger_close _ net
    exact openAtMost_of_close hledger hnet
  · split
    · exact .fail fun _ hs => hs
    · exact .fail fun _ hs => hs

theorem meets_passive :
    Meets (fun s => s.net.OpenAtMost []) passive
      (fun d s => d.Fresh ∧ s.net.OpenAtMost d.handles) fun _ s => s.net.OpenAtMost [] := by
  have hmasked : Command.masked "PASV" = .ok "PASV" := by decide +kernel
  apply (meets_passive_along (L := fun _ => True)
    (T := fun h s => (∃ n, h = .data n) ∧ s.net.OpenAtMost [h])
    (meets_contained (Channel.contained_send _)) (fun hm => meets_quiet hm)
    (fun peer limit => meets_hand (Net.opens_dialData peer limit)) (fun h _ _ _ => ?_)
    (fun _ _ => trivial) fun _ hs => hs).yields
  · rintro d s ⟨h, ⟨⟨n, rfl⟩, hs⟩, -, reply, millis, -, rfl⟩
    exact ⟨⟨rfl, by simp [DataConnection.handles, Handle.onControl], hmasked⟩, hs⟩
  · exact (Fails.call (Net.fails_log _ _ _)).keeps (within_quiet (Net.quiet_log _ _ _))
      fun _ _ hs h => ⟨hs.1, openAtMost_of_data h.data hs.2⟩

/-- A data connection comes with all that is open for it; without one, nothing is. -/
theorem meets_run (mode : DataMode) :
    Meets (fun s => s.net.OpenAtMost []) (run mode)
      (fun d s => d.Fresh ∧ s.net.OpenAtMost d.handles) fun _ s => s.net.OpenAtMost [] := by
  cases mode with
  | active => exact meets_active
  | passive => exact meets_passive

end Negotiation

end FtpControl
