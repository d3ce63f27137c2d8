import FtpControl.Proofs.Channel.Operations
import FtpControl.Proofs.DataConnection.Accepting
import FtpControl.Proofs.Negotiation.Custody

/-!
# Where a data connection stands

A data connection that was negotiated is pending, connected or closed, as long as its sockets can
be closed without an error. One call alone breaks this: a pending connection that waits with a
limit that no socket takes is left with a closed listener, until it is closed or waits again.
-/

namespace FtpControl

open Effect Live

namespace DataConnection

variable {past : List Handle} {s t : Live DataConnection}

/-- What the holder of a data connection can do with it. -/
inductive Call where
  | accept (waitMillis : Option Int)
  | close
  | dataSocket
  | localAddress

/-- The connection behind a call, whatever came of it. -/
def Call.after (s : Live DataConnection) : Call → Live DataConnection
  | accept waitMillis => ((DataConnection.accept waitMillis).run s).2
  | close => (DataConnection.close.run s).2
  | dataSocket => (DataConnection.dataSocket.run s).2
  | localAddress => (DataConnection.localAddress.run s).2

inductive Standing where
  | pending
  | connected
  | closed
  /-- A listener is held that is closed already. -/
  | stranded
deriving DecidableEq

/-- `past` lists all that the connection ever held. -/
def Stands (past : List Handle) (s : Live DataConnection) : Standing → Prop
  | .pending => ∃ n, s.self.listener = some n ∧ s.self.socket = none ∧
      (s.net.sockets (.listener n)).isOpen = true
  | .connected => s.self.listener = none ∧ ∃ h, s.self.socket = some h ∧
      (s.net.sockets h).isOpen = true
  | .closed => s.self.listener = none ∧ s.self.socket = none ∧
      ∀ h ∈ past, (s.net.sockets h).isOpen = false
  | .stranded => ∃ n, s.self.listener = some n ∧ s.self.socket = none ∧
      (s.net.sockets (.listener n)).isOpen = false

/-- The only place where a connection can stand. -/
def standing (s : Live DataConnection) : Standing :=
  match s.self.listener with
  | some n => if (s.net.sockets (.listener n)).isOpen then .pending else .stranded
  | none => if s.self.socket.isSome then .connected else .closed

theorem eq_standing {a : Standing} (h : Stands past s a) : a = standing s := by
  cases a with
  | pending =>
    obtain ⟨n, hlistener, -, hopen⟩ := h
    simp [standing, hlistener, hopen]
  | connected =>
    obtain ⟨hlistener, k, hsocket, -⟩ := h
    simp [standing, hlistener, hsocket]
  | closed =>
    obtain ⟨hlistener, hsocket, -⟩ := h
    simp [standing, hlistener, hsocket]
  | stranded =>
    obtain ⟨n, hlistener, -, hopen⟩ := h
    simp [standing, hlistener, hopen]

/-- The connections that a negotiation over a channel yields, after any number of calls, with all
that they ever held. In between, anything may happen to the rest of the network. -/
inductive Used : List Handle → Live DataConnection → Prop
  | obtained {mode : DataMode} {c e : Live Channel} {d : DataConnection}
      (h : Channel.Reachable c) (hrun : (Negotiation.run mode).run c = (.ok d, e))
      (hclose : ∀ k ∈ d.handles, (e.net.sockets k).closeError = none) :
      Used d.handles ⟨d, e.net⟩
  | after (call : Call) {past : List Handle} {s : Live DataConnection} (h : Used past s) :
      Used (past ++ (call.after s).self.handles) (call.after s)
  | meanwhile {past : List Handle} {d : DataConnection} {net net' : Network}
      (h : Used past ⟨d, net⟩) (hnet : ∀ k ∈ past, net'.sockets k = net.sockets k) :
      Used past ⟨d, net'⟩

/-- A wait without a limit of its own, or with one that sockets take. -/
def Fit : Option Int → Prop
  | none => True
  | some millis => Timeout.Usable millis

/-- Where a call may lead. -/
inductive Moves : Call → Standing → Standing → Prop
  | dataSocket (a : Standing) : Moves .dataSocket a a
  | localAddress (a : Standing) : Moves .localAddress a a
  | close (a : Standing) : Moves .close a .closed
  | connected (waitMillis : Option Int) : Moves (.accept waitMillis) .connected .connected
  | closed (waitMillis : Option Int) : Moves (.accept waitMillis) .closed .closed
  | accept {waitMillis : Option Int} (h : Fit waitMillis) :
      Moves (.accept waitMillis) .pending .connected
  | fail {waitMillis : Option Int} (h : Fit waitMillis) :
      Moves (.accept waitMillis) .pending .closed
  | strand {waitMillis : Option Int} (h : ¬ Fit waitMillis) :
      Moves (.accept waitMillis) .pending .stranded
  | recover {waitMillis : Option Int} (h : Fit waitMillis) :
      Moves (.accept waitMillis) .stranded .closed
  | remain {waitMillis : Option Int} (h : ¬ Fit waitMillis) :
      Moves (.accept waitMillis) .stranded .stranded

/-! ## What all calls keep -/

/-- What is known of a connection between two calls. -/
structure Tended (past : List Handle) (s : Live DataConnection) : Prop where
  listed : ∀ h ∈ s.self.handles, h ∈ past
  /-- What the connection has let go of is closed. -/
  settled : ∀ h ∈ past, h ∉ s.self.handles → (s.net.sockets h).isOpen = false
  /-- Before a connection arrives, there was nothing but the listener. -/
  awaiting : ∀ n, s.self.listener = some n → s.self.socket = none ∧ s.self.closed = false ∧
    s.net.Lenient n ∧ ∀ h ∈ past, h = .listener n
  connected : ∀ h, s.self.socket = some h → s.self.closed = false ∧
    (s.net.sockets h).isOpen = true
  usable : Timeout.Usable s.self.timeoutMillis

theorem tended_of_sockets {d : DataConnection} {net net' : Network} (h : Tended past ⟨d, net⟩)
    (hnet : ∀ k ∈ past, net'.sockets k = net.sockets k) : Tended past ⟨d, net'⟩ where
  listed := h.listed
  settled k hk hnot := by
    rw [hnet k hk]
    exact h.settled k hk hnot
  awaiting n hn := by
    obtain ⟨hsocket, hclosed, hlenient, hpast⟩ := h.awaiting n hn
    have hmem : Handle.listener n ∈ past :=
      h.listed _ (by simp [handles, show d.listener = _ from hn])
    refine ⟨hsocket, hclosed, ?_, hpast⟩
    rw [Network.Lenient, Network.listening, hnet _ hmem]
    exact hlenient
  connected k hk := by
    have hmem : k ∈ past := h.listed _ (by simp [handles, show d.socket = _ from hk])
    rw [hnet k hmem]
    exact h.connected k hk
  usable := h.usable

theorem tended_append (h : Tended past s) : Tended (past ++ s.self.handles) s where
  listed k hk := List.mem_append_right _ hk
  settled k hk hnot := h.settled k ((List.mem_append.1 hk).resolve_right hnot) hnot
  awaiting n hn := by
    obtain ⟨hsocket, hclosed, hlenient, hpast⟩ := h.awaiting n hn
    refine ⟨hsocket, hclosed, hlenient, fun k hk => hpast k ?_⟩
    exact (List.mem_append.1 hk).elim id (h.listed k)
  connected := h.connected
  usable := h.usable

/-- A connection that holds nothing any more. -/
theorem tended_of_bare (hlistener : s.self.listener = none) (hsocket : s.self.socket = none)
    (hclosed : ∀ h ∈ past, (s.net.sockets h).isOpen = false)
    (husable : Timeout.Usable s.self.timeoutMillis) : Tended (past ++ s.self.handles) s where
  listed := by simp [handles, hlistener, hsocket]
  settled k hk _ := hclosed k (by simpa [handles, hlistener, hsocket] using hk)
  awaiting n hn := by simp [hlistener] at hn
  connected k hk := by simp [hsocket] at hk
  usable := husable

/-- A connection that holds a listener and never held anything else. -/
theorem tended_of_listener {n : Nat} (hlistener : s.self.listener = some n)
    (hsocket : s.self.socket = none) (hclosed : s.self.closed = false) (hlenient : s.net.Lenient n)
    (hpast : ∀ h ∈ past, h = .listener n) (husable : Timeout.Usable s.self.timeoutMillis) :
    Tended (past ++ s.self.handles) s := by
  have hhandles : s.self.handles = [.listener n] := by simp [handles, hlistener, hsocket]
  have hall : ∀ k ∈ past ++ s.self.handles, k = .listener n := by
    intro k hk
    rw [hhandles] at hk
    exact (List.mem_append.1 hk).elim (hpast k) List.mem_singleton.1
  constructor
  · intro k hk
    exact List.mem_append_right _ hk
  · intro k hk hnot
    rw [hhandles, List.mem_singleton] at hnot
    exact absurd (hall k hk) hnot
  · intro m hm
    rw [hlistener] at hm
    cases hm
    exact ⟨hsocket, hclosed, hlenient, hall⟩
  · simp [hsocket]
  · exact husable

/-- A connection that holds a data socket, all before it being closed. -/
theorem tended_of_socket {k : Handle} (hlistener : s.self.listener = none)
    (hsocket : s.self.socket = some k) (hclosed : s.self.closed = false)
    (hopen : (s.net.sockets k).isOpen = true)
    (hpast : ∀ h ∈ past, (s.net.sockets h).isOpen = false)
    (husable : Timeout.Usable s.self.timeoutMillis) : Tended (past ++ s.self.handles) s := by
  constructor
  · intro j hj
    exact List.mem_append_right _ hj
  · intro j hj hnot
    exact hpast j ((List.mem_append.1 hj).resolve_right hnot)
  · simp [hlistener]
  · intro j hj
    rw [hsocket] at hj
    cases hj
    exact ⟨hclosed, hopen⟩
  · exact husable

/-! ## Calls that only look -/

theorem looks_dataSocket : Keeps Eq dataSocket := by
  refine .bind .this fun d => .ite .failed ?_
  cases d.socket with
  | none => exact .fail _
  | some h => exact .pure _

theorem looks_ownAddress (h : Handle) : Keeps Eq (Net.ownAddress h) := by
  refine .bind (.bind .state fun _ => .ite (.pure _) (.fail _)) fun s => ?_
  split
  · exact .pure _
  · exact .fail _

theorem looks_localAddress : Keeps Eq localAddress := by
  have asked : ∀ h, Keeps Eq (call (Net.ownAddress h) : Op DataConnection Address) := by
    intro h
    refine .call (looks_ownAddress h) ?_
    rintro s net rfl
    rfl
  refine .bind .this fun d => ?_
  cases d.listener with
  | none => exact .bind looks_dataSocket fun _ => asked _
  | some n => exact asked _

/-! ## Closing -/

theorem run_close_of_closed (h : s.self.closed = true) : (close.run s).2 = s := by
  rw [close, run_look, h]
  rfl

/-- Closing leaves nothing held and nothing open. -/
theorem bare_of_close (h : Tended past s) :
    (close.run s).2.self.bare = (close.run s).2.self ∧
      (close.run s).2.self.timeoutMillis = s.self.timeoutMillis ∧
        ∀ k ∈ past, ((close.run s).2.net.sockets k).isOpen = false := by
  cases hclosed : s.self.closed with
  | true =>
    have hlistener : s.self.listener = none := by
      by_contra hne
      obtain ⟨n, hn⟩ := Option.ne_none_iff_exists'.1 hne
      simp [(h.awaiting n hn).2.1] at hclosed
    have hsocket : s.self.socket = none := by
      by_contra hne
      obtain ⟨k, hk⟩ := Option.ne_none_iff_exists'.1 hne
      simp [(h.connected k hk).1] at hclosed
    rw [run_close_of_closed hclosed]
    refine ⟨?_, rfl, fun k hk => h.settled k hk (by simp [handles, hlistener, hsocket])⟩
    cases hself : s.self
    simp_all [bare]
  | false =>
    have hself := (meets_close_shut hclosed).leaves (s := s) rfl
    have hledger := ((meets_close hclosed s.net.ledger).failing fun _ _ h => h.2).leaves
      (s := s) ⟨rfl, rfl⟩
    generalize (close.run s).2 = t at hself hledger ⊢
    rw [hself]
    refine ⟨rfl, rfl, fun k hk => ?_⟩
    have hopen : (t.net.sockets k).isOpen =
        (s.self.handles.foldl Ledger.close s.net.ledger).isOpen k :=
      congrFun (congrArg Ledger.isOpen hledger) k
    rw [hopen, Ledger.isOpen_foldl_close]
    by_cases hheld : k ∈ s.self.handles
    · simp [hheld]
    · have hsettled : s.net.ledger.isOpen k = false := h.settled k hk hheld
      simp [hsettled]

theorem tended_close (h : Tended past s) :
    Tended (past ++ (close.run s).2.self.handles) (close.run s).2 := by
  obtain ⟨hbare, hlimit, hclosed⟩ := bare_of_close h
  apply tended_of_bare _ _ hclosed
  · rw [hlimit]
    exact h.usable
  · rw [← hbare]
    rfl
  · rw [← hbare]
    rfl

/-! ## Accepting -/

theorem run_accept_of_none {s : Live DataConnection} (h : s.self.listener = none)
    (waitMillis : Option Int) : ((accept waitMillis).run s).2 = s := by
  rw [accept, run_look, h]
  cases s.self.closed <;> rfl

theorem after_run_accept {n : Nat} (h : Tended past s) (hn : s.self.listener = some n)
    (waitMillis : Option Int) :
    s.self.After n (s.net.listening n).isOpen (waitMillis.getD s.self.timeoutMillis)
      ((accept waitMillis).run s).2 := by
  obtain ⟨hsocket, hclosed, hlenient, -⟩ := h.awaiting n hn
  exact (meets_accept waitMillis hclosed hn hsocket h.usable).leaves ⟨⟨rfl, hlenient⟩, rfl⟩

theorem tended_of_after {n : Nat} {isOpen : Bool} {millis : Int} (h : Tended past s)
    (hn : s.self.listener = some n) (ht : s.self.After n isOpen millis t) :
    Tended (past ++ t.self.handles) t := by
  obtain ⟨hsocket, hclosed, -, hpast⟩ := h.awaiting n hn
  have hgone : ∀ k ∈ past, (t.net.sockets k).isOpen = false := by
    intro k hk
    rw [hpast k hk]
    exact ht.listenerClosed
  have husable : Timeout.Usable t.self.timeoutMillis := by
    rw [ht.sameLimit]
    exact h.usable
  by_cases hmillis : Timeout.Usable millis
  · obtain ⟨hlistener, harrived⟩ := ht.usable hmillis
    cases hsocket' : t.self.socket with
    | none => exact tended_of_bare hlistener hsocket' hgone husable
    | some k =>
      obtain ⟨-, hclosed', hopen⟩ := harrived k hsocket'
      exact tended_of_socket hlistener hsocket' hclosed' hopen hgone husable
  · obtain ⟨hself, hlenient⟩ := ht.unusable hmillis
    rw [← hself] at hn hsocket hclosed
    exact tended_of_listener hn hsocket hclosed hlenient hpast husable

/-! ## Calls -/

theorem tended_after (call : Call) (h : Tended past s) :
    Tended (past ++ (call.after s).self.handles) (call.after s) := by
  cases call with
  | accept waitMillis =>
    rw [Call.after]
    cases hn : s.self.listener with
    | none =>
      rw [run_accept_of_none hn]
      exact tended_append h
    | some n => exact tended_of_after h hn (after_run_accept h hn waitMillis)
  | close => exact tended_close h
  | dataSocket =>
    rw [Call.after, ← looks_dataSocket s]
    exact tended_append h
  | localAddress =>
    rw [Call.after, ← looks_localAddress s]
    exact tended_append h

/-- Every tended connection stands somewhere. -/
theorem exists_stands (h : Tended past s) : ∃ a, Stands past s a := by
  cases hlistener : s.self.listener with
  | some n =>
    obtain ⟨hsocket, -⟩ := h.awaiting n hlistener
    cases hopen : (s.net.sockets (.listener n)).isOpen with
    | true => exact ⟨.pending, n, hlistener, hsocket, hopen⟩
    | false => exact ⟨.stranded, n, hlistener, hsocket, hopen⟩
  | none =>
    cases hsocket : s.self.socket with
    | some k => exact ⟨.connected, hlistener, k, hsocket, (h.connected k hsocket).2⟩
    | none =>
      refine ⟨.closed, hlistener, hsocket, fun k hk => h.settled k hk ?_⟩
      simp [handles, hlistener, hsocket]

theorem fit_iff {d : DataConnection} (h : Timeout.Usable d.timeoutMillis)
    (waitMillis : Option Int) :
    Fit waitMillis ↔ Timeout.Usable (waitMillis.getD d.timeoutMillis) := by
  cases waitMillis with
  | none => exact iff_of_true trivial h
  | some millis => rfl

theorem moves_accept (h : Tended past s) (waitMillis : Option Int) :
    Moves (.accept waitMillis) (standing s) (standing ((accept waitMillis).run s).2) := by
  cases hn : s.self.listener with
  | none =>
    rw [run_accept_of_none hn]
    cases hsocket : s.self.socket with
    | none => simpa [standing, hn, hsocket] using Moves.closed waitMillis
    | some k => simpa [standing, hn, hsocket] using Moves.connected waitMillis
  | some n =>
    have ht := after_run_accept h hn waitMillis
    generalize ((accept waitMillis).run s).2 = t at ht
    rw [Network.listening] at ht
    by_cases hfit : Fit waitMillis
    · obtain ⟨hlistener, harrived⟩ := ht.usable ((fit_iff h.usable _).1 hfit)
      cases hsocket : t.self.socket with
      | some k =>
        obtain ⟨hopen, -⟩ := harrived k hsocket
        simpa [standing, hn, hopen, hlistener, hsocket] using Moves.accept hfit
      | none =>
        cases hopen : (s.net.sockets (.listener n)).isOpen with
        | true => simpa [standing, hn, hopen, hlistener, hsocket] using Moves.fail hfit
        | false => simpa [standing, hn, hopen, hlistener, hsocket] using Moves.recover hfit
    · obtain ⟨hself, -⟩ := ht.unusable (mt (fit_iff h.usable _).2 hfit)
      have hgone : (t.net.sockets (.listener n)).isOpen = false := ht.listenerClosed
      cases hopen : (s.net.sockets (.listener n)).isOpen with
      | true => simpa [standing, hn, hopen, hself, hgone] using Moves.strand hfit
      | false => simpa [standing, hn, hopen, hself, hgone] using Moves.remain hfit

theorem moves_after (call : Call) (h : Tended past s) :
    Moves call (standing s) (standing (call.after s)) := by
  cases call with
  | accept waitMillis => exact moves_accept h waitMillis
  | close =>
    obtain ⟨hbare, -, -⟩ := bare_of_close h
    have hclosed : standing (close.run s).2 = .closed := by
      rw [standing, ← hbare]
      rfl
    rw [Call.after, hclosed]
    exact .close _
  | dataSocket =>
    rw [Call.after, ← looks_dataSocket s]
    exact .dataSocket _
  | localAddress =>
    rw [Call.after, ← looks_localAddress s]
    exact .localAddress _

/-! ## Negotiated connections -/

theorem tended_of_bears {d : DataConnection} {mode : DataMode} {h : Handle} {net : Network}
    (hd : d.Bears mode h) (hopen : (net.sockets h).isOpen = true)
    (husable : Timeout.Usable d.timeoutMillis) (hclose : (net.sockets h).closeError = none) :
    Tended d.handles ⟨d, net⟩ := by
  change Tended ([] ++ (Live.mk d net).self.handles) ⟨d, net⟩
  cases mode with
  | active =>
    obtain ⟨hsocket, n, hlistener, rfl⟩ := hd.held
    exact tended_of_listener hlistener hsocket hd.notClosed hclose (by simp) husable
  | passive =>
    obtain ⟨hlistener, hsocket⟩ := hd.held
    exact tended_of_socket hlistener hsocket hd.notClosed hopen (by simp) husable

theorem tended_of_used (h : Used past s) : Tended past s := by
  induction h with
  | @obtained mode c e d hc hrun hclose =>
    obtain ⟨k, hd, -, hopen⟩ := (Negotiation.meets_run_added mode).of_ok rfl hrun
    have husable := (Negotiation.meets_run_usable mode).of_ok hc.lifecycle hrun
    apply tended_of_bears hd hopen husable
    apply hclose
    simp [handles_of_bears hd]
  | after call _ ih => exact tended_after call ih
  | meanwhile _ hnet ih => exact tended_of_sockets ih hnet

/-- In one of four ways a negotiated data connection stands, before and behind every call. Pending
and stranded are those that it calls pending itself, and a wait with a limit that no socket takes
is all that leads from the one to the other. -/
theorem standing_of_used (h : Used past s) :
    (∀ a, Stands past s a ↔ a = standing s) ∧
      (s.self.isPending = true ↔ standing s = .pending ∨ standing s = .stranded) ∧
        ∀ call, Moves call (standing s) (standing (call.after s)) := by
  have htended := tended_of_used h
  refine ⟨fun a => ⟨eq_standing, ?_⟩, ?_, fun call => moves_after call htended⟩
  · rintro rfl
    obtain ⟨a, ha⟩ := exists_stands htended
    rwa [← eq_standing ha]
  · cases hlistener : s.self.listener with
    | none => cases hsocket : s.self.socket <;> simp [isPending, standing, hlistener, hsocket]
    | some n =>
      cases hopen : (s.net.sockets (.listener n)).isOpen <;>
        simp [isPending, standing, hlistener, hopen]

/-- A server that agrees to an active data connection and opens it. -/
def willingServer : Network where
  script :=
    { controls := [{
        banner := Text.encodeUtf8 "220 ready\r\n".toList
        exchanges := [{ bytes := Text.encodeUtf8 "200 agreed\r\n".toList }] }]
      listeners := [{ incoming := some (.ok {}) }] }

/-- A channel that is connected to it. -/
def visit : Live Channel :=
  ((Channel.Operation.connect ⟨some "ftp.test", 21⟩ 10000).perform.run ⟨{}, willingServer⟩).2

theorem reachable_visit : Channel.Reachable visit :=
  .after _ (.start (Ledger.restrict_held _ _))

/-- A wait for less than no time leaves the connection stranded, and one without a limit of its
own connects it. -/
theorem standing_of_visit :
    ∃ past s, Used past s ∧ standing s = .pending ∧
      Moves (.accept none) .pending .connected ∧
        standing ((Call.accept none).after s) = .connected ∧
          Moves (.accept (some (-1))) .pending .stranded ∧
            standing ((Call.accept (some (-1))).after s) = .stranded := by
  have hcheck : (match (Negotiation.run .active).run visit with
      | (.ok d, e) =>
        d.handles.all (fun k => (e.net.sockets k).closeError.isNone) &&
          standing ⟨d, e.net⟩ = .pending &&
            standing ((Call.accept none).after ⟨d, e.net⟩) = .connected &&
              standing ((Call.accept (some (-1))).after ⟨d, e.net⟩) = .stranded
      | (.error _, _) => false) = true := by decide +kernel
  rcases hrun : (Negotiation.run .active).run visit with ⟨f | d, e⟩ <;> rw [hrun] at hcheck
  · contradiction
  simp only [Bool.and_eq_true, decide_eq_true_eq] at hcheck
  obtain ⟨⟨⟨hclose, hpending⟩, hconnected⟩, hstranded⟩ := hcheck
  have hused : Used d.handles ⟨d, e.net⟩ := .obtained reachable_visit hrun (by simpa using hclose)
  obtain ⟨-, -, hmoves⟩ := standing_of_used hused
  have haccept := hmoves (.accept none)
  have hstrand := hmoves (.accept (some (-1)))
  rw [hpending, hconnected] at haccept
  rw [hpending, hstranded] at hstrand
  exact ⟨_, _, hused, hpending, haccept, hconnected, hstrand, hstranded⟩

end DataConnection

end FtpControl
