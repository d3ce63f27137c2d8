import FtpControl.Proofs.Effect

/-!
# The ledger of a network

What a network call leaves on record about sockets and streams: which were handed out, which
are open, how often each was closed, and what was sent. Only three kinds of calls make an
entry: those that hand out a handle, `close`, and `transmit`.
-/

namespace FtpControl

theorem setAt_setAt {κ ν : Type} [DecidableEq κ] (table : κ → ν) (key : κ) (a b : ν) :
    setAt (setAt table key a) key b = setAt table key b := by
  funext k
  by_cases hk : k = key <;> simp [setAt, hk]

structure Ledger where
  opened : List Handle
  isOpen : Handle → Bool
  closings : Handle → Nat
  sent : List (List UInt8)

namespace Ledger

@[ext] theorem ext {l l' : Ledger} (ho : l.opened = l'.opened) (hi : ∀ h, l.isOpen h = l'.isOpen h)
    (hc : ∀ h, l.closings h = l'.closings h) (hs : l.sent = l'.sent) : l = l' := by
  cases l
  cases l'
  simp_all [funext_iff]

/-- The ledger once a handle has been handed out. -/
def hand (l : Ledger) (h : Handle) : Ledger :=
  { l with opened := l.opened ++ [h], isOpen := setAt l.isOpen h true }

/-- The ledger once a handle has been closed. -/
def close (l : Ledger) (h : Handle) : Ledger :=
  { l with isOpen := setAt l.isOpen h false, closings := setAt l.closings h (l.closings h + 1) }

/-- The ledger once bytes have been sent. -/
def send (l : Ledger) (bytes : List UInt8) : Ledger :=
  { l with sent := l.sent ++ [bytes] }

@[simp] theorem opened_foldl_close (hs : List Handle) (l : Ledger) :
    (hs.foldl close l).opened = l.opened := by
  induction hs generalizing l with
  | nil => rfl
  | cons h hs ih => exact ih (l.close h)

@[simp] theorem isOpen_foldl_close (hs : List Handle) (l : Ledger) (k : Handle) :
    (hs.foldl close l).isOpen k = (l.isOpen k && decide (k ∉ hs)) := by
  induction hs generalizing l with
  | nil => simp
  | cons h hs ih =>
    rw [List.foldl_cons, ih]
    by_cases hk : k = h <;> simp [close, setAt, hk]

@[simp] theorem closings_foldl_close (hs : List Handle) (l : Ledger) (k : Handle) :
    (hs.foldl close l).closings k = l.closings k + hs.count k := by
  induction hs generalizing l with
  | nil => simp
  | cons h hs ih =>
    rw [List.foldl_cons, ih]
    by_cases hk : k = h
    · subst hk
      simp [close]
      omega
    · simp [close, setAt, hk, Ne.symm hk]

@[simp] theorem sent_foldl_close (hs : List Handle) (l : Ledger) :
    (hs.foldl close l).sent = l.sent := by
  induction hs generalizing l with
  | nil => rfl
  | cons h hs ih => exact ih (l.close h)

/-- Handles handed out in this order, none of them ever closed. -/
def held (hs : List Handle) : Ledger where
  opened := hs
  isOpen h := decide (h ∈ hs)
  closings _ := 0
  sent := []

/-- The same handles, all closed, each as often as it was handed out. -/
def released (hs : List Handle) : Ledger where
  opened := hs
  isOpen _ := false
  closings h := hs.count h
  sent := []

theorem held_hand (hs : List Handle) (h : Handle) : (held hs).hand h = held (hs ++ [h]) := by
  ext k
  · rfl
  · by_cases hk : k = h <;> simp [held, hand, setAt, hk]
  · rfl
  · rfl

theorem foldl_close_held {hs rs : List Handle} (h : rs.Perm hs) :
    rs.foldl close (held hs) = released hs := by
  ext k
  · simp [held, released]
  · simp [held, released, h.mem_iff]
  · simp [held, released, h.count_eq]
  · simp [held, released]

/-- The entries about some of the handles, without what was sent. -/
def restrict (p : Handle → Bool) (l : Ledger) : Ledger where
  opened := l.opened.filter p
  isOpen h := p h && l.isOpen h
  closings h := if p h then l.closings h else 0
  sent := []

variable {p : Handle → Bool} {h : Handle}

theorem restrict_held (p : Handle → Bool) (hs : List Handle) :
    (held hs).restrict p = held (hs.filter p) := by
  ext k
  · rfl
  · simp [restrict, held, Bool.and_comm, List.mem_filter]
  · simp [restrict, held]
  · rfl

theorem restrict_hand (hp : p h = true) (l : Ledger) :
    (l.hand h).restrict p = (l.restrict p).hand h := by
  ext k
  · simp [restrict, hand, hp]
  · by_cases hk : k = h <;> simp [restrict, hand, setAt, hk, hp]
  · rfl
  · rfl

theorem restrict_hand_of_not (hp : p h = false) (l : Ledger) :
    (l.hand h).restrict p = l.restrict p := by
  ext k
  · simp [restrict, hand, hp]
  · by_cases hk : k = h <;> simp [restrict, hand, setAt, hk, hp]
  · rfl
  · rfl

theorem restrict_send (p : Handle → Bool) (l : Ledger) (bytes : List UInt8) :
    (l.send bytes).restrict p = l.restrict p := rfl

theorem restrict_close (hp : p h = true) (l : Ledger) :
    (l.close h).restrict p = (l.restrict p).close h := by
  ext k
  · rfl
  · by_cases hk : k = h <;> simp [restrict, close, setAt, hk]
  · by_cases hk : k = h <;> simp [restrict, close, setAt, hk, hp]
  · rfl

theorem restrict_close_of_not (hp : p h = false) (l : Ledger) :
    (l.close h).restrict p = l.restrict p := by
  ext k
  · rfl
  · by_cases hk : k = h <;> simp [restrict, close, setAt, hk, hp]
  · by_cases hk : k = h <;> simp [restrict, close, setAt, hk, hp]
  · rfl

end Ledger

/-- The bytes that an event says were sent. -/
def Event.sent? : Event → Option (List UInt8)
  | .send _ bytes => some bytes
  | _ => none

/-- All that was sent, in order. -/
def Network.sent (net : Network) : List (List UInt8) :=
  net.events.filterMap Event.sent?

def Network.ledger (net : Network) : Ledger where
  opened := net.opened
  isOpen h := (net.sockets h).isOpen
  closings h := net.events.count (.close h)
  sent := net.sent

theorem isOpen_of_ledger {net net' : Network} (h : net'.ledger = net.ledger) (k : Handle) :
    (net'.sockets k).isOpen = (net.sockets k).isOpen :=
  congrFun (congrArg Ledger.isOpen h) k

theorem isOpen_of_restrict {p : Handle → Bool} {net net' : Network} {k : Handle}
    (h : net'.ledger.restrict p = net.ledger.restrict p) (hk : p k = true) :
    (net'.sockets k).isOpen = (net.sockets k).isOpen := by
  have hsame := congrFun (congrArg Ledger.isOpen h) k
  simpa [Ledger.restrict, Network.ledger, hk] using hsame

theorem isOpen_of_hand {net net' : Network} {h k : Handle}
    (hnet : net'.ledger = net.ledger.hand h) (hopen : (net'.sockets k).isOpen = true) :
    k = h ∨ (net.sockets k).isOpen = true := by
  have hsame : (net'.sockets k).isOpen = setAt net.ledger.isOpen h true k :=
    congrFun (congrArg Ledger.isOpen hnet) k
  by_cases hk : k = h
  · exact .inl hk
  · rw [hopen, setAt_of_ne hk] at hsame
    exact .inr hsame.symm

theorem isOpen_of_close {net net' : Network} {hs : List Handle} {k : Handle}
    (hnet : net'.ledger = hs.foldl Ledger.close net.ledger)
    (hopen : (net'.sockets k).isOpen = true) : (net.sockets k).isOpen = true ∧ k ∉ hs := by
  have hsame : (net'.sockets k).isOpen = (hs.foldl Ledger.close net.ledger).isOpen k :=
    congrFun (congrArg Ledger.isOpen hnet) k
  rw [hopen, Ledger.isOpen_foldl_close] at hsame
  have hboth : net.ledger.isOpen k = true ∧ k ∉ hs := by simpa using hsame.symm
  exact hboth

namespace Net

open Effect

/-- Calls that make no entry. -/
abbrev Quiet {α : Type} (m : Net α) : Prop :=
  Keeps (fun net net' => net'.ledger = net.ledger) m

variable {net : Network}

theorem ledger_setSocket (h : Handle) {s : Socket} (hs : s.isOpen = (net.sockets h).isOpen) :
    { net with sockets := setAt net.sockets h s }.ledger = net.ledger := by
  ext k
  · rfl
  · by_cases hk : k = h <;> simp [Network.ledger, setAt, hk, hs]
  · rfl
  · rfl

theorem ledger_event {e : Event} (h : ∀ k, e ≠ .close k) (hs : e.sent? = none) :
    { net with events := net.events ++ [e] }.ledger = net.ledger := by
  ext k
  · rfl
  · rfl
  · simp [Network.ledger, h k]
  · simp [Network.ledger, Network.sent, List.filterMap_append, hs]

theorem quiet_record {e : Event} (h : ∀ k, e ≠ .close k) (hs : e.sent? = none) :
    Quiet (record e) :=
  fun _ => ledger_event h hs

/-- A record for the log changes nothing else, whether or not the log takes it. -/
theorem run_log (source : LogSource) (level : LogLevel) (message : String) (net : Network) :
    ∃ logs, (log source level message).run net = (.ok (), { net with logs }) := by
  rw [log, run_update]
  split_ifs
  · exact ⟨_, rfl⟩
  · exact ⟨net.logs, rfl⟩

theorem quiet_log (source : LogSource) (level : LogLevel) (message : String) :
    Quiet (log source level message) := by
  intro net
  obtain ⟨logs, hlog⟩ := run_log source level message net
  rw [hlog]
  rfl

theorem quiet_now : Quiet now := fun _ => rfl

theorem quiet_refuse (why : Option String) : Quiet (refuse why) := by
  cases why with
  | none => exact .pure _
  | some why => exact .fail _

theorem quiet_openSocket (h : Handle) : Quiet (openSocket h) :=
  .bind .state fun _ => .ite (.pure _) (.fail _)

theorem quiet_checkLimit (limit : Timeout) : Quiet (checkLimit limit) :=
  .ite (.fail _) (.pure _)

theorem quiet_nextControl : Quiet nextControl := fun _ => rfl

theorem quiet_nextExchange (n : Nat) : Quiet (nextExchange n) := by
  refine .bind .state fun net => .ite ?_ (.pure _)
  exact .bind (fun _ => rfl) fun _ => .pure _

theorem quiet_setSource (n : Nat) (src : Source) : Quiet (setSource n src) := fun _ => rfl

theorem quiet_bind (n : Nat) (host : String) : Quiet (bind n host) := by
  refine .bind (quiet_record (by simp) rfl) fun _ => .read fun net => ?_
  rw [run_bind]
  cases hb : (net.listeners n).bindError with
  | none => exact ledger_setSocket _ rfl
  | some why => rfl

theorem quiet_listen (n backlog : Nat) : Quiet (listen n backlog) :=
  .bind (quiet_record (by simp) rfl) fun _ => .bind .state fun _ => quiet_refuse _

theorem run_openSocket (h : Handle) (net : Network) :
    (openSocket h).run net =
      if (net.sockets h).isOpen then (.ok (net.sockets h), net)
      else (.error (.system badDescriptor), net) := by
  simp only [openSocket, run_bind, run_state]
  split_ifs <;> rfl

theorem checkLimit_of_not_negative {limit : Timeout} (h : limit.isNegative = false) :
    checkLimit limit = pure () := by
  rw [checkLimit, h]
  rfl

theorem run_setSocket (h : Handle) (s : Socket) (net : Network) :
    (setSocket h s).run net = (.ok (), { net with sockets := setAt net.sockets h s }) := rfl

theorem run_setTimeout_of_negative {limit : Timeout} (h : limit.isNegative = true) (k : Handle)
    (net : Network) :
    (setTimeout k limit).run net = (.error (.value .timeoutOutOfRange), net) := by
  have hcheck : (checkLimit limit).run net = (.error (.value .timeoutOutOfRange), net) := by
    simp [checkLimit, h]
  rw [setTimeout, run_bind_error hcheck]

theorem run_setTimeout_of_closed {k : Handle} {limit : Timeout} {net : Network}
    (h : limit.isNegative = false) (hclosed : (net.sockets k).isOpen = false) :
    (setTimeout k limit).run net =
      (.error (.system badDescriptor), { net with
        sockets := setAt net.sockets k { net.sockets k with timeout := limit } }) := by
  have hcheck : (checkLimit limit).run net = (.ok (), net) := by
    rw [checkLimit_of_not_negative h]
    rfl
  rw [setTimeout, run_bind_ok hcheck, run_bind_ok (run_state net),
    run_bind_ok (run_setSocket _ _ net)]
  apply run_bind_error
  rw [run_openSocket, if_neg (by simp [hclosed])]

theorem run_setTimeout {h : Handle} {limit : Timeout} {net : Network}
    (hl : limit.isNegative = false) (ho : (net.sockets h).isOpen = true) :
    let s := { net.sockets h with
      timeout := limit, timeoutErrors := (net.sockets h).timeoutErrors.tail }
    (setTimeout h limit).run net =
      match (net.sockets h).timeoutErrors.headD none with
      | some why => (.error (.system why), { net with sockets := setAt net.sockets h s })
      | none =>
        (.ok (), { net with
          sockets := setAt net.sockets h s
          events := net.events ++ [.setTimeout h limit] }) := by
  have hcheck : (checkLimit limit).run net = (.ok (), net) := by
    rw [checkLimit_of_not_negative hl]
    rfl
  rw [setTimeout, run_bind_ok hcheck, run_bind_ok (run_state net),
    run_bind_ok (run_setSocket _ _ net), run_bind, run_openSocket, if_pos (by simp [ho])]
  dsimp only
  rw [setAt_same]
  cases (net.sockets h).timeoutErrors.headD none with
  | some why => simp [run_bind, setSocket, refuse, setAt_setAt]
  | none => simp [run_bind, setSocket, refuse, record, setAt_setAt]

theorem quiet_setTimeout (h : Handle) (limit : Timeout) : Quiet (setTimeout h limit) := by
  intro net
  cases hl : limit.isNegative with
  | true => rw [run_setTimeout_of_negative hl]
  | false =>
    cases ho : (net.sockets h).isOpen with
    | false =>
      rw [run_setTimeout_of_closed hl ho]
      exact ledger_setSocket h rfl
    | true =>
      rw [run_setTimeout hl ho]
      cases (net.sockets h).timeoutErrors.headD none with
      | some why => exact ledger_setSocket h rfl
      | none =>
        calc
          _ = Network.ledger { net with
                sockets := setAt net.sockets h { net.sockets h with
                  timeoutErrors := (net.sockets h).timeoutErrors.tail, timeout := limit } } :=
            ledger_event (by simp) rfl
          _ = net.ledger := ledger_setSocket h rfl

theorem quiet_ownAddress (h : Handle) : Quiet (ownAddress h) := by
  refine .bind (quiet_openSocket h) fun s => ?_
  split
  · exact .pure _
  · exact .fail _

theorem quiet_peerAddress (h : Handle) : Quiet (peerAddress h) := by
  refine .bind (quiet_openSocket h) fun s => ?_
  split
  · exact .pure _
  · exact .fail _

theorem quiet_shutdown (h : Handle) : Quiet (shutdown h) :=
  .bind (quiet_openSocket h) fun _ => .bind (quiet_record (by simp) rfl) fun _ => quiet_refuse _

theorem quiet_lookUp (host : String) : Quiet (lookUp host) := by
  refine .bind (quiet_record (by simp) rfl) fun _ => .bind .state fun net => ?_
  split
  · exact .pure _
  · exact .fail _

/-! ## Calls that make an entry -/

theorem ledger_handOut (h : Handle) {s : Socket} (hs : s.isOpen = true) (net : Network) :
    ((handOut h s).run net).2.ledger = net.ledger.hand h := by
  ext k
  · rfl
  · by_cases hk : k = h <;>
      simp [Network.ledger, Ledger.hand, handOut, run_bind, setSocket, setAt, hk, hs]
  · rfl
  · rfl

/-- Calls that hand out a handle of one kind, which belongs to their result, or else fail
without an entry. -/
def Opens {α : Type} (kind : Nat → Handle) (h : α → Handle) (m : Net α) : Prop :=
  ∀ l, Meets (fun net => net.ledger = l) m
    (fun a net => (∃ n, h a = kind n) ∧ net.ledger = l.hand (h a)) fun _ net => net.ledger = l

theorem Quiet.meets {α : Type} {m : Net α} (hm : Quiet m) (l : Ledger) :
    Meets (fun net => net.ledger = l) m (fun _ net => net.ledger = l)
      fun _ net => net.ledger = l :=
  .ofKeeps hm fun _ _ hl h => h.trans hl

theorem Opens.after {α β : Type} {kind : Nat → Handle} {h : α → Handle} {m : Net β} {f : β → Net α}
    (hm : Quiet m) (hf : ∀ b, Opens kind h (f b)) : Opens kind h (m >>= f) :=
  fun l => .bind (hm.meets l) fun b => hf b l

theorem meets_handOut {h : Handle} {s : Socket} (hs : s.isOpen = true) {l : Ledger}
    {E : Failure → Network → Prop} :
    Meets (fun net => net.ledger = l) (handOut h s) (fun _ net => net.ledger = l.hand h) E := by
  intro net hl
  change ((handOut h s).run net).2.ledger = l.hand h
  rw [ledger_handOut h hs, hl]

theorem opens_dialControl (peer : Target) (limit : Timeout) :
    Opens .control .control (dialControl peer limit) := by
  refine .after quiet_nextControl fun p => .after (quiet_record (by simp) rfl) fun _ => ?_
  refine .after (quiet_checkLimit limit) fun _ => .after (quiet_refuse _) fun _ l => ?_
  refine .bind (meets_handOut rfl) fun _ => ?_
  exact .bind (Q := fun _ net => net.ledger = l.hand (.control p.1)) (.update fun _ hl => hl)
    fun _ => .pure fun _ hl => ⟨⟨p.1, rfl⟩, hl⟩

theorem opens_handOut {kind : Nat → Handle} {n : Nat} {s : Socket} (hs : s.isOpen = true) :
    Opens kind (fun _ => kind n) (handOut (kind n) s) :=
  fun _ => (meets_handOut hs).imp (fun _ hl => hl) (fun _ _ hl => ⟨⟨n, rfl⟩, hl⟩) fun _ _ hl => hl

theorem opens_openReader (n : Nat) : Opens .reader (fun _ => .reader n) (openReader n) :=
  .after .state fun _ => .after (quiet_refuse _) fun _ => opens_handOut rfl

theorem opens_openWriter (n : Nat) : Opens .writer (fun _ => .writer n) (openWriter n) :=
  .after .state fun _ => .after (quiet_refuse _) fun _ => opens_handOut rfl

theorem opens_dialData (peer : Address) (limit : Timeout) :
    Opens .data id (dialData peer limit) := by
  refine .after .state fun net => .after (fun _ => rfl) fun _ => ?_
  refine .after (quiet_record (by simp) rfl) fun _ => .after (quiet_checkLimit limit) fun _ => ?_
  refine .after (quiet_refuse _) fun _ l => ?_
  exact .bind (meets_handOut rfl) fun _ => .pure fun _ hl => ⟨⟨net.counts.data, rfl⟩, hl⟩

theorem opens_openListener : Opens .listener .listener openListener := by
  refine .after .state fun net => .after (fun _ => rfl) fun _ l => ?_
  exact .bind (meets_handOut rfl) fun _ => .pure fun _ hl => ⟨⟨net.counts.listener, rfl⟩, hl⟩

theorem opens_accept (n : Nat) : Opens .accepted Prod.fst (accept n) := by
  refine .after (quiet_openSocket _) fun s => .after (quiet_record (by simp) rfl) fun _ => ?_
  refine .after .state fun net l => ?_
  split
  · exact .fail fun _ hl => hl
  · exact .fail fun _ hl => hl
  · refine .bind (Q := fun _ net => net.ledger = l) (.update fun _ hl => hl) fun _ => ?_
    exact .bind (meets_handOut rfl) fun _ => .pure fun _ hl => ⟨⟨net.counts.accepted, rfl⟩, hl⟩

/-- Closing never refuses the entry, only the answer. -/
theorem run_close (h : Handle) (net : Network) :
    (close h).run net =
      ((match (net.sockets h).closeError with
        | none => .ok ()
        | some why => .error (.system why)),
      { net with
        events := net.events ++ [.close h]
        sockets := setAt net.sockets h { net.sockets h with isOpen := false } }) := by
  simp only [close, run_bind, record, setSocket, run_update, run_state]
  cases (net.sockets h).closeError <;> rfl

theorem ledger_close (h : Handle) (net : Network) :
    ((close h).run net).2.ledger = net.ledger.close h := by
  rw [run_close]
  ext k
  · rfl
  · by_cases hk : k = h <;> simp [Network.ledger, Ledger.close, setAt, hk]
  · by_cases hk : k = h
    · subst hk
      simp [Network.ledger, Ledger.close]
    · simp [Network.ledger, Ledger.close, setAt, hk, Ne.symm hk]
  · have hsent : [Event.close h].filterMap Event.sent? = [] := rfl
    simp [Network.ledger, Network.sent, Ledger.close, hsent]

/-- Bytes are sent once, unless the call fails. -/
theorem meets_transmit (n : Nat) (bytes : List UInt8) (l : Ledger) :
    Meets (fun net => net.ledger = l) (transmit n bytes) (fun _ net => net.ledger = l.send bytes)
      fun _ net => net.ledger = l := by
  refine .bind ((quiet_nextExchange n).meets l) fun answer => ?_
  refine .bind ((quiet_refuse _).meets l) fun _ => ?_
  refine .bind (Q := fun _ net => net.ledger = l.send bytes) (.update ?_) fun _ => ?_
  · rintro net rfl
    ext k
    · rfl
    · rfl
    · simp [Network.ledger, Ledger.send]
    · simp [Network.ledger, Network.sent, Ledger.send, List.filterMap_append, Event.sent?]
  · exact .update fun _ hl => hl

end Net

end FtpControl
