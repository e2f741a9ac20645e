import MetricsAgent.Proofs.Delivery.Retries
import MetricsAgent.Proofs.Run.Courses

/-!
# Who closes which session

An agent may be handed a session, which it uses as long as it is open and never closes.  Otherwise it
opens sessions of its own, no two of them at a time, and closes them itself
(`Endpoint.custody_of_used`).

The world tells whether a session is at hand and whose it is, but not which one.  `Ledger` gives
sessions names, and is kept from the events alone: a session that is opened is a new one, and the
session in use is the one that requests go through and that is closed.  `Ledger.Agrees` is the
invariant: what the world tells is what the ledger says.  A delivery opens a session at most at its
beginning (`World.Delivers`), and closing touches none but the agent's own (`World.Closes`); both keep
the invariant, and so does the owner of the session that was handed over.
-/

namespace MetricsAgent

open Script

/-! ## Events of sessions -/

namespace Event

/-- Whether an event is a request. -/
def isRequest : Event → Bool
  | .request .. => true
  | _ => false

/-- Whether an event is a request, or opens or closes a session. -/
def isConnection : Event → Bool
  | .sessionOpen .. => true
  | .request .. => true
  | .sessionClose => true
  | _ => false

end Event

/-! ## Ledgers -/

/-- Names of sessions: the one that was handed over, and those that the agent opened, by number. -/
inductive SessionName
  | handed
  | own (n : ℕ)
  deriving DecidableEq

/-- What may happen to sessions: an event of the agent, or the owner of the session that was handed
over closes it. -/
inductive Occurrence
  | event (e : Event)
  | ownerCloses

/-- Which sessions are open, which one is in use, and how many the agent has opened. -/
structure Ledger where
  isOpen : List SessionName
  inUse : Option SessionName
  count : ℕ

namespace Ledger

/-- The ledger before the first use: no session was handed over, or one that is open or closed. -/
def start : Session → Ledger
  | .absent => ⟨[], none, 0⟩
  | .opened => ⟨[.handed], some .handed, 0⟩
  | .closed => ⟨[], some .handed, 0⟩

/-- A session that is opened is in use from then on, and the one in use is the one that is closed. -/
def enter (l : Ledger) : Occurrence → Ledger
  | .event (.sessionOpen ..) => ⟨.own l.count :: l.isOpen, some (.own l.count), l.count + 1⟩
  | .event .sessionClose => { l with isOpen := l.isOpen.filter (some · ≠ l.inUse), inUse := none }
  | .event _ => l
  | .ownerCloses => { l with isOpen := l.isOpen.filter (· ≠ .handed) }

/-- The ledger after some occurrences, the first one first. -/
def after (l : Ledger) (os : List Occurrence) : Ledger :=
  os.foldl enter l

lemma after_concat (l : Ledger) (os : List Occurrence) (o : Occurrence) :
    l.after (os ++ [o]) = (l.after os).enter o := by
  rw [after, List.foldl_append]
  rfl

end Ledger

/-- What holds of sessions throughout a history: at most one of the agent's own is open; the one that
was handed over is open until its owner closes it; and requests go through an open session, which is
the one that was handed over if that is open. -/
structure Ledger.Custody (l : Ledger) (os : List Occurrence) : Prop where
  alone (before : List Occurrence) : before <+: os → ∀ m n, .own m ∈ (l.after before).isOpen →
    .own n ∈ (l.after before).isOpen → m = n
  handed (before : List Occurrence) : before <+: os →
    (.handed ∈ (l.after before).isOpen ↔ .handed ∈ l.isOpen ∧ .ownerCloses ∉ before)
  through (before : List Occurrence) (e : Event) : before ++ [.event e] <+: os →
    e.isRequest = true → ∃ s ∈ (l.after before).isOpen, (l.after before).inUse = some s ∧
      (.handed ∈ (l.after before).isOpen → s = .handed)

namespace World

variable {T : Type} {w u v : World T} {es fs : List Event}

/-! ## What the world tells -/

/-- The requests, and the sessions that were opened and closed, the first one first. -/
def connection (w : World T) : List Event := w.happened Event.isConnection

lemma connection_record (w : World T) (e : Event) :
    (w.record e).connection = w.connection ++ [e].filter Event.isConnection :=
  happened_record _ w e

/-- What has happened to sessions between two worlds. -/
def since (w u : World T) : List Occurrence :=
  (u.connection.drop w.connection.length).map .event

lemma since_eq (h : u.connection = w.connection ++ es) : w.since u = es.map .event := by
  rw [since, h, List.drop_left]

lemma since_eq_nil (h : u.connection = w.connection) : w.since u = [] :=
  since_eq (h.trans (List.append_nil _).symm)

/-- The owner of the session that was handed over closes it; it is not at hand if the agent has put
one of its own in its place. -/
def handedClosed (w : World T) : World T :=
  if w.ownsSession then w else { w with session := .closed }

/-- Nothing is done with sessions. -/
structure Apart (w u : World T) : Prop where
  session : u.session = w.session
  owns : u.ownsSession = w.ownsSession
  connection : u.connection = w.connection

/-- What others do while the agent waits. -/
def Beyond (w : World T) (_ : Unit) (u : World T) : Prop :=
  w.Apart u

namespace Apart

lemma of_quiet (h : w.Quiet u) : w.Apart u := by
  obtain ⟨_, _, _, _, _, _, rfl⟩ := h
  exact ⟨rfl, rfl, rfl⟩

lemma record {e : Event} (he : e.isConnection = false) (w : World T) : w.Apart (w.record e) :=
  ⟨rfl, rfl, by rw [connection_record]; simp [he]⟩

end Apart

end World

/-- The world tells what a ledger says: the session that was handed over is in use, open or closed; or
one of the agent's own is, and is the only one that is open; or there is none. -/
inductive Ledger.Agrees {T : Type} : Ledger → World T → Prop
  | handed {w : World T} (hsession : w.session = .opened) (howns : w.ownsSession = false) :
      Agrees ⟨[.handed], some .handed, 0⟩ w
  | left {w : World T} (hsession : w.session = .closed) (howns : w.ownsSession = false) :
      Agrees ⟨[], some .handed, 0⟩ w
  | own {w : World T} (n : ℕ) (hsession : w.session = .opened) (howns : w.ownsSession = true) :
      Agrees ⟨[.own n], some (.own n), n + 1⟩ w
  | none {w : World T} (s : Option SessionName) (n : ℕ) (hsession : w.session ≠ .opened)
      (howns : w.ownsSession = true) : Agrees ⟨[], s, n⟩ w

namespace Ledger

variable {T : Type} {l : Ledger} {w u : World T} {os : List Occurrence} {e : Event}
  {es : List Event}

lemma Agrees.of_same (h : Agrees l w) (hsession : u.session = w.session)
    (howns : u.ownsSession = w.ownsSession) : Agrees l u := by
  cases h with
  | handed hs ho => exact .handed (hsession.trans hs) (howns.trans ho)
  | left hs ho => exact .left (hsession.trans hs) (howns.trans ho)
  | own n hs ho => exact .own n (hsession.trans hs) (howns.trans ho)
  | none s n hs ho => exact .none s n (by rwa [hsession]) (howns.trans ho)

/-- Where the agent has no session it makes no difference whether one was closed. -/
lemma Agrees.of_free (h : Agrees l w) (hw : w.ownsSession = true) (hnone : w.session ≠ .opened)
    (hu : u.ownsSession = true) (hfree : u.session ≠ .opened) : Agrees l u := by
  cases h with
  | handed _ ho => cases ho.symm.trans hw
  | left _ ho => cases ho.symm.trans hw
  | own n hs => exact absurd hs hnone
  | none s n => exact .none s n hfree hu

lemma Agrees.alone (h : Agrees l w) (m n : ℕ) (hm : .own m ∈ l.isOpen) (hn : .own n ∈ l.isOpen) :
    m = n := by
  cases h <;> simp_all

/-- Where none of the agent's own sessions can be open. -/
lemma Agrees.own_notMem (h : Agrees l w) (hw : w.ownsSession = true → w.session ≠ .opened) (n : ℕ) :
    .own n ∉ l.isOpen := by
  cases h with
  | own m hs ho => exact absurd hs (hw ho)
  | _ => simp

/-- Requests go through the session that is open. -/
lemma Agrees.through (h : Agrees l w) (hopen : w.session = .opened) :
    ∃ s ∈ l.isOpen, l.inUse = some s ∧ (.handed ∈ l.isOpen → s = .handed) := by
  cases h with
  | handed => exact ⟨.handed, by simp⟩
  | left hs => cases hs.symm.trans hopen
  | own n => exact ⟨.own n, by simp⟩
  | none s n hs => exact absurd hopen hs

/-! ## One more occurrence -/

lemma custody_nil (h : Agrees l w) : Custody l [] where
  alone before hbefore := by
    obtain rfl := List.prefix_nil.mp hbefore
    exact h.alone
  handed before hbefore := by
    obtain rfl := List.prefix_nil.mp hbefore
    simp [after]
  through before e hbefore := by simp at hbefore

/-- Custody goes on with an occurrence after which the world tells what the ledger says, provided that
the session that was handed over stays open unless its owner closes it. -/
lemma Custody.snoc {o : Occurrence} (h : Custody l os) (hagrees : Agrees (l.after (os ++ [o])) u)
    (hhanded : .handed ∈ (l.after (os ++ [o])).isOpen ↔
      .handed ∈ (l.after os).isOpen ∧ o ≠ .ownerCloses)
    (hthrough : ∀ e, o = .event e → e.isRequest = true → ∃ s ∈ (l.after os).isOpen,
      (l.after os).inUse = some s ∧ (.handed ∈ (l.after os).isOpen → s = .handed)) :
    Custody l (os ++ [o]) where
  alone before hbefore := by
    rcases List.prefix_concat_iff.mp hbefore with rfl | hbefore
    · exact hagrees.alone
    · exact h.alone before hbefore
  handed before hbefore := by
    rcases List.prefix_concat_iff.mp hbefore with rfl | hbefore
    · rw [hhanded, h.handed os List.prefix_rfl, List.mem_append, List.mem_singleton, not_or,
        and_assoc, ne_comm]
    · exact h.handed before hbefore
  through before e hbefore he := by
    rcases List.prefix_concat_iff.mp hbefore with heq | hbefore
    · obtain ⟨rfl, ho⟩ := List.append_inj' heq rfl
      exact hthrough e (List.singleton_inj.mp ho).symm he
    · exact h.through before e hbefore he

/-- A history with custody, after which the world tells what the ledger says. -/
structure Kept (l : Ledger) (os : List Occurrence) (w : World T) : Prop where
  custody : Custody l os
  agrees : Agrees (l.after os) w

lemma Kept.of_same (h : Kept l os w) (hsession : u.session = w.session)
    (howns : u.ownsSession = w.ownsSession) : Kept l os u :=
  ⟨h.custody, h.agrees.of_same hsession howns⟩

/-- A session is opened where none is open. -/
lemma Kept.opens {timeout : Number} {headers : Headers} (h : Kept l os w)
    (hnone : w.session ≠ .opened) (hsession : u.session = .opened) (howns : u.ownsSession = true) :
    Kept l (os ++ [.event (.sessionOpen timeout headers)]) u := by
  obtain ⟨hcustody, hagrees⟩ := h
  have hempty : (l.after os).isOpen = [] := by
    generalize l.after os = m at hagrees
    cases hagrees with
    | handed hs => exact absurd hs hnone
    | left => rfl
    | own n hs => exact absurd hs hnone
    | none => rfl
  have hnext : Agrees (l.after (os ++ [.event (.sessionOpen timeout headers)])) u := by
    rw [after_concat, enter, hempty]
    exact .own _ hsession howns
  refine ⟨hcustody.snoc hnext ?_ ?_, hnext⟩
  · simp [after_concat, enter, hempty]
  · rintro _ ⟨⟩ he
    cases he

/-- Requests are made while a session is open. -/
lemma Kept.requests (h : Kept l os w) (hopen : es ≠ [] → w.session = .opened)
    (hes : ∀ e ∈ es, e.isRequest = true) : Kept l (os ++ es.map .event) w := by
  induction es generalizing os with
  | nil =>
    rw [List.map_nil, List.append_nil]
    exact h
  | cons e es ih =>
    rw [List.forall_mem_cons] at hes
    have hsession := hopen (List.cons_ne_nil e es)
    have hsame : l.after (os ++ [.event e]) = l.after os := by
      rw [after_concat]
      cases e <;> first | rfl | cases hes.1
    have hnext : Agrees (l.after (os ++ [.event e])) w := hsame ▸ h.agrees
    have hone : Kept l (os ++ [.event e]) w := by
      refine ⟨h.custody.snoc hnext ?_ fun _ _ _ => h.agrees.through hsession, hnext⟩
      rw [hsame]
      simp
    rw [List.map_cons, List.append_cons]
    exact ih hone (fun _ => hsession) hes.2

/-- The agent closes a session of its own. -/
lemma Kept.closes (h : Kept l os w) (hopen : w.session = .opened) (howns : w.ownsSession = true)
    (hsession : u.session ≠ .opened) (hstill : u.ownsSession = true) :
    Kept l (os ++ [.event .sessionClose]) u := by
  obtain ⟨hcustody, hagrees⟩ := h
  obtain ⟨n, hn⟩ : ∃ n, l.after os = ⟨[.own n], some (.own n), n + 1⟩ := by
    generalize l.after os = m at hagrees
    cases hagrees with
    | handed _ ho => cases ho.symm.trans howns
    | left _ ho => cases ho.symm.trans howns
    | own n => exact ⟨n, rfl⟩
    | none s n hs => exact absurd hopen hs
  have hafter : l.after (os ++ [.event .sessionClose]) = ⟨[], none, n + 1⟩ := by
    rw [after_concat, hn]
    simp [enter]
  have hnext : Agrees (l.after (os ++ [.event .sessionClose])) u := by
    rw [hafter]
    exact .none _ _ hsession hstill
  refine ⟨hcustody.snoc hnext ?_ ?_, hnext⟩
  · simp [hafter, hn]
  · rintro _ ⟨⟩ he
    cases he

/-- The owner of the session that was handed over closes it. -/
lemma Kept.ownerCloses (h : Kept l os w) :
    Kept l (os ++ [.ownerCloses]) w.handedClosed := by
  obtain ⟨hcustody, hagrees⟩ := h
  have hnext : Agrees (l.after (os ++ [.ownerCloses])) w.handedClosed := by
    rw [after_concat]
    generalize l.after os = m at hagrees
    unfold World.handedClosed
    cases hagrees with
    | handed hs ho =>
      rw [if_neg (by simp [ho])]
      exact .left rfl ho
    | left hs ho =>
      rw [if_neg (by simp [ho])]
      exact .left rfl ho
    | own n hs ho =>
      rw [if_pos ho]
      exact .own n hs ho
    | none s n hs ho =>
      rw [if_pos ho]
      exact .none s n hs ho
  refine ⟨hcustody.snoc hnext ?_ (by rintro _ ⟨⟩), hnext⟩
  simp [after_concat, enter]

end Ledger

/-! ## Deliveries -/

namespace World

variable {T : Type} {w u v : World T} {es fs : List Event}

/-- What a delivery does with sessions: it makes requests through the session that is open, or opens
one before the first of them. -/
inductive Delivers (w u : World T) : List Event → Prop
  | through {es : List Event} (hopen : es ≠ [] → w.session = .opened)
      (hes : ∀ e ∈ es, e.isRequest = true) (hsession : u.session = w.session)
      (howns : u.ownsSession = w.ownsSession) (hconnection : u.connection = w.connection ++ es) :
      Delivers w u es
  | opening {timeout : Number} {headers : Headers} {es : List Event}
      (hnone : w.session ≠ .opened) (hes : ∀ e ∈ es, e.isRequest = true)
      (hsession : u.session = .opened) (howns : u.ownsSession = true)
      (hconnection : u.connection = w.connection ++ .sessionOpen timeout headers :: es) :
      Delivers w u (.sessionOpen timeout headers :: es)

namespace Delivers

lemma of_apart (h : w.Apart u) : Delivers w u [] :=
  .through (absurd rfl) (List.forall_mem_nil _) h.session h.owns
    (by rw [h.connection, List.append_nil])

lemma connection (h : Delivers w u es) : u.connection = w.connection ++ es := by
  cases h with
  | through _ _ _ _ hconnection => exact hconnection
  | opening _ _ _ _ hconnection => exact hconnection

lemma trans (h : Delivers w u es) (h' : Delivers u v fs) : Delivers w v (es ++ fs) := by
  have hconnection : v.connection = w.connection ++ (es ++ fs) := by
    rw [h'.connection, h.connection, List.append_assoc]
  cases h with
  | through hopen hes hsession howns =>
    cases h' with
    | through hopen' hes' hsession' howns' =>
      refine .through (fun hne => ?_) (List.forall_mem_append.mpr ⟨hes, hes'⟩)
        (hsession'.trans hsession) (howns'.trans howns) hconnection
      by_cases hnil : es = []
      · exact hsession.symm.trans (hopen' (by simpa [hnil] using hne))
      · exact hopen hnil
    | opening hnone hes' hsession' howns' =>
      -- Nothing was requested as long as no session was open.
      obtain rfl : es = [] := by
        by_contra hne
        exact hnone (hsession.trans (hopen hne))
      exact .opening (hsession ▸ hnone) hes' hsession' howns' hconnection
  | opening hnone hes hsession howns =>
    cases h' with
    | through hopen' hes' hsession' howns' =>
      exact .opening hnone (List.forall_mem_append.mpr ⟨hes, hes'⟩) (hsession'.trans hsession)
        (howns'.trans howns) hconnection
    | opening hnone' => exact absurd hsession hnone'

lemma request (hopen : w.session = .opened) (method url : String) (headers : Headers)
    (body : Option String) :
    Delivers w (w.record (.request method url headers body)) [.request method url headers body] :=
  .through (fun _ => hopen) (by simp [Event.isRequest]) rfl rfl
    (connection_record w (.request method url headers body))

end Delivers

/-- Work that is part of a delivery. -/
def Delivering (w : World T) (_ : List Unit) (u : World T) : Prop :=
  ∃ es, w.Delivers u es

lemma Delivering.of_apart (h : w.Apart u) : w.Delivering [] u :=
  ⟨_, .of_apart h⟩

lemma composes_delivering : Composes (Beyond (T := T)) Delivering where
  refl w := .of_apart ⟨rfl, rfl, rfl⟩
  trans := by
    rintro w u v _ _ ⟨es, h⟩ ⟨fs, h'⟩
    exact ⟨_, h.trans h'⟩
  meanwhile h := ⟨_, .of_apart h⟩

end World

namespace Endpoint

open World

variable {T : Type} [Seconds T] {w u : World T} {l : List (Interlude Unit (World T))}

omit [Seconds T] in
lemma along_log (level : LogLevel) (source : LogSource) (message : String) :
    (Script.log level source message : Script T Unit).Along Beyond Delivering :=
  .change fun w => .of_apart (.of_quiet (w.quiet_logLine level source message))

omit [Seconds T] in
lemma along_logFault (level : LogLevel) (source : LogSource) (message : String) (f : Fault) :
    (Script.logFault level source message f : Script T Unit).Along Beyond Delivering :=
  .change fun w => .of_apart (.of_quiet (w.quiet_logFault level source message f))

omit [Seconds T] in
lemma along_readBody (r : Reply T) : (readBody r).Along Beyond Delivering := by
  unfold readBody
  split
  · exact .pure composes_delivering _
  · exact .throw composes_delivering _

omit [Seconds T] in
/-- What a reply means is found without another request. -/
lemma along_checkReply (r : Reply T) : (checkReply r).Along Beyond Delivering := by
  have hK := composes_delivering (T := T)
  unfold checkReply
  dsimp only
  split
  · exact .pure hK _
  · split
    · exact .bind hK (along_readBody r) fun _ => .throw_bind hK _ _
    · split
      · split <;> exact .throw_bind hK _ _
      · exact .bind hK (along_readBody r) fun _ => .throw hK _

/-! ## Requests -/

/-- Work of a delivery in which something is requested. -/
def Requesting (w u : World T) : Prop :=
  ∃ es, w.Delivers u es ∧ ∃ ev ∈ es, ev.isRequest = true

/-- A script that requests something from a world on, whatever it comes to. -/
def Asks {R : Type} (s : Script T R) (w : World T) : Prop :=
  ∀ l r u, (s w).Comes Beyond l r u → Requesting w u

omit [Seconds T] in
lemma Requesting.after {v : World T} {as : List Unit} (h : w.Delivering as v)
    (h' : Requesting v u) : Requesting w u := by
  obtain ⟨es, hes⟩ := h
  obtain ⟨fs, hfs, ev, hev, hrequest⟩ := h'
  exact ⟨_, hes.trans hfs, ev, List.mem_append_right _ hev, hrequest⟩

omit [Seconds T] in
lemma Requesting.andThen {v : World T} {as : List Unit} (h : Requesting w v)
    (h' : v.Delivering as u) : Requesting w u := by
  obtain ⟨es, hes, ev, hev, hrequest⟩ := h
  obtain ⟨fs, hfs⟩ := h'
  exact ⟨_, hes.trans hfs, ev, List.mem_append_left _ hev, hrequest⟩

namespace Asks

variable {R Q : Type} {s : Script T R}

omit [Seconds T] in
lemma bind {f : R → Script T Q} (hs : Asks s w) (hf : ∀ x, (f x).Along Beyond Delivering) :
    Asks (s >>= f) w := by
  intro l r u h
  obtain ⟨l₁, l₂, q, x, rfl, hfirst, hrest⟩ := comes_bind_iff.mp h
  cases q with
  | ok y => exact (hs _ _ _ hfirst).andThen (hf y _ _ _ _ hrest)
  | error f =>
    obtain ⟨-, -, rfl⟩ := hrest
    exact hs _ _ _ hfirst

omit [Seconds T] in
lemma attempt (hs : Asks s w) : Asks s.attempt w := by
  intro l r u h
  obtain ⟨l₁, l₂, q, x, rfl, hfirst, hrest⟩ := Activity.comes_andThen_iff.mp h
  obtain ⟨-, -, rfl⟩ := Activity.comes_done_iff.mp hrest
  exact hs _ _ _ hfirst

omit [Seconds T] in
lemma recover {f : Fault → Script T R} (hs : Asks s w) (hf : ∀ e, (f e).Along Beyond Delivering) :
    Asks (s.recover f) w := by
  rw [recover_eq]
  refine bind (attempt hs) fun q => ?_
  cases q with
  | ok x => exact .pure composes_delivering x
  | error e => exact hf e

end Asks

variable (e : Endpoint T)

omit [Seconds T] in
/-- A delivery opens a session unless one is open. -/
lemma delivering_openSession {r : Except Fault Unit}
    (h : (e.openSession w).Comes Beyond l r u) :
    r = .ok () ∧ u.session = .opened ∧ w.Delivering [] u := by
  obtain ⟨rfl, rfl, rfl⟩ := Activity.comes_done_iff.mp h
  refine ⟨rfl, ?_⟩
  dsimp only
  split
  · next hopen => exact ⟨hopen, .of_apart ⟨rfl, rfl, rfl⟩⟩
  · next hnone =>
    exact ⟨rfl, _, .opening hnone (List.forall_mem_nil _) rfl rfl (connection_record _ _)⟩

omit [Seconds T] in
/-- What requests something while a session is open does so after opening one. -/
lemma asks_openSession {R : Type} {s : Script T R} (hs : ∀ v, v.session = .opened → Asks s v) :
    Asks (e.openSession >>= fun _ => s) w := by
  intro l r u h
  obtain ⟨l₁, l₂, q, x, rfl, hfirst, hrest⟩ := comes_bind_iff.mp h
  obtain ⟨rfl, hopen, hdelivering⟩ := e.delivering_openSession hfirst
  exact .after hdelivering (hs x hopen _ _ _ hrest)

/-- A request that is made while a session is open goes through it, whatever comes back. -/
lemma asks_exchange {method url : String} {headers : Headers} {body : Option String}
    (hopen : w.session = .opened) : Asks (e.exchange method url headers body) w := by
  have hK := composes_delivering (T := T)
  refine Asks.bind (s := record (.request method url headers body)) ?_ fun _ => ?_
  · intro l r u h
    obtain ⟨rfl, rfl, rfl⟩ := Activity.comes_done_iff.mp h
    exact ⟨_, .request hopen method url headers body, _, List.mem_singleton_self _, rfl⟩
  · refine .bind hK (.world hK) fun y => ?_
    refine .bind hK (.change fun v => .of_apart ⟨rfl, rfl, rfl⟩) fun _ => ?_
    refine .bind hK (.sleep hK _) fun _ => ?_
    refine .bind hK (.requestStop hK
      (fun v reason => .of_apart (.of_quiet (v.quiet_requestStop reason))) _) fun _ => ?_
    split
    · exact .throw hK _
    · exact .pure hK _

/-- An attempt makes a request. -/
lemma asks_send (body : String) (w : World T) : Asks (e.send body) w := by
  refine e.asks_openSession fun v hopen => ?_
  refine Asks.recover (.bind (e.asks_exchange hopen) fun reply => ?_) fun f =>
    .throw composes_delivering _
  exact .bind composes_delivering (along_log _ _ _) fun _ => along_checkReply reply

/-- A probe makes a request. -/
theorem asks_probe (w : World T) : Asks e.probe w := by
  have hK := composes_delivering (T := T)
  intro l r u h
  obtain ⟨l₁, l₂, q, x, rfl, hfirst, hrest⟩ := comes_bind_iff.mp h
  obtain ⟨rfl, rfl, rfl⟩ := Activity.comes_done_iff.mp hfirst
  refine .after (.of_apart (.of_quiet (w.quiet_logLine _ _ _)))
    (e.asks_openSession (fun v hopen => ?_) _ _ _ hrest)
  refine .bind (.recover (e.asks_exchange hopen) fun f => .throw hK _) fun reply => ?_
  split
  · exact along_log _ _ _
  · split <;> exact .throw hK _

lemma along_send (body : String) : (e.send body).Along Beyond Delivering := fun w l r u h =>
  let ⟨es, hes, _⟩ := e.asks_send body w l r u h
  ⟨es, hes⟩

omit [Seconds T] in
/-- What is done once the outcome of an attempt is known. -/
lemma along_heed {next : Fault → Script T Unit} (hnext : ∀ f, (next f).Along Beyond Delivering)
    (k : ℕ) (q : Except Fault Unit) : (e.heed k next q).Along Beyond Delivering := by
  have hK := composes_delivering (T := T)
  unfold heed
  split
  · exact along_log _ _ _
  · split
    · exact Along.when hK (along_logFault _ _ _ _) (.throw hK _)
    · exact .bind hK (along_logFault _ _ _ _) fun _ => hnext _

lemma along_attempts (body : String) (left k : ℕ) (delay : T) (last : Fault) :
    (e.attempts body left k delay last).Along Beyond Delivering := by
  have hK := composes_delivering (T := T)
  induction left generalizing k delay last with
  | zero => exact .bind hK (along_logFault _ _ _ _) fun _ => .throw hK _
  | succ left ih =>
    rw [attempts_succ]
    refine .bind hK ?_ fun _ => .bind hK (.attempt (e.along_send body)) fun q =>
      e.along_heed (fun f => ih _ _ _) k q
    split
    · exact .pure hK ()
    · refine .bind hK (along_log _ _ _) fun _ => .bind hK ?_ fun _ => .sleep hK _
      exact .change fun v => .of_apart (.record rfl v)

theorem along_upload (c : Collected) : (e.upload c).Along Beyond Delivering := by
  unfold upload
  split
  · exact .throw composes_delivering _
  · exact .bind composes_delivering (along_log _ _ _) fun _ => e.along_attempts _ _ _ _ _

/-- A delivery of what can be written makes a request, if it may be tried at all. -/
theorem asks_upload {c : Collected} {body : String} (hbody : c.format Json.wire = .ok body)
    (hretries : 0 ≤ e.settings.maxRetries) (w : World T) : Asks (e.upload c) w := by
  obtain ⟨left, hleft⟩ : ∃ left, e.totalAttempts.toNat = left + 1 :=
    Nat.exists_eq_add_one.mpr (by unfold totalAttempts; omega)
  intro l r u h
  unfold upload at h
  rw [hbody] at h
  obtain ⟨l₁, l₂, q, x, rfl, hfirst, hrest⟩ := comes_bind_iff.mp h
  obtain ⟨rfl, rfl, rfl⟩ := Activity.comes_done_iff.mp hfirst
  dsimp only at hrest
  rw [hleft, attempts_succ, if_pos rfl] at hrest
  refine .after (.of_apart (.of_quiet (w.quiet_logLine _ _ _)))
    (Asks.bind (.attempt (e.asks_send body _)) (fun q => ?_) _ _ _ hrest)
  exact e.along_heed (fun f => e.along_attempts _ _ _ _ _) 0 q

end Endpoint

/-! ## Closing -/

namespace World

variable {T : Type} {w u v : World T} {r : Except Fault Unit}

/-- A session of the agent is open. -/
def HoldsOwn (w : World T) : Prop :=
  w.ownsSession = true ∧ w.session = .opened

/-- What closing does: it closes the session of the agent if one is open, and otherwise nothing. -/
inductive Closes (w u : World T) (r : Except Fault Unit) : Prop
  | idle (hnone : ¬ w.HoldsOwn) (hr : r = .ok ()) (hkept : ¬ u.HoldsOwn)
      (howns : u.ownsSession = w.ownsSession)
      (hsession : w.ownsSession = false → u.session = w.session)
      (hconnection : u.connection = w.connection)
  | closed (hheld : w.HoldsOwn) (hsession : u.session ≠ .opened) (howns : u.ownsSession = true)
      (hconnection : u.connection = w.connection ++ [.sessionClose])

lemma Closes.not_holdsOwn (h : Closes w u r) : ¬ u.HoldsOwn := by
  cases h with
  | idle _ _ hkept => exact hkept
  | closed _ hsession => exact fun h => hsession h.2

end World

namespace Endpoint

open World

variable {T : Type} [Seconds T] {w u : World T} {l : List (Interlude Unit (World T))}

omit [Seconds T] in
/-- Closing the session where the closing of an open one fails: it counts as closed even then, and is
kept as such. -/
def closeFailing (f : Fault) : Script T Unit := do
  let w ← world
  if w.ownsSession && w.session == .opened then
    change fun w => { w.record .sessionClose with session := .closed }
    throw f
  close

/-- What can be asked of an agent that delivers; the closing of an open session may fail. -/
inductive Call
  | upload (c : Collected)
  | probe
  | close (fault : Option Fault)

/-- How a call is carried out. -/
def Call.script (e : Endpoint T) : Call → Script T Unit
  | .upload c => e.upload c
  | .probe => e.probe
  | .close none => Endpoint.close
  | .close (some f) => closeFailing f

variable {e : Endpoint T}

lemma script_close_of_holdsOwn (h : w.HoldsOwn) (fault : Option Fault) :
    (Call.close fault).script e w = .done (fault.elim (.ok ()) .error) { w.record .sessionClose with
      session := if fault.isSome then .closed else .absent } := by
  cases fault with
  | none =>
    show close w = _
    simp [close, change, h.1, h.2]
  | some f =>
    have hcondition : (w.ownsSession && w.session == .opened) = true := by simp [h.1, h.2]
    show (if w.ownsSession && w.session == .opened then _ else _ : Script T Unit) w = _
    rw [if_pos hcondition]
    rfl

omit [Seconds T] in
lemma close_of_not_holdsOwn (h : ¬ w.HoldsOwn) : (close : Script T Unit) w
    = .done (.ok ()) (if w.ownsSession then { w with session := .absent } else w) := by
  cases howns : w.ownsSession with
  | false => simp [close, change, howns]
  | true =>
    cases hsession : w.session with
    | opened => exact absurd ⟨howns, hsession⟩ h
    | _ => simp [close, change, howns, hsession]

/-- Where there is nothing to close, closing does not fail. -/
lemma script_close_of_not_holdsOwn (h : ¬ w.HoldsOwn) (fault : Option Fault) :
    (Call.close fault).script e w
      = .done (.ok ()) (if w.ownsSession then { w with session := .absent } else w) := by
  cases fault with
  | none => exact close_of_not_holdsOwn h
  | some f =>
    have hcondition : ¬ (w.ownsSession && w.session == .opened) = true := by
      simpa [World.HoldsOwn] using h
    refine Eq.trans ?_ (close_of_not_holdsOwn h)
    show (if w.ownsSession && w.session == .opened then _ else _ : Script T Unit) w = _
    rw [if_neg hcondition]

/-- Closing comes to an end at once, and closes no session but one of the agent. -/
lemma closes_of_comes {fault : Option Fault} {r : Except Fault Unit}
    (h : ((Call.close fault).script e w).Comes Beyond l r u) : w.Closes u r := by
  by_cases hheld : w.HoldsOwn
  · rw [script_close_of_holdsOwn hheld] at h
    obtain ⟨rfl, rfl, rfl⟩ := Activity.comes_done_iff.mp h
    refine .closed hheld ?_ hheld.1 (connection_record w .sessionClose)
    cases fault <;> simp
  · rw [script_close_of_not_holdsOwn hheld] at h
    obtain ⟨rfl, rfl, rfl⟩ := Activity.comes_done_iff.mp h
    cases howns : w.ownsSession with
    | true =>
      rw [if_pos rfl]
      exact .idle hheld rfl (fun h => nomatch h.2) howns.symm
        (fun h => nomatch howns.symm.trans h) rfl
    | false =>
      rw [if_neg Bool.false_ne_true]
      exact .idle hheld rfl hheld rfl (fun _ => rfl) rfl

end Endpoint

/-! ## Histories -/

namespace Endpoint

open World

variable {T : Type} [Seconds T] {e : Endpoint T} {first : Session} {os : List Occurrence}
  {w u v : World T} {l : List (Interlude Unit (World T))} {r : Except Fault Unit}

/-- What was done, up to a world, with the session that was handed over, if one was, and with others:
calls one after the other, whatever they came to, and between them the owner of that session may close
it.  What has nothing to do with sessions may happen at any time. -/
inductive Used (e : Endpoint T) (first : Session) : List Occurrence → World T → Prop
  | start {w : World T} (hsession : w.session = first)
      (howns : w.ownsSession = true ↔ first = .absent) : Used e first [] w
  | elsewhere {os : List Occurrence} {w u : World T} (h : Used e first os w) (hapart : w.Apart u) :
      Used e first os u
  | ownerCloses {os : List Occurrence} {w : World T} (h : Used e first os w) :
      Used e first (os ++ [.ownerCloses]) w.handedClosed
  | call {os : List Occurrence} {w u : World T} {l : List (Interlude Unit (World T))}
      {r : Except Fault Unit} (k : Call) (h : Used e first os w)
      (hcall : (k.script e w).Comes Beyond l r u) : Used e first (os ++ w.since u) u

end Endpoint

namespace Ledger

open World

variable {T : Type} {m : Ledger} {os : List Occurrence} {w u : World T} {es : List Event}
  {r : Except Fault Unit}

/-- A delivery goes on with custody. -/
lemma Kept.delivering (h : Kept m os w) (hdelivers : w.Delivers u es) :
    Kept m (os ++ w.since u) u := by
  rw [since_eq hdelivers.connection]
  cases hdelivers with
  | through hopen hes hsession howns => exact (h.requests hopen hes).of_same hsession howns
  | opening hnone hes hsession howns =>
    rw [List.map_cons, List.append_cons]
    exact (h.opens hnone hsession howns).requests (fun _ => hsession) hes

/-- Closing goes on with custody, and leaves no session of the agent open. -/
lemma Kept.closing (h : Kept m os w) (hcloses : w.Closes u r) :
    Kept m (os ++ w.since u) u ∧ ∀ n, .own n ∉ (m.after (os ++ w.since u)).isOpen := by
  suffices hkept : Kept m (os ++ w.since u) u from
    ⟨hkept, hkept.agrees.own_notMem fun howns hopen => hcloses.not_holdsOwn ⟨howns, hopen⟩⟩
  cases hcloses with
  | idle hnone hr hkept howns hsession hconnection =>
    rw [since_eq_nil hconnection, List.append_nil]
    cases hw : w.ownsSession with
    | false => exact h.of_same (hsession hw) howns
    | true =>
      refine ⟨h.custody, h.agrees.of_free hw ?_ (howns.trans hw) ?_⟩
      · exact fun hopen => hnone ⟨hw, hopen⟩
      · exact fun hopen => hkept ⟨howns.trans hw, hopen⟩
  | closed hheld hsession howns hconnection =>
    rw [since_eq hconnection]
    exact h.closes hheld.2 hheld.1 hsession howns

end Ledger

namespace Endpoint

open World Ledger

variable {T : Type} [Seconds T] {e : Endpoint T} {first : Session} {os : List Occurrence}
  {w u v : World T} {l : List (Interlude Unit (World T))} {r : Except Fault Unit}

omit [Seconds T] in
lemma agrees_start (hsession : w.session = first) (howns : w.ownsSession = true ↔ first = .absent) :
    Agrees (Ledger.start first) w := by
  cases first with
  | absent => exact .none none 0 (by simp [hsession]) (howns.mpr rfl)
  | opened => exact .handed hsession (by simpa using howns)
  | closed => exact .left hsession (by simpa using howns)

/-- Whatever was done, sessions were in custody and the world tells what the ledger says. -/
lemma kept_of_used (h : Used e first os w) : Kept (Ledger.start first) os w := by
  induction h with
  | start hsession howns =>
    have hagrees := agrees_start hsession howns
    exact ⟨custody_nil hagrees, hagrees⟩
  | elsewhere _ hapart ih => exact ih.of_same hapart.session hapart.owns
  | ownerCloses _ ih => exact ih.ownerCloses
  | call k _ hcall ih =>
    cases k with
    | upload c =>
      obtain ⟨es, hes⟩ := e.along_upload c _ _ _ _ hcall
      exact ih.delivering hes
    | probe =>
      obtain ⟨es, hes, -⟩ := e.asks_probe _ _ _ _ hcall
      exact ih.delivering hes
    | close fault => exact (ih.closing (closes_of_comes hcall)).1

/-- Closing leaves no session of the agent open, whatever it comes to, and closing again does nothing
more. -/
structure Released (e : Endpoint T) (first : Session) (os : List Occurrence) (w : World T) : Prop where
  released {fault : Option Fault} {r : Except Fault Unit} {l : List (Interlude Unit (World T))}
    {u : World T} : ((Call.close fault).script e w).Comes Beyond l r u →
      ∀ n, .own n ∉ ((Ledger.start first).after (os ++ w.since u)).isOpen
  again {fault fault' : Option Fault} {r r' : Except Fault Unit}
    {l l' : List (Interlude Unit (World T))} {u v : World T} :
    ((Call.close fault).script e w).Comes Beyond l r u →
      ((Call.close fault').script e u).Comes Beyond l' r' v → r' = .ok () ∧ u.since v = []

/-- The agent can be used: a call comes to an end, and a probe, and a delivery of what can be written
that may be tried at all, make a request. -/
structure Ready (e : Endpoint T) (w : World T) : Prop where
  ends (k : Call) : ∃ l r u, (k.script e w).Comes Beyond l r u
  probe {l : List (Interlude Unit (World T))} {r : Except Fault Unit} {u : World T} :
    (e.probe w).Comes Beyond l r u → ∃ ev, .event ev ∈ w.since u ∧ ev.isRequest = true
  upload {c : Collected} {body : String} {l : List (Interlude Unit (World T))}
    {r : Except Fault Unit} {u : World T} : c.format Json.wire = .ok body →
      0 ≤ e.settings.maxRetries → (e.upload c w).Comes Beyond l r u →
        ∃ ev, .event ev ∈ w.since u ∧ ev.isRequest = true

omit [Seconds T] in
lemma exists_request (h : Requesting w u) : ∃ ev, .event ev ∈ w.since u ∧ ev.isRequest = true := by
  obtain ⟨es, hes, ev, hev, hrequest⟩ := h
  exact ⟨ev, since_eq hes.connection ▸ List.mem_map_of_mem hev, hrequest⟩

lemma ready (e : Endpoint T) (w : World T) : Ready e w where
  ends k := by
    have hquiet : ∀ w u : World T, w.Quiet u → ∃ a, Beyond w a u :=
      fun _ _ h => ⟨(), .of_quiet h⟩
    obtain ⟨l, hl⟩ := exists_comes_run hquiet (k.script e) w
    exact ⟨l, _, _, hl⟩
  probe h := exists_request (e.asks_probe w _ _ _ h)
  upload hbody hretries h := exists_request (e.asks_upload hbody hretries w _ _ _ h)

lemma released_of_used (h : Used e first os w) : Released e first os w where
  released hclose := ((kept_of_used h).closing (closes_of_comes hclose)).2
  again hclose hagain := by
    have hfree := (closes_of_comes hclose).not_holdsOwn
    cases closes_of_comes hagain with
    | idle _ hr _ _ _ hconnection =>
      exact ⟨hr, since_eq_nil hconnection⟩
    | closed hheld => exact absurd hheld hfree

/-- However an agent is used, it opens one session of its own at a time, sees to it that none of them
is open once it was asked to close, and makes its requests through the session that was handed over
as long as that is open, without ever closing it; and it can always be used again. -/
theorem custody_of_used (h : Used e first os w) :
    Custody (Ledger.start first) os ∧ Released e first os w ∧ Ready e w :=
  ⟨(kept_of_used h).custody, released_of_used h, ready e w⟩

/-- An agent is handed a session, goes on with one of its own once the owner has closed it, and opens
another one after it was asked to close. -/
theorem custody_of_used_handed : ∃ os w, Used (scripted []) .opened os w ∧ .ownerCloses ∈ os ∧
    ((Ledger.start .opened).after os).count = 2 ∧ Custody (Ledger.start .opened) os ∧
      Released (scripted []) .opened os w ∧ Ready (scripted []) w := by
  have hcall {os : List Occurrence} {w u : World ℚ} {r : Except Fault Unit} (k : Call)
      (h : Used (scripted []) .opened os w)
      (hcall : (k.script (scripted []) w).Comes Beyond [] r u) :
      Used (scripted []) .opened (os ++ w.since u) u := h.call k hcall
  have hstart : Used (scripted []) .opened []
      { World.start 0 with session := .opened, ownsSession := false } :=
    .start rfl (by simp)
  have hhanded := (hcall .probe hstart (.done _ _)).ownerCloses
  have hown := hcall .probe hhanded (.done _ _)
  have hclosed := hcall (.close (some abandoned)) hown (.done _ _)
  have hagain := hcall .probe hclosed (.done _ _)
  exact ⟨_, _, hagain, by simp, rfl, custody_of_used hagain⟩

end Endpoint

end MetricsAgent
