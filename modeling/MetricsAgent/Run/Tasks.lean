import MetricsAgent.Run.Activity

/-!
# Activities side by side

Several activities share one world.  Only one of them acts at a time, and it acts until it pauses or
ends.  Time passes when none of them can act; at the time at which it stops, all appointments are kept
and all pauses due are over before any activity goes on.  Of the activities that can go on, those that
were only waiting for a time go first, in the order in which they had begun to wait; those that were
waiting for the request to stop follow.
-/

namespace MetricsAgent

/-- One of several activities: it waits or has ended.  The pause of an activity that is alert may have
expired before the agent was asked to stop. -/
inductive Task (T R : Type)
  | waiting (due : Option T) (ticket : Nat) (alert expired : Bool)
      (resume : Bool → World T → Activity T (World T) R) (abandon : World T → Activity T (World T) R)
  | ended (result : R)

/-- Activities and the world that they share. -/
structure Tasks (T R : Type) where
  world : World T
  tasks : List (Task T R)

namespace Task

variable {T R : Type}

/-- What has become of an activity that acted until now. -/
def ofActivity : Activity T (World T) R → Task T R × World T
  | .done r w => (.ended r, w)
  | .pause due alert w k abandon =>
    (.waiting due w.takeTicket.1 alert false k abandon, w.takeTicket.2)

/-- The result of an activity that has ended. -/
def result? : Task T R → Option R
  | .waiting .. => none
  | .ended r => some r

variable [Seconds T]

/-- The rank of an activity that can go on; the lowest goes first. -/
def rank? (w : World T) : Task T R → Option (Nat × Nat)
  | .waiting due ticket false _ _ _ =>
    if due.any (Seconds.le · w.now) then some (0, ticket) else none
  | .waiting _ ticket true expired _ _ => if expired || w.isStopping then some (1, ticket) else none
  | .ended _ => none

/-- When an activity goes on if nothing happens before. -/
def due? : Task T R → Option T
  | .waiting due _ _ _ _ _ => due
  | .ended _ => none

/-- The pause of an activity that is alert expires when it is due by a time, unless the agent is asked
to stop before. -/
def expire (w : World T) (now : T) : Task T R → Task T R
  | .waiting (some due) ticket true expired k abandon =>
    let asked := w.isStopping
      || w.agenda.any fun a => World.Appointment.before a ⟨due, ticket, ""⟩
    .waiting (some due) ticket true (expired || (Seconds.le due now && !asked)) k abandon
  | t => t

end Task

namespace Tasks

variable {T R : Type}

/-- Begins an activity beside the others; tells its position. -/
def begin (s : Tasks T R) (a : World T → Activity T (World T) R) : Nat × Tasks T R :=
  let (t, w) := Task.ofActivity (a s.world)
  (s.tasks.length, ⟨w, s.tasks ++ [t]⟩)

/-- Lets an activity go on. -/
def resume (s : Tasks T R) (i : Nat) : Tasks T R :=
  match s.tasks[i]? with
  | some (.waiting _ _ alert expired k _) =>
    let (t, w) := Task.ofActivity (k (alert && !expired) s.world)
    ⟨w, s.tasks.set i t⟩
  | _ => s

/-- Abandons an activity in its pause. -/
def abandon (s : Tasks T R) (i : Nat) : Tasks T R :=
  match s.tasks[i]? with
  | some (.waiting _ _ _ _ _ abandon) =>
    let (t, w) := Task.ofActivity (abandon s.world)
    ⟨w, s.tasks.set i t⟩
  | _ => s

/-- Has an activity abandoned in its pause as soon as it is its turn to go on. -/
def cancel (s : Tasks T R) (i : Nat) : Tasks T R :=
  match s.tasks[i]? with
  | some (.waiting due ticket _ _ _ abandon) =>
    { s with tasks := s.tasks.set i (.waiting due ticket true true (fun _ => abandon) abandon) }
  | _ => s

/-- The result of an activity, if it has ended. -/
def result? (s : Tasks T R) (i : Nat) : Option R :=
  s.tasks[i]?.bind Task.result?

variable [Seconds T]

/-- Whether the first of two ranks comes first. -/
def lowerRank (a b : Nat × Nat) : Bool :=
  a.1 < b.1 || (a.1 == b.1 && a.2 < b.2)

/-- The activities that can go on, as their ranks and positions. -/
def ranked (s : Tasks T R) : List ((Nat × Nat) × Nat) :=
  s.tasks.zipIdx.filterMap fun (t, i) => (t.rank? s.world).map fun r => (r, i)

/-- The better of two candidates: the one with the lower rank, the first one if they have the same. -/
def better (best : Option ((Nat × Nat) × Nat)) (x : (Nat × Nat) × Nat) :
    Option ((Nat × Nat) × Nat) :=
  match best with
  | none => some x
  | some b => if lowerRank x.1 b.1 then some x else some b

/-- The position of the activity that goes on next, if one can. -/
def next? (s : Tasks T R) : Option Nat :=
  (s.ranked.foldl better none).map (·.2)

/-- The next time at which something happens. -/
def nextTime? (s : Tasks T R) : Option T :=
  let times := s.world.agenda.map (·.due) ++ s.tasks.filterMap Task.due?
  times.foldl (fun best t =>
    match best with
    | none => some t
    | some b => if Seconds.lt t b then some t else some b) none

/-- Lets time pass until a time. -/
def passTo (s : Tasks T R) (t : T) : Tasks T R :=
  ⟨s.world.passTo t, s.tasks.map (Task.expire s.world t)⟩

/-- Lets one activity go on, or time pass if none can. -/
def step (s : Tasks T R) : Tasks T R :=
  match s.next? with
  | some i => s.resume i
  | none =>
    match s.nextTime? with
    | some t => s.passTo t
    | none => s

/-- Takes steps until an activity has ended, at most as many as given. -/
def await (i : Nat) : Nat → Tasks T R → Tasks T R
  | 0, s => s
  | fuel + 1, s => if (s.result? i).isSome then s else await i fuel s.step

end Tasks

end MetricsAgent
