/-
Coordination.Broadcast.Bus — delivery to observers.

Every observer has a queue of bounded length. Publishing never waits: an
observer whose queue is full is dropped, and can still read what is
queued. Nothing is delivered to an observer that was dropped, has left,
or was cut off when the bus closed.

  §1 Observers  — `Observer`, `DropReason`.
  §2 Bus        — `subscribe`, `publish`, `unsubscribe`, `close`, `send`.
  §3 Reading    — `receive`, `drain`.
  §4 Laws       — what each operation does to an observer.
-/
namespace Coordination

namespace Bus

/-! ## §1 Observers -/

/-- Why the bus stopped delivering. -/
inductive DropReason where
  /-- The queue was full. -/
  | lagged
  /-- The bus was closed. -/
  | shutdown
  deriving DecidableEq, Repr

def DropReason.name : DropReason → String
  | lagged => "Lagged"
  | shutdown => "Shutdown"

/-- An observer, which messages of type `μ` are delivered to. -/
structure Observer (μ : Type) where
  id : Nat
  /-- What was delivered and not yet read. -/
  queue : List μ
  /-- Whether messages are still delivered. -/
  registered : Bool
  dropReason : Option DropReason
  deriving Repr

namespace Observer

variable {μ : Type}

/-- Ends delivery. -/
def leave (observer : Observer μ) : Observer μ := { observer with registered := false }

/-- Ends delivery for a reason, unless it has ended. -/
def dropFor (reason : DropReason) (observer : Observer μ) : Observer μ :=
  if observer.registered then { observer with registered := false, dropReason := some reason }
  else observer

/-- Remembers why delivery ends, unless a reason is known. -/
def note (reason : DropReason) (observer : Observer μ) : Observer μ :=
  if observer.dropReason.isNone then { observer with dropReason := some reason } else observer

/-- Delivers a message if there is room for it, and drops the observer if there is none. -/
def deliver (capacity : Nat) (message : μ) (observer : Observer μ) : Observer μ :=
  if observer.registered then
    if observer.queue.length < capacity then
      { observer with queue := observer.queue ++ [message] }
    else observer.dropFor .lagged
  else observer

end Observer

end Bus

/-! ## §2 Bus -/

/-- The observers in the order in which they subscribed. Their numbers start from one. -/
structure Bus (μ : Type) where
  /-- The length of a full queue. -/
  capacity : Nat
  capacity_pos : 0 < capacity
  observers : List (Bus.Observer μ) := []

namespace Bus

variable {μ : Type}

/-- A bus with queues of a length; a length of zero is raised to one. -/
def ofCapacity (capacity : Nat) : Bus μ :=
  { capacity := max capacity 1, capacity_pos := by omega }

/-- The bus with every observer changed. -/
def onEach (bus : Bus μ) (change : Observer μ → Observer μ) : Bus μ :=
  { bus with observers := bus.observers.map change }

/-- The bus with one observer changed. -/
def onOne (bus : Bus μ) (id : Nat) (change : Observer μ → Observer μ) : Bus μ :=
  bus.onEach fun observer => if observer.id = id then change observer else observer

/-- Enters an observer whose first message is given; also gives its number. -/
def subscribe (bus : Bus μ) (first : μ) : Bus μ × Nat :=
  let id := bus.observers.length + 1
  ({ bus with observers := bus.observers ++ [⟨id, [first], true, none⟩] }, id)

/-- The number of observers to which messages are delivered. -/
def count (bus : Bus μ) : Nat := bus.observers.countP (·.registered)

/-- Delivers a message to all registered observers. -/
def publish (bus : Bus μ) (message : μ) : Bus μ := bus.onEach (.deliver bus.capacity message)

/-- Ends delivery to an observer at its own wish. -/
def unsubscribe (bus : Bus μ) (id : Nat) : Bus μ := bus.onOne id .leave

/-- Ends delivery to all observers. -/
def close (bus : Bus μ) : Bus μ := bus.onEach (.dropFor .shutdown)

/-- What has come of a message that is offered to the observers in turn. -/
structure Round (μ : Type) where
  /-- The observers it was offered to, as they are after it. -/
  offered : List (Observer μ) := []
  /-- How many took it. -/
  taken : Nat := 0
  /-- Those that had no room for it. -/
  full : List Nat := []

/-- Offers the message to the next observer. An observer without room is remembered, and stays
registered until the round is over. -/
def Round.offer (capacity : Nat) (message : μ) (round : Round μ) (observer : Observer μ) :
    Round μ :=
  if observer.registered then
    if observer.queue.length < capacity then
      { round with
        offered := round.offered ++ [{ observer with queue := observer.queue ++ [message] }]
        taken := round.taken + 1 }
    else
      { round with
        offered := round.offered ++ [observer.note .lagged]
        full := round.full ++ [observer.id] }
  else { round with offered := round.offered ++ [observer] }

/-- Offers a message to all observers, then takes off those that had no room for it. Also gives the
number of those that took it. -/
def send (bus : Bus μ) (message : μ) : Bus μ × Nat :=
  let round := bus.observers.foldl (Round.offer bus.capacity message) {}
  (round.full.foldl unsubscribe { bus with observers := round.offered }, round.taken)

/-! ## §3 Reading -/

/-- What an observer finds when it looks for a message. -/
inductive Reception (μ : Type) where
  | message (message : μ)
  /-- Nothing yet. -/
  | nothing
  /-- Nothing any more. -/
  | ended
  deriving Repr

def observer? (bus : Bus μ) (id : Nat) : Option (Observer μ) :=
  bus.observers.find? (·.id = id)

/-- Takes the next message off an observer's queue. -/
def receive (bus : Bus μ) (id : Nat) : Bus μ × Reception μ :=
  match bus.observer? id with
  | none => (bus, .ended)
  | some observer => match observer.queue with
    | next :: rest => (bus.onOne id fun o => { o with queue := rest }, .message next)
    | [] => (bus, if observer.registered then .nothing else .ended)

/-- Takes all messages off an observer's queue. -/
def drain (bus : Bus μ) (id : Nat) : Bus μ × List μ :=
  (bus.onOne id fun o => { o with queue := [] },
    ((bus.observer? id).map (·.queue)).getD [])

def dropReason (bus : Bus μ) (id : Nat) : Option DropReason :=
  (bus.observer? id).bind (·.dropReason)

/-! ## §4 Laws -/

namespace Observer

@[simp] theorem id_leave (observer : Observer μ) : observer.leave.id = observer.id := rfl

@[simp] theorem id_dropFor (reason : DropReason) (observer : Observer μ) :
    (observer.dropFor reason).id = observer.id := by
  unfold dropFor; split <;> rfl

@[simp] theorem queue_dropFor (reason : DropReason) (observer : Observer μ) :
    (observer.dropFor reason).queue = observer.queue := by
  unfold dropFor; split <;> rfl

@[simp] theorem id_deliver (capacity : Nat) (message : μ) (observer : Observer μ) :
    (observer.deliver capacity message).id = observer.id := by
  unfold deliver; split
  · split
    · rfl
    · exact id_dropFor _ _
  · rfl

/-- An observer that is not registered gets nothing. -/
theorem deliver_of_not_registered {observer : Observer μ} (h : observer.registered = false)
    (capacity : Nat) (message : μ) : observer.deliver capacity message = observer := by
  simp [deliver, h]

/-- No queue grows beyond the capacity. -/
theorem length_queue_deliver {capacity : Nat} {observer : Observer μ}
    (h : observer.queue.length ≤ capacity) (message : μ) :
    (observer.deliver capacity message).queue.length ≤ capacity := by
  unfold deliver; split
  · split
    · simp; omega
    · rw [queue_dropFor]; exact h
  · exact h

end Observer

theorem observer?_onEach (bus : Bus μ) (change : Observer μ → Observer μ)
    (keeps : ∀ observer, (change observer).id = observer.id) (id : Nat) :
    (bus.onEach change).observer? id = (bus.observer? id).map change := by
  rw [observer?, onEach, List.find?_map]
  simp only [Function.comp_def, keeps]
  rfl

theorem observer?_publish (bus : Bus μ) (message : μ) (id : Nat) :
    (bus.publish message).observer? id =
      (bus.observer? id).map (.deliver bus.capacity message) :=
  observer?_onEach _ _ (fun _ => Observer.id_deliver _ _ _) id

theorem observer?_close (bus : Bus μ) (id : Nat) :
    bus.close.observer? id = (bus.observer? id).map (.dropFor .shutdown) :=
  observer?_onEach _ _ (fun _ => Observer.id_dropFor _ _) id

/-- A change of one observer is not seen by the others. -/
theorem observer?_onOne (bus : Bus μ) (id : Nat) (change : Observer μ → Observer μ)
    (keeps : ∀ observer, (change observer).id = observer.id) (other : Nat) :
    (bus.onOne id change).observer? other =
      (bus.observer? other).map fun observer =>
        if other = id then change observer else observer := by
  rw [onOne, observer?_onEach _ _ (fun observer => by split <;> simp [keeps])]
  cases h : bus.observer? other with
  | none => rfl
  | some observer =>
    have : observer.id = other := by simpa using List.find?_some h
    simp [this]

theorem observer?_unsubscribe (bus : Bus μ) (id other : Nat) :
    (bus.unsubscribe id).observer? other =
      (bus.observer? other).map fun observer =>
        if other = id then observer.leave else observer :=
  observer?_onOne bus id .leave Observer.id_leave other

@[simp] theorem capacity_publish (bus : Bus μ) (message : μ) :
    (bus.publish message).capacity = bus.capacity := rfl

end Bus

end Coordination
