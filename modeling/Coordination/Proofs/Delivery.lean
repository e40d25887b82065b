/-
Coordination.Proofs.Delivery — what an observer gets of the stream.

An audience is a bus together with what each observer has read so far. Any
mix of subscriptions, publications, readings and departures may happen to
it. What an observer has read, and after it what is queued for it, is its
first message and then an unbroken stretch of what was published: from its
subscription on, and up to the first publication that found its queue
full, its own departure, or the closing of the bus.

The proof follows one observer. Of every event it sees a signal or nothing
(`Event.signal?`), and its state after the event depends on nothing else
(`Reader.meet`). So the others cannot disturb it.

  §1 Sending    — a message offered in turn is a message published.
  §2 Audiences  — `Audience`, `Event`, `step`, `run`.
  §3 Readers    — `Reader.meet`, and that an audience follows it.
  §4 Stretches  — `Audience.stretch`, and what a reader has been told.
  §5 Delivery   — the theorem.
-/
import Mathlib.Data.List.Nodup
import Coordination.Proofs.Observers

namespace Coordination

namespace Bus

variable {μ : Type}

/-! ## §1 Sending -/

namespace Observer

/-- Whether a message finds no room. -/
def isFull (capacity : Nat) (observer : Observer μ) : Bool :=
  observer.registered && decide (capacity ≤ observer.queue.length)

/-- An observer to which a message has been offered, in a round that is not over. -/
def offered (capacity : Nat) (message : μ) (observer : Observer μ) : Observer μ :=
  if observer.isFull capacity then observer.note .lagged else observer.deliver capacity message

@[simp] theorem id_note (reason : DropReason) (observer : Observer μ) :
    (observer.note reason).id = observer.id := by
  unfold note; split <;> rfl

@[simp] theorem id_offered (capacity : Nat) (message : μ) (observer : Observer μ) :
    (observer.offered capacity message).id = observer.id := by
  unfold offered; split <;> simp

/-- What every observer satisfies: its queue is within bounds, and there is no reason for an end
that has not come. -/
structure Sound (capacity : Nat) (observer : Observer μ) : Prop where
  room : observer.queue.length ≤ capacity
  clean : observer.registered = true → observer.dropReason = none

variable {capacity : Nat} {observer : Observer μ}

theorem Sound.leave (h : observer.Sound capacity) : observer.leave.Sound capacity :=
  ⟨h.room, nofun⟩

theorem Sound.dropFor (h : observer.Sound capacity) (reason : DropReason) :
    (observer.dropFor reason).Sound capacity := by
  refine ⟨by simpa using h.room, ?_⟩
  unfold Observer.dropFor
  split
  · intro registered
    cases registered
  · exact h.clean

theorem Sound.deliver (h : observer.Sound capacity) (message : μ) :
    (observer.deliver capacity message).Sound capacity := by
  refine ⟨length_queue_deliver h.room message, ?_⟩
  intro registered
  have before := (registered_deliver registered).1
  unfold Observer.deliver at registered ⊢
  rw [if_pos before] at registered ⊢
  split at registered
  · rename_i room
    rw [if_pos room]
    exact h.clean before
  · rw [Observer.dropFor, if_pos before] at registered
    cases registered

/-- Taken off after the round, an observer without room is as if it was dropped at once. -/
theorem Sound.leave_offered (h : observer.Sound capacity) (full : observer.isFull capacity = true)
    (message : μ) : (observer.offered capacity message).leave =
      observer.deliver capacity message := by
  obtain ⟨registered, lack⟩ : observer.registered = true ∧ capacity ≤ observer.queue.length := by
    simpa [isFull] using full
  have lack : ¬observer.queue.length < capacity := by omega
  rw [offered, if_pos full, Observer.deliver, if_pos registered, if_neg lack, Observer.dropFor,
    if_pos registered, note, h.clean registered]
  rfl

end Observer

/-- What holds of a bus at all times. -/
structure Regular (bus : Bus μ) : Prop where
  numbered : bus.Numbered
  distinct : (bus.observers.map (·.id)).Nodup
  sound : ∀ o ∈ bus.observers, o.Sound bus.capacity

theorem Regular.onEach {bus : Bus μ} (h : bus.Regular) {change : Observer μ → Observer μ}
    (keeps : ∀ o, (change o).id = o.id)
    (sound : ∀ o, o.Sound bus.capacity → (change o).Sound bus.capacity) :
    (bus.onEach change).Regular where
  numbered := h.numbered.onEach keeps
  distinct := by
    rw [Bus.onEach, List.map_map]
    simpa [Function.comp_def, keeps] using h.distinct
  sound := by
    intro o ho
    obtain ⟨old, hold, rfl⟩ := List.mem_map.1 ho
    exact sound old (h.sound old hold)

theorem Regular.onOne {bus : Bus μ} (h : bus.Regular) (id : Nat)
    {change : Observer μ → Observer μ} (keeps : ∀ o, (change o).id = o.id)
    (sound : ∀ o, o.Sound bus.capacity → (change o).Sound bus.capacity) :
    (bus.onOne id change).Regular := by
  refine h.onEach ?_ ?_
  · intro o
    split <;> simp [keeps]
  · intro o ho
    split
    · exact sound o ho
    · exact ho

theorem Regular.publish {bus : Bus μ} (h : bus.Regular) (message : μ) :
    (bus.publish message).Regular :=
  h.onEach (Observer.id_deliver _ _) fun _ ho => ho.deliver message

theorem Regular.close {bus : Bus μ} (h : bus.Regular) : bus.close.Regular :=
  h.onEach (Observer.id_dropFor _) fun _ ho => ho.dropFor _

theorem Regular.unsubscribe {bus : Bus μ} (h : bus.Regular) (id : Nat) :
    (bus.unsubscribe id).Regular :=
  h.onOne id Observer.id_leave fun _ ho => ho.leave

theorem Regular.subscribe {bus : Bus μ} (h : bus.Regular) (first : μ) :
    (bus.subscribe first).1.Regular where
  numbered := h.numbered.subscribe first
  distinct := by
    simp only [Bus.subscribe, List.map_append, List.map_cons, List.map_nil]
    refine List.nodup_append.2 ⟨h.distinct, by simp, ?_⟩
    intro id hid other hother same
    obtain ⟨o, ho, rfl⟩ := List.mem_map.1 hid
    have low := h.numbered o ho
    have high := List.mem_singleton.1 hother
    omega
  sound := by
    intro o ho
    rcases List.mem_append.1 ho with ho | ho
    · exact h.sound o ho
    · obtain rfl := List.mem_singleton.1 ho
      exact ⟨bus.capacity_pos, fun _ => rfl⟩

theorem regular_ofCapacity (capacity : Nat) : (ofCapacity capacity : Bus μ).Regular where
  numbered := nofun
  distinct := List.nodup_nil
  sound := nofun

/-- A round of offers, in one go. -/
theorem foldl_offer (capacity : Nat) (message : μ) (observers : List (Observer μ))
    (round : Round μ) :
    observers.foldl (Round.offer capacity message) round =
      { offered := round.offered ++ observers.map (.offered capacity message)
        taken := round.taken +
          observers.countP fun o => (o.deliver capacity message).registered
        full := round.full ++ (observers.filter (·.isFull capacity)).map (·.id) } := by
  induction observers generalizing round with
  | nil => simp
  | cons o rest ih =>
    rw [List.foldl_cons, ih]
    by_cases registered : o.registered = true
    · by_cases room : o.queue.length < capacity
      · simp [Round.offer, Observer.offered, Observer.isFull, Observer.deliver, registered, room]
        omega
      · simp [Round.offer, Observer.offered, Observer.isFull, Observer.deliver, Observer.dropFor,
          registered, room, Nat.le_of_not_lt room]
    · simp [Round.offer, Observer.offered, Observer.isFull, Observer.deliver, registered]

/-- Taking off several observers. -/
theorem foldl_unsubscribe (bus : Bus μ) (ids : List Nat) :
    ids.foldl unsubscribe bus =
      bus.onEach fun o => if o.id ∈ ids then o.leave else o := by
  induction ids generalizing bus with
  | nil => simp [onEach]
  | cons id rest ih =>
    rw [List.foldl_cons, ih, unsubscribe, onOne, onEach, onEach, onEach, List.map_map]
    congr 2
    funext o
    by_cases here : o.id = id
    · by_cases there : id ∈ rest <;> simp [here, there, Observer.leave]
    · simp [here]

/-- A message that is offered to the observers in turn is published, and those who took it are those
who are still registered. -/
theorem send_eq {bus : Bus μ} (h : bus.Regular) (message : μ) :
    bus.send message = (bus.publish message, (bus.publish message).count) := by
  have count : (bus.publish message).count =
      bus.observers.countP fun o => (o.deliver bus.capacity message).registered := by
    rw [count, publish, onEach, List.countP_map]
    rfl
  rw [count]
  simp only [send, foldl_offer, foldl_unsubscribe, publish, onEach, List.map_map,
    List.nil_append, Nat.zero_add, Prod.mk.injEq, Bus.mk.injEq, true_and, and_true]
  refine List.map_congr_left ?_
  intro o ho
  -- the numbers are distinct, so no observer is taken off for another one
  have alone : o.id ∈ (bus.observers.filter (·.isFull bus.capacity)).map (·.id) ↔
      o.isFull bus.capacity = true := by
    constructor
    · intro hid
      obtain ⟨other, hother, same⟩ := List.mem_map.1 hid
      obtain ⟨member, full⟩ := List.mem_filter.1 hother
      exact List.inj_on_of_nodup_map h.distinct member ho same ▸ full
    · intro full
      exact List.mem_map_of_mem (List.mem_filter.2 ⟨ho, full⟩)
  simp only [Function.comp_apply, Observer.id_offered, alone]
  by_cases full : o.isFull bus.capacity = true
  · rw [if_pos full]
    exact (h.sound o ho).leave_offered full message
  · rw [if_neg full, Observer.offered, if_neg full]

/-! ## §2 Audiences -/

/-- What may happen to a bus. -/
inductive Event (μ : Type) where
  /-- An observer comes, whose first message is given. -/
  | subscribe (first : μ)
  | publish (message : μ)
  /-- An observer looks for a message. -/
  | receive (id : Nat)
  | unsubscribe (id : Nat)
  | close

/-- A bus, and what each observer has read. -/
structure Audience (μ : Type) where
  bus : Bus μ
  read : Nat → List μ := fun _ => []

namespace Audience

/-- A bus without observers. -/
def opening (capacity : Nat) : Audience μ := { bus := .ofCapacity capacity }

def step (audience : Audience μ) : Event μ → Audience μ
  | .subscribe first => { audience with bus := (audience.bus.subscribe first).1 }
  | .publish message => { audience with bus := (audience.bus.send message).1 }
  | .receive id => match audience.bus.receive id with
    | (bus, .message message) =>
      { bus := bus
        read := fun n => if n = id then audience.read n ++ [message] else audience.read n }
    | (bus, _) => { audience with bus := bus }
  | .unsubscribe id => { audience with bus := audience.bus.unsubscribe id }
  | .close => { audience with bus := audience.bus.close }

def run (audience : Audience μ) (events : List (Event μ)) : Audience μ := events.foldl step audience

/-- What an observer has read, what is queued for it, and whether and why delivery to it has
ended. -/
structure View (μ : Type) where
  read : List μ
  queue : List μ
  registered : Bool
  dropReason : Option DropReason

def view? (audience : Audience μ) (id : Nat) : Option (View μ) :=
  (audience.bus.observer? id).map fun o =>
    { read := audience.read id
      queue := o.queue
      registered := o.registered
      dropReason := o.dropReason }

/-- What holds of an audience at all times. -/
structure Sound (audience : Audience μ) (capacity : Nat) : Prop where
  capacity : audience.bus.capacity = max capacity 1
  regular : audience.bus.Regular
  unread : ∀ id, audience.bus.observers.length < id → audience.read id = []

theorem sound_opening (capacity : Nat) : (opening capacity : Audience μ).Sound capacity where
  capacity := rfl
  regular := regular_ofCapacity capacity
  unread _ _ := rfl

variable {audience : Audience μ} {capacity : Nat}

theorem Sound.send_eq (h : audience.Sound capacity) (message : μ) :
    audience.bus.send message = (audience.bus.publish message, (audience.bus.publish message).count) :=
  Bus.send_eq h.regular message

/-- Who looks for a message finds nothing, or takes the first off its queue. -/
theorem step_receive (audience : Audience μ) (id : Nat) :
    (audience.step (.receive id) = audience ∧
        ∀ o, audience.bus.observer? id = some o → o.queue = []) ∨
      ∃ o next rest, audience.bus.observer? id = some o ∧ o.queue = next :: rest ∧
        audience.step (.receive id) =
          { bus := audience.bus.onOne id fun o => { o with queue := rest }
            read := fun n => if n = id then audience.read n ++ [next] else audience.read n } := by
  simp only [step, Bus.receive]
  cases found : audience.bus.observer? id with
  | none => exact .inl ⟨rfl, nofun⟩
  | some o =>
    cases queue : o.queue with
    | nil =>
      refine .inl ⟨?_, fun _ same => Option.some.inj same ▸ queue⟩
      simp only [queue]
      cases o.registered <;> rfl
    | cons next rest =>
      refine .inr ⟨o, next, rest, rfl, queue, ?_⟩
      simp only [queue]

theorem Sound.step (h : audience.Sound capacity) (event : Event μ) :
    (audience.step event).Sound capacity := by
  cases event with
  | subscribe first =>
    refine ⟨h.capacity, h.regular.subscribe first, ?_⟩
    intro id hid
    have length : (audience.bus.subscribe first).1.observers.length =
        audience.bus.observers.length + 1 := List.length_append
    have hid : (audience.bus.subscribe first).1.observers.length < id := hid
    exact h.unread id (by omega)
  | publish message =>
    simp only [Audience.step, h.send_eq]
    refine ⟨h.capacity, h.regular.publish message, ?_⟩
    intro id hid
    exact h.unread id (by simpa [publish, onEach] using hid)
  | receive id =>
    rcases audience.step_receive id with ⟨same, -⟩ | ⟨o, next, rest, found, queue, taken⟩
    · rw [same]
      exact h
    · rw [taken]
      have room := (h.regular.sound o (List.mem_of_find?_eq_some found)).room
      rw [queue, List.length_cons] at room
      refine ⟨h.capacity, h.regular.onOne id (fun _ => rfl) ?_, ?_⟩
      · intro other ho
        exact ⟨by simpa using (by omega : rest.length ≤ audience.bus.capacity), ho.clean⟩
      · intro other hid
        have low := h.regular.numbered.le_length found
        have hid : audience.bus.observers.length < other := by
          simpa [onOne, onEach] using hid
        have distinct : other ≠ id := by omega
        exact (if_neg distinct).trans (h.unread other hid)
  | unsubscribe id =>
    refine ⟨h.capacity, h.regular.unsubscribe id, ?_⟩
    intro other hid
    exact h.unread other (by simpa [Audience.step, unsubscribe, onOne, onEach] using hid)
  | close =>
    refine ⟨h.capacity, h.regular.close, ?_⟩
    intro other hid
    exact h.unread other (by simpa [Audience.step, close, onEach] using hid)

theorem Sound.run (h : audience.Sound capacity) (events : List (Event μ)) :
    (audience.run events).Sound capacity := by
  induction events generalizing audience with
  | nil => exact h
  | cons event rest ih => exact ih (h.step event)

end Audience

/-! ## §3 Readers -/

/-- How delivery to an observer comes to its end. -/
inductive Ending where
  /-- A publication finds the queue full. -/
  | full
  /-- The observer leaves. -/
  | left
  /-- The bus is closed. -/
  | closed
  deriving DecidableEq

/-- The reason that is given for an end. -/
def Ending.reason? : Ending → Option DropReason
  | full => some .lagged
  | left => none
  | closed => some .shutdown

theorem Ending.reason?_eq_lagged {ending : Option Ending} :
    ending.bind reason? = some .lagged ↔ ending = some .full := by
  rcases ending with _ | ending
  · simp
  · cases ending <;> simp [reason?]

theorem Ending.reason?_eq_shutdown {ending : Option Ending} :
    ending.bind reason? = some .shutdown ↔ ending = some .closed := by
  rcases ending with _ | ending
  · simp
  · cases ending <;> simp [reason?]

/-- What one observer sees of an event. -/
inductive Signal (μ : Type) where
  | publish (message : μ)
  | receive
  | unsubscribe
  | close

/-- Of what concerns the other observers only, an observer sees nothing. -/
def Event.signal? (id : Nat) : Event μ → Option (Signal μ)
  | .subscribe _ => none
  | .publish message => some (.publish message)
  | .receive other => if other = id then some .receive else none
  | .unsubscribe other => if other = id then some .unsubscribe else none
  | .close => some .close

/-- An observer by itself. -/
structure Reader (μ : Type) where
  read : List μ := []
  queue : List μ
  ending : Option Ending := none

namespace Reader

/-- Ends delivery, unless it has ended. -/
def finish (reader : Reader μ) (ending : Ending) : Reader μ :=
  { reader with ending := some (reader.ending.getD ending) }

def meet (capacity : Nat) (reader : Reader μ) : Signal μ → Reader μ
  | .publish message =>
    if reader.ending.isSome then reader
    else if reader.queue.length < capacity then
      { reader with queue := reader.queue ++ [message] }
    else reader.finish .full
  | .receive =>
    { reader with
      read := reader.read ++ reader.queue.head?.toList
      queue := reader.queue.tail }
  | .unsubscribe => reader.finish .left
  | .close => reader.finish .closed

/-- Publications are not reading. -/
theorem read_publish (capacity : Nat) (reader : Reader μ) (message : μ) :
    (reader.meet capacity (.publish message)).read = reader.read := by
  simp only [meet]
  split
  · rfl
  · split <;> rfl

/-- An observer sees its part of an event. -/
def witness (capacity : Nat) (id : Nat) (reader : Reader μ) (event : Event μ) : Reader μ :=
  match event.signal? id with
  | some signal => reader.meet capacity signal
  | none => reader

theorem foldl_meet_cons (capacity : Nat) (id : Nat) (reader : Reader μ) (event : Event μ)
    (rest : List (Event μ)) :
    ((event :: rest).filterMap (Event.signal? id)).foldl (meet capacity) reader =
      (rest.filterMap (Event.signal? id)).foldl (meet capacity)
        (reader.witness capacity id event) := by
  rw [witness, List.filterMap_cons]
  cases event.signal? id <;> rfl

def view (reader : Reader μ) : Audience.View μ where
  read := reader.read
  queue := reader.queue
  registered := reader.ending.isNone
  dropReason := reader.ending.bind Ending.reason?

/-- All messages that were delivered. -/
def told (reader : Reader μ) : List μ := reader.read ++ reader.queue

/-- The bus sees the observer as the reader that it is. -/
structure Shows (reader : Reader μ) (o : Observer μ) : Prop where
  queue : o.queue = reader.queue
  registered : o.registered = reader.ending.isNone
  dropReason : o.dropReason = reader.ending.bind Ending.reason?

variable {reader : Reader μ} {o : Observer μ} {capacity : Nat}

theorem Shows.leave (h : reader.Shows o) : (reader.finish .left).Shows o.leave := by
  refine ⟨h.queue, by simp [Observer.leave, finish], ?_⟩
  have reason := h.dropReason
  cases ended : reader.ending <;> simp_all [Observer.leave, finish, Ending.reason?]

theorem Shows.dropFor (h : reader.Shows o) {ending : Ending} {reason : DropReason}
    (given : ending.reason? = some reason) :
    (reader.finish ending).Shows (o.dropFor reason) := by
  obtain ⟨queue, registered, dropReason⟩ := h
  refine ⟨by simpa [finish] using queue, ?_, ?_⟩
  · cases ended : reader.ending <;> simp_all [Observer.dropFor, finish]
  · cases ended : reader.ending <;> simp_all [Observer.dropFor, finish]

theorem Shows.deliver (h : reader.Shows o) (message : μ) :
    (reader.meet capacity (.publish message)).Shows (o.deliver capacity message) := by
  cases ended : reader.ending with
  | some ending =>
    have gone : o.registered = false := by simp [h.registered, ended]
    simpa [meet, ended, Observer.deliver_of_not_registered gone] using h
  | none =>
    have registered : o.registered = true := by simp [h.registered, ended]
    by_cases room : reader.queue.length < capacity
    · refine ⟨?_, ?_, ?_⟩ <;>
        simp [meet, Observer.deliver, ended, registered, room, h.queue, h.dropReason]
    · have dropped := h.dropFor (show Ending.full.reason? = some .lagged from rfl)
      simpa [meet, Observer.deliver, ended, registered, room, h.queue] using dropped

end Reader

namespace Audience

variable {audience : Audience μ} {capacity : Nat} {id : Nat} {reader : Reader μ}

/-- Another queue for one observer. -/
theorem observer?_requeue (bus : Bus μ) (id : Nat) (queue : List μ) (other : Nat) :
    (bus.onOne id fun o => { o with queue := queue }).observer? other =
      (bus.observer? other).map fun o => if other = id then { o with queue := queue } else o :=
  observer?_onOne bus id (fun o => { o with queue := queue }) (fun _ => rfl) other

theorem view?_eq_some (audience : Audience μ) (id : Nat) (reader : Reader μ) :
    audience.view? id = some reader.view ↔
      audience.read id = reader.read ∧ ∃ o, audience.bus.observer? id = some o ∧ reader.Shows o := by
  constructor
  · intro h
    obtain ⟨o, found, same⟩ := Option.map_eq_some_iff.1 h
    simp only [Reader.view, View.mk.injEq] at same
    obtain ⟨read, queue, registered, dropReason⟩ := same
    exact ⟨read, o, found, queue, registered, dropReason⟩
  · rintro ⟨read, o, found, queue, registered, dropReason⟩
    simp [view?, found, Reader.view, read, queue, registered, dropReason]

theorem Sound.view?_subscribe (h : audience.Sound capacity)
    (shown : audience.view? id = some reader.view) (first : μ) :
    (audience.step (.subscribe first)).view? id = some reader.view := by
  obtain ⟨read, o, found, shows⟩ := (view?_eq_some _ _ _).1 shown
  have low := h.regular.numbered.le_length found
  have other : id ≠ audience.bus.observers.length + 1 := by omega
  refine (view?_eq_some _ _ _).2 ⟨read, o, ?_, shows⟩
  show (audience.bus.subscribe first).1.observer? id = some o
  rw [h.regular.numbered.observer?_subscribe, if_neg other, found]

theorem Sound.view?_publish (h : audience.Sound capacity)
    (shown : audience.view? id = some reader.view) (message : μ) :
    (audience.step (.publish message)).view? id =
      some (reader.meet (max capacity 1) (.publish message)).view := by
  obtain ⟨read, o, found, shows⟩ := (view?_eq_some _ _ _).1 shown
  refine (view?_eq_some _ _ _).2 ⟨?_, o.deliver audience.bus.capacity message, ?_, ?_⟩
  · rw [Reader.read_publish]
    exact read
  · show (audience.bus.send message).1.observer? id = _
    rw [h.send_eq, observer?_publish, found]
    rfl
  · rw [h.capacity]
    exact shows.deliver message

theorem view?_receive (shown : audience.view? id = some reader.view) :
    (audience.step (.receive id)).view? id = some (reader.meet capacity .receive).view := by
  obtain ⟨read, o, found, shows⟩ := (view?_eq_some _ _ _).1 shown
  rcases audience.step_receive id with ⟨same, empty⟩ | ⟨owner, next, rest, held, queue, taken⟩
  · have empty : reader.queue = [] := shows.queue ▸ empty o found
    have still : reader.meet capacity .receive = reader := by
      obtain ⟨read, queue, ending⟩ := reader
      obtain rfl : queue = [] := empty
      simp [Reader.meet]
    rw [same, still]
    exact shown
  · obtain rfl := Option.some.inj (found.symm.trans held)
    have queue : reader.queue = next :: rest := shows.queue ▸ queue
    rw [taken, view?_eq_some]
    refine ⟨?_, { o with queue := rest }, ?_, ?_, shows.registered, shows.dropReason⟩
    · simp [Reader.meet, queue, read]
    · rw [observer?_requeue, found]
      simp
    · simp [Reader.meet, queue]

theorem view?_receive_other {other : Nat} (away : id ≠ other) :
    (audience.step (.receive other)).view? id = audience.view? id := by
  rcases audience.step_receive other with ⟨same, -⟩ | ⟨owner, next, rest, -, -, taken⟩
  · rw [same]
  · rw [taken, view?, observer?_requeue, view?]
    simp [away]

theorem view?_unsubscribe (shown : audience.view? id = some reader.view) :
    (audience.step (.unsubscribe id)).view? id = some (reader.finish .left).view := by
  obtain ⟨read, o, found, shows⟩ := (view?_eq_some _ _ _).1 shown
  refine (view?_eq_some _ _ _).2 ⟨read, o.leave, ?_, shows.leave⟩
  show (audience.bus.unsubscribe id).observer? id = _
  rw [observer?_unsubscribe, found]
  simp

theorem view?_unsubscribe_other {other : Nat} (away : id ≠ other) :
    (audience.step (.unsubscribe other)).view? id = audience.view? id := by
  show Option.map _ ((audience.bus.unsubscribe other).observer? id) = _
  rw [observer?_unsubscribe, view?]
  simp [away, step]

theorem view?_close (shown : audience.view? id = some reader.view) :
    (audience.step .close).view? id = some (reader.finish .closed).view := by
  obtain ⟨read, o, found, shows⟩ := (view?_eq_some _ _ _).1 shown
  refine (view?_eq_some _ _ _).2 ⟨read, o.dropFor .shutdown, ?_, shows.dropFor rfl⟩
  show audience.bus.close.observer? id = _
  rw [observer?_close, found]
  rfl

/-- An observer's state after an event depends on its state before and its signal alone. -/
theorem Sound.view?_step (h : audience.Sound capacity)
    (shown : audience.view? id = some reader.view) (event : Event μ) :
    (audience.step event).view? id = some (reader.witness (max capacity 1) id event).view := by
  cases event with
  | subscribe first => exact h.view?_subscribe shown first
  | publish message => exact h.view?_publish shown message
  | receive other =>
    by_cases here : other = id
    · subst here
      simpa [Reader.witness, Event.signal?] using view?_receive shown
    · simpa [Reader.witness, Event.signal?, here] using
        (view?_receive_other (Ne.symm here)).trans shown
  | unsubscribe other =>
    by_cases here : other = id
    · subst here
      simpa [Reader.witness, Event.signal?, Reader.meet] using view?_unsubscribe shown
    · simpa [Reader.witness, Event.signal?, here] using
        (view?_unsubscribe_other (Ne.symm here)).trans shown
  | close => exact view?_close shown

/-- So does its state after any number of events. -/
theorem Sound.view?_run (h : audience.Sound capacity)
    (shown : audience.view? id = some reader.view) (events : List (Event μ)) :
    (audience.run events).view? id =
      some ((events.filterMap (Event.signal? id)).foldl (.meet (max capacity 1)) reader).view := by
  induction events generalizing audience reader with
  | nil => exact shown
  | cons event rest ih =>
    rw [Reader.foldl_meet_cons]
    exact ih (h.step event) (h.view?_step shown event)

end Audience

/-! ## §4 Stretches -/

def Event.message? : Event μ → Option μ
  | .publish message => some message
  | _ => none

/-- What is published by some events. -/
def published (events : List (Event μ)) : List μ := events.filterMap Event.message?

namespace Audience

/-- How many messages an observer has not read yet. -/
def queued (audience : Audience μ) (id : Nat) : Nat :=
  ((audience.bus.observer? id).map (·.queue.length)).getD 0

/-- Whether an event would end delivery to an observer, if it had not ended. -/
def ending? (audience : Audience μ) (limit : Nat) (id : Nat) : Event μ → Option Ending
  | .publish _ => if audience.queued id = limit then some .full else none
  | .unsubscribe other => if other = id then some .left else none
  | .close => some .closed
  | _ => none

/-- The events before the first one that ends delivery to an observer, and the end if there
is one. -/
def stretch (limit : Nat) (id : Nat) : Audience μ → List (Event μ) → List (Event μ) × Option Ending
  | _, [] => ([], none)
  | audience, event :: rest => match audience.ending? limit id event with
    | some ending => ([], some ending)
    | none =>
      let (during, ending) := stretch limit id (audience.step event) rest
      (event :: during, ending)

end Audience

namespace Reader

variable {reader : Reader μ}

/-- Reading moves messages, and loses none. -/
theorem told_receive (capacity : Nat) (reader : Reader μ) :
    (reader.meet capacity .receive).told = reader.told := by
  obtain ⟨read, queue, ending⟩ := reader
  cases queue <;> simp [meet, told]

/-- Nothing is delivered after the end, and the end does not change. -/
theorem meet_of_ended (capacity : Nat) {ending : Ending} (ended : reader.ending = some ending)
    (signal : Signal μ) :
    (reader.meet capacity signal).ending = some ending ∧
      (reader.meet capacity signal).told = reader.told := by
  cases signal with
  | publish message => simp [meet, ended]
  | receive => exact ⟨ended, told_receive capacity reader⟩
  | unsubscribe => simp [meet, finish, ended, told]
  | close => simp [meet, finish, ended, told]

theorem foldl_meet_of_ended (capacity : Nat) {ending : Ending}
    (ended : reader.ending = some ending)
    (signals : List (Signal μ)) :
    (signals.foldl (meet capacity) reader).ending = some ending ∧
      (signals.foldl (meet capacity) reader).told = reader.told := by
  induction signals generalizing reader with
  | nil => exact ⟨ended, rfl⟩
  | cons signal rest ih =>
    obtain ⟨still, told⟩ := meet_of_ended capacity ended signal
    obtain ⟨last, all⟩ := ih still
    exact ⟨last, all.trans told⟩

end Reader

namespace Audience

variable {audience : Audience μ} {capacity : Nat} {id : Nat} {reader : Reader μ}

theorem stretch_prefix (limit : Nat) (id : Nat) (audience : Audience μ) (events : List (Event μ)) :
    (audience.stretch limit id events).1 <+: events := by
  induction events generalizing audience with
  | nil => exact List.prefix_rfl
  | cons event rest ih =>
    rw [stretch]
    cases audience.ending? limit id event with
    | some ending => exact List.nil_prefix
    | none => simpa using ih (audience.step event)

/-- A stretch that has no end goes on for all events. -/
theorem stretch_of_going {limit : Nat} {events : List (Event μ)}
    (going : (audience.stretch limit id events).2 = none) :
    (audience.stretch limit id events).1 = events := by
  induction events generalizing audience with
  | nil => rfl
  | cons event rest ih =>
    rw [stretch] at going ⊢
    cases ended : audience.ending? limit id event with
    | some ending => simp [ended] at going
    | none => simpa [ended] using ih (by simpa [ended] using going)

theorem Sound.length_queue (h : audience.Sound capacity) {view : View μ}
    (shown : audience.view? id = some view) : view.queue.length ≤ max capacity 1 := by
  obtain ⟨o, found, rfl⟩ := Option.map_eq_some_iff.1 shown
  exact h.capacity ▸ (h.regular.sound o (List.mem_of_find?_eq_some found)).room

theorem queued_eq (shown : audience.view? id = some reader.view) :
    audience.queued id = reader.queue.length := by
  obtain ⟨-, o, found, shows⟩ := (view?_eq_some _ _ _).1 shown
  simp [queued, found, shows.queue]

/-- While delivery goes on, an event ends it, or adds to what is told the message it publishes. -/
theorem Sound.witness_of_going (h : audience.Sound capacity)
    (shown : audience.view? id = some reader.view) (going : reader.ending = none)
    (event : Event μ) :
    (reader.witness (max capacity 1) id event).ending =
        audience.ending? (max capacity 1) id event ∧
      (reader.witness (max capacity 1) id event).told =
        match audience.ending? (max capacity 1) id event with
        | some _ => reader.told
        | none => reader.told ++ event.message?.toList := by
  cases event with
  | subscribe first => simp [Reader.witness, Event.signal?, ending?, Event.message?, going]
  | publish message =>
    have room : reader.queue.length ≤ max capacity 1 := h.length_queue shown
    by_cases full : reader.queue.length = max capacity 1
    · simp [Reader.witness, Event.signal?, Reader.meet, Reader.finish, Reader.told, ending?, going,
        queued_eq shown, full]
    · have room : reader.queue.length < max capacity 1 := by omega
      simp only [Reader.witness, Event.signal?, Reader.meet, Reader.told, ending?, going,
        queued_eq shown, full, room]
      simp [Event.message?]
  | receive other =>
    by_cases here : other = id
    · have still : (reader.meet (max capacity 1) .receive).ending = none := going
      simp [Reader.witness, Event.signal?, here, Reader.told_receive, ending?, Event.message?, still]
    · simp [Reader.witness, Event.signal?, here, ending?, Event.message?, going]
  | unsubscribe other =>
    by_cases here : other = id
    · simp [Reader.witness, Event.signal?, here, Reader.meet, Reader.finish, Reader.told, ending?,
        going]
    · simp [Reader.witness, Event.signal?, here, ending?, Event.message?, going]
  | close =>
    simp [Reader.witness, Event.signal?, Reader.meet, Reader.finish, Reader.told, ending?, going]

/-- What a reader has been told after some events, if delivery went on at first, and how delivery
ended if it did. -/
theorem Sound.foldl_meet (h : audience.Sound capacity)
    (shown : audience.view? id = some reader.view) (going : reader.ending = none)
    (events : List (Event μ)) :
    let last := (events.filterMap (Event.signal? id)).foldl (.meet (max capacity 1)) reader
    let (during, ending) := audience.stretch (max capacity 1) id events
    last.told = reader.told ++ published during ∧ last.ending = ending := by
  induction events generalizing audience reader with
  | nil => exact ⟨(List.append_nil _).symm, going⟩
  | cons event rest ih =>
    obtain ⟨ending, told⟩ := h.witness_of_going shown going event
    simp only [Reader.foldl_meet_cons, stretch]
    cases ended : audience.ending? (max capacity 1) id event with
    | some reason =>
      rw [ended] at ending told
      obtain ⟨last, all⟩ := Reader.foldl_meet_of_ended (max capacity 1) ending
        (rest.filterMap (Event.signal? id))
      exact ⟨by simpa [published, told] using all, last⟩
    | none =>
      rw [ended] at ending told
      obtain ⟨all, last⟩ := ih (h.step event) (h.view?_step shown event) ending
      refine ⟨all.trans ?_, last⟩
      rw [told, published, published, List.filterMap_cons]
      cases event.message? <;> simp

end Audience

/-! ## §5 Delivery -/

namespace Audience

/-- An observer comes. Also gives its number. -/
def join (audience : Audience μ) (first : μ) : Audience μ × Nat :=
  (audience.step (.subscribe first), (audience.bus.subscribe first).2)

variable {audience : Audience μ} {capacity : Nat}

/-- An observer that has just come. -/
theorem Sound.view?_join (h : audience.Sound capacity) (first : μ) :
    (audience.join first).1.view? (audience.join first).2 =
      some (Reader.view { queue := [first] }) := by
  refine (view?_eq_some _ _ _).2 ⟨h.unread _ (Nat.lt_succ_self _), ?_⟩
  refine ⟨⟨audience.bus.observers.length + 1, [first], true, none⟩, ?_, rfl, rfl, rfl⟩
  show (audience.bus.subscribe first).1.observer? (audience.bus.observers.length + 1) = _
  rw [h.regular.numbered.observer?_subscribe, if_pos rfl]

/-- A reason that was given for an end is kept. -/
theorem Sound.dropReason_run (h : audience.Sound capacity) {id : Nat} {reader : Reader μ}
    (shown : audience.view? id = some reader.view) {reason : DropReason}
    (given : reader.view.dropReason = some reason) (more : List (Event μ)) :
    (audience.run more).bus.dropReason id = some reason := by
  obtain ⟨ending, ended, named⟩ := Option.bind_eq_some_iff.1 given
  obtain ⟨-, o, found, shows⟩ := (view?_eq_some _ _ _).1 (h.view?_run shown more)
  have still := (Reader.foldl_meet_of_ended (max capacity 1) ended
    (more.filterMap (Event.signal? id))).1
  simp [dropReason, found, shows.dropReason, still, named]

end Audience

/-- An observer has read, or still finds in its queue, its first message and an unbroken stretch of
what was published since: up to the first publication that found its queue full, its departure or
the closing of the bus. Only the first and the last are given as a reason, and for good. What it
sees of the others is nothing. A publication is counted by those who are registered after it. -/
theorem delivered_in_order (capacity : Nat) :
    (∀ (events : List (Event μ)) (message : μ),
      let bus := ((Audience.opening capacity).run events).bus
      (bus.send message).2 = (bus.send message).1.count) ∧
    ∀ (before : List (Event μ)) (first : μ) (after : List (Event μ)),
      let (start, id) := ((Audience.opening capacity).run before).join first
      let last := start.run after
      let (during, ending) := start.stretch (max capacity 1) id after
      (during <+: after ∧ (ending = none → during = after)) ∧
      ∃ view, last.view? id = some view ∧
        view.read ++ view.queue = first :: published during ∧
        view.queue.length ≤ max capacity 1 ∧
        view.registered = ending.isNone ∧
        (view.dropReason = some .lagged ↔ ending = some .full) ∧
        (view.dropReason = some .shutdown ↔ ending = some .closed) ∧
        (∀ reason, view.dropReason = some reason →
          ∀ more, (last.run more).bus.dropReason id = some reason) ∧
        ∀ before' after',
          let (start', id') := ((Audience.opening capacity).run before').join first
          after'.filterMap (Event.signal? id') = after.filterMap (Event.signal? id) →
          (start'.run after').view? id' = some view := by
  refine ⟨?_, ?_⟩
  · intro events message bus
    have sound := (Audience.sound_opening capacity).run events
    simp [bus, sound.send_eq]
  intro before first after
  have there : ((Audience.opening capacity : Audience μ).run before).Sound capacity :=
    (Audience.sound_opening capacity).run before
  have sound := there.step (.subscribe first)
  have shown := there.view?_join first
  have final := sound.view?_run shown after
  obtain ⟨told, ended⟩ := sound.foldl_meet shown rfl after
  refine ⟨⟨Audience.stretch_prefix _ _ _ _, Audience.stretch_of_going⟩, _, final, told,
    (sound.run after).length_queue final, congrArg Option.isNone ended, ?_, ?_, ?_, ?_⟩
  · exact Ending.reason?_eq_lagged.trans (ended ▸ Iff.rfl)
  · exact Ending.reason?_eq_shutdown.trans (ended ▸ Iff.rfl)
  · intro reason given more
    exact (sound.run after).dropReason_run final given more
  · intro before' after' same
    have there' : ((Audience.opening capacity : Audience μ).run before').Sound capacity :=
      (Audience.sound_opening capacity).run before'
    have final' := (there'.step (.subscribe first)).view?_run (there'.view?_join first) after'
    let outcome (signals : List (Signal μ)) : Reader μ :=
      signals.foldl (Reader.meet (max capacity 1)) { queue := [first] }
    exact final'.trans (congrArg (fun signals => some (outcome signals).view) same)

/-- Two observers with queues of two. The first does not read, and is dropped upon the second
message. The second reads, and leaves later. -/
example :
    let audience := (Audience.opening 2).run
      [.subscribe 0, .subscribe 0, .publish 1, .receive 2, .publish 2, .unsubscribe 2, .publish 3]
    (audience.view? 1).map (fun v => (v.read ++ v.queue, v.dropReason)) = some ([0, 1], some .lagged) ∧
    (audience.view? 2).map (fun v => (v.read ++ v.queue, v.dropReason)) = some ([0, 1, 2], none) := by
  decide

end Bus

end Coordination
