/-
Coordination.Proofs.Courses — an observed script, in whatever way it goes.

The commands of a script are carried out one after the other, but each in
sections, and between two sections the server takes part in other things:
the engine goes on, and its reports are taken in. Nothing says when. A
`Course` is a script on its way, a `Move` is what happens next, and what is
proved of courses holds for all moves.

The observer comes before the first command and reads only when it has been
cut off. Until then all that it heard waits in its queue, so what it finds
is the beginning of what was published (`heard_close`). The replies do not
depend on the moves in this manner: each command is answered in its turn,
as if it had been carried out as a whole at some time (`answers_run`).

  §1 Queues    — a queue that nobody reads.
  §2 Courses   — `Course`, `Move`, `step`, `run`, `close`.
  §3 Messages  — what the observer hears.
  §4 Replies   — what the commands are answered.
-/
import Coordination.Proofs.Concurrency
import Coordination.Proofs.Observers
import Mathlib.Data.List.Induction

namespace Coordination

/-! ## §1 Queues -/

namespace Bus

variable {μ : Type}

namespace Observer

/-- What holds of an observer that does not read: delivery ends only when its queue is full. -/
structure Unread (capacity : Nat) (observer : Observer μ) : Prop where
  bounded : observer.queue.length ≤ capacity
  full : observer.registered = false → observer.queue.length = capacity

variable {capacity : Nat} {observer : Observer μ}

/-- A message is put behind those that are queued, if there is room for it. -/
theorem Unread.deliver (h : observer.Unread capacity) (message : μ) :
    (observer.deliver capacity message).Unread capacity ∧
      (observer.deliver capacity message).queue = (observer.queue ++ [message]).take capacity := by
  have bounded := h.bounded
  by_cases room : observer.registered = true ∧ observer.queue.length < capacity
  · obtain ⟨registered, room⟩ := room
    have delivered : observer.deliver capacity message =
        { observer with queue := observer.queue ++ [message] } := by
      simp [Observer.deliver, registered, room]
    have length : (observer.queue ++ [message]).length ≤ capacity := by
      rw [List.length_append, List.length_singleton]
      omega
    rw [delivered]
    exact ⟨⟨length, by simp [registered]⟩, (List.take_of_length_le length).symm⟩
  · have full : observer.queue.length = capacity := by
      cases registered : observer.registered with
      | false => exact h.full registered
      | true =>
        have noRoom : ¬observer.queue.length < capacity := fun less => room ⟨registered, less⟩
        omega
    have same : (observer.deliver capacity message).queue = observer.queue := by
      unfold Observer.deliver
      split
      · rw [if_neg (by omega), queue_dropFor]
      · rfl
    have length := congrArg List.length same
    refine ⟨⟨by omega, fun _ => by omega⟩, ?_⟩
    rw [same, ← full, List.take_left]

/-- A queue that is not read keeps the first messages that it has room for. -/
theorem Unread.queue_deliverAll (h : observer.Unread capacity) (messages : List μ) :
    (observer.deliverAll capacity messages).queue = (observer.queue ++ messages).take capacity := by
  induction messages generalizing observer with
  | nil =>
    rw [List.append_nil, List.take_of_length_le h.bounded]
    rfl
  | cons message rest ih =>
    obtain ⟨next, queue⟩ := h.deliver message
    show ((observer.deliver capacity message).deliverAll capacity rest).queue = _
    have room : capacity - min capacity (observer.queue ++ [message]).length =
        capacity - (observer.queue ++ [message]).length := by omega
    rw [ih next, queue, List.append_cons observer.queue message rest, List.take_append,
      List.take_take, Nat.min_self, List.length_take, room, ← List.take_append]

theorem deliverAll_of_not_registered (h : observer.registered = false) (messages : List μ) :
    observer.deliverAll capacity messages = observer := by
  induction messages with
  | nil => rfl
  | cons message rest ih =>
    show (observer.deliver capacity message).deliverAll capacity rest = observer
    rw [deliver_of_not_registered h, ih]

theorem registered_dropFor (reason : DropReason) (observer : Observer μ) :
    (observer.dropFor reason).registered = false := by
  unfold dropFor
  split
  · rfl
  · next h => exact eq_false_of_ne_true h

end Observer

theorem publishAll_append (bus : Bus μ) (messages more : List μ) :
    bus.publishAll (messages ++ more) = (bus.publishAll messages).publishAll more :=
  List.foldl_append

/-- What an observer finds that does not read until it has been cut off, whatever is published
then. -/
theorem drain_close_publishAll {bus : Bus μ} {id : Nat} {observer : Observer μ}
    (found : bus.observer? id = some observer) (h : observer.Unread bus.capacity)
    (messages late : List μ) :
    (((bus.publishAll messages).close.publishAll late).drain id).2 =
      (observer.queue ++ messages).take bus.capacity := by
  simp only [drain, observer?_publishAll, observer?_close, found, Option.map_some,
    Option.getD_some]
  rw [Observer.deliverAll_of_not_registered (Observer.registered_dropFor _ _),
    Observer.queue_dropFor]
  exact h.queue_deliverAll messages

end Bus

/-! ## §2 Courses -/

namespace Call.Rest

/-- What is left of a call, unless it is done. -/
def going? : Rest → Option Rest
  | done _ => none
  | rest => some rest

/-- What a call that is done is answered. -/
def answer? : Rest → Option (Except Rejection Reply)
  | done answer => answer
  | _ => none

end Call.Rest

theorem Call.Pending.going?_eq {call : Call} {rest : Rest} (h : Pending call rest) :
    rest.going? = some rest ∧ rest.answer? = none := by
  cases h <;> exact ⟨rfl, rfl⟩

/-- What is published upon an event. -/
def Scene.messages (scene : Scene) (event : Event) : List Message :=
  Entry.messages (scene.server.core.run (scene.occurrences event)).2

namespace Cli

/-- A script on its way. -/
structure Course where
  server : Server
  /-- The values that are still to come, with what each has to be told. -/
  script : List (Facts × Json)
  /-- What is left of the command in hand. -/
  going : Option Call.Rest := none
  /-- What the commands so far were answered. -/
  replies : List (Except Rejection Reply) := []
  /-- What was published since the observer came. -/
  published : List Message := []

namespace Course

/-- What happens next. -/
inductive Move where
  /-- The command in hand goes on by a section, or the next one is taken up. -/
  | goOn
  /-- The server takes part in something else. -/
  | beside (event : Scene.Event) (own : event.ofServer = true)
  /-- Reports are no longer taken in. -/
  | stopListening

/-- A server that an observer has come to, before the first command. -/
def opening (server : Server) (script : List (Facts × Json)) : Course :=
  { server := server.subscribe.1, script := script }

/-- A section of the command in hand. When the command is done, it is answered. -/
def advance (course : Course) (rest : Call.Rest) : Course :=
  let (server, messages, next) := rest.advance course.server
  { course with
    server := server
    going := next.going?
    replies := course.replies ++ next.answer?.toList
    published := course.published ++ messages }

def goOn (course : Course) : Course :=
  match course.going, course.script with
  | some rest, _ => course.advance rest
  | none, (facts, request) :: later =>
    { course with script := later, going := some (.whole (.request facts request)) }
  | none, [] => course

/-- The server takes part in something else than the script. -/
def meet (course : Course) (event : Scene.Event) : Course :=
  let scene : Scene := { server := course.server }
  { course with
    server := (scene.step event).server
    published := course.published ++ scene.messages event }

def step (course : Course) : Move → Course
  | .goOn => course.goOn
  | .beside event _ => course.meet event
  | .stopListening => { course with server := { course.server with listening := false } }

def run (course : Course) (moves : List Move) : Course := moves.foldl step course

/-- Whether all commands have been answered. -/
def Finished (course : Course) : Prop := course.script = [] ∧ course.going = none

/-- The observers are cut off. No command is in hand then, and of a report one message is published
at most, so this does not come between messages that belong together. -/
def close (course : Course) : Course :=
  { course with server := { course.server with bus := course.server.bus.close } }

/-- What the observer finds in its queue. -/
def heard (course : Course) : List Message := (course.server.bus.drain 1).2

end Course

end Cli

/-! ## §3 Messages -/

namespace Server

/-- Of a call, all that is published goes to all observers. -/
theorem bus_call (server : Server) (call : Call) :
    (server.call call).1.bus = server.bus.publishAll (server.call call).2.1 := by
  cases call with
  | request facts value => exact bus_carryOutAll _ _
  | report report =>
    simp only [Server.call, Server.report]
    split
    · exact bus_carryOutAll _ _
    · rfl

end Server

/-- So it is of a section of a call. -/
theorem Call.Rest.bus_advance (server : Server) (rest : Rest) :
    (rest.advance server).1.bus = server.bus.publishAll (rest.advance server).2.1 := by
  cases rest with
  | whole call =>
    rw [advance]
    split
    · rfl
    · rw [server.carryOutAll_knocks]
      rfl
    · exact server.bus_call call
  | prepare facts id params => rfl
  | store id dataset =>
    rw [advance]
    split
    · exact Server.bus_carryOutAll _ _
    · rfl
  | attach spec => exact Server.bus_carryOutAll _ _
  | done answer => rfl

namespace Cli.Course

variable {course : Course}

/-- What is published between two stages of a course goes to all observers. -/
structure Spreads (course next : Course) (messages : List Message) : Prop where
  published : next.published = course.published ++ messages
  bus : next.server.bus = course.server.bus.publishAll messages

theorem Spreads.refl (course : Course) : course.Spreads course [] :=
  ⟨(List.append_nil _).symm, rfl⟩

theorem Spreads.trans {next last : Course} {messages more : List Message}
    (first : course.Spreads next messages) (second : next.Spreads last more) :
    course.Spreads last (messages ++ more) where
  published := by rw [second.published, first.published, List.append_assoc]
  bus := by rw [second.bus, first.bus, Bus.publishAll_append]

theorem spreads_advance (course : Course) (rest : Call.Rest) :
    course.Spreads (course.advance rest) (rest.advance course.server).2.1 :=
  ⟨rfl, rest.bus_advance course.server⟩

theorem spreads_step (course : Course) (move : Move) :
    ∃ messages, course.Spreads (course.step move) messages := by
  cases move with
  | goOn =>
    show ∃ messages, course.Spreads course.goOn messages
    unfold goOn
    split
    · exact ⟨_, course.spreads_advance _⟩
    · exact ⟨[], (List.append_nil _).symm, rfl⟩
    · exact ⟨[], .refl course⟩
  | beside event own =>
    have tells : Scene.Tells { server := course.server } _ _ := Scene.tells_step own
    exact ⟨_, rfl, tells.bus⟩
  | stopListening => exact ⟨[], (List.append_nil _).symm, rfl⟩

theorem spreads_run (course : Course) (moves : List Move) :
    ∃ messages, course.Spreads (course.run moves) messages := by
  induction moves generalizing course with
  | nil => exact ⟨[], .refl course⟩
  | cons move rest ih =>
    obtain ⟨messages, first⟩ := course.spreads_step move
    obtain ⟨more, second⟩ := ih (course.step move)
    exact ⟨messages ++ more, first.trans second⟩

/-- What the observer finds when it has been cut off, and whatever goes on after that: the snapshot
of the start and then what was published, as far as its queue is long. -/
theorem heard_close {server : Server} (alone : server.bus.observers = [])
    (script : List (Facts × Json)) (moves late : List Move) :
    (((opening server script).run moves).close.run late).heard =
      (.initialState server.core.snapshot :: ((opening server script).run moves).published).take
        server.bus.capacity := by
  obtain ⟨messages, before⟩ := (opening server script).spreads_run moves
  obtain ⟨more, after⟩ := ((opening server script).run moves).close.spreads_run late
  have entered : (opening server script).server.bus.observer? 1 =
      some ⟨1, [.initialState server.core.snapshot], true, none⟩ := by
    simp [opening, Server.subscribe, Bus.subscribe, Bus.observer?, alone]
  have unread : Bus.Observer.Unread (opening server script).server.bus.capacity
      ⟨1, [Message.initialState server.core.snapshot], true, none⟩ :=
    ⟨server.bus.capacity_pos, by simp⟩
  have published : ((opening server script).run moves).published = messages := before.published
  rw [heard, after.bus, published]
  show ((((opening server script).run moves).server.bus.close.publishAll more).drain 1).2 = _
  rw [before.bus]
  exact Bus.drain_close_publishAll entered unread messages more

/-! ## §4 Replies -/

/-- An answer to a command is the one that the command would get as a whole at some stage of a
course. -/
def Answers (course : Course) (moves : List Move) (turn : Facts × Json)
    (answer : Except Rejection Reply) : Prop :=
  ∃ earlier, earlier <+: moves ∧
    ((course.run earlier).server.dispatch turn.1 turn.2).2.reply = answer

/-- The command in hand has not taken effect, or its answer is known. -/
inductive InHand (course : Course) (moves : List Move) :
    List (Facts × Json) → Option Call.Rest → Prop where
  | nothing : InHand course moves [] none
  | pending {turn rest} (h : (Call.request turn.1 turn.2).Pending rest) :
    InHand course moves [turn] (some rest)
  | settled {turn rest answer} (h : Answers course moves turn answer)
    (hs : Call.Settled (some answer) rest) : InHand course moves [turn] (some rest)

/-- How far the commands have come at the end of some moves: those before the one in hand have been
answered, those after it are still to come. -/
structure Reaches (course : Course) (moves : List Move) (answered hand : List (Facts × Json))
    (last : Course) : Prop where
  script : course.script = answered ++ hand ++ last.script
  replies : List.Forall₂ (Answers course moves) answered last.replies
  hand : InHand course moves hand last.going

variable {moves : List Move} {turn : Facts × Json} {answered hand : List (Facts × Json)}
  {last : Course}

theorem Answers.append {answer : Except Rejection Reply} (h : Answers course moves turn answer)
    (more : List Move) : Answers course (moves ++ more) turn answer := by
  obtain ⟨earlier, within, same⟩ := h
  exact ⟨earlier, within.trans (List.prefix_append moves more), same⟩

theorem InHand.append {rest : Option Call.Rest} (h : InHand course moves hand rest)
    (more : List Move) : InHand course (moves ++ more) hand rest := by
  cases h with
  | nothing => exact .nothing
  | pending h => exact .pending h
  | settled h hs => exact .settled (h.append more) hs

theorem InHand.eq_nil (h : InHand course moves hand none) : hand = [] := by
  cases h
  rfl

theorem InHand.exists_turn {rest : Call.Rest} (h : InHand course moves hand (some rest)) :
    ∃ turn, hand = [turn] := by
  cases h <;> exact ⟨_, rfl⟩

/-- What is beside the script leaves the commands where they are. -/
theorem Reaches.append (h : Reaches course moves answered hand last) (more : List Move)
    {next : Course} (script : next.script = last.script) (replies : next.replies = last.replies)
    (going : next.going = last.going) : Reaches course (moves ++ more) answered hand next where
  script := by rw [script, h.script]
  replies := by
    rw [replies]
    exact h.replies.imp fun _ _ answers => answers.append more
  hand := by
    rw [going]
    exact h.hand.append more

/-- A command whose answer is known is answered when it is done. -/
theorem Reaches.settled (h : Reaches course moves answered [turn] last)
    {answer : Except Rejection Reply} (known : Answers course moves turn answer)
    {rest : Call.Rest} (settled : Call.Settled (some answer) rest) {next : Course}
    (script : next.script = last.script)
    (replies : next.replies = last.replies ++ rest.answer?.toList)
    (going : next.going = rest.going?) :
    ∃ answered hand, Reaches course moves answered hand next := by
  cases settled with
  | doomed hp ha =>
    refine ⟨answered, [turn], by rw [script, h.script], ?_, going ▸ .settled known (.doomed hp ha)⟩
    rw [replies]
    exact (List.append_nil last.replies).symm ▸ h.replies
  | done =>
    refine ⟨answered ++ [turn], [], ?_, ?_, going ▸ .nothing⟩
    · rw [script, h.script, List.append_nil]
    · rw [replies]
      exact List.rel_append h.replies (.cons known .nil)

/-- A section of the command in hand. -/
theorem Reaches.advance {rest : Call.Rest}
    (h : Reaches course moves answered [turn] (course.run moves))
    (going : (course.run moves).going = some rest) :
    ∃ answered hand,
      Reaches course (moves ++ [.goOn]) answered hand ((course.run moves).advance rest) := by
  let last := course.run moves
  have later : Reaches course (moves ++ [.goOn]) answered [turn] last := h.append _ rfl rfl rfl
  have hand := h.hand
  rw [going] at hand
  cases hand with
  | pending pending =>
    cases effect : rest.takesEffect last.server with
    | true =>
      have known : Answers course (moves ++ [.goOn]) turn
          (last.server.dispatch turn.1 turn.2).2.reply :=
        ⟨moves, List.prefix_append _ _, rfl⟩
      exact later.settled known (pending.effective effect).settled rfl rfl rfl
    | false =>
      obtain ⟨-, pending⟩ := pending.idle effect
      obtain ⟨going, silent⟩ := pending.going?_eq
      refine ⟨answered, [turn], later.script, ?_, ?_⟩
      · show List.Forall₂ _ answered (last.replies ++ (rest.advance last.server).2.2.answer?.toList)
        rw [silent]
        exact (List.append_nil last.replies).symm ▸ later.replies
      · show InHand course _ _ (rest.advance last.server).2.2.going?
        rw [going]
        exact .pending pending
  | settled known settled => exact later.settled (known.append _) settled.idle.2.2 rfl rfl rfl

theorem Reaches.goOn (h : Reaches course moves answered hand (course.run moves)) :
    ∃ answered hand,
      Reaches course (moves ++ [.goOn]) answered hand (course.run moves).goOn := by
  unfold Course.goOn
  split
  · next rest going =>
    obtain ⟨turn, rfl⟩ := InHand.exists_turn (going ▸ h.hand)
    exact h.advance going
  · next facts request later idle next =>
    have none : hand = [] := InHand.eq_nil (idle ▸ h.hand)
    refine ⟨answered, [(facts, request)], ?_, (h.append _ rfl rfl rfl).replies, .pending .whole⟩
    rw [h.script, next, none, List.append_nil, List.append_cons]
  · exact ⟨answered, hand, h.append _ rfl rfl rfl⟩

theorem run_concat (course : Course) (moves : List Move) (move : Move) :
    course.run (moves ++ [move]) = (course.run moves).step move := List.foldl_append

theorem reaches_run (course : Course) (fresh : course.going = none) (silent : course.replies = [])
    (moves : List Move) :
    ∃ answered hand, Reaches course moves answered hand (course.run moves) := by
  induction moves using List.reverseRecOn with
  | nil => exact ⟨[], [], rfl, silent ▸ .nil, fresh ▸ .nothing⟩
  | append_singleton moves move ih =>
    obtain ⟨answered, hand, reaches⟩ := ih
    rw [run_concat]
    cases move with
    | goOn => exact reaches.goOn
    | beside event own => exact ⟨answered, hand, reaches.append _ rfl rfl rfl⟩
    | stopListening => exact ⟨answered, hand, reaches.append _ rfl rfl rfl⟩

/-- When a script is finished each of its commands has been answered, in their order. -/
theorem answers_run (server : Server) (script : List (Facts × Json)) {moves : List Move}
    (finished : ((opening server script).run moves).Finished) :
    List.Forall₂ (Answers (opening server script) moves) script
      ((opening server script).run moves).replies := by
  obtain ⟨answered, hand, reaches⟩ := (opening server script).reaches_run rfl rfl moves
  obtain ⟨all, idle⟩ := finished
  have none : hand = [] := InHand.eq_nil (idle ▸ reaches.hand)
  have whole : script = answered ++ hand ++ ((opening server script).run moves).script :=
    reaches.script
  rw [none, all, List.append_nil, List.append_nil] at whole
  exact whole ▸ reaches.replies

/-- A finished script stays as it is, and nothing more is answered. -/
theorem Finished.step (h : course.Finished) (move : Move) :
    (course.step move).Finished ∧ (course.step move).replies = course.replies := by
  cases move with
  | goOn =>
    have same : course.step .goOn = course := by
      show course.goOn = course
      unfold Course.goOn
      rw [h.1, h.2]
    rw [same]
    exact ⟨h, rfl⟩
  | beside event own => exact ⟨h, rfl⟩
  | stopListening => exact ⟨h, rfl⟩

theorem Finished.run (h : course.Finished) (moves : List Move) :
    (course.run moves).replies = course.replies := by
  induction moves generalizing course with
  | nil => rfl
  | cons move rest ih =>
    obtain ⟨finished, replies⟩ := h.step move
    exact (ih finished).trans replies

end Cli.Course

end Coordination
