/-
Coordination.Proofs.Transcript — what an observed script prints.

Each command is answered with a line. When all are answered and the
observers have been cut off, the observer of the script finds what it heard
in its queue, and the queue is only as long as the settings say. The first
message for which there was no room has ended delivery. So what is printed
is the beginning of the stream, and it is the whole stream just if there was
room for every message. That holds in whatever way the script goes
(`Proofs/Courses`), so also in the one that the program takes here, where
the engine gets its turn after every command.

  §1 Turns        — a command that is carried out without a break.
  §2 Sessions     — all commands, and the wait for live jobs.
  §3 Transcripts  — the lines that are printed.
-/
import Coordination.Cli.Program
import Coordination.Host.Disk
import Coordination.Proofs.Courses

namespace Coordination

/-! ## §1 Turns -/

namespace Call.Rest

/-- How many sections are left of a call at most. -/
def size : Rest → Nat
  | whole _ => 3
  | prepare _ _ _ => 2
  | store _ _ | attach _ => 1
  | done _ => 0

theorem size_advance (server : Server) (rest : Rest) :
    (rest.advance server).2.2.size ≤ rest.size - 1 := by
  cases rest with
  | whole call =>
    rw [advance]
    split
    · show (allowed _ _ _ _).size ≤ 2
      unfold allowed
      split <;> simp [size]
    · show (verified _ _).size ≤ 2
      unfold verified
      split <;> simp [size]
    · exact Nat.zero_le 2
  | prepare facts id params =>
    show (ready _ _ _).size ≤ 1
    unfold ready
    split <;> simp [size]
  | store id dataset =>
    rw [advance]
    split <;> simp [size]
  | attach spec => exact Nat.le_refl 0
  | done answer => exact Nat.le_refl 0

end Call.Rest

namespace Cli.Course

theorem run_append (course : Course) (moves more : List Move) :
    course.run (moves ++ more) = (course.run moves).run more := List.foldl_append

/-- Some moves lead from one stage of a course to another, whatever is published on the way. -/
def Leads (course next : Course) : Prop :=
  ∃ moves published, course.run moves = { next with published := published }

variable {course : Course}

theorem Leads.refl (course : Course) : course.Leads course := ⟨[], course.published, rfl⟩

/-- What was published before makes no difference to what happens. -/
theorem Leads.trans {next last : Course} (first : course.Leads next)
    (second : ∀ published, { next with published := published }.Leads last) :
    course.Leads last := by
  obtain ⟨moves, published, ran⟩ := first
  obtain ⟨more, all, ran'⟩ := second published
  exact ⟨moves ++ more, all, by rw [run_append, ran, ran']⟩

theorem leads_settled {answer : Option (Except Rejection Reply)} {rest : Call.Rest}
    (settled : Call.Settled answer rest) (course : Course) :
    { course with going := rest.going?, replies := course.replies ++ rest.answer?.toList }.Leads
      { course with going := none, replies := course.replies ++ answer.toList } := by
  cases settled with
  | @doomed facts id params problem hp ha =>
    have ready : Call.Rest.ready facts id params = .done answer := by
      rw [Call.Rest.ready, hp, ha]
    refine ⟨[.goOn], course.published ++ [], ?_⟩
    show Course.mk _ _ (Call.Rest.ready facts id params).going?
      (_ ++ _ ++ (Call.Rest.ready facts id params).answer?.toList) _ = _
    rw [ready]
    simp [Call.Rest.going?, Call.Rest.answer?]
  | done => exact .refl _

/-- A command that has not taken effect does so as a whole if nothing comes between. -/
theorem leads_pending {call : Call} (n : Nat) {rest : Call.Rest} (size : rest.size ≤ n)
    (pending : call.Pending rest) (course : Course) :
    { course with going := some rest }.Leads
      { course with
        server := (course.server.call call).1
        going := none
        replies := course.replies ++ (course.server.call call).2.2.toList } := by
  induction n generalizing rest course with
  | zero => cases pending <;> simp [Call.Rest.size] at size
  | succ n ih =>
    have first : { course with going := some rest }.Leads (course.advance rest) :=
      ⟨[.goOn], _, rfl⟩
    refine first.trans fun published => ?_
    cases effect : rest.takesEffect course.server with
    | true =>
      obtain ⟨server, -, settled⟩ := pending.effective effect
      rw [← server]
      exact leads_settled settled
        { course with server := (rest.advance course.server).1, published := published }
    | false =>
      obtain ⟨⟨server, -⟩, pending⟩ := pending.idle effect
      obtain ⟨going, silent⟩ := pending.going?_eq
      have smaller : (rest.advance course.server).2.2.size ≤ n := by
        have less := rest.size_advance course.server
        omega
      have same : { course.advance rest with published := published } =
          { course with
            going := some (rest.advance course.server).2.2
            published := published } := by
        simp [advance, server, going, silent]
      rw [same]
      exact ih smaller pending { course with published := published }

/-- A command is carried out as a whole, and the next one is still to come. -/
theorem leads_turn {facts : Facts} {request : Json} {later : List (Facts × Json)}
    (idle : course.going = none) (next : course.script = (facts, request) :: later) :
    course.Leads { course with
      server := (course.server.dispatch facts request).1
      script := later
      replies := course.replies ++ [(course.server.dispatch facts request).2.reply] } := by
  have taken : course.Leads { course with
      script := later, going := some (.whole (.request facts request)) } := by
    refine ⟨[.goOn], course.published, ?_⟩
    show course.goOn = _
    simp only [goOn, idle, next]
  refine taken.trans fun published => ?_
  have begun : Call.Pending (.request facts request) (.whole (.request facts request)) := .whole
  have whole := leads_pending 3 (Nat.le_refl _) begun
    { course with script := later, published := published }
  rw [idle]
  exact whole

/-- The reports of some time come in one by one. -/
theorem leads_reports (course : Course) (reports : List Job.Report) :
    course.Leads { course with server := reports.foldl Server.report course.server } := by
  induction reports generalizing course with
  | nil => exact .refl course
  | cons report rest ih =>
    have first : course.Leads { course with server := course.server.report report } :=
      ⟨[.beside (.report report) rfl], _, rfl⟩
    exact first.trans fun published =>
      ih { course with server := course.server.report report, published := published }

/-- Some time goes by. -/
theorem leads_pass (course : Course) (ms : Nat) :
    course.Leads { course with server := course.server.pass ms } := by
  let engine := (course.server.engine.advance ms).1
  have first : course.Leads { course with server := { course.server with engine := engine } } :=
    ⟨[.beside (.engine engine) rfl], _, rfl⟩
  exact first.trans fun published => leads_reports
    { course with server := { course.server with engine := engine }, published := published } _

/-! ## §2 Sessions -/

end Cli.Course

/-- Carries out commands in turn, each told what it has to be told. Also gives what comes of
them. -/
def Server.takeTurns (server : Server) : List (Facts × Json) → Server × List Outcome
  | [] => (server, [])
  | (facts, request) :: rest =>
    let (next, outcome) := server.dispatch facts request
    let (last, outcomes) := next.settle.takeTurns rest
    (last, outcome :: outcomes)

namespace Cli.Course

/-- All commands are carried out, and the engine gets its turn after each. -/
theorem leads_turns (course : Course) (idle : course.going = none) :
    course.Leads { course with
      server := (course.server.takeTurns course.script).1
      script := []
      replies := course.replies ++ (course.server.takeTurns course.script).2.map (·.reply) } := by
  obtain ⟨server, script, going, replies, published⟩ := course
  obtain rfl : going = none := idle
  induction script generalizing server replies published with
  | nil =>
    refine ⟨[], published, ?_⟩
    simp [run, Server.takeTurns]
  | cons turn rest ih =>
    obtain ⟨facts, request⟩ := turn
    refine (leads_turn rfl rfl).trans fun published => ?_
    refine (leads_pass _ 0).trans fun published => ?_
    refine (ih _ _ published).trans fun published => ⟨[], published, ?_⟩
    simp [run, Server.takeTurns, Server.settle]

/-- The live jobs are waited for. -/
theorem leads_await (course : Course) (more polls : Nat) :
    course.Leads { course with server := Cli.await course.server more polls } := by
  induction polls generalizing course with
  | zero =>
    unfold Cli.await
    split
    · exact course.leads_pass more
    · exact .refl course
  | succ polls ih =>
    unfold Cli.await
    split
    · exact (course.leads_pass pollInterval).trans fun published =>
        ih { course with server := course.server.pass pollInterval, published := published }
    · exact .refl course

theorem leads_shutDown (course : Course) :
    course.Leads { course with
      server :=
        { course.server with engine := course.server.engine.shutDown, listening := false } } :=
  ⟨[.beside (.engine course.server.engine.shutDown) rfl, .stopListening], _, rfl⟩

/-- In one of the ways in which a script may go, the engine gets its turn after each command, the
live jobs are waited for, and the server is shut down. -/
theorem exists_session (server : Server) (script : List (Facts × Json)) (settleMs : Nat) :
    ∃ moves, let last := (opening server script).run moves
      let ended := server.subscribe.1.takeTurns script
      last.Finished ∧ last.replies = ended.2.map (·.reply) ∧
      last.close.server = (settleFor ended.1 settleMs).shutDown := by
  let ended := server.subscribe.1.takeTurns script
  let settled := settleFor ended.1 settleMs
  have session : (opening server script).Leads {
      server := { settled with engine := settled.engine.shutDown, listening := false }
      script := []
      replies := ended.2.map (·.reply) } := by
    refine ((opening server script).leads_turns rfl).trans fun published => ?_
    refine (leads_await _ (settleMs % pollInterval) (settleMs / pollInterval)).trans fun _ => ?_
    exact leads_shutDown _
  obtain ⟨moves, published, ran⟩ := session
  refine ⟨moves, ?_⟩
  dsimp only
  rw [ran]
  exact ⟨⟨rfl, rfl⟩, rfl, rfl⟩

end Cli.Course

/-! ## §3 Transcripts -/

namespace Cli

open Config (Settings)

/-- An answer on the wire. -/
def answerToJson : Except Rejection Reply → Json
  | .ok reply => reply.toJson
  | .error rejection => rejection.toJson

theorem toJson_eq (outcome : Outcome) : outcome.toJson = answerToJson outcome.reply := by
  rw [Outcome.toJson]
  cases outcome.reply <;> rfl

/-- The replies, and after them some messages, each in a line. -/
def Course.lines (course : Course) (messages : List Message) : List String :=
  (course.replies.map answerToJson ++ messages.map Message.toJson).map Json.compact

/-- What is printed when the observers have been cut off. -/
def Course.printed (course : Course) : List String := course.lines course.heard

/-- All that an observer could hear. -/
def Course.stream (course : Course) : List Message :=
  .initialState ({} : Core).snapshot :: course.published

variable {m : Type → Type} [Monad m] [LawfulMonad m]

/-- What commands have to be told does not depend on how the server is. -/
theorem performAll_eq (host : Host m) (server : Server) (commands : List Json) :
    performAll host server commands = do
      let facts ← commands.mapM (factsOf host)
      let (last, outcomes) := server.takeTurns (facts.zip commands)
      return (last, outcomes.map Outcome.toJson) := by
  induction commands generalizing server with
  | nil => simp [performAll, Server.takeTurns]
  | cons request rest ih => simp [performAll, Server.takeTurns, ih]

/-- The lines of a script that is carried out on a server in one of the ways in which it may go. -/
theorem exists_transcript (server : Server) (script : List (Facts × Json)) (settleMs : Nat) :
    ∃ moves, ((Course.opening server script).run moves).Finished ∧
      ((Course.opening server script).run moves).close.printed =
        let (done, outcomes) := server.subscribe.1.takeTurns script
        let heard := ((settleFor done settleMs).shutDown.bus.drain 1).2
        (outcomes.map Outcome.toJson ++ heard.map Message.toJson).map Json.compact := by
  obtain ⟨moves, finished, replies, closed⟩ := Course.exists_session server script settleMs
  have replied : ((Course.opening server script).run moves).close.replies =
      (server.subscribe.1.takeTurns script).2.map (·.reply) := replies
  have answers (outcomes : List Outcome) :
      (outcomes.map (·.reply)).map answerToJson = outcomes.map Outcome.toJson := by
    rw [List.map_map]
    exact List.map_congr_left fun outcome _ => (toJson_eq outcome).symm
  refine ⟨moves, finished, ?_⟩
  rw [Course.printed, Course.lines, Course.heard, closed, replied, answers]

/-- An observed script prints one reply for each command, in the order of the commands, and after
them the stream from its beginning, as far as the observer's queue is long. The whole stream is
printed just if there is room in the queue for all that is published.

This holds in whatever way the script goes until the observers are cut off, and whatever goes on
after that. The program lets it go in one of these ways, whatever it finds out for the commands. -/
theorem transcript_stops_at_full_queue (host : Host m) (setup : Setup) (settings : Settings) :
    (∀ script moves late,
      let course := Course.opening (serverFor setup settings) script
      let shut := course.run moves
      let capacity := max settings.queueCapacity 1
      shut.Finished →
      List.Forall₂ (course.Answers moves) script shut.replies ∧
      (shut.close.run late).printed = shut.lines (shut.stream.take capacity) ∧
      ((shut.close.run late).printed = shut.lines shut.stream ↔
        shut.published.length < capacity)) ∧
    ∀ settleMs commands, ∃ schedule : List Facts → List Course.Move,
      let shut (facts : List Facts) : Course :=
        (Course.opening (serverFor setup settings) (facts.zip commands)).run (schedule facts)
      (∀ facts, (shut facts).Finished) ∧
      replay host (serverFor setup settings) true settleMs commands = do
        let facts ← commands.mapM (factsOf host)
        return (shut facts).close.printed := by
  refine ⟨?_, ?_⟩
  · intro script moves late course shut capacity finished
    have heard : (shut.close.run late).heard = shut.stream.take capacity :=
      Course.heard_close rfl script moves late
    have ended : shut.close.Finished := finished
    have replies : (shut.close.run late).replies = shut.replies := ended.run late
    have printed : (shut.close.run late).printed = shut.lines (shut.stream.take capacity) := by
      rw [Course.printed, heard, Course.lines, replies, Course.lines]
    refine ⟨Course.answers_run _ script finished, printed, ?_⟩
    rw [printed]
    constructor
    · intro same
      have lengths := congrArg List.length same
      simp only [Course.lines, Course.stream, List.length_map, List.length_append,
        List.length_take, List.length_cons] at lengths
      omega
    · intro room
      have whole : shut.stream.length ≤ capacity := room
      rw [List.take_of_length_le whole]
  · intro settleMs commands
    choose schedule finished printed using fun facts : List Facts =>
      exists_transcript (serverFor setup settings) (facts.zip commands) settleMs
    refine ⟨schedule, finished, ?_⟩
    simp only [replay, if_true, performAll_eq, bind_assoc, pure_bind]
    exact bind_congr fun facts => congrArg pure (printed facts).symm

/-- Where the program runs in the samples below. -/
def Setup.desk : Setup := ⟨⟨some "/home", 4⟩, "/home", .ofNat, {}⟩

/-- A server is to attach to a pool. -/
def Course.attachment (settings : Settings) : Course :=
  .opening (serverFor .desk settings) [({}, (Command.connect (.pool 2)).toJson)]

/-- The default queue has room for all that is published, also if the engine is replaced between the
two sections of the command and a report comes in when the observers have been cut off. -/
theorem transcript_whole_attachment :
    let settings := Settings.default Setup.desk.around
    let course := Course.attachment settings
    let shut := course.run [.goOn, .goOn, .beside (.engine .external) rfl, .goOn]
    shut.Finished ∧
      (shut.close.run [.beside (.report ⟨.ofNat 1, .started⟩) rfl]).printed =
        shut.lines [.initialState ({} : Core).snapshot, .connected (.pool 2)] ∧
      ∃ moves, (course.run moves).Finished ∧
        ((replay (Disk.host fun _ => none) (serverFor .desk settings) true 5000
          [(Command.connect (.pool 2)).toJson]).run {}).1 = (course.run moves).close.printed := by
  intro settings course shut
  obtain ⟨prints, program⟩ :=
    transcript_stops_at_full_queue (Disk.host fun _ => none) .desk settings
  have finished : shut.Finished := ⟨rfl, rfl⟩
  have stream : shut.stream = [.initialState ({} : Core).snapshot, .connected (.pool 2)] := rfl
  obtain ⟨-, -, whole⟩ := prints _ _ [.beside (.report ⟨.ofNat 1, .started⟩) rfl] finished
  refine ⟨finished, ?_, ?_⟩
  · rw [← stream]
    exact whole.2 (by decide +kernel)
  · obtain ⟨schedule, each, printed⟩ := program 5000 [(Command.connect (.pool 2)).toJson]
    refine ⟨schedule [{}], each [{}], ?_⟩
    rw [printed]
    rfl

/-- The files of a script that attaches to a pool, and of settings with a queue for one message. -/
def crampedFiles : Disk where
  nodes := #[.directory 0 [("c.ini".toList, 1), ("s.json".toList, 2)],
    .file ⟨"[events]\nsubscriber_queue_capacity = 1\n".toUTF8, 0⟩,
    .file ⟨(Json.arr [(Command.connect (.pool 2)).toJson]).compact.toUTF8, 0⟩]

/-- In a queue for one message there is no room beside the snapshot: the server attaches to a pool
and publishes that, but the observer's lines do not have it. -/
theorem transcript_misses_attachment :
    let course := Course.attachment { Settings.default Setup.desk.around with queueCapacity := 1 }
    let shut := course.run [.goOn, .goOn, .goOn]
    shut.Finished ∧
    shut.stream = [.initialState ({} : Core).snapshot, .connected (.pool 2)] ∧
    ((run (Disk.host fun _ => none) .desk
        ["replay", "s.json", "--observe", "--config", "c.ini"]).run crampedFiles).1 =
      ⟨0, unlines (shut.lines [.initialState ({} : Core).snapshot]), ""⟩ ∧
    shut.lines [.initialState ({} : Core).snapshot] ≠ shut.lines shut.stream :=
  ⟨⟨rfl, rfl⟩, rfl, by decide +kernel, by decide +kernel⟩

end Cli

end Coordination
