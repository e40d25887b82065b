/-
Coordination.Proofs.Concurrency — calls in flight take effect one after the other.

A server works on several calls at a time. Each call is a sequence of
sections, and no other call sees the server in the middle of a section. Most
calls have one. The checks that take long are made outside: a connection is
verified before the section in which the server attaches to it, and a
dataset is prepared between the section that looks whether there is a
connection and the one that stores it. What these checks find depends on the
call alone.

`Linearizes` says what clients may rely on: there is an order of the calls
in which, carried out as a whole one by one, they have the same replies,
publish the same messages and leave the same server. A call that is done
before another begins stays before it.

The order is by the section in which a call takes effect. For a registration
whose dataset will not pass the checks that is the first section, since it
is then that there is a connection; if the dataset passes, it is the last
one, whatever has become of the connection in the meantime.

  §1 Calls     — `Call`, `Server.call`, `Call.Rest`.
  §2 Flights   — `Flight`, `Flight.run`, `Flight.order`, `Linearizes`.
  §3 Sections  — what a section has in common with the whole call.
  §4 Orders    — `Flight.Follows`, kept by every section.
-/
import Coordination.Proofs.Rejections
import Mathlib.Data.List.FinRange
import Mathlib.Logic.Function.Basic

namespace Coordination

/-! ## §1 Calls -/

inductive Call where
  | request (facts : Facts) (value : Json)
  | report (report : Job.Report)

/-- The command of a call, with what it finds outside. -/
def Call.command? : Call → Option (Facts × Command)
  | request facts value => (Command.ofJson? value).map fun command => (facts, command)
  | report _ => none

namespace Server

/-- Commits a change of the core, with its effects. -/
def commit {α : Type} (server : Server) (change : Change α) : Server :=
  { server with core := change.core }.carryOutAll change.effects

/-- Carries out a call as a whole; also gives the messages that are published, and the answer.
Reports are not answered. -/
def call (server : Server) : Call → Server × List Message × Option (Except Rejection Reply)
  | .request facts value =>
    let (next, outcome) := server.dispatch facts value
    (next, Effect.messages outcome.effects, some outcome.reply)
  | .report report =>
    (server.report report,
      if server.listening then Effect.messages (server.core.applyReport report).effects else [],
      none)

/-- Carries out calls one after the other, each as a whole. -/
def callAll (server : Server) : List Call → Server × List Message
  | [] => (server, [])
  | call :: rest =>
    let (next, messages, _) := server.call call
    let (last, more) := next.callAll rest
    (last, messages ++ more)

end Server

namespace Call

/-- What is left of a call. -/
inductive Rest where
  /-- The call has not begun. -/
  | whole (call : Call)
  /-- There was a connection. The dataset is to be prepared. -/
  | prepare (facts : Facts) (id : DatasetId) (params : Dataset.Params)
  /-- The prepared dataset is to be stored. -/
  | store (id : DatasetId) (dataset : Dataset)
  /-- The verified spec is to be attached to. -/
  | attach (spec : Connection.Spec)
  | done (answer : Option (Except Rejection Reply))

namespace Rest

/-- A registration after a look at the connection. -/
def allowed (server : Server) (facts : Facts) (id : DatasetId) (params : Dataset.Params) : Rest :=
  match server.core.requireConnected with
  | .ok _ => prepare facts id params
  | .error rejection => done (some (.error rejection))

/-- A registration after a look at the file. -/
def ready (facts : Facts) (id : DatasetId) (params : Dataset.Params) : Rest :=
  match Dataset.prepare id params facts.file with
  | .ok dataset => store id dataset
  | .error problem => done (some (.error problem.rejection))

/-- A connection after a look at the spec and the address. -/
def verified (facts : Facts) (spec : Connection.Spec) : Rest :=
  match Connection.verify spec facts.unreachable with
  | .ok _ => attach spec
  | .error problem => done (some (.error problem.rejection))

/-- Carries out the next section of a call; also gives the messages that are published, and what is
left of the call. -/
def advance (server : Server) : Rest → Server × List Message × Rest
  | whole call => match call.command? with
    | some (facts, .registerDataset id params) => (server, [], allowed server facts id params)
    | some (facts, .connect spec) =>
      (server.carryOutAll (Core.knocks (.connect spec)), [], verified facts spec)
    | _ => ((server.call call).1, (server.call call).2.1, done (server.call call).2.2)
  | prepare facts id params => (server, [], ready facts id params)
  | store id dataset => match server.core.registerDataset dataset with
    | .ok change => (server.commit change, Effect.messages change.effects,
        done (some (.ok (.changed (.datasetCreated id change.value)))))
    | .error rejection => (server, [], done (some (.error rejection)))
  | attach spec =>
    (server.commit (server.core.connect spec), Effect.messages (server.core.connect spec).effects,
      done (some (.ok (.connection (.connected spec)))))
  | done answer => (server, [], done answer)

/-- Whether it is in its next section that a call takes effect. -/
def takesEffect (server : Server) : Rest → Bool
  | whole call => match call.command? with
    | some (facts, .registerDataset id params) =>
      !server.core.connection.isConnected || (Dataset.prepare id params facts.file matches .error _)
    | some (facts, .connect spec) => (Connection.verify spec facts.unreachable matches .error _)
    | _ => true
  | store _ _ | attach _ => true
  | prepare _ _ _ | done _ => false

end Rest

end Call

/-! ## §2 Flights -/

/-- A server, the calls that are in flight, by number, and what was published meanwhile. -/
structure Flight (n : Nat) where
  server : Server
  calls : Fin n → Call.Rest
  published : List Message := []

namespace Flight

variable {n : Nat}

/-- Calls that have not begun. -/
def start (server : Server) (calls : Fin n → Call) : Flight n :=
  ⟨server, fun i => .whole (calls i), []⟩

/-- One call carries out its next section. -/
def step (flight : Flight n) (i : Fin n) : Flight n :=
  let (server, messages, rest) := (flight.calls i).advance flight.server
  ⟨server, Function.update flight.calls i rest, flight.published ++ messages⟩

/-- The calls of a list carry out a section each, in that order. -/
def run (flight : Flight n) (schedule : List (Fin n)) : Flight n := schedule.foldl step flight

/-- The calls in the order in which they take effect. -/
def order (flight : Flight n) : List (Fin n) → List (Fin n)
  | [] => []
  | i :: rest =>
    (if (flight.calls i).takesEffect flight.server then [i] else []) ++ (flight.step i).order rest

end Flight

/-- A call of an order is answered as if the calls before it had been carried out as a whole. -/
def Answered {n : Nat} (server : Server) (calls : Fin n → Call) (order : List (Fin n))
    (i : Fin n) (answer : Option (Except Rejection Reply)) : Prop :=
  ∃ before after, order = before ++ i :: after ∧
    ((server.callAll (before.map calls)).1.call (calls i)).2.2 = answer

/-- An order of calls explains what came of their sections. -/
structure Linearizes {n : Nat} (server : Server) (calls : Fin n → Call)
    (schedule : List (Fin n)) (order : List (Fin n)) : Prop where
  nodup : order.Nodup
  /-- Only calls that have begun are in the order. -/
  begun : ∀ i ∈ order, i ∈ schedule
  /-- All calls that are done are in the order, and have the same answer in it. -/
  answered : ∀ i answer, ((Flight.start server calls).run schedule).calls i = .done answer →
    Answered server calls order i answer
  /-- If all calls are done, all are in the order. -/
  complete : (∀ i, ∃ answer, ((Flight.start server calls).run schedule).calls i = .done answer) →
    order.Perm (List.finRange n)
  outcome : ((Flight.start server calls).run schedule).server =
    (server.callAll (order.map calls)).1
  published : ((Flight.start server calls).run schedule).published =
    (server.callAll (order.map calls)).2
  /-- A call that is done before another begins stays before it. -/
  in_time : ∀ earlier later, schedule = earlier ++ later → ∀ i j answer,
    ((Flight.start server calls).run earlier).calls i = .done answer → j ∉ earlier → j ∈ order →
    [i, j].Sublist order

/-! ## §3 Sections -/

namespace Server

variable {server : Server}

theorem carryOutAll_knocks (server : Server) (command : Command) :
    server.carryOutAll (Core.knocks command) = server :=
  carryOutAll_probes (fun _ => Core.knocks_probe) server

/-- A call with a command is as the core carries it out. -/
theorem call_of_command {call : Call} {facts : Facts} {command : Command}
    (h : call.command? = some (facts, command)) {outcome : Outcome}
    (hd : server.core.dispatch (server.context facts) command = outcome) :
    server.call call =
      ({ server with core := outcome.core }.carryOutAll outcome.effects,
        Effect.messages outcome.effects, some outcome.reply) := by
  cases call with
  | report report => cases h
  | request facts' value =>
    obtain ⟨command', hr, heq⟩ := Option.map_eq_some_iff.1 h
    obtain ⟨rfl, rfl⟩ := Prod.mk.inj heq
    simp only [call, dispatch, Core.dispatchValue, hr, hd]

end Server

namespace Call

/-- What is left of a call that has not taken effect. -/
inductive Pending (call : Call) : Rest → Prop where
  | whole : Pending call (.whole call)
  | prepare {facts id params dataset} (h : call.command? = some (facts, .registerDataset id params))
    (hp : Dataset.prepare id params facts.file = .ok dataset) :
    Pending call (.prepare facts id params)
  | store {facts id params dataset} (h : call.command? = some (facts, .registerDataset id params))
    (hp : Dataset.prepare id params facts.file = .ok dataset) :
    Pending call (.store id dataset)
  | attach {facts spec} (h : call.command? = some (facts, .connect spec))
    (hv : Connection.verify spec facts.unreachable = .ok ()) : Pending call (.attach spec)

/-- What is left of a call that has taken effect, given its answer. -/
inductive Settled (answer : Option (Except Rejection Reply)) : Rest → Prop where
  /-- The dataset will not pass the checks. -/
  | doomed {facts id params problem} (hp : Dataset.prepare id params facts.file = .error problem)
    (ha : answer = some (.error problem.rejection)) : Settled answer (.prepare facts id params)
  | done : Settled answer (.done answer)

/-- In this section a call takes effect: it does what the whole call does. -/
structure Rest.Effective (server : Server) (call : Call) (rest : Rest) : Prop where
  outcome : (rest.advance server).1 = (server.call call).1
  published : (rest.advance server).2.1 = (server.call call).2.1
  settled : Settled (server.call call).2.2 (rest.advance server).2.2

/-- This section does nothing that others could see. -/
structure Rest.Idle (server : Server) (rest : Rest) : Prop where
  outcome : (rest.advance server).1 = server
  published : (rest.advance server).2.1 = []

section

variable {server : Server} {call : Call} {facts : Facts} {rest : Rest}

theorem Rest.Effective.of_dispatch {command : Command} {outcome : Outcome}
    (h : call.command? = some (facts, command))
    (hd : server.core.dispatch (server.context facts) command = outcome)
    (hserver : (rest.advance server).1 =
      { server with core := outcome.core }.carryOutAll outcome.effects)
    (hpublished : (rest.advance server).2.1 = Effect.messages outcome.effects)
    (hsettled : Settled (some outcome.reply) (rest.advance server).2.2) :
    Effective server call rest := by
  have hcall := Server.call_of_command h hd
  exact ⟨hcall ▸ hserver, hcall ▸ hpublished, hcall ▸ hsettled⟩

/-- All calls but two kinds have one section. -/
theorem one_section (call : Call) :
    (∃ facts id params, call.command? = some (facts, .registerDataset id params)) ∨
    (∃ facts spec, call.command? = some (facts, .connect spec)) ∨
    ∀ server, (Rest.whole call).takesEffect server = true ∧ (Rest.whole call).advance server =
      ((server.call call).1, (server.call call).2.1, .done (server.call call).2.2) := by
  simp only [Rest.takesEffect, Rest.advance]
  cases call.command? with
  | none => exact .inr (.inr fun _ => ⟨rfl, rfl⟩)
  | some found =>
    obtain ⟨facts, command⟩ := found
    cases command with
    | registerDataset id params => exact .inl ⟨facts, id, params, rfl⟩
    | connect spec => exact .inr (.inl ⟨facts, spec, rfl⟩)
    | _ => exact .inr (.inr fun _ => ⟨rfl, rfl⟩)

section Register

variable {id : DatasetId} {params : Dataset.Params}
  (h : call.command? = some (facts, .registerDataset id params))

include h

theorem advance_register (server : Server) : (Rest.whole call).advance server =
    (server, [], Rest.allowed server facts id params) := by
  rw [Rest.advance, h]

/-- A registration takes effect at the look at the connection if there is none, or if its dataset
will not pass the checks. -/
theorem register_effective (ht : (Rest.whole call).takesEffect server = true) :
    Rest.Effective server call (.whole call) := by
  have hadvance := advance_register h server
  cases hc : server.core.requireConnected with
  | error rejection =>
    refine .of_dispatch h (Core.dispatch_register_unconnected hc) ?_ ?_ ?_ <;> rw [hadvance]
    · rfl
    · rfl
    · rw [Rest.allowed, hc]
      exact .done
  | ok _ =>
    cases hp : Dataset.prepare id params facts.file with
    | error problem =>
      refine .of_dispatch h (Core.dispatch_register_unprepared hc hp) ?_ ?_ ?_ <;> rw [hadvance]
      · rfl
      · rfl
      · rw [Rest.allowed, hc]
        exact .doomed hp rfl
    | ok dataset =>
      -- connected, with a dataset that passes: the call takes effect only when it is stored
      exfalso
      unfold Core.requireConnected at hc
      simp [Rest.takesEffect, h, hp] at ht
      simp [ht] at hc

/-- If there is a connection and the dataset passes the checks, the look at the connection only
lets the registration go on. -/
theorem register_idle (ht : (Rest.whole call).takesEffect server = false) :
    Rest.Idle server (.whole call) ∧ Pending call ((Rest.whole call).advance server).2.2 := by
  have hadvance := advance_register h server
  cases hp : Dataset.prepare id params facts.file with
  | error problem => simp [Rest.takesEffect, h, hp] at ht
  | ok dataset =>
    have hc : server.core.connection.isConnected = true := by
      simpa [Rest.takesEffect, h, hp] using ht
    refine ⟨⟨congrArg Prod.fst hadvance, congrArg (·.2.1) hadvance⟩, ?_⟩
    simp only [hadvance, Rest.allowed, Core.requireConnected, hc, if_true]
    exact .prepare h hp

end Register

section Connect

variable {spec : Connection.Spec} (h : call.command? = some (facts, .connect spec))

include h

theorem advance_connect (server : Server) : (Rest.whole call).advance server =
    (server, [], Rest.verified facts spec) := by
  rw [Rest.advance, h]
  exact congrArg (·, [], Rest.verified facts spec) (server.carryOutAll_knocks _)

/-- A connection takes effect at the look at its address if it is not verified there. -/
theorem connect_effective (ht : (Rest.whole call).takesEffect server = true) :
    Rest.Effective server call (.whole call) := by
  have hadvance := advance_connect h server
  cases hv : Connection.verify spec facts.unreachable with
  | ok _ => simp [Rest.takesEffect, h, hv] at ht
  | error problem =>
    refine .of_dispatch h (Core.dispatch_connect_unverified hv) ?_ ?_ ?_ <;> rw [hadvance]
    · exact (server.carryOutAll_knocks (.connect spec)).symm
    · exact (Effect.messages_knocks (.connect spec)).symm
    · rw [Rest.verified, hv]
      exact .done

theorem connect_idle (ht : (Rest.whole call).takesEffect server = false) :
    Rest.Idle server (.whole call) ∧ Pending call ((Rest.whole call).advance server).2.2 := by
  have hadvance := advance_connect h server
  cases hv : Connection.verify spec facts.unreachable with
  | error problem => simp [Rest.takesEffect, h, hv] at ht
  | ok _ =>
    refine ⟨⟨congrArg Prod.fst hadvance, congrArg (·.2.1) hadvance⟩, ?_⟩
    rw [hadvance, Rest.verified, hv]
    exact .attach h hv

end Connect

theorem Pending.effective (h : Pending call rest) (ht : rest.takesEffect server = true) :
    Rest.Effective server call rest := by
  cases h with
  | whole =>
    obtain ⟨facts, id, params, h⟩ | ⟨facts, spec, h⟩ | hone := one_section call
    · exact register_effective h ht
    · exact connect_effective h ht
    · obtain ⟨-, hadvance⟩ := hone server
      refine ⟨?_, ?_, ?_⟩ <;> rw [hadvance]
      exact .done
  | prepare h hp => cases ht
  | @store facts id params dataset h hp =>
    cases hr : server.core.registerDataset dataset with
    | ok change =>
      have hd := hr ▸ server.core.dispatch_register_prepared (server.context facts) hp
      refine .of_dispatch h hd ?_ ?_ ?_ <;> simp only [Rest.advance, hr]
      · rfl
      · exact .done
    | error rejection =>
      have hd := hr ▸ server.core.dispatch_register_prepared (server.context facts) hp
      refine .of_dispatch h hd ?_ ?_ ?_ <;> simp only [Rest.advance, hr]
      · rfl
      · rfl
      · exact .done
  | @attach facts spec h hv =>
    -- the address was looked at before
    refine .of_dispatch h (Core.dispatch_connect_verified hv) ?_ ?_ .done
    · show _ = List.foldl Server.carryOut _ (_ ++ _)
      rw [List.foldl_append]
      exact congrArg (List.foldl Server.carryOut · _) (Server.carryOutAll_knocks _ _).symm
    · rw [Effect.messages_append, Effect.messages_knocks]
      rfl

theorem Pending.idle (h : Pending call rest) (ht : rest.takesEffect server = false) :
    Rest.Idle server rest ∧ Pending call (rest.advance server).2.2 := by
  cases h with
  | whole =>
    obtain ⟨facts, id, params, h⟩ | ⟨facts, spec, h⟩ | hone := one_section call
    · exact register_idle h ht
    · exact connect_idle h ht
    · rw [(hone server).1] at ht
      cases ht
  | prepare h hp =>
    refine ⟨⟨rfl, rfl⟩, ?_⟩
    simp only [Rest.advance, Rest.ready, hp]
    exact .store h hp
  | store h hp => cases ht
  | attach h hv => cases ht

/-- A call that has taken effect does nothing any more that others could see. -/
theorem Settled.idle {answer : Option (Except Rejection Reply)} (h : Settled answer rest) :
    rest.takesEffect server = false ∧ Rest.Idle server rest ∧
      Settled answer (rest.advance server).2.2 := by
  cases h with
  | doomed hp ha =>
    refine ⟨rfl, ⟨rfl, rfl⟩, ?_⟩
    simp only [Rest.advance, Rest.ready, hp, ← ha]
    exact .done
  | done => exact ⟨rfl, ⟨rfl, rfl⟩, .done⟩

end

end Call

/-! ## §4 Orders -/

theorem Server.callAll_concat (server : Server) (before : List Call) (last : Call) :
    server.callAll (before ++ [last]) =
      (((server.callAll before).1.call last).1,
        (server.callAll before).2 ++ ((server.callAll before).1.call last).2.1) := by
  induction before generalizing server with
  | nil => simp [callAll]
  | cons call rest ih => simp only [List.cons_append, callAll, ih, List.append_assoc]

section

variable {n : Nat} {server : Server} {calls : Fin n → Call} {order : List (Fin n)}

theorem Answered.mem {i : Fin n} {answer : Option (Except Rejection Reply)}
    (h : Answered server calls order i answer) : i ∈ order := by
  obtain ⟨before, after, rfl, -⟩ := h
  exact List.mem_append_right _ (List.mem_cons_self ..)

theorem Answered.append {i : Fin n} {answer : Option (Except Rejection Reply)}
    (h : Answered server calls order i answer) (more : List (Fin n)) :
    Answered server calls (order ++ more) i answer := by
  obtain ⟨before, after, rfl, ha⟩ := h
  exact ⟨before, after ++ more, by simp, ha⟩

/-- How a call stands after the calls of an order took effect. -/
inductive Stands (server : Server) (calls : Fin n → Call) (order : List (Fin n)) (i : Fin n)
    (rest : Call.Rest) : Prop where
  | pending (h : i ∉ order) (hp : (calls i).Pending rest)
  | settled {answer} (h : Answered server calls order i answer) (hs : Call.Settled answer rest)

/-- What others do leaves a call as it stands. -/
theorem Stands.append {i j : Fin n} {rest : Call.Rest} (h : Stands server calls order i rest)
    (hne : i ≠ j) : Stands server calls (order ++ [j]) i rest := by
  cases h with
  | pending h hp => exact .pending (by simp [h, hne]) hp
  | settled h hs => exact .settled (h.append [j]) hs

/-- A flight is where the calls of an order, carried out as a whole, would have led to. -/
structure Flight.Follows (server : Server) (calls : Fin n → Call) (flight : Flight n)
    (order : List (Fin n)) : Prop where
  nodup : order.Nodup
  outcome : flight.server = (server.callAll (order.map calls)).1
  published : flight.published = (server.callAll (order.map calls)).2
  stands : ∀ i, Stands server calls order i (flight.calls i)

namespace Flight

variable {flight : Flight n}

theorem Follows.start (server : Server) (calls : Fin n → Call) :
    Follows server calls (start server calls) [] where
  nodup := List.nodup_nil
  outcome := rfl
  published := rfl
  stands _ := .pending List.not_mem_nil .whole

/-- A section in which nothing takes effect leaves the order as it is. -/
theorem Follows.step_idle (h : Follows server calls flight order) {i : Fin n}
    (hi : (flight.calls i).Idle flight.server)
    (hs : Stands server calls order i ((flight.calls i).advance flight.server).2.2) :
    Follows server calls (flight.step i) order where
  nodup := h.nodup
  outcome := hi.outcome.trans h.outcome
  published := by
    simp only [step]
    rw [hi.published, List.append_nil, h.published]
  stands j := by
    by_cases hj : j = i
    · subst hj
      simpa only [step, Function.update_self] using hs
    · simpa only [step, Function.update_of_ne hj] using h.stands j

/-- A section in which a call takes effect puts it at the end of the order. -/
theorem Follows.step_effective (h : Follows server calls flight order) {i : Fin n}
    (hi : i ∉ order) (he : (flight.calls i).Effective flight.server (calls i)) :
    Follows server calls (flight.step i) (order ++ [i]) where
  nodup := h.nodup.append (List.nodup_singleton i) (List.disjoint_singleton.2 hi)
  outcome := by
    rw [List.map_append, List.map_singleton, Server.callAll_concat, ← h.outcome]
    exact he.outcome
  published := by
    rw [List.map_append, List.map_singleton, Server.callAll_concat, ← h.outcome, ← h.published]
    exact congrArg (flight.published ++ ·) he.published
  stands j := by
    by_cases hj : j = i
    · subst hj
      have hanswered : Answered server calls (order ++ [j]) j
          (flight.server.call (calls j)).2.2 := ⟨order, [], rfl, by rw [h.outcome]⟩
      refine .settled hanswered ?_
      simpa only [step, Function.update_self] using he.settled
    · simpa only [step, Function.update_of_ne hj] using (h.stands j).append hj

theorem Follows.step (h : Follows server calls flight order) (i : Fin n) :
    Follows server calls (flight.step i)
      (order ++ if (flight.calls i).takesEffect flight.server then [i] else []) := by
  -- only a pending call can be put in the order, so none is put there twice
  cases h.stands i with
  | pending hi hp =>
    cases ht : (flight.calls i).takesEffect flight.server with
    | true => exact h.step_effective hi (hp.effective ht)
    | false =>
      obtain ⟨hidle, hpending⟩ := hp.idle ht
      simpa using h.step_idle hidle (.pending hi hpending)
  | settled ha hs =>
    obtain ⟨ht, hidle, hsettled⟩ := hs.idle
    rw [ht]
    simpa using h.step_idle hidle (.settled ha hsettled)

theorem Follows.run (h : Follows server calls flight order) (schedule : List (Fin n)) :
    Follows server calls (flight.run schedule) (order ++ flight.order schedule) := by
  induction schedule generalizing flight order with
  | nil => simpa [Flight.run, Flight.order] using h
  | cons i rest ih => simpa [Flight.run, Flight.order, List.append_assoc] using ih (h.step i)

theorem order_append (flight : Flight n) (earlier later : List (Fin n)) :
    flight.order (earlier ++ later) =
      flight.order earlier ++ (flight.run earlier).order later := by
  induction earlier generalizing flight with
  | nil => rfl
  | cons i rest ih => simp only [List.cons_append, order, ih, List.append_assoc, run, List.foldl]

theorem mem_of_mem_order {flight : Flight n} {schedule : List (Fin n)} {i : Fin n}
    (h : i ∈ flight.order schedule) : i ∈ schedule := by
  induction schedule generalizing flight with
  | nil => exact h
  | cons j rest ih =>
    rw [order, List.mem_append] at h
    obtain h | h := h
    · split at h
      · rw [List.mem_singleton.1 h]
        exact List.mem_cons_self ..
      · cases h
    · exact List.mem_cons_of_mem j (ih h)

/-- A call that is done has its place in the order, and has the answer that it has there. -/
theorem Follows.answered (h : Follows server calls flight order) {i : Fin n}
    {answer : Option (Except Rejection Reply)} (hi : flight.calls i = .done answer) :
    Answered server calls order i answer := by
  have hs := h.stands i
  rw [hi] at hs
  cases hs with
  | pending _ hp => cases hp
  | settled ha hs =>
    cases hs
    exact ha

end Flight

/-- However the sections of calls follow on each other, there is an order of the calls that
explains it. -/
theorem linearizable (server : Server) (calls : Fin n → Call) (schedule : List (Fin n)) :
    ∃ order, Linearizes server calls schedule order := by
  have hrun := (Flight.Follows.start server calls).run schedule
  rw [List.nil_append] at hrun
  refine ⟨(Flight.start server calls).order schedule, ?_⟩
  exact {
    nodup := hrun.nodup
    begun := fun _ hi => Flight.mem_of_mem_order hi
    answered := fun i answer hi => hrun.answered hi
    complete := by
      intro hdone
      refine (List.perm_ext_iff_of_nodup hrun.nodup (List.nodup_finRange n)).2 fun i => ?_
      obtain ⟨answer, hi⟩ := hdone i
      exact ⟨fun _ => List.mem_finRange i, fun _ => (hrun.answered hi).mem⟩
    outcome := hrun.outcome
    published := hrun.published
    in_time := by
      rintro earlier later rfl i j answer hi hj hmem
      have hbefore : i ∈ (Flight.start server calls).order earlier :=
        (((Flight.Follows.start server calls).run earlier).answered hi).mem
      rw [Flight.order_append, List.mem_append] at hmem
      have hafter := hmem.resolve_left fun h => hj (Flight.mem_of_mem_order h)
      rw [Flight.order_append]
      exact (List.singleton_sublist.2 hbefore).append (List.singleton_sublist.2 hafter) }

/-- The connection is lost while a dataset is prepared. The registration comes too late. -/
example (server : Server) (facts : Facts) :
    (Flight.start { server with core := { connection := .connected (.pool 2) } } fun
      | (0 : Fin 2) => .request facts (Command.registerDataset (.ofNat 1)
        (.memory ⟨.uint8, [8, 8], [4, 4]⟩)).toJson
      | 1 => .request facts Command.disconnect.toJson).order [0, 1, 0, 0] = [1, 0] := by
  rfl

end

end Coordination
