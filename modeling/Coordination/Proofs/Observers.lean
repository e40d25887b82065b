/-
Coordination.Proofs.Observers — observers keep up with the core.

A scene is a server together with what each observer has read so far. The
events of a scene are all that a server takes part in: requests, reports,
the going on of the engine by itself, and observers that come, read and
leave. What of this reaches the core is the `history` of the scene.

An observer that is still registered has received, read or not, the
snapshot of the time when it came and after it all that was published
since, in order (`Received`). `Proofs/Batch` says that these messages are
the changes of the entities, so the observer knows the entities as they
are.

  §1 Bus       — what an observer gets of several messages.
  §2 Scenes    — `Scene`, `Scene.Event`, `Scene.step`, `Scene.history`, `Scene.Tells`.
  §3 Received  — `Scene.Sound`, kept by every event.
  §4 Replicas  — what registered observers know.
-/
import Coordination.Proofs.Batch
import Coordination.Server.State

namespace Coordination

open Entry (ofEffects)

/-! ## §1 Bus -/

namespace Bus

variable {μ : Type}

namespace Observer

/-- An observer that is registered after a delivery has got the message. -/
theorem registered_deliver {capacity : Nat} {message : μ} {observer : Observer μ}
    (h : (observer.deliver capacity message).registered = true) :
    observer.registered = true ∧
      (observer.deliver capacity message).queue = observer.queue ++ [message] := by
  by_cases hr : observer.registered = true
  · refine ⟨hr, ?_⟩
    unfold deliver at h ⊢
    rw [if_pos hr] at h ⊢
    by_cases room : observer.queue.length < capacity
    · rw [if_pos room]
    · rw [if_neg room, dropFor, if_pos hr] at h
      exact nomatch h
  · rw [deliver_of_not_registered (eq_false_of_ne_true hr)] at h
    exact absurd h hr

/-- Several messages, one after the other. -/
def deliverAll (capacity : Nat) (messages : List μ) (observer : Observer μ) : Observer μ :=
  messages.foldl (fun o message => o.deliver capacity message) observer

theorem id_deliverAll (capacity : Nat) (messages : List μ) (observer : Observer μ) :
    (observer.deliverAll capacity messages).id = observer.id := by
  induction messages generalizing observer with
  | nil => rfl
  | cons message rest ih => exact (ih _).trans (id_deliver capacity message observer)

theorem registered_deliverAll {capacity : Nat} {messages : List μ} {observer : Observer μ}
    (h : (observer.deliverAll capacity messages).registered = true) :
    observer.registered = true ∧
      (observer.deliverAll capacity messages).queue = observer.queue ++ messages := by
  induction messages generalizing observer with
  | nil => exact ⟨h, (List.append_nil _).symm⟩
  | cons message rest ih =>
    obtain ⟨hr, hq⟩ := ih h
    obtain ⟨registered, queue⟩ := registered_deliver hr
    refine ⟨registered, hq.trans ?_⟩
    rw [queue, List.append_assoc]
    rfl

end Observer

def publishAll (bus : Bus μ) (messages : List μ) : Bus μ := messages.foldl publish bus

/-- Observers are numbered from one. -/
def Numbered (bus : Bus μ) : Prop := ∀ o ∈ bus.observers, o.id ≤ bus.observers.length

theorem Numbered.le_length {bus : Bus μ} (h : bus.Numbered) {id : Nat} {o : Observer μ}
    (found : bus.observer? id = some o) : id ≤ bus.observers.length := by
  have same : o.id = id := by simpa using List.find?_some found
  exact same ▸ h o (List.mem_of_find?_eq_some found)

theorem Numbered.onEach {bus : Bus μ} (h : bus.Numbered) {change : Observer μ → Observer μ}
    (keeps : ∀ o, (change o).id = o.id) : (bus.onEach change).Numbered := by
  intro o ho
  obtain ⟨old, hold, rfl⟩ := List.mem_map.1 ho
  rw [keeps, Bus.onEach, List.length_map]
  exact h old hold

theorem Numbered.subscribe {bus : Bus μ} (h : bus.Numbered) (first : μ) :
    (bus.subscribe first).1.Numbered := by
  intro o ho
  show o.id ≤ (bus.observers ++ [_]).length
  rw [List.length_append]
  rcases List.mem_append.1 ho with ho | ho
  · exact Nat.le_succ_of_le (h o ho)
  · obtain rfl := List.mem_singleton.1 ho
    exact Nat.le_refl _

/-- The number of a new observer is not taken. -/
theorem Numbered.observer?_subscribe {bus : Bus μ} (h : bus.Numbered) (first : μ) (id : Nat) :
    (bus.subscribe first).1.observer? id =
      if id = bus.observers.length + 1 then some ⟨id, [first], true, none⟩
      else bus.observer? id := by
  show (bus.observers ++ [_]).find? _ = _
  rw [List.find?_append]
  by_cases hid : id = bus.observers.length + 1
  · have absent : bus.observers.find? (fun o => o.id = id) = none := by
      refine List.find?_eq_none.2 ?_
      intro o ho same
      have low := h o ho
      have high := of_decide_eq_true same
      omega
    rw [absent, if_pos hid, hid]
    simp
  · rw [if_neg hid]
    simp [Ne.symm hid]
    rfl

theorem observers_publishAll (bus : Bus μ) (messages : List μ) :
    (bus.publishAll messages).observers =
      bus.observers.map (.deliverAll bus.capacity messages) := by
  induction messages generalizing bus with
  | nil => exact (List.map_id _).symm
  | cons message rest ih =>
    refine (ih (bus.publish message)).trans ?_
    rw [publish, onEach, List.map_map]
    rfl

theorem Numbered.publishAll {bus : Bus μ} (h : bus.Numbered) (messages : List μ) :
    (bus.publishAll messages).Numbered := by
  rw [Numbered, observers_publishAll]
  exact h.onEach (Observer.id_deliverAll bus.capacity messages)

theorem observer?_publishAll (bus : Bus μ) (messages : List μ) (id : Nat) :
    (bus.publishAll messages).observer? id =
      (bus.observer? id).map (.deliverAll bus.capacity messages) := by
  rw [observer?, observers_publishAll]
  exact observer?_onEach bus _ (Observer.id_deliverAll bus.capacity messages) id

end Bus

namespace Server

theorem core_carryOutAll (server : Server) (effects : List Effect) :
    (server.carryOutAll effects).core = server.core := by
  induction effects generalizing server with
  | nil => rfl
  | cons effect rest ih =>
    refine (ih (server.carryOut effect)).trans ?_
    cases effect <;> rfl

/-- Of all effects, the messages reach the observers. -/
theorem bus_carryOutAll (server : Server) (effects : List Effect) :
    (server.carryOutAll effects).bus = server.bus.publishAll (Effect.messages effects) := by
  induction effects generalizing server with
  | nil => rfl
  | cons effect rest ih =>
    refine (ih (server.carryOut effect)).trans ?_
    cases effect <;> rfl

end Server

/-! ## §2 Scenes -/

/-- A server, and what each observer has read. -/
structure Scene where
  server : Server
  read : Nat → List Message := fun _ => []

/-- What a server takes part in. -/
inductive Scene.Event where
  /-- A value comes in that may be read as a command. -/
  | request (facts : Facts) (request : Json)
  /-- The server attaches to a spec that it checked before. -/
  | connect (spec : Connection.Spec)
  /-- The server stores a dataset that it prepared before. -/
  | register (dataset : Dataset)
  | report (report : Job.Report)
  /-- The engine goes on in whatever way. -/
  | engine (next : Engine)
  | subscribe
  | unsubscribe (id : Nat)
  /-- An observer looks for a message. -/
  | receive (id : Nat)
  | shutDown

namespace Scene

/-- A server that has just been started. -/
def opening (capacity : Nat) (engine : Engine) (capabilities : Capabilities)
    (wording : Wording) (jobIds : Nat → JobId) : Scene :=
  { server :=
      { bus := .ofCapacity capacity
        engine := engine
        capabilities := capabilities
        wording := wording
        jobIds := jobIds } }

/-- A server after a change of its core and the effects of that. -/
def changed (scene : Scene) (core : Core) (effects : List Effect) : Scene :=
  { scene with server := { scene.server with core := core }.carryOutAll effects }

/-- An observer looks for a message, and has read it if there is one. -/
def receive (scene : Scene) (id : Nat) : Scene :=
  match scene.server.bus.receive id with
  | (bus, .message message) =>
    { server := { scene.server with bus := bus }
      read := fun n => if n = id then scene.read n ++ [message] else scene.read n }
  | (bus, _) => { scene with server := { scene.server with bus := bus } }

def step (scene : Scene) : Event → Scene
  | .request facts request => { scene with server := (scene.server.dispatch facts request).1 }
  | .connect spec =>
    let change := scene.server.core.connect spec
    scene.changed change.core change.effects
  | .register dataset => match scene.server.core.registerDataset dataset with
    | .ok change => scene.changed change.core change.effects
    | .error _ => scene
  | .report report => { scene with server := scene.server.report report }
  | .engine next => { scene with server := { scene.server with engine := next } }
  | .subscribe => { scene with server := scene.server.subscribe.1 }
  | .unsubscribe id =>
    { scene with server := { scene.server with bus := scene.server.bus.unsubscribe id } }
  | .receive id => scene.receive id
  | .shutDown => { scene with server := scene.server.shutDown }

/-- What happens to the core upon an event. -/
def occurrences (scene : Scene) : Event → List Occurrence
  | .request facts request => match Command.ofJson? request with
    | some command => [.command (scene.server.context facts) command]
    | none => []
  | .connect spec => [.connect spec]
  | .register dataset => [.register dataset]
  | .report report => if scene.server.listening then [.report report] else []
  | _ => []

def run (scene : Scene) (events : List Event) : Scene := events.foldl step scene

/-- All that happens to the core upon some events. -/
def history (scene : Scene) : List Event → List Occurrence
  | [] => []
  | event :: rest => scene.occurrences event ++ (scene.step event).history rest

/-- Whether an event is the doing of the server and its clients: no observer comes, reads or leaves,
and the server stays up. -/
def Event.ofServer : Event → Bool
  | .request _ _ | .connect _ | .register _ | .report _ | .engine _ => true
  | .subscribe | .unsubscribe _ | .receive _ | .shutDown => false

/-- Something happens to the core of a scene, and what is published goes to all observers. -/
structure Tells (scene : Scene) (more : List Occurrence) (next : Scene) : Prop where
  core : next.server.core = (scene.server.core.run more).1
  bus : next.server.bus =
    scene.server.bus.publishAll (Entry.messages (scene.server.core.run more).2)
  read : next.read = scene.read

variable {scene : Scene}

theorem tells_changed {occurrence : Occurrence} {core : Core} {effects : List Effect}
    (same : (scene.server.core.occur occurrence).1 = core)
    (messages : Entry.messages (scene.server.core.occur occurrence).2 = Effect.messages effects) :
    scene.Tells [occurrence] (scene.changed core effects) where
  core := by
    rw [Core.run_single, same]
    exact Server.core_carryOutAll _ _
  bus := by
    rw [Core.run_single, messages]
    exact Server.bus_carryOutAll _ _
  read := rfl

/-- Whatever the server and its clients do, all that is published goes to all observers. -/
theorem tells_step {event : Event} (h : event.ofServer = true) :
    scene.Tells (scene.occurrences event) (scene.step event) := by
  cases event with
  | request facts request =>
    cases hc : Command.ofJson? request with
    | none =>
      simp only [step, occurrences, Server.dispatch, Core.dispatchValue, hc]
      exact ⟨rfl, rfl, rfl⟩
    | some command =>
      simp only [step, occurrences, Server.dispatch, Core.dispatchValue, hc]
      exact tells_changed rfl (Entry.messages_ofEffects _ _)
  | connect spec => exact tells_changed rfl (Entry.messages_ofEffects _ _)
  | register dataset =>
    cases hr : scene.server.core.registerDataset dataset with
    | ok change =>
      simp only [step, occurrences, hr]
      refine tells_changed ?_ ?_
      · simp only [Core.occur, hr]
      · simp only [Core.occur, hr]
        exact Entry.messages_ofEffects _ _
    | error rejection =>
      simp only [step, occurrences, hr]
      constructor
      · simp only [Core.run_single, Core.occur, hr]
      · simp only [Core.run_single, Core.occur, hr]
        rfl
      · rfl
  | report report =>
    by_cases listening : scene.server.listening = true
    · simp only [step, occurrences, Server.report, if_pos listening]
      exact tells_changed rfl (Entry.messages_ofEffects _ _)
    · simp only [step, occurrences, Server.report, if_neg listening]
      exact ⟨rfl, rfl, rfl⟩
  | engine next => exact ⟨rfl, rfl, rfl⟩
  | subscribe | unsubscribe | receive | shutDown => simp [Event.ofServer] at h

/-! ## §3 Received -/

/-- An observer has received the snapshot of a time in the past, and after it all that was
published since. -/
def Received (past : List Occurrence) (told : List Message) : Prop :=
  ∃ before after, past = before ++ after ∧
    told = .initialState (Core.run {} before).1.snapshot ::
      Entry.messages ((Core.run {} before).1.run after).2

/-- What holds in a scene with a past. -/
structure Sound (scene : Scene) (past : List Occurrence) : Prop where
  core : scene.server.core = (Core.run {} past).1
  numbered : scene.server.bus.Numbered
  unread : ∀ id, scene.server.bus.observers.length < id → scene.read id = []
  received : ∀ id o, scene.server.bus.observer? id = some o → o.registered = true →
    Received past (scene.read id ++ o.queue)

theorem sound_opening (capacity : Nat) (engine : Engine) (capabilities : Capabilities)
    (wording : Wording) (jobIds : Nat → JobId) :
    (opening capacity engine capabilities wording jobIds).Sound [] where
  core := rfl
  numbered := nofun
  unread _ _ := rfl
  received := nofun

theorem Received.append {past : List Occurrence} {told : List Message} (h : Received past told)
    (more : List Occurrence) :
    Received (past ++ more) (told ++ Entry.messages ((Core.run {} past).1.run more).2) := by
  obtain ⟨before, after, rfl, rfl⟩ := h
  refine ⟨before, after ++ more, List.append_assoc _ _ _, ?_⟩
  rw [Core.run_append, Core.run_append, Entry.messages_append]
  rfl

variable {past : List Occurrence}

/-- What is published has been received by those who are registered after it. -/
theorem Sound.tell (h : scene.Sound past) {more : List Occurrence} {next : Scene}
    (tells : scene.Tells more next) : next.Sound (past ++ more) where
  core := by
    rw [Core.run_append, ← h.core]
    exact tells.core
  numbered := by
    rw [tells.bus]
    exact h.numbered.publishAll _
  unread id hid := by
    rw [tells.bus, Bus.observers_publishAll, List.length_map] at hid
    rw [tells.read]
    exact h.unread id hid
  received id o found registered := by
    rw [tells.bus, Bus.observer?_publishAll] at found
    obtain ⟨old, hold, rfl⟩ := Option.map_eq_some_iff.1 found
    obtain ⟨before, queue⟩ := Bus.Observer.registered_deliverAll registered
    rw [tells.read, queue, ← List.append_assoc, h.core]
    exact (h.received id old hold before).append more

/-- A new observer has received the snapshot of now. -/
theorem Sound.subscribe (h : scene.Sound past) : (scene.step .subscribe).Sound past := by
  let first := Message.initialState scene.server.core.snapshot
  refine ⟨h.core, h.numbered.subscribe first, ?_, ?_⟩
  · intro id hid
    have length : (scene.server.bus.subscribe first).1.observers.length =
        scene.server.bus.observers.length + 1 := List.length_append
    have hid : (scene.server.bus.subscribe first).1.observers.length < id := hid
    exact h.unread id (by omega)
  · intro id o found registered
    rw [show (scene.step .subscribe).server.bus = (scene.server.bus.subscribe first).1 from rfl,
      h.numbered.observer?_subscribe first id] at found
    by_cases hid : id = scene.server.bus.observers.length + 1
    · rw [if_pos hid] at found
      obtain rfl := Option.some.inj found
      have unread : scene.read id = [] := h.unread id (by omega)
      refine ⟨past, [], (List.append_nil past).symm, ?_⟩
      show scene.read id ++ [first] = _
      rw [unread, ← h.core]
      rfl
    · rw [if_neg hid] at found
      exact h.received id o found registered

/-- Observers may be cut off. Those that are not stay as they are. -/
theorem Sound.onEach (h : scene.Sound past) {server : Server}
    {change : Bus.Observer Message → Bus.Observer Message}
    (core : server.core = scene.server.core) (bus : server.bus = scene.server.bus.onEach change)
    (keeps : ∀ o, (change o).id = o.id)
    (same : ∀ o, (change o).registered = true → change o = o) :
    Sound { scene with server := server } past where
  core := core.trans h.core
  numbered := by
    rw [bus]
    exact h.numbered.onEach keeps
  unread id hid := by
    rw [bus, Bus.onEach, List.length_map] at hid
    exact h.unread id hid
  received id o found registered := by
    rw [bus, Bus.observer?_onEach _ _ keeps] at found
    obtain ⟨old, hold, rfl⟩ := Option.map_eq_some_iff.1 found
    have kept := same old registered
    rw [kept] at registered ⊢
    exact h.received id old hold registered

theorem Sound.unsubscribe (h : scene.Sound past) (id : Nat) :
    (scene.step (.unsubscribe id)).Sound past := by
  refine h.onEach rfl rfl (fun o => by split <;> rfl) ?_
  intro o registered
  split at registered
  · cases registered
  · rename_i other
    exact if_neg other

theorem Sound.shutDown (h : scene.Sound past) : (scene.step .shutDown).Sound past := by
  refine h.onEach rfl rfl (Bus.Observer.id_dropFor .shutdown) ?_
  intro o registered
  unfold Bus.Observer.dropFor at registered ⊢
  split at registered
  · cases registered
  · contradiction

/-- What is read was received before. -/
theorem Sound.receive (h : scene.Sound past) (id : Nat) : (scene.receive id).Sound past := by
  unfold Scene.receive Bus.receive
  cases hf : scene.server.bus.observer? id with
  | none => exact h
  | some observer =>
    cases hq : observer.queue with
    | nil =>
      cases hr : observer.registered <;>
      · simp only [hq, hr]
        exact h
    | cons next rest =>
      simp only [hq]
      let taken (o : Bus.Observer Message) : Bus.Observer Message := { o with queue := rest }
      refine ⟨h.core, h.numbered.onEach fun o => by split <;> rfl, ?_, ?_⟩
      · intro other hid
        have hid : scene.server.bus.observers.length < other := by
          simpa [Bus.onOne, Bus.onEach] using hid
        have low := h.numbered.le_length hf
        have distinct : other ≠ id := by omega
        exact (if_neg distinct).trans (h.unread other hid)
      · intro other o found registered
        obtain ⟨old, hold, rfl⟩ := Option.map_eq_some_iff.1
          ((Bus.observer?_onOne _ id taken (fun _ => rfl) other).symm.trans found)
        by_cases same : other = id
        · subst same
          obtain rfl := Option.some.inj (hf.symm.trans hold)
          have before := h.received other observer hf
          rw [hq] at before
          simp only [if_true] at registered ⊢
          rw [List.append_assoc]
          exact before registered
        · simp only [if_neg same] at registered ⊢
          exact h.received other old hold registered

/-- Every event is in keeping with the past, and adds to it what happens to the core. -/
theorem Sound.step (h : scene.Sound past) (event : Event) :
    (scene.step event).Sound (past ++ scene.occurrences event) := by
  cases event with
  | request | connect | register | report | engine => exact h.tell (tells_step rfl)
  | subscribe => exact (List.append_nil past).symm ▸ h.subscribe
  | unsubscribe id => exact (List.append_nil past).symm ▸ h.unsubscribe id
  | receive id => exact (List.append_nil past).symm ▸ h.receive id
  | shutDown => exact (List.append_nil past).symm ▸ h.shutDown

theorem Sound.run (h : scene.Sound past) (events : List Event) :
    (scene.run events).Sound (past ++ scene.history events) := by
  induction events generalizing scene past with
  | nil => exact (List.append_nil past).symm ▸ h
  | cons event rest ih =>
    rw [history, ← List.append_assoc]
    exact ih (h.step event)

end Scene

/-! ## §4 Replicas -/

/-- Who heard all messages of a run since a snapshot knows the entities as they are. -/
theorem Core.replica_run {core : Core} (h : core.Sound) (occurrences : List Occurrence) :
    (Replica.ofSnapshot core.snapshot).hearAll (Entry.messages (core.run occurrences).2) =
      .ofSnapshot (core.run occurrences).1.snapshot :=
  (moved_run h occurrences).moves.replica_eq.symm

theorem Scene.Received.replica {past : List Occurrence} {told : List Message}
    (h : Received past told) : ∃ snapshot rest, told = .initialState snapshot :: rest ∧
      (Replica.ofSnapshot snapshot).hearAll rest = .ofSnapshot (Core.run {} past).1.snapshot := by
  obtain ⟨before, after, rfl, rfl⟩ := h
  refine ⟨_, _, rfl, ?_⟩
  rw [Core.run_append]
  exact Core.replica_run (Core.sound_run before) after

/-- An observer that came at any time and is still registered knows the entities of the server: its
first message is a snapshot, and what the others make of that is the state of the core. -/
theorem replicas_agree (capacity : Nat) (engine : Engine) (capabilities : Capabilities)
    (wording : Wording) (jobIds : Nat → JobId) (events : List Scene.Event) {id : Nat}
    {observer : Bus.Observer Message}
    (found : Bus.observer?
      ((Scene.opening capacity engine capabilities wording jobIds).run events).server.bus id =
        some observer) (registered : observer.registered = true) :
    let scene := (Scene.opening capacity engine capabilities wording jobIds).run events
    ∃ snapshot rest, scene.read id ++ observer.queue = .initialState snapshot :: rest ∧
      (Replica.ofSnapshot snapshot).hearAll rest = .ofSnapshot scene.server.core.snapshot := by
  intro scene
  have h := (Scene.sound_opening capacity engine capabilities wording jobIds).run events
  have received := (h.received id observer found registered).replica
  rw [← h.core] at received
  exact received

/-- An observer came, the server attached to a pool, and the observer read its first message. -/
def Scene.attached : Scene :=
  (opening 8 .external ⟨"", "", 0, "", "", []⟩ {} .ofNat).run
    [.subscribe, .request {} (Command.connect (.pool 2)).toJson, .receive 1]

theorem replicas_agree_attached :
    Scene.attached.server.bus.observer? 1 = some ⟨1, [.connected (.pool 2)], true, none⟩ ∧
      ∃ snapshot rest,
        Scene.attached.read 1 ++ [.connected (.pool 2)] = .initialState snapshot :: rest ∧
        (Replica.ofSnapshot snapshot).hearAll rest =
          .ofSnapshot Scene.attached.server.core.snapshot := by
  have found : Scene.attached.server.bus.observer? 1 =
      some ⟨1, [.connected (.pool 2)], true, none⟩ := rfl
  exact ⟨found, replicas_agree 8 _ _ _ _ _ found rfl⟩

end Coordination
