import SkinRelay.Proofs.Batch.Throttle
import SkinRelay.Proofs.TexturesCache.Freshness

/-!
Tasks in the background: the loop of a queue and the sweeper of a cache. Each of them is started when
it is first needed and stopped for good, and whoever starts it looks and starts in one step. So it is
started at most once, however many want to start it at the same time, and never after a stop. The
main result is `tasks_run_once`.
-/

namespace SkinRelay

namespace BackgroundTask

inductive Phase where
  | idle
  | running
  | stopped
  deriving DecidableEq, Repr

/-- What somebody does about a task. -/
inductive Event where
  | start (now : Nat)
  | stop

end BackgroundTask

/-- A task that is started once and stopped for good. -/
structure BackgroundTask where
  phase : BackgroundTask.Phase := .idle
  /-- When it was started. -/
  starts : List Nat := []

namespace BackgroundTask

/-- What comes of an event. Only a task that has been neither started nor stopped is started. -/
def after (task : BackgroundTask) : Option Event → BackgroundTask
  | none => task
  | some (.start now) =>
    match task.phase with
    | .idle => ⟨.running, task.starts ++ [now]⟩
    | .running | .stopped => task
  | some .stop => { task with phase := .stopped }

/-- One move of a task. -/
inductive Goes (task : BackgroundTask) : BackgroundTask → Prop
  | stay : Goes task task
  | start (idle : task.phase = .idle) (now : Nat) : Goes task ⟨.running, task.starts ++ [now]⟩
  | stop (ongoing : task.phase ≠ .stopped) : Goes task ⟨.stopped, task.starts⟩

theorem goes_after (task : BackgroundTask) (event : Option Event) : task.Goes (task.after event) := by
  unfold after
  split
  · exact .stay
  · split
    · exact .start ‹_› _
    · exact .stay
    · exact .stay
  · by_cases ongoing : task.phase = .stopped
    · have same : { task with phase := .stopped } = task := by rw [← ongoing]
      rw [same]
      exact .stay
    · exact .stop ongoing

section

variable {ε : Type} {event? : ε → Option Event} {log : List ε} {task : BackgroundTask}

/-- Whether somebody wanted to start the task before anybody had stopped it. -/
def Begins (event? : ε → Option Event) (log : List ε) : Prop :=
  ∃ before e after now, log = before ++ e :: after ∧ event? e = some (.start now) ∧
    ∀ d ∈ before, event? d ≠ some .stop

theorem begins_concat {e : ε} : Begins event? (log ++ [e]) ↔
    Begins event? log ∨ (∃ now, event? e = some (.start now)) ∧ ∀ d ∈ log, event? d ≠ some .stop := by
  constructor
  · rintro ⟨before, x, after, now, hlog, starts, unstopped⟩
    rcases after.eq_nil_or_concat with rfl | ⟨rest, last, rfl⟩
    · obtain ⟨rfl, heq⟩ := List.append_inj' hlog rfl
      obtain rfl := List.singleton_inj.mp heq
      exact .inr ⟨⟨now, starts⟩, unstopped⟩
    · have hlog' : log ++ [e] = (before ++ x :: rest) ++ [last] := by simpa using hlog
      obtain ⟨rfl, -⟩ := List.append_inj' hlog' rfl
      exact .inl ⟨before, x, rest, now, rfl, starts, unstopped⟩
  · rintro (⟨before, x, after, now, rfl, starts, unstopped⟩ | ⟨⟨now, starts⟩, unstopped⟩)
    · exact ⟨before, x, after ++ [e], now, by simp, starts, unstopped⟩
    · exact ⟨log, e, [], now, rfl, starts, unstopped⟩

/-- What is known of a task after a log. -/
structure Told (event? : ε → Option Event) (log : List ε) (task : BackgroundTask) : Prop where
  once : task.starts.length ≤ 1
  begun : task.starts ≠ [] ↔ Begins event? log
  /-- It runs exactly if it has been started and nobody has stopped it. -/
  running : task.phase = .running ↔ task.starts ≠ [] ∧ ∀ e ∈ log, event? e ≠ some .stop
  stopped : task.phase = .stopped ↔ ∃ e ∈ log, event? e = some .stop

theorem told_nil : Told event? [] {} where
  once := Nat.zero_le 1
  begun := by simp [Begins]
  running := by simp
  stopped := by simp

namespace Told

theorem unstopped (h : Told event? log task) (ongoing : task.phase ≠ .stopped) :
    ∀ e ∈ log, event? e ≠ some .stop :=
  fun e he stops => ongoing (h.stopped.mpr ⟨e, he, stops⟩)

/-- A task that is idle has been neither started nor stopped. -/
theorem idle (h : Told event? log task) (idle : task.phase = .idle) :
    task.starts = [] ∧ ∀ e ∈ log, event? e ≠ some .stop := by
  have unstopped := h.unstopped (by simp [idle])
  refine ⟨?_, unstopped⟩
  by_contra begun
  have running := h.running.mpr ⟨begun, unstopped⟩
  rw [idle] at running
  cases running

/-- What does not move the task adds nothing to what is known of it. -/
theorem keep (h : Told event? log task) {e : ε} (runs : event? e ≠ some .stop)
    (late : (∃ now, event? e = some (.start now)) → task.phase ≠ .idle) :
    Told event? (log ++ [e]) task where
  once := h.once
  begun := by
    rw [begins_concat, ← h.begun]
    refine ⟨.inl, ?_⟩
    rintro (begun | ⟨starts, unstopped⟩)
    · exact begun
    · cases hp : task.phase with
      | idle => exact absurd hp (late starts)
      | running => exact (h.running.mp hp).1
      | stopped =>
        obtain ⟨d, hd, stops⟩ := h.stopped.mp hp
        exact absurd stops (unstopped d hd)
  running := by
    rw [h.running, List.forall_mem_append, List.forall_mem_singleton]
    exact ⟨fun ⟨begun, unstopped⟩ => ⟨begun, unstopped, runs⟩,
      fun ⟨begun, unstopped, _⟩ => ⟨begun, unstopped⟩⟩
  stopped := by
    rw [h.stopped]
    constructor
    · rintro ⟨d, hd, stops⟩
      exact ⟨d, List.mem_append_left _ hd, stops⟩
    · rintro ⟨d, hd, stops⟩
      rcases List.mem_append.mp hd with hold | hnew
      · exact ⟨d, hold, stops⟩
      · obtain rfl := List.mem_singleton.mp hnew
        exact absurd stops runs

theorem start (h : Told event? log task) (idle : task.phase = .idle) {e : ε} {now : Nat}
    (starts : event? e = some (.start now)) :
    Told event? (log ++ [e]) ⟨.running, task.starts ++ [now]⟩ := by
  obtain ⟨hnone, hlog⟩ := h.idle idle
  have unstopped : ∀ d ∈ log ++ [e], event? d ≠ some .stop := by
    rw [List.forall_mem_append, List.forall_mem_singleton, starts]
    exact ⟨hlog, by simp⟩
  constructor
  case once => simp [hnone]
  case begun =>
    rw [begins_concat]
    exact ⟨fun _ => .inr ⟨⟨now, starts⟩, hlog⟩, fun _ => by simp⟩
  case running => exact ⟨fun _ => ⟨by simp, unstopped⟩, fun _ => rfl⟩
  case stopped =>
    constructor
    · intro stopped
      cases stopped
    · rintro ⟨d, hd, stops⟩
      exact absurd stops (unstopped d hd)

theorem stop (h : Told event? log task) {e : ε} (stops : event? e = some .stop) :
    Told event? (log ++ [e]) ⟨.stopped, task.starts⟩ where
  once := h.once
  begun := by
    rw [begins_concat, ← h.begun, stops]
    simp
  running := by
    constructor
    · intro running
      cases running
    · rintro ⟨-, unstopped⟩
      exact absurd stops (unstopped e (by simp))
  stopped := ⟨fun _ => ⟨e, by simp, stops⟩, fun _ => rfl⟩

theorem next (h : Told event? log task) (e : ε) :
    Told event? (log ++ [e]) (task.after (event? e)) := by
  cases he : event? e with
  | none => exact h.keep (by simp [he]) (by simp [he])
  | some event =>
    cases event with
    | start now =>
      cases hp : task.phase with
      | idle =>
        simp only [after, hp]
        exact h.start hp he
      | running | stopped =>
        simp only [after, hp]
        exact h.keep (by simp [he]) (by simp [hp])
    | stop => exact h.stop he

end Told

end

/-- What is true of a task in every run of a system, in which `event?` tells what an entry of the log
does about it. -/
structure Once {σ α : Type} (step : σ → α → σ → Prop) (task : σ → BackgroundTask)
    (event? : σ × α → Option Event) (log : List (σ × α)) (s : σ) : Prop
    extends Told event? log (task s) where
  /-- It goes from idle to running and from either to stopped, and nowhere else. -/
  moves : ∀ e ∈ log, ∀ u, step e.1 e.2 u → (task e.1).Goes (task u)

theorem once_of_history {σ α : Type} {step : σ → α → σ → Prop} {task : σ → BackgroundTask}
    {event? : σ × α → Option Event} {log : List (σ × α)} {s t : σ}
    (follows : ∀ s a u, step s a u → task u = (task s).after (event? (s, a)))
    (fresh : task s = {}) (h : History step s log t) : Once step task event? log t where
  toTold := by
    induction h with
    | start =>
      rw [fresh]
      exact told_nil
    | next _ hs ih =>
      rw [follows _ _ _ hs]
      exact ih.next _
  moves := by
    intro e _ u hs
    rw [follows _ _ _ hs]
    exact goes_after ..

end BackgroundTask

/-! ### The loop of a queue -/

namespace Batch

def Lifecycle.phase : Lifecycle → BackgroundTask.Phase
  | .idle => .idle
  | .running => .running
  | .stopped => .stopped

/-- The loop as a task. -/
def task (b : Batch) : BackgroundTask := ⟨b.lifecycle.phase, b.starts⟩

/-- A call starts the loop just as a start does. -/
def loopEvent? (e : Entry) : Option BackgroundTask.Event :=
  match e.2.2 with
  | .start | .enter .. => some (.start e.2.1)
  | .haltLoop => some .stop
  | _ => none

variable {settings : BatchSettings} {b c : Batch} {now : Nat} {a : Action} {log : List Entry}

theorem start_task (h : b.start now = .ok c) : c.task = b.task.after (some (.start now)) := by
  unfold Batch.start at h
  split at h
  · rename_i running
    cases h
    simp [task, BackgroundTask.after, running, Lifecycle.phase]
  · cases h
  · rename_i idle
    cases h
    simp [task, BackgroundTask.after, idle, Lifecycle.phase]

theorem Moves.task (h : Moves now b a c) : c.task = b.task.after (loopEvent? (b, (now, a))) := by
  cases h with
  | enter =>
    unfold Batch.enter
    split
    · rename_i hs
      have started := start_task hs
      exact started
    · rename_i hs
      unfold Batch.start at hs
      split at hs
      · cases hs
      · rename_i stopped
        simp [Batch.task, loopEvent?, BackgroundTask.after, stopped, Lifecycle.phase, setCall]
      · cases hs
  | push =>
    unfold Batch.push
    split <;> rfl
  | signal =>
    unfold notify
    split <;> rfl
  | start hs => exact start_task hs
  | drain =>
    unfold drainQueue
    split
    · rfl
    · dsimp only
      split <;> rfl
  | _ => rfl

/-- There is a loop exactly if one has been started. -/
theorem absent_iff_of_history (h : History Step (ofSettings settings) log b) :
    b.loop = .absent ↔ b.starts = [] := by
  induction h with
  | start => exact ⟨fun _ => rfl, fun _ => rfl⟩
  | next h hs ih =>
    rcases (moves_of_step? hs).starts (orderly_of_history h) with ⟨hstarts, hloop⟩ |
      ⟨-, hready, hstarts⟩
    · rw [hstarts, hloop]
      exact ih
    · simp [hready, hstarts]

/-- What is true of the loop of every queue. -/
structure LoopOnce (log : List Entry) (b : Batch) : Prop
    extends BackgroundTask.Once Step task loopEvent? log b where
  absent : b.loop = .absent ↔ b.starts = []

theorem loopOnce_of_history (h : History Step (ofSettings settings) log b) : LoopOnce log b where
  toOnce := BackgroundTask.once_of_history (fun _ _ _ hs => (moves_of_step? hs).task) rfl h
  absent := absent_iff_of_history h

end Batch

/-! ### The sweeper of a cache -/

namespace TexturesCache

def Sweeper.phase : Sweeper → BackgroundTask.Phase
  | .notStarted => .idle
  | .running => .running
  | .stopped => .stopped

/-- The sweeper as a task. -/
def task (c : TexturesCache) : BackgroundTask := ⟨c.sweeper.phase, c.sweeps⟩

/-- A lookup starts the sweeper once it has stored an outcome. -/
def Stage.event? (now : Nat) : Stage → Option BackgroundTask.Event
  | .stored _ => some (.start now)
  | _ => none

theorem startSweeper_task (c : TexturesCache) (now : Nat) :
    (c.startSweeper now).task = c.task.after (some (.start now)) := by
  unfold startSweeper
  split <;> rename_i hs <;> simp [task, BackgroundTask.after, hs, Sweeper.phase]

theorem task_of_advance? {c d : TexturesCache} {now : Nat} {uuid : String} {stage next : Stage}
    (h : c.advance? now uuid stage = some (next, d)) : d.task = c.task.after (stage.event? now) := by
  cases stage with
  | looking =>
    simp only [advance?, look] at h
    split at h <;> cases h <;> rfl
  | missed | storing =>
    cases h
    rfl
  | stored =>
    cases h
    exact c.startSweeper_task now
  | fetching | done => cases h

namespace Readers

/-- What an entry of a log does about the sweeper. -/
def sweeperEvent? (e : Entry) : Option BackgroundTask.Event :=
  match e.2.2 with
  | .advance id => (e.1.lookups.get? id).bind fun l => l.stage.event? e.2.1
  | .stopSweeper => some .stop
  | _ => none

variable {lifetime now id : Nat} {uuid : String} {found : Option Fetched} {result : FetchResult}
  {s t : Readers} {a : Nat × Action} {e : Entry} {log : List Entry}

theorem sweeperEvent?_eq_stop : sweeperEvent? e = some .stop ↔ e.2.2 = .stopSweeper := by
  unfold sweeperEvent?
  split
  · rename_i id hadvance
    rw [hadvance]
    constructor
    · intro h
      obtain ⟨l, -, hl⟩ := Option.bind_eq_some_iff.mp h
      unfold Stage.event? at hl
      split at hl <;> cases hl
    · intro h
      cases h
  · simp [*]
  · rename_i hother
    exact ⟨fun h => (by cases h), fun h => absurd h hother⟩

theorem Step.task (h : Step s a t) :
    t.cache.task = s.cache.task.after (sweeperEvent? (s, a)) := by
  obtain ⟨now, a⟩ := a
  cases a with
  | begin id uuid =>
    simp only [Step, step?] at h
    split at h <;> cases h
    rfl
  | advance id =>
    simp only [Step, step?, advance?, Option.bind_eq_some_iff, Option.map_eq_some_iff] at h
    obtain ⟨l, hl, ⟨stage, cache⟩, hadvance, rfl⟩ := h
    simp only [sweeperEvent?, hl, Option.bind_some]
    exact task_of_advance? hadvance
  | reply id reply =>
    simp only [Step, step?] at h
    split at h <;> cases h
    rfl
  | sweep | stopSweeper =>
    cases h
    rfl

theorem sweeperEvent?_of_leaves (h : Leaves e id uuid (.stored found)) :
    sweeperEvent? e = some (.start e.2.1) := by
  simp only [sweeperEvent?, h.1, h.2, Option.bind_some, Stage.event?]

theorem leaves_of_sweeperEvent? (h : sweeperEvent? e = some (.start now)) :
    ∃ id uuid found, Leaves e id uuid (.stored found) := by
  unfold sweeperEvent? at h
  split at h
  · rename_i id hadvance
    obtain ⟨⟨uuid, stage⟩, hat, hstage⟩ := Option.bind_eq_some_iff.mp h
    cases stage with
    | stored found => exact ⟨id, uuid, found, hadvance, hat⟩
    | _ => cases hstage
  · cases h
  · cases h

/-- Whether this lookup has gone on from such a stage. -/
def HasLeft (log : List Entry) (id : Nat) (stage : Option Fetched → Stage) : Prop :=
  ∃ e ∈ log, ∃ uuid found, Leaves e id uuid (stage found)

theorem HasLeft.append {stage : Option Fetched → Stage} (h : HasLeft log id stage)
    (rest : List Entry) : HasLeft (log ++ rest) id stage := by
  obtain ⟨e, he, h⟩ := h
  exact ⟨e, List.mem_append_left rest he, h⟩

section

variable {action : Action}

/-- A lookup that stores an outcome has stored it. -/
theorem Moves.storing (h : Moves now s action t)
    (leaves : Leaves (s, (now, action)) id uuid (.storing found)) :
    t.lookups.get? id = some ⟨uuid, .stored found⟩ := by
  obtain ⟨hadvance, hat⟩ := leaves
  cases h with
  | advance at_ advances =>
    cases hadvance
    cases hat.symm.trans at_
    cases advances with
    | store => exact get?_setLookup_self _
  | _ => cases hadvance

/-- A lookup that has stored an outcome rests, or goes on and starts the sweeper. -/
theorem Moves.resting (h : Moves now s action t)
    (hat : s.lookups.get? id = some ⟨uuid, .stored found⟩) :
    t.lookups.get? id = some ⟨uuid, .stored found⟩ ∨
      Leaves (s, (now, action)) id uuid (.stored found) := by
  have other : ∀ {r : Readers} {i : Nat} {l : Lookup}, r.lookups = s.lookups → id ≠ i →
      (r.setLookup i l).lookups.get? id = some ⟨uuid, .stored found⟩ := by
    intro r i l hr hne
    rw [get?_setLookup_of_ne l hne, hr]
    exact hat
  cases h with
  | begin new =>
    refine .inl (other rfl ?_)
    rintro rfl
    cases new.symm.trans hat
  | @advance i _ _ _ _ at_ advances =>
    by_cases hne : id = i
    · subst hne
      exact .inr ⟨rfl, hat⟩
    · exact .inl (other rfl hne)
  | reply at_ =>
    refine .inl (other rfl ?_)
    rintro rfl
    cases at_.symm.trans hat
  | sweep | stopSweeper => exact .inl hat

/-- Nobody else brings a lookup to where it has stored an outcome. -/
theorem Moves.stored (h : Moves now s action t)
    (hat : t.lookups.get? id = some ⟨uuid, .stored found⟩) :
    s.lookups.get? id = some ⟨uuid, .stored found⟩ ∨
      Leaves (s, (now, action)) id uuid (.storing found) := by
  have moved : ∀ {r : Readers} {i : Nat} {l : Lookup}, r.lookups = s.lookups →
      (r.setLookup i l).lookups.get? id = some ⟨uuid, .stored found⟩ →
      s.lookups.get? id = some ⟨uuid, .stored found⟩ ∨ id = i ∧ l = ⟨uuid, .stored found⟩ := by
    intro r i l hr hget
    by_cases hne : id = i
    · subst hne
      rw [get?_setLookup_self] at hget
      exact .inr ⟨rfl, Option.some.inj hget⟩
    · rw [get?_setLookup_of_ne l hne, hr] at hget
      exact .inl hget
  cases h with
  | begin new =>
    rcases moved rfl hat with hold | ⟨-, hnew⟩
    · exact .inl hold
    · cases hnew
  | advance at_ advances =>
    rcases moved rfl hat with hold | ⟨rfl, hnew⟩
    · exact .inl hold
    · cases hnew
      cases advances with
      | store => exact .inr ⟨rfl, at_⟩
  | @reply _ request _ reply at_ =>
    rcases moved rfl hat with hold | ⟨-, hnew⟩
    · exact .inl hold
    · cases hresult : FetchResult.ofReply request reply <;> simp [hresult, fetched] at hnew
  | sweep | stopSweeper => exact .inl hat

end

/-- How lookups stand to what they have stored: whoever has stored an outcome rests there, or has gone
on from there. -/
structure Stored (log : List Entry) (s : Readers) : Prop where
  stores : ∀ id uuid found, s.lookups.get? id = some ⟨uuid, .stored found⟩ →
    HasLeft log id .storing
  sweeps : ∀ id, HasLeft log id .storing →
    (∃ uuid found, s.lookups.get? id = some ⟨uuid, .stored found⟩) ∨ HasLeft log id .stored

theorem Stored.move {action : Action} (hs : Stored log s) (h : Moves now s action t) :
    Stored (log ++ [(s, (now, action))]) t where
  stores id uuid found hat := by
    rcases h.stored hat with hold | hnew
    · exact (hs.stores id uuid found hold).append _
    · exact ⟨_, List.mem_append_right _ (List.mem_singleton_self _), uuid, found, hnew⟩
  sweeps id hid := by
    obtain ⟨e, he, uuid, found, hleaves⟩ := hid
    rcases List.mem_append.mp he with hold | hnew
    · rcases hs.sweeps id ⟨e, hold, uuid, found, hleaves⟩ with ⟨uuid', found', hat⟩ | hsweeps
      · rcases h.resting hat with hrests | hgoes
        · exact .inl ⟨uuid', found', hrests⟩
        · exact .inr ⟨_, List.mem_append_right _ (List.mem_singleton_self _), uuid', found', hgoes⟩
      · exact .inr (hsweeps.append _)
    · obtain rfl := List.mem_singleton.mp hnew
      exact .inl ⟨uuid, found, h.storing hleaves⟩

theorem stored_of_history (h : History Step (ofLifetime lifetime) log s) : Stored log s := by
  induction h with
  | start =>
    constructor
    · intro id uuid found hat
      cases hat
    · rintro id ⟨e, he, -⟩
      cases he
  | next _ hs ih => exact ih.move (moves_of_step? hs)

theorem phase_eq_running {sweeper : Sweeper} : sweeper.phase = .running ↔ sweeper = .running := by
  cases sweeper <;> simp [Sweeper.phase]

/-- What is true of the sweeper of every cache. -/
structure SweeperOnce (log : List Entry) (s : Readers) : Prop
    extends BackgroundTask.Once Step (fun s => s.cache.task) sweeperEvent? log s where
  /-- It is not started before an outcome has been stored. -/
  stored : s.cache.sweeps ≠ [] → ∃ id, HasLeft log id .storing
  /-- It runs once a lookup is done that has stored an outcome, unless it has been stopped. -/
  swept : ∀ id uuid result, s.lookups.get? id = some ⟨uuid, .done result⟩ →
    HasLeft log id .storing → (∀ e ∈ log, e.2.2 ≠ .stopSweeper) → s.cache.sweeper = .running
  interval : 0 < s.cache.sweepInterval

theorem sweeperOnce_of_history (h : History Step (ofLifetime lifetime) log s) :
    SweeperOnce log s := by
  have told : BackgroundTask.Once Step (fun s => s.cache.task) sweeperEvent? log s :=
    BackgroundTask.once_of_history (fun _ _ _ hs => Step.task hs) rfl h
  refine ⟨told, ?stored, ?swept, ?interval⟩
  case stored =>
    intro hsweeps
    obtain ⟨before, e, after, now, rfl, starts, -⟩ := told.begun.mp hsweeps
    obtain ⟨u, hbefore, -, -⟩ := h.split
    obtain ⟨id, uuid, found, hleaves⟩ := leaves_of_sweeperEvent? starts
    exact ⟨id, ((stored_of_history hbefore).stores id uuid found hleaves.2).append _⟩
  case swept =>
    intro id uuid result hdone hstores unstopped
    have ongoing : ∀ e ∈ log, sweeperEvent? e ≠ some .stop :=
      fun e he stops => unstopped e he (sweeperEvent?_eq_stop.mp stops)
    rcases (stored_of_history h).sweeps id hstores with
      ⟨uuid', found, hat⟩ | ⟨e, he, uuid', found, hleaves⟩
    · cases hdone.symm.trans hat
    · obtain ⟨before, after, u, rfl, -⟩ := h.cut he
      have begun : s.cache.task.starts ≠ [] := told.begun.mpr
        ⟨before, e, after, _, rfl, sweeperEvent?_of_leaves hleaves,
          fun d hd => ongoing d (List.mem_append_left _ hd)⟩
      exact phase_eq_running.mp (told.running.mpr ⟨begun, ongoing⟩)
  case interval => exact Nat.lt_of_lt_of_le (by decide) (Nat.le_max_right _ (Time.millis 10))

end Readers

end TexturesCache

/-! ### Both -/

section

open TexturesCache (Readers)

/-- In every run of a queue its loop is started at most once, and in every run of a cache its sweeper
is: by whoever needs it first, and by nobody once it has been stopped. -/
theorem tasks_run_once {settings : BatchSettings} {lifetime : Nat} {log : List Batch.Entry}
    {b : Batch} {lookups : List Readers.Entry} {s : Readers}
    (h : History Batch.Step (Batch.ofSettings settings) log b)
    (k : History Readers.Step (Readers.ofLifetime lifetime) lookups s) :
    Batch.LoopOnce log b ∧ Readers.SweeperOnce lookups s :=
  ⟨Batch.loopOnce_of_history h, Readers.sweeperOnce_of_history k⟩

/-- A queue that three calls and a start want to run, one of them too late. And a cache without a
lifetime: two lookups have stored their outcomes when the first of them starts the sweeper, and
a third one comes after the stop. -/
theorem tasks_run_once_in_races :
    ∃ log b lookups s, History Batch.Step (Batch.ofSettings {}) log b ∧
      History Readers.Step (Readers.ofLifetime 0) lookups s ∧
      Batch.LoopOnce log b ∧ Readers.SweeperOnce lookups s ∧
      b.starts = [1] ∧ b.lifecycle = .stopped ∧
      s.cache.sweeps = [7] ∧ s.cache.sweeper = .stopped ∧
      s.lookups.entries.map (fun l => l.2.stage) =
        [.done (.ok none), .done (.ok none), .done (.ok none)] := by
  have h : History Batch.Step (Batch.ofSettings {}) _ _ := History.of_replay
    [(1, .enter 0 "Notch" none), (1, .start), (2, .enter 1 "jeb_" (some false)), (2, .push 0),
      (3, .haltLoop), (3, .haltLoop), (3, .enter 2 "Grumm" none), (3, .closeQueue)] rfl
  have k : History Readers.Step (Readers.ofLifetime 0) _ _ := History.of_replay
    [(0, .begin 0 "ely"), (0, .advance 0), (0, .advance 0), (1, .begin 1 "ely"), (1, .advance 1),
      (1, .advance 1), (5, .reply 0 (.ok none)), (5, .reply 1 (.ok none)), (6, .advance 0),
      (6, .advance 1), (7, .advance 1), (8, .advance 0), (9, .stopSweeper), (10, .begin 2 "ely"),
      (10, .advance 2), (10, .advance 2), (11, .reply 2 (.ok none)), (11, .advance 2),
      (11, .advance 2)] rfl
  obtain ⟨loop, sweeper⟩ := tasks_run_once h k
  exact ⟨_, _, _, _, h, k, loop, sweeper, rfl, rfl, rfl, rfl, rfl⟩

end

end SkinRelay
