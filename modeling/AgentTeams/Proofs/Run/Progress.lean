import AgentTeams.Proofs.Run.Activity
import AgentTeams.Run.Basic

/-! Progress: what a run keeps while events come in, and which events it shows in the end. Those
who have spoken have spoken, a run that has begun has begun, and the first event that ends a run is
the last one that counts. -/
namespace AgentTeams

namespace Run

namespace Event

/-- The events that end a run. -/
def isEnd : Event → Bool
  | completed | failed _ | stopped | timedOut => true
  | started | message _ | awaitingInput => false

/-- Who speaks in an event. -/
def source? : Event → Option String
  | message source => some source
  | started | awaitingInput | completed | failed _ | stopped | timedOut => none

end Event

variable {run before after later : Run} {event : Event} {events : List Event}
  {names : List String}

theorem apply_of_terminal (ended : run.status.isTerminal = true) : run.apply event = run :=
  if_pos ended

theorem apply_of_running (running : run.status.isTerminal = false) :
    run.apply event = run.step event :=
  if_neg (by simp [running])

theorem status_step_ne_created : (run.step event).status ≠ .created := by
  cases event <;> simp [step]

theorem isTerminal_step : (run.step event).status.isTerminal = event.isEnd := by
  cases event <;> rfl

theorem contains_step {name : String} (spoken : run.activity.contains name = true) :
    (run.step event).activity.contains name = true := by
  cases event with
  | message source =>
    by_cases user : source = NodeId.user
    · simpa [step, user] using spoken
    · simp [step, user, spoken]
  | started | awaitingInput | completed | failed | stopped | timedOut => exact spoken

/-- The latest of a team, to which the user does not belong, is the one who speaks now. -/
theorem latestAmong?_step (noUser : NodeId.user ∉ names) :
    (run.step event).activity.latestAmong? names =
      (event.source?.filter (· ∈ names)).or (run.activity.latestAmong? names) := by
  cases event with
  | message source =>
    by_cases user : source = NodeId.user
    · simp [step, Event.source?, user, noUser, Option.filter_some]
    · by_cases member : source ∈ names <;>
        simp [step, Event.source?, user, member, Activity.latestAmong?_record, Option.filter_some]
  | started | awaitingInput | completed | failed | stopped | timedOut => rfl

/-- A run and what came of it. -/
structure Precedes (before after : Run) : Prop where
  spoken : ∀ name, before.activity.contains name = true → after.activity.contains name = true
  begun : before.status ≠ .created → after.status ≠ .created
  ended : before.status.isTerminal = true → after = before

theorem Precedes.refl (run : Run) : run.Precedes run := ⟨fun _ => id, id, fun _ => rfl⟩

theorem Precedes.trans (first : before.Precedes after) (second : after.Precedes later) :
    before.Precedes later where
  spoken name spoken := second.spoken name (first.spoken name spoken)
  begun begun := second.begun (first.begun begun)
  ended ended := by
    have same := first.ended ended
    exact (second.ended (same ▸ ended)).trans same

theorem precedes_apply : run.Precedes (run.apply event) := by
  cases ended : run.status.isTerminal with
  | true =>
    rw [apply_of_terminal ended]
    exact .refl run
  | false =>
    rw [apply_of_running ended]
    exact ⟨fun _ => contains_step, fun _ => status_step_ne_created, by simp [ended]⟩

theorem precedes_extend (run : Run) (events : List Event) : run.Precedes (run.extend events) := by
  induction events generalizing run with
  | nil => exact .refl run
  | cons event rest ih => exact precedes_apply.trans (ih (run.apply event))

theorem extend_append (run : Run) (events others : List Event) :
    run.extend (events ++ others) = (run.extend events).extend others :=
  List.foldl_append

/-- A run ends exactly when one of the events ends it. -/
theorem isTerminal_extend (run : Run) (events : List Event) :
    (run.extend events).status.isTerminal =
      (run.status.isTerminal || events.any Event.isEnd) := by
  induction events generalizing run with
  | nil => simp [extend]
  | cons event rest ih =>
    refine (ih (run.apply event)).trans ?_
    cases ended : run.status.isTerminal with
    | true => simp [apply_of_terminal ended, ended]
    | false => simp [apply_of_running ended, isTerminal_step]

/-- The last of some names that speaks before a run ends. -/
def lastSpeaker? (names : List String) (events : List Event) : Option String :=
  (((events.takeWhile (!·.isEnd)).filterMap Event.source?).filter (· ∈ names)).getLast?

theorem lastSpeaker?_cons_of_end (isEnd : event.isEnd = true) :
    lastSpeaker? names (event :: events) = none := by
  simp [lastSpeaker?, isEnd]

theorem lastSpeaker?_cons (onward : event.isEnd = false) : lastSpeaker? names (event :: events) =
    (lastSpeaker? names events).or (event.source?.filter (· ∈ names)) := by
  unfold lastSpeaker?
  rw [List.takeWhile_cons_of_pos (by simp [onward])]
  cases source : event.source? with
  | none => simp [source]
  | some name =>
    by_cases member : name ∈ names <;>
      simp [source, member, List.getLast?_cons, Option.filter_some]

/-- The latest of a team is the one who spoke last while the run went on. -/
theorem latestAmong?_extend (run : Run) (events : List Event) (noUser : NodeId.user ∉ names)
    (running : run.status.isTerminal = false) :
    (run.extend events).activity.latestAmong? names =
      (lastSpeaker? names events).or (run.activity.latestAmong? names) := by
  induction events generalizing run with
  | nil => rfl
  | cons event rest ih =>
    change ((run.apply event).extend rest).activity.latestAmong? names = _
    rw [apply_of_running running]
    cases isEnd : event.isEnd with
    | false =>
      rw [ih (run.step event) (isTerminal_step.trans isEnd), latestAmong?_step noUser,
        lastSpeaker?_cons isEnd, Option.or_assoc]
    | true =>
      -- The rest of the events come too late.
      have final := precedes_extend (run.step event) rest
      rw [final.ended (isTerminal_step.trans isEnd), latestAmong?_step noUser,
        lastSpeaker?_cons_of_end isEnd]
      cases event with
      | started | message | awaitingInput => contradiction
      | completed | failed | stopped | timedOut => rfl

end Run

end AgentTeams
