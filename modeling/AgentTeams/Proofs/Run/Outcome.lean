import AgentTeams.Proofs.Run.Progress

/-! Outcome: what a run comes to, told from its events alone. The events up to the first one that
ends the run are those that count; who has spoken, where the run is and what went wrong follow from
them one by one. -/
namespace AgentTeams.Run

namespace Event

/-- Where an event puts a run that has not ended. -/
def status : Event → Status
  | started | message _ => .active
  | awaitingInput => .awaitingInput
  | completed => .complete
  | failed _ => .error
  | stopped => .stopped
  | timedOut => .timeout

/-- What went wrong, if the event tells of a failure. -/
def error? : Event → Option String
  | failed error => some error
  | started | message _ | awaitingInput | completed | stopped | timedOut => none

end Event

/-- The events that count: all up to the first one that ends the run. -/
def counted (events : List Event) : List Event :=
  events.takeWhile (!·.isEnd) ++ (events.find? Event.isEnd).toList

/-- The agents that speak in some events, as often as they do. -/
def speakers (events : List Event) : List String :=
  (events.filterMap Event.source?).filter (· ≠ NodeId.user)

variable {run : Run} {event : Event} {events : List Event}

theorem counted_cons (onward : event.isEnd = false) (rest : List Event) :
    counted (event :: rest) = event :: counted rest := by
  simp [counted, onward]

theorem counted_cons_of_end (isEnd : event.isEnd = true) (rest : List Event) :
    counted (event :: rest) = [event] := by
  simp [counted, isEnd]

theorem counted_counted : counted (counted events) = counted events := by
  induction events with
  | nil => rfl
  | cons event rest ih =>
    cases isEnd : event.isEnd with
    | false => rw [counted_cons isEnd, counted_cons isEnd, ih]
    | true => rw [counted_cons_of_end isEnd, counted_cons_of_end isEnd]

/-- A run that has not ended takes one step for each event that counts, and none for the others. -/
theorem extend_eq_foldl_step (run : Run) (events : List Event)
    (running : run.status.isTerminal = false) :
    run.extend events = (counted events).foldl step run := by
  induction events generalizing run with
  | nil => rfl
  | cons event rest ih =>
    change (run.apply event).extend rest = _
    rw [apply_of_running running]
    cases isEnd : event.isEnd with
    | false =>
      rw [ih (run.step event) (isTerminal_step.trans isEnd), counted_cons isEnd]
      rfl
    | true =>
      rw [(precedes_extend (run.step event) rest).ended (isTerminal_step.trans isEnd),
        counted_cons_of_end isEnd]
      rfl

theorem status_step : (run.step event).status = event.status := by
  cases event <;> rfl

theorem activity_step :
    (run.step event).activity = (speakers [event]).foldl Activity.record run.activity := by
  cases event with
  | message source =>
    by_cases user : source = NodeId.user <;> simp [step, speakers, Event.source?, user]
  | started | awaitingInput | completed | failed | stopped | timedOut => rfl

theorem error_step : (run.step event).error = event.error?.or run.error := by
  cases event <;> rfl

theorem status_foldl_step (run : Run) (events : List Event) :
    (events.foldl step run).status = (events.getLast?.map Event.status).getD run.status := by
  induction events generalizing run with
  | nil => rfl
  | cons event rest ih =>
    refine (ih (run.step event)).trans ?_
    rw [status_step, List.getLast?_cons]
    cases rest.getLast? <;> rfl

theorem activity_foldl_step (run : Run) (events : List Event) :
    (events.foldl step run).activity = (speakers events).foldl Activity.record run.activity := by
  induction events generalizing run with
  | nil => rfl
  | cons event rest ih =>
    have parts : speakers (event :: rest) = speakers [event] ++ speakers rest := by
      rw [← List.singleton_append, speakers, List.filterMap_append, List.filter_append]
      rfl
    refine (ih (run.step event)).trans ?_
    rw [activity_step, parts, List.foldl_append]

theorem error_foldl_step (run : Run) (events : List Event) :
    (events.foldl step run).error = (events.filterMap Event.error?).getLast?.or run.error := by
  induction events generalizing run with
  | nil => rfl
  | cons event rest ih =>
    refine (ih (run.step event)).trans ?_
    rw [error_step, ← Option.or_assoc]
    cases failure : event.error? with
    | none => simp [failure]
    | some error => simp [failure, List.getLast?_cons]

theorem isEnd_of_ending {ending : Event} (ends : events.find? Event.isEnd = some ending) :
    ending.isEnd = true :=
  List.find?_some ends

theorem speakers_counted :
    speakers (counted events) = speakers (events.takeWhile (!·.isEnd)) := by
  unfold speakers counted
  cases ends : events.find? Event.isEnd with
  | none => simp
  | some ending =>
    have silent : ending.source? = none := by
      have isEnd := isEnd_of_ending ends
      cases ending with
      | started | message | awaitingInput => contradiction
      | completed | failed | stopped | timedOut => rfl
    simp [silent]

theorem filterMap_error?_onward :
    (events.takeWhile (!·.isEnd)).filterMap Event.error? = [] := by
  apply List.filterMap_eq_nil_iff.mpr
  intro event member
  have onward : event.isEnd = false := by
    simpa using List.all_eq_true.mp List.all_takeWhile event member
  cases event with
  | failed => contradiction
  | started | message | awaitingInput | completed | stopped | timedOut => rfl

theorem lastError_counted : ((counted events).filterMap Event.error?).getLast? =
    (events.find? Event.isEnd).bind Event.error? := by
  rw [counted, List.filterMap_append, filterMap_error?_onward, List.nil_append]
  cases events.find? Event.isEnd with
  | none => rfl
  | some ending => cases failure : ending.error? <;> simp [failure]

theorem counted_of_endless (endless : events.find? Event.isEnd = none) :
    counted events = events := by
  have onward : ∀ event ∈ events, (!event.isEnd) = true := by simpa using endless
  have whole : (events ++ []).takeWhile (!·.isEnd) = events ++ [] :=
    List.takeWhile_append_of_pos onward
  simpa [counted, endless] using whole

/-- Where a run is after some events: where the first one that ends it puts it; without such an
event it waits if the last one says so, and is active once there was any. -/
def statusAfter (events : List Event) : Status :=
  match events.find? Event.isEnd, events.getLast? with
  | some ending, _ => ending.status
  | none, none => .created
  | none, some .awaitingInput => .awaitingInput
  | none, some _ => .active

theorem status_counted :
    ((counted events).getLast?.map Event.status).getD .created = statusAfter events := by
  unfold statusAfter
  cases ends : events.find? Event.isEnd with
  | some ending => simp [counted, ends]
  | none =>
    rw [counted_of_endless ends]
    cases last : events.getLast? with
    | none => rfl
    | some event =>
      have onward : event.isEnd = false := by
        simpa using List.find?_eq_none.mp ends event (List.mem_of_getLast? last)
      cases event with
      | started | message | awaitingInput => rfl
      | completed | failed | stopped | timedOut => contradiction

/-- A run that has ended with an error is one whose first ending event was a failure. -/
theorem statusAfter_eq_error_iff :
    statusAfter events = .error ↔ ((events.find? Event.isEnd).bind Event.error?).isSome := by
  unfold statusAfter
  cases events.find? Event.isEnd with
  | some ending => cases ending <;> simp [Event.status, Event.error?]
  | none => split <;> simp_all

theorem statusAfter_eq_created_iff : statusAfter events = .created ↔ events = [] := by
  unfold statusAfter
  cases ends : events.find? Event.isEnd with
  | some ending =>
    have given : events ≠ [] := List.ne_nil_of_mem (List.mem_of_find?_eq_some ends)
    cases ending <;> simp [Event.status, given]
  | none =>
    cases last : events.getLast? with
    | none => simpa using last
    | some event =>
      have given : events ≠ [] := List.ne_nil_of_mem (List.mem_of_getLast? last)
      cases event <;> simp [given]

/-- A run is decided by the events before the first one that ends it, and by that one. The activity
is that of the agents who spoke before the end, in order; the status is that of the end; and there
is an error exactly if the run has failed. Whatever comes later changes nothing, and no run is new
again. -/
theorem extend_start (events : List Event) :
    let run := start.extend events
    let before := events.takeWhile (!·.isEnd)
    let ending := events.find? Event.isEnd
    run = events.foldl apply start ∧
      run.activity = Activity.ofList (speakers before) ∧
      run.status = statusAfter events ∧
      run.error = ending.bind Event.error? ∧
      (run.error.isSome ↔ run.status = .error) ∧
      run = start.extend (before ++ ending.toList) ∧
      (run.status = .created ↔ events = []) := by
  intro run before ending
  have stepwise : run = (counted events).foldl step start := extend_eq_foldl_step start events rfl
  have status : run.status = statusAfter events := by
    rw [stepwise, status_foldl_step]
    exact status_counted
  have error : run.error = ending.bind Event.error? := by
    rw [stepwise, error_foldl_step, lastError_counted]
    exact Option.or_none
  refine ⟨rfl, ?_, status, error, ?_, ?_, ?_⟩
  · rw [stepwise, activity_foldl_step, speakers_counted]
    rfl
  · rw [error, status, statusAfter_eq_error_iff]
  · have again := extend_eq_foldl_step start (counted events) rfl
    rw [counted_counted] at again
    exact stepwise.trans again.symm
  · rw [status, statusAfter_eq_created_iff]

/-- The failure comes too late: the run has been stopped. -/
example :
    let run := start.extend [.started, .message "user", .message "critic", .stopped,
      .message "writer", .failed "too late"]
    run.activity.order = ["critic"] ∧ run.status = .stopped ∧ run.error = none := by
  decide

end AgentTeams.Run
