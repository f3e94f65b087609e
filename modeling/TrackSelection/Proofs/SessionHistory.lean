import TrackSelection.Parameters.Change
import TrackSelection.Proofs.Overriding
import TrackSelection.Session

/-!
# What a session has become

A session is changed by calls, some of which fail. The history of a session keeps, for each call,
the session before and after it and the answer. Everything in a session can be read off its history:
the installed parameters from the last call that installed some, the mapping in use from the last
call that put an outcome to use, and the number of notifications from the calls that changed the
installed parameters once there was a listener. A call that fails leaves no trace.
-/

namespace TrackSelection

namespace Session

/-! ## Calls -/

inductive Call where
  /-- Register a listener. -/
  | listen
  /-- Install parameters. -/
  | install (parameters : Parameters)
  /-- Install parameters that are built upon the installed ones. -/
  | revise (changes : List Change)
  /-- Map groups to renderers and select tracks. -/
  | select (renderers : List Renderer) (groups : List TrackGroup)
  /-- Put an outcome to use, of this session or another. -/
  | activate (outcome : Outcome)

/-- The answer to a call: an error, or else the outcome if tracks were selected. -/
abbrev Answer := Except Error (Option Outcome)

/-- The parameters that a call asks a session to install. -/
def argument? (session : Session) : Call → Option Parameters
  | .install parameters => some parameters
  | .revise changes => some (changes.foldl Parameters.apply session.parameters)
  | _ => none

def Call.outcome? : Call → Option Outcome
  | .activate outcome => some outcome
  | _ => none

def Call.isListen : Call → Bool
  | .listen => true
  | _ => false

/-- Try to install parameters: the answer, and the session from then on. -/
def tryInstall (session : Session) (parameters : Parameters) : Answer × Session :=
  match session.install parameters with
  | .ok installed => (.ok none, installed)
  | .error error => (.error error, session)

/-- The answer to a call, and the session from then on. -/
def perform (session : Session) : Call → Answer × Session
  | .listen => (.ok none, session.listen)
  | .install parameters => session.tryInstall parameters
  | .revise changes => session.tryInstall (changes.foldl Parameters.apply session.parameters)
  | .select renderers groups => ((session.select renderers groups).map some, session)
  | .activate outcome => (.ok none, session.activate outcome)

def isListening (session : Session) : Bool :=
  !session.notified.isEmpty

/-- The number of notifications that all listeners got. -/
def delivered (session : Session) : Nat :=
  session.notified.foldr (· + ·) 0

/-- Everything that a call can do. -/
inductive Performed (session : Session) : Call → Answer → Session → Prop
  | listened : Performed session .listen (.ok none) session.listen
  /-- The parameters have a fault. -/
  | refused (call : Call) (parameters : Parameters) (error : Error)
      (asked : session.argument? call = some parameters)
      (faulty : parameters.check = .error error) :
      Performed session call (.error error) session
  /-- The parameters count as the installed ones. -/
  | replaced (call : Call) (parameters : Parameters)
      (asked : session.argument? call = some parameters) (faultless : parameters.check = .ok ())
      (same : session.parameters.same parameters = true) :
      Performed session call (.ok none) { session with parameters := parameters }
  /-- The parameters differ from the installed ones. -/
  | changed (call : Call) (parameters : Parameters)
      (asked : session.argument? call = some parameters) (faultless : parameters.check = .ok ())
      (differ : session.parameters.same parameters = false) :
      Performed session call (.ok none) (notify { session with parameters := parameters })
  /-- A renderer fails to answer a question. -/
  | unanswered (renderers : List Renderer) (groups : List TrackGroup) (error : Error)
      (failed : Mapping.assign renderers groups = .error error) :
      Performed session (.select renderers groups) (.error error) session
  | selected (renderers : List Renderer) (groups : List TrackGroup) (mapping : Mapping)
      (assigned : Mapping.assign renderers groups = .ok mapping) :
      Performed session (.select renderers groups)
        (.ok (some (Pass.run mapping session.parameters session.systemLanguages))) session
  | activated (outcome : Outcome) :
      Performed session (.activate outcome) (.ok none) (session.activate outcome)

variable {session : Session} {call : Call} {parameters : Parameters}

/-- A call that installs parameters does nothing else. -/
theorem only_installs (asked : session.argument? call = some parameters) :
    call.outcome? = none ∧ call.isListen = false ∧
      ∀ renderers groups, call ≠ .select renderers groups := by
  cases call with
  | install | revise => exact ⟨rfl, rfl, fun _ _ => Call.noConfusion⟩
  | _ => cases asked

theorem performed_tryInstall (asked : session.argument? call = some parameters) :
    Performed session call (session.tryInstall parameters).1 (session.tryInstall parameters).2 := by
  cases checked : parameters.check with
  | error error =>
      have failed : session.tryInstall parameters = (.error error, session) := by
        rw [tryInstall, install, checked]
        rfl
      rw [failed]
      exact .refused call parameters error asked checked
  | ok =>
      cases same : session.parameters.same parameters with
      | true =>
          have installed : session.tryInstall parameters =
              (.ok none, { session with parameters := parameters }) := by
            rw [tryInstall, install, checked, same]
            rfl
          rw [installed]
          exact .replaced call parameters asked checked same
      | false =>
          have installed : session.tryInstall parameters =
              (.ok none, notify { session with parameters := parameters }) := by
            rw [tryInstall, install, checked, same]
            rfl
          rw [installed]
          exact .changed call parameters asked checked same

theorem performed_perform (session : Session) (call : Call) :
    Performed session call (session.perform call).1 (session.perform call).2 := by
  cases call with
  | listen => exact .listened
  | install parameters => exact performed_tryInstall rfl
  | revise changes => exact performed_tryInstall rfl
  | activate outcome => exact .activated outcome
  | select renderers groups =>
      cases assigned : Mapping.assign renderers groups with
      | error error =>
          have failed : session.select renderers groups = .error error := by
            rw [select, assigned]
            rfl
          rw [perform, failed]
          exact .unanswered renderers groups error assigned
      | ok mapping =>
          have passed : session.select renderers groups =
              .ok (Pass.run mapping session.parameters session.systemLanguages) := by
            rw [select, assigned]
            rfl
          rw [perform, passed]
          exact .selected renderers groups mapping assigned

@[simp] theorem isListening_listen : session.listen.isListening = true := rfl

@[simp] theorem delivered_listen : session.listen.delivered = session.delivered :=
  Nat.zero_add _

@[simp] theorem isListening_activate (outcome : Outcome) :
    (session.activate outcome).isListening = session.isListening := rfl

@[simp] theorem delivered_activate (outcome : Outcome) :
    (session.activate outcome).delivered = session.delivered := rfl

@[simp] theorem isListening_with_parameters :
    isListening { session with parameters := parameters } = session.isListening := rfl

@[simp] theorem delivered_with_parameters :
    delivered { session with parameters := parameters } = session.delivered := rfl

@[simp] theorem parameters_notify : session.notify.parameters = session.parameters := by
  unfold notify
  split <;> rfl

@[simp] theorem current_notify : session.notify.current = session.current := by
  unfold notify
  split <;> rfl

@[simp] theorem systemLanguages_notify :
    session.notify.systemLanguages = session.systemLanguages := by
  unfold notify
  split <;> rfl

@[simp] theorem isListening_notify : session.notify.isListening = session.isListening := by
  unfold notify
  split
  · rfl
  · rename_i told
    simp [isListening, told]

theorem delivered_notify :
    session.notify.delivered = session.delivered + session.isListening.toNat := by
  unfold notify
  split
  · rename_i told
    simp [isListening, told]
  · rename_i told
    simp only [delivered, isListening, told, List.foldr_cons, List.isEmpty_cons, Bool.not_false,
      Bool.toNat_true]
    omega

/-! ## Events -/

/-- A call that was made. -/
structure Event where
  before : Session
  call : Call
  answer : Answer
  after : Session
  performed : Performed before call answer after

namespace Event

/-- The parameters that the call installed. -/
def installed? (event : Event) : Option Parameters :=
  match event.answer with
  | .ok _ => event.before.argument? event.call
  | .error _ => none

/-- Whether the call installed parameters that differ from those before. -/
def isChange (event : Event) : Bool :=
  event.installed?.any fun parameters => !event.before.parameters.same parameters

/-- The call asks for what cannot be done: to install parameters that have a fault, or to select
tracks for renderers that fail to answer. -/
def IsBad (event : Event) : Prop :=
  (∃ parameters, event.before.argument? event.call = some parameters ∧
      parameters.check ≠ .ok ()) ∨
    ∃ renderers groups error, event.call = .select renderers groups ∧
      Mapping.assign renderers groups = .error error

theorem parameters_after (event : Event) :
    event.after.parameters = event.installed?.getD event.before.parameters := by
  obtain ⟨before, call, answer, after, performed⟩ := event
  cases performed with
  | listened | refused | unanswered | selected | activated => rfl
  | replaced _ _ asked => simp [installed?, asked]
  | changed _ _ asked => simp [installed?, asked]

theorem current_after (event : Event) :
    event.after.current =
      (event.call.outcome?.map fun outcome => some outcome.mapping).getD event.before.current := by
  obtain ⟨before, call, answer, after, performed⟩ := event
  cases performed with
  | listened | unanswered | selected | activated => rfl
  | refused _ _ _ asked => simp [(only_installs asked).1]
  | replaced _ _ asked => simp [(only_installs asked).1]
  | changed _ _ asked => simp [(only_installs asked).1]

theorem systemLanguages_after (event : Event) :
    event.after.systemLanguages = event.before.systemLanguages := by
  obtain ⟨before, call, answer, after, performed⟩ := event
  cases performed with
  | listened | refused | replaced | unanswered | selected | activated => rfl
  | changed => exact systemLanguages_notify

theorem isListening_after (event : Event) :
    event.after.isListening = (event.before.isListening || event.call.isListen) := by
  obtain ⟨before, call, answer, after, performed⟩ := event
  cases performed with
  | listened | unanswered | selected | activated => simp [Call.isListen]
  | refused _ _ _ asked => simp [(only_installs asked).2.1]
  | replaced _ _ asked => simp [(only_installs asked).2.1]
  | changed _ _ asked => simp [(only_installs asked).2.1]

theorem delivered_after (event : Event) :
    event.after.delivered =
      event.before.delivered + (event.before.isListening && event.isChange).toNat := by
  obtain ⟨before, call, answer, after, performed⟩ := event
  cases performed with
  | listened | selected | activated => simp [isChange, installed?, argument?]
  | refused | unanswered => simp [isChange, installed?]
  | replaced _ _ asked _ same =>
      simp [isChange, installed?, asked, same]
  | changed _ _ asked _ differ =>
      simp [isChange, installed?, asked, differ, delivered_notify]

/-- A call that fails changes nothing. -/
theorem after_eq_of_error (event : Event) {error : Error} (failed : event.answer = .error error) :
    event.after = event.before := by
  obtain ⟨before, call, answer, after, performed⟩ := event
  cases performed with
  | refused | unanswered => rfl
  | _ => cases failed

/-- A call fails exactly if it asks for what cannot be done. -/
theorem failed_iff_isBad (event : Event) :
    (∃ error, event.answer = .error error) ↔ event.IsBad := by
  obtain ⟨before, call, answer, after, performed⟩ := event
  cases performed with
  | listened | activated => simp [IsBad, argument?]
  | refused _ _ _ asked faulty => simp [IsBad, asked, faulty]
  | replaced _ _ asked faultless => simp [IsBad, asked, faultless, (only_installs asked).2.2]
  | changed _ _ asked faultless => simp [IsBad, asked, faultless, (only_installs asked).2.2]
  | unanswered _ _ _ failed => simp [IsBad, failed, argument?]
  | selected _ _ _ assigned => simp [IsBad, assigned, argument?]

theorem installed?_eq_some_iff (event : Event) {parameters : Parameters} :
    event.installed? = some parameters ↔
      (∃ outcome?, event.answer = .ok outcome?) ∧
        event.before.argument? event.call = some parameters := by
  rw [installed?]
  cases event.answer with
  | ok outcome? => simp
  | error error => simp

/-- No parameters are installed but those that pass their check. -/
theorem check_of_installed? (event : Event) {parameters : Parameters}
    (installed : event.installed? = some parameters) : parameters.check = .ok () := by
  obtain ⟨⟨_, answered⟩, asked⟩ := event.installed?_eq_some_iff.mp installed
  by_contra faulty
  obtain ⟨error, failed⟩ := event.failed_iff_isBad.mpr (.inl ⟨parameters, asked, faulty⟩)
  rw [failed] at answered
  cases answered

theorem isChange_of_isListen (event : Event) (registers : event.call.isListen = true) :
    event.isChange = false := by
  rw [isChange]
  cases installed : event.installed? with
  | none => rfl
  | some parameters =>
      have asked := (event.installed?_eq_some_iff.mp installed).2
      rw [(only_installs asked).2.1] at registers
      cases registers

end Event

/-! ## Histories -/

def event (session : Session) (call : Call) : Event where
  before := session
  call := call
  answer := (session.perform call).1
  after := (session.perform call).2
  performed := performed_perform session call

/-- The events of calls that are made one after the other. -/
def history (session : Session) : List Call → List Event
  | [] => []
  | call :: calls => session.event call :: history (session.event call).after calls

def after (session : Session) : List Call → Session
  | [] => session
  | call :: calls => after (session.event call).after calls

@[simp] theorem before_event : (session.event call).before = session := rfl

@[simp] theorem call_event : (session.event call).call = call := rfl

/-- What only some events set, and each to a value of its own, is what the last of them set. -/
theorem eq_last_of_step {β : Type} {read : Session → β} {set? : Event → Option β}
    (step : ∀ event : Event, read event.after = (set? event).getD (read event.before))
    (session : Session) (calls : List Call) :
    read (session.after calls) =
      (((session.history calls).filterMap set?).getLast?).getD (read session) := by
  induction calls generalizing session with
  | nil => rfl
  | cons call calls ih =>
      have first := step (session.event call)
      rw [after, ih, history, List.filterMap_cons, first, before_event]
      cases set? (session.event call) with
      | none => rfl
      | some value => simp [List.getLast?_cons]

/-- With a listener, every change is one notification. -/
theorem delivered_after_of_isListening {session : Session} (listening : session.isListening = true)
    (calls : List Call) :
    (session.after calls).delivered =
      session.delivered + (session.history calls).countP Event.isChange := by
  induction calls generalizing session with
  | nil => rfl
  | cons call calls ih =>
      have still : (session.event call).after.isListening = true := by
        rw [Event.isListening_after, before_event, listening, Bool.true_or]
      have first : (session.event call).after.delivered =
          session.delivered + (session.event call).isChange.toNat := by
        rw [Event.delivered_after, before_event, listening, Bool.true_and]
      rw [after, ih still, first, history, List.countP_cons]
      cases (session.event call).isChange with
      | true =>
          rw [Bool.toNat_true, if_pos rfl]
          omega
      | false => simp

/-- Without a listener, nothing is delivered until there is one. -/
theorem delivered_after_of_not_isListening {session : Session}
    (silent : session.isListening = false) (calls : List Call) :
    (session.after calls).delivered = session.delivered +
      ((session.history calls).dropWhile fun event => !event.call.isListen).countP
        Event.isChange := by
  induction calls generalizing session with
  | nil => rfl
  | cons call calls ih =>
      have first : (session.event call).after.delivered = session.delivered := by
        rw [Event.delivered_after, before_event, silent, Bool.false_and, Bool.toNat_false,
          Nat.add_zero]
      have next : (session.event call).after.isListening = call.isListen := by
        rw [Event.isListening_after, before_event, call_event, silent, Bool.false_or]
      cases registers : call.isListen with
      | true =>
          have unchanged := (session.event call).isChange_of_isListen registers
          rw [after, delivered_after_of_isListening (next.trans registers), first, history,
            List.dropWhile_cons_of_neg (by simp [registers]),
            List.countP_cons_of_neg (by simp [unchanged])]
      | false =>
          rw [after, ih (next.trans registers), first, history,
            List.dropWhile_cons_of_pos (by simp [registers])]

theorem parameters_after (session : Session) (calls : List Call) :
    (session.after calls).parameters =
      ((session.history calls).filterMap Event.installed?).getLast?.getD session.parameters :=
  eq_last_of_step Event.parameters_after session calls

theorem check_after {session : Session} (faultless : session.parameters.check = .ok ())
    (calls : List Call) : (session.after calls).parameters.check = .ok () := by
  rw [parameters_after]
  cases last : ((session.history calls).filterMap Event.installed?).getLast? with
  | none => exact faultless
  | some parameters =>
      obtain ⟨event, _, installed⟩ := List.mem_filterMap.mp (List.mem_of_getLast? last)
      exact event.check_of_installed? installed

theorem current_after (session : Session) (calls : List Call) :
    (session.after calls).current =
      (((session.history calls).filterMap fun event => event.call.outcome?).getLast?.map
        Outcome.mapping).or session.current := by
  have last := eq_last_of_step Event.current_after session calls
  rw [last, ← List.map_filterMap, List.getLast?_map]
  cases ((session.history calls).filterMap fun event => event.call.outcome?).getLast? <;> rfl

theorem systemLanguages_after (session : Session) (calls : List Call) :
    (session.after calls).systemLanguages = session.systemLanguages := by
  induction calls generalizing session with
  | nil => rfl
  | cons call calls ih => rw [after, ih, Event.systemLanguages_after, before_event]

/-- Everything in a session can be read off the calls that were made since its start. The installed
parameters pass their check and are the last that were installed, the mapping in use is that of the
last outcome that was put to use, and a notification was delivered for each change of the installed
parameters since the first listener. A call fails exactly if it asks for what cannot be done, and
then the session stays as it was. -/
theorem read_off_history {parameters : Parameters} (faultless : parameters.check = .ok ())
    (languages : List String) (calls : List Call) :
    let session := (start parameters languages).after calls
    let history := (start parameters languages).history calls
    (session.parameters.check = .ok () ∧
      session.parameters = (history.filterMap Event.installed?).getLast?.getD parameters) ∧
    session.delivered =
      (history.dropWhile fun event => !event.call.isListen).countP Event.isChange ∧
    session.current =
      (history.filterMap fun event => event.call.outcome?).getLast?.map Outcome.mapping ∧
    session.systemLanguages = normalLanguages languages ∧
    ∀ event ∈ history,
      ((∃ error, event.answer = .error error) ↔ event.IsBad) ∧
      ∀ error, event.answer = .error error → event.after = event.before := by
  intro session history
  refine ⟨⟨check_after faultless calls, parameters_after _ calls⟩, ?_, ?_,
    systemLanguages_after _ calls, ?_⟩
  · have silent : (start parameters languages).isListening = false := rfl
    exact (delivered_after_of_not_isListening silent calls).trans (Nat.zero_add _)
  · exact (current_after _ calls).trans Option.or_none
  · intro event _
    exact ⟨event.failed_iff_isBad, fun error => event.after_eq_of_error⟩

namespace Sample

def broken : Renderer where
  name := "broken"
  trackType := .video
  capabilities _ := .error (.capabilityQuery "broken" "no answer")
  mixedMimeTypes := .ok .notSupported

/-- The viewport is set before there is a listener, then to a size without area, then for each of
two listeners; a selection fails, and another is put to use. -/
def evening : List Call :=
  [.revise [.viewport 1920 1080 true], .listen, .revise [.viewport 0 0 true], .install {},
    .install {}, .select [broken] [Pass.Sample.ladder],
    .activate (Pass.run Pass.Sample.screen {} []), .listen, .revise [.viewport 1280 720 false],
    .revise []]

end Sample

theorem read_off_history_evening :
    ({} : Parameters).check = .ok () ∧
      let session := (start {} []).after Sample.evening
      let history := (start {} []).history Sample.evening
      (history.map fun event => event.answer.isOk) =
        [true, true, false, true, true, false, true, true, true, true] ∧
      session.parameters.check = .ok () ∧
      session.delivered = 2 ∧
      session.current = some Pass.Sample.screen ∧
      ∀ event ∈ history, ∀ error, event.answer = .error error → event.after = event.before := by
  have faultless : ({} : Parameters).check = .ok () := by decide +kernel
  obtain ⟨⟨checked, _⟩, delivered, current, _, events⟩ :=
    read_off_history faultless [] Sample.evening
  refine ⟨faultless, by decide +kernel, checked, delivered.trans ?_, current, ?_⟩
  · decide +kernel
  · intro event mem
    exact (events event mem).2

end Session

end TrackSelection
