import MapSidebar.Proofs.OneSubmission
import Mathlib.Data.List.Forall2

/-!
# The course of a submission

The course of a submission is told here a second time. `Opening` and `Closing` tell it as rules, one
for each thing that can be the case before the request and with the answer, without the functions
that take it; what a server sends is described by what it holds, not by how it is looked through. The
rules cover every case and leave no choice (`exists_opening`, `begin_of_opening`, `exists_closing`,
`conclude_of_closing`). The rest is about runs: a submission that is accepted goes by the rules
whatever happens meanwhile, sends one request at most and has nobody else write to its panel.
-/
namespace MapSidebar

/-! ## What a server tells -/

/-- A message shows an entry of a server's feedback: at the field with which the location ends after
its scope, or else at the form. -/
structure FeedbackEntry.IsShownBy (entry : FeedbackEntry) (message : FormMessage) : Prop where
  severity : message.severity = entry.severity
  text : message.text = entry.text
  field : ∀ name, message.field = some name ↔
    ∃ scope path, entry.location = scope :: (path ++ [.string name])

theorem FeedbackEntry.field?_eq_some_iff {entry : FeedbackEntry} {name : String} :
    entry.field? = some name ↔
      ∃ scope path, entry.location = scope :: (path ++ [.string name]) := by
  have last : entry.field? = some name ↔
      (entry.location.drop 1).getLast? = some (.string name) := by
    unfold field?
    generalize (entry.location.drop 1).getLast? = found
    split
    · simp
    next other => simp only [reduceCtorEq, false_iff]; exact other name
  rw [last, List.getLast?_eq_some_iff]
  cases entry.location with
  | nil => simp
  | cons scope rest => simp

theorem FeedbackEntry.isShownBy_iff {entry : FeedbackEntry} {message : FormMessage} :
    entry.IsShownBy message ↔ entry.message = message := by
  constructor
  · rintro ⟨severity, text, field⟩
    have same : entry.field? = message.field :=
      Option.ext fun name => field?_eq_some_iff.trans (field name).symm
    rw [FeedbackEntry.message, same, ← severity, ← text]
  · rintro rfl
    exact ⟨rfl, rfl, fun _ => field?_eq_some_iff⟩

theorem FeedbackEntry.shown_iff {entries : List FeedbackEntry} {messages : List FormMessage} :
    List.Forall₂ IsShownBy entries messages ↔ entries.map FeedbackEntry.message = messages := by
  have same : IsShownBy = fun entry message => entry.message = message :=
    funext fun _ => funext fun _ => propext isShownBy_iff
  rw [same, ← List.forall₂_map_left_iff, List.forall₂_eq_eq_eq]

namespace Response

def Succeeds (r : Response) : Prop := 200 ≤ r.status ∧ r.status < 300

/-- A body that is only white space. -/
def IsBlank (r : Response) : Prop := ∀ b ∈ r.body, b ∈ [0x20, 0x09, 0x0A, 0x0C, 0x0D]

/-- The value that a successful answer holds: none if it is blank. -/
inductive Holds (r : Response) : Json → Prop
  | blank : r.IsBlank → Holds r .null
  | value {body : Json} : ¬ r.IsBlank → Json.decode Json.readValue r.body = .ok body → Holds r body

/-- What a server says about a form that it refuses. -/
structure Tells (r : Response) (detail : FeedbackDetail) : Prop where
  status : r.status = 400 ∨ r.status = 422
  envelope : Json.decode FeedbackEnvelope.record.decoder r.body = .ok ⟨detail⟩

variable {r : Response}

theorem isSuccess_iff : r.isSuccess = true ↔ r.Succeeds := by simp [isSuccess, Succeeds]

theorem isBlank_iff : r.body.all Submission.isBlankByte = true ↔ r.IsBlank := by
  simp [IsBlank, Submission.isBlankByte, or_assoc]

theorem decodeJson_eq_ok {α : Type} {decoder : Json.Decoder α} {value : α} :
    r.decodeJson decoder = .ok value ↔ Json.decode decoder r.body = .ok value := by
  unfold decodeJson
  cases Json.decode decoder r.body <;> simp [Except.mapError]

theorem holds_iff {body : Json} : r.Holds body ↔ Submission.successBody r = .ok body := by
  unfold Submission.successBody
  split
  next full =>
    have blank := isBlank_iff.mp full
    constructor
    · rintro (- | ⟨other, -⟩)
      · rfl
      · exact absurd blank other
    · rintro ⟨⟩
      exact .blank blank
  next full =>
    have other : ¬ r.IsBlank := fun blank => full (isBlank_iff.mpr blank)
    rw [decodeJson_eq_ok]
    constructor
    · rintro (blank | ⟨-, value⟩)
      · exact absurd blank other
      · exact value
    · exact .value other

theorem tells_iff {detail : FeedbackDetail} :
    r.Tells detail ↔ Submission.refusal? r = some detail := by
  unfold Submission.refusal?
  split
  next status =>
    have refused : r.status = 400 ∨ r.status = 422 := by simpa using status
    constructor
    · rintro ⟨-, envelope⟩
      simp [decodeJson_eq_ok.mpr envelope, Except.toOption]
    · intro found
      obtain ⟨⟨said⟩, decoded, rfl⟩ := Option.map_eq_some_iff.mp found
      cases read : r.decodeJson FeedbackEnvelope.record.decoder with
      | error fault => simp [read, Except.toOption] at decoded
      | ok envelope =>
        simp only [read, Except.toOption, Option.some.injEq] at decoded
        exact ⟨refused, decoded ▸ decodeJson_eq_ok.mp read⟩
  next status =>
    constructor
    · rintro ⟨refused, -⟩
      simp [refused] at status
    · rintro ⟨⟩

end Response

namespace Submission

/-! ## The rules -/

/-- The request of a form: its fields in order, or only those that are not empty. -/
def wanted (form : Form) (handler : FormHandler) : Request where
  method := form.method
  url := form.action
  fields := if handler.omitEmpty then form.fields.filter (·.2 ≠ "") else form.fields

/-- How a submission begins: what it shows, and its outcome or the request that it sends. -/
inductive Opening (form : Form) (handler : FormHandler) :
    List FormMessage → SubmitOutcome ⊕ Request → Prop
  /-- The validation itself fails. -/
  | raised {check : FormFields → Except String (List FormMessage)} {reason : String} :
    handler.validate = some check → check form.fields = .error reason →
    Opening form handler [.atForm genericFailure] (.inl (.failed genericFailure))
  /-- The validation finds an error. -/
  | invalid {check : FormFields → Except String (List FormMessage)} {messages : List FormMessage} :
    handler.validate = some check → check form.fields = .ok messages →
    (∃ message ∈ messages, message.severity = .error) →
    Opening form handler messages (.inl (.invalid messages))
  /-- The validation finds nothing worse than what may be sent. -/
  | valid {check : FormFields → Except String (List FormMessage)} {messages : List FormMessage} :
    handler.validate = some check → check form.fields = .ok messages →
    (∀ message ∈ messages, message.severity ≠ .error) →
    Opening form handler messages (.inr (wanted form handler))
  /-- There is no validation. -/
  | unchecked : handler.validate = none → Opening form handler [] (.inr (wanted form handler))

/-- The entries that a value holds if it has the form of a successful answer. -/
inductive Details (body : Json) : List FeedbackEntry → Prop
  | some {success : FormSuccess} : FormSuccess.ofJson? body = some success →
    Details body success.detail
  | none : FormSuccess.ofJson? body = none → Details body []

/-- What an answer makes: what is shown, the value that is handed to the receiver, and the
outcome. -/
inductive Closing : Answer → List FormMessage → Option Json → SubmitOutcome → Prop
  /-- The answer tells success and can be read. -/
  | succeeded {r : Response} {body : Json} {entries : List FeedbackEntry}
    {messages : List FormMessage} :
    r.Succeeds → r.Holds body → Details body entries →
    List.Forall₂ FeedbackEntry.IsShownBy entries messages →
    Closing (.ok r) messages (some body) (.succeeded body)
  /-- The answer tells success and cannot be read. -/
  | unreadable {r : Response} : r.Succeeds → (∀ body, ¬ r.Holds body) →
    Closing (.ok r) [.atForm genericFailure] none (.failed genericFailure)
  /-- The server refuses the fields. -/
  | rejected {r : Response} {entries : List FeedbackEntry} {messages : List FormMessage} :
    r.Tells (.entries entries) → entries ≠ [] →
    List.Forall₂ FeedbackEntry.IsShownBy entries messages →
    Closing (.ok r) messages none (.rejected messages)
  /-- The server refuses the form in words. -/
  | told {r : Response} {text : String} : r.Tells (.message text) → text ≠ "" →
    Closing (.ok r) [.atForm text] none (.failed text)
  /-- The answer tells failure and nothing more. -/
  | refused {r : Response} : ¬ r.Succeeds →
    (∀ detail, r.Tells detail → detail = .entries [] ∨ detail = .message "") →
    Closing (.ok r) [.atForm genericFailure] none (.failed genericFailure)
  /-- There is no answer any more. -/
  | cancelled : Closing (.error .cancelled) [] none .cancelled
  /-- The answer was lost. -/
  | lost {e : FetchError} : e ≠ .cancelled →
    Closing (.error e) [.atForm genericFailure] none (.failed genericFailure)

/-- Messages that are shown, one after the other. -/
def shown (messages : List FormMessage) : List FormEvent :=
  messages.map fun message => .panel (.add message)

/-- What happens when a submission begins: the messages that are there are cleared, the new ones are
shown, and the submit control is disabled if a request is sent. -/
def openingEvents (messages : List FormMessage) : SubmitOutcome ⊕ Request → List FormEvent
  | .inl _ => .panel .clearMessages :: shown messages
  | .inr _ => .panel .clearMessages :: shown messages ++ [.panel (.enable false)]

/-- What happens when an answer is used: the messages are shown, and then the receiver is given what
is for it. -/
def closingEvents (receiver : String) (messages : List FormMessage) (handed : Option Json) :
    List FormEvent :=
  shown messages ++ (handed.map (.success receiver)).toList

/-! ## The rules and the functions -/

variable {form : Form} {handler : FormHandler} {messages : List FormMessage}
  {next : SubmitOutcome ⊕ Request}

theorem requestOf_eq (form : Form) (handler : FormHandler) :
    requestOf form handler = wanted form handler := by
  unfold requestOf wanted sentFields
  have empty : ∀ text : String, text.isEmpty = decide (text = "") := fun text => by
    rw [Bool.eq_iff_iff]
    simp
  cases handler.omitEmpty <;> simp [empty]

theorem begin_of_opening (opening : Opening form handler messages next) :
    begin form handler = (openingEvents messages next, next) := by
  cases opening with
  | raised validates raises =>
    simp [begin, validated, validates, raises, fail, openingEvents, shown]
  | invalid validates finds error =>
    have stops : messages.any (·.severity.isError) = true := by
      simpa [Severity.isError] using error
    simp [begin, validated, validates, finds, stops, openingEvents, shown, showAll]
  | valid validates finds clean =>
    have goes : messages.any (·.severity.isError) = false := by
      simpa [Severity.isError] using clean
    simp [begin, validated, validates, finds, goes, openingEvents, shown, showAll, requestOf_eq]
  | unchecked skips =>
    simp [begin, validated, skips, openingEvents, shown, showAll, requestOf_eq]

theorem exists_opening (form : Form) (handler : FormHandler) :
    ∃ messages next, Opening form handler messages next := by
  cases validates : handler.validate with
  | none => exact ⟨_, _, .unchecked validates⟩
  | some check =>
    cases finds : check form.fields with
    | error reason => exact ⟨_, _, .raised validates finds⟩
    | ok messages =>
      by_cases error : ∃ message ∈ messages, message.severity = .error
      · exact ⟨_, _, .invalid validates finds error⟩
      · exact ⟨_, _, .valid validates finds fun message listed bad => error ⟨message, listed, bad⟩⟩

theorem details_iff {body : Json} {entries : List FeedbackEntry} :
    Details body entries ↔ (FormSuccess.ofJson body).detail = entries := by
  unfold FormSuccess.ofJson
  cases found : FormSuccess.ofJson? body with
  | none =>
    constructor
    · rintro (same | -)
      · cases found.symm.trans same
      · rfl
    · rintro rfl
      exact .none found
  | some success =>
    constructor
    · rintro (same | none)
      · cases found.symm.trans same
        rfl
      · cases found.symm.trans none
    · rintro rfl
      exact .some found

theorem failure_of_tells {r : Response} {detail : FeedbackDetail} (tells : r.Tells detail) :
    ¬ r.Succeeds := by
  rintro ⟨low, high⟩
  rcases tells.status with status | status <;> omega

theorem conclude_of_closing {a : Answer} {handed : Option Json} {outcome : SubmitOutcome}
    (closing : Closing a messages handed outcome) (receiver : String) :
    conclude receiver a = (closingEvents receiver messages handed, outcome) := by
  cases closing with
  | succeeded succeeds holds details shows =>
    obtain rfl := FeedbackEntry.shown_iff.mp shows
    obtain rfl := details_iff.mp details
    simp [conclude, Response.isSuccess_iff.mpr succeeds, Response.holds_iff.mp holds, closingEvents,
      shown, showAll]
  | @unreadable r succeeds nothing =>
    have failed : ∃ e, successBody r = .error e := by
      cases read : successBody r with
      | error e => exact ⟨e, rfl⟩
      | ok body => exact absurd (Response.holds_iff.mpr read) (nothing body)
    obtain ⟨e, failed⟩ := failed
    simp [conclude, Response.isSuccess_iff.mpr succeeds, failed, closingEvents, shown, fail]
  | @rejected r entries _ tells some_entry shows =>
    obtain rfl := FeedbackEntry.shown_iff.mp shows
    have fails : r.isSuccess = false :=
      Bool.eq_false_iff.mpr fun ok => failure_of_tells tells (Response.isSuccess_iff.mp ok)
    obtain ⟨entry, rest, rfl⟩ := List.exists_cons_of_ne_nil some_entry
    simp [conclude, fails, refused, Response.tells_iff.mp tells, closingEvents, shown, showAll]
  | @told r text tells words =>
    have fails : r.isSuccess = false :=
      Bool.eq_false_iff.mpr fun ok => failure_of_tells tells (Response.isSuccess_iff.mp ok)
    simp [conclude, fails, refused, Response.tells_iff.mp tells, words, closingEvents, shown, fail]
  | @refused r fails nothing =>
    have failure : r.isSuccess = false :=
      Bool.eq_false_iff.mpr fun ok => fails (Response.isSuccess_iff.mp ok)
    have silent : Submission.refused r = fail genericFailure := by
      unfold Submission.refused
      cases said : refusal? r with
      | none => rfl
      | some detail =>
        rcases nothing detail (Response.tells_iff.mpr said) with rfl | rfl <;> simp
    simp [conclude, failure, silent, closingEvents, shown, fail]
  | cancelled => simp [conclude, FetchError.isCancellation, closingEvents, shown]
  | lost other => simp [conclude, FetchError.isCancellation, other, closingEvents, shown, fail]

theorem exists_closing (a : Answer) :
    ∃ messages handed outcome, Closing a messages handed outcome := by
  cases a with
  | error e =>
    by_cases gone : e = .cancelled
    · subst gone
      exact ⟨_, _, _, .cancelled⟩
    · exact ⟨_, _, _, .lost gone⟩
  | ok r =>
    by_cases succeeds : r.Succeeds
    · by_cases readable : ∃ body, r.Holds body
      · obtain ⟨body, holds⟩ := readable
        exact ⟨_, _, _, .succeeded succeeds holds (details_iff.mpr rfl)
          (FeedbackEntry.shown_iff.mpr rfl)⟩
      · exact ⟨_, _, _, .unreadable succeeds fun body holds => readable ⟨body, holds⟩⟩
    · by_cases speaks : ∃ detail, r.Tells detail ∧ detail ≠ .entries [] ∧ detail ≠ .message ""
      · obtain ⟨detail, tells, entries, words⟩ := speaks
        cases detail with
        | entries list =>
          exact ⟨_, _, _, .rejected tells (fun empty => entries (empty ▸ rfl))
            (FeedbackEntry.shown_iff.mpr rfl)⟩
        | message text => exact ⟨_, _, _, .told tells fun empty => words (empty ▸ rfl)⟩
      · refine ⟨_, _, _, .refused succeeds fun detail tells => ?_⟩
        by_contra other
        exact speaks ⟨detail, tells, fun same => other (.inl same), fun same => other (.inr same)⟩

end Submission

namespace FormDesk

variable {d t : FormDesk} {n m : Nat}

/-! ## What a happening leaves alone -/

theorem happen_handler (d : FormDesk) (h : Happening) {handler : FormHandler}
    (configured : d.form.handler = some handler) : (d.happen h).form.handler = some handler := by
  rcases happen_cases d h with ⟨n, turned⟩ | called
  · generalize d.happen h = t at turned ⊢
    cases turned <;> exact configured
  · exact called.handler handler configured

/-- A turn moves its submission on, if it does anything. -/
theorem Turned.advances (turned : d.Turned n t) : d.schedule.Advances t.schedule := by
  have ends : ∀ {old : Phase} {u : FormDesk}, d.schedule.phases[n]? = some old →
      u.schedule = (d.gone n).schedule → d.schedule.Advances u.schedule := fun known same =>
    .set known (same ▸ phases_gone d n) rfl (by simp [Phase.isRunning])
  cases turned with
  | idle => exact .of_eq rfl
  | withdrawn queued => exact ends queued rfl
  | dropped runs =>
    obtain ⟨ph, at_n, -⟩ := runs
    exact ends at_n rfl
  | native awaits | ignored awaits | refused awaits => exact ends awaits.queued rfl
  | sent awaits =>
    exact .set awaits.queued (phases_sendAfter d n _ _) rfl (by simp [Phase.hasBegun])
  | concluded answered => exact ends (Schedule.phase_of_job answered) rfl

theorem happen_advances (d : FormDesk) (h : Happening) :
    d.schedule.Advances (d.happen h).schedule := by
  rcases happen_cases d h with ⟨n, turned⟩ | called
  · exact turned.advances
  · exact .of_calls called.calls

/-- Only a submission that begins sends a request. -/
theorem happen_posts (d : FormDesk) (h : Happening) :
    (d.happen h).schedule.posts = d.schedule.posts ∨
    ∃ m request, d.Awaits m ∧
      (d.happen h).schedule.posts = d.schedule.posts ++ [(m, request)] := by
  have silent : ∀ {m : Nat} {u : FormDesk}, u.schedule = (d.gone m).schedule →
      u.schedule.posts = d.schedule.posts := by
    intro m u same
    simp [same, gone, Schedule.posts]
  rcases happen_cases d h with ⟨m, turned⟩ | called
  · generalize d.happen h = t at turned ⊢
    cases turned with
    | idle => exact .inl rfl
    | @sent _ _ request awaits =>
      exact .inr ⟨m, request, awaits, by simp [sendAfter, Schedule.posts]⟩
    | withdrawn | dropped | native | ignored | refused | concluded => exact .inl (silent rfl)
  · exact .inl called.calls.posts

/-- A submission that has begun sends nothing more. -/
theorem happen_requestsOf (begun : d.schedule.HasBegun n) (h : Happening) :
    (d.happen h).schedule.requestsOf n = d.schedule.requestsOf n := by
  rcases happen_posts d h with same | ⟨m, request, awaits, more⟩
  · rw [Schedule.requestsOf, same, Schedule.requestsOf]
  · have other : m ≠ n := fun equal => Schedule.not_in awaits.queued rfl (equal ▸ begun)
    simp [Schedule.requestsOf, more, other]

/-- As long as a submission runs, nobody writes. -/
theorem Guarded.happen_silent (guarded : d.Guarded) (runs : d.Runs n) {h : Happening}
    (still : (d.happen h).Runs n) : (d.happen h).log = d.log ∧ (d.happen h).panel = d.panel := by
  -- Only one submission runs, so that one that is over cannot leave another running.
  have stopped : ∀ {m : Nat} {u : FormDesk}, d.Runs m → u.schedule = (d.gone m).schedule →
      ¬ u.Runs n := by
    intro m u runs_m same still
    obtain rfl := guarded.alone n m runs runs_m
    obtain ⟨ph, at_n, -⟩ := runs
    have ended := (Schedule.in_set at_n (same ▸ phases_gone d n) n).mp still
    simp [Phase.isRunning] at ended
  rcases happen_cases d h with ⟨m, turned⟩ | called
  · generalize d.happen h = t at turned still ⊢
    cases turned with
    | idle | withdrawn | native | ignored => exact ⟨rfl, rfl⟩
    | dropped runs_m => exact absurd still (stopped runs_m rfl)
    | refused _ _ free | sent _ _ free => exact absurd runs (guarded.not_runs free n)
    | concluded answered => exact absurd still (stopped answered.runs rfl)
  · exact ⟨called.log, called.panel⟩

/-- A submission that has ended has nothing to do any more. -/
theorem turn_of_ended (ended : d.schedule.phases[n]? = some .ended) :
    d.turn n = { d with schedule := d.schedule.pick n } := by
  have turned := turn_cases d n
  generalize d.turn n = t at turned ⊢
  have only : ∀ {ph : Phase}, d.schedule.phases[n]? = some ph → ph = .ended := fun at_n =>
    Option.some.inj (at_n.symm.trans ended)
  cases turned with
  | idle => rfl
  | withdrawn queued => cases only queued
  | dropped runs => exact absurd runs (Schedule.not_in ended rfl)
  | native awaits | ignored awaits | refused awaits | sent awaits => cases only awaits.queued
  | concluded answered => cases only (Schedule.phase_of_job answered)

/-! ## From the request to the answer -/

/-- What holds of a desk at any time after a submission sent its request: `s` is the desk as it was
then, and `place` where the request stands. -/
structure Underway (s : FormDesk) (n : Nat) (handler : FormHandler) (request : Request)
    (place : Nat) (t : FormDesk) : Prop where
  guarded : t.Guarded
  configured : t.form.handler = some handler
  begun : t.schedule.HasBegun n
  once : t.schedule.requestsOf n = [request]
  placed : t.schedule.posts[place]? = some (n, request)
  silent : t.Runs n → t.log = s.log ∧ t.panel = s.panel

namespace Underway

variable {s : FormDesk} {handler : FormHandler} {request : Request} {place : Nat}

theorem happen (underway : Underway s n handler request place t) (h : Happening) :
    Underway s n handler request place (t.happen h) where
  guarded := underway.guarded.happen h
  configured := happen_handler t h underway.configured
  begun := (happen_advances t h n underway.begun).1
  once := (happen_requestsOf underway.begun h).trans underway.once
  placed := by
    rcases happen_posts t h with same | ⟨m, other, -, more⟩
    · exact same ▸ underway.placed
    · have bound := (List.getElem?_eq_some_iff.mp underway.placed).1
      rw [more, List.getElem?_append_left bound, underway.placed]
  silent runs := by
    have ran := (happen_advances t h n underway.begun).2 runs
    obtain ⟨log, panel⟩ := underway.guarded.happen_silent ran runs
    obtain ⟨log', panel'⟩ := underway.silent ran
    exact ⟨log.trans log', panel.trans panel'⟩

theorem run (underway : Underway s n handler request place t) (later : List Happening) :
    Underway s n handler request place (t.run later) :=
  run_induction underway (fun _ h held => held.happen h) later

/-- As long as the submission waits, its request is open. -/
theorem answered (underway : Underway s n handler request place t) {j : Job Unit}
    (at_n : t.schedule.jobs[n]? = some j) (waits : j.phase = .waiting) (a : Answer) :
    (t.answer place a).2 = .delivered ∧
      (t.answer place a).1.schedule.jobs[n]? = some { j with phase := .answered a } := by
  have placed := underway.placed
  simp only [Schedule.posts, List.getElem?_map, Option.map_eq_some_iff, Prod.mk.injEq] at placed
  obtain ⟨x, at_x, rfl, -⟩ := placed
  have first := underway.guarded.posted.unanswered x (List.mem_of_getElem? at_x)
    (Schedule.waits_iff.mpr (waits ▸ Schedule.phase_of_job at_n))
  exact Schedule.answer_of_waits at_x first at_n waits a

end Underway

/-! ## The course of a submission -/

/-- In its turn a submission ends with an outcome, after some events: these messages are left on the
panel, the submit control is enabled, and no request is sent. -/
structure EndsWith (d : FormDesk) (n : Nat) (events : List FormEvent)
    (messages : List FormMessage) (outcome : SubmitOutcome) : Prop where
  outcome : (d.turn n).status? n = some (.ended outcome)
  log : (d.turn n).log = d.log ++ events ++ [.panel (.enable true)]
  panel : (d.turn n).panel = ⟨messages, true⟩
  unsent : (d.turn n).schedule.sent = d.schedule.sent

/-- A submission sends a request in its turn and ends by the rules when it has an answer, whatever
happens after that turn. -/
structure SendsAndEnds (d : FormDesk) (n : Nat) (handler : FormHandler)
    (messages : List FormMessage) (request : Request) : Prop where
  sent : (d.turn n).schedule.sent = d.schedule.sent ++ [{ job := n, request }]
  log : (d.turn n).log = d.log ++ Submission.openingEvents messages (.inr request)
  panel : (d.turn n).panel = ⟨messages, false⟩
  runs : (d.turn n).Runs n
  /-- It never sends another request. -/
  once : ∀ later, ((d.turn n).run later).schedule.requestsOf n = [request]
  /-- Nothing is written until it ends. -/
  silent : ∀ later, ((d.turn n).run later).Runs n →
    ((d.turn n).run later).log = (d.turn n).log ∧
      ((d.turn n).run later).panel = (d.turn n).panel
  /-- As long as it waits, an answer to its request is given to it. -/
  answered : ∀ later j a, ((d.turn n).run later).schedule.jobs[n]? = some j → j.phase = .waiting →
    (((d.turn n).run later).answer d.schedule.sent.length a).2 = .delivered ∧
      (((d.turn n).run later).answer d.schedule.sent.length a).1.schedule.jobs[n]? =
        some { j with phase := .answered a }
  /-- With its answer it ends by the rules. -/
  ends : ∀ later a, ((d.turn n).run later).HasAnswer n a →
    ∀ more handed outcome, Submission.Closing a more handed outcome →
      ((d.turn n).run later).EndsWith n
        (Submission.closingEvents handler.receiver more handed) (messages ++ more) outcome

/-- A submission goes by the rules from its first turn on. -/
structure GoesByTheRules (d : FormDesk) (n : Nat) (handler : FormHandler) : Prop where
  /-- There is a rule for how it begins. -/
  opens : ∃ messages next, Submission.Opening d.form handler messages next
  /-- One that is not to send a request ends at once. -/
  refused : ∀ messages outcome, Submission.Opening d.form handler messages (.inl outcome) →
    d.EndsWith n (Submission.openingEvents messages (.inl outcome)) messages outcome
  /-- One that is to send a request sends it, and ends when it has the answer. -/
  sends : ∀ messages request, Submission.Opening d.form handler messages (.inr request) →
    d.SendsAndEnds n handler messages request
  /-- There is a rule for every answer. -/
  closes : ∀ a, ∃ more handed outcome, Submission.Closing a more handed outcome
  /-- Once it has ended, it does nothing more. -/
  finished : ∀ later, ((d.turn n).run later).schedule.phases[n]? = some .ended →
    ((d.turn n).run later).turn n =
      { (d.turn n).run later with schedule := ((d.turn n).run later).schedule.pick n }

theorem panel_shown (p : FormPanel) (messages : List FormMessage) :
    (Submission.shown messages).foldl FormEvent.apply p =
      { p with messages := p.messages ++ messages } := by
  induction messages generalizing p with
  | nil => simp [Submission.shown]
  | cons message rest ih =>
    have next := ih (FormEvent.apply p (.panel (.add message)))
    simp only [Submission.shown] at next ⊢
    rw [List.map_cons, List.foldl_cons, next]
    simp [FormEvent.apply, PanelWrite.apply]

theorem panel_opening (p : FormPanel) (messages : List FormMessage)
    (next : SubmitOutcome ⊕ Request) :
    (Submission.openingEvents messages next).foldl FormEvent.apply p =
      ⟨messages, next.isLeft && p.submitEnabled⟩ := by
  cases next <;>
    simp [Submission.openingEvents, panel_shown, FormEvent.apply, PanelWrite.apply]

theorem panel_closing (p : FormPanel) (receiver : String) (messages : List FormMessage)
    (handed : Option Json) :
    (Submission.closingEvents receiver messages handed).foldl FormEvent.apply p =
      { p with messages := p.messages ++ messages } := by
  cases handed <;> simp [Submission.closingEvents, panel_shown, FormEvent.apply]

theorem Guarded.endsWith (guarded : d.Guarded) {ph : Phase}
    (known : d.schedule.phases[n]? = some ph) {events : List FormEvent} {outcome : SubmitOutcome}
    (turned : d.turn n = d.endAfter n events outcome) :
    d.EndsWith n events (events.foldl FormEvent.apply d.panel).messages outcome := by
  have bound := (List.getElem?_eq_some_iff.mp known).1
  rw [← guarded.counted] at bound
  refine ⟨?_, by rw [turned]; rfl, by rw [turned]; rfl, ?_⟩
  · simp [turned, status?, FormDesk.endAfter, FormDesk.turnAway, List.getElem?_set_self bound]
  · rw [turned]
    exact Schedule.sent_setPhase _ _ _

theorem Guarded.sendsAndEnds (guarded : d.Guarded) (awaits : d.Awaits n) {handler : FormHandler}
    (configured : d.form.handler = some handler) (free : d.inFlight = false)
    {messages : List FormMessage} {request : Request}
    (opening : Submission.Opening d.form handler messages (.inr request)) :
    d.SendsAndEnds n handler messages request := by
  have begins := Submission.begin_of_opening opening
  have turned : d.turn n =
      d.sendAfter n (Submission.openingEvents messages (.inr request)) request := by
    rw [turn_accepted awaits configured free, begins]
  have panel : (d.turn n).panel = ⟨messages, false⟩ := by
    rw [turned]
    exact panel_opening d.panel messages (.inr request)
  have sent : (d.turn n).schedule.sent = d.schedule.sent ++ [{ job := n, request }] := by
    rw [turned]
    exact Schedule.sent_send (d.schedule.pick n) n request
  have waits : (d.turn n).schedule.phases[n]? = some .waiting := by
    rw [turned, phases_sendAfter,
      List.getElem?_set_self (List.getElem?_eq_some_iff.mp awaits.queued).1]
  -- What the turn leaves is where `Underway` begins, and all that is said of later comes from it.
  have underway : Underway (d.turn n) n handler request d.schedule.sent.length (d.turn n) := by
    refine ⟨guarded.happen (.turn n), by rw [turned]; exact configured, ⟨_, waits, rfl⟩, ?_, ?_,
      fun _ => ⟨rfl, rfl⟩⟩
    · have none_yet := guarded.posted.requestsOf_queued awaits.queued
      simp only [Schedule.requestsOf, Schedule.posts] at none_yet ⊢
      rw [sent, List.map_append, List.filter_append, List.map_append, none_yet]
      simp
    · simp [Schedule.posts, sent]
  refine ⟨sent, by rw [turned]; rfl, panel, ⟨_, waits, rfl⟩, fun later => (underway.run later).once,
    fun later => (underway.run later).silent,
    fun later j a at_n still => (underway.run later).answered at_n still a, ?_⟩
  intro later a answered more handed outcome closing
  have held := underway.run later
  have known := Schedule.phase_of_job answered
  have receiver : ((((d.turn n).run later).form.handler.map (·.receiver)).getD "") =
      handler.receiver := by
    rw [held.configured]
    rfl
  have last := turn_answered answered
  rw [receiver, Submission.conclude_of_closing closing handler.receiver] at last
  have ends := held.guarded.endsWith known last
  rwa [(held.silent answered.runs).2, panel, panel_closing] at ends

theorem Guarded.goesByTheRules (guarded : d.Guarded) (awaits : d.Awaits n) {handler : FormHandler}
    (configured : d.form.handler = some handler) (idle : ∀ m, ¬ d.Runs m) :
    d.GoesByTheRules n handler where
  opens := Submission.exists_opening d.form handler
  refused messages outcome opening := by
    have turned : d.turn n =
        d.endAfter n (Submission.openingEvents messages (.inl outcome)) outcome := by
      rw [turn_accepted awaits configured (guarded.free idle),
        Submission.begin_of_opening opening]
    have ends := guarded.endsWith awaits.queued turned
    rwa [panel_opening] at ends
  sends _ _ opening := guarded.sendsAndEnds awaits configured (guarded.free idle) opening
  closes := Submission.exists_closing
  finished _ := turn_of_ended

/-- A submission that is accepted goes by the rules, whatever has happened and whatever happens
meanwhile. -/
theorem submission_goes_by_the_rules (form : Form) (messages : List FormMessage)
    (history : List Happening) {n : Nat} {handler : FormHandler}
    (configured : ((opened form messages).run history).form.handler = some handler)
    (awaits : ((opened form messages).run history).Awaits n)
    (idle : ∀ m, ¬ ((opened form messages).run history).Runs m) :
    ((opened form messages).run history).GoesByTheRules n handler :=
  ((Guarded.opened form messages).run history).goesByTheRules awaits configured idle

/-- A form of settings whose empty fields are not sent. -/
def settingsForm : Form where
  method := .post
  action := "/api/web/settings"
  fields := [("display_name", "mapper"), ("description", "")]
  handler := some { receiver := "saved", omitEmpty := true }

theorem submission_goes_by_the_rules_settings :
    (((opened settingsForm []).run [.action .submit, .turn 0]).schedule.sent =
      [{ job := 0, request := ⟨.post, "/api/web/settings", [("display_name", "mapper")]⟩ }]) ∧
    ((opened settingsForm []).run
        [.action .submit, .turn 0, .action (.answer 0 (.ok ⟨204, none, []⟩))]).EndsWith 0
      [.success "saved" .null] [] (.succeeded .null) := by
  have idle : ∀ m, ¬ ((opened settingsForm []).run [.action .submit]).Runs m := by
    rintro m ⟨ph, at_m, runs⟩
    have queued : ph ∈ ((opened settingsForm []).run [.action .submit]).schedule.phases :=
      List.mem_of_getElem? at_m
    obtain rfl : ph = .queued := List.mem_singleton.mp queued
    cases runs
  have course :=
    submission_goes_by_the_rules settingsForm [] [.action .submit] (n := 0) rfl rfl idle
  have opening : Submission.Opening settingsForm { receiver := "saved", omitEmpty := true } []
      (.inr (Submission.wanted settingsForm { receiver := "saved", omitEmpty := true })) :=
    .unchecked rfl
  have sends := course.sends _ _ opening
  have closing : Submission.Closing (.ok ⟨204, none, []⟩) [] (some .null) (.succeeded .null) :=
    .succeeded ⟨by decide, by decide⟩ (.blank (by simp [Response.IsBlank])) (.none rfl) .nil
  exact ⟨sends.sent, sends.ends [.action (.answer 0 (.ok ⟨204, none, []⟩))] _ rfl _ _ _ closing⟩

end FormDesk

end MapSidebar
