import QuasiGrammar.Proofs.Debounce.Memory
import QuasiGrammar.Proofs.Publish.Notices
import QuasiGrammar.Proofs.Rule.Failures
import QuasiGrammar.Service.Account
import QuasiGrammar.Service.Moves

/-
  QuasiGrammar.Proofs.Service.Outcomes
  ────────────────────────────────────
  **The user is told once of each outcome.**

  The record of a run follows the program of its rules, from one pause to the
  next (`Follows`).  That program is silent up to its end, and what it tells
  there the scheduler does not tell again (`tellsOutcome_of_ran`).  The records
  and the failures to read the rules account for all notices
  (`balanced_steps`), and what a failure leaves behind is what the run did to
  the host (`Spares`).
-/

namespace QuasiGrammar

namespace Service

variable {s : Service}

/-! ## §1. Outcomes. -/

/-- A run that has found or made a file for its document: the file was there, and then nothing is
called but to ask for it, and nothing is told; or it was written and registered, which is
announced. -/
def TellsOfFile (s : Service) (run : RunRecord) (name : String) : Prop :=
  ∃ text e, Document.build s.engine s.settings.scopeName run.inputs = .ok text ∧
    s.store.entry text = .ok e ∧ name = e.filename ∧
      ((callsOf run.events = [.exists name] ∧ noticesOf run.events = []) ∨
        (.write name text ∈ callsOf run.events ∧ .register e.path ∈ callsOf run.events ∧
          noticesOf run.events = [s.store.announcement e]))

/-- One outcome, one notice: nothing is told of a run before its end, a run that fails makes one
warning with the text of its failure, and of a run that succeeds a new file is told or nothing. -/
def TellsOutcome (s : Service) (run : RunRecord) : Prop :=
  match run.result with
  | none => noticesOf run.events = []
  | some (.error f) => noticesOf run.events = [s.store.notice f]
  | some (.ok name) => s.TellsOfFile run name

/-- What is seen of a rebuild: rules without a document fail at once, and otherwise the document is
published. -/
theorem leads_rebuild {rules : List String} {events : List Event} {r : Except Failure String}
    (h : Work.Leads (s.rebuild rules) events r) :
    (∃ f, Document.build s.engine s.settings.scopeName rules = .error f ∧ events = [] ∧
        r = .error f) ∨
      ∃ text, Document.build s.engine s.settings.scopeName rules = .ok text ∧
        s.store.Told text events r := by
  unfold rebuild at h
  cases hbuild : Document.build s.engine s.settings.scopeName rules with
  | error f =>
    rw [hbuild] at h
    obtain ⟨hevents, hr⟩ := Work.leads_throw.1 h
    exact .inl ⟨f, rfl, hevents, hr⟩
  | ok text =>
    rw [hbuild] at h
    exact .inr ⟨text, rfl, Store.leads_publish h⟩

/-- The warning of a failure that the user has not been told of. -/
theorem warningOf_unreported {f : Failure} (hf : f.isReported = false) :
    Runner.warningOf s.action (.error f) = [.noticed (s.store.notice f)] :=
  if_neg (by rw [hf]; exact Bool.false_ne_true)

theorem warningOf_reported {f : Failure} (hf : f.isReported = true) :
    Runner.warningOf s.action (.error f) = [] :=
  if_pos hf

/-- A run that has ended has told its outcome, the scheduler's warning included. -/
theorem tellsOutcome_of_leads (hengine : Engine.IsShipped s.engine) {run : RunRecord}
    {events : List Event} {r : Except Failure String} (hresult : run.result = some r)
    (hleads : Work.Leads (s.rebuild run.inputs) events r)
    (hevents : run.events = events ++ Runner.warningOf s.action r) : s.TellsOutcome run := by
  unfold TellsOutcome
  rw [hresult]
  rcases leads_rebuild hleads with ⟨f, hbuild, rfl, rfl⟩ | ⟨text, hbuild, htold⟩
  · have hf := Document.isReported_build hengine hbuild
    show noticesOf run.events = _
    rw [hevents, warningOf_unreported hf]
    rfl
  · cases htold with
    | lost hentry hf =>
      show noticesOf run.events = _
      rw [hevents, warningOf_unreported hf]
      rfl
    | found hentry =>
      refine ⟨text, _, hbuild, hentry, rfl, .inl ?_⟩
      rw [hevents]
      exact ⟨rfl, rfl⟩
    | announced hentry hsilent hwrite hregister =>
      refine ⟨text, _, hbuild, hentry, rfl, .inr ?_⟩
      rw [hevents, show Runner.warningOf s.action (.ok _) = [] from rfl, List.append_nil,
        callsOf_append, noticesOf_append, hsilent]
      exact ⟨List.mem_append_left _ hwrite, List.mem_append_left _ hregister, rfl⟩
    | warned hsilent hf =>
      show noticesOf run.events = _
      rw [hevents, warningOf_reported hf, List.append_nil, noticesOf_append, hsilent]
      rfl

/-- Whatever is told comes last. -/
theorem noticesOf_before_call {before after events : List Event} {c : Call} (last : Option Notice)
    (hsilent : noticesOf events = [])
    (hsame : before ++ .called c :: after = events ++ (last.map Event.noticed).toList) :
    noticesOf (before ++ [.called c]) = [] := by
  have hsplit : before ++ .called c :: after = (before ++ [.called c]) ++ after := by simp
  rw [hsplit] at hsame
  cases last with
  | none =>
    rw [Option.map_none, Option.toList_none, List.append_nil] at hsame
    rw [← hsame, noticesOf_append] at hsilent
    exact (List.append_eq_nil_iff.1 hsilent).1
  | some n =>
    -- The notice is not the call, so something follows the call.
    rcases List.eq_nil_or_concat after with rfl | ⟨more, x, rfl⟩
    · rw [List.append_nil] at hsame
      have hlast := (List.append_inj' hsame rfl).2
      cases hlast
    · rw [List.concat_eq_append, ← List.append_assoc] at hsame
      have hfront := (List.append_inj' hsame rfl).1
      rw [← hfront, noticesOf_append] at hsilent
      exact (List.append_eq_nil_iff.1 hsilent).1

/-- Nothing is told while a rebuild waits for an answer. -/
theorem noticesOf_of_reaches {rules : List String} {events : List Event} {ms : Nat} {q : Waiting}
    (h : (s.rebuild rules).run.Reaches events (.waiting ms q)) : noticesOf events = [] := by
  obtain ⟨⟨before, rfl⟩, hrest⟩ := h
  obtain ⟨after, r, hafter⟩ := (q.next (.error (.defect .nulInPath))).exists_leads
  have hleads := hrest _ after r hafter
  rw [List.append_assoc] at hleads
  rcases leads_rebuild hleads with ⟨f, -, hnil, -⟩ | ⟨text, -, htold⟩
  · simp at hnil
  · generalize hall : before ++ ([.called q.call] ++ after) = all at htold
    cases htold with
    | lost => simp at hall
    | found =>
      exact noticesOf_before_call none rfl (hall.trans (List.append_nil _).symm)
    | announced _ hsilent => exact noticesOf_before_call (some _) hsilent hall
    | warned hsilent => exact noticesOf_before_call (some _) hsilent hall

/-! ## §2. Runs. -/

/-- A run has gone as the program of its rules goes: to its end, with the scheduler's warning after
it, or to a call that takes time. -/
def Follows (s : Service) (run : RunRecord) : Option Waiting → Prop
  | none => ∃ events r, run.result = some r ∧ Work.Leads (s.rebuild run.inputs) events r ∧
      run.events = events ++ Runner.warningOf s.action r
  | some q => run.result = none ∧
      ∃ ms, (s.rebuild run.inputs).run.Reaches run.events (.waiting ms q)

theorem follows_stretch {inputs : List String} (before : List Event)
    {w : Host × List Event × Progress (Except Failure String)}
    (h : (s.rebuild inputs).run.Reaches (before ++ w.2.1) w.2.2) :
    s.Follows ⟨inputs, before ++ s.action.seen (stretch w), (stretch w).stop.result?⟩
      (stretch w).stop.task? := by
  obtain ⟨host, events, progress⟩ := w
  cases progress with
  | finished r => exact ⟨before ++ events, r, rfl, h, (List.append_assoc ..).symm⟩
  | waiting ms q => exact ⟨rfl, ms, h⟩

theorem follows_of_ran {run : RunRecord} {left : Option Waiting} (h : s.action.Ran run left) :
    s.Follows run left := by
  induction h with
  | begins inputs host =>
    exact follows_stretch [] (Program.reaches_proceed (s.rebuild inputs).run host)
  | goesOn _ host ih =>
    obtain ⟨-, ms, hreaches⟩ := ih
    exact follows_stretch _ (hreaches.resume host)

/-- **A run tells its outcome**, on whatever hosts it goes on after its pauses. -/
theorem tellsOutcome_of_ran (hengine : Engine.IsShipped s.engine) {run : RunRecord}
    {left : Option Waiting} (h : s.action.Ran run left) : s.TellsOutcome run := by
  have hfollows := follows_of_ran h
  cases left with
  | none =>
    obtain ⟨events, r, hresult, hleads, hevents⟩ := hfollows
    exact tellsOutcome_of_leads hengine hresult hleads hevents
  | some q =>
    obtain ⟨hresult, ms, hreaches⟩ := hfollows
    unfold TellsOutcome
    rw [hresult]
    exact noticesOf_of_reaches hreaches

/-! ## §3. Books. -/

/-- The warnings that the rules cannot be read. -/
def unreadEvents (s : Service) (unread : List Failure) : List Event := unread.map s.warning

/-- The books account for all that was seen. -/
def Balanced (s : Service) (x : Account) : Prop :=
  x.service.Accounts s.action x.runs (s.unreadEvents x.unread)

theorem balanced_initial (s : Service) (h : Host) : s.Balanced (.initial h) :=
  Runner.accounts_initial h

theorem balanced_step {x : Account} (h : s.Balanced x) (m : ServiceStep) :
    s.Balanced (x.step s m) := by
  have hnothing : s.unreadEvents (x.unread ++ []) = s.unreadEvents x.unread := by
    rw [List.append_nil]
  unfold Balanced Account.step
  cases m with
  | changed held =>
    show (s.changed held x.service).Accounts s.action x.runs
      (s.unreadEvents (x.unread ++ (failureOf (s.readRules held x.service.state).2).toList))
    rw [changed_eq]
    cases (s.readRules held x.service.state).2 with
    | error f =>
      rw [unreadEvents, List.map_append]
      exact (Runner.Accounts.state h _).see [s.warning f]
    | ok rules =>
      show Runner.Accounts s.action _ _ (s.unreadEvents (x.unread ++ []))
      rw [hnothing]
      exact (Runner.Accounts.state h _).schedule s.quiet rules
  | cancel =>
    exact hnothing ▸ Runner.Accounts.cancel h
  | tick t => exact hnothing ▸ Runner.Accounts.tick h t
  | clock time => exact hnothing ▸ Runner.Accounts.clock h time
  | host change => exact hnothing ▸ Runner.Accounts.state h _

theorem balanced_steps {x : Account} (h : s.Balanced x) (ms : List ServiceStep) :
    s.Balanced (x.steps s ms) := by
  induction ms generalizing x with
  | nil => exact h
  | cons m rest ih => exact ih (balanced_step h m)

/-- The user is told of each outcome once: each run that has begun has its record, which tells its
outcome, once no run is active all have ended, and the notices are those of the runs and one warning
for each failure to read the rules. -/
structure TellsOnce (s : Service) (x : Account) : Prop where
  begun : x.runs.map (·.inputs) = x.service.begun
  outcomes : ∀ run ∈ x.runs, s.TellsOutcome run
  ended : x.service.scheduler.running = false → ∀ run ∈ x.runs, run.result.isSome = true
  notices : (noticesOf (x.service.log.map (·.2))).Perm
    (x.runs.flatMap (fun run => noticesOf run.events) ++ x.unread.map s.store.notice)

theorem noticesOf_flatMap (runs : List RunRecord) :
    noticesOf (runs.flatMap (·.events)) = runs.flatMap fun run => noticesOf run.events := by
  induction runs with
  | nil => rfl
  | cons run rest ih => rw [List.flatMap_cons, noticesOf_append, ih, List.flatMap_cons]

theorem noticesOf_unreadEvents (s : Service) (unread : List Failure) :
    noticesOf (s.unreadEvents unread) = unread.map s.store.notice := by
  induction unread with
  | nil => rfl
  | cons f rest ih => exact congrArg (s.store.notice f :: ·) ih

theorem Balanced.tellsOnce (hengine : Engine.IsShipped s.engine) {x : Account}
    (h : s.Balanced x) : s.TellsOnce x where
  begun := by
    obtain ⟨l, hshows, hl⟩ := h
    rw [hl.inputs, hshows.begun]
  outcomes := by
    intro run hrun
    obtain ⟨l, -, hl⟩ := h
    obtain ⟨left, hran⟩ := hl.inTurn.exists_ran hrun
    exact tellsOutcome_of_ran hengine hran
  ended := by
    intro hidle run hrun
    exact (Runner.Accounts.ended h hidle run hrun).isSome_result
  notices := by
    obtain ⟨l, hshows, hl⟩ := h
    have hnotices := hl.events.filterMap Event.notice?
    rw [hshows.log] at hnotices
    show (noticesOf _).Perm _
    rw [← noticesOf_flatMap, ← noticesOf_unreadEvents, ← noticesOf_append]
    exact hnotices

/-! ## §4. What a failure leaves behind. -/

theorem changed_withPast (s : Service) (held : List String) (past : List (Nat × Event))
    (r : ServiceRunner) : s.changed held (r.withPast past) = (s.changed held r).withPast past := by
  let read : ServiceRunner := { r with state := r.state.passed .rules }
  rw [changed_eq, changed_eq, show (r.withPast past).state = r.state from rfl]
  cases (s.readRules held r.state).2 with
  | error f => exact Runner.see_withPast past read [s.warning f]
  | ok rules => exact Runner.schedule_withPast past read s.quiet rules

/-- A service does not look at the past. -/
theorem steps_withPast (s : Service) (past : List (Nat × Event)) (r : ServiceRunner)
    (ms : List ServiceStep) : s.steps (r.withPast past) ms = (s.steps r ms).withPast past := by
  have hstep : ∀ (r : ServiceRunner) m, s.step (r.withPast past) m = (s.step r m).withPast past := by
    intro r m
    cases m with
    | changed held => exact changed_withPast s held past r
    | cancel => rfl
    | tick t => exact Runner.tick_withPast s.action past r t
    | clock time => rfl
    | host change => rfl
  induction ms generalizing r with
  | nil => rfl
  | cons m rest ih =>
    show s.steps (s.step (r.withPast past) m) rest = _
    rw [hstep, ih]
    rfl

/-- The action whose runs do to the host what they do, but do not fail, and when they would have
failed they tell nothing. -/
def sparing (s : Service) : Action (List String) String Host Waiting Event :=
  s.action.sparing (fun e => e.notice?.isNone) ""

/-- A failure in the next turn has no consequences but what the run did to the host: if it were
spared, then later steps would do the same, and the same would be seen in them. -/
def Spares (s : Service) (r : ServiceRunner) : Prop :=
  ∀ later, ∃ news,
    (s.steps (r.takeNext s.action) later).log = (r.takeNext s.action).log ++ news ∧
      (s.steps (r.takeNext s.sparing) later).log = (r.takeNext s.sparing).log ++ news ∧
        (s.steps (r.takeNext s.action) later).forget = (s.steps (r.takeNext s.sparing) later).forget

theorem Balanced.spares {x : Account} (h : s.Balanced x) : s.Spares x.service := by
  intro later
  have hsame : (x.service.takeNext s.action).forget = (x.service.takeNext s.sparing).forget :=
    Runner.forget_takeNext_sparing (Runner.Accounts.own h)
  have hlate : ∀ r : ServiceRunner, s.steps r later = (s.steps r.forget later).withPast r.log := by
    intro r
    rw [← steps_withPast, Runner.withPast_forget]
  refine ⟨(s.steps (x.service.takeNext s.action).forget later).log, ?_, ?_, ?_⟩
  · rw [hlate, Runner.log_withPast]
  · rw [hlate, Runner.log_withPast, hsame]
  · rw [hlate (x.service.takeNext s.action), hlate (x.service.takeNext s.sparing),
      Runner.forget_withPast, Runner.forget_withPast, hsame]

/-! ## §5. Sessions. -/

/-- Steps lead from one state of the scheduler to another. -/
def Leads (s : Service) (r r' : ServiceRunner) : Prop := ∃ ms, r' = s.steps r ms

theorem Leads.step {r r' : ServiceRunner} (h : s.Leads r r') (m : ServiceStep) :
    s.Leads r (s.step r' m) := by
  obtain ⟨ms, rfl⟩ := h
  exact ⟨ms ++ [m], (steps_append s r ms [m]).symm⟩

theorem leads_pass (r : ServiceRunner) (limit : Option Nat) (condition : ServiceRunner → Bool)
    (n : Nat) {r' : ServiceRunner} (h : s.Leads r r') :
    s.Leads r (Runner.pass s.action limit condition n r') :=
  Runner.pass_induction (P := s.Leads r) (fun _ t hr => hr.step (.tick t))
    (fun _ time hr => hr.step (.clock time)) limit condition n h

theorem leads_move {r : ServiceRunner} {x : Session} (h : s.Leads r x.service) (m : SessionMove) :
    s.Leads r (x.move s m).service := by
  cases m with
  | deed d =>
    exact Scene.service_act s.listener (fun rules _ hr => hr.step (.changed rules))
      (fun _ hr => hr.step .cancel) d x h
  | tick t => exact h.step (.tick t)
  | advance ms => exact (leads_pass r _ _ _ h).step (.clock _)
  | waitIdle => exact leads_pass r _ _ _ h

/-- Whatever happens in a session is a list of steps of its scheduler. -/
theorem leads_play {r : ServiceRunner} {x : Session} (h : s.Leads r x.service)
    (moves : List SessionMove) : s.Leads r (x.play s moves).service := by
  induction moves generalizing x with
  | nil => exact h
  | cons m rest ih => exact ih (leads_move h m)

end Service

namespace Account

/-- **The user is told once of each outcome.**  A service has one of the engines that are at hand; its
host fails whenever and however it likes, with failures that the user has been told of or not, takes
as long as it likes, and may be changed by anybody in between.  At every moment of every session:

1. of a run that has failed the user has been told by one warning, with the text of its failure, of
   one that has published a new file by one announcement, and of one that has found its file by
   nothing; all other notices are one warning for each time that the rules could not be read;
2. rules that cannot be read leave the timer, the runs and their turns as they are;
3. what a failure leaves behind is what the run did to the host: later steps go as if the run had
   not failed. -/
theorem one_notice_per_outcome (s : Service) (hengine : Engine.IsShipped s.engine) (h : Host) :
    (∀ ms, let x := (initial h).steps s ms
      s.TellsOnce x ∧
        (∀ held f, (s.readRules held x.service.state).2 = .error f →
          s.changed held x.service =
            ({ x.service with state := x.service.state.passed .rules } : ServiceRunner).see
              [s.warning f]) ∧
        s.Spares x.service) ∧
      ∀ rules scripts moves, ∃ ms,
        (Session.play s (Scene.initial rules scripts (Runner.initial h)) moves).service =
          ((initial h).steps s ms).service := by
  constructor
  · intro ms x
    have hbalanced : s.Balanced x := Service.balanced_steps (Service.balanced_initial s h) ms
    refine ⟨hbalanced.tellsOnce hengine, fun held f hf => ?_, hbalanced.spares⟩
    rw [Service.changed_eq, hf]
  · intro rules scripts moves
    obtain ⟨ms, hms⟩ := Service.leads_play (s := s) (r := Runner.initial h)
      (x := Scene.initial rules scripts (Runner.initial h)) ⟨[], rfl⟩ moves
    exact ⟨ms, by rw [service_steps]; exact hms⟩

/-- A service with the engine that reads expressions itself. -/
def readingService : Service := ⟨{}, some Regex.engine, ⟨⟨["grammars"]⟩⟩, ⟨["settings"]⟩, .held⟩

/-- A host on which the rules cannot be read once, and on which the directory never answers; of the
latter it claims to have told the user. -/
def silentHost : Host :=
  ((Host.calm ⟨[]⟩ readingService.directory).plan .rules
    (.after 0 (some 1) fun _ => .host ⟨false, "Error", "no rules"⟩)).plan .exists
      (.after 0 none fun _ => .problem (.general "no answer") true)

/-- Two changes of the rules, of which the first is not read; then a run comes to its end. -/
def silentRun : Account :=
  (initial silentHost).steps readingService
    [.changed [], .changed [], .clock 10000, .tick .gather, .tick .turn, .tick .turn, .tick .turn]

/-- The run has failed with a failure that counts as told, and the user is told of it all the same,
once. -/
theorem one_notice_of_silentRun :
    Engine.IsShipped readingService.engine ∧ readingService.TellsOnce silentRun ∧
      silentRun.runs.map (·.result) = [some (.error (.problem (.general "no answer") true))] ∧
      noticesOf (silentRun.service.log.map (·.2)) =
        [⟨.warning, "language-babel", "no rules"⟩, ⟨.warning, "language-babel", "no answer"⟩] :=
  ⟨.reader, ((one_notice_per_outcome readingService .reader silentHost).1 _).1, by decide +kernel,
    by decide +kernel⟩

end Account

end QuasiGrammar
