import Mathlib.Data.List.Induction
import QuasiGrammar.Proofs.Debounce.Simulation
import QuasiGrammar.Proofs.Publish.Pauses
import QuasiGrammar.Service.Moves

/-
  QuasiGrammar.Proofs.Service.Convergence
  ───────────────────────────────────────
  **What is published is what was built last.**

  A service without faults is looked at as a line: at every moment, what the
  files and the registry will be once the run that is served is done is what the
  documents built so far make of them (`Keeps`).  Rules that cannot be built
  change neither.  So whenever no run is active, the directory holds the
  document that was built last and nothing else.
-/

namespace QuasiGrammar

open Work

/-! ## §1. Calls of the registry. -/

/-- The calls of the registry among events. -/
def registryEvents (events : List Event) : List Call :=
  (events.filterMap Event.call?).filter Call.goesToRegistry

theorem registryEvents_append (before after : List Event) :
    registryEvents (before ++ after) = registryEvents before ++ registryEvents after := by
  unfold registryEvents
  rw [List.filterMap_append, List.filter_append]

namespace Store

/-- The calls of the registry when texts are published one after another. -/
def renewals (s : Store) : Option String → List String → List Call
  | _, [] => []
  | last, text :: rest => s.renewal last text ++ s.renewals (some text) rest

theorem renewals_concat (s : Store) (last : Option String) (texts : List String) (text : String) :
    s.renewals last (texts ++ [text]) =
      s.renewals last texts ++ s.renewal (texts.getLast?.or last) text := by
  induction texts generalizing last with
  | nil => exact List.append_nil _
  | cons first rest ih =>
    rw [List.cons_append, renewals, ih, renewals, List.append_assoc]
    cases rest with
    | nil => rfl
    | cons second more => rfl

/-- The last text that was published is registered, after the one before it was removed. -/
theorem exists_renewals_eq (s : Store) {texts : List String} {text : String}
    (h : texts.getLast? = some text) : ∃ before, s.renewals none texts =
      before ++ [.unregister s.scopeName, .register (s.pathTo (s.nameOf text))] := by
  induction texts using List.reverseRecOn with
  | nil => cases h
  | append_singleton texts last ih =>
    rw [List.getLast?_concat] at h
    cases h
    rw [renewals_concat, Option.or_none]
    unfold renewal
    by_cases hsame : texts.getLast? = some text
    · rw [if_pos hsame, List.append_nil]
      exact ih hsame
    · rw [if_neg hsame]
      exact ⟨_, rfl⟩

end Store

/-! ## §2. What a line will have come to. -/

/-- A service seen as a line. -/
abbrev ServiceLine := Line (List String) Host Service.Waiting Event

namespace Service

/-- The calls of the registry that have been seen. -/
def seenCalls (log : List (Nat × Event)) : List Call := registryEvents (log.map (·.2))

/-- The host and the calls of the registry once the run that is served is done. -/
def outlook (l : ServiceLine) : Host × List Call :=
  match l.current with
  | none => (l.state, seenCalls l.log)
  | some p =>
      ((p.task.run l.state).1, seenCalls l.log ++ registryEvents (p.task.run l.state).2.1)

variable {s : Service} {l l' : ServiceLine}

theorem seenCalls_see (l : ServiceLine) (events : List Event) :
    seenCalls (l.see events).log = seenCalls l.log ++ registryEvents events := by
  unfold seenCalls
  show registryEvents ((l.log ++ events.map fun e => (l.clock, e)).map (·.2)) = _
  rw [List.map_append, registryEvents_append, List.map_map]
  congr 2
  exact List.map_id _

/-- Warnings are no calls. -/
theorem registryEvents_warningOf (s : Service) (r : Except Failure String) :
    registryEvents (Runner.warningOf s.action r) = [] := by
  unfold Runner.warningOf
  cases r with
  | ok name => rfl
  | error f =>
    by_cases hreported : f.isReported = true
    · simp only [if_pos hreported]
      rfl
    · simp only [if_neg hreported]
      rfl

/-- What is seen besides, if it is no call of the registry, changes nothing. -/
theorem outlook_see {events : List Event} (hnone : registryEvents events = []) (l : ServiceLine) :
    outlook (l.see events) = outlook l := by
  have hseen := seenCalls_see l events
  rw [hnone, List.append_nil] at hseen
  unfold outlook
  rw [hseen]
  rfl

/-- A run that is served comes to what its program comes to without pauses. -/
theorem outlook_serve (s : Service) (inputs : List String)
    (w : Host × List Event × Progress (Except Failure String)) (l : ServiceLine) :
    outlook (l.serve s.action inputs (stretch w)) =
      ((Progress.finish w).1, seenCalls l.log ++ registryEvents (Progress.finish w).2.1) := by
  obtain ⟨h, events, progress⟩ := w
  have hseen := seenCalls_see { l with state := h } events
  cases progress with
  | finished r =>
    have hwarned := seenCalls_see (({ l with state := h } : ServiceLine).see events)
      (Runner.warningOf s.action r)
    rw [registryEvents_warningOf, List.append_nil, hseen] at hwarned
    exact Prod.ext rfl hwarned
  -- What is still to come of the program is part of the outlook.
  | waiting ms p =>
    show ((p.run h).1, seenCalls (({ l with state := h } : ServiceLine).see events).log ++ _) = _
    rw [hseen, List.append_assoc, ← registryEvents_append]
    rfl

/-! ## §3. The invariant. -/

/-- Digests tell some texts apart. -/
def TellsApart (texts : List String) : Prop :=
  ∀ t ∈ texts, ∀ u ∈ texts, Digest.ofText t = Digest.ofText u → t = u

/-- Nothing is planned to fail, and once the run that is served is done the document that was built
last is published, and the registry has been called for it. -/
structure Keeps (s : Service) (l : ServiceLine) : Prop where
  clear : l.state.IsClear
  ahead : TellsApart (s.built l.begun) →
    s.store.Published (s.built l.begun).getLast? (outlook l).1 ∧
      (outlook l).2 = s.store.renewals none (s.built l.begun)

theorem rebuild_of_not_built {rules : List String} (hbuild : s.build? rules = none) :
    ∃ f, s.rebuild rules = throw f := by
  unfold build? at hbuild
  unfold rebuild
  cases hdoc : Document.build s.engine s.settings.scopeName rules with
  | error f => exact ⟨f, rfl⟩
  | ok text =>
    rw [hdoc] at hbuild
    cases hbuild

theorem rebuild_of_built {rules : List String} {text : String} (hbuild : s.build? rules = some text) :
    s.rebuild rules = s.store.publish text := by
  unfold build? at hbuild
  unfold rebuild
  cases hdoc : Document.build s.engine s.settings.scopeName rules with
  | error f =>
    rw [hdoc] at hbuild
    cases hbuild
  | ok text' =>
    rw [hdoc] at hbuild
    cases hbuild
    rfl

/-- A run whose rules cannot be built ends at once: it makes no call, and leaves the host as it
is. -/
theorem start_of_not_built {rules : List String} (hbuild : s.build? rules = none) (h : Host) :
    ∃ f, s.action.start rules h = ⟨h, [], .ended (.error f)⟩ := by
  obtain ⟨f, hthrow⟩ := rebuild_of_not_built hbuild
  refine ⟨f, ?_⟩
  show stretch ((s.rebuild rules).run.proceed h) = _
  rw [hthrow]
  rfl

/-- The run of a document that can be built publishes it. -/
theorem run_rebuild (hs : s.store.HasPlainPrefix) (hroom : s.store.HasRoom) {last : Option String}
    {h : Host} (hpub : s.store.Published last h) {rules : List String} {text : String}
    (hbuild : s.build? rules = some text)
    (hdigest : ∀ t, last = some t → Digest.ofText t = Digest.ofText text → t = text) :
    s.store.Published (some text) ((s.rebuild rules).run.run h).1 ∧
      registryEvents ((s.rebuild rules).run.run h).2.1 = s.store.renewal last text := by
  rw [rebuild_of_built hbuild]
  obtain ⟨hhost, hcalls, -⟩ := Program.run_eq_course (s.store.publish text).run h
  obtain ⟨-, hdone, hregistry⟩ :=
    hpub.publish hs hroom hdigest (goes_course (s.store.publish text) h)
  unfold registryEvents
  rw [hhost, hcalls]
  exact ⟨hdone, hregistry⟩

theorem state_stretch (w : Host × List Event × Progress (Except Failure String)) :
    (stretch w).state = w.1 := by
  obtain ⟨h, events, progress⟩ := w
  cases progress <;> rfl

/-- One more run publishes its document, if it can be built, and changes nothing else. -/
theorem published_next (hs : s.store.HasPlainPrefix) (hroom : s.store.HasRoom) {h : Host}
    {calls : List Call} {begun : List (List String)} (rules : List String)
    (hahead : TellsApart (s.built begun) →
      s.store.Published (s.built begun).getLast? h ∧ calls = s.store.renewals none (s.built begun))
    (hapart : TellsApart (s.built (begun ++ [rules]))) :
    s.store.Published (s.built (begun ++ [rules])).getLast? ((s.rebuild rules).run.run h).1 ∧
      calls ++ registryEvents ((s.rebuild rules).run.run h).2.1 =
        s.store.renewals none (s.built (begun ++ [rules])) := by
  have happend : s.built (begun ++ [rules]) = s.built begun ++ s.built [rules] :=
    List.filterMap_append
  rw [happend] at hapart ⊢
  obtain ⟨hpub, hcalls⟩ := hahead fun t ht u hu =>
    hapart t (List.mem_append_left _ ht) u (List.mem_append_left _ hu)
  cases hbuild : s.build? rules with
  | none =>
    obtain ⟨f, hthrow⟩ := rebuild_of_not_built hbuild
    rw [show s.built [rules] = [] from List.filterMap_cons_none hbuild, List.append_nil, hthrow]
    exact ⟨hpub, (List.append_nil _).trans hcalls⟩
  | some text =>
    have hone : s.built [rules] = [text] := List.filterMap_cons_some hbuild
    rw [hone] at hapart ⊢
    -- Only a text with the same digest could pass for this one, and that would be the same text.
    obtain ⟨hdone, hregistry⟩ := run_rebuild hs hroom hpub hbuild fun t ht =>
      hapart t (List.mem_append_left _ (List.mem_of_getLast? ht)) text
        (List.mem_append_right _ List.mem_cons_self)
    rw [List.getLast?_concat, Store.renewals_concat, Option.or_none, hcalls, hregistry]
    exact ⟨hdone, rfl⟩

/-- A run begins: its document is published next, if it can be built. -/
theorem keeps_begin (hs : s.store.HasPlainPrefix) (hroom : s.store.HasRoom) (h : s.Keeps l)
    {rules : List String} {rest : List (List String)} (hfree : l.current = none) :
    s.Keeps (l.begin s.action rules rest) := by
  have hnow : outlook l = (l.state, seenCalls l.log) := by
    unfold outlook
    rw [hfree]
  have hahead := h.ahead
  rw [hnow] at hahead
  let ready : ServiceLine := { l with waiting := rest, begun := l.begun ++ [rules] }
  have hbegun : (l.begin s.action rules rest).begun = l.begun ++ [rules] := Line.begun_serve _ _ _ _
  have hlook : outlook (l.begin s.action rules rest) =
      (((s.rebuild rules).run.run l.state).1,
        seenCalls l.log ++ registryEvents ((s.rebuild rules).run.run l.state).2.1) := by
    rw [← Program.finish_proceed]
    exact outlook_serve s rules _ ready
  constructor
  · show (Line.serve s.action rules (stretch ((s.rebuild rules).run.proceed l.state))
      ready).state.IsClear
    rw [Line.state_serve, state_stretch]
    exact Program.isClear_proceed _ h.clear
  · rw [hbegun, hlook]
    exact published_next hs hroom rules hahead

/-- The run that is served goes on: what it will come to stays the same. -/
theorem keeps_resume (h : s.Keeps l) {p : Paused (List String) Waiting} (hcurrent : l.current = some p) :
    s.Keeps (l.resume s.action p) := by
  have hlook : outlook (l.resume s.action p) = outlook l := by
    have hserve := outlook_serve s p.inputs (p.task.resume l.state) l
    rw [Pending.finish_resume] at hserve
    unfold outlook at hserve ⊢
    rw [hcurrent]
    exact hserve
  have hbegun : (l.resume s.action p).begun = l.begun := Line.begun_serve _ _ _ _
  constructor
  · show (Line.serve s.action p.inputs (stretch (p.task.resume l.state)) l).state.IsClear
    rw [Line.state_serve, state_stretch]
    exact p.task.isClear_resume h.clear
  · rw [hbegun, hlook]
    exact h.ahead

/-- Whatever happens by itself keeps the invariant. -/
theorem keeps_step (hs : s.store.HasPlainPrefix) (hroom : s.store.HasRoom) (h : s.Keeps l)
    (hstep : Line.Step False s.action l l') : s.Keeps l' := by
  cases hstep with
  | stay => exact h
  | fire _ _ => exact ⟨h.clear, h.ahead⟩
  | begin hfree _ => exact keeps_begin hs hroom h hfree
  | resume hcurrent _ => exact keeps_resume h hcurrent
  | pass _ _ _ _ => exact ⟨h.clear, h.ahead⟩

/-! ## §4. Sessions. -/

/-- A service that looks like a line which keeps the invariant. -/
def Stays (s : Service) (r : ServiceRunner) : Prop := ∃ l, Runner.Shows False r l ∧ s.Keeps l

/-- A change of the rules arms the timer, or makes a warning. -/
theorem stays_changed {r : ServiceRunner} (rules : List String) (h : s.Stays r) :
    s.Stays (s.changed rules r) := by
  obtain ⟨l, hshows, hkeeps⟩ := h
  have hclear : r.state.IsClear := hshows.state ▸ hkeeps.clear
  unfold changed
  -- Nothing is planned to fail, so reading the rules changes no plan.
  have hsame : (s.readRules rules r.state).1 = r.state := Host.passed_of_isClear hclear .rules
  cases hread : s.readRules rules r.state with
  | mk h' result =>
    rw [hread] at hsame
    have hsame : h' = r.state := hsame
    subst hsame
    cases result with
    | error f =>
      refine ⟨_, Runner.shows_see hshows [s.warning f], hkeeps.clear, ?_⟩
      rw [outlook_see rfl]
      exact hkeeps.ahead
    | ok rules =>
      exact ⟨_, Runner.shows_schedule hshows s.quiet rules, hkeeps.clear, hkeeps.ahead⟩

theorem stays_cancel {r : ServiceRunner} (h : s.Stays r) : s.Stays r.cancel := by
  obtain ⟨l, hshows, hkeeps⟩ := h
  exact ⟨_, Runner.shows_cancel hshows, hkeeps.clear, hkeeps.ahead⟩

theorem stays_initial {h : Host} (hpub : s.store.Published none h) :
    s.Stays (Runner.initial h) :=
  ⟨_, Runner.shows_initial False h, hpub.clear, fun _ => ⟨hpub, rfl⟩⟩

theorem stays_move (hs : s.store.HasPlainPrefix) (hroom : s.store.HasRoom) {x : Session}
    (h : s.Stays x.service) (m : SessionMove) : s.Stays (x.move s m).service := by
  have hstep : ∀ {l l' : ServiceLine}, s.Keeps l → Line.Step False s.action l l' → s.Keeps l' :=
    fun hkeeps hstep => keeps_step hs hroom hkeeps hstep
  cases m with
  | deed d =>
    exact Scene.service_act s.listener (fun rules _ hr => stays_changed rules hr)
      (fun _ hr => stays_cancel hr) d x h
  | tick t => exact Runner.kept_tick hstep h t
  | advance ms => exact Runner.kept_advance hstep h _ ms
  | waitIdle => exact Runner.kept_waitIdle hstep h _

theorem stays_play (hs : s.store.HasPlainPrefix) (hroom : s.store.HasRoom) {x : Session}
    (h : s.Stays x.service) (moves : List SessionMove) : s.Stays (x.play s moves).service := by
  induction moves generalizing x with
  | nil => exact h
  | cons m rest ih => exact ih (stays_move hs hroom h m)

end Service

namespace Session

open Service

/-- **What is published is what was built last.**  A service without faults, whose files have names
that fit into a directory with an open way, starts without generated names.  Whatever is done with
the source, however long calls take and whenever turns are taken: at every moment at which no run is
active, let `built` be the documents of the runs that have begun, as far as they could be built, told
apart by their digests.  Then

1. the registry was called for each document that differs from the one before it, and for nothing
   else;
2. if nothing was built, there is no generated name, and the registry was never called;
3. if something was built, the last document is in the only file, and the last calls of the registry
   were to remove the grammar of the scope and to register that file.

A run whose rules cannot be built makes no call and leaves the host as it is. -/
theorem converges (s : Service) (h : Host) (rules : List String)
    (scripts : List (String × List (List Deed))) (moves : List SessionMove)
    (hplain : s.store.HasPlainPrefix) (hroom : s.store.HasRoom) (hdir : h.directory = s.directory)
    (hclear : h.IsClear) (hopen : h.tree.OpenTo s.directory.root)
    (hempty : s.store.generatedNames h.tree = []) :
    let x := Session.play s (Scene.initial rules scripts (Runner.initial h)) moves
    let built := s.built x.service.begun
    TellsApart built → x.service.scheduler.running = false →
      (seenCalls x.service.log = s.store.renewals none built ∧
        (built = [] → s.store.generatedNames x.host.tree = [] ∧ seenCalls x.service.log = []) ∧
        ∀ text, built.getLast? = some text →
          s.store.generatedNames x.host.tree = [s.store.nameOf text] ∧
            x.host.tree.get? (s.store.pathTo (s.store.nameOf text)) = some (.file text) ∧
            ∃ before, seenCalls x.service.log = before ++
              [.unregister s.settings.scopeName,
                .register (s.store.pathTo (s.store.nameOf text))]) ∧
      ∀ unbuilt, s.build? unbuilt = none → ∀ g : Host,
        ∃ f, s.action.start unbuilt g = ⟨g, [], .ended (.error f)⟩ := by
  intro x built hapart hidle
  have hstart : s.store.Published none h :=
    ⟨hdir, hclear, hopen, .inl (Store.slots_eq_nil hempty), Store.slots_eq_nil hempty⟩
  obtain ⟨l, hshows, hkeeps⟩ : s.Stays x.service :=
    stays_play hplain hroom (stays_initial hstart) moves
  -- Nobody is served, so what will be is now.
  have hfree := (Runner.line_of_not_running hshows hidle).1
  have hbuilt : s.built l.begun = built := by
    rw [hshows.begun]
  have hnow : outlook l = (x.host, seenCalls x.service.log) := by
    unfold outlook
    rw [hfree, hshows.state, hshows.log]
    rfl
  obtain ⟨hpub, hcalls⟩ := hkeeps.ahead (by rw [hbuilt]; exact hapart)
  rw [hnow, hbuilt] at hpub hcalls
  have hcalls : seenCalls x.service.log = s.store.renewals none built := hcalls
  refine ⟨⟨hcalls, ?_, ?_⟩, fun unbuilt hbuild g => start_of_not_built hbuild g⟩
  · intro hnil
    have hslots := hpub.slots
    rw [hnil] at hcalls hslots
    exact ⟨Store.generatedNames_eq_nil hslots, hcalls⟩
  · intro text htext
    have hslots := hpub.slots
    rw [htext] at hslots
    obtain ⟨before, hbefore⟩ := s.store.exists_renewals_eq htext
    exact ⟨Store.generatedNames_singleton hslots,
      Store.get?_of_slots_singleton (s.store.isGenerated_nameOf text) hslots,
      before, hcalls.trans hbefore⟩

/-- A service that publishes in a directory of its own. -/
def sampleService : Service := ⟨{}, none, ⟨⟨["grammars"]⟩⟩, ⟨["settings"]⟩, .held⟩

/-- A service is started with a rule that cannot be built, which is replaced by no rules before the
quiet period is over.  Later the same rule comes back, for longer, and goes again. -/
def interruptions : List SessionMove :=
  [.deed .start, .deed (.set []), .advance 10000, .deed (.set ["a"]), .advance 10000,
    .deed (.set []), .advance 10000]

/-- The session that comes of it. -/
def interrupted : Session :=
  Session.play sampleService (Session.initial ["a"] (.calm ⟨[]⟩ sampleService.directory))
    interruptions

/-- The service alone observes the source, so rules that are set call it and nobody else. -/
theorem play_set {s : Service} {x : Session} {rules : List String}
    (h : x.observers.listed = [.service]) (rest : List SessionMove) :
    Session.play s x (.deed (.set rules) :: rest) =
      Session.play s (Scene.callService s.listener { x with rules := rules }) rest := by
  have hset : Scene.perform s.listener (.set rules) x =
      ([.invoke .service], { x with rules := rules }) := by
    simp [Scene.perform, h]
  show Session.play s (Scene.act s.listener (.set rules) x) rest = _
  rw [Scene.act, Scene.work, hset]
  show Session.play s (Scene.act s.listener (.invoke .service) { x with rules := rules }) rest = _
  rw [Scene.act_of_nil rfl]
  rfl

theorem play_advance (s : Service) (x : Session) (ms : Nat) (rest : List SessionMove) :
    Session.play s x (.advance ms :: rest) = Session.play s (x.advance s ms) rest := rfl

/-- The first snapshot is superseded and never built, and the second run cannot be built. -/
theorem interrupted_idle :
    (interrupted.service.scheduler.running, interrupted.service.begun) =
      (false, [[], ["a"], []]) := by
  have hstart : interrupted = Session.play sampleService
      (Scene.perform sampleService.listener .start
        (Session.initial ["a"] (.calm ⟨[]⟩ sampleService.directory))).2 interruptions.tail := by
    rw [← Scene.act_of_nil (d := .start) rfl]
    unfold interrupted interruptions play
    rw [List.foldl_cons, List.tail_cons]
    rfl
  rw [hstart]
  unfold interruptions
  rw [List.tail_cons, play_set rfl, play_advance, play_set rfl, play_advance, play_set rfl,
    play_advance]
  decide +kernel

/-- Before and after a run that cannot be built the document of no rules is published. -/
theorem converges_interrupted :
    ∃ text, sampleService.built interrupted.service.begun = [text, text] ∧
      sampleService.store.generatedNames interrupted.host.tree =
        [sampleService.store.nameOf text] ∧
      seenCalls interrupted.service.log = [.unregister sampleService.settings.scopeName,
        .register (sampleService.store.pathTo (sampleService.store.nameOf text))] := by
  obtain ⟨hidle, hbegun⟩ := Prod.mk.inj interrupted_idle
  obtain ⟨text, hbuild⟩ : ∃ text, sampleService.build? [] = some text :=
    Option.isSome_iff_exists.1 (by decide +kernel)
  have hnone : sampleService.build? ["a"] = none := Option.isNone_iff_eq_none.1 (by decide +kernel)
  have hbuilt : sampleService.built interrupted.service.begun = [text, text] := by
    rw [hbegun]
    exact (List.filterMap_cons_some hbuild).trans
      (congrArg _ ((List.filterMap_cons_none hnone).trans (List.filterMap_cons_some hbuild)))
  have hopen : FileTree.OpenTo ⟨[]⟩ sampleService.store.directory.root := by
    refine ⟨?_, by decide, by decide⟩
    intro q _ content
    by_cases hroot : q = .root
    · simp [FileTree.get?, hroot]
    · simp [FileTree.get?, hroot]
  have hapart : TellsApart (sampleService.built interrupted.service.begun) := by
    rw [hbuilt]
    intro t ht u hu _
    simp only [List.mem_cons, List.not_mem_nil, or_false, or_self] at ht hu
    rw [ht, hu]
  obtain ⟨⟨hcalls, -, hlast⟩, -⟩ := converges sampleService
    (.calm ⟨[]⟩ sampleService.directory) ["a"] [] interruptions ⟨by decide, by decide⟩
    ⟨by decide, by decide⟩ rfl (fun _ => rfl) hopen (by decide +kernel) hapart hidle
  have htext : (sampleService.built interrupted.service.begun).getLast? = some text := by
    rw [hbuilt]
    rfl
  obtain ⟨hnames, -, -⟩ := hlast text htext
  have hcalls : seenCalls interrupted.service.log =
      sampleService.store.renewals none (sampleService.built interrupted.service.begun) := hcalls
  refine ⟨text, hbuilt, hnames, ?_⟩
  -- The last document that was built is the one that is published already.
  rw [hcalls, hbuilt]
  simp [Store.renewals, Store.renewal, Service.store]

end Session

end QuasiGrammar
