import QuasiGrammar.Proofs.Publish.SingleFile

/-
  QuasiGrammar.Proofs.Publish.Registration
  ────────────────────────────────────────
  **When a text that is published is also registered.**

  A publication that finds its file makes no call of the registry.  It relies
  on the last renewal: the last task in which the registry has removed a
  grammar.  If that one returned, its file is the one found, and registered; if
  it failed or broke off, its file was written but not registered, or an older
  file was left, and nothing is registered although the text counts as
  published (`lastRegistryCall_iff`).

  The second case is real: `unregistered_though_published`.
-/

namespace QuasiGrammar

open Store Work

/-! ## §1. Calls of the registry. -/

/-- Whether a call goes to the registry. -/
def Call.goesToRegistry : Call → Bool
  | .unregister _ | .register _ => true
  | .exists _ | .list | .write _ _ | .delete _ => false

/-- Whether a call removes a grammar from the registry. -/
def Call.isRemoval : Call → Bool
  | .unregister _ => true
  | _ => false

/-- The calls of the registry that took effect. -/
def registryCalls (steps : List Answered) : List Call :=
  (steps.filter fun a => a.call.goesToRegistry && a.tookEffect).map (·.call)

/-- Whether the registry has removed a grammar in the course of a task. -/
def Outcome.renews (o : Outcome) : Bool := (registryCalls o.steps).any Call.isRemoval

/-- Whether a task has come to its end without a failure. -/
def Outcome.returned (o : Outcome) : Prop := ∃ answer, o.result = some (.ok answer)

/-- The path of the file that a task has published. -/
def Outcome.path? (s : Store) (o : Outcome) : Option Path :=
  match o.result with
  | some (.ok (some name)) => (s.directory.resolve name).toOption
  | _ => none

/-- The last task in which the registry has removed a grammar. -/
def lastRenewal (os : List Outcome) : Option Outcome := (os.filter (·.renews)).getLast?

/-- The last call of the registry that took effect. -/
def lastRegistryCall (os : List Outcome) : Option Call :=
  (registryCalls (os.flatMap (·.steps))).getLast?

@[simp]
theorem registryCalls_append (before after : List Answered) :
    registryCalls (before ++ after) = registryCalls before ++ registryCalls after := by
  unfold registryCalls
  rw [List.filter_append, List.map_append]

theorem registryCalls_cons (a : Answered) (rest : List Answered) :
    registryCalls (a :: rest) = registryCalls [a] ++ registryCalls rest :=
  registryCalls_append [a] rest

/-- A call that failed did not count. -/
@[simp]
theorem registryCalls_failed (c : Call) (f : Failure) (h : Host) :
    registryCalls [⟨c, some f, h⟩] = [] := by
  simp [registryCalls, Answered.tookEffect]

theorem registryCalls_of_goesToRegistry {c : Call} (h : Host) (hc : c.goesToRegistry = true) :
    registryCalls [⟨c, none, h⟩] = [c] := by
  simp [registryCalls, Answered.tookEffect, hc]

theorem registryCalls_of_not {c : Call} (f : Option Failure) (h : Host)
    (hc : c.goesToRegistry = false) : registryCalls [⟨c, f, h⟩] = [] := by
  simp [registryCalls, hc]

/-! ## §2. The registry in the course of one task. -/

namespace Store

variable {s : Store} {e : StoreEntry} {text : String} {h h' : Host} {steps : List Answered}

/-- Removing the files of the store is no business of the registry. -/
theorem goesToRegistry_removeGenerated {r : Except Failure (List String)}
    (hgo : Goes s.removeGenerated h steps h' r) : ∀ a ∈ steps, a.call.goesToRegistry = false := by
  intro a ha
  rcases call_of_removeGenerated hgo a ha with hcall | ⟨name, -, hcall⟩
  · rw [hcall]
    rfl
  · rw [hcall]
    rfl

theorem registryCalls_removeGenerated {r : Except Failure (List String)}
    (hgo : Goes s.removeGenerated h steps h' r) : registryCalls steps = [] := by
  unfold registryCalls
  rw [List.map_eq_nil_iff, List.filter_eq_nil_iff]
  intro a ha
  rw [goesToRegistry_removeGenerated hgo a ha]
  exact Bool.false_ne_true

/-- A replacement that fails has removed the grammar at most; one that succeeds has removed it and
ends with the registration of the file. -/
theorem registryCalls_replacement {r : Except Failure Unit}
    (hgo : s.Replacement e text h steps h' r) :
    ((∃ f, r = .error f) ∧
        (registryCalls steps = [] ∨ registryCalls steps = [.unregister s.scopeName])) ∨
      r = .ok () ∧ ∃ front, steps = front ++ [⟨.register e.path, none, h'⟩] ∧
        registryCalls front = [.unregister s.scopeName] := by
  have hun : ∀ g : Host, registryCalls [⟨.unregister s.scopeName, none, g⟩] =
      [.unregister s.scopeName] := fun g => registryCalls_of_goesToRegistry g rfl
  cases hgo with
  | kept _ => exact .inl ⟨⟨_, rfl⟩, .inl (registryCalls_failed _ _ _)⟩
  | uncleared _ hclear =>
    refine .inl ⟨⟨_, rfl⟩, .inr ?_⟩
    rw [registryCalls_cons, hun, registryCalls_removeGenerated hclear]
    rfl
  | unwritten _ hclear _ =>
    refine .inl ⟨⟨_, rfl⟩, .inr ?_⟩
    rw [registryCalls_cons, hun, registryCalls_append, registryCalls_removeGenerated hclear,
      registryCalls_failed]
    rfl
  | @unregistered mid clean written refused _ cleared names f f' q _ hclear _ _ _ =>
    refine .inl ⟨⟨_, rfl⟩, .inr ?_⟩
    have hlast : registryCalls [⟨.write e.filename text, none, written⟩,
        ⟨.register e.path, some f, refused⟩, ⟨.delete e.filename, failureOf q, h'⟩] = [] := by
      rw [registryCalls_cons, registryCalls_of_not _ _ rfl, registryCalls_cons,
        registryCalls_failed, registryCalls_of_not _ _ rfl]
      rfl
    rw [registryCalls_cons, hun, registryCalls_append, registryCalls_removeGenerated hclear, hlast]
    rfl
  | @done mid clean written _ cleared names _ hclear _ _ =>
    refine .inr ⟨rfl, ⟨.unregister s.scopeName, none, mid⟩ ::
      (cleared ++ [⟨.write e.filename text, none, written⟩]), by simp, ?_⟩
    rw [registryCalls_cons, hun, registryCalls_append, registryCalls_removeGenerated hclear,
      registryCalls_of_not _ _ rfl]
    rfl

/-- A publication that returns has made no call of the registry, or has replaced the grammar in it;
one that fails has removed the grammar at most. -/
theorem registryCalls_publication {r : Except Failure String}
    (hgo : s.Publication e text h steps h' r) :
    (r = .ok e.filename ∧ registryCalls steps = []) ∨
      ((∃ f, r = .error f) ∧
        (registryCalls steps = [] ∨ registryCalls steps = [.unregister s.scopeName])) ∨
      r = .ok e.filename ∧ ∃ front, steps = front ++ [⟨.register e.path, none, h'⟩] ∧
        registryCalls front = [.unregister s.scopeName] := by
  have hex : ∀ (f : Option Failure) (g : Host), registryCalls [⟨.exists e.filename, f, g⟩] = [] :=
    fun f g => registryCalls_of_not f g rfl
  cases hgo with
  | unknown _ => exact .inr (.inl ⟨⟨_, rfl⟩, .inl (hex _ _)⟩)
  | found _ => exact .inl ⟨rfl, hex _ _⟩
  | failed _ hrep =>
    rcases registryCalls_replacement hrep with ⟨-, hcalls⟩ | ⟨hbad, -⟩
    · refine .inr (.inl ⟨⟨_, rfl⟩, ?_⟩)
      rw [registryCalls_cons, hex, List.nil_append]
      exact hcalls
    · cases hbad
  | @replaced mid _ rest _ hrep =>
    rcases registryCalls_replacement hrep with ⟨⟨_, hbad⟩, -⟩ | ⟨-, front, hsteps, hcalls⟩
    · cases hbad
    · refine .inr (.inr ⟨rfl, ⟨.exists e.filename, none, mid⟩ :: front, by rw [hsteps]; rfl, ?_⟩)
      rw [registryCalls_cons, hex, List.nil_append]
      exact hcalls

/-- What a task has done to the registry. -/
inductive RegistryChange (s : Store) (o : Outcome) : Prop
  | none (hcalls : registryCalls o.steps = [])
  /-- The grammar was removed, and the task failed or broke off. -/
  | removal (hcalls : registryCalls o.steps = [.unregister s.scopeName]) (hfail : ¬ o.returned)
  /-- The grammar was replaced by that of a text. -/
  | renewal {text : String} {e : StoreEntry} (htask : o.task = .publish text)
      (he : s.entry text = .ok e)
      (hcalls : registryCalls o.steps = [.unregister s.scopeName, .register e.path])
      (hresult : o.result = some (.ok (some e.filename)))

theorem prefix_of_short {c : Call} {calls all : List Call} (hpre : calls <+: all)
    (hall : all = [] ∨ all = [c]) : calls = [] ∨ calls = [c] := by
  rcases hall with rfl | rfl
  · exact .inl (List.prefix_nil.1 hpre)
  · rcases List.prefix_cons_iff.1 hpre with rfl | ⟨rest, rfl, hrest⟩
    · exact .inl rfl
    · rw [List.prefix_nil.1 hrest]
      exact .inr rfl

theorem registryCalls_mono {before steps : List Answered} (h : before <+: steps) :
    registryCalls before <+: registryCalls steps := by
  obtain ⟨rest, rfl⟩ := h
  rw [registryCalls_append]
  exact List.prefix_append _ _

theorem not_returned {o : Outcome} (h : ∀ answer, o.result ≠ some (.ok answer)) : ¬ o.returned := by
  rintro ⟨answer, hok⟩
  exact h answer hok

/-- A task that does not return has removed the grammar at most. -/
theorem RegistryChange.of_short {o : Outcome} (hfail : ¬ o.returned)
    (hcalls : registryCalls o.steps = [] ∨ registryCalls o.steps = [.unregister s.scopeName]) :
    s.RegistryChange o := by
  rcases hcalls with hcalls | hcalls
  · exact .none hcalls
  · exact .removal hcalls hfail

/-- What a task that comes to its end has done to the registry. -/
theorem registryChange_ended {er : Errand} {r : Except Failure (Option String)}
    (hresult : (s.carry h er).result = some r)
    (hgo : Goes (s.work er.task) h (s.carry h er).steps (s.carry h er).host r) :
    s.RegistryChange (s.carry h er) := by
  cases htask : er.task with
  | cleanup =>
    rw [htask] at hgo
    obtain ⟨q, hgo, -⟩ := goes_work_cleanup.1 hgo
    exact .none (registryCalls_removeGenerated hgo)
  | publish text =>
    rw [htask] at hgo
    obtain ⟨q, hpub, hr⟩ := goes_work_publish.1 hgo
    rw [hr] at hresult
    cases he : s.entry text with
    | error f =>
      obtain ⟨hsteps, -, -⟩ := goes_publish_error he hpub
      apply RegistryChange.none
      rw [hsteps]
      rfl
    | ok e =>
      rcases registryCalls_publication (goes_publish he hpub) with ⟨-, hcalls⟩ |
        ⟨⟨f, rfl⟩, hcalls⟩ | ⟨rfl, front, hsteps, hcalls⟩
      · exact .none hcalls
      · apply RegistryChange.of_short _ hcalls
        apply not_returned
        intro answer hok
        rw [hresult] at hok
        cases hok
      · refine .renewal ((s.task_carry h er).trans htask) he ?_ hresult
        rw [hsteps, registryCalls_append, hcalls, registryCalls_of_goesToRegistry _ rfl]
        rfl

/-- What a task that breaks off has done to the registry: a part of what it would have done before
its last call. -/
theorem registryChange_broken {er : Errand} {next : Answered} {rest : List Answered}
    {r : Except Failure (Option String)} (hresult : (s.carry h er).result = none)
    (hgo : Goes (s.work er.task) h ((s.carry h er).steps ++ next :: rest) h' r) :
    s.RegistryChange (s.carry h er) := by
  have hfail : ¬ (s.carry h er).returned := by
    apply not_returned
    intro answer hok
    rw [hresult] at hok
    cases hok
  have hcalls : registryCalls (s.carry h er).steps <+:
      registryCalls ((s.carry h er).steps ++ next :: rest) :=
    registryCalls_mono (List.prefix_append _ _)
  apply RegistryChange.of_short hfail
  cases htask : er.task with
  | cleanup =>
    rw [htask] at hgo
    obtain ⟨q, hgo, -⟩ := goes_work_cleanup.1 hgo
    exact prefix_of_short hcalls (.inl (registryCalls_removeGenerated hgo))
  | publish text =>
    rw [htask] at hgo
    obtain ⟨q, hgo, -⟩ := goes_work_publish.1 hgo
    cases he : s.entry text with
    | error f =>
      obtain ⟨hsteps, -, -⟩ := goes_publish_error he hgo
      simp at hsteps
    | ok e =>
      rcases registryCalls_publication (goes_publish he hgo) with ⟨-, hall⟩ | ⟨-, hall⟩ |
        ⟨-, front, hsteps, hall⟩
      · exact prefix_of_short hcalls (.inl hall)
      · exact prefix_of_short hcalls hall
      · -- The registration would have been the last call.
        have hfront : (s.carry h er).steps <+: front := by
          have hcut := congrArg List.dropLast hsteps
          rw [List.dropLast_concat, List.dropLast_append_of_ne_nil (by simp)] at hcut
          exact ⟨_, hcut⟩
        exact prefix_of_short (registryCalls_mono hfront) (.inr hall)

/-- A task changes the registry in one of three ways, wherever it breaks off. -/
theorem registryChange_carry (s : Store) (h : Host) (er : Errand) :
    s.RegistryChange (s.carry h er) := by
  rcases s.carry_cases h er with ⟨r, hresult, hgo⟩ | ⟨next, rest, h', r, hresult, hgo⟩
  · exact registryChange_ended hresult hgo
  · exact registryChange_broken hresult hgo

/-! ## §3. The registry over time. -/

/-- A renewal makes a call of the registry. -/
theorem calls_ne_nil_of_renews {o : Outcome} (h : o.renews = true) :
    registryCalls o.steps ≠ [] := by
  intro hnil
  unfold Outcome.renews at h
  rw [hnil] at h
  cases h

/-- A task that is no renewal makes none. -/
theorem RegistryChange.calls_eq_nil {o : Outcome} (hc : s.RegistryChange o)
    (h : ¬ o.renews = true) : registryCalls o.steps = [] := by
  have hany : ∀ calls : List Call, registryCalls o.steps = calls →
      calls.any Call.isRemoval = true → o.renews = true := by
    rintro calls rfl hany
    exact hany
  cases hc with
  | none hcalls => exact hcalls
  | removal hcalls _ => exact absurd (hany _ hcalls rfl) h
  | renewal _ _ hcalls _ => exact absurd (hany _ hcalls rfl) h

/-- The last call of the registry is that of the last renewal. -/
theorem lastRegistryCall_eq {os : List Outcome} (hos : ∀ o ∈ os, s.RegistryChange o) :
    lastRegistryCall os = (lastRenewal os).bind fun o => (registryCalls o.steps).getLast? := by
  unfold lastRegistryCall lastRenewal
  induction os with
  | nil => rfl
  | cons o rest ih =>
    rw [List.flatMap_cons, registryCalls_append, List.getLast?_append,
      ih fun o' ho' => hos o' (List.mem_cons_of_mem _ ho')]
    -- A task that is no renewal adds neither a call nor a renewal.
    by_cases hr : o.renews = true
    · rw [List.filter_cons_of_pos hr, List.getLast?_cons]
      cases hlast : (rest.filter (·.renews)).getLast? with
      | none => rfl
      | some o' =>
        -- The later renewal has made a call, which stands.
        have hr' := (List.mem_filter.1 (List.mem_of_getLast? hlast)).2
        show (registryCalls o'.steps).getLast?.or _ = (registryCalls o'.steps).getLast?
        cases hlast' : (registryCalls o'.steps).getLast? with
        | none => exact absurd (List.getLast?_eq_none_iff.1 hlast') (calls_ne_nil_of_renews hr')
        | some c => rfl
    · rw [List.filter_cons_of_neg hr, (hos o List.mem_cons_self).calls_eq_nil hr,
        List.getLast?_nil, Option.or_none]

theorem registryChange_history (s : Store) (h : Host) (errands : List Errand) :
    ∀ o ∈ s.history h errands, s.RegistryChange o := by
  induction errands generalizing h with
  | nil => simp [history]
  | cons e rest ih =>
    rw [history_cons]
    simp only [List.mem_cons, forall_eq_or_imp]
    exact ⟨s.registryChange_carry h e, ih _⟩

theorem resolve_of_entry (he : s.entry text = .ok e) :
    s.directory.resolve e.filename = .ok e.path := by
  unfold entry at he
  simp only at he
  split at he
  · cases he
  · next path hp =>
    cases he
    exact hp

theorem path?_eq {o : Outcome} (he : s.entry text = .ok e)
    (hresult : o.result = some (.ok (some e.filename))) : o.path? s = some e.path := by
  unfold Outcome.path?
  rw [hresult]
  simp only [resolve_of_entry he]
  rfl

/-- A file is the last thing that was registered just if the last renewal has published it. -/
theorem lastRegistryCall_register_iff (s : Store) (os : List Outcome) (hos : ∀ o ∈ os, s.RegistryChange o)
    (path : Path) :
    lastRegistryCall os = some (.register path) ↔
      ∃ o, lastRenewal os = some o ∧ o.path? s = some path := by
  rw [lastRegistryCall_eq hos]
  cases hlast : lastRenewal os with
  | none => simp
  | some o =>
    -- Of the three ways in which a task changes the registry, only one registers a file.
    have hmem : o ∈ os.filter (·.renews) := List.mem_of_getLast? hlast
    obtain ⟨ho, hr⟩ := List.mem_filter.1 hmem
    simp only [Option.bind_some, Option.some.injEq, exists_eq_left']
    cases hos o ho with
    | none hcalls => exact absurd hcalls (calls_ne_nil_of_renews hr)
    | removal hcalls hfail =>
      rw [hcalls]
      have hpath : o.path? s = none := by
        unfold Outcome.path?
        split
        · next name hresult => exact absurd ⟨_, hresult⟩ hfail
        · rfl
      rw [hpath]
      simp
    | renewal htask he hcalls hresult =>
      rw [hcalls, path?_eq he hresult]
      simp

/-! ## §4. Files and registrations. -/

/-- Until the registry has removed the grammar, a publication changes no file. -/
theorem publication_shrinks {r : Except Failure String}
    (hgo : s.Publication e text h steps h' r) :
    (∀ a ∈ steps, s.Shrinks h a.host) ∨
      ∃ first g rest, steps = first :: ⟨.unregister s.scopeName, none, g⟩ :: rest ∧
        s.Shrinks h first.host := by
  have hexists : ∀ {g : Host} {q : Except Failure Bool},
      h.answer (.exists e.filename) = (g, q) → s.Shrinks h g := s.shrinks_answer rfl
  have hrep : ∀ {mid g : Host} {rest : List Answered} {q : Except Failure Unit},
      s.Shrinks h mid → s.Replacement e text mid rest g q →
        (∀ a ∈ (⟨.exists e.filename, none, mid⟩ :: rest : List Answered), s.Shrinks h a.host) ∨
          ∃ first g rest', (⟨.exists e.filename, none, mid⟩ :: rest : List Answered) =
            first :: ⟨.unregister s.scopeName, none, g⟩ :: rest' ∧ s.Shrinks h first.host := by
    intro mid g rest q hmid hgo
    cases hgo with
    | kept hun =>
      left
      simp only [List.mem_cons, List.not_mem_nil, or_false, forall_eq_or_imp, forall_eq]
      exact ⟨hmid, hmid.trans (s.shrinks_answer rfl hun)⟩
    | uncleared _ _ => exact .inr ⟨_, _, _, rfl, hmid⟩
    | unwritten _ _ _ => exact .inr ⟨_, _, _, rfl, hmid⟩
    | unregistered _ _ _ _ _ => exact .inr ⟨_, _, _, rfl, hmid⟩
    | done _ _ _ _ => exact .inr ⟨_, _, _, rfl, hmid⟩
  cases hgo with
  | unknown hex => exact .inl (by simpa using hexists hex)
  | found hex => exact .inl (by simpa using hexists hex)
  | failed hex hgo => exact hrep (hexists hex) hgo
  | replaced hex hgo => exact hrep (hexists hex) hgo

/-- A task that is no renewal takes slots away at most. -/
theorem carry_shrinks (hs : s.HasPlainPrefix) (hdir : h.directory = s.directory) {er : Errand}
    (hr : ¬ (s.carry h er).renews = true) : s.Shrinks h (s.carry h er).host := by
  rw [host_carry]
  refine lastHost_induction (.refl s h) ?_
  obtain ⟨rest, h', r, hgo⟩ := s.exists_goes_carry h er
  cases htask : er.task with
  | cleanup =>
    rw [htask] at hgo
    obtain ⟨q, hgo, -⟩ := goes_work_cleanup.1 hgo
    intro a ha
    exact (removeGenerated_shrinks hs hdir hgo).1 a (List.mem_append_left _ ha)
  | publish text =>
    rw [htask] at hgo
    obtain ⟨q, hgo, -⟩ := goes_work_publish.1 hgo
    rcases publication_shrinks (goes_publish (entry_eq hs text) hgo) with hall |
      ⟨first, g, rest', hsteps, hfirst⟩
    · exact fun a ha => hall a (List.mem_append_left _ ha)
    · -- The second call of the work has removed the grammar, so the task ended before it.
      have hcalls := (s.registryChange_carry h er).calls_eq_nil hr
      match hcut : (s.carry h er).steps with
      | [] => simp
      | [a] =>
        rw [hcut] at hsteps
        cases hsteps
        simpa using hfirst
      | a :: b :: more =>
        rw [hcut] at hsteps hcalls
        cases hsteps
        rw [registryCalls_cons, registryCalls_cons _ more,
          registryCalls_of_goesToRegistry g rfl] at hcalls
        simp at hcalls

/-- A renewal that returns leaves no file but the one that it has published. -/
theorem slots_renewal (hs : s.HasPlainPrefix) {texts : List String} {er : Errand}
    (hone : s.HoldsOne texts h) (hmem : ∀ text, er.task.text? = some text → text ∈ texts)
    (hr : (s.carry h er).renews = true) (hret : (s.carry h er).returned) :
    ∃ path, (s.carry h er).path? s = some path ∧
      ∀ x ∈ s.slots (s.carry h er).host.tree, x.1 = path := by
  cases s.registryChange_carry h er with
  | none hcalls => exact absurd hcalls (calls_ne_nil_of_renews hr)
  | removal _ hfail => exact absurd hret hfail
  | @renewal text e htask he hcalls hres =>
    refine ⟨e.path, path?_eq he hres, ?_⟩
    have htask' : er.task = .publish text := (s.task_carry h er).symm.trans htask
    have htext := hmem text (by rw [htask']; rfl)
    cases he.symm.trans (entry_eq hs text)
    rcases s.carry_cases h er with ⟨r, hresult, hgo⟩ | ⟨_, _, _, _, hbroken, -⟩
    · rw [htask'] at hgo
      obtain ⟨q, hgo', rfl⟩ := goes_work_publish.1 hgo
      rw [hresult] at hres
      -- It was replaced: the other ways to publish make other calls, or fail.
      have hpub := goes_publish he hgo'
      generalize (s.carry h er).host = last at hpub ⊢
      generalize (s.carry h er).steps = all at hpub hcalls
      cases hpub with
      | unknown _ => cases hres
      | found _ =>
        rw [registryCalls_of_not _ _ rfl] at hcalls
        cases hcalls
      | failed _ _ => cases hres
      | replaced hex hrep =>
        have hmid := hone.shrinks (s.shrinks_answer rfl hex)
        rw [(replacement_holdsOne hs hmid htext hrep).2 rfl]
        simp
    · rw [hbroken] at hres
      cases hres

theorem lastRenewal_concat (os : List Outcome) (o : Outcome) :
    lastRenewal (os ++ [o]) = if o.renews then some o else lastRenewal os := by
  unfold lastRenewal
  by_cases hr : o.renews = true
  · rw [if_pos hr, List.filter_append, List.filter_cons_of_pos hr, List.filter_nil,
      List.getLast?_concat]
  · rw [if_neg hr, List.filter_append, List.filter_cons_of_neg hr, List.filter_nil,
      List.append_nil]

/-- After a renewal that returned there is no other file than the one that it has published, until
the next renewal. -/
theorem slots_history (hs : s.HasPlainPrefix) (texts : List String) {errands : List Errand}
    (hdir : h.directory = s.directory) (hnil : s.slots h.tree = [])
    (hmem : ∀ er ∈ errands, ∀ text, er.task.text? = some text → text ∈ texts) :
    s.HoldsOne texts (lastHost h ((s.history h errands).flatMap (·.steps))) ∧
      ∀ o, lastRenewal (s.history h errands) = some o → o.returned →
        ∃ path, o.path? s = some path ∧
          ∀ x ∈ s.slots (lastHost h ((s.history h errands).flatMap (·.steps))).tree,
            x.1 = path := by
  -- From the last task backwards: it is a renewal, or takes slots away at most.
  induction errands using List.reverseRecOn with
  | nil => exact ⟨.of_nil hdir hnil, fun _ hnone => by cases hnone⟩
  | append_singleton before er ih =>
    obtain ⟨hone, hsome⟩ := ih fun er' her' => hmem er' (List.mem_append_left _ her')
    have her := hmem er (by simp)
    rw [history_concat]
    generalize hg : lastHost h ((s.history h before).flatMap (·.steps)) = g at hone hsome ⊢
    have hlast : lastHost h ((s.history h before ++ [s.carry g er]).flatMap (·.steps)) =
        (s.carry g er).host := by
      rw [List.flatMap_append, lastHost_append, hg, host_carry]
      simp
    rw [hlast, lastRenewal_concat]
    refine ⟨(carry_holdsOne hs hone her).2, ?_⟩
    intro o ho hret
    by_cases hr : (s.carry g er).renews = true
    · rw [if_pos hr, Option.some.injEq] at ho
      subst ho
      exact slots_renewal hs hone her hr hret
    · rw [if_neg hr] at ho
      obtain ⟨path, hpath, hall⟩ := hsome o ho hret
      have hsub := (carry_shrinks hs hone.directory hr).slots
      exact ⟨path, hpath, fun x hx => hall x (hsub.subset hx)⟩

/-! ## §5. When a published text is registered. -/

/-- A publication that returns has come to its end, with the name of the file of its text. -/
theorem publication_of_returned {text name : String} {limit : Option Nat}
    (hname : (s.carry h ⟨.publish text, limit⟩).result = some (.ok (some name))) :
    ∃ e, s.entry text = .ok e ∧ name = e.filename ∧
      s.Publication e text h (s.carry h ⟨.publish text, limit⟩).steps
        (s.carry h ⟨.publish text, limit⟩).host (.ok e.filename) := by
  rcases s.carry_cases h ⟨.publish text, limit⟩ with ⟨r, hr, hgo⟩ | ⟨_, _, _, _, hbroken, -⟩
  · obtain ⟨q, hgo, hq⟩ := goes_work_publish.1 hgo
    rw [hr, hq] at hname
    cases q with
    | error f => cases hname
    | ok name' =>
      cases hname
      cases he : s.entry text with
      | error f => cases (goes_publish_error he hgo).2.2
      | ok e =>
        have hpub := goes_publish he hgo
        have hfile : name = e.filename := by
          rcases registryCalls_publication hpub with ⟨hok, -⟩ | ⟨⟨f, hbad⟩, -⟩ | ⟨hok, -⟩
          · exact Except.ok.inj hok
          · cases hbad
          · exact Except.ok.inj hok
        exact ⟨e, rfl, hfile, hfile ▸ hpub⟩
  · rw [hbroken] at hname
    cases hname

/-- A publication that makes no call of the registry has found its file. -/
theorem slot_of_found (hs : s.HasPlainPrefix) (hdir : h.directory = s.directory)
    (hgo : s.Publication (s.ownEntry text) text h steps h' (.ok (s.nameOf text)))
    (hcalls : registryCalls steps = []) :
    ∃ x ∈ s.slots h.tree, x.1 = s.pathTo (s.nameOf text) := by
  cases hgo with
  | found hex =>
    obtain ⟨hfile, -⟩ := Host.exists_answer_ok hex
    rw [hdir] at hfile
    obtain ⟨content, hx⟩ := hasFile_eq_ok hs (s.isGenerated_nameOf text) hfile
    exact ⟨_, hx, rfl⟩
  -- A replacement calls the registry.
  | replaced _ hrep =>
    rcases registryCalls_replacement hrep with ⟨⟨_, hbad⟩, -⟩ | ⟨-, front, hsteps, hfront⟩
    · cases hbad
    · rw [registryCalls_cons, hsteps, registryCalls_append, hfront] at hcalls
      simp at hcalls

/-- **When a published text is registered.**  A publication that returns gives the name of a file.
The last call of the registry that took effect is the registration of that file just if the last
renewal, which may be this task or an earlier one, has published the same path.  For a store with a
plain prefix that starts without generated names it is enough that the last renewal returned. -/
theorem lastRegistryCall_iff (s : Store) (h : Host) (errands : List Errand) (text name : String)
    (limit : Option Nat)
    (hname : ((s.history h (errands ++ [⟨.publish text, limit⟩])).getLast?.bind (·.result)) =
      some (.ok (some name))) :
    let os := s.history h (errands ++ [⟨.publish text, limit⟩])
    ∃ path, s.directory.resolve name = .ok path ∧
      (lastRegistryCall os = some (.register path) ↔
        ∃ o, lastRenewal os = some o ∧ o.path? s = some path) ∧
      (s.HasPlainPrefix → h.directory = s.directory → s.generatedNames h.tree = [] →
        (lastRegistryCall os = some (.register path) ↔
          ∃ o, lastRenewal os = some o ∧ o.returned)) := by
  intro os
  have hcall := fun path => s.lastRegistryCall_register_iff os (s.registryChange_history h _) path
  have hos : os = s.history h errands ++
      [s.carry (lastHost h ((s.history h errands).flatMap (·.steps))) ⟨.publish text, limit⟩] :=
    s.history_concat h errands _
  generalize hg : lastHost h ((s.history h errands).flatMap (·.steps)) = g at hos
  rw [show s.history h (errands ++ [⟨.publish text, limit⟩]) = os from rfl, hos,
    List.getLast?_concat, Option.bind_some] at hname
  obtain ⟨e, he, rfl, hgo⟩ := publication_of_returned hname
  have hpath := path?_eq he hname
  refine ⟨e.path, resolve_of_entry he, hcall e.path, ?_⟩
  intro hs hdir hnone
  rw [hcall e.path]
  constructor
  · rintro ⟨o, ho, hp⟩
    refine ⟨o, ho, ?_⟩
    unfold Outcome.path? at hp
    split at hp
    · next name' hres => exact ⟨_, hres⟩
    · cases hp
  · rintro ⟨o, ho, hret⟩
    refine ⟨o, ho, ?_⟩
    rw [hos, lastRenewal_concat] at ho
    by_cases hr : (s.carry g ⟨.publish text, limit⟩).renews = true
    · rw [if_pos hr, Option.some.injEq] at ho
      rw [← ho]
      exact hpath
    · -- The file was found, and only the last renewal can have left it.
      rw [if_neg hr] at ho
      obtain ⟨hone, hsome⟩ := slots_history hs (errands.filterMap (·.task.text?)) hdir
        (slots_eq_nil hnone) fun er her text ht => List.mem_filterMap.2 ⟨er, her, ht⟩
      rw [hg] at hone hsome
      obtain ⟨path, hpath', hall⟩ := hsome o ho hret
      cases he.symm.trans (entry_eq hs text)
      obtain ⟨x, hx, hxp⟩ := slot_of_found hs hone.directory hgo
        ((s.registryChange_carry g _).calls_eq_nil hr)
      rw [hpath', ← hall x hx, hxp]

/-- A host on which the second listing of the directory fails. -/
def busyHost : Host :=
  sampleHost.plan .list (.after 1 (some 1) fun _ => .host ⟨true, "OSError", "busy"⟩)

/-- Published twice in a row, a text is still registered: the second time its file is found. -/
theorem registered_of_found :
    ∃ path, sampleStore.directory.resolve (sampleStore.nameOf "A") = .ok path ∧
      lastRegistryCall (sampleStore.history sampleHost
        [⟨.publish "A", none⟩, ⟨.publish "A", none⟩]) = some (.register path) := by
  obtain ⟨path, hpath, -, hplain⟩ := lastRegistryCall_iff sampleStore sampleHost
    [⟨.publish "A", none⟩] "A" (sampleStore.nameOf "A") none (by decide +kernel)
  refine ⟨path, hpath, (hplain ⟨by decide, by decide⟩ rfl (by decide +kernel)).2 ?_⟩
  have hlast : ((lastRenewal (sampleStore.history sampleHost
      [⟨.publish "A", none⟩, ⟨.publish "A", none⟩])).bind (·.result)).bind Except.toOption =
        some (some (sampleStore.nameOf "A")) := by
    decide +kernel
  obtain ⟨r, hr, hok⟩ := Option.bind_eq_some_iff.1 hlast
  obtain ⟨o, ho, hres⟩ := Option.bind_eq_some_iff.1 hr
  cases r with
  | error f => cases hok
  | ok answer => exact ⟨o, ho, answer, hres⟩

/-- **A published text need not be registered.**  A text is published; the publication of another
one fails at the listing, after the registry has removed the grammar; then the first text is
published again.  Its file is found, and nothing is registered. -/
theorem unregistered_though_published :
    let os := sampleStore.history busyHost
      [⟨.publish "A", none⟩, ⟨.publish "B", none⟩, ⟨.publish "A", none⟩]
    os.map (·.result.map Except.toOption) =
        [some (some (some (sampleStore.nameOf "A"))), some none,
          some (some (some (sampleStore.nameOf "A")))] ∧
      lastRegistryCall os = some (.unregister sampleStore.scopeName) := by
  decide +kernel

end Store

end QuasiGrammar
