import QuasiGrammar.Publish.Course

/-
  QuasiGrammar.Proofs.Publish.Calls
  ─────────────────────────────────
  How publishing goes, call by call.  An answer is a planned failure, which
  changes nothing but the plans, or the effect of the call.  The courses of all
  work of a store follow: where it can stop, what it has called by then, and
  what it comes to.

  All later proofs about publishing read these lemmas, and do not open the
  definitions of the work again.
-/

namespace QuasiGrammar

/-! ## §1. Answers. -/

/-- Whether a call can change files. -/
def Call.changesFiles : Call → Bool
  | .write _ _ | .delete _ => true
  | .exists _ | .list | .unregister _ | .register _ => false

namespace Host

variable {h h' : Host}

/-- A call fails as planned, or it takes effect. -/
theorem answer_cases (h : Host) (c : Call) :
    (∃ f, h.answer c = (h.settled c.point, .error f)) ∨
      h.answer c = (h.settled c.point).perform c := by
  unfold answer
  cases h.failure? c.point (h.place c) with
  | some f => exact .inl ⟨f, rfl⟩
  | none => exact .inr rfl

/-- A call that is answered has taken effect. -/
theorem perform_of_answer_ok {c : Call} {a : c.Answer} (ha : h.answer c = (h', .ok a)) :
    (h.settled c.point).perform c = (h', .ok a) := by
  rcases h.answer_cases c with ⟨f, hf⟩ | hp
  · rw [hf] at ha
    cases ha
  · rw [← hp]
    exact ha

@[simp]
theorem directory_answer (h : Host) (c : Call) : (h.answer c).1.directory = h.directory := by
  rcases h.answer_cases c with ⟨f, hf⟩ | hp
  · rw [hf]
    rfl
  · rw [hp]
    cases c <;> rfl

theorem tree_answer (h : Host) (c : Call) (hc : c.changesFiles = false) :
    (h.answer c).1.tree = h.tree := by
  rcases h.answer_cases c with ⟨f, hf⟩ | hp
  · rw [hf]
    rfl
  · rw [hp]
    cases c with
    | write name text => cases hc
    | delete name => cases hc
    | «exists» name => rfl
    | list => rfl
    | unregister scope => rfl
    | register path => rfl

theorem directory_of_answer {c : Call} {r : Except Failure c.Answer} (ha : h.answer c = (h', r)) :
    h'.directory = h.directory := by
  have := h.directory_answer c
  rwa [ha] at this

theorem tree_of_answer {c : Call} {r : Except Failure c.Answer} (hc : c.changesFiles = false)
    (ha : h.answer c = (h', r)) : h'.tree = h.tree := by
  have := h.tree_answer c hc
  rwa [ha] at this

theorem exists_answer_ok {name : String} {b : Bool} (ha : h.answer (.exists name) = (h', .ok b)) :
    h.directory.hasFile h.tree name = .ok b ∧ h'.tree = h.tree := by
  have := perform_of_answer_ok ha
  simp only [perform, Prod.mk.injEq] at this
  exact ⟨this.2, by rw [← this.1]; rfl⟩

theorem list_answer_ok {names : List String} (ha : h.answer .list = (h', .ok names)) :
    h.directory.list h.tree = .ok names ∧ h'.tree = h.tree := by
  have := perform_of_answer_ok ha
  simp only [perform, Prod.mk.injEq] at this
  exact ⟨this.2, by rw [← this.1]; rfl⟩

/-- The answer to a deletion is that of the directory, unless it was planned to fail. -/
theorem delete_answer {name : String} {r : Except Failure Unit}
    (ha : h.answer (.delete name) = (h', r)) :
    (h'.tree = h.tree ∧ ∃ f, r = .error f) ∨ h.directory.delete h.tree name = (h'.tree, r) := by
  rcases h.answer_cases (.delete name) with ⟨f, hf⟩ | hp
  · rw [hf] at ha
    cases ha
    exact .inl ⟨rfl, f, rfl⟩
  · rw [hp] at ha
    simp only [perform, Prod.mk.injEq] at ha
    obtain ⟨hh, hr⟩ := ha
    refine .inr ?_
    rw [← hh, ← hr]
    rfl

/-- The answer to a write is that of the directory, unless it was planned to fail. -/
theorem write_answer {name text : String} {r : Except Failure Unit}
    (ha : h.answer (.write name text) = (h', r)) :
    (h'.tree = h.tree ∧ ∃ f, r = .error f) ∨
      h.directory.write h.tree name text = (h'.tree, r) := by
  rcases h.answer_cases (.write name text) with ⟨f, hf⟩ | hp
  · rw [hf] at ha
    cases ha
    exact .inl ⟨rfl, f, rfl⟩
  · rw [hp] at ha
    simp only [perform, Prod.mk.injEq] at ha
    obtain ⟨hh, hr⟩ := ha
    refine .inr ?_
    rw [← hh, ← hr]
    rfl

end Host

/-! ## §2. The work of a store. -/

namespace Store

open Work

variable {s : Store} {e : StoreEntry} {text : String} {h h' : Host} {steps : List Answered}

/-- Files are deleted until one cannot be. -/
theorem goes_deleteAll_cons {name : String} {rest : List String} {r : Except Failure Unit}
    (hgo : Goes (deleteAll (name :: rest)) h steps h' r) :
    (∃ f, h.answer (.delete name) = (h', .error f) ∧ r = .error f ∧
        steps = [⟨.delete name, some f, h'⟩]) ∨
      ∃ mid after, h.answer (.delete name) = (mid, .ok ()) ∧ Goes (deleteAll rest) mid after h' r ∧
        steps = ⟨.delete name, none, mid⟩ :: after := by
  rcases goes_bind.1 hgo with ⟨f, hask, hr⟩ | ⟨a, before, mid, after, hask, hrest, hsteps⟩
  · obtain ⟨ha, hs⟩ := goes_ask.1 hask
    exact .inl ⟨f, ha, hr, hs⟩
  · obtain ⟨ha, hs⟩ := goes_ask.1 hask
    rw [hs] at hsteps
    exact .inr ⟨mid, after, ha, hrest, hsteps⟩

/-- The files of the store are deleted once they are listed. -/
theorem goes_removeGenerated {r : Except Failure (List String)}
    (hgo : Goes s.removeGenerated h steps h' r) :
    (∃ f, h.answer .list = (h', .error f) ∧ r = .error f ∧ steps = [⟨.list, some f, h'⟩]) ∨
      ∃ names mid after q, h.answer .list = (mid, .ok names) ∧
        Goes (deleteAll (names.filter s.isGenerated)) mid after h' q ∧
          r = q.map (fun _ => names.filter s.isGenerated) ∧
            steps = ⟨.list, none, mid⟩ :: after := by
  rcases goes_bind.1 hgo with ⟨f, hask, hr⟩ | ⟨names, before, mid, after, hask, hrest, hsteps⟩
  · obtain ⟨ha, hs⟩ := goes_ask.1 hask
    exact .inl ⟨f, ha, hr, hs⟩
  · obtain ⟨ha, rfl⟩ := goes_ask.1 hask
    obtain ⟨q, hdel, hr⟩ := goes_bind_pure.1 hrest
    exact .inr ⟨names, mid, after, q, ha, hdel, hr, hsteps⟩

theorem call_of_deleteAll {names : List String} {r : Except Failure Unit}
    (hgo : Goes (deleteAll names) h steps h' r) :
    ∀ a ∈ steps, ∃ name ∈ names, a.call = .delete name := by
  induction names generalizing h steps with
  | nil =>
    obtain ⟨rfl, -, -⟩ := goes_pure.1 hgo
    exact fun _ ha => nomatch ha
  | cons name rest ih =>
    rcases goes_deleteAll_cons hgo with ⟨f, -, -, rfl⟩ | ⟨mid, after, -, hrest, rfl⟩
    · rw [List.forall_mem_singleton]
      exact ⟨name, List.mem_cons_self, rfl⟩
    · rw [List.forall_mem_cons]
      refine ⟨⟨name, List.mem_cons_self, rfl⟩, fun a ha => ?_⟩
      obtain ⟨name', hmem, hcall⟩ := ih hrest a ha
      exact ⟨name', List.mem_cons_of_mem _ hmem, hcall⟩

/-- Removing the files makes no calls but the listing and deletions of generated names. -/
theorem call_of_removeGenerated {r : Except Failure (List String)}
    (hgo : Goes s.removeGenerated h steps h' r) :
    ∀ a ∈ steps, a.call = .list ∨ ∃ name, s.isGenerated name = true ∧ a.call = .delete name := by
  rcases goes_removeGenerated hgo with ⟨f, -, -, rfl⟩ | ⟨names, mid, after, q, -, hdel, -, rfl⟩
  · rw [List.forall_mem_singleton]
    exact .inl rfl
  · rw [List.forall_mem_cons]
    refine ⟨.inl rfl, fun a ha => ?_⟩
    obtain ⟨name, hmem, hcall⟩ := call_of_deleteAll hdel a ha
    exact .inr ⟨name, (List.mem_filter.1 hmem).2, hcall⟩

theorem goes_discard {r : Except Failure Unit} (hgo : Goes (discard e) h steps h' r) :
    ∃ q, h.answer (.delete e.filename) = (h', q) ∧
      steps = [⟨.delete e.filename, failureOf q, h'⟩] := by
  rcases goes_tryCatch.1 hgo with ⟨a, hask, -⟩ | ⟨f, before, mid, after, hask, hgo, hsteps⟩
  · exact ⟨_, goes_ask.1 hask⟩
  · obtain ⟨ha, rfl⟩ := goes_ask.1 hask
    -- The guard makes no more calls, whether it passes the failure on or not.
    have hend : after = [] ∧ h' = mid := by
      by_cases hf : (f.isProblem || f.isSystem) = true
      · rw [if_pos hf] at hgo
        obtain ⟨hnil, hh, -⟩ := goes_pure.1 hgo
        exact ⟨hnil, hh⟩
      · rw [if_neg hf] at hgo
        obtain ⟨hnil, hh, -⟩ := goes_throw.1 hgo
        exact ⟨hnil, hh⟩
    obtain ⟨rfl, rfl⟩ := hend
    exact ⟨_, ha, hsteps⟩

/-- The registry is asked once to remove a grammar. -/
theorem goes_unregister {r : Except Failure Unit} (hgo : Goes (s.unregister e) h steps h' r) :
    ∃ q, h.answer (.unregister s.scopeName) = (h', q) ∧
      steps = [⟨.unregister s.scopeName, failureOf q, h'⟩] ∧ (q = .ok () ↔ r = .ok ()) := by
  rcases goes_tryCatch.1 hgo with ⟨a, hask, rfl⟩ | ⟨f, before, mid, after, hask, hthrow, hsteps⟩
  · obtain ⟨ha, hs⟩ := goes_ask.1 hask
    exact ⟨_, ha, hs, by simp⟩
  · obtain ⟨ha, rfl⟩ := goes_ask.1 hask
    obtain ⟨rfl, rfl, rfl⟩ := goes_throw.1 hthrow
    exact ⟨_, ha, hsteps, by simp⟩

/-- A file is registered, or the attempt to delete it is the last call. -/
theorem goes_register {r : Except Failure Unit} (hgo : Goes (register e) h steps h' r) :
    (h.answer (.register e.path) = (h', .ok ()) ∧ r = .ok () ∧
        steps = [⟨.register e.path, none, h'⟩]) ∨
      ∃ f f' mid q, h.answer (.register e.path) = (mid, .error f) ∧
        mid.answer (.delete e.filename) = (h', q) ∧ r = .error f' ∧
          steps = [⟨.register e.path, some f, mid⟩, ⟨.delete e.filename, failureOf q, h'⟩] := by
  rcases goes_tryCatch.1 hgo with ⟨a, hask, rfl⟩ | ⟨f, before, mid, after, hask, hgo, hsteps⟩
  · obtain ⟨ha, hs⟩ := goes_ask.1 hask
    exact .inl ⟨ha, rfl, hs⟩
  · obtain ⟨ha, rfl⟩ := goes_ask.1 hask
    rcases goes_bind.1 hgo with ⟨f', hdis, rfl⟩ | ⟨_, deleted, last, none', hdis, hthrow, hafter⟩
    · obtain ⟨q, hdel, rfl⟩ := goes_discard hdis
      exact .inr ⟨f, f', mid, q, ha, hdel, rfl, hsteps⟩
    · obtain ⟨q, hdel, rfl⟩ := goes_discard hdis
      obtain ⟨rfl, rfl, rfl⟩ := goes_throw.1 hthrow
      rw [List.append_nil] at hafter
      rw [hafter] at hsteps
      exact .inr ⟨f, _, mid, q, ha, hdel, rfl, hsteps⟩

/-- How the replacement of a grammar goes: it stops at the call that fails, or after all of
them. -/
inductive Replacement (s : Store) (e : StoreEntry) (text : String) (h : Host) :
    List Answered → Host → Except Failure Unit → Prop
  /-- The registry keeps the grammar. -/
  | kept {h' : Host} {f f' : Failure} (hun : h.answer (.unregister s.scopeName) = (h', .error f)) :
      Replacement s e text h [⟨.unregister s.scopeName, some f, h'⟩] h' (.error f')
  /-- The files cannot be removed. -/
  | uncleared {mid h' : Host} {cleared : List Answered} {f : Failure}
      (hun : h.answer (.unregister s.scopeName) = (mid, .ok ()))
      (hclear : Goes s.removeGenerated mid cleared h' (.error f)) :
      Replacement s e text h (⟨.unregister s.scopeName, none, mid⟩ :: cleared) h' (.error f)
  /-- The file cannot be written. -/
  | unwritten {mid clean h' : Host} {cleared : List Answered} {names : List String} {f : Failure}
      (hun : h.answer (.unregister s.scopeName) = (mid, .ok ()))
      (hclear : Goes s.removeGenerated mid cleared clean (.ok names))
      (hwrite : clean.answer (.write e.filename text) = (h', .error f)) :
      Replacement s e text h
        (⟨.unregister s.scopeName, none, mid⟩ ::
          (cleared ++ [⟨.write e.filename text, some f, h'⟩])) h' (.error f)
  /-- The file cannot be registered; it is to be deleted again. -/
  | unregistered {mid clean written refused h' : Host} {cleared : List Answered}
      {names : List String} {f f' : Failure} {q : Except Failure Unit}
      (hun : h.answer (.unregister s.scopeName) = (mid, .ok ()))
      (hclear : Goes s.removeGenerated mid cleared clean (.ok names))
      (hwrite : clean.answer (.write e.filename text) = (written, .ok ()))
      (hreg : written.answer (.register e.path) = (refused, .error f))
      (hdel : refused.answer (.delete e.filename) = (h', q)) :
      Replacement s e text h
        (⟨.unregister s.scopeName, none, mid⟩ ::
          (cleared ++ [⟨.write e.filename text, none, written⟩, ⟨.register e.path, some f, refused⟩,
            ⟨.delete e.filename, failureOf q, h'⟩])) h' (.error f')
  /-- The file is registered. -/
  | done {mid clean written h' : Host} {cleared : List Answered} {names : List String}
      (hun : h.answer (.unregister s.scopeName) = (mid, .ok ()))
      (hclear : Goes s.removeGenerated mid cleared clean (.ok names))
      (hwrite : clean.answer (.write e.filename text) = (written, .ok ()))
      (hreg : written.answer (.register e.path) = (h', .ok ())) :
      Replacement s e text h
        (⟨.unregister s.scopeName, none, mid⟩ ::
          (cleared ++ [⟨.write e.filename text, none, written⟩, ⟨.register e.path, none, h'⟩]))
        h' (.ok ())

theorem goes_replace {r : Except Failure Unit} (hgo : Goes (s.replace e text) h steps h' r) :
    s.Replacement e text h steps h' r := by
  rcases goes_bind.1 hgo with ⟨f', hun, rfl⟩ | ⟨_, first, mid, after, hun, hrest, rfl⟩
  · obtain ⟨q, ha, rfl, hq⟩ := goes_unregister hun
    cases q with
    | ok => cases hq.1 rfl
    | error f => exact .kept ha
  obtain ⟨q, ha, rfl, hq⟩ := goes_unregister hun
  cases hq.2 rfl
  rcases goes_bind.1 hrest with ⟨f, hclear, rfl⟩ | ⟨names, cleared, clean, after, hclear, hput, rfl⟩
  · exact .uncleared ha hclear
  rcases goes_bind.1 hput with ⟨f, hask, rfl⟩ | ⟨_, wrote, written, after, hask, hreg, rfl⟩
  · obtain ⟨hw, rfl⟩ := goes_ask.1 hask
    exact .unwritten ha hclear hw
  obtain ⟨hw, rfl⟩ := goes_ask.1 hask
  rcases goes_register hreg with ⟨hok, rfl, rfl⟩ | ⟨f, f', refused, q, herr, hdel, rfl, rfl⟩
  · exact .done ha hclear hw hok
  · exact .unregistered ha hclear hw herr hdel

/-- How publishing goes: it asks whether the file is there, and replaces the grammar if it is
not. -/
inductive Publication (s : Store) (e : StoreEntry) (text : String) (h : Host) :
    List Answered → Host → Except Failure String → Prop
  /-- The question is not answered. -/
  | unknown {h' : Host} {f f' : Failure} (hex : h.answer (.exists e.filename) = (h', .error f)) :
      Publication s e text h [⟨.exists e.filename, some f, h'⟩] h' (.error f')
  /-- The file is there. -/
  | found {h' : Host} (hex : h.answer (.exists e.filename) = (h', .ok true)) :
      Publication s e text h [⟨.exists e.filename, none, h'⟩] h' (.ok e.filename)
  /-- The replacement fails. -/
  | failed {mid h' : Host} {rest : List Answered} {f f' : Failure}
      (hex : h.answer (.exists e.filename) = (mid, .ok false))
      (hrep : s.Replacement e text mid rest h' (.error f)) :
      Publication s e text h (⟨.exists e.filename, none, mid⟩ :: rest) h' (.error f')
  /-- The grammar is replaced. -/
  | replaced {mid h' : Host} {rest : List Answered}
      (hex : h.answer (.exists e.filename) = (mid, .ok false))
      (hrep : s.Replacement e text mid rest h' (.ok ())) :
      Publication s e text h (⟨.exists e.filename, none, mid⟩ :: rest) h' (.ok e.filename)

/-- A renewal makes the calls of a publication. -/
theorem goes_renew {q : Except Failure Bool} {r : Except Failure String}
    (hok : ∀ b, q = .ok b → r = .ok e.filename) (herr : ∀ f, q = .error f → ∃ f', r = .error f')
    (hgo : Goes (s.renew e text) h steps h' q) : s.Publication e text h steps h' r := by
  rcases goes_bind.1 hgo with ⟨f, hask, rfl⟩ | ⟨b, asked, mid, rest, hask, hrest, rfl⟩
  · obtain ⟨hex, rfl⟩ := goes_ask.1 hask
    obtain ⟨f', rfl⟩ := herr f rfl
    exact .unknown hex
  obtain ⟨hex, rfl⟩ := goes_ask.1 hask
  cases b with
  | true =>
    obtain ⟨rfl, rfl, rfl⟩ := goes_pure.1 hrest
    rw [hok false rfl]
    exact .found hex
  | false =>
    obtain ⟨q, hrep, rfl⟩ := goes_bind_pure.1 hrest
    cases q with
    | error f =>
      obtain ⟨f', rfl⟩ := herr f rfl
      exact .failed hex (goes_replace hrep)
    | ok =>
      rw [hok true rfl]
      exact .replaced hex (goes_replace hrep)

/-- A report makes no calls, and fails. -/
theorem goes_reportFailure {f : Failure} {r : Except Failure Bool}
    (hgo : Goes (s.reportFailure e f) h steps h' r) : steps = [] ∧ h' = h ∧ ∃ f', r = .error f' := by
  rcases goes_bind.1 hgo with ⟨f', htell, -⟩ | ⟨_, told, mid, thrown, htell, hthrow, rfl⟩
  · cases (goes_tell.1 htell).2.2
  · obtain ⟨rfl, rfl, -⟩ := goes_tell.1 htell
    obtain ⟨rfl, rfl, rfl⟩ := goes_throw.1 hthrow
    exact ⟨rfl, rfl, _, rfl⟩

/-- A text without an entry is not published. -/
theorem goes_publish_error {f : Failure} (he : s.entry text = .error f)
    {r : Except Failure String} (hgo : Goes (s.publish text) h steps h' r) :
    steps = [] ∧ h' = h ∧ r = .error f := by
  unfold publish at hgo
  rw [he] at hgo
  exact goes_throw.1 hgo

theorem goes_publish (he : s.entry text = .ok e) {r : Except Failure String}
    (hgo : Goes (s.publish text) h steps h' r) : s.Publication e text h steps h' r := by
  unfold publish at hgo
  rw [he] at hgo
  rcases goes_bind.1 hgo with ⟨f, hcatch, rfl⟩ | ⟨b, first, mid, after, hcatch, hrest, rfl⟩
  · rcases goes_tryCatch.1 hcatch with ⟨_, -, hok⟩ | ⟨f₀, tried, mid, told, hrenew, hrep, rfl⟩
    · cases hok
    · obtain ⟨rfl, rfl, -⟩ := goes_reportFailure hrep
      rw [List.append_nil]
      exact goes_renew (by rintro _ ⟨⟩) (fun _ _ => ⟨_, rfl⟩) hrenew
  · rcases goes_tryCatch.1 hcatch with ⟨b', hrenew, hok⟩ | ⟨f₀, tried, _, told, _, hrep, -⟩
    · cases hok
      -- What follows the renewal makes no calls.
      have hend : after = [] ∧ h' = mid ∧ r = .ok e.filename := by
        cases b with
        | true =>
          rcases goes_bind.1 hrest with ⟨f, htell, -⟩ | ⟨_, told, _, last, htell, hpure, rfl⟩
          · cases (goes_tell.1 htell).2.2
          · obtain ⟨rfl, rfl, -⟩ := goes_tell.1 htell
            obtain ⟨rfl, rfl, rfl⟩ := goes_pure.1 hpure
            exact ⟨rfl, rfl, rfl⟩
        | false => exact goes_pure.1 hrest
      obtain ⟨rfl, rfl, rfl⟩ := hend
      rw [List.append_nil]
      exact goes_renew (fun _ _ => rfl) (by rintro _ ⟨⟩) hrenew
    · obtain ⟨-, -, _, herr⟩ := goes_reportFailure hrep
      cases herr

end Store

end QuasiGrammar
