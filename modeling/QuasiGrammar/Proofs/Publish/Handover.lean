import QuasiGrammar.Proofs.Files.Grounded
import QuasiGrammar.Proofs.Publish.Order
import QuasiGrammar.Proofs.Publish.Registration

/-
  QuasiGrammar.Proofs.Publish.Handover
  ────────────────────────────────────
  **When the registry is given a file, the file is there, complete and alone.**

  The order of the calls of a publication (`publish_in_order`) has consequences
  for the host, whatever state it is in at first, whichever calls fail and
  wherever tasks break off:

      RightAfterRemoval   a registration that succeeds comes right after a removal
      slots_at_register   at a registration the only slot holds the text that is
                          being published

  For the second one nothing needs to hold before: a directory that has been
  listed and cleared is empty of generated names, even if the tasks before have
  left it half done.
-/

namespace QuasiGrammar

open Work

/-! ## §1. What every call keeps. -/

/-- The answers of a host keep its tree grounded. -/
theorem Host.isGrounded_of_answer {h h' : Host} (hg : h.tree.IsGrounded) {c : Call}
    {r : Except Failure c.Answer} (ha : h.answer c = (h', r)) : h'.tree.IsGrounded := by
  cases c with
  | write name text =>
    rcases Host.write_answer ha with ⟨htree, -⟩ | hwrite
    · rw [htree]
      exact hg
    · have hwritten := h.directory.isGrounded_write hg name text
      rwa [hwrite] at hwritten
  | delete name =>
    rcases Host.delete_answer ha with ⟨htree, -⟩ | hdelete
    · rw [htree]
      exact hg
    · have hdeleted := h.directory.isGrounded_delete hg name
      rwa [hdelete] at hdeleted
  | «exists» | list | unregister | register =>
    rw [Host.tree_of_answer rfl ha]
    exact hg

/-- What the answers to some calls keep holds after every call of a program that makes no others. -/
theorem Program.course_induction_of {α : Type} {P : Host → Prop} {C : Call → Prop}
    (hanswer : ∀ h c, C c → P h → P (h.answer c).1) (p : Program α) {h : Host} (hstart : P h)
    (hcalls : ∀ a ∈ (p.course h).steps, C a.call) : ∀ a ∈ (p.course h).steps, P a.host := by
  induction p generalizing h with
  | done a => exact fun _ ha => nomatch ha
  | notify n next ih => exact ih hstart hcalls
  | call c next ih =>
    obtain ⟨hfirst, hrest⟩ := List.forall_mem_cons.1 hcalls
    have hnext := hanswer h c hfirst hstart
    intro a ha
    rcases List.mem_cons.1 ha with rfl | ha
    · exact hnext
    · exact ih _ hnext hrest a ha

/-- What the answers to its calls keep holds when some work is over. -/
theorem Work.goes_induction {α : Type} {P : Host → Prop} {C : Call → Prop}
    (hanswer : ∀ h c, C c → P h → P (h.answer c).1) {w : Work α} {h h' : Host}
    {steps : List Answered} {r : Except Failure α} (hgo : w.Goes h steps h' r) (hstart : P h)
    (hcalls : ∀ a ∈ steps, C a.call) : P h' := by
  have hsteps := w.run.course_induction_of hanswer hstart
  have hend := w.run.host_course h
  rw [show w.run.course h = ⟨steps, h', r⟩ from hgo] at hsteps hend
  rw [show h' = lastHost h steps from hend]
  exact lastHost_induction hstart (hsteps hcalls)

namespace Store

variable {s : Store} {h h' : Host} {text : String} {steps : List Answered}

/-- The host that tasks leave behind. -/
def hostAfter (s : Store) (h : Host) (errands : List Errand) : Host :=
  lastHost h ((s.history h errands).flatMap (·.steps))

/-- What the answers to its calls keep holds after a task, wherever it stops. -/
theorem carry_induction {P : Host → Prop} {C : Call → Prop}
    (hanswer : ∀ h c, C c → P h → P (h.answer c).1) (hstart : P h) {e : Errand}
    (hcalls : ∀ a ∈ ((s.work e.task).run.course h).steps, C a.call) : P (s.carry h e).host := by
  rw [host_carry]
  refine lastHost_induction hstart fun a ha => ?_
  -- The calls that were answered come first in those of the whole work.
  obtain ⟨more, g, r, hgo⟩ := s.exists_goes_carry h e
  refine (s.work e.task).run.course_induction_of hanswer hstart hcalls a ?_
  rw [show (s.work e.task).run.course h = _ from hgo]
  exact List.mem_append_left _ ha

/-- What every answer keeps holds after all tasks. -/
theorem hostAfter_induction {P : Host → Prop} (hanswer : ∀ h c, P h → P (h.answer c).1)
    (hstart : P h) (errands : List Errand) : P (s.hostAfter h errands) := by
  induction errands generalizing h with
  | nil => exact hstart
  | cons e rest ih =>
    rw [hostAfter, history_cons, List.flatMap_cons, lastHost_append, ← host_carry]
    refine ih ?_
    exact carry_induction (C := fun _ => True) (fun h c _ => hanswer h c) hstart fun _ _ => trivial

/-- The host has the directory of the store, in a tree that is grounded. -/
structure Serves (s : Store) (h : Host) : Prop where
  directory : h.directory = s.directory
  grounded : h.tree.IsGrounded

theorem Serves.answer (hserves : s.Serves h) {c : Call} {r : Except Failure c.Answer}
    (ha : h.answer c = (h', r)) : s.Serves h' :=
  ⟨(Host.directory_of_answer ha).trans hserves.directory,
    Host.isGrounded_of_answer hserves.grounded ha⟩

theorem Serves.goes {α : Type} (hserves : s.Serves h) {w : Work α} {r : Except Failure α}
    (hgo : w.Goes h steps h' r) : s.Serves h' :=
  goes_induction (P := s.Serves) (C := fun _ => True) (fun _ _ _ hg => hg.answer rfl) hgo hserves
    fun _ _ => trivial

theorem Serves.hostAfter (hserves : s.Serves h) (errands : List Errand) :
    s.Serves (s.hostAfter h errands) :=
  hostAfter_induction (P := s.Serves) (fun _ _ hg => hg.answer rfl) hserves errands

/-- The host after a last task is the one that this task leaves behind. -/
theorem hostAfter_concat (s : Store) (h : Host) (errands : List Errand) (e : Errand) :
    s.hostAfter h (errands ++ [e]) = (s.carry (s.hostAfter h errands) e).host := by
  unfold Store.hostAfter
  rw [history_concat, List.flatMap_append, lastHost_append, host_carry]
  simp

/-! ## §2. The host at a registration. -/

/-- The files of a store have been listed in a directory that is there, or there are none. -/
theorem isRooted_of_list {t : FileTree} (hg : t.IsGrounded) {names : List String}
    (hlist : s.directory.list t = .ok names) : s.IsRooted t := by
  rcases GrammarDirectory.list_eq_ok_cases hg hlist with hdir | hempty
  · exact .inr hdir
  · refine .inl (List.eq_nil_iff_forall_not_mem.2 fun e he => ?_)
    obtain ⟨name, -, hname⟩ := owns_iff.1 (owns_of_mem_slots he)
    exact slot_ne_of_get? (hempty name) e he hname

/-- In whatever state the directory was, once it is cleared it has no slots. -/
theorem slots_of_cleared (hs : s.HasPlainPrefix) (hdir : h.directory = s.directory)
    (hg : h.tree.IsGrounded) {names : List String}
    (hgo : Goes s.removeGenerated h steps h' (.ok names)) :
    h'.directory = s.directory ∧ s.slots h'.tree = [] := by
  obtain ⟨-, hend, hnil⟩ := removeGenerated_shrinks hs hdir hgo
  refine ⟨hend.directory.trans hdir, hnil names rfl ?_⟩
  rcases goes_removeGenerated hgo with ⟨_, -, hbad, -⟩ | ⟨listed, mid, _, _, hlist, -, -, -⟩
  · cases hbad
  · have hlisted := (Host.list_answer_ok hlist).1
    rw [hdir] at hlisted
    exact isRooted_of_list hg hlisted

/-- Where a registration is the only one among some calls, it is where it is. -/
theorem eq_of_only_register {front last before after : List Answered} {a b : Answered}
    (hsteps : front ++ a :: last = before ++ b :: after) (hb : ∃ path, b.call = .register path)
    (hfront : ∀ x ∈ front, ∀ path, x.call ≠ .register path)
    (hlast : ∀ x ∈ last, ∀ path, x.call ≠ .register path) : front = before ∧ a = b := by
  obtain ⟨path, hb⟩ := hb
  rcases append_eq_append_cons hsteps with ⟨mid, hmid, -⟩ | ⟨mid, rfl, hmid⟩
  · exact absurd hb (hfront b (by rw [hmid]; simp) path)
  · rcases List.cons_eq_append_iff.1 hmid with ⟨rfl, hsame⟩ | ⟨mid', rfl, hrest⟩
    · exact ⟨(List.append_nil _).symm, (List.cons.inj hsame).1.symm⟩
    · exact absurd hb (hlast b (by rw [hrest]; simp) path)

/-- Removing the files registers nothing. -/
theorem call_ne_register {r : Except Failure (List String)}
    (hgo : Goes s.removeGenerated h steps h' r) :
    ∀ x ∈ steps, ∀ path, x.call ≠ .register path := by
  intro x hx path hcall
  have hno := goesToRegistry_removeGenerated hgo x hx
  rw [hcall] at hno
  cases hno

/-- At the registration of a text its slot has been filled, and it is the only one. -/
theorem slots_of_written (hs : s.HasPlainPrefix) (hdir : h.directory = s.directory)
    (hg : h.tree.IsGrounded) {mid clean written : Host} {cleared last before after : List Answered}
    {names : List String} {a b : Answered}
    (hun : h.answer (.unregister s.scopeName) = (mid, .ok ()))
    (hclear : Goes s.removeGenerated mid cleared clean (.ok names))
    (hwrite : clean.answer (.write (s.nameOf text) text) = (written, .ok ()))
    (hsteps : ⟨.unregister s.scopeName, none, mid⟩ ::
        (cleared ++ ⟨.write (s.nameOf text) text, none, written⟩ :: a :: last) =
      before ++ b :: after)
    (hb : ∃ path, b.call = .register path) (hlast : ∀ x ∈ last, ∀ path, x.call ≠ .register path) :
    a = b ∧ s.slots (lastHost h before).tree = [(s.pathTo (s.nameOf text), .file text)] := by
  have hmid : mid.tree.IsGrounded := Host.isGrounded_of_answer hg hun
  obtain ⟨hclean, hnil⟩ :=
    slots_of_cleared hs ((Host.directory_of_answer hun).trans hdir) hmid hclear
  obtain ⟨-, hslots⟩ := write_holdsOne hs hclean hnil (List.mem_singleton_self text) hwrite
  -- Neither the removal nor the clearing registers anything, nor does the write.
  have hfront : ∀ x ∈ (⟨.unregister s.scopeName, none, mid⟩ ::
      (cleared ++ [⟨.write (s.nameOf text) text, none, written⟩]) : List Answered),
      ∀ path, x.call ≠ .register path := by
    rw [List.forall_mem_cons, List.forall_mem_append, List.forall_mem_singleton]
    exact ⟨by simp, call_ne_register hclear, by simp⟩
  obtain ⟨rfl, hab⟩ := eq_of_only_register (by simpa using hsteps) hb hfront hlast
  refine ⟨hab, ?_⟩
  rw [lastHost_cons, lastHost_append, lastHost_cons, lastHost_nil]
  exact hslots rfl

/-- When a replacement comes to register a file, the file is that of its text, and the only slot. -/
theorem slots_at_register (hs : s.HasPlainPrefix) (hdir : h.directory = s.directory)
    (hg : h.tree.IsGrounded) {r : Except Failure Unit} {before after : List Answered} {path : Path}
    {failure : Option Failure} {g : Host}
    (hgo : s.Replacement (s.ownEntry text) text h (before ++ ⟨.register path, failure, g⟩ :: after)
      h' r) :
    path = s.pathTo (s.nameOf text) ∧
      s.slots (lastHost h before).tree = [(s.pathTo (s.nameOf text), .file text)] := by
  generalize hsteps : before ++ ⟨.register path, failure, g⟩ :: after = steps at hgo
  have hmem : ⟨.register path, failure, g⟩ ∈ steps := by rw [← hsteps]; simp
  cases hgo with
  | kept hun => simp at hmem
  | uncleared hun hclear =>
    exact absurd rfl (call_ne_register hclear _ (by simpa using hmem) path)
  | unwritten hun hclear hwrite =>
    exact absurd rfl (call_ne_register hclear _ (by simpa using hmem) path)
  | @unregistered mid clean written refused _ cleared names f f' q hun hclear hwrite hreg hdel =>
    obtain ⟨hab, hslots⟩ := slots_of_written hs hdir hg hun hclear hwrite hsteps.symm ⟨path, rfl⟩
      (by simp)
    cases hab
    exact ⟨rfl, hslots⟩
  | @done mid clean written _ cleared names hun hclear hwrite hreg =>
    obtain ⟨hab, hslots⟩ := slots_of_written hs hdir hg hun hclear hwrite hsteps.symm ⟨path, rfl⟩
      (by simp)
    cases hab
    exact ⟨rfl, hslots⟩

/-- When a publication comes to register a file, the file is that of its text, with the text in it,
and no other name in the directory is generated. -/
theorem file_at_register (hs : s.HasPlainPrefix) (hdir : h.directory = s.directory)
    (hg : h.tree.IsGrounded) {r : Except Failure String} {before after : List Answered}
    {path : Path} {failure : Option Failure} {g : Host}
    (hgo : Goes (s.publish text) h (before ++ ⟨.register path, failure, g⟩ :: after) h' r) :
    path = s.pathTo (s.nameOf text) ∧ (lastHost h before).tree.get? path = some (.file text) ∧
      s.generatedNames (lastHost h before).tree = [s.nameOf text] := by
  have hslots : path = s.pathTo (s.nameOf text) ∧
      s.slots (lastHost h before).tree = [(s.pathTo (s.nameOf text), .file text)] := by
    have hpub := goes_publish (entry_eq hs text) hgo
    generalize hsteps : before ++ ⟨.register path, failure, g⟩ :: after = steps at hpub
    -- The first call asks for the file and changes none.
    have hrest : ∀ {mid : Host} {rest : List Answered} {q : Except Failure Unit},
        h.answer (.exists (s.nameOf text)) = (mid, .ok false) →
        s.Replacement (s.ownEntry text) text mid rest h' q →
        before ++ ⟨.register path, failure, g⟩ :: after =
          ⟨.exists (s.nameOf text), none, mid⟩ :: rest →
        path = s.pathTo (s.nameOf text) ∧
          s.slots (lastHost h before).tree = [(s.pathTo (s.nameOf text), .file text)] := by
      intro mid rest q hex hrep hall
      rcases List.append_eq_cons_iff.1 hall with ⟨rfl, hbad⟩ | ⟨before', rfl, rfl⟩
      · cases hbad
      · rw [lastHost_cons]
        exact slots_at_register hs ((Host.directory_of_answer hex).trans hdir)
          (Host.isGrounded_of_answer hg hex) hrep
    cases hpub with
    | unknown hex => simp [List.append_eq_cons_iff] at hsteps
    | found hex => simp [List.append_eq_cons_iff] at hsteps
    | failed hex hrep => exact hrest hex hrep hsteps
    | replaced hex hrep => exact hrest hex hrep hsteps
  obtain ⟨rfl, hslots⟩ := hslots
  exact ⟨rfl, get?_of_slots_singleton (s.isGenerated_nameOf text) hslots,
    generatedNames_singleton hslots⟩

/-! ## §3. The calls of the registry. -/

/-- Every registration comes right after a removal of the grammar of a scope. -/
def RightAfterRemoval (scope : String) (calls : List Call) : Prop :=
  ∀ before path after, calls = before ++ .register path :: after →
    ∃ front, before = front ++ [.unregister scope]

theorem RightAfterRemoval.append {scope : String} {calls more : List Call}
    (h : RightAfterRemoval scope calls) (hmore : RightAfterRemoval scope more) :
    RightAfterRemoval scope (calls ++ more) := by
  intro before path after hcalls
  rcases append_eq_append_cons hcalls with ⟨mid, hmid, -⟩ | ⟨mid, rfl, hmid⟩
  · exact h before path mid hmid
  · obtain ⟨front, rfl⟩ := hmore mid path after hmid
    exact ⟨calls ++ front, by rw [List.append_assoc]⟩

/-- Between two registrations there is a removal. -/
theorem RightAfterRemoval.between {scope : String} {before between after : List Call}
    {first second : Path} (h : RightAfterRemoval scope
      (before ++ .register first :: (between ++ .register second :: after))) :
    .unregister scope ∈ between := by
  obtain ⟨front, hfront⟩ := h (before ++ .register first :: between) second after (by simp)
  have hmem : Call.unregister scope ∈ Call.register first :: between := by
    rcases append_eq_append_cons hfront with ⟨mid, -, hbad⟩ | ⟨mid, -, hlast⟩
    · simp at hbad
    · rw [hlast]
      simp
  exact (List.mem_cons.1 hmem).resolve_left (by simp)

/-- A task that registers a file has removed the grammar before. -/
theorem RegistryChange.rightAfterRemoval {o : Outcome} (h : s.RegistryChange o) :
    RightAfterRemoval s.scopeName (registryCalls o.steps) := by
  intro before path after hcalls
  cases h with
  | none hnone =>
    rw [hnone] at hcalls
    simp at hcalls
  | removal hremoval _ =>
    rw [hremoval] at hcalls
    simp [List.singleton_eq_append_iff] at hcalls
  | renewal _ _ hrenewal _ =>
    rw [hrenewal] at hcalls
    rcases before with _ | ⟨c, _ | ⟨_, _⟩⟩
    · cases hcalls
    · cases hcalls
      exact ⟨[], rfl⟩
    · simp at hcalls

theorem rightAfterRemoval_flatMap {os : List Outcome} (hos : ∀ o ∈ os, s.RegistryChange o) :
    RightAfterRemoval s.scopeName (registryCalls (os.flatMap (·.steps))) := by
  induction os with
  | nil =>
    intro before path after hcalls
    simp [registryCalls] at hcalls
  | cons o rest ih =>
    rw [List.forall_mem_cons] at hos
    rw [List.flatMap_cons, registryCalls_append]
    exact hos.1.rightAfterRemoval.append (ih hos.2)

/-! ## §4. The order and what follows from it. -/

/-- **Every publication makes its calls in one order, which is safe.**  The prefix of the store is
plain.

Whatever the calls are answered with, and whichever fail, the calls of a publication come in the
order of `procedure`, none after one that failed, and the file is deleted again just if the
registration has failed; a file that is there is left alone, and what is announced has been
registered.

So over all tasks, whatever state the host was in at first, whichever calls fail and wherever the
tasks break off: between two registrations that succeed a removal succeeds; and when a publication
comes to register a file, the file is there with the text that is being published, and no other name
in the directory is generated. -/
theorem publish_in_order (s : Store) (hs : s.HasPlainPrefix) :
    (∀ text talk r, Talks (s.publish text) talk r → s.KeepsOrder text talk) ∧
      ∀ h : Host, h.directory = s.directory → h.tree.IsGrounded → ∀ errands : List Errand,
        (∀ before first between second after,
          registryCalls ((s.history h errands).flatMap (·.steps)) =
              before ++ .register first :: (between ++ .register second :: after) →
            .unregister s.scopeName ∈ between) ∧
        ∀ text before path failure g after h' r,
          Goes (s.publish text) (s.hostAfter h errands)
              (before ++ ⟨.register path, failure, g⟩ :: after) h' r →
            path = s.pathTo (s.nameOf text) ∧
              (lastHost (s.hostAfter h errands) before).tree.get? path = some (.file text) ∧
              s.generatedNames (lastHost (s.hostAfter h errands) before).tree =
                [s.nameOf text] := by
  refine ⟨fun text talk r htalk => (talks_publish hs htalk).keepsOrder, ?_⟩
  intro h hdir hg errands
  have hstart : (s.hostAfter h errands).directory = s.directory ∧
      (s.hostAfter h errands).tree.IsGrounded :=
    hostAfter_induction (P := fun g => g.directory = s.directory ∧ g.tree.IsGrounded)
      (fun g c hc => ⟨(g.directory_answer c).trans hc.1, Host.isGrounded_of_answer hc.2 rfl⟩)
      ⟨hdir, hg⟩ errands
  refine ⟨?_, ?_⟩
  · intro before first between second after hcalls
    have hright := rightAfterRemoval_flatMap (s.registryChange_history h errands)
    rw [hcalls] at hright
    exact hright.between
  · intro text before path failure g after h' r hgo
    exact file_at_register hs hstart.1 hstart.2 hgo

/-- One text is published and the publication of the next one breaks off after its file was written.
The third one keeps the order, and finds nothing but its own file when it comes to register it. -/
theorem publish_in_order_of_break :
    sampleStore.KeepsOrder "third" ((sampleStore.publish "third").run.talk
        (sampleStore.hostAfter sampleHost
          [⟨.publish "first", none⟩, ⟨.publish "second", some 5⟩])) ∧
      ∃ before a after,
        ((sampleStore.publish "third").run.course (sampleStore.hostAfter sampleHost
            [⟨.publish "first", none⟩, ⟨.publish "second", some 5⟩])).steps = before ++ a :: after ∧
          a.call = .register (sampleStore.pathTo (sampleStore.nameOf "third")) ∧
          sampleStore.generatedNames (lastHost (sampleStore.hostAfter sampleHost
              [⟨.publish "first", none⟩, ⟨.publish "second", some 5⟩]) before).tree =
            [sampleStore.nameOf "third"] := by
  obtain ⟨horder, hhosts⟩ := publish_in_order sampleStore ⟨by decide, by decide⟩
  obtain ⟨-, hfile⟩ := hhosts sampleHost rfl (by unfold FileTree.IsGrounded; decide)
    [⟨.publish "first", none⟩, ⟨.publish "second", some 5⟩]
  refine ⟨horder _ _ _ (Program.talks_talk _ _), ?_⟩
  have hcalled : Call.register (sampleStore.pathTo (sampleStore.nameOf "third")) ∈
      ((sampleStore.publish "third").run.course (sampleStore.hostAfter sampleHost
        [⟨.publish "first", none⟩, ⟨.publish "second", some 5⟩])).steps.map (·.call) := by
    decide +kernel
  obtain ⟨⟨call, failure, g⟩, ha, rfl⟩ := List.mem_map.1 hcalled
  obtain ⟨before, after, hsteps⟩ := List.append_of_mem ha
  refine ⟨before, _, after, hsteps, rfl, ?_⟩
  have hgo := goes_course (sampleStore.publish "third") (sampleStore.hostAfter sampleHost
    [⟨.publish "first", none⟩, ⟨.publish "second", some 5⟩])
  rw [hsteps] at hgo
  exact (hfile _ _ _ _ _ _ _ _ hgo).2.2

end Store

end QuasiGrammar
