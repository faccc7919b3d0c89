import QuasiGrammar.Proofs.Publish.Calls
import QuasiGrammar.Proofs.Publish.Slots
import QuasiGrammar.Publish.History

/-
  QuasiGrammar.Proofs.Publish.SingleFile
  ──────────────────────────────────────
  **At no time is there more than one published file, and its name is that of
  its text.**

  Whatever call fails, and wherever a task breaks off: between any two calls
  the directory holds no generated name, or the name of one text that was to
  be published, with that text (`generatedNames_history`).

      Shrinks   what deleting does to slots, at every call
      HoldsOne  the invariant

  Removing comes before writing, and a removal that succeeds has emptied all
  slots (`removeGenerated_shrinks`); so the one write fills the only slot.
-/

namespace QuasiGrammar

namespace Store

open Work

/-! ## §1. Taking slots away. -/

/-- From one host to another, slots are at most taken away. -/
structure Shrinks (s : Store) (h h' : Host) : Prop where
  directory : h'.directory = h.directory
  slots : (s.slots h'.tree).Sublist (s.slots h.tree)
  rooted : s.IsRooted h.tree → s.IsRooted h'.tree

variable {s : Store} {h h' mid : Host} {steps : List Answered}

theorem Shrinks.refl (s : Store) (h : Host) : s.Shrinks h h :=
  ⟨rfl, .refl _, id⟩

theorem Shrinks.trans (h₁ : s.Shrinks h mid) (h₂ : s.Shrinks mid h') : s.Shrinks h h' :=
  ⟨h₂.directory.trans h₁.directory, h₂.slots.trans h₁.slots, h₂.rooted ∘ h₁.rooted⟩

/-- A call that neither writes nor deletes leaves the slots as they are. -/
theorem shrinks_answer (s : Store) {c : Call} {r : Except Failure c.Answer}
    (hc : c.changesFiles = false) (ha : h.answer c = (h', r)) : s.Shrinks h h' := by
  have htree := Host.tree_of_answer hc ha
  refine ⟨Host.directory_of_answer ha, ?_, ?_⟩
  · rw [htree]
  · rw [htree]
    exact id

/-- Deleting a generated name takes its slot away, at most; after a success it is gone. -/
theorem shrinks_delete (hs : s.HasPlainPrefix) (hdir : h.directory = s.directory) {name : String}
    (hg : s.isGenerated name = true) {r : Except Failure Unit}
    (ha : h.answer (.delete name) = (h', r)) :
    s.Shrinks h h' ∧
      (r = .ok () → s.IsRooted h.tree → ∀ e ∈ s.slots h'.tree, e.1 ≠ s.pathTo name) := by
  have hdir' := Host.directory_of_answer ha
  rcases Host.delete_answer ha with ⟨htree, f, rfl⟩ | hdel
  · refine ⟨⟨hdir', ?_, ?_⟩, by simp⟩
    · rw [htree]
    · rw [htree]
      exact id
  · rw [hdir] at hdel
    obtain ⟨hcases, hgone⟩ := delete_slot hs hg hdel
    refine ⟨⟨hdir', ?_, ?_⟩, hgone⟩
    · rcases hcases with htree | htree
      · rw [htree]
      · rw [htree, slots_erase]
        exact List.filter_sublist
    · -- The directory is still there, whether or not the slot is.
      intro hr
      rcases hcases with htree | htree
      · rw [htree]
        exact hr
      · rw [htree]
        exact hr.erase name

/-- Deleting generated names takes slots away, and all of them if it succeeds. -/
theorem deleteAll_shrinks (hs : s.HasPlainPrefix) {names : List String} {r : Except Failure Unit}
    (hdir : h.directory = s.directory) (hg : ∀ name ∈ names, s.isGenerated name = true)
    (hgo : Goes (deleteAll names) h steps h' r) :
    (∀ a ∈ steps, s.Shrinks h a.host) ∧ s.Shrinks h h' ∧
      (r = .ok () → s.IsRooted h.tree →
        ∀ e ∈ s.slots h'.tree, ∀ name ∈ names, e.1 ≠ s.pathTo name) := by
  -- A slot that is gone does not come back with the deletions that follow.
  induction names generalizing h steps with
  | nil =>
    obtain ⟨rfl, rfl, rfl⟩ := goes_pure.1 hgo
    exact ⟨by simp, .refl _ _, by simp⟩
  | cons name rest ih =>
    have hname := hg name List.mem_cons_self
    rcases goes_deleteAll_cons hgo with ⟨f, ha, rfl, rfl⟩ | ⟨mid, after, ha, hrest, rfl⟩
    · obtain ⟨hsh, -⟩ := shrinks_delete hs hdir hname ha
      refine ⟨?_, hsh, by simp⟩
      intro a hmem
      rw [List.mem_singleton] at hmem
      rw [hmem]
      exact hsh
    · obtain ⟨hsh, hgone⟩ := shrinks_delete hs hdir hname ha
      obtain ⟨hsteps, hend, hall⟩ := ih (hsh.directory.trans hdir)
        (fun n hn => hg n (List.mem_cons_of_mem _ hn)) hrest
      refine ⟨?_, hsh.trans hend, ?_⟩
      · intro a hmem
        rcases List.mem_cons.1 hmem with rfl | hmem
        · exact hsh
        · exact hsh.trans (hsteps a hmem)
      · intro hok hr e he n hn
        rcases List.mem_cons.1 hn with rfl | hn
        · exact hgone rfl hr e (hend.slots.subset he)
        · exact hall hok (hsh.rooted hr) e he n hn

/-- Removing the files takes slots away, and leaves none if it succeeds. -/
theorem removeGenerated_shrinks (hs : s.HasPlainPrefix) {r : Except Failure (List String)}
    (hdir : h.directory = s.directory) (hgo : Goes s.removeGenerated h steps h' r) :
    (∀ a ∈ steps, s.Shrinks h a.host) ∧ s.Shrinks h h' ∧
      (∀ names, r = .ok names → s.IsRooted h.tree → s.slots h'.tree = []) := by
  have hlist : ∀ {g : Host} {q : Except Failure (List String)}, h.answer .list = (g, q) →
      s.Shrinks h g :=
    fun ha => s.shrinks_answer rfl ha
  rcases goes_removeGenerated hgo with ⟨f, ha, rfl, rfl⟩ |
    ⟨names, mid, after, q, ha, hdel, rfl, rfl⟩
  · refine ⟨?_, hlist ha, by simp⟩
    intro a hmem
    rw [List.mem_singleton] at hmem
    rw [hmem]
    exact hlist ha
  · have hsh := hlist ha
    obtain ⟨hsteps, hend, hall⟩ := deleteAll_shrinks hs (hsh.directory.trans hdir)
      (fun n hn => by simpa using (List.mem_filter.1 hn).2) hdel
    refine ⟨?_, hsh.trans hend, ?_⟩
    · intro a hmem
      rcases List.mem_cons.1 hmem with rfl | hmem
      · exact hsh
      · exact hsh.trans (hsteps a hmem)
    · intro names' hok hr
      have hq : q = .ok () := by
        cases q with
        | ok => rfl
        | error f => cases hok
      obtain ⟨hlisted, htree⟩ := Host.list_answer_ok ha
      rw [hdir] at hlisted
      rw [list_eq_ok hr hlisted] at hall
      -- A slot that were left would have its name in the listing.
      refine List.eq_nil_iff_forall_not_mem.2 fun e he => ?_
      have hold : e ∈ s.slots h.tree := by
        rw [← htree]
        exact hend.slots.subset he
      obtain ⟨name, hg, hp⟩ := owns_iff.1 (owns_of_mem_slots hold)
      refine hall hq (hsh.rooted hr) e he name ?_ hp
      refine (s.generatedNames_perm h.tree).mem_iff.2 (List.mem_filterMap.2 ⟨e, hold, ?_⟩)
      rw [hp]
      exact Path.name?_child _ _

/-! ## §2. The invariant. -/

/-- The slots are empty, or one of them holds one of some texts. -/
structure HoldsOne (s : Store) (texts : List String) (h : Host) : Prop where
  directory : h.directory = s.directory
  rooted : s.IsRooted h.tree
  single : s.slots h.tree = [] ∨
    ∃ text ∈ texts, s.slots h.tree = [(s.pathTo (s.nameOf text), .file text)]

variable {texts : List String} {text : String}

theorem HoldsOne.of_nil (hdir : h.directory = s.directory) (hnil : s.slots h.tree = []) :
    s.HoldsOne texts h :=
  ⟨hdir, .inl hnil, .inl hnil⟩

theorem HoldsOne.shrinks (hone : s.HoldsOne texts h) (hsh : s.Shrinks h h') :
    s.HoldsOne texts h' := by
  refine ⟨hsh.directory.trans hone.directory, hsh.rooted hone.rooted, ?_⟩
  have hsub := hsh.slots
  rcases hone.single with hnil | ⟨text, hmem, hslots⟩
  · rw [hnil] at hsub
    exact .inl (List.sublist_nil.1 hsub)
  · rw [hslots] at hsub
    rcases List.sublist_singleton.1 hsub with hnil | hsame
    · exact .inl hnil
    · exact .inr ⟨text, hmem, hsame⟩

/-- Writing the file of a text when no slot is filled fills the slot of the text, if it
succeeds. -/
theorem write_holdsOne (hs : s.HasPlainPrefix) (hdir : h.directory = s.directory)
    (hnil : s.slots h.tree = []) (hmem : text ∈ texts) {r : Except Failure Unit}
    (ha : h.answer (.write (s.nameOf text) text) = (h', r)) :
    s.HoldsOne texts h' ∧
      (r = .ok () → s.slots h'.tree = [(s.pathTo (s.nameOf text), .file text)]) := by
  have hdir' := (Host.directory_of_answer ha).trans hdir
  rcases Host.write_answer ha with ⟨htree, f, rfl⟩ | hwrite
  · rw [← htree] at hnil
    exact ⟨.of_nil hdir' hnil, by simp⟩
  · rw [hdir] at hwrite
    rcases write_slot hs (s.isGenerated_nameOf text) hwrite with ⟨rfl, hslots, hthere⟩ |
      ⟨⟨f, rfl⟩, hslots, -⟩
    · rw [hnil] at hslots
      exact ⟨⟨hdir', .inr hthere, .inr ⟨text, hmem, hslots⟩⟩, fun _ => hslots⟩
    · exact ⟨.of_nil hdir' (hslots.trans hnil), by simp⟩

/-! ## §3. Every call keeps the invariant. -/

/-- The entry of a text, in a directory that its name is followed from. -/
def ownEntry (s : Store) (text : String) : StoreEntry :=
  ⟨Digest.ofText text, s.nameOf text, s.pathTo (s.nameOf text)⟩

/-- Removing the files keeps the invariant, and leaves no slots if it succeeds. -/
theorem cleared_holdsOne (hs : s.HasPlainPrefix) {names : List String}
    (hone : s.HoldsOne texts h) (hgo : Goes s.removeGenerated h steps h' (.ok names)) :
    (∀ a ∈ steps, s.HoldsOne texts a.host) ∧ h'.directory = s.directory ∧ s.slots h'.tree = [] := by
  obtain ⟨hsteps, hend, hnil⟩ := removeGenerated_shrinks hs hone.directory hgo
  exact ⟨fun a ha => hone.shrinks (hsteps a ha), (hone.shrinks hend).directory,
    hnil names rfl hone.rooted⟩

theorem replacement_holdsOne (hs : s.HasPlainPrefix) {r : Except Failure Unit}
    (hone : s.HoldsOne texts h) (hmem : text ∈ texts)
    (hgo : s.Replacement (s.ownEntry text) text h steps h' r) :
    (∀ a ∈ steps, s.HoldsOne texts a.host) ∧
      (r = .ok () → s.slots h'.tree = [(s.pathTo (s.nameOf text), .file text)]) := by
  have hunreg : ∀ {g : Host} {q : Except Failure Unit},
      h.answer (.unregister s.scopeName) = (g, q) → s.HoldsOne texts g :=
    fun ha => hone.shrinks (s.shrinks_answer rfl ha)
  cases hgo with
  | kept hun => exact ⟨by simpa using hunreg hun, by simp⟩
  | uncleared hun hclear =>
    have hmid := hunreg hun
    -- Some files may be gone and others not.
    obtain ⟨hsteps, -, -⟩ := removeGenerated_shrinks hs hmid.directory hclear
    refine ⟨?_, by simp⟩
    rw [List.forall_mem_cons]
    exact ⟨hmid, fun a ha => hmid.shrinks (hsteps a ha)⟩
  | unwritten hun hclear hwrite =>
    have hmid := hunreg hun
    obtain ⟨hcleared, hdir, hnil⟩ := cleared_holdsOne hs hmid hclear
    obtain ⟨hlast, -⟩ := write_holdsOne hs hdir hnil hmem hwrite
    refine ⟨?_, by simp⟩
    rw [List.forall_mem_cons, List.forall_mem_append, List.forall_mem_singleton]
    exact ⟨hmid, hcleared, hlast⟩
  | unregistered hun hclear hwrite hreg hdel =>
    have hmid := hunreg hun
    obtain ⟨hcleared, hdir, hnil⟩ := cleared_holdsOne hs hmid hclear
    obtain ⟨hwritten, -⟩ := write_holdsOne hs hdir hnil hmem hwrite
    have hrefused := hwritten.shrinks (s.shrinks_answer rfl hreg)
    -- The file that could not be registered is deleted, or it is left behind.
    have hdeleted := shrinks_delete hs hrefused.directory (s.isGenerated_nameOf text) hdel
    refine ⟨?_, by simp⟩
    rw [List.forall_mem_cons, List.forall_mem_append, List.forall_mem_cons, List.forall_mem_cons,
      List.forall_mem_singleton]
    exact ⟨hmid, hcleared, hwritten, hrefused, hrefused.shrinks hdeleted.1⟩
  | @done mid clean written _ cleared names hun hclear hwrite hreg =>
    have hmid := hunreg hun
    obtain ⟨hcleared, hdir, hnil⟩ := cleared_holdsOne hs hmid hclear
    obtain ⟨hwritten, hslot⟩ := write_holdsOne hs hdir hnil hmem hwrite
    have hlast := hwritten.shrinks (s.shrinks_answer rfl hreg)
    have hsame : h'.tree = written.tree := Host.tree_of_answer rfl hreg
    refine ⟨?_, fun _ => hsame ▸ hslot rfl⟩
    rw [List.forall_mem_cons, List.forall_mem_append, List.forall_mem_cons,
      List.forall_mem_singleton]
    exact ⟨hmid, hcleared, hwritten, hlast⟩

theorem publication_holdsOne (hs : s.HasPlainPrefix) {r : Except Failure String}
    (hone : s.HoldsOne texts h) (hmem : text ∈ texts)
    (hgo : s.Publication (s.ownEntry text) text h steps h' r) :
    ∀ a ∈ steps, s.HoldsOne texts a.host := by
  have hexists : ∀ {g : Host} {q : Except Failure Bool},
      h.answer (.exists (s.nameOf text)) = (g, q) → s.HoldsOne texts g :=
    fun ha => hone.shrinks (s.shrinks_answer rfl ha)
  cases hgo with
  | unknown hex => simpa using hexists hex
  | found hex => simpa using hexists hex
  | failed hex hrep =>
    simp only [List.mem_cons, forall_eq_or_imp]
    exact ⟨hexists hex, (replacement_holdsOne hs (hexists hex) hmem hrep).1⟩
  | replaced hex hrep =>
    simp only [List.mem_cons, forall_eq_or_imp]
    exact ⟨hexists hex, (replacement_holdsOne hs (hexists hex) hmem hrep).1⟩

/-- All work of a store keeps the invariant at every call. -/
theorem work_holdsOne (hs : s.HasPlainPrefix) {task : StoreTask}
    {r : Except Failure (Option String)} (hone : s.HoldsOne texts h)
    (hmem : ∀ text, task.text? = some text → text ∈ texts) (hgo : Goes (s.work task) h steps h' r) :
    ∀ a ∈ steps, s.HoldsOne texts a.host := by
  cases task with
  | publish text =>
    obtain ⟨q, hgo, -⟩ := goes_work_publish.1 hgo
    exact publication_holdsOne hs hone (hmem text rfl) (goes_publish (entry_eq hs text) hgo)
  | cleanup =>
    obtain ⟨q, hgo, -⟩ := goes_work_cleanup.1 hgo
    intro a ha
    exact hone.shrinks ((removeGenerated_shrinks hs hone.directory hgo).1 a ha)

/-- So does a task that breaks off. -/
theorem carry_holdsOne (hs : s.HasPlainPrefix) {e : Errand} (hone : s.HoldsOne texts h)
    (hmem : ∀ text, e.task.text? = some text → text ∈ texts) :
    (∀ a ∈ (s.carry h e).steps, s.HoldsOne texts a.host) ∧ s.HoldsOne texts (s.carry h e).host := by
  have hsteps : ∀ a ∈ (s.carry h e).steps, s.HoldsOne texts a.host := by
    -- The calls that were answered come first in those of the whole work.
    obtain ⟨rest, g, r, hgo⟩ := s.exists_goes_carry h e
    intro a ha
    exact work_holdsOne hs hone hmem hgo a (List.mem_append_left _ ha)
  refine ⟨hsteps, ?_⟩
  rw [host_carry]
  exact lastHost_induction hone hsteps

theorem history_holdsOne (hs : s.HasPlainPrefix) {errands : List Errand}
    (hone : s.HoldsOne texts h)
    (hmem : ∀ e ∈ errands, ∀ text, e.task.text? = some text → text ∈ texts) :
    ∀ o ∈ s.history h errands, ∀ a ∈ o.steps, s.HoldsOne texts a.host := by
  induction errands generalizing h with
  | nil => simp [history]
  | cons e rest ih =>
    obtain ⟨hsteps, hend⟩ := carry_holdsOne hs hone (hmem e List.mem_cons_self)
    rw [history_cons]
    simp only [List.mem_cons, forall_eq_or_imp]
    exact ⟨hsteps, ih hend fun e' he' => hmem e' (List.mem_cons_of_mem _ he')⟩

/-! ## §4. One file at a time. -/

theorem HoldsOne.generatedNames (hone : s.HoldsOne texts h) :
    s.generatedNames h.tree = [] ∨
      ∃ text ∈ texts, s.generatedNames h.tree = [s.nameOf text] ∧
        h.tree.get? (s.pathTo (s.nameOf text)) = some (.file text) := by
  rcases hone.single with hnil | ⟨text, hmem, hslots⟩
  · exact .inl (generatedNames_eq_nil hnil)
  · exact .inr ⟨text, hmem, generatedNames_singleton hslots,
      get?_of_slots_singleton (s.isGenerated_nameOf text) hslots⟩

/-- **One file at a time.**  A store with a plain prefix starts in a directory without generated
names.  Whatever its tasks are, whichever calls fail and wherever the tasks break off: at first and
after every call there is no generated name, or just that of a text which was to be published, and
its file holds that text. -/
theorem generatedNames_history (s : Store) (hs : s.HasPlainPrefix) (h : Host)
    (hdir : h.directory = s.directory) (hnone : s.generatedNames h.tree = [])
    (errands : List Errand) (g : Host)
    (hg : g ∈ h :: ((s.history h errands).flatMap (·.steps)).map (·.host)) :
    s.generatedNames g.tree = [] ∨
      ∃ text ∈ errands.filterMap (·.task.text?),
        s.generatedNames g.tree = [s.nameOf text] ∧
          g.tree.get? (s.pathTo (s.nameOf text)) = some (.file text) := by
  have hone : s.HoldsOne (errands.filterMap (·.task.text?)) h :=
    .of_nil hdir (slots_eq_nil hnone)
  have hmem : ∀ e ∈ errands, ∀ text, e.task.text? = some text →
      text ∈ errands.filterMap (·.task.text?) :=
    fun e he text ht => List.mem_filterMap.2 ⟨e, he, ht⟩
  rcases List.mem_cons.1 hg with rfl | hg
  · exact hone.generatedNames
  · obtain ⟨a, ha, rfl⟩ := List.mem_map.1 hg
    obtain ⟨o, ho, hao⟩ := List.mem_flatMap.1 ha
    exact (history_holdsOne hs hone hmem o ho a hao).generatedNames

/-- A store in a directory of its own. -/
def sampleStore : Store := ⟨⟨⟨["grammars"]⟩⟩, "source.js", "ttl", "grammars"⟩

/-- A host with the empty directory of that store. -/
def sampleHost : Host := .calm ⟨[(⟨["grammars"]⟩, .directory)]⟩ sampleStore.directory

/-- One text is published, and the publication of the next one breaks off when its file is written:
the file holds the second text by then. -/
theorem generatedNames_of_break :
    ∃ text ∈ ["first", "second"],
      sampleStore.generatedNames
          (lastHost sampleHost ((sampleStore.history sampleHost
            [⟨.publish "first", none⟩, ⟨.publish "second", some 5⟩]).flatMap (·.steps))).tree =
        [sampleStore.nameOf text] ∧
      text = "second" := by
  have hnow := generatedNames_history sampleStore ⟨by decide, by decide⟩ sampleHost rfl
    (by decide +kernel) [⟨.publish "first", none⟩, ⟨.publish "second", some 5⟩] _
    (lastHost_mem _ _)
  rcases hnow with hnone | ⟨text, hmem, hnames, hfile⟩
  · exact absurd hnone (by decide +kernel)
  · refine ⟨text, hmem, hnames, ?_⟩
    rcases List.mem_cons.1 hmem with rfl | hmem
    · exact absurd hnames (by decide +kernel)
    · exact List.mem_singleton.1 hmem

end Store

end QuasiGrammar
