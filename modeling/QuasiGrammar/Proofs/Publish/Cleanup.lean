import QuasiGrammar.Proofs.Files.Removal
import QuasiGrammar.Proofs.Publish.Retry

/-
  QuasiGrammar.Proofs.Publish.Cleanup
  ───────────────────────────────────
  **What removing the files of a store leaves behind, wherever it stops.**

  The generated names are deleted in rising order, and the first deletion that
  fails is the last call.  Whether a deletion fails can be told beforehand
  (`Host.obstacle?`): a failure may be planned for the call of its number, and
  the directory may refuse the name; what has been deleted before makes no
  difference (`obstacle?_after`).

      deleteAll_stops          names are deleted up to the first obstacle
      removes_until_obstacle   so are the generated names, and the next time goes on from there
-/

namespace QuasiGrammar

/-! ## §1. Plans. -/

namespace Plan

variable {α : Type}

/-- What is planned for the call after so many others. -/
def nth (p : Plan α) (n : Nat) : α := p.upcoming.getD n p.later

theorem next_eq_nth (p : Plan α) : p.next.1 = p.nth 0 := by
  unfold next nth
  cases p.upcoming <;> rfl

theorem nth_next (p : Plan α) (n : Nat) : p.next.2.nth n = p.nth (n + 1) := by
  unfold next nth
  cases hup : p.upcoming with
  | nil => simp [hup]
  | cons a rest => simp

end Plan

/-! ## §2. What stands in the way of a deletion. -/

namespace Host

variable {h h' : Host} {name other : String}

/-- The failure of the deletion of a name if so many deletions come before it: the one that is
planned for it, or else the refusal of the directory. -/
def obstacle? (h : Host) (n : Nat) (name : String) : Option Failure :=
  match (h.faults .delete).nth n with
  | some fault => some (fault (h.place (.delete name)))
  | none => failureOf (h.directory.delete h.tree name).2

/-- The next deletion fails just if something stands in its way. -/
theorem failureOf_answer {r : Except Failure Unit} (ha : h.answer (.delete name) = (h', r)) :
    failureOf r = h.obstacle? 0 name := by
  unfold answer failure? at ha
  rw [show (Call.delete name).point = .delete from rfl, Plan.next_eq_nth] at ha
  unfold obstacle?
  cases hplan : (h.faults .delete).nth 0 with
  | some fault =>
    rw [hplan] at ha
    cases ha
    rfl
  | none =>
    rw [hplan] at ha
    cases ha
    rfl

@[simp]
theorem faults_perform (h : Host) (c : Call) : (h.perform c).1.faults = h.faults := by
  cases c <;> rfl

/-- A call uses up what was planned for it, and nothing else. -/
theorem faults_answer (h : Host) (c : Call) :
    (h.answer c).1.faults = (h.settled c.point).faults := by
  rcases h.answer_cases c with ⟨f, hf⟩ | hp
  · rw [hf]
  · rw [hp]
    exact faults_perform _ c

/-- A deletion that succeeds deletes. -/
theorem deletes_of_answer (hg : h.tree.IsGrounded) (hentry : GrammarDirectory.IsEntryName name)
    (ha : h.answer (.delete name) = (h', .ok ())) :
    FileTree.Deletes (h.directory.root.child name) h.tree h'.tree := by
  rcases delete_answer ha with ⟨-, f, hbad⟩ | hdel
  · cases hbad
  · obtain ⟨p, hp, hdeletes⟩ := GrammarDirectory.delete_returns hg hdel
    rw [GrammarDirectory.resolve_entry _ hentry] at hp
    cases hp
    exact hdeletes

theorem isProper_of_answer (hproper : h.tree.IsProper) {r : Except Failure Unit}
    (ha : h.answer (.delete name) = (h', r)) : h'.tree.IsProper := by
  rcases delete_answer ha with ⟨hsame, -⟩ | hdel
  · rw [hsame]
    exact hproper
  · have hdeleted := GrammarDirectory.isProper_delete hproper h.directory name
    rw [hdel] at hdeleted
    exact hdeleted

/-- **What stands in the way of a deletion is not changed by a deletion of another name.** -/
theorem obstacle?_after (hg : h.tree.IsGrounded) (hentry : GrammarDirectory.IsEntryName name)
    (hother : GrammarDirectory.IsEntryName other) (hne : other ≠ name)
    (ha : h.answer (.delete name) = (h', .ok ())) (n : Nat) :
    h'.obstacle? n other = h.obstacle? (n + 1) other := by
  have hdir : h'.directory = h.directory := directory_of_answer ha
  have hplan : (h'.faults .delete).nth n = (h.faults .delete).nth (n + 1) := by
    have hused := h.faults_answer (.delete name)
    rw [ha] at hused
    rw [← Plan.nth_next, hused]
    rfl
  have hwithout : FileTree.Without h.directory.root [name] h.tree h'.tree :=
    .single (deletes_of_answer hg hentry ha)
  have hrefusal : (h.directory.delete h'.tree other).2 = (h.directory.delete h.tree other).2 :=
    GrammarDirectory.delete_of_without hwithout hother (by simpa using hne)
  unfold obstacle? place
  rw [hplan, hdir, hrefusal]

/-- Listing stands in nobody's way. -/
theorem obstacle?_list {q : Except Failure (List String)} (ha : h.answer .list = (h', q)) (n : Nat)
    (name : String) : h'.obstacle? n name = h.obstacle? n name := by
  have hdir : h'.directory = h.directory := directory_of_answer ha
  have htree : h'.tree = h.tree := tree_of_answer rfl ha
  have hfaults : h'.faults .delete = h.faults .delete := by
    have hsame := h.faults_answer .list
    rw [ha] at hsame
    rw [hsame]
    rfl
  unfold obstacle? place
  rw [hdir, htree, hfaults]

/-- A name that is listed can be deleted, unless a failure is planned, or it is that of a directory,
or its path is too long. -/
theorem obstacle?_eq_none (hentry : GrammarDirectory.IsEntryName name)
    (hroot : h.tree.locate h.directory.root = .ok (some .directory)) {n : Nat}
    (hplan : (h.faults .delete).nth n = none) (hroom : h.directory.HasRoom name)
    (hfile : h.tree.get? (h.directory.root.child name) ≠ some .directory) :
    h.obstacle? n name = none := by
  have hl := FileTree.locate_child hroot hentry.short hroom
  unfold obstacle? GrammarDirectory.delete FileTree.remove
  rw [hplan, GrammarDirectory.resolve_entry _ hentry]
  simp only [hl]
  cases hget : h.tree.get? (h.directory.root.child name) with
  | none => rfl
  | some e =>
    cases e with
    | file text => rfl
    | directory => exact absurd hget hfile

end Host

/-! ## §3. One deletion after the other. -/

namespace Store

open Work

/-- Names have been deleted one after the other, until there were none left or something stood in
the way of the next one. -/
structure Stops (h : Host) (names : List String) (h' : Host) (r : Except Failure Unit)
    (removed left : List String) : Prop where
  parts : names = removed ++ left
  directory : h'.directory = h.directory
  proper : h'.tree.IsProper
  without : FileTree.Without h.directory.root removed h.tree h'.tree
  free : ∀ k name, removed[k]? = some name → h.obstacle? k name = none
  stop : left = [] ∧ r = .ok () ∨
    ∃ name rest f, left = name :: rest ∧ h.obstacle? removed.length name = some f ∧ r = .error f

variable {s : Store} {h h' mid : Host} {steps : List Answered} {names : List String}

theorem Stops.nil (hproper : h.tree.IsProper) : Stops h [] h (.ok ()) [] [] where
  parts := rfl
  directory := rfl
  proper := hproper
  without := .nil _ _
  free := by
    intro k name hk
    cases hk
  stop := .inl ⟨rfl, rfl⟩

/-- Nothing is deleted if something stands in the way of the first name. -/
theorem Stops.of_failed {name : String} {rest : List String} {f : Failure}
    (hproper : h.tree.IsProper) (ha : h.answer (.delete name) = (h', .error f)) :
    Stops h (name :: rest) h' (.error f) [] (name :: rest) where
  parts := rfl
  directory := Host.directory_of_answer ha
  proper := Host.isProper_of_answer hproper ha
  without := by
    rw [Host.tree_of_failed_delete ha]
    exact .nil _ _
  free := by
    intro k name hk
    cases hk
  stop := .inr ⟨name, rest, f, rfl, (Host.failureOf_answer ha).symm, rfl⟩

/-- Once a name has been deleted the others are deleted as far as they would have been. -/
theorem Stops.cons {name : String} {r : Except Failure Unit} {removed left : List String}
    (hproper : h.tree.IsProper)
    (hentry : ∀ n ∈ name :: names, GrammarDirectory.IsEntryName n) (hnew : name ∉ names)
    (ha : h.answer (.delete name) = (mid, .ok ())) (hstops : Stops mid names h' r removed left) :
    Stops h (name :: names) h' r (name :: removed) left := by
  have hdir : mid.directory = h.directory := Host.directory_of_answer ha
  have hname := hentry name List.mem_cons_self
  have hsame : ∀ n other, other ∈ names → mid.obstacle? n other = h.obstacle? (n + 1) other := by
    intro n other hother
    apply Host.obstacle?_after hproper.grounded hname _ _ ha
    · exact hentry other (List.mem_cons_of_mem _ hother)
    · intro heq
      rw [heq] at hother
      exact hnew hother
  have hremoved : ∀ other ∈ removed, other ∈ names := by
    intro other hother
    rw [hstops.parts]
    exact List.mem_append_left _ hother
  exact
    { parts := congrArg _ hstops.parts
      directory := hstops.directory.trans hdir
      proper := hstops.proper
      without := by
        have hrest := hstops.without
        rw [hdir] at hrest
        exact (FileTree.Without.single
          (Host.deletes_of_answer hproper.grounded hname ha)).append hrest
      free := by
        intro k other hk
        cases k with
        | zero =>
          cases hk
          exact (Host.failureOf_answer ha).symm
        | succ k =>
          have hk : removed[k]? = some other := hk
          rw [← hsame k other (hremoved other (List.mem_of_getElem? hk))]
          exact hstops.free k other hk
      stop := by
        rcases hstops.stop with hall | ⟨next, rest, f, hleft, hobstacle, hr⟩
        · exact .inl hall
        · refine .inr ⟨next, rest, f, hleft, ?_, hr⟩
          have hnext : next ∈ names := by
            rw [hstops.parts, hleft]
            exact List.mem_append_right _ List.mem_cons_self
          rw [← hobstacle]
          exact (hsame _ next hnext).symm }

/-- **Names are deleted up to the first obstacle**, by calls in their order. -/
theorem deleteAll_stops {r : Except Failure Unit} (hproper : h.tree.IsProper)
    (hentry : ∀ name ∈ names, GrammarDirectory.IsEntryName name) (hnodup : names.Nodup)
    (hgo : Goes (deleteAll names) h steps h' r) :
    ∃ removed left, Stops h names h' r removed left ∧
      steps.map (·.call) = (removed ++ left.take 1).map .delete := by
  induction names generalizing h steps with
  | nil =>
    obtain ⟨rfl, rfl, rfl⟩ := goes_pure.1 hgo
    exact ⟨[], [], .nil hproper, rfl⟩
  | cons name rest ih =>
    rcases goes_deleteAll_cons hgo with ⟨f, ha, rfl, rfl⟩ | ⟨mid, after, ha, hrest, rfl⟩
    · exact ⟨[], name :: rest, .of_failed hproper ha, rfl⟩
    · obtain ⟨hnew, hnodup⟩ := List.nodup_cons.1 hnodup
      obtain ⟨removed, left, hstops, hcalls⟩ := ih (Host.isProper_of_answer hproper ha)
        (fun n hn => hentry n (List.mem_cons_of_mem _ hn)) hnodup hrest
      exact ⟨name :: removed, left, .cons hproper hentry hnew ha hstops, congrArg _ hcalls⟩

/-! ## §4. The generated names. -/

theorem Stops.of_list {q : Except Failure (List String)} {r : Except Failure Unit}
    {removed left : List String} (ha : h.answer .list = (mid, q))
    (hstops : Stops mid names h' r removed left) : Stops h names h' r removed left := by
  have hdir : mid.directory = h.directory := Host.directory_of_answer ha
  have htree : mid.tree = h.tree := Host.tree_of_answer rfl ha
  have hsame : ∀ n name, mid.obstacle? n name = h.obstacle? n name := Host.obstacle?_list ha
  obtain ⟨hparts, hdirectory, hproper, hwithout, hfree, hstop⟩ := hstops
  rw [hdir, htree] at hwithout
  simp only [hsame] at hfree hstop
  exact ⟨hparts, hdirectory.trans hdir, hproper, hwithout, hfree, hstop⟩

/-- The generated names come in strictly rising order. -/
theorem generatedNames_strictSorted {t : FileTree} (h : t.IsProper) :
    (s.generatedNames t).Pairwise (· < ·) :=
  ((h.noTwins _).children_strictSorted).filter _

theorem mem_generatedNames_iff {t : FileTree} {name : String} :
    name ∈ s.generatedNames t ↔ t.get? (s.pathTo name) ≠ none ∧ s.isGenerated name = true := by
  unfold generatedNames
  rw [List.mem_filter, FileTree.mem_children_iff]
  rfl

/-- The generated names are deleted up to the first obstacle. -/
theorem removeGenerated_stops {r : Except Failure (List String)} (hdir : h.directory = s.directory)
    (hproper : h.tree.IsProper) {listed : List String} (hlist : (h.answer .list).2 = .ok listed)
    (hgo : Goes s.removeGenerated h steps h' r) :
    ∃ removed left q, Stops h (s.generatedNames h.tree) h' q removed left ∧
      r = q.map (fun _ => s.generatedNames h.tree) ∧
      steps.map (·.call) = .list :: (removed ++ left.take 1).map .delete := by
  rcases goes_removeGenerated hgo with ⟨f, ha, -, -⟩ | ⟨names, mid, after, q, ha, hdel, hr, hsteps⟩
  · -- The names have been listed.
    rw [ha] at hlist
    cases hlist
  · obtain ⟨hlisted, htree⟩ := Host.list_answer_ok ha
    rw [hdir] at hlisted
    have hgenerated := list_eq_ok (isRooted_of_list hproper.grounded hlisted) hlisted
    rw [hgenerated] at hdel hr
    have hproper' : mid.tree.IsProper := by
      rw [htree]
      exact hproper
    obtain ⟨removed, left, hstops, hcalls⟩ := deleteAll_stops hproper'
      (fun name hname => hproper.name_of_mem (List.mem_filter.1 hname).1)
      (generatedNames_strictSorted hproper).nodup hdel
    refine ⟨removed, left, q, hstops.of_list ha, hr, ?_⟩
    rw [hsteps, List.map_cons, hcalls]

/-! ## §5. Going on from there. -/

/-- The names that are left are those that are generated then. -/
theorem generatedNames_of_without {t u : FileTree} {removed left : List String} (ht : t.IsProper)
    (hu : u.IsProper) (hparts : s.generatedNames t = removed ++ left)
    (h : FileTree.Without s.directory.root removed t u) : s.generatedNames u = left := by
  have hnodup := (generatedNames_strictSorted (s := s) ht).nodup
  rw [hparts] at hnodup
  have hapart := List.disjoint_of_nodup_append hnodup
  unfold generatedNames
  rw [h.children ht hu, List.filter_comm]
  show (s.generatedNames t).filter _ = left
  rw [hparts, List.filter_append]
  have hnone : removed.filter (fun n => decide (n ∉ removed)) = [] := by
    simp
  have hall : left.filter (fun n => decide (n ∉ removed)) = left := by
    rw [List.filter_eq_self]
    intro n hn
    exact decide_eq_true fun hmem => hapart hmem hn
  rw [hnone, hall, List.nil_append]

end Store

/-- A directory that can be listed can be listed without some of its files. -/
theorem GrammarDirectory.list_of_without {d : GrammarDirectory} {t u : FileTree}
    {names listed : List String} (h : FileTree.Without d.root names t u)
    (hlist : d.list t = .ok listed) : ∃ others, d.list u = .ok others := by
  have hlook : u.look d.root = t.look d.root := by
    unfold FileTree.look
    rw [h.locate]
  unfold GrammarDirectory.list at hlist ⊢
  rw [hlook]
  split at hlist
  · exact ⟨_, rfl⟩
  · cases hlist
  · split at hlist
    · next habsent => exact ⟨[], if_pos habsent⟩
    · cases hlist

namespace Store

open Work

variable {s : Store} {h g : Host}

/-- Nothing stands in the way of names that are listed, short enough with their directory, and no
directories themselves, if no failure is planned for their deletions. -/
theorem free_of_generated (hproper : g.tree.IsProper) (hdir : g.directory = s.directory)
    {listed : List String} (hlisted : s.directory.list g.tree = .ok listed)
    (hplan : ∀ k < (s.generatedNames g.tree).length, (g.faults .delete).nth k = none)
    (hfiles : ∀ name ∈ s.generatedNames g.tree,
      g.tree.get? (s.pathTo name) ≠ some .directory ∧ s.directory.HasRoom name) :
    ∀ k name, (s.generatedNames g.tree)[k]? = some name → g.obstacle? k name = none := by
  intro k name hk
  have hmem : name ∈ s.generatedNames g.tree := List.mem_of_getElem? hk
  obtain ⟨hfile, hroom⟩ := hfiles name hmem
  have hroot : g.tree.locate s.directory.root = .ok (some .directory) := by
    rcases GrammarDirectory.list_eq_ok_cases hproper.grounded hlisted with hthere | hempty
    · exact hthere
    · exact absurd (hempty name) (mem_generatedNames_iff.1 hmem).1
  rw [← hdir] at hroot hroom
  apply Host.obstacle?_eq_none _ hroot _ hroom
  · rw [hdir]
    exact hfile
  · exact hproper.name_of_mem (List.mem_filter.1 hmem).1
  · exact hplan k (List.getElem?_eq_some_iff.1 hk).1

/-- A listing that is not planned to fail is that of the directory. -/
theorem answer_list_of_unplanned (hunplanned : g.failure? .list g.directory.root = none) :
    (g.answer .list).2 = g.directory.list g.tree := by
  unfold Host.answer
  rw [show g.failure? (Call.list).point (g.place .list) = none from hunplanned]
  rfl

/-- If nothing stands in the way of them all generated names are removed. -/
theorem removes_all {steps : List Answered} {g' : Host} {r : Except Failure (List String)}
    (hproper : g.tree.IsProper) (hdir : g.directory = s.directory)
    {listed : List String} (hlist : (g.answer .list).2 = .ok listed)
    (hfree : ∀ k name, (s.generatedNames g.tree)[k]? = some name → g.obstacle? k name = none)
    (hgo : Goes s.removeGenerated g steps g' r) :
    r = .ok (s.generatedNames g.tree) ∧
      FileTree.Without s.directory.root (s.generatedNames g.tree) g.tree g'.tree := by
  obtain ⟨removed, left, q, hstops, hr, -⟩ := removeGenerated_stops hdir hproper hlist hgo
  have hparts := hstops.parts
  have hwithout := hstops.without
  rw [hdir] at hwithout
  rcases hstops.stop with ⟨hleft, hq⟩ | ⟨name, rest, f, hleft, hobstacle, -⟩
  · rw [hleft, List.append_nil] at hparts
    rw [hr, hq, hparts]
    exact ⟨rfl, hwithout⟩
  · -- The obstacle would have been that of the name at this place.
    have hplace : (s.generatedNames g.tree)[removed.length]? = some name := by
      rw [hparts, hleft]
      simp
    rw [hfree _ name hplace] at hobstacle
    cases hobstacle

/-- What some names have been removed from is rid of the others the next time, if nothing stands in
their way then. -/
theorem removes_left {t : FileTree} {removed left listed : List String} (ht : t.IsProper)
    (hg : g.tree.IsProper) (hdir : g.directory = s.directory)
    (hlisted : s.directory.list t = .ok listed) (hparts : s.generatedNames t = removed ++ left)
    (hwithout : FileTree.Without s.directory.root removed t g.tree)
    (hunplanned : g.failure? .list g.directory.root = none)
    (hplan : ∀ k < left.length, (g.faults .delete).nth k = none)
    (hfiles : ∀ name ∈ left,
      g.tree.get? (s.pathTo name) ≠ some .directory ∧ s.directory.HasRoom name) :
    (s.removeGenerated.run.course g).result = .ok left ∧
      FileTree.Without s.directory.root (s.generatedNames t) t
        (s.removeGenerated.run.course g).host.tree := by
  have hleft : s.generatedNames g.tree = left := generatedNames_of_without ht hg hparts hwithout
  -- The directory could be listed before, and it can be listed now.
  obtain ⟨others, hothers⟩ := GrammarDirectory.list_of_without hwithout hlisted
  have hlist : (g.answer .list).2 = .ok others := by
    rw [answer_list_of_unplanned hunplanned, hdir]
    exact hothers
  rw [← hleft] at hplan hfiles
  have hfree := free_of_generated hg hdir hothers hplan hfiles
  obtain ⟨hresult, hrest⟩ := removes_all hg hdir hlist hfree (goes_course _ g)
  rw [hleft] at hresult hrest
  rw [hparts]
  exact ⟨hresult, hwithout.append hrest⟩

/-- **Removing the files of a store removes the generated names in rising order, up to the first
obstacle.**  Whatever lies in the directory, and whichever deletions are planned to fail:

1. the generated names are those names in the directory that the store knows for its own, in
   strictly rising order;
2. those before some place have been removed, and all else is as it was, the others among them;
3. the calls are the listing and the deletions up to that place;
4. nothing stood in the way of the names that were removed; either there are no others, and the
   result is all generated names, or something stands in the way of the first of the others, and the
   result is that failure;
5. if the files are removed again, and no failure is planned for the listing and the deletions, and
   the names that were left are not those of directories, and short enough with the path of the
   directory for the system to delete them, then these names are the result, and all generated names
   have been removed. -/
theorem removes_until_obstacle (s : Store) {h : Host} (hdir : h.directory = s.directory)
    (hproper : h.tree.IsProper) {listed : List String} (hlist : (h.answer .list).2 = .ok listed) :
    let c := s.removeGenerated.run.course h
    let generated := s.generatedNames h.tree
    (generated.Pairwise (· < ·) ∧ ∀ name, name ∈ generated ↔
        h.tree.get? (s.pathTo name) ≠ none ∧ s.isGenerated name = true) ∧
      ∃ removed left, generated = removed ++ left ∧
        FileTree.Without s.directory.root removed h.tree c.host.tree ∧
        (∀ name ∈ left, c.host.tree.get? (s.pathTo name) = h.tree.get? (s.pathTo name)) ∧
        c.steps.map (·.call) = .list :: (removed ++ left.take 1).map .delete ∧
        (∀ k name, removed[k]? = some name → h.obstacle? k name = none) ∧
        (left = [] ∧ c.result = .ok generated ∨
          ∃ name rest f, left = name :: rest ∧ h.obstacle? removed.length name = some f ∧
            c.result = .error f) ∧
        ∀ g : Host, g.tree = c.host.tree → g.directory = s.directory →
          g.failure? .list g.directory.root = none →
          (∀ k < left.length, (g.faults .delete).nth k = none) →
          (∀ name ∈ left, g.tree.get? (s.pathTo name) ≠ some .directory ∧
            s.directory.HasRoom name) →
          (s.removeGenerated.run.course g).result = .ok left ∧
            FileTree.Without s.directory.root generated h.tree
              (s.removeGenerated.run.course g).host.tree := by
  intro c generated
  have hgo : Goes s.removeGenerated h c.steps c.host c.result := goes_course _ h
  refine ⟨⟨generatedNames_strictSorted hproper, fun name => mem_generatedNames_iff⟩, ?_⟩
  obtain ⟨removed, left, q, hstops, hr, hcalls⟩ := removeGenerated_stops hdir hproper hlist hgo
  have hwithout := hstops.without
  rw [hdir] at hwithout
  have hapart : List.Disjoint removed left := by
    have hnodup := (generatedNames_strictSorted (s := s) hproper).nodup
    rw [hstops.parts] at hnodup
    exact List.disjoint_of_nodup_append hnodup
  refine ⟨removed, left, hstops.parts, hwithout, ?_, hcalls, hstops.free, ?_, ?_⟩
  · intro name hname
    exact hwithout.get?_child fun hmem => hapart hmem hname
  · rcases hstops.stop with ⟨hleft, hq⟩ | ⟨name, rest, f, hleft, hobstacle, hq⟩
    · refine .inl ⟨hleft, ?_⟩
      rw [hr, hq]
      rfl
    · refine .inr ⟨name, rest, f, hleft, hobstacle, ?_⟩
      rw [hr, hq]
      rfl
  · intro g htree hgdir hunplanned hplan hfiles
    have hlisted := (Host.list_answer_ok (Prod.ext rfl hlist)).1
    rw [hdir] at hlisted
    have hgproper : g.tree.IsProper := by
      rw [htree]
      exact hstops.proper
    rw [← htree] at hwithout
    exact removes_left hproper hgproper hgdir hlisted hstops.parts hwithout hunplanned hplan hfiles

/-- The name of a file that the sample store has published some time ago. -/
def staleName (digit : Char) : String :=
  sampleStore.filenameFor (String.ofList (List.replicate digestLength digit))

/-- The directory of the sample store with two such files. -/
def staleTree : FileTree :=
  ⟨[(⟨["grammars"]⟩, .directory), (sampleStore.pathTo (staleName 'a'), .file "1"),
    (sampleStore.pathTo (staleName 'b'), .file "2")]⟩

/-- The deletion of a file that is in use fails. -/
def inUse : Failure := .host ⟨true, "OSError", "busy"⟩

/-- A host on which the second deletion fails. -/
def staleHost : Host :=
  (Host.calm staleTree sampleStore.directory).plan .delete (.after 1 (some 1) fun _ => inUse)

theorem isEntryName_stale {digit : Char} (h : digit = 'a' ∨ digit = 'b') :
    GrammarDirectory.IsEntryName (staleName digit) := by
  rcases h with ha | hb
  · subst ha
    exact ⟨⟨by decide +kernel, by decide +kernel, by decide +kernel, by decide +kernel,
      by decide +kernel⟩, by decide +kernel⟩
  · subst hb
    exact ⟨⟨by decide +kernel, by decide +kernel, by decide +kernel, by decide +kernel,
      by decide +kernel⟩, by decide +kernel⟩

theorem isProper_staleTree : staleTree.IsProper where
  grounded := by
    unfold FileTree.IsGrounded
    decide +kernel
  single := by decide +kernel
  names := by
    intro e he name hname
    have hmem : e.1.name? = some "grammars" ∨ e.1.name? = some (staleName 'a') ∨
        e.1.name? = some (staleName 'b') := by
      simp only [staleTree, List.mem_cons, List.not_mem_nil, or_false] at he
      rcases he with h | h | h
      · exact .inl (by rw [h]; rfl)
      · exact .inr (.inl (by rw [h]; rfl))
      · exact .inr (.inr (by rw [h]; rfl))
    rw [hname] at hmem
    rcases hmem with h | h | h
    · cases h
      exact ⟨⟨by decide, by decide, by decide, by decide, by decide⟩, by decide⟩
    · cases h
      exact isEntryName_stale (.inl rfl)
    · cases h
      exact isEntryName_stale (.inr rfl)

/-- What lies in the directory. -/
theorem get?_staleTree {name : String} (h : staleTree.get? (sampleStore.pathTo name) ≠ none) :
    name = staleName 'a' ∨ name = staleName 'b' := by
  obtain ⟨e, he⟩ := Option.ne_none_iff_exists'.1 h
  have hmem := FileTree.mem_entries_of_get? (Path.child_ne_root _ name) he
  simp only [staleTree, List.mem_cons, Prod.mk.injEq, List.not_mem_nil, or_false] at hmem
  rcases hmem with ⟨hp, -⟩ | ⟨hp, -⟩ | ⟨hp, -⟩
  · cases congrArg (·.names.length) hp
  · exact .inl (Path.child_inj.1 hp)
  · exact .inr (Path.child_inj.1 hp)

/-- The first file is removed; the second one is there still, until it is removed the next time. -/
theorem removes_second_next_time :
    let c := sampleStore.removeGenerated.run.course staleHost
    let again := sampleStore.removeGenerated.run.course (.calm c.host.tree sampleStore.directory)
    c.result = .error inUse ∧
      c.host.tree.get? (sampleStore.pathTo (staleName 'a')) = none ∧
      c.host.tree.get? (sampleStore.pathTo (staleName 'b')) = some (.file "2") ∧
      again.result = .ok [staleName 'b'] ∧
      again.host.tree.get? (sampleStore.pathTo (staleName 'b')) = none := by
  intro c again
  obtain ⟨⟨hsorted, hmem⟩, removed, left, hparts, hwithout, hthere, -, hfree, hstop, hagain⟩ :=
    removes_until_obstacle sampleStore (h := staleHost) rfl isProper_staleTree rfl
  have hgenerated : sampleStore.generatedNames staleTree = [staleName 'a', staleName 'b'] := by
    refine hsorted.eq_of_mem_iff (by decide +kernel) fun name => ?_
    rw [hmem, List.mem_cons, List.mem_singleton]
    constructor
    · intro h
      exact get?_staleTree h.1
    · intro h
      rcases h with ha | hb
      · subst ha
        decide +kernel
      · subst hb
        decide +kernel
  -- Nothing stands in the way of the first name, and a failure is planned for the second one.
  have hfirst : staleHost.obstacle? 0 (staleName 'a') = none := by decide +kernel
  have hsecond : ∀ name, staleHost.obstacle? 1 name = some inUse := fun name => rfl
  have hsplit : removed = [staleName 'a'] ∧ left = [staleName 'b'] := by
    rw [show sampleStore.generatedNames staleHost.tree = _ from hgenerated] at hparts
    rcases removed with _ | ⟨first, _ | ⟨second, rest⟩⟩
    · rcases hstop with ⟨hnone, -⟩ | ⟨name, rest, f, hleft, hobstacle, -⟩
      · rw [hnone] at hparts
        cases hparts
      · rw [hleft] at hparts
        cases hparts
        rw [List.length_nil, hfirst] at hobstacle
        cases hobstacle
    · cases hparts
      exact ⟨rfl, rfl⟩
    · have hnothing := hfree 1 second rfl
      rw [hsecond] at hnothing
      cases hnothing
  obtain ⟨rfl, rfl⟩ := hsplit
  have hresult : c.result = .error inUse := by
    rcases hstop with ⟨hnone, -⟩ | ⟨name, rest, f, -, hobstacle, hf⟩
    · cases hnone
    · rw [List.length_singleton, hsecond] at hobstacle
      cases hobstacle
      exact hf
  have hfile : c.host.tree.get? (sampleStore.pathTo (staleName 'b')) = some (.file "2") := by
    rw [hthere _ List.mem_cons_self]
    decide +kernel
  obtain ⟨hrerun, hall⟩ := hagain (.calm c.host.tree sampleStore.directory) rfl rfl rfl
    (fun k _ => rfl) (by
      intro name hname
      rw [List.mem_singleton] at hname
      subst hname
      refine ⟨?_, by decide +kernel⟩
      show c.host.tree.get? _ ≠ _
      rw [hfile]
      simp)
  refine ⟨hresult, hwithout.gone _ List.mem_cons_self, hfile, hrerun, hall.gone _ ?_⟩
  show staleName 'b' ∈ sampleStore.generatedNames staleTree
  rw [hgenerated]
  simp

end Store

end QuasiGrammar
