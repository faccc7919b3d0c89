import QuasiGrammar.Source.Juncture

/-
  QuasiGrammar.Proofs.Source.Runs
  ───────────────────────────────
  What is asked of a source is done in one way only, and to its end.

      Course.cut        a course through some happenings stops between any two of them
      Runs.unique       all that is done, and what the source is like afterwards, is settled
      Runs.extends      whatever has been done so far is a beginning of it: there is no way
                        to go on for ever
      done_of_agenda    all that was to be done is done
-/

namespace QuasiGrammar.Juncture

variable {σ : Type} {l : Listener σ} {m m' m'' : Juncture σ} {past more : List Happening}

/-! ## §1. Cutting courses. -/

/-- A course leads through a juncture between any two happenings. -/
theorem Course.cut (h : Course l m (past ++ more) m'') :
    ∃ m', Course l m past m' ∧ Course l m' more m'' := by
  generalize hall : past ++ more = all at h
  -- The last happening belongs to the second part, unless that is empty.
  induction h generalizing more with
  | here =>
    obtain ⟨hpast, hmore⟩ := List.append_eq_nil_iff.1 hall
    subst hpast hmore
    exact ⟨m, .here m, .here m⟩
  | @next m' m'' before what hbefore hstep ih =>
    rcases List.eq_nil_or_concat more with hmore | ⟨more', last, hmore⟩
    · subst hmore
      rw [List.append_nil] at hall
      subst hall
      exact ⟨m'', hbefore.next hstep, .here m''⟩
    · subst hmore
      rw [List.concat_eq_append, ← List.append_assoc] at hall
      obtain ⟨hinit, hlast⟩ := List.append_inj' hall rfl
      cases hlast
      obtain ⟨middle, hfirst, hsecond⟩ := ih hinit
      exact ⟨middle, hfirst, by rw [List.concat_eq_append]; exact hsecond.next hstep⟩

/-- A course without happenings leads nowhere. -/
theorem Course.eq_of_nil (h : Course l m [] m') : m = m' := by
  generalize hnone : ([] : List Happening) = none at h
  cases h with
  | here => rfl
  | next hbefore hstep => exact absurd hnone.symm (by simp)

/-- A deed comes first on the agenda when it is done. -/
theorem Course.of_done {d : Deed} (h : Course l m (.done d :: more) m'') :
    ∃ rest x, m = ⟨d :: rest, x⟩ ∧
      Course l ⟨(x.perform l d).1 ++ rest, (x.perform l d).2⟩ more m'' := by
  have hcut : Course l m ([.done d] ++ more) m'' := h
  obtain ⟨m', hfirst, hmore⟩ := hcut.cut
  generalize hone : [Happening.done d] = one at hfirst
  cases hfirst with
  | here => cases hone
  | next hbefore hstep =>
    have hparts : [] ++ [Happening.done d] = _ := hone
    obtain ⟨hnone, hlast⟩ := List.append_inj' hparts rfl
    subst hnone
    have hsame := hbefore.eq_of_nil
    subst hsame
    cases hlast
    cases hstep with
    | deed d rest x => exact ⟨rest, x, rfl, hmore⟩

/-! ## §2. There is only one way. -/

/-- Of two courses of deeds the shorter one is the beginning of the longer one, if this one goes on
until nothing is left to do. -/
theorem Course.isPrefix {y : Scene σ} (h : Course l m past m') (hdeeds : OnlyDeeds past)
    (hfull : Course l m more ⟨[], y⟩) (hfulldeeds : OnlyDeeds more) : past <+: more := by
  induction past generalizing m more with
  | nil => exact List.nil_prefix
  | cons what past ih =>
    obtain ⟨⟨d, hwhat⟩, hlater⟩ := onlyDeeds_cons.1 hdeeds
    subst hwhat
    obtain ⟨rest, x, hm, hpast⟩ := h.of_done
    subst hm
    cases more with
    | nil => cases hfull.eq_of_nil
    | cons first more =>
      -- What is first on the agenda is what both begin with.
      obtain ⟨⟨d', hfirst⟩, hfulllater⟩ := onlyDeeds_cons.1 hfulldeeds
      subst hfirst
      obtain ⟨rest', x', hsame, hmore⟩ := hfull.of_done
      cases hsame
      have hmorepast : past <+: more := ih hpast hlater hmore hfulllater
      exact List.cons_prefix_cons.2 ⟨rfl, hmorepast⟩

/-- The same deeds lead to the same juncture. -/
theorem Course.eq_of_deeds (hdeeds : OnlyDeeds past) (h : Course l m past m')
    (h' : Course l m past m'') : m' = m'' := by
  induction past generalizing m with
  | nil => exact h.eq_of_nil.symm.trans h'.eq_of_nil
  | cons what past ih =>
    obtain ⟨⟨d, hwhat⟩, hlater⟩ := onlyDeeds_cons.1 hdeeds
    subst hwhat
    obtain ⟨rest, x, hm, hpast⟩ := h.of_done
    subst hm
    obtain ⟨rest', x', hsame, hpast'⟩ := h'.of_done
    cases hsame
    exact ih hlater hpast hpast'

section

variable {d : Deed} {x y y' : Scene σ}

/-- **What has been done so far is a beginning of all that will be done.** -/
theorem Runs.extends (h : Runs l d x past y) (hmore : Course l ⟨[d], x⟩ more m)
    (hdeeds : OnlyDeeds more) : more <+: past :=
  hmore.isPrefix hdeeds h.course h.deeds

theorem Runs.unique (h : Runs l d x past y) (h' : Runs l d x more y') : past = more ∧ y = y' := by
  have hle : past <+: more := h'.extends h.course h.deeds
  have hge : more <+: past := h.extends h'.course h'.deeds
  have hsame : past = more := hle.eq_of_length_le hge.length_le
  subst hsame
  have hy := Course.eq_of_deeds h.deeds h.course h'.course
  cases hy
  exact ⟨rfl, rfl⟩

/-- The source is in the end what has come of it. -/
theorem Runs.eq_act (h : Runs l d x past y) : y = Scene.act l d x := by
  obtain ⟨more, hmore⟩ := exists_runs l d x
  exact (h.unique hmore).2

end

/-! ## §3. What becomes of an agenda. -/

/-- What is to be done at some juncture has been done, or is still to be done, at every later
one. -/
theorem done_of_agenda {d : Deed} (hdeeds : OnlyDeeds past) (h : Course l m past m')
    (hd : d ∈ m.agenda) : .done d ∈ past ∨ d ∈ m'.agenda := by
  induction past generalizing m with
  | nil =>
    rw [← h.eq_of_nil]
    exact .inr hd
  | cons what past ih =>
    obtain ⟨⟨first, hwhat⟩, hmoredeeds⟩ := onlyDeeds_cons.1 hdeeds
    subst hwhat
    obtain ⟨rest, x, hm, hpast⟩ := h.of_done
    subst hm
    rcases List.mem_cons.1 hd with hfirst | hrest
    · subst hfirst
      exact .inl List.mem_cons_self
    · have hlater := ih hmoredeeds hpast (List.mem_append_right _ hrest)
      rcases hlater with hdone | hleft
      · exact .inl (List.mem_cons_of_mem _ hdone)
      · exact .inr hleft

end QuasiGrammar.Juncture
