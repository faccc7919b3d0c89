import QuasiGrammar.Proofs.Source.Runs

/-
  QuasiGrammar.Proofs.Source.Latest
  ─────────────────────────────────
  **What observers know when all is done.**

  When rules are set, the callbacks that are called may set rules again, and
  those that are called then may do so too; announcements that began before go
  on afterwards with the callbacks that they had listed.  Still all comes to an
  end, and the rules that were set last are what every callback has read at its
  last call that was listed when they were set (`last_rules_reach_all`):

      rules_course     only setting changes the rules, so whoever is called later reads them
      callsOf_course   what a callback has read is noted at its calls only
      exists_last      there is a last time
-/

namespace QuasiGrammar

/-- A deed that sets rules. -/
def Deed.IsSet (d : Deed) : Prop := ∃ rules, d = .set rules

namespace Scene

variable {σ : Type} {x : Scene σ}

/-! ## §1. What deeds leave alone. -/

theorem rules_perform (l : Listener σ) {d : Deed} (hd : ¬ d.IsSet) :
    (perform l d x).2.rules = x.rules := by
  cases d with
  | set rules => exact absurd ⟨rules, rfl⟩ hd
  | invoke c =>
    cases c with
    | service => rfl
    | host name =>
      simp only [perform]
      cases takeScript name x.scripts <;> rfl
  | start =>
    simp only [perform]
    cases x.subscription <;> rfl
  | stop =>
    simp only [perform]
    cases x.subscription <;> rfl
  | _ => rfl

/-- The calls of a callback, with what was read in them. -/
def callsOf (name : String) (x : Scene σ) : List (String × List String) :=
  x.calls.filter fun call => call.1 = name

theorem callsOf_perform (l : Listener σ) {d : Deed} {name : String}
    (hd : d ≠ .invoke (.host name)) : (perform l d x).2.callsOf name = x.callsOf name := by
  cases d with
  | invoke c =>
    cases c with
    | service => rfl
    | host other =>
      have hother : other ≠ name := fun hsame => hd (by rw [hsame])
      have hnew : (x.calls ++ [(other, x.rules)]).filter (fun call => call.1 = name) =
          x.calls.filter fun call => call.1 = name := by
        simp [List.filter_append, hother]
      simp only [perform]
      cases takeScript other x.scripts <;> exact hnew
  | start =>
    simp only [perform]
    cases x.subscription <;> rfl
  | stop =>
    simp only [perform]
    cases x.subscription <;> rfl
  | _ => rfl

/-- A callback reads the rules as they are when it is called. -/
theorem callsOf_perform_self (l : Listener σ) (x : Scene σ) (name : String) :
    (perform l (.invoke (.host name)) x).2.callsOf name =
      x.callsOf name ++ [(name, x.rules)] := by
  have hnew : (x.calls ++ [(name, x.rules)]).filter (fun call => call.1 = name) =
      x.calls.filter (fun call => call.1 = name) ++ [(name, x.rules)] := by
    simp [List.filter_append]
  simp only [perform]
  cases takeScript name x.scripts <;> exact hnew

end Scene

namespace Juncture

open Scene

variable {σ : Type} {l : Listener σ} {m m' : Juncture σ} {past : List Happening}

/-- Only setting changes the rules. -/
theorem rules_course (h : Course l m past m') (hnone : ∀ d, .done d ∈ past → ¬ d.IsSet) :
    m'.scene.rules = m.scene.rules := by
  induction h with
  | here => rfl
  | next hbefore hstep ih =>
    have hearlier := ih fun d hd => hnone d (List.mem_append_left _ hd)
    rw [← hearlier]
    cases hstep with
    | deed d rest x => exact rules_perform l (hnone d (by simp))
    | ask d x hask => rfl
    | fail x hrest => rfl

/-- What a callback has read is noted at its calls. -/
theorem callsOf_course {name : String} (h : Course l m past m')
    (hnone : .done (.invoke (.host name)) ∉ past) :
    m'.scene.callsOf name = m.scene.callsOf name := by
  induction h with
  | here => rfl
  | next hbefore hstep ih =>
    rw [List.mem_append, not_or] at hnone
    rw [← ih hnone.1]
    cases hstep with
    | deed d rest x =>
      refine callsOf_perform l fun hd => hnone.2 ?_
      rw [hd]
      exact List.mem_singleton_self _
    | ask d x hask => rfl
    | fail x hrest => rfl

/-! ## §2. The last time. -/

/-- What was done at all was done for a last time. -/
theorem exists_last {p : Deed → Prop} (h : ∃ d, .done d ∈ past ∧ p d) :
    ∃ before d after, past = before ++ .done d :: after ∧ p d ∧
      ∀ e, .done e ∈ after → ¬ p e := by
  induction past with
  | nil =>
    obtain ⟨d, hd, -⟩ := h
    cases hd
  | cons what past ih =>
    by_cases hlater : ∃ d, .done d ∈ past ∧ p d
    · obtain ⟨before, d, after, hpast, hd, hlast⟩ := ih hlater
      exact ⟨what :: before, d, after, by rw [hpast, List.cons_append], hd, hlast⟩
    · obtain ⟨d, hd, hp⟩ := h
      rcases List.mem_cons.1 hd with hfirst | hmore
      · exact ⟨[], d, past, by rw [hfirst, List.nil_append], hp,
          fun e he hpe => hlater ⟨e, he, hpe⟩⟩
      · exact absurd ⟨d, hmore, hp⟩ hlater

/-- A deed of some kind is done for the last time: what was done before, and the scene that it
finds. -/
structure LastDone (l : Listener σ) (m : Juncture σ) (past : List Happening) (p : Deed → Prop)
    (before : List Happening) (d : Deed) (x : Scene σ) : Prop where
  kind : p d
  reached : ∃ rest, Course l m before ⟨d :: rest, x⟩
  last : ∃ after, past = before ++ .done d :: after ∧ ∀ e, .done e ∈ after → ¬ p e

/-- The rules that were set last have been read by a callback at its last call. -/
def HasRead (l : Listener σ) (m : Juncture σ) (past sofar : List Happening) (rules : List String)
    (c : Callback) : Prop :=
  ∃ before x, LastDone l m past (· = .invoke c) before (.invoke c) x ∧ sofar <+: before ∧
    x.rules = rules

/-- Whoever is listed when rules are set for the last time reads them at the last call. -/
theorem hasRead_of_listed {y : Scene σ} {c : Callback} {before after : List Happening}
    {rest : List Deed} {rules : List String} {z : Scene σ} (hdeeds : OnlyDeeds after)
    (hbefore : Course l m before ⟨.set rules :: rest, z⟩)
    (hafter : Course l ⟨(z.perform l (.set rules)).1 ++ rest, (z.perform l (.set rules)).2⟩ after
      ⟨[], y⟩)
    (hnone : ∀ d, .done d ∈ after → ¬ d.IsSet) (hc : c ∈ z.observers.listed) :
    HasRead l m (before ++ .done (.set rules) :: after) (before ++ [.done (.set rules)]) rules c ∧
      ∀ name, c = .host name → (y.callsOf name).getLast? = some (name, rules) := by
  -- The call is on the agenda now, and nothing is left of the agenda in the end.
  have hcalled : .done (.invoke c) ∈ after := by
    have hagenda : .invoke c ∈ (z.perform l (.set rules)).1 ++ rest :=
      List.mem_append_left _ (List.mem_map_of_mem hc)
    rcases done_of_agenda hdeeds hafter hagenda with hdone | hleft
    · exact hdone
    · exact absurd hleft List.not_mem_nil
  obtain ⟨first, d, later, hsplit, hd, hlast⟩ :=
    exists_last (p := (· = .invoke c)) ⟨_, hcalled, rfl⟩
  subst hd hsplit
  obtain ⟨m', hfirst, hmore⟩ := hafter.cut
  obtain ⟨waiting, w, hm', hlater⟩ := hmore.of_done
  subst hm'
  have hrules : w.rules = rules :=
    rules_course hfirst fun e he => hnone e (List.mem_append_left _ he)
  refine ⟨⟨before ++ [.done (.set rules)] ++ first, w, ⟨rfl, ⟨waiting, ?_⟩, ⟨later, ?_, hlast⟩⟩,
    List.prefix_append _ _, hrules⟩, ?_⟩
  · exact (hbefore.next (.deed (.set rules) rest z)).trans hfirst
  · simp
  · intro name hname
    subst hname
    have hquiet := callsOf_course hlater fun hmem => hlast _ hmem rfl
    rw [show y.callsOf name = _ from hquiet, callsOf_perform_self, List.getLast?_concat, hrules]

/-! ## §3. Setting rules. -/

/-- **The rules that are set last reach everybody.**  Rules are set; the callbacks do what they
like with the source when they are called, to any depth.

1. That comes to an end, and there is no way to go on for ever: whatever has been done so far is a
   beginning of all that is done.
2. Some rules are set last, and these are the rules in the end.
3. Every callback that is listed when they are set is called after that, reads them at its last call,
   and they are the last thing that is noted of it. -/
theorem last_rules_reach_all (l : Listener σ) (rules : List String) (x : Scene σ) :
    ∃ past y, Runs l (.set rules) x past y ∧
      (∀ more m, Course l ⟨[.set rules], x⟩ more m → OnlyDeeds more → more <+: past) ∧
      ∃ before last z,
        LastDone l ⟨[.set rules], x⟩ past Deed.IsSet before (.set last) z ∧ y.rules = last ∧
        ∀ c ∈ z.observers.listed,
          HasRead l ⟨[.set rules], x⟩ past (before ++ [.done (.set last)]) last c ∧
            ∀ name, c = .host name → (y.callsOf name).getLast? = some (name, last) := by
  obtain ⟨past, hruns⟩ := exists_runs l (.set rules) x
  -- The first deed sets rules, so there is a last one that does.
  have hset : .done (.set rules) ∈ past := by
    rcases done_of_agenda hruns.deeds hruns.course List.mem_cons_self with hdone | hleft
    · exact hdone
    · exact absurd hleft List.not_mem_nil
  obtain ⟨before, d, after, hsplit, hkind, hnone⟩ :=
    exists_last (p := Deed.IsSet) ⟨_, hset, rules, rfl⟩
  obtain ⟨last, hd⟩ := hkind
  subst hd
  have hcourse := hruns.course
  rw [hsplit] at hcourse
  obtain ⟨m, hbefore, hmore⟩ := hcourse.cut
  obtain ⟨rest, z, hm, hafter⟩ := hmore.of_done
  subst hm
  have hdeeds : OnlyDeeds after := by
    have hall := hruns.deeds
    rw [hsplit] at hall
    exact (onlyDeeds_cons.1 (onlyDeeds_append.1 hall).2).2
  refine ⟨past, _, hruns, fun more m hmore hdeeds => hruns.extends hmore hdeeds, before, last, z,
    ⟨⟨last, rfl⟩, ⟨rest, hbefore⟩, ⟨after, hsplit, hnone⟩⟩, rules_course hafter hnone, ?_⟩
  intro c hc
  rw [hsplit]
  exact hasRead_of_listed hdeeds hbefore hafter hnone hc

end Juncture

end QuasiGrammar
