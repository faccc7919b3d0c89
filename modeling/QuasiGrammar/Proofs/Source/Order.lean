import Mathlib.Data.List.Induction
import QuasiGrammar.Proofs.Source.Runs
import QuasiGrammar.Proofs.Source.Silence
import QuasiGrammar.Source.Request

/-
  QuasiGrammar.Proofs.Source.Order
  ────────────────────────────────
  **Who is called by an announcement, and in which order.**

  A callback that has been registered several times stands several times in the
  list, and disposing of any of its handles takes its first entry off.  So the
  entries that are left are those of its youngest handles, whichever handles
  are alive:

      listed_eq_remaining     of each callback the last registrations are listed, as many
                              as it has live handles
      perm_live               these are the callbacks of the live handles in some order
      inOrder_dispose_iff     the order of the live handles outlasts a disposal just if no
                              live handle of another callback lies between the oldest one
                              of the same callback and the one that is disposed of

  Over any requests from outside: `announces_in_order_iff`.
-/

namespace QuasiGrammar

/-! ## §1. The last entries of a list. -/

namespace Observers

variable {κ : Type} [DecidableEq κ]

/-- The last entries of each callback, as many as there is room for. -/
def lastOf (room : κ → Nat) : List κ → List κ
  | [] => []
  | k :: rest => if rest.count k < room k then k :: lastOf room rest else lastOf room rest

/-- Room for more than all entries is not used. -/
theorem lastOf_congr {room room' : κ → Nat} {ks : List κ}
    (h : ∀ k, min (room k) (ks.count k) = min (room' k) (ks.count k)) :
    lastOf room ks = lastOf room' ks := by
  induction ks with
  | nil => rfl
  | cons k rest ih =>
    have hrest : lastOf room rest = lastOf room' rest := by
      refine ih fun j => ?_
      have hj := h j
      rw [List.count_cons] at hj
      split at hj <;> omega
    have hk := h k
    rw [List.count_cons_self] at hk
    have hsame : rest.count k < room k ↔ rest.count k < room' k := by omega
    simp only [lastOf, hsame, hrest]

/-- One entry more, and room for one more of its kind. -/
theorem lastOf_concat (room : κ → Nat) (ks : List κ) (k : κ) :
    lastOf (fun j => room j + if k = j then 1 else 0) (ks ++ [k]) = lastOf room ks ++ [k] := by
  induction ks with
  | nil =>
    show (if 0 < room k + _ then [k] else []) = [k]
    simp
  | cons j rest ih =>
    have hcount : (rest ++ [k]).count j = rest.count j + if k = j then 1 else 0 := by
      simp [List.count_append, List.count_singleton]
    simp only [List.cons_append, lastOf, ih, hcount]
    -- The entry that comes last counts on both sides.
    by_cases hkeep : rest.count j < room j
    · rw [if_pos hkeep, if_pos (by omega)]
      rfl
    · rw [if_neg hkeep, if_neg (by omega)]

/-- Room for one entry less: the first one that was kept goes. -/
theorem lastOf_erase {room : κ → Nat} {ks : List κ} {k : κ} (hpos : 0 < room k)
    (hroom : room k ≤ ks.count k) :
    lastOf (fun j => room j - if k = j then 1 else 0) ks = (lastOf room ks).erase k := by
  induction ks with
  | nil =>
    rw [List.count_nil] at hroom
    omega
  | cons j rest ih =>
    by_cases hj : k = j
    · subst hj
      rw [List.count_cons_self] at hroom
      simp only [lastOf, if_true]
      by_cases hkeep : rest.count k < room k
      · -- It is the first of its kind that is kept, and the others fill the room that is left.
        rw [if_pos hkeep, if_neg (by omega), List.erase_cons_head]
        refine lastOf_congr fun i => ?_
        by_cases hi : k = i
        · subst hi
          simp only [if_true]
          omega
        · simp only [if_neg hi, Nat.sub_zero]
      · rw [if_neg hkeep, if_neg (by omega)]
        exact ih (by omega)
    · rw [List.count_cons_of_ne (Ne.symm hj)] at hroom
      simp only [lastOf, if_neg hj, Nat.sub_zero, ih hroom]
      by_cases hkeep : rest.count j < room j
      · rw [if_pos hkeep, if_pos hkeep, List.erase_cons_tail (by simpa using Ne.symm hj)]
      · rw [if_neg hkeep, if_neg hkeep]

omit [DecidableEq κ] in
/-- An entry can come first or last only if all others are like it. -/
theorem eq_of_concat_eq_cons {ks : List κ} {k : κ} (h : ks ++ [k] = k :: ks) :
    ∀ j ∈ ks, j = k := by
  induction ks with
  | nil => simp
  | cons i rest ih =>
    obtain ⟨hi, hrest⟩ := List.cons.inj h
    subst hi
    intro j hj
    rcases List.mem_cons.1 hj with hfirst | hlater
    · exact hfirst
    · exact ih hrest j hlater

/-- Taking the first entry of a kind off a list is taking a later one off just if only entries of
that kind lie between the two. -/
theorem erase_append_cons_eq_iff (ks js : List κ) (k : κ) :
    (ks ++ k :: js).erase k = ks ++ js ↔ ∀ j ∈ ks.dropWhile (· ≠ k), j = k := by
  induction ks with
  | nil => simp
  | cons i rest ih =>
    by_cases hi : i = k
    · subst hi
      have hdrop : (i :: rest).dropWhile (· ≠ i) = i :: rest := by simp
      rw [hdrop, List.cons_append, List.erase_cons_head]
      -- The list is the same when an entry is moved over the ones before it.
      have hmove : rest ++ i :: js = i :: rest ++ js ↔ rest ++ [i] = i :: rest := by
        rw [← List.append_cancel_right_eq (rest ++ [i]) js, List.append_assoc]
        rfl
      rw [hmove]
      constructor
      · intro hsame
        exact List.forall_mem_cons.2 ⟨rfl, eq_of_concat_eq_cons hsame⟩
      · intro hall
        have hrest : rest = List.replicate rest.length i :=
          List.eq_replicate_of_mem fun j hj => hall j (List.mem_cons_of_mem _ hj)
        rw [hrest, ← List.replicate_succ', List.replicate_succ]
    · have hdrop : (i :: rest).dropWhile (· ≠ k) = rest.dropWhile (· ≠ k) := by simp [hi]
      rw [hdrop, ← ih, List.cons_append, List.cons_append,
        List.erase_cons_tail (by simpa using hi), List.cons_inj_right]

/-! ## §2. Live handles. -/

/-- The callbacks of the live ones among some handles. -/
def liveIn (handles : List (Handle κ)) : List κ :=
  (handles.filter fun h => !h.disposed).map (·.callback)

/-- The callbacks of the live handles, in the order in which these were given. -/
def live (o : Observers κ) : List κ := liveIn o.handles

/-- The callbacks of the youngest handles: of each callback as many as it has live ones. -/
def remaining (o : Observers κ) : List κ :=
  lastOf (fun k => o.handles.count ⟨k, false⟩) (o.handles.map (·.callback))

/-- The callbacks are listed in the order of their live handles. -/
def InOrder (o : Observers κ) : Prop := o.listed = o.live

/-- No live handle of another callback lies between a handle that is alive and the oldest live
handle of its own callback. -/
def IsUndivided (o : Observers κ) (i : Nat) : Prop :=
  ∀ k, o.handles[i]? = some ⟨k, false⟩ →
    ∀ j ∈ (liveIn (o.handles.take i)).dropWhile (· ≠ k), j = k

variable {o : Observers κ}

omit [DecidableEq κ] in
theorem liveIn_append (handles more : List (Handle κ)) :
    liveIn (handles ++ more) = liveIn handles ++ liveIn more := by
  simp [liveIn]

theorem count_liveIn (handles : List (Handle κ)) (k : κ) :
    (liveIn handles).count k = handles.count ⟨k, false⟩ := by
  induction handles with
  | nil => rfl
  | cons h rest ih =>
    obtain ⟨k', disposed⟩ := h
    have hsplit : liveIn (⟨k', disposed⟩ :: rest) = liveIn [⟨k', disposed⟩] ++ liveIn rest :=
      liveIn_append [_] rest
    rw [hsplit, List.count_append, ih, List.count_cons]
    cases disposed with
    | true => simp [liveIn]
    | false => simp [liveIn, List.count_singleton, Nat.add_comm]

/-- A live handle with what comes before it and after it. -/
theorem handles_of_live {i : Nat} {k : κ} (h : o.handles[i]? = some ⟨k, false⟩) :
    ∃ after, o.handles = o.handles.take i ++ ⟨k, false⟩ :: after ∧
      (o.dispose i).handles = o.handles.take i ++ ⟨k, true⟩ :: after := by
  obtain ⟨hi, hget⟩ := List.getElem?_eq_some_iff.1 h
  refine ⟨o.handles.drop (i + 1), ?_, ?_⟩
  · rw [← hget, ← List.drop_eq_getElem_cons hi, List.take_append_drop]
  · rw [dispose_of_live h]
    show o.handles.set i ⟨k, true⟩ = _
    rw [List.set_eq_take_append_cons_drop, if_pos hi]

omit [DecidableEq κ] in
theorem InOrder.observe (h : o.InOrder) (k : κ) : (o.observe k).InOrder := by
  show o.listed ++ [k] = liveIn (o.handles ++ [⟨k, false⟩])
  rw [liveIn_append, show o.listed = liveIn o.handles from h]
  rfl

/-- **Disposing of a handle keeps the order just if the handle is undivided.** -/
theorem inOrder_dispose_iff (h : o.InOrder) (i : Nat) :
    (o.dispose i).InOrder ↔ o.IsUndivided i := by
  by_cases hlive : ∃ k, o.handles[i]? = some ⟨k, false⟩
  · obtain ⟨k, hk⟩ := hlive
    obtain ⟨after, hbefore, hafter⟩ := handles_of_live hk
    have hlisted : o.listed = liveIn (o.handles.take i) ++ k :: liveIn after := by
      rw [show o.listed = liveIn o.handles from h]
      exact (congrArg liveIn hbefore).trans (liveIn_append _ _)
    have hleft : (o.dispose i).live = liveIn (o.handles.take i) ++ liveIn after := by
      unfold live
      rw [hafter]
      exact liveIn_append _ _
    have hgone : (o.dispose i).listed = o.listed.erase k := by rw [dispose_of_live hk]
    unfold InOrder
    rw [hleft, hgone, hlisted, erase_append_cons_eq_iff]
    constructor
    · intro hall k' hk'
      rw [hk] at hk'
      cases hk'
      exact hall
    · intro hundivided
      exact hundivided k hk
  · have hnone : ∀ k, o.handles[i]? ≠ some ⟨k, false⟩ := fun k hk => hlive ⟨k, hk⟩
    rw [dispose_of_not_live hnone]
    exact ⟨fun _ k hk => absurd hk (hnone k), fun _ => h⟩

/-! ## §3. The youngest handles. -/

/-- There are live handles among all handles only. -/
theorem count_live_le (handles : List (Handle κ)) (k : κ) :
    handles.count ⟨k, false⟩ ≤ (handles.map (·.callback)).count k :=
  List.count_le_count_map (f := Handle.callback) (x := ⟨k, false⟩)

theorem remaining_observe (o : Observers κ) (k : κ) :
    (o.observe k).remaining = o.remaining ++ [k] := by
  unfold remaining
  rw [← lastOf_concat]
  show lastOf (fun j => (o.handles ++ [(⟨k, false⟩ : Handle κ)]).count ⟨j, false⟩)
    ((o.handles ++ [(⟨k, false⟩ : Handle κ)]).map (·.callback)) = _
  simp [List.count_append, List.count_singleton]

theorem remaining_dispose {i : Nat} {k : κ} (h : o.handles[i]? = some ⟨k, false⟩) :
    (o.dispose i).remaining = o.remaining.erase k := by
  obtain ⟨hi, hget⟩ := List.getElem?_eq_some_iff.1 h
  have hpos : 0 < o.handles.count ⟨k, false⟩ := List.count_pos_iff.2 (List.mem_of_getElem? h)
  have hcount : ∀ j, (o.dispose i).handles.count ⟨j, false⟩ =
      o.handles.count ⟨j, false⟩ - if k = j then 1 else 0 := by
    intro j
    rw [dispose_of_live h]
    show (o.handles.set i ⟨k, true⟩).count (⟨j, false⟩ : Handle κ) = _
    rw [List.count_set hi, hget]
    simp
  unfold remaining
  rw [callback_dispose]
  simp only [hcount]
  exact lastOf_erase hpos (count_live_le _ _)

/-- **The entries that are left are those of the youngest handles.** -/
theorem remaining_dispose_of_listed (h : o.listed = o.remaining) (i : Nat) :
    (o.dispose i).listed = (o.dispose i).remaining := by
  by_cases hlive : ∃ k, o.handles[i]? = some ⟨k, false⟩
  · obtain ⟨k, hk⟩ := hlive
    rw [remaining_dispose hk, ← h, dispose_of_live hk]
  · rw [dispose_of_not_live fun k hk => hlive ⟨k, hk⟩]
    exact h

/-- The callbacks that are listed are those of the live handles, in some order. -/
theorem IsBalanced.perm_live (h : o.IsBalanced) : o.listed.Perm o.live := by
  rw [List.perm_iff_count]
  intro k
  exact (h k).trans (count_liveIn o.handles k).symm

end Observers

/-! ## §4. What an announcement does. -/

namespace Juncture

open Scene

variable {σ : Type} {l : Listener σ} {x y : Scene σ} {past : List Happening}

/-- An observer that leaves the source alone asks for nothing when it is called. -/
theorem perform_call (l : Listener σ) (c : Callback) (hscripts : x.scripts = []) :
    (x.perform l (.invoke c)).1 = [] ∧
      (x.perform l (.invoke c)).2.observers = x.observers ∧
      (x.perform l (.invoke c)).2.scripts = [] := by
  cases c with
  | service => exact ⟨rfl, rfl, hscripts⟩
  | host name =>
    have hnone : takeScript name x.scripts = none := by
      rw [hscripts]
      rfl
    simp only [perform, hnone]
    exact ⟨trivial, trivial, hscripts⟩

/-- Observers that leave the source alone are called one after the other. -/
theorem course_calls (l : Listener σ) (cs : List Callback) (hscripts : x.scripts = []) :
    ∃ y, Course l ⟨cs.map .invoke, x⟩ (cs.map fun c => .done (.invoke c)) ⟨[], y⟩ ∧
      y.observers = x.observers ∧ y.scripts = [] := by
  induction cs generalizing x with
  | nil => exact ⟨x, .here _, rfl, hscripts⟩
  | cons c cs ih =>
    obtain ⟨hdeeds, hobservers, hleft⟩ := perform_call l c hscripts
    obtain ⟨y, hcourse, hsame, hnone⟩ := ih hleft
    have hstep := (Step.deed (l := l) (.invoke c) (cs.map .invoke) x).course
    rw [hdeeds, List.nil_append] at hstep
    exact ⟨y, hstep.trans hcourse, hsame.trans hobservers, hnone⟩

theorem called_calls (cs : List Callback) :
    called (cs.map fun c => .done (.invoke c)) = cs := by
  unfold called
  rw [List.filterMap_map]
  exact List.filterMap_some

/-- **An announcement calls those who are listed**, if nobody does anything with the source, and
leaves the observers as they are. -/
theorem Runs.of_announce (h : Runs l .announce x past y) (hscripts : x.scripts = []) :
    called past = x.observers.listed ∧ y.observers = x.observers ∧ y.scripts = [] := by
  obtain ⟨y', hcourse, hobservers, hleft⟩ := course_calls l x.observers.listed hscripts
  have hfirst := (Step.deed (l := l) .announce [] x).course
  rw [List.append_nil] at hfirst
  have hruns : Runs l .announce x
      ([.done .announce] ++ x.observers.listed.map fun c => .done (.invoke c)) y' := by
    refine ⟨hfirst.trans hcourse, onlyDeeds_append.2 ⟨?_, ?_⟩⟩
    · intro what hwhat
      exact ⟨.announce, List.mem_singleton.1 hwhat⟩
    · intro what hwhat
      obtain ⟨c, -, hc⟩ := List.mem_map.1 hwhat
      exact ⟨.invoke c, hc.symm⟩
  obtain ⟨hpast, hy⟩ := h.unique hruns
  subst hpast hy
  exact ⟨called_calls _, hobservers, hleft⟩

/-! ## §5. Requests from outside. -/

variable {rules : List String} {service : σ}

theorem observers_act (l : Listener σ) (request : Request) (hscripts : x.scripts = []) :
    (act l request.deed x).observers = x.observers.answer request ∧
      (act l request.deed x).scripts = [] := by
  cases request with
  | observe name =>
    rw [act_of_nil (by rfl)]
    exact ⟨rfl, hscripts⟩
  | dispose i =>
    rw [act_of_nil (by rfl)]
    exact ⟨rfl, hscripts⟩
  | announce =>
    obtain ⟨past, hruns⟩ := exists_runs l .announce x
    exact (hruns.of_announce hscripts).2

theorem scripts_asked (l : Listener σ) (rules : List String) (service : σ)
    (requests : List Request) : (asked l rules service requests).scripts = [] := by
  induction requests using List.reverseRecOn with
  | nil => rfl
  | append_singleton requests request ih =>
    rw [asked_concat]
    exact (observers_act l request ih).2

theorem observers_asked (l : Listener σ) (rules : List String) (service : σ)
    (requests : List Request) :
    (asked l rules service requests).observers = requests.foldl Observers.answer .none := by
  induction requests using List.reverseRecOn with
  | nil => rfl
  | append_singleton requests request ih =>
    rw [asked_concat, List.foldl_append, ← ih]
    exact (observers_act l request (scripts_asked l rules service requests)).1

theorem observers_asked_concat (l : Listener σ) (rules : List String) (service : σ)
    (requests : List Request) (request : Request) :
    (asked l rules service (requests ++ [request])).observers =
      (asked l rules service requests).observers.answer request := by
  rw [observers_asked, observers_asked, List.foldl_append]
  rfl

/-- What registering and disposing keep holds after all requests. -/
theorem asked_induction {P : Observers Callback → Prop} (hnone : P .none)
    (hobserve : ∀ o k, P o → P (o.observe k)) (hdispose : ∀ o i, P o → P (o.dispose i))
    (requests : List Request) : P (asked l rules service requests).observers := by
  induction requests using List.reverseRecOn with
  | nil => exact hnone
  | append_singleton requests request ih =>
    rw [observers_asked_concat]
    cases request with
    | observe name => exact hobserve _ _ ih
    | dispose i => exact hdispose _ _ ih
    | announce => exact ih

theorem isBalanced_asked (requests : List Request) :
    (asked l rules service requests).observers.IsBalanced :=
  asked_induction Observers.isBalanced_none (fun _ k h => h.observe k) (fun _ i h => h.dispose i)
    requests

theorem listed_asked (requests : List Request) :
    (asked l rules service requests).observers.listed =
      (asked l rules service requests).observers.remaining := by
  refine asked_induction (P := fun o => o.listed = o.remaining) rfl ?_ ?_ requests
  · intro o k h
    rw [Observers.remaining_observe, ← h]
    rfl
  · intro o i h
    exact Observers.remaining_dispose_of_listed h i

/-- Only disposals can spoil the order. -/
theorem inOrder_asked_iff (requests : List Request) :
    (∀ made, made <+: requests → (asked l rules service made).observers.InOrder) ↔
      ∀ made i, made ++ [.dispose i] <+: requests →
        (asked l rules service made).observers.IsUndivided i := by
  constructor
  · intro horder made i hmade
    have hbefore := horder made ((List.prefix_append _ _).trans hmade)
    have hafter := horder _ hmade
    rw [observers_asked_concat] at hafter
    exact (Observers.inOrder_dispose_iff hbefore i).1 hafter
  · intro hundivided made hmade
    -- Over the requests that have been made, one by one.
    induction made using List.reverseRecOn with
    | nil => rfl
    | append_singleton made request ih =>
      have hbefore := ih ((List.prefix_append _ _).trans hmade)
      rw [observers_asked_concat]
      cases request with
      | observe name => exact hbefore.observe _
      | dispose i => exact (Observers.inOrder_dispose_iff hbefore i).2 (hundivided made i hmade)
      | announce => exact hbefore

/-- **Whom announcements call, and when they keep the order of the handles.**  A source is asked
from outside, and its observers leave it alone.

1. An announcement calls each callback once for each of its live handles, in the order of the
   youngest handles of each callback, whichever of them are alive.
2. All announcements that can be made on the way call the callbacks in the order of the live handles
   just if every handle is undivided when it is disposed of: no live handle of another callback lies
   between it and the oldest live handle of its own callback. -/
theorem announces_in_order_iff (l : Listener σ) (rules : List String) (service : σ)
    (requests : List Request) :
    (∀ past y, Runs l .announce (asked l rules service requests) past y →
        called past = (asked l rules service requests).observers.remaining ∧
          (called past).Perm (asked l rules service requests).observers.live) ∧
      ((∀ made, made <+: requests → ∀ past y,
          Runs l .announce (asked l rules service made) past y →
            called past = (asked l rules service made).observers.live) ↔
        ∀ made i, made ++ [.dispose i] <+: requests →
          (asked l rules service made).observers.IsUndivided i) := by
  have hcalled : ∀ made past y, Runs l .announce (asked l rules service made) past y →
      called past = (asked l rules service made).observers.listed := by
    intro made past y hruns
    exact (hruns.of_announce (scripts_asked l rules service made)).1
  refine ⟨?_, ?_⟩
  · intro past y hruns
    rw [hcalled requests past y hruns]
    exact ⟨listed_asked requests, (isBalanced_asked requests).perm_live⟩
  · rw [← inOrder_asked_iff]
    constructor
    · intro hall made hmade
      -- There is an announcement, and it shows the list.
      obtain ⟨past, hruns⟩ := exists_runs l .announce (asked l rules service made)
      exact (hcalled made past _ hruns).symm.trans (hall made hmade past _ hruns)
    · intro horder made hmade past y hruns
      exact (hcalled made past y hruns).trans (horder made hmade)

/-- Of three handles the last is disposed of, whose callback has the first one too. -/
def crossed : List Request := [.observe "A", .observe "B", .observe "A", .dispose 2]

/-- So the order of the live handles is not always the order of the calls. -/
theorem not_always_in_order :
    ¬ ∀ (requests : List Request) (past : List Happening) (y : Scene Unit),
      Runs .silent .announce (asked .silent [] () requests) past y →
        called past = (asked .silent [] () requests).observers.live := by
  intro hclaim
  obtain ⟨past, hruns⟩ := exists_runs .silent .announce (asked .silent [] () crossed)
  have hcalled := (hruns.of_announce (scripts_asked .silent [] () crossed)).1
  have hsame := hcalled.symm.trans (hclaim crossed past _ hruns)
  -- The second callback is called first now, although the first handle is alive.
  rw [observers_asked] at hsame
  revert hsame
  decide

end Juncture

end QuasiGrammar
