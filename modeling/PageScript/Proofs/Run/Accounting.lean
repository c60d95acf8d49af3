import PageScript.Proofs.Run.Nested
import PageScript.Proofs.Run.Untouched

/-!
# The account of a run

Every turn of a run is counted once: as done, as an inclusion that was loaded, or as failed.  The
failures that a run collects are those of its failed turns, each under the number of its turn, so
their numbers grow from one to the next.  An inclusion whose script has failing commands is not a
failure itself.

A session is stopped behind a failed command only, and when that has left it stopped it is not
called again (`StopsForGood`).
-/

namespace PageScript

variable {σ : Type}

namespace Setup

variable (setup : Setup σ)

/-! ## The tally behind a turn -/

theorem closing_tally (t : Turn σ) :
    (setup.closing t).tally = ⟨t.before.index + 1, t.before.executed, t.before.failures⟩ := by
  have opening : (setup.opening t).tally
      = ⟨t.before.index + 1, t.before.executed, t.before.failures⟩ := by
    obtain ⟨pieces, hmeet⟩ := setup.meet_ok t.command t.before
    rw [Setup.opening, met, hmeet]
    rfl
  unfold closing
  split
  · exact (setup.loadInclude_tally _ _ _ _).trans opening
  · exact (setup.runCommand_tally _ _).trans opening

@[simp] theorem closing_index (t : Turn σ) : (setup.closing t).index = t.before.index + 1 :=
  congrArg Tally.index (setup.closing_tally t)

@[simp] theorem closing_executed (t : Turn σ) : (setup.closing t).executed = t.before.executed :=
  congrArg Tally.executed (setup.closing_tally t)

@[simp] theorem closing_failures (t : Turn σ) : (setup.closing t).failures = t.before.failures :=
  congrArg Tally.failures (setup.closing_tally t)

theorem failed_tally (index : Nat) (c : Command) (e : Error) (p : Progress σ) :
    (setup.failed index c e p).tally
      = ⟨p.index, p.executed, p.failures ++ [⟨index, Script.reportText c, e.message⟩]⟩ := by
  unfold failed
  split
  · exact setup.stopSession_tally _
  · rfl

@[simp] theorem failed_index (index : Nat) (c : Command) (e : Error) (p : Progress σ) :
    (setup.failed index c e p).index = p.index :=
  congrArg Tally.index (setup.failed_tally index c e p)

@[simp] theorem failed_executed (index : Nat) (c : Command) (e : Error) (p : Progress σ) :
    (setup.failed index c e p).executed = p.executed :=
  congrArg Tally.executed (setup.failed_tally index c e p)

/-! ## The failures of turns -/

/-- The failures of turns that come behind `n` others. -/
def failuresOf : (n : Nat) → List (Turn σ) → List Failure
  | _, [] => []
  | n, t :: ts =>
    match (setup.fate t).error? with
    | some e => ⟨n + 1, Script.reportText t.command, e.message⟩ :: failuresOf (n + 1) ts
    | none => failuresOf (n + 1) ts

theorem failuresOf_append (n : Nat) (us ts : List (Turn σ)) :
    setup.failuresOf n (us ++ ts)
      = setup.failuresOf n us ++ setup.failuresOf (n + us.length) ts := by
  induction us generalizing n with
  | nil => rfl
  | cons t us ih =>
    have place : n + 1 + us.length = n + (t :: us).length := by simp; omega
    rw [List.cons_append, failuresOf, failuresOf, ih, place]
    cases (setup.fate t).error? <;> rfl

/-- The failures are those of the failed turns, under their numbers. -/
theorem mem_failuresOf_iff {n : Nat} {ts : List (Turn σ)} {f : Failure} :
    f ∈ setup.failuresOf n ts ↔ ∃ front t back e, ts = front ++ t :: back ∧
      setup.fate t = .failed e ∧
      f = ⟨n + front.length + 1, Script.reportText t.command, e.message⟩ := by
  constructor
  · intro h
    induction ts generalizing n with
    | nil => cases h
    | cons t ts ih =>
      have behind (h : f ∈ setup.failuresOf (n + 1) ts) : ∃ front u back e,
          t :: ts = front ++ u :: back ∧ setup.fate u = .failed e ∧
          f = ⟨n + front.length + 1, Script.reportText u.command, e.message⟩ := by
        obtain ⟨front, u, back, e, rfl, hfate, rfl⟩ := ih h
        exact ⟨t :: front, u, back, e, rfl, hfate, by simp; omega⟩
      rw [failuresOf] at h
      cases hfate : setup.fate t with
      | failed e =>
        rw [hfate] at h
        rcases List.mem_cons.mp h with rfl | h
        · exact ⟨[], t, ts, e, rfl, hfate, rfl⟩
        · exact behind h
      | _ =>
        rw [hfate] at h
        exact behind h
  · rintro ⟨front, t, back, e, rfl, hfate, rfl⟩
    rw [failuresOf_append, failuresOf, hfate]
    simp [Fate.error?]

theorem lt_index_of_mem_failuresOf {n : Nat} {ts : List (Turn σ)} {f : Failure}
    (h : f ∈ setup.failuresOf n ts) : n < f.index := by
  obtain ⟨front, t, back, e, -, -, rfl⟩ := (setup.mem_failuresOf_iff).mp h
  dsimp only
  omega

theorem failuresOf_pairwise (n : Nat) (ts : List (Turn σ)) :
    (setup.failuresOf n ts).Pairwise fun f g => f.index < g.index := by
  induction ts generalizing n with
  | nil => exact .nil
  | cons t ts ih =>
    rw [failuresOf]
    cases (setup.fate t).error? with
    | none => exact ih (n + 1)
    | some e => exact .cons (fun f hf => setup.lt_index_of_mem_failuresOf hf) (ih (n + 1))

/-- Every turn has one of three fates. -/
theorem length_eq_fates (n : Nat) (ts : List (Turn σ)) :
    ts.countP (fun t => (setup.fate t).isDone) + (setup.failuresOf n ts).length
      + ts.countP (fun t => (setup.fate t).isLoaded) = ts.length := by
  induction ts generalizing n with
  | nil => rfl
  | cons t ts ih =>
    have behind := ih (n + 1)
    rw [failuresOf, List.countP_cons, List.countP_cons, List.length_cons]
    cases setup.fate t with
    | done =>
      show _ + 1 + (setup.failuresOf (n + 1) ts).length + (_ + 0) = _
      omega
    | loaded script =>
      show _ + 0 + (setup.failuresOf (n + 1) ts).length + (_ + 1) = _
      omega
    | failed e =>
      show _ + 0 + ((setup.failuresOf (n + 1) ts).length + 1) + (_ + 0) = _
      omega

/-! ## The tally of a run -/

variable {setup}

namespace Takes

variable {levels depth : Nat} {directory : String} {cs : List Command} {p q : Progress σ}
  {ts : List (Turn σ)} {r : Except Error Unit}

theorem index_eq (h : setup.Takes levels depth directory cs p ts r q) :
    q.index = p.index + ts.length := by
  induction h with
  | nil => rfl
  | done ht hfate hrest ih => simp [ih, ht]; omega
  | failed ht hfate herrors hrest ih => simp [ih, ht]; omega
  | ended ht hfate herrors => simp [ht]
  | loaded ht hfate hinside hrest ihinside ih => simp [ih, ihinside, ht]; omega
  | broken ht hfate hinside ihinside => simp [ihinside, ht]; omega

theorem executed_eq (h : setup.Takes levels depth directory cs p ts r q) :
    q.executed = p.executed + ts.countP fun t => (setup.fate t).isDone := by
  induction h with
  | nil => rfl
  | done ht hfate hrest ih => simp [ih, hfate, Fate.isDone]; simp [ht]; omega
  | failed ht hfate herrors hrest ih => simp [ih, hfate, Fate.isDone]; simp [ht]
  | ended ht hfate herrors => simp [hfate, Fate.isDone]; simp [ht]
  | loaded ht hfate hinside hrest ihinside ih =>
    simp [ih, ihinside, hfate, Fate.isDone]
    simp [ht]
    omega
  | broken ht hfate hinside ihinside => simp [ihinside, hfate, Fate.isDone]; simp [ht]

theorem failures_eq (h : setup.Takes levels depth directory cs p ts r q) :
    q.failures = p.failures ++ setup.failuresOf p.index ts := by
  induction h with
  | nil => simp [failuresOf]
  | done ht hfate hrest ih => simp [ih, failuresOf, hfate, Fate.error?]; simp [ht]
  | failed ht hfate herrors hrest ih =>
    simp [ih, failuresOf, hfate, Fate.error?, failed_failures]
    simp [ht]
  | ended ht hfate herrors =>
    simp [failuresOf, hfate, Fate.error?, failed_failures]
    simp [ht]
  | loaded ht hfate hinside hrest ihinside ih =>
    simp [ih, failuresOf, failuresOf_append, hfate, Fate.error?, ihinside, hinside.index_eq]
    simp [ht]
  | broken ht hfate hinside ihinside =>
    simp [failuresOf, hfate, Fate.error?, ihinside]
    simp [ht]

/-- The turns are numbered as the run counts the commands that it meets. -/
theorem numbers_eq (h : setup.Takes levels depth directory cs p ts r q) :
    ts.map (fun t => t.before.index) = List.range' p.index ts.length := by
  induction h with
  | nil => rfl
  | done ht hfate hrest ih => simp [ih, ht, List.range'_succ]
  | failed ht hfate herrors hrest ih => simp [ih, ht, List.range'_succ]
  | ended ht hfate herrors => simp [ht]
  | loaded ht hfate hinside hrest ihinside ih =>
    simp [ih, ihinside, ht, hinside.index_eq, List.range'_succ]
  | broken ht hfate hinside ihinside => simp [ihinside, ht, List.range'_succ]

end Takes

end Setup

/-! ## Stopped for good -/

/-- No call to stop has left the session stopped. -/
def Session.NeverStopped (s : Session σ) (x : σ) (calls : List Call) : Prop :=
  ∀ front back, calls = front ++ .stop :: back → s.status (s.after x (front ++ [.stop])) ≠ .stopped

/-- A call to stop that has left the session stopped is the last of the calls. -/
def Session.StopsForGood (s : Session σ) (x : σ) (calls : List Call) : Prop :=
  ∀ front back, calls = front ++ .stop :: back →
    s.status (s.after x (front ++ [.stop])) = .stopped → back = []

/-- Every call to stop has left the session stopped. -/
def Session.AlwaysStopped (s : Session σ) (x : σ) (calls : List Call) : Prop :=
  ∀ front back, calls = front ++ .stop :: back → s.status (s.after x (front ++ [.stop])) = .stopped

namespace Session

variable {s : Session σ} {x : σ} {calls : List Call}

/-- What stands in front of other calls stands there when there is one call more. -/
theorem split_concat {c d : Call} {front back : List Call} (h : calls ++ [c] = front ++ d :: back) :
    (c = d ∧ back = []) ∨ ∃ more, calls = front ++ d :: more := by
  rcases List.eq_nil_or_concat back with rfl | ⟨more, last, rfl⟩
  · exact .inl ⟨List.cons.inj (List.append_inj' h rfl).2 |>.1, rfl⟩
  · rw [List.concat_eq_append, ← List.cons_append, ← List.append_assoc] at h
    exact .inr ⟨more, (List.append_inj' h rfl).1⟩

theorem NeverStopped.nil : s.NeverStopped x [] := by
  intro front back heq
  cases front <;> cases heq

theorem NeverStopped.call (h : s.NeverStopped x calls) {c : Call} (hc : c ≠ .stop) :
    s.NeverStopped x (calls ++ [c]) := by
  intro front back heq
  rcases split_concat heq with ⟨hstop, -⟩ | ⟨more, hcalls⟩
  · exact absurd hstop hc
  · exact h front more hcalls

theorem NeverStopped.stop (h : s.NeverStopped x calls) : s.StopsForGood x (calls ++ [.stop]) := by
  intro front back heq hstopped
  rcases split_concat heq with ⟨-, hback⟩ | ⟨more, hcalls⟩
  · exact hback
  · exact absurd hstopped (h front more hcalls)

theorem NeverStopped.stopsForGood (h : s.NeverStopped x calls) : s.StopsForGood x calls :=
  fun front back heq hstopped => absurd hstopped (h front back heq)

/-- Before a session that is in use, no call has stopped it. -/
theorem StopsForGood.neverStopped (h : s.StopsForGood x calls)
    (hrunning : s.status (s.after x calls) = .running) : s.NeverStopped x calls := by
  intro front back heq hstopped
  cases h front back heq hstopped
  rw [heq, hstopped] at hrunning
  cases hrunning

/-- A session that is always left stopped is stopped once. -/
theorem StopsForGood.count_le_one (h : s.StopsForGood x calls) (halways : s.AlwaysStopped x calls) :
    calls.count .stop ≤ 1 := by
  by_cases hmem : Call.stop ∈ calls
  · obtain ⟨front, back, heq, hfront⟩ := List.eq_append_cons_of_mem hmem
    cases h front back heq (halways front back heq)
    rw [heq, List.count_append, List.count_eq_zero_of_not_mem hfront]
    exact Nat.le_refl 1
  · rw [List.count_eq_zero_of_not_mem hmem]
    exact Nat.zero_le 1

end Session

namespace Setup

variable (setup : Setup σ)

/-- The session is as its calls have left it, and none of them comes behind one that has stopped
it. -/
def StoppedOnce (x : σ) (y : σ × List Call) : Prop :=
  y.1 = setup.session.after x y.2 ∧ setup.session.StopsForGood x y.2

theorem after_call {x : σ} {y : σ × List Call} (h : y.1 = setup.session.after x y.2) (c : Call) :
    (setup.session.perform c y.1).after = setup.session.after x (y.2 ++ [c]) := by
  rw [Session.after_append, ← h]
  rfl

theorem kept_stoppedOnce (x : σ) :
    setup.traced.Kept (fun p => setup.StoppedOnce x p.world.session) := by
  refine setup.traced.kept_session (P := setup.StoppedOnce x) (fun c p hp => ?_) ?_
  · obtain ⟨hafter, hlast⟩ := hp
    cases hstatus : setup.session.status p.world.session.1 with
    | stopped =>
      rw [setup.traced.runCommand_idle (x := p.world.session) hstatus c p rfl]
      exact ⟨hafter, hlast⟩
    | running =>
      -- none of the calls of a single command is one to stop
      have never := setup.traced.runCommand_preserves
        (P := fun y => y.1 = setup.session.after x y.2 ∧ setup.session.NeverStopped x y.2)
        (fun d hd y hy => ⟨setup.after_call hy.1 d, hy.2.call hd⟩) c p
        ⟨hafter, hlast.neverStopped (by rwa [← hafter])⟩
      exact ⟨never.1, never.2.stopsForGood⟩
  · rintro - y ⟨hafter, hlast⟩ hrunning
    have running : setup.session.status (setup.session.after x y.2) = .running := by
      rw [← hafter]
      exact hrunning
    exact ⟨setup.after_call hafter .stop, (hlast.neverStopped running).stop⟩

/-! ## Whole runs -/

/-- The report of a run accounts for its turns. -/
structure Accounts (setup : Setup σ) (ts : List (Turn σ)) (report : Report) : Prop where
  /-- Commands that were done, commands that failed and inclusions that were loaded are all that
  were met. -/
  total : report.executed + report.failures.length
    + ts.countP (fun t => (setup.fate t).isLoaded) = ts.length
  numbers : ts.map (fun t => t.before.index) = List.range ts.length
  increasing : report.failures.Pairwise fun f g => f.index < g.index
  /-- What is reported are the turns that failed, under their numbers. -/
  reported : ∀ f, f ∈ report.failures ↔ ∃ front t back e, ts = front ++ t :: back ∧
    setup.fate t = .failed e ∧ f = ⟨front.length + 1, Script.reportText t.command, e.message⟩
  /-- An inclusion that was loaded is followed by the turns of its script, and it is not reported,
  whatever comes of them. -/
  inclusions : ∀ front t back script, ts = front ++ t :: back → setup.fate t = .loaded script →
    (∃ behind, (∀ u ∈ behind.head?, u.depth ≤ t.depth) ∧ back =
      setup.turns (t.levels - 1) (t.depth + 1) script.directory script.commands (setup.closing t)
        ++ behind) ∧
    ∀ f ∈ report.failures, f.index ≠ front.length + 1

theorem failuresOf_number {ts front back : List (Turn σ)} {t : Turn σ}
    (hsplit : ts = front ++ t :: back) (ht : (setup.fate t).error? = none) :
    ∀ f ∈ setup.failuresOf 0 ts, f.index ≠ front.length + 1 := by
  intro f hf heq
  obtain ⟨front', u, back', e, hsplit', hfate, rfl⟩ := setup.mem_failuresOf_iff.mp hf
  have same : front'.length = front.length := by
    dsimp only at heq
    omega
  obtain ⟨-, hrest⟩ := List.append_inj (hsplit'.symm.trans hsplit) same
  cases hrest
  rw [hfate] at ht
  cases ht

variable {setup} in
theorem Takes.accounts {levels : Nat} {directory : String} {cs : List Command} {p q : Progress σ}
    {ts : List (Turn σ)} {r : Except Error Unit} (h : setup.Takes levels 0 directory cs p ts r q)
    (hp : p.tally = ⟨0, 0, []⟩) : setup.Accounts ts ⟨q.executed, q.failures, q.names⟩ := by
  have index : p.index = 0 := congrArg Tally.index hp
  have failures : q.failures = setup.failuresOf 0 ts := by
    rw [h.failures_eq, index, show p.failures = [] from congrArg Tally.failures hp, List.nil_append]
  have executed : q.executed = ts.countP fun t => (setup.fate t).isDone := by
    rw [h.executed_eq, show p.executed = 0 from congrArg Tally.executed hp, Nat.zero_add]
  refine ⟨?_, ?_, ?_, fun f => ?_, fun front t back script hsplit hfate => ⟨?_, ?_⟩⟩
  · rw [executed, failures]
    exact setup.length_eq_fates 0 ts
  · rw [h.numbers_eq, index, List.range_eq_range']
  · rw [failures]
    exact setup.failuresOf_pairwise 0 ts
  · rw [failures, mem_failuresOf_iff]
    simp
  · obtain ⟨inside, behind, rfl, hfollowed⟩ := h.allFollowed front t back hsplit
    exact ⟨behind, hfollowed.after, by rw [hfollowed.loaded script hfate]⟩
  · rw [failures]
    exact setup.failuresOf_number hsplit (by rw [hfate]; rfl)

/-- A run that goes on behind failures comes to its end, and its report accounts for every command
that it has met.  It stops the session for good when it leaves it stopped, so it does that once at
most. -/
theorem run_accounts (script : Script) (world : World σ) :
    let ending := setup.patient.run script world.fresh
    let calls := ending.world.session.2
    ∃ report, ending.result = .ok report ∧
      setup.patient.Accounts (setup.patient.scriptTurns script world.fresh) report ∧
      setup.session.StopsForGood world.session calls ∧
      (setup.session.AlwaysStopped world.session calls → calls.count .stop ≤ 1) := by
  let start := setup.patient.start world.fresh
  have takes := setup.patient.takes maxIncludeDepth 0 script.directory script.commands start
  have stops : setup.StoppedOnce world.session
      (setup.patient.runWithin maxIncludeDepth script.directory script.commands start).2.world.session :=
    ((setup.withErrors false).kept_stoppedOnce world.session).runWithin _ _ _ start
      ⟨rfl, Session.NeverStopped.nil.stopsForGood⟩
  obtain ⟨r, q, hrun⟩ : ∃ r q, setup.patient.runWithin maxIncludeDepth script.directory
    script.commands start = (r, q) := ⟨_, _, rfl⟩
  rw [hrun] at stops takes
  cases takes.ok_of_patient rfl
  have ending : setup.patient.run script world.fresh
      = ⟨.ok ⟨q.executed, q.failures, q.names⟩, .idle, q.world⟩ := by
    rw [run_eq, hrun]
    rfl
  rw [ending]
  obtain ⟨-, hgood⟩ := stops
  exact ⟨_, rfl, takes.accounts rfl, hgood, hgood.count_le_one⟩

end Setup

end PageScript
