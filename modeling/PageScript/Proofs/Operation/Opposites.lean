import PageScript.Page.Basic
import PageScript.Proofs.Operation.Validation

/-!
# Opposite assertions

Two operations are opposites when one asserts what the other denies (`Operation.Opposed`).  Their
arguments are read alike, and an error of theirs differs in nothing but the name of the operation
that it begins with (`Error.UpToName`).  What is read are assertions that make the same calls and
want opposite outcomes of the same test (`Action.Opposite`).

So opposites do the same to the session.  Either neither of them could look, and then both fail with
the same error up to the name, or exactly one of them holds (`Operation.opposites_complement`).
-/

namespace PageScript

/-! ## Reading alike -/

/-- The same error, but for the name at the beginning of an argument error. -/
inductive Error.UpToName (name name' : String) : Error → Error → Prop
  | same (e : Error) : UpToName name name' e e
  | named (rest : String) :
      UpToName name name' (.argument (name ++ rest)) (.argument (name' ++ rest))

/-- Related results, or the same errors but for the name. -/
inductive ReadsAlike (name name' : String) {α β : Type} (R : α → β → Prop) :
    Except Error α → Except Error β → Prop
  | ok {a : α} {b : β} (h : R a b) : ReadsAlike name name' R (.ok a) (.ok b)
  | error {e e' : Error} (h : e.UpToName name name' e') :
      ReadsAlike name name' R (.error e) (.error e')

namespace ReadsAlike

variable {name name' : String} {α β γ δ : Type} {R : α → β → Prop} {S : γ → δ → Prop}

theorem bind {r : Except Error α} {r' : Except Error β} {f : α → Except Error γ}
    {f' : β → Except Error δ} (h : ReadsAlike name name' R r r')
    (hf : ∀ a b, R a b → ReadsAlike name name' S (f a) (f' b)) :
    ReadsAlike name name' S (r >>= f) (r' >>= f') := by
  cases h with
  | ok h => exact hf _ _ h
  | error h => exact .error h

/-- What is read alike is used alike. -/
theorem bind_eq {r r' : Except Error α} {f : α → Except Error γ} {f' : α → Except Error δ}
    (h : ReadsAlike name name' Eq r r') (hf : ∀ a, ReadsAlike name name' S (f a) (f' a)) :
    ReadsAlike name name' S (r >>= f) (r' >>= f') :=
  h.bind fun a _ hab => hab ▸ hf a

theorem refl (r : Except Error α) : ReadsAlike name name' Eq r r := by
  cases r with
  | ok a => exact .ok rfl
  | error e => exact .error (.same e)

end ReadsAlike

/-! ## Readers of arguments -/

namespace Arguments

variable {name name' : String} {values : List Value} (index : Nat) (param : String)

/-- The two complain of an argument alike. -/
theorem unfit_upToName (expected : String) (got : Value) :
    (unfit ⟨name, values⟩ param expected got).UpToName name name'
      (unfit ⟨name', values⟩ param expected got) := by
  simp only [unfit, String.append_assoc]
  exact .named _

theorem missing_upToName :
    (missing ⟨name, values⟩ param).UpToName name name' (missing ⟨name', values⟩ param) := by
  simp only [missing, String.append_assoc]
  exact .named _

theorem required_alike {α : Type} {r r' : Except Error (Option α)}
    (h : ReadsAlike name name' Eq r r') :
    ReadsAlike name name' Eq (required ⟨name, values⟩ param r)
      (required ⟨name', values⟩ param r') := by
  cases h with
  | error h => exact .error h
  | @ok x y h =>
    cases h
    cases x with
    | none => exact .error (missing_upToName param)
    | some x => exact .ok rfl

/-- An argument is found without the name. -/
theorem param?_name (name name' : String) :
    param? ⟨name', values⟩ index param = param? ⟨name, values⟩ index param := rfl

theorem text?_alike : ReadsAlike name name' Eq (text? ⟨name, values⟩ index param)
    (text? ⟨name', values⟩ index param) := by
  unfold text?
  rw [param?_name index param name name']
  cases param? ⟨name, values⟩ index param with
  | none => exact .ok rfl
  | some v =>
    dsimp only
    cases v.scalarText with
    | none => exact .error (unfit_upToName param "a scalar" v)
    | some s => exact .ok rfl

theorem text_alike : ReadsAlike name name' Eq (text ⟨name, values⟩ index param)
    (text ⟨name', values⟩ index param) :=
  required_alike param (text?_alike index param)

theorem double?_alike : ReadsAlike name name' Eq (double? ⟨name, values⟩ index param)
    (double? ⟨name', values⟩ index param) := by
  unfold double?
  rw [param?_name index param name name']
  cases param? ⟨name, values⟩ index param with
  | none => exact .ok rfl
  | some v =>
    cases v with
    | number n => exact .ok rfl
    | text s =>
      dsimp only
      cases Reading.double? (Text.trim s.toList) with
      | none => exact .error (unfit_upToName param "a number" (.text s))
      | some x => exact .ok rfl
    | null | bool _ | list _ | object _ => exact .error (unfit_upToName param "a number" _)

theorem timeout_alike (default : Duration) :
    ReadsAlike name name' Eq (timeout ⟨name, values⟩ index default)
      (timeout ⟨name', values⟩ index default) := by
  have read : ReadsAlike name name' Eq (double? ⟨name, values⟩ index "timeout")
      (double? ⟨name', values⟩ index "timeout") := double?_alike index "timeout"
  unfold timeout
  generalize double? ⟨name, values⟩ index "timeout" = r at read ⊢
  generalize double? ⟨name', values⟩ index "timeout" = r' at read ⊢
  cases read with
  | error h => exact .error h
  | @ok x y h =>
    cases h
    cases x with
    | none => exact .ok rfl
    | some x =>
      dsimp only
      cases Duration.ofDouble? x with
      | none => exact .error (unfit_upToName "timeout" _ _)
      | some d => exact .ok rfl

end Arguments

/-! ## Calls that fail -/

/-- Some call has failed. -/
def SomeFailed (deeds : List Deed) : Prop := ∃ d ∈ deeds, d.failed = true

namespace Doing

variable {σ α β : Type}

/-- Where no call has failed so far, the action fails exactly if a call of it fails. -/
def Candid (a : Doing (σ × List Deed) α) : Prop :=
  ∀ w, ¬SomeFailed w.session.2 → ((∃ e, (a w).1 = .error e) ↔ SomeFailed (a w).2.session.2)

namespace Candid

theorem of_pure (x : α) : Candid (σ := σ) (pure x) :=
  fun _ hw => ⟨nofun, fun h => absurd h hw⟩

theorem of_bind {a : Doing (σ × List Deed) α} {f : α → Doing (σ × List Deed) β} (ha : Candid a)
    (hf : ∀ x, Candid (f x)) : Candid (a >>= f) := by
  intro w hw
  have first := ha w hw
  obtain ⟨r, t, h⟩ : ∃ r t, a w = (r, t) := ⟨_, _, rfl⟩
  rw [h] at first
  cases r with
  | ok x =>
    rw [Lockstep.bind_ok h]
    exact hf x t fun failed => nomatch first.mpr failed
  | error e =>
    rw [Lockstep.bind_error h]
    exact ⟨fun _ => first.mp ⟨e, rfl⟩, fun _ => ⟨e, rfl⟩⟩

theorem call {s : Session σ} (c : Call) : Candid (Doing.call s.recorded c) := by
  intro w hw
  have deeds : (Doing.call s.recorded c w).2.session.2
      = w.session.2 ++ [⟨c, !(s.perform c w.session.1).result.isOk⟩] := rfl
  have result : (Doing.call s.recorded c w).1 = (s.perform c w.session.1).result := rfl
  rw [result, deeds]
  cases (s.perform c w.session.1).result with
  | ok reply =>
    refine ⟨nofun, fun ⟨d, hd, failed⟩ => ?_⟩
    rcases List.mem_append.mp hd with hd | hd
    · exact absurd ⟨d, hd, failed⟩ hw
    · rw [List.mem_singleton.mp hd] at failed
      cases failed
  | error e =>
    exact ⟨fun _ => ⟨_, List.mem_append_right _ List.mem_cons_self, rfl⟩, fun _ => ⟨e, rfl⟩⟩

theorem callAll {s : Session σ} : ∀ cs : List Call, Candid (Doing.callAll s.recorded cs)
  | [] => of_pure ()
  | c :: cs => of_bind (call c) fun _ => callAll cs

end Candid

end Doing

/-! ## Opposites -/

/-- Two assertions that make the same calls and want opposite outcomes of the same test. -/
inductive Action.Opposite : Action → Action → Prop
  | intro (first : Option Call) (question : Call) (holds : question.Reply → Bool)
      (complaint complaint' : question.Reply → String) :
      Opposite (.assert (.test first question holds true complaint))
        (.assert (.test first question holds false complaint'))

namespace Operation

/-- The operations that assert what others deny. -/
def opposites : List (Operation × Operation) :=
  [(assertFound, assertNotFound), (assertTextInPage, assertTextNotInPage),
    (assertVisible, assertNotVisible), (assertElementHasClass, assertElementNotHasClass),
    (assertChecked, assertNotChecked), (assertAlertPresent, assertAlertNotPresent),
    (assertTextInLog, assertTextNotInLog)]

/-- One operation with its values asserts what the other denies.  Uncaught errors are asserted and
denied by the same operation. -/
inductive Opposed : Operation → List Value → Operation → List Value → Prop
  | negated {op op' : Operation} (h : (op, op') ∈ opposites) (values : List Value) :
      Opposed op values op' values
  | scriptErrors {values values' : List Value}
      (present : Arguments.boolOr ⟨assertJsErrors.name, values⟩ 0 "present" true = .ok true)
      (absent : Arguments.boolOr ⟨assertJsErrors.name, values'⟩ 0 "present" true = .ok false) :
      Opposed assertJsErrors values assertJsErrors values'

/-- Opposites are read alike, as opposite assertions. -/
theorem Opposed.reads_alike {op op' : Operation} {values values' : List Value}
    (h : Opposed op values op' values') (config : Config) :
    ReadsAlike op.name op'.name Action.Opposite (Action.ofOperation config op ⟨op.name, values⟩)
      (Action.ofOperation config op' ⟨op'.name, values'⟩) := by
  cases h with
  | scriptErrors present absent =>
    simp only [Action.ofOperation, present, absent]
    exact .ok (.intro _ _ _ _ _)
  | negated h values =>
    simp only [opposites, List.mem_cons, Prod.mk.injEq, List.not_mem_nil, or_false] at h
    obtain found | inPage | visible | classes | checked | alert | inLog := h
    · obtain ⟨rfl, rfl⟩ := found
      exact .bind_eq (Arguments.text_alike 0 "selector") fun _ => .ok (.intro _ _ _ _ _)
    · obtain ⟨rfl, rfl⟩ := inPage
      exact .bind_eq (Arguments.text_alike 0 "text") fun _ => .ok (.intro _ _ _ _ _)
    · obtain ⟨rfl, rfl⟩ := visible
      exact .bind_eq (Arguments.text_alike 0 "selector") fun _ =>
        .bind_eq (Arguments.timeout_alike 1 config.timeout) fun _ => .ok (.intro _ _ _ _ _)
    · obtain ⟨rfl, rfl⟩ := classes
      exact .bind_eq (Arguments.text_alike 0 "selector") fun selector =>
        .bind_eq (Arguments.text_alike 1 "class") fun _ =>
        .bind_eq (Arguments.text?_alike 2 "wait_for") fun way =>
        .bind_eq (.refl (Action.settleAs config selector way)) fun _ => .ok (.intro _ _ _ _ _)
    · obtain ⟨rfl, rfl⟩ := checked
      exact .bind_eq (Arguments.text_alike 0 "selector") fun _ => .ok (.intro _ _ _ _ _)
    · obtain ⟨rfl, rfl⟩ := alert
      exact .ok (.intro _ _ _ _ _)
    · obtain ⟨rfl, rfl⟩ := inLog
      exact .bind_eq (Arguments.text_alike 0 "text") fun _ => .ok (.intro _ _ _ _ _)

end Operation

/-! ## Looking and judging -/

/-- One of the two holds, and what the other asserts does not hold. -/
inductive Complementary : Except Error Unit → Except Error Unit → Prop
  | holds (t : String) : Complementary (.ok ()) (.error (.assertionFailed t))
  | fails (t : String) : Complementary (.error (.assertionFailed t)) (.ok ())

namespace Action

variable {σ : Type}

/-- The calls of an assertion, with the reply to its question. -/
def ask (s : Session σ) (first : Option Call) (question : Call) : Doing σ question.Reply := do
  Doing.callAll s first.toList
  Doing.call s question

theorem check_test (s : Session σ) (first : Option Call) (question : Call)
    (holds : question.Reply → Bool) (wanted : Bool) (complaint : question.Reply → String) :
    check s (.test first question holds wanted complaint) = ask s first question >>= fun reply =>
      if holds reply = wanted then return () else throw (.assertionFailed (complaint reply)) := by
  rw [check, ask, bind_assoc]
  refine congrArg _ (funext fun _ => congrArg _ (funext fun reply => ?_))
  by_cases h : holds reply = wanted
  · simp only [Assertion.test, if_pos h]
  · simp only [Assertion.test, if_neg h]

/-- Opposite assertions make the same calls.  If one of these fails, both fail with its error;
otherwise one holds and the other does not. -/
theorem Opposite.complementary {action action' : Action} (h : Opposite action action')
    (s : Session σ) (w : World (σ × List Deed)) (hw : ¬SomeFailed w.session.2) :
    ∃ r r' t, action.perform s.recorded w = (r, t) ∧ action'.perform s.recorded w = (r', t) ∧
      ((SomeFailed t.session.2 ∧ ∃ e, r = .error e ∧ r' = .error e) ∨
        (¬SomeFailed t.session.2 ∧ Complementary r r')) := by
  cases h with
  | intro first question holds complaint complaint' =>
    -- what is wanted comes in only when the reply is there, so the calls are the same
    have candid : Doing.Candid (ask s.recorded first question) :=
      .of_bind (.callAll _) fun _ => .call question
    have failed := candid w hw
    obtain ⟨asked, t, hask⟩ : ∃ asked t, ask s.recorded first question w = (asked, t) := ⟨_, _, rfl⟩
    rw [hask] at failed
    simp only [perform, check_test]
    cases asked with
    | error e =>
      rw [Lockstep.bind_error hask, Lockstep.bind_error hask]
      exact ⟨_, _, t, rfl, rfl, .inl ⟨failed.mp ⟨e, rfl⟩, e, rfl, rfl⟩⟩
    | ok reply =>
      have unfailed : ¬SomeFailed t.session.2 := fun h => nomatch failed.mpr h
      rw [Lockstep.bind_ok hask, Lockstep.bind_ok hask]
      cases holds reply with
      | true => exact ⟨_, _, t, rfl, rfl, .inr ⟨unfailed, .holds _⟩⟩
      | false => exact ⟨_, _, t, rfl, rfl, .inr ⟨unfailed, .fails _⟩⟩

end Action

namespace Operation

variable {op op' : Operation} {values values' : List Value}

theorem Opposed.needsSession (h : Opposed op values op' values') :
    op.needsSession = true ∧ op'.needsSession = true := by
  cases h with
  | scriptErrors => exact ⟨rfl, rfl⟩
  | negated h =>
    have all : ∀ pair ∈ opposites, pair.1.needsSession = true ∧ pair.2.needsSession = true := by
      decide
    exact all _ h

/-- Opposites do the same to the session.  If it is stopped, or an argument is unfit, or a call
fails, they fail with the same error up to the name.  Otherwise exactly one of them holds. -/
theorem opposites_complement {σ : Type} (s : Session σ) (h : Opposed op values op' values') (x : σ)
    (outside : Surroundings) :
    let world : World (σ × List Deed) := ⟨(x, []), outside⟩
    let done := op.perform s.recorded ⟨op.name, values⟩ world
    let done' := op'.perform s.recorded ⟨op'.name, values'⟩ world
    let hindered := s.status x = .stopped ∨
      (∃ e, Action.ofOperation s.config op ⟨op.name, values⟩ = .error e) ∨
      SomeFailed done.2.session.2
    done.2 = done'.2 ∧
    (hindered → ∃ e e', done.1 = .error e ∧ done'.1 = .error e' ∧
      e.UpToName op.name op'.name e') ∧
    (¬hindered → Complementary done.1 done'.1) := by
  intro world done done' hindered
  cases hstatus : s.status x with
  | stopped =>
    obtain ⟨needs, needs'⟩ := h.needsSession
    have refused : done = (.error .sessionStopped, world) := perform_stopped needs _ hstatus
    have refused' : done' = (.error .sessionStopped, world) := perform_stopped needs' _ hstatus
    rw [refused, refused']
    exact ⟨rfl, fun _ => ⟨_, _, rfl, rfl, .same _⟩, fun free => absurd (.inl hstatus) free⟩
  | running =>
    have running : s.recorded.status world.session = .running := hstatus
    have alike := h.reads_alike s.recorded.config
    obtain ⟨read, hread⟩ :
        ∃ read, Action.ofOperation s.recorded.config op ⟨op.name, values⟩ = read := ⟨_, rfl⟩
    obtain ⟨read', hread'⟩ :
        ∃ read', Action.ofOperation s.recorded.config op' ⟨op'.name, values'⟩ = read' := ⟨_, rfl⟩
    rw [hread, hread'] at alike
    cases alike with
    | @error e e' he =>
      have refused : done = (.error e, world) := perform_unfit hread running
      have refused' : done' = (.error e', world) := perform_unfit hread' running
      have unfit : hindered := .inr (.inl ⟨e, hread⟩)
      rw [refused, refused']
      exact ⟨rfl, fun _ => ⟨e, e', rfl, rfl, he⟩, fun free => absurd unfit free⟩
    | @ok action action' opposite =>
      obtain ⟨r, r', t, hdone, hdone', outcome⟩ :=
        opposite.complementary s world fun ⟨_, hd, _⟩ => nomatch hd
      have same : done = (r, t) := (perform_running hread running).trans hdone
      have same' : done' = (r', t) := (perform_running hread' running).trans hdone'
      have only : hindered → SomeFailed t.session.2 := by
        rintro (stopped | ⟨e, he⟩ | failed)
        · cases hstatus.symm.trans stopped
        · cases hread.symm.trans he
        · rwa [same] at failed
      rw [same, same']
      rcases outcome with ⟨failed, e, rfl, rfl⟩ | ⟨unfailed, complementary⟩
      · refine ⟨rfl, fun _ => ⟨e, e, rfl, rfl, .same e⟩, fun free => ?_⟩
        exact absurd (.inr (.inr (by rwa [same]))) free
      · exact ⟨rfl, fun hindered => absurd (only hindered) unfailed, fun _ => complementary⟩

/-- A page with a visible element of two classes, and nothing from outside. -/
def classesWorld : World (Page × List Deed) :=
  ⟨(⟨false, "", "", "", [("#a", [⟨"", "", some "button on", false, true, true, .zero false⟩])],
    [], [], [], .null, []⟩, []), .still⟩

/-- The element has one of the classes, so just one of the two assertions holds.  Without the class
both complain, each under its own name. -/
theorem opposites_complement_classes :
    let op := assertElementHasClass
    let op' := assertElementNotHasClass
    let values : List Value := [.text "#a", .text "on", .text "visible"]
    let done (op : Operation) (values : List Value) :=
      op.perform (Page.session .usual).recorded ⟨op.name, values⟩ classesWorld
    Opposed op values op' values ∧
    (done op values).2 = (done op' values).2 ∧
    (done op values).2.session.2 = [⟨.waitFor (.visible "#a") 30000000000, false⟩,
      ⟨.getAttribute "#a" "class", false⟩] ∧
    Complementary (done op values).1 (done op' values).1 ∧
    Opposed op [.text "#a"] op' [.text "#a"] ∧
    ∃ e e', (done op [.text "#a"]).1 = .error e ∧ (done op' [.text "#a"]).1 = .error e' ∧
      e.UpToName "assert_element_has_class" "assert_element_not_has_class" e' := by
  intro op op' values done
  have opposed (values : List Value) : Opposed op values op' values :=
    .negated (by simp [op, op', opposites]) values
  have deeds : (done op values).2.session.2 = [⟨.waitFor (.visible "#a") 30000000000, false⟩,
      ⟨.getAttribute "#a" "class", false⟩] := by
    decide +kernel
  obtain ⟨same, -, judged⟩ := opposites_complement (Page.session .usual) (opposed values)
    classesWorld.session.1 classesWorld.outside
  obtain ⟨-, complains, -⟩ := opposites_complement (Page.session .usual) (opposed [.text "#a"])
    classesWorld.session.1 classesWorld.outside
  refine ⟨opposed values, same, deeds, judged ?_, opposed _, complains (.inr (.inl ⟨_, rfl⟩))⟩
  have read : (Action.ofOperation Config.usual op ⟨op.name, values⟩).isOk = true := by
    decide +kernel
  have unfailed : ¬SomeFailed (done op values).2.session.2 := by
    rw [deeds]
    simp [SomeFailed]
  rintro (stopped | ⟨e, he⟩ | failed)
  · cases stopped
  · rw [show Action.ofOperation Config.usual op ⟨op.name, values⟩ = .error e from he] at read
    cases read
  · exact unfailed failed

end Operation

end PageScript
