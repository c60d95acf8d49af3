import PageScript.CommandLine.Checking
import PageScript.Proofs.Operation.Parameters
import PageScript.Proofs.Run.Inclusion

/-!
# Checking inclusions

A run takes the path of an inclusion from its argument as any operation takes a parameter.  The path
may stand in the argument itself, first in a list or under its name in an object, and the run follows
it as it is if it has no token (`Setup.loadInclude_written`).

A check looks at the argument only.  It follows every text, tokens or not, and says of anything else
that the path is computed.  So it does what the run is going to do exactly if the argument is a text
and has no token, or is no text and the path has one (`Checking.asRun_iff`).
-/

namespace PageScript

variable {σ : Type} {c : Command} {path : String}

/-! ## Paths that are written out -/

namespace Resolver

variable {r : Resolver} {v : Value} {vs ws : List Value} {scope after : Scope}

theorem resolveScalar_plain (h : v.isPlain = true) : r.resolveScalar v = pure v := by
  cases v with
  | text s =>
    have none : Token.body? s = none := by simpa [Value.isPlain] using h
    rw [resolveScalar, none]
  | _ => rfl

/-- A plain first item stays what it is, whatever the others are resolved to. -/
theorem resolveItems_cons_plain (hplain : v.isPlain = true) (hlist : ∀ inner, v ≠ .list inner)
    (h : r.resolveItems (v :: vs) scope = (.ok ws, after)) : ∃ rest, ws = v :: rest := by
  have first : r.resolveItems (v :: vs) = r.resolveItems vs >>= fun rest => pure (v :: rest) := by
    rw [resolveItems]
    · rw [resolveScalar_plain hplain, pure_bind]
    · exact hlist
  rw [first] at h
  obtain ⟨rest, between, -, h⟩ := Lockstep.exists_of_bind_ok h
  cases h
  exact ⟨rest, rfl⟩

end Resolver

/-- A path without a token is given by an argument without tokens, or it is the first item of a
list. -/
theorem Command.written_path (h : c.written.text 0 "path" = .ok path)
    (hbody : Token.body? path = none) : c.argument.all Value.isStatic = true ∨
      ∃ v vs, c.argument = some (.list (v :: vs)) ∧ v.isPlain = true ∧
        (∀ inner, v ≠ .list inner) ∧ ∀ fields, v ≠ .object fields := by
  have plain {s : String} (hs : Except.ok s = (Except.ok path : Except Error String)) :
      (Value.text s).isPlain = true := by
    cases hs
    simp [Value.isPlain, hbody]
  unfold Command.written at h
  cases harg : c.argument with
  | none =>
    rw [harg] at h
    cases h
  | some a =>
    rw [harg] at h
    cases a with
    | text s => exact .inl (plain h)
    | null => cases h
    | bool _ | number _ | object _ => exact .inl rfl
    | list vs =>
      cases vs with
      | nil => cases h
      | cons v vs =>
        cases v with
        | text s => exact .inr ⟨.text s, vs, rfl, plain h, by simp, by simp⟩
        | bool b => exact .inr ⟨.bool b, vs, rfl, rfl, by simp, by simp⟩
        | number n => exact .inr ⟨.number n, vs, rfl, rfl, by simp, by simp⟩
        | null | list _ => cases h
        | object fields =>
          -- A lone object gives the path by name, and in front of other items it gives none.
          cases vs with
          | nil => exact .inl rfl
          | cons w vs => cases h

/-- A list is laid out as its items unless the first is a list. -/
theorem Arguments.shape_cons {v : Value} (h : ∀ inner, v ≠ .list inner) (vs : List Value) :
    shape (some (.list (v :: vs))) = v :: vs := by
  cases v with
  | list inner => exact absurd rfl (h inner)
  | _ => rfl

/-- The first of the values in a list is the first parameter, whatever stands behind it. -/
theorem Arguments.agree_first (op name : String) {v : Value} (h : ∀ fields, v ≠ .object fields)
    (vs ws : List Value) : Agree [name] ⟨op, v :: vs⟩ ⟨op, v :: ws⟩ := by
  have single (us : List Value) (fields : List (String × Value)) : v :: us ≠ [.object fields] :=
    fun heq => h fields (List.cons.inj heq).1
  refine ⟨rfl, fun i other hi => ?_⟩
  obtain ⟨rfl, -⟩ : i = 0 ∧ name = other := by simpa using List.getElem?_eq_some_iff.mp hi
  rw [param?_list (single vs), param?_list (single ws)]
  rfl

/-- A plain first item of the argument is the first of the values. -/
theorem Command.arguments_first {r : Resolver} {v : Value} {vs : List Value} {scope after : Scope}
    {args : Arguments} (hargument : c.argument = some (.list (v :: vs))) (hplain : v.isPlain = true)
    (hlist : ∀ inner, v ≠ .list inner) (h : c.arguments r scope = (.ok args, after)) :
    ∃ rest, args = ⟨c.name, v :: rest⟩ := by
  unfold arguments at h
  rw [hargument] at h
  obtain ⟨w, between, hvalue, h⟩ := Lockstep.exists_of_bind_ok h
  obtain ⟨ws, between, hitems, hw⟩ := Lockstep.exists_of_bind_ok hvalue
  obtain ⟨rest, rfl⟩ := Resolver.resolveItems_cons_plain hplain hlist hitems
  cases hw
  cases h
  exact ⟨rest, by rw [Arguments.shape_cons hlist]⟩

namespace Setup

variable (setup : Setup σ)

/-- A path without a token is what the inclusion asks for, once its argument is resolved. -/
theorem askedPath_written (h : c.written.text 0 "path" = .ok path) (hbody : Token.body? path = none)
    {p q : Progress σ} {args : Arguments} (hargs : setup.arguments c p = (.ok args, q)) :
    setup.askedPath c p = (.ok path, q) := by
  have kept : args.text 0 "path" = .ok path := by
    obtain hstatic | ⟨v, vs, hargument, hplain, hlist, hobject⟩ := Command.written_path h hbody
    · rw [arguments_static setup hstatic p] at hargs
      cases hargs
      exact h
    · have resolved : (c.arguments setup.resolver ⟨p.names, p.world.outside⟩).1 = .ok args :=
        congrArg Prod.fst hargs
      obtain ⟨rest, rfl⟩ := Command.arguments_first hargument hplain hlist (Prod.ext resolved rfl)
      have same := (Arguments.agree_first c.name "path" hobject vs rest).text 0 "path" rfl
      rw [Command.written, hargument, Arguments.shape_cons hlist, same] at h
      exact h
  rw [askedPath, Lockstep.bind_ok hargs, kept]
  rfl

/-- So it loads the file of the path. -/
theorem loadInclude_written (h : c.written.text 0 "path" = .ok path)
    (hbody : Token.body? path = none) (deeper : Bool) (directory : String) {p q : Progress σ}
    {args : Arguments} (hargs : setup.arguments c p = (.ok args, q)) :
    setup.loadInclude deeper directory c p
      = setup.loadPath deeper (Path.join directory path) q := by
  rw [loadInclude_eq, Lockstep.bind_ok (setup.askedPath_written h hbody hargs)]

end Setup

/-! ## What a check does -/

namespace Checking

/-- The check of a command goes on in the file of a path, with the problems that it has. -/
def Follows (c : Command) (path : String) : Prop :=
  ∀ (strict : Bool) (depth : Nat) (directory : String) (check : Course),
    checkCommand strict depth directory (some check) c = check (Path.join directory path)

/-- The check of a command finds no problem and says that the path is computed. -/
def Reports (c : Command) : Prop :=
  ∀ (strict : Bool) (depth : Nat) (directory : String) (inner : Option Course),
    checkCommand strict depth directory inner c = do
      line (depth + 1) "? include with a computed path (not checked)"
      return 0

/-- The check of an inclusion does what a run is going to do with its path: it follows a path
without a token and reports a path with one. -/
def AsRun (c : Command) (path : String) : Prop :=
  (Token.body? path = none → Follows c path) ∧ (Token.body? path ≠ none → Reports c)

theorem follows_text {s : String} (hname : c.name = "include") (h : c.argument = some (.text s)) :
    Follows c s := by
  intro strict depth directory check
  rw [checkCommand, if_pos hname, h]

theorem reports_other (hname : c.name = "include") (h : ∀ s, c.argument ≠ some (.text s)) :
    Reports c := by
  intro strict depth directory inner
  rw [checkCommand, if_pos hname]
  split
  · rename_i s hs
    exact absurd hs (h s)
  · rfl

/-- A file with a problem tells the one from the other. -/
theorem not_reports_of_follows (hfollows : Follows c path) : ¬ Reports c := by
  intro hreports
  have same := (hfollows false 0 "" fun _ => pure 1).symm.trans (hreports false 0 "" _)
  have counted : 1 = 0 := congrArg (fun done => (done Surroundings.still).1) same
  exact absurd counted (by decide)

/-- Of an inclusion that a run accepts, a path without a token is loaded by the run, once the argument
is resolved.  The check follows it, and reports a path with a token, exactly if it is the text that
has no token. -/
theorem asRun_iff (hname : c.name = "include") (h : c.written.text 0 "path" = .ok path) :
    (Token.body? path = none → ∀ (σ : Type) (setup : Setup σ) (deeper : Bool) (directory : String)
        (p q : Progress σ) (args : Arguments), setup.arguments c p = (.ok args, q) →
      setup.loadInclude deeper directory c p
        = setup.loadPath deeper (Path.join directory path) q) ∧
      (AsRun c path ↔ ((∃ s, c.argument = some (.text s)) ↔ Token.body? path = none)) := by
  refine ⟨fun hbody σ setup deeper directory p q args => ?_, ?_⟩
  · exact setup.loadInclude_written h hbody deeper directory
  by_cases htext : ∃ s, c.argument = some (.text s)
  · obtain ⟨s, hs⟩ := htext
    have same : s = path := by
      rw [Command.written, hs] at h
      exact Except.ok.inj h
    have follows : Follows c path := same ▸ follows_text hname hs
    have computed : Token.body? path ≠ none → ¬ AsRun c path := fun hbody hrun =>
      not_reports_of_follows follows (hrun.2 hbody)
    constructor
    · exact fun hrun => iff_of_true ⟨s, hs⟩ (Decidable.not_not.mp fun hbody => computed hbody hrun)
    · exact fun hiff => ⟨fun _ => follows, absurd (hiff.mp ⟨s, hs⟩)⟩
  · have reports : Reports c := reports_other hname fun s hs => htext ⟨s, hs⟩
    constructor
    · exact fun hrun => iff_of_false htext fun hbody =>
        not_reports_of_follows (hrun.1 hbody) reports
    · exact fun hiff => ⟨fun hbody => absurd (hiff.mpr hbody) htext, fun _ => reports⟩

/-- A path that is a text, and one that stands in a list in front of a token. -/
theorem asRun_iff_listed :
    let alone : Command := ⟨"include", some (.text "part.yaml")⟩
    let listed : Command := ⟨"include", some (.list [.text "part.yaml", .text "(( randint|1, 2 ))"])⟩
    alone.written.text 0 "path" = .ok "part.yaml" ∧ AsRun alone "part.yaml" ∧
      listed.written.text 0 "path" = .ok "part.yaml" ∧ ¬ AsRun listed "part.yaml" ∧
      ∀ (σ : Type) (setup : Setup σ) (p q : Progress σ) (args : Arguments),
        setup.arguments listed p = (.ok args, q) →
          setup.loadInclude true "home" listed p = setup.loadPath true "home/part.yaml" q := by
  intro alone listed
  have bare : Token.body? "part.yaml" = none := by decide +kernel
  have joined : Path.join "home" "part.yaml" = "home/part.yaml" := by decide +kernel
  obtain ⟨-, run⟩ := @asRun_iff alone "part.yaml" rfl rfl
  obtain ⟨loads, run'⟩ := @asRun_iff listed "part.yaml" rfl rfl
  refine ⟨rfl, run.mpr (iff_of_true ⟨_, rfl⟩ bare), rfl, fun hrun => ?_, fun σ setup p q args => ?_⟩
  · obtain ⟨s, hs⟩ := (run'.mp hrun).mpr bare
    cases hs
  · rw [← joined]
    exact loads bare σ setup true "home" p q args

/-- A computed path is followed to a file that is not there, and a path in a list is not followed to a
file with a problem. -/
theorem computed_path_followed :
    let files : FileTree := ⟨["home"], [(["home"], .directory),
      (["home", "computed.yaml"], .file (some "- include: (( eval|'part.yaml' ))\n")),
      (["home", "listed.yaml"], .file (some "- include: [part.yaml]\n")),
      (["home", "part.yaml"], .file (some "- frobnicate\n"))]⟩
    let outside := Surroundings.still
    let listed : Command := ⟨"include", some (.list [.text "part.yaml"])⟩
    Token.body? "(( eval|'part.yaml' ))" = some "eval|'part.yaml'" ∧
      (check files false "computed.yaml" outside).1 = 1 ∧
      listed.written.text 0 "path" = .ok "part.yaml" ∧ Token.body? "part.yaml" = none ∧
      (check files true "part.yaml" outside).1 = 1 ∧
      (check files true "listed.yaml" outside).1 = 0 := by
  intro files outside listed
  exact ⟨by decide +kernel, by decide +kernel, rfl, by decide +kernel, by decide +kernel,
    by decide +kernel⟩

end Checking

end PageScript
