import PageScript.Proofs.Run.Coupling

/-!
# What is put out is not looked at

Two runs may put out different notes.  No call, no operation and no expression sees the difference
(`Coupling.quiet`), if no imported function and no source of synthetic data sees it.  What is made of
single steps does not: these look at chance, the time, environment variables and typed lines.
-/

namespace PageScript

/-- The surroundings differ at most in what was put out. -/
structure Surroundings.Alike (a b : Surroundings) : Prop where
  entropy : a.entropy = b.entropy
  now : a.now = b.now
  clock : a.clock = b.clock
  environment : a.environment = b.environment
  input : a.input = b.input

namespace Surroundings

theorem Alike.output {a b : Surroundings} (h : a.Alike b) (x y : List Output) :
    Alike { a with output := x } { b with output := y } :=
  ⟨h.entropy, h.now, h.clock, h.environment, h.input⟩

/-- Alike surroundings are one with different pieces put out. -/
theorem Alike.exists_output {a b : Surroundings} (h : a.Alike b) : ∃ x, b = { a with output := x } := by
  obtain ⟨entropy, now, clock, environment, input, output⟩ := a
  obtain ⟨hentropy, hnow, hclock, henvironment, hinput⟩ := h
  dsimp only at hentropy hnow hclock henvironment hinput
  subst hentropy hnow hclock henvironment hinput
  exact ⟨b.output, rfl⟩

/-- No single step sees what was put out. -/
theorem steady_alike : Steady Alike where
  draw bound := by
    intro a b h
    obtain ⟨x, rfl⟩ := h.exists_output
    exact ⟨rfl, rfl, rfl, rfl, rfl, rfl⟩
  look := by
    intro a b h
    obtain ⟨x, rfl⟩ := h.exists_output
    exact ⟨rfl, rfl, rfl, rfl, rfl, rfl⟩
  fromEnvironment name := by
    intro a b h
    exact ⟨congrArg (·.lookup name) h.environment, h⟩
  takeLine := by
    intro a b h
    obtain ⟨x, rfl⟩ := h.exists_output
    exact ⟨rfl, rfl, rfl, rfl, rfl, rfl⟩
  putOut o := by
    intro a b h
    exact ⟨rfl, h.output _ _⟩
  passTime ns := by
    intro a b h
    exact ⟨rfl, h.entropy, congrArg (· + ns) h.now, h.clock, h.environment, h.input⟩

end Surroundings

/-- The sessions are the same, and the surroundings differ at most in what was put out. -/
def Coupling.quiet {σ : Type} (s : Session σ) : Coupling s :=
  .ofOutside s Surroundings.Alike Surroundings.steady_alike

/-- No standard function looks at what was put out. -/
theorem Library.standard_alike : Library.standard.Respects Surroundings.Alike :=
  Library.standard_made.respects Surroundings.steady_alike

/-- The built-in source does not look at what was put out. -/
theorem Fake.generate_alike : FakeSource.Respects Surroundings.Alike Fake.generate :=
  Fake.generate_made.respects Surroundings.steady_alike

end PageScript
