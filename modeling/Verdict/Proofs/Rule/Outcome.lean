import Verdict.Rule

/-!
# Runs in a row

A run is followed by another unless it ended in a fault. So a run that ended in one is not changed
by anything that would follow (`Outcome.andThen_of_fault`, `Outcome.enriched_of_fault`), of what
follows only counts what it does where the run has ended (`Outcome.andThen_congr`), and it makes no
difference how three runs are taken together (`Outcome.andThen_assoc`).
-/

namespace Verdict.Outcome

variable {ν : Type} {o : Outcome ν} {next next' : Result → Outcome ν} {fault : Fault}

theorem done_andThen (r : Result) (next : Result → Outcome ν) :
    (done r).andThen next = next r := rfl

theorem andThen_of_fault (h : o.fault = some fault) (next : Result → Outcome ν) :
    o.andThen next = o := by
  rw [andThen, h]

theorem enriched_of_fault (h : o.fault = some fault) (start : Nat) (e : Enricher) :
    o.enriched start e = o := by
  rw [enriched, h]

/-- What follows a run only has to be the same where the run has ended. -/
theorem andThen_congr (h : o.fault = none → next o.result = next' o.result) :
    o.andThen next = o.andThen next' := by
  rcases hfault : o.fault with _ | fault
  · rw [andThen, andThen, hfault, h hfault]
  · rw [andThen_of_fault hfault, andThen_of_fault hfault]

theorem andThen_done (o : Outcome ν) : o.andThen done = o := by
  obtain ⟨r, notes, _ | fault⟩ := o
  · rw [andThen]
    simp only [done, List.append_nil]
  · rfl

/-- A run stays as it is if what follows does nothing where it has ended. -/
theorem andThen_of_done (h : o.fault = none → next o.result = done o.result) :
    o.andThen next = o := by
  rw [andThen_congr h, andThen_done]

theorem andThen_assoc (o : Outcome ν) (next last : Result → Outcome ν) :
    (o.andThen next).andThen last = o.andThen fun r => (next r).andThen last := by
  obtain ⟨r, notes, _ | fault⟩ := o
  · simp only [andThen]
    generalize next r = p
    obtain ⟨s, more, _ | fault⟩ := p
    · simp only [List.append_assoc]
    · rfl
  · rfl

end Verdict.Outcome
