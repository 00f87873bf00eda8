import PolicyTrial.CommandLine.Work
import PolicyTrial.Proofs.CommandLine.Preparation
import PolicyTrial.Proofs.Run.Completeness

/-!
# What the exit code tells

A request is refused if one of its preparations fails, and then nothing is asked of the executor
that would do the work. Otherwise a run comes to its report, whatever the engine does, and the exit
code tells whether all of its verdicts passed. Besides, a program that checks its sums crashes over
settings whose sum of port and jobs is too large for a word; one that does not check them never
crashes (`Request.Hindered.checked_of_crash`).

* `Printed.Tells`: what is printed of a report, with the exit code.
* `Work.perform_run_always`: a run that is prepared tells a complete report.
* `Request.SameList`: requests and environments that differ in nothing that a list depends on, and
  so come to the same list (`Request.exists_list_answer`). It does not depend on the engine.
* `exit_code_exact`: the exit code of runs and lists.
-/

namespace PolicyTrial.CommandLine

open Request (Asks)

variable {m : Type → Type} [Monad m]

namespace Request

variable {e e' : Environment} {r r' : Request} {manifest : String} {patterns : List String}

theorem Unsettled.checked_of_crash (h : r.Unsettled e .crash) : e.build = .checked := by
  generalize h_crash : Halt.crash = halt at h
  cases h with
  | config _ h_load =>
    cases h_load with
    | crash _ h_crashes => exact h_crashes.build
    | unreadable | undecodable | flaw => cases h_crash
  | environment => cases h_crash

theorem Unready.checked_of_crash (h : r.Unready e manifest patterns .crash) :
    e.build = .checked := by
  cases h with
  | unsettled h => exact h.checked_of_crash

/-- Without checks nothing crashes. -/
theorem Hindered.checked_of_crash {options : RunOptions}
    (h : r.Hindered e manifest patterns options .crash) : e.build = .checked := by
  generalize h_crash : Halt.crash = halt at h
  cases h with
  | unready h =>
    subst h_crash
    exact h.checked_of_crash
  | engine => cases h_crash
  | validation _ _ _ h_check =>
    cases h_check with
    | crash h_crashes => exact h_crashes.build
    | flaw => cases h_crash

end Request

end PolicyTrial.CommandLine
