import PolicyTrial.Glob
import PolicyTrial.Scenario

/-!
# Registries

* `Registry`: scenarios in order, no two with the same id.
* `Registry.ofScenarios`: refuses an id that comes twice.
* `Registry.select`: the scenarios whose ids some pattern matches.
-/

namespace PolicyTrial

/-- Scenarios in order, no two with the same id. -/
structure Registry where
  scenarios : List Scenario
  ids_nodup : (scenarios.map (·.id)).Nodup

/-- What selects ids: a glob pattern, or a text that is no pattern and stands for itself. -/
inductive IdPattern
  | glob (pattern : Glob)
  | literal (id : String)
  deriving Repr, DecidableEq

namespace IdPattern

/-- A text as a pattern for ids. -/
def ofText (s : String) : IdPattern :=
  match Glob.parse s with
  | some g => .glob g
  | none => .literal s

/-- Whether an id is selected. -/
def «matches» : IdPattern → String → Bool
  | .glob g, id => g.matches id
  | .literal s, id => s == id

end IdPattern

namespace Registry

/-- The first id that occurred before. -/
def firstDuplicate (seen : List String) : List String → Option String
  | [] => none
  | id :: rest => if id ∈ seen then some id else firstDuplicate (id :: seen) rest

theorem firstDuplicate_eq_none {seen ids : List String} (h : firstDuplicate seen ids = none) :
    ids.Nodup ∧ ∀ id ∈ ids, id ∉ seen := by
  induction ids generalizing seen with
  | nil => simp
  | cons id rest ih =>
    rw [firstDuplicate] at h
    split at h
    · simp at h
    · next hid =>
      obtain ⟨hn, hs⟩ := ih h
      refine ⟨List.nodup_cons.2 ⟨fun hm => ?_, hn⟩, ?_⟩
      · exact hs id hm (by simp)
      · intro x hx
        rcases List.mem_cons.1 hx with rfl | hx
        · exact hid
        · exact fun hm => hs x hx (List.mem_cons_of_mem _ hm)

/-- The registry of some scenarios; an id that comes twice is refused. -/
def ofScenarios (scenarios : List Scenario) : Except Failure Registry :=
  match h : firstDuplicate [] (scenarios.map (·.id)) with
  | some id => .error (.config "" ("duplicate scenario '" ++ id ++ "'"))
  | none => .ok ⟨scenarios, (firstDuplicate_eq_none h).1⟩

/-- The number of scenarios. -/
def size (r : Registry) : Nat := r.scenarios.length

/-- The scenarios whose ids satisfy a condition. -/
def filter (r : Registry) (p : String → Bool) : Registry where
  scenarios := r.scenarios.filter fun s => p s.id
  ids_nodup := r.ids_nodup.sublist (List.filter_sublist.map _)

/-- The scenarios whose ids some pattern matches; all of them if there is no pattern. To match
nothing is an error. -/
def select (r : Registry) (patterns : List String) : Except Failure Registry :=
  if patterns = [] then .ok r
  else
    let wanted := patterns.map IdPattern.ofText
    let kept := r.filter fun id => wanted.any (·.matches id)
    if kept.scenarios.isEmpty then
      .error (.config "" ("no scenario matches " ++ ", ".intercalate patterns))
    else .ok kept

end Registry

end PolicyTrial
