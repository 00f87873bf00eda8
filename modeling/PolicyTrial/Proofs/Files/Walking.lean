import PolicyTrial.Files.Tree

/-!
# Where a path leads

A path is walked part by part. That is stated once as a relation, with one rule for each thing that
a part can do, and everything else is by induction on the walk.

* `FileTree.Leads`: parts lead from one place to another; `follow_eq_ok_iff` says that this is what
  `FileTree.follow` computes, and `resolve_eq_ok_iff` what it has to do with a path.
* `leads_append_iff`, `leadsTo_join_iff`: what is below a directory is reached in two steps.
* `Place.enter`: the place that a single name leads to from a directory.
-/

namespace PolicyTrial

/-! ### The parts of a path -/

namespace Path

/-- The texts between the slashes of a path. -/
def parts (path : String) : List String := (split path.toList).map String.ofList

theorem split_cons (c : Char) (s : List Char) :
    split (c :: s) = if c = '/' then [] :: split s else
      match split s with
      | [] => [[c]]
      | p :: ps => (c :: p) :: ps := rfl

/-- There is always a part to be continued, an empty one at least. -/
theorem split_ne_nil (s : List Char) : split s ≠ [] := by
  cases s with
  | nil => exact List.cons_ne_nil [] []
  | cons c s =>
    rw [split_cons]
    split
    · exact List.cons_ne_nil _ _
    · split
      · exact List.cons_ne_nil _ _
      · exact List.cons_ne_nil _ _

/-- A slash ends one part and starts another. -/
theorem split_append_slash (s s' : List Char) : split (s ++ '/' :: s') = split s ++ split s' := by
  induction s with
  | nil => rfl
  | cons c s ih =>
    rw [List.cons_append, split_cons, split_cons, ih]
    by_cases hc : c = '/'
    · rw [if_pos hc, if_pos hc, List.cons_append]
    · rw [if_neg hc, if_neg hc]
      cases hs : split s with
      | nil => exact absurd hs (split_ne_nil s)
      | cons p ps => rfl

/-- A text without a slash is its only part. -/
theorem split_of_not_mem {s : List Char} (h : '/' ∉ s) : split s = [s] := by
  induction s with
  | nil => rfl
  | cons c s ih =>
    rw [List.mem_cons, not_or] at h
    rw [split_cons, ih h.2, if_neg (Ne.symm h.1)]

theorem parts_of_not_mem {name : String} (h : '/' ∉ name.toList) : parts name = [name] := by
  rw [parts, split_of_not_mem h, List.map_singleton, String.ofList_toList]

/-- A text without a slash does not start at the root. -/
theorem isAbsolute_of_not_mem {name : String} (h : '/' ∉ name.toList) :
    isAbsolute name = false := by
  rw [isAbsolute, decide_eq_false_iff_not]
  exact fun h_head => h (List.mem_of_mem_head? h_head)

/-- A name below a base, spelled out. -/
theorem join_of_not_mem {base name : String} (h_base : base ≠ "") (h : '/' ∉ name.toList) :
    join base name =
      if base.toList.getLast? = some '/' then base ++ name else base ++ "/" ++ name := by
  have h_relative : ¬ (isAbsolute name || decide (base = "")) = true := by
    rw [isAbsolute_of_not_mem h, Bool.false_or, decide_eq_true_iff]
    exact h_base
  rw [join, if_neg h_relative]

/-- A name is below the empty path as it is. -/
theorem empty_join (name : String) : join "" name = name := by
  rw [join, decide_eq_true rfl, Bool.or_true, if_pos rfl]

/-- The parts of a name below a base are those of the base and the name, but for an empty part that
the base may end with. -/
theorem parts_join (base : String) {name : String} (h : '/' ∉ name.toList) :
    parts (join base name) = parts base ++ [name] ∨
      ∃ ps, parts base = ps ++ [""] ∧ parts (join base name) = ps ++ [name] := by
  by_cases h_base : base = ""
  · subst h_base
    right
    refine ⟨[], rfl, ?_⟩
    rw [empty_join, parts_of_not_mem h, List.nil_append]
  rw [join_of_not_mem h_base h]
  split
  · next h_last =>
    -- The slash at the end of the base leaves an empty part behind it.
    right
    obtain ⟨s, hs⟩ := List.getLast?_eq_some_iff.mp h_last
    refine ⟨(split s).map String.ofList, ?_, ?_⟩
    · rw [parts, hs, split_append_slash, List.map_append]
      rfl
    · rw [parts, String.toList_append, hs, List.append_assoc, List.singleton_append,
        split_append_slash, List.map_append, split_of_not_mem h, List.map_singleton,
        String.ofList_toList]
  · left
    rw [parts, parts, String.toList_append, String.toList_append, List.append_assoc,
      show "/".toList = ['/'] from rfl, List.singleton_append, split_append_slash,
      List.map_append, split_of_not_mem h, List.map_singleton, String.ofList_toList]

/-- A name below a base starts where the base starts. -/
theorem isAbsolute_join (base : String) {name : String} (h : '/' ∉ name.toList) :
    isAbsolute (join base name) = isAbsolute base := by
  by_cases h_base : base = ""
  · rw [h_base, empty_join, isAbsolute_of_not_mem h]
    rfl
  · have h_head : ∀ s, isAbsolute (base ++ s) = isAbsolute base := by
      intro s
      rw [isAbsolute, isAbsolute, String.toList_append]
      cases h_list : base.toList with
      | nil => exact absurd (String.toList_eq_nil_iff.mp h_list) h_base
      | cons c cs => rfl
    rw [join_of_not_mem h_base h]
    split
    · exact h_head name
    · rw [String.append_assoc]
      exact h_head _

end Path

/-- The place that a name leads to from a directory, whatever stands there: an idle name stays, and
two dots go up. -/
def Place.enter (p : Place) (name : String) : Place :=
  if name = "" ∨ name = "." then p else if name = ".." then p.dropLast else p ++ [name]

namespace FileTree

variable {t : FileTree}

/-! ### Following parts -/

/-- A part is the name of something in a directory: it is neither idle nor two dots, and it is not
too long. -/
structure IsName (part : String) : Prop where
  not_idle : ¬ (part = "" ∨ part = ".")
  not_up : part ≠ ".."
  short : ¬ part.utf8ByteSize > nameLimit

theorem enter_of_isName {p : Place} {part : String} (h : IsName part) :
    Place.enter p part = p ++ [part] := by
  rw [Place.enter, if_neg h.not_idle, if_neg h.not_up]

/-- Parts lead from one place to another, where something stands or nothing. There have to be
directories on the way. -/
inductive Leads (t : FileTree) : Place → List String → Place → Option FileNode → Prop
  | here (p : Place) : Leads t p [] p (some .directory)
  | idle {p q : Place} {part : String} {rest : List String} {n : Option FileNode}
      (h_idle : part = "" ∨ part = ".") (h : Leads t p rest q n) : Leads t p (part :: rest) q n
  | up {p q : Place} {rest : List String} {n : Option FileNode} (h : Leads t p.dropLast rest q n) :
      Leads t p (".." :: rest) q n
  | down {p q : Place} {part : String} {rest : List String} {n : Option FileNode}
      (h_name : IsName part) (h_at : t.at? (p ++ [part]) = some .directory)
      (h : Leads t (p ++ [part]) rest q n) : Leads t p (part :: rest) q n
  | stop {p : Place} {part : String} (h_name : IsName part)
      (h_at : t.at? (p ++ [part]) ≠ some .directory) :
      Leads t p [part] (p ++ [part]) (t.at? (p ++ [part]))

theorem follow_name {p : Place} {part : String} {rest : List String} (h : IsName part) :
    t.follow p (part :: rest) =
      match t.at? (p ++ [part]) with
      | some .directory => t.follow (p ++ [part]) rest
      | some (.file c x) =>
        if rest = [] then .ok (p ++ [part], some (.file c x)) else .error .notDirectory
      | none => if rest = [] then .ok (p ++ [part], none) else .error .notFound := by
  rw [follow]
  exact (if_neg h.not_idle).trans ((if_neg h.not_up).trans (if_neg h.short))

theorem follow_down {p : Place} {part : String} {rest : List String} (h : IsName part)
    (h_at : t.at? (p ++ [part]) = some .directory) :
    t.follow p (part :: rest) = t.follow (p ++ [part]) rest := by
  rw [follow_name h, h_at]

/-- Where no directory stands, nothing may follow. -/
theorem follow_stop_iff {p q : Place} {part : String} {rest : List String} {n : Option FileNode}
    (h : IsName part) (h_at : t.at? (p ++ [part]) ≠ some .directory) :
    t.follow p (part :: rest) = .ok (q, n) ↔
      rest = [] ∧ p ++ [part] = q ∧ t.at? (p ++ [part]) = n := by
  rw [follow_name h]
  cases h_node : t.at? (p ++ [part]) with
  | none => by_cases h_rest : rest = [] <;> simp [h_rest]
  | some node =>
    cases node with
    | directory => exact absurd h_node h_at
    | file c x => by_cases h_rest : rest = [] <;> simp [h_rest]

/-- Following parts finds where they lead. -/
theorem leads_of_follow {p q : Place} {parts : List String} {n : Option FileNode}
    (h : t.follow p parts = .ok (q, n)) : t.Leads p parts q n := by
  induction parts generalizing p with
  | nil =>
    cases h
    exact .here q
  | cons part rest ih =>
    by_cases h_idle : part = "" ∨ part = "."
    · rw [follow, if_pos h_idle] at h
      exact .idle h_idle (ih h)
    by_cases h_up : part = ".."
    · rw [follow, if_neg h_idle, if_pos h_up] at h
      rw [h_up]
      exact .up (ih h)
    by_cases h_long : part.utf8ByteSize > nameLimit
    · rw [follow, if_neg h_idle, if_neg h_up, if_pos h_long] at h
      cases h
    have h_name : IsName part := ⟨h_idle, h_up, h_long⟩
    -- A name leads on into a directory, and ends the parts anywhere else.
    by_cases h_at : t.at? (p ++ [part]) = some .directory
    · rw [follow_down h_name h_at] at h
      exact .down h_name h_at (ih h)
    · obtain ⟨rfl, rfl, rfl⟩ := (follow_stop_iff h_name h_at).mp h
      exact .stop h_name h_at

theorem follow_of_leads {p q : Place} {parts : List String} {n : Option FileNode}
    (h : t.Leads p parts q n) : t.follow p parts = .ok (q, n) := by
  induction h with
  | here p => rfl
  | idle h_idle _ ih => rw [follow, if_pos h_idle, ih]
  | up _ ih => rw [follow, if_neg (by decide), if_pos rfl, ih]
  | down h_name h_at _ ih => rw [follow_down h_name h_at, ih]
  | stop h_name h_at => exact (follow_stop_iff h_name h_at).mpr ⟨rfl, rfl, rfl⟩

/-- What is found by following parts is where they lead. -/
theorem follow_eq_ok_iff {p q : Place} {parts : List String} {n : Option FileNode} :
    t.follow p parts = .ok (q, n) ↔ t.Leads p parts q n :=
  ⟨leads_of_follow, follow_of_leads⟩

/-- Parts lead to one place only. -/
theorem Leads.unique {p q q' : Place} {parts : List String} {n n' : Option FileNode}
    (h : t.Leads p parts q n) (h' : t.Leads p parts q' n') : q = q' ∧ n = n' := by
  have h_ok := (follow_of_leads h).symm.trans (follow_of_leads h')
  cases h_ok
  exact ⟨rfl, rfl⟩

/-- Whatever else than a directory parts lead to stands at the place they lead to. -/
theorem Leads.at?_eq {p q : Place} {parts : List String} {n : Option FileNode}
    (h : t.Leads p parts q n) (hn : n ≠ some .directory) : t.at? q = n := by
  induction h with
  | here p => exact absurd rfl hn
  | idle _ _ ih | up _ ih | down _ _ _ ih => exact ih hn
  | stop => rfl

/-- A name leads to the place that is entered. -/
theorem Leads.eq_enter {p q : Place} {name : String} {n : Option FileNode}
    (h : t.Leads p [name] q n) : q = p.enter name := by
  cases h with
  | idle h_idle h =>
    cases h
    rw [Place.enter, if_pos h_idle]
  | up h =>
    cases h
    rfl
  | down h_name _ h =>
    cases h
    exact (enter_of_isName h_name).symm
  | stop h_name _ => exact (enter_of_isName h_name).symm

/-- The name of something in a directory leads there, whatever it is. -/
theorem leads_name {p : Place} {part : String} (h : IsName part) :
    t.Leads p [part] (p ++ [part]) (t.at? (p ++ [part])) := by
  by_cases h_at : t.at? (p ++ [part]) = some .directory
  · rw [h_at]
    exact .down h h_at (.here _)
  · exact .stop h h_at

/-- From where parts lead to a directory, one can go on. -/
theorem Leads.trans {p d q : Place} {parts behind : List String} {n : Option FileNode}
    (h : t.Leads p parts d (some .directory)) (h' : t.Leads d behind q n) :
    t.Leads p (parts ++ behind) q n := by
  generalize h_node : some FileNode.directory = node at h
  induction h with
  | here p => exact h'
  | idle h_idle _ ih => exact .idle h_idle (ih h' h_node)
  | up _ ih => exact .up (ih h' h_node)
  | down h_name h_at _ ih => exact .down h_name h_at (ih h' h_node)
  | stop _ h_at => exact absurd h_node.symm h_at

/-- What is behind other parts is reached in two steps: the others lead to a directory. -/
theorem leads_append_iff {p q : Place} {parts behind : List String} {n : Option FileNode}
    (h_behind : behind ≠ []) :
    t.Leads p (parts ++ behind) q n ↔
      ∃ d, t.Leads p parts d (some .directory) ∧ t.Leads d behind q n := by
  constructor
  · -- A walk that stops leaves no parts over, so it does not stop among the first ones.
    intro h
    induction parts generalizing p with
    | nil => exact ⟨p, .here p, h⟩
    | cons part rest ih =>
      have h_more : rest ++ behind ≠ [] := List.append_ne_nil_of_right_ne_nil rest h_behind
      rw [List.cons_append] at h
      generalize rest ++ behind = more at h h_more ih
      cases h with
      | idle h_idle h =>
        obtain ⟨d, h_start, h_end⟩ := ih h
        exact ⟨d, .idle h_idle h_start, h_end⟩
      | up h =>
        obtain ⟨d, h_start, h_end⟩ := ih h
        exact ⟨d, .up h_start, h_end⟩
      | down h_name h_at h =>
        obtain ⟨d, h_start, h_end⟩ := ih h
        exact ⟨d, .down h_name h_at h_start, h_end⟩
      | stop => exact absurd rfl h_more
  · rintro ⟨d, h_start, h_end⟩
    exact h_start.trans h_end

/-! ### Paths -/

/-- Where a path starts. -/
def start (t : FileTree) (path : String) : Place :=
  if Path.isAbsolute path then [] else t.workingDir

/-- A path leads to a place, where something stands or nothing. -/
def LeadsTo (t : FileTree) (path : String) (q : Place) (n : Option FileNode) : Prop :=
  t.Leads (t.start path) (Path.parts path) q n

theorem LeadsTo.unique {path : String} {q q' : Place} {n n' : Option FileNode}
    (h : t.LeadsTo path q n) (h' : t.LeadsTo path q' n') : q = q' ∧ n = n' := Leads.unique h h'

/-- The system takes a path: there is one, it has no mark of its end inside, and it is not too
long. -/
structure IsTaken (path : String) : Prop where
  noEnd : ¬ path.toList.contains '\x00' = true
  nonempty : path ≠ ""
  short : ¬ path.utf8ByteSize ≥ pathLimit

/-- A path is resolved exactly if the system takes it, and to where it leads. -/
theorem resolve_eq_ok_iff {path : String} {q : Place} {n : Option FileNode} :
    t.resolve path = .ok (q, n) ↔ IsTaken path ∧ t.LeadsTo path q n := by
  rw [resolve]
  split
  · next h => exact iff_of_false nofun (fun h' => h'.1.noEnd h)
  split
  · next h => exact iff_of_false nofun (fun h' => h'.1.nonempty h)
  split
  · next h => exact iff_of_false nofun (fun h' => h'.1.short h)
  next h_end h_empty h_long =>
  rw [and_iff_right ⟨h_end, h_empty, h_long⟩]
  exact follow_eq_ok_iff

/-- A name below a base is reached in two steps: the base leads to a directory. -/
theorem leadsTo_join_iff (base : String) {name : String} (h : '/' ∉ name.toList) {q : Place}
    {n : Option FileNode} :
    t.LeadsTo (Path.join base name) q n ↔
      ∃ d, t.LeadsTo base d (some .directory) ∧ t.Leads d [name] q n := by
  have h_start : t.start (Path.join base name) = t.start base := by
    rw [start, Path.isAbsolute_join base h, start]
  have h_name : [name] ≠ [] := List.cons_ne_nil name []
  unfold LeadsTo
  rw [h_start]
  rcases Path.parts_join base h with h_parts | ⟨ps, h_parts, h_join⟩
  · rw [h_parts, leads_append_iff h_name]
  · -- The empty part at the end of the base may as well stand in front of the name.
    rw [h_join, h_parts, leads_append_iff h_name]
    constructor
    · rintro ⟨d, h_base, h_end⟩
      exact ⟨d, h_base.trans (.idle (.inl rfl) (.here d)), h_end⟩
    · rintro ⟨d, h_base, h_end⟩
      obtain ⟨d', h_base, h_idle⟩ := (leads_append_iff (List.cons_ne_nil "" [])).mp h_base
      obtain rfl : d = d' := h_idle.eq_enter
      exact ⟨d, h_base, h_end⟩

/-- From a base that leads to a directory, a name leads to the place of that name in it. -/
theorem LeadsTo.eq_of_join {base name : String} (h_name : IsName name) (h : '/' ∉ name.toList)
    {d q : Place} {n : Option FileNode} (h_base : t.LeadsTo base d (some .directory))
    (h_join : t.LeadsTo (Path.join base name) q n) : q = d ++ [name] := by
  obtain ⟨d', h_base', h_last⟩ := (leadsTo_join_iff base h).mp h_join
  obtain rfl : d' = d := (h_base'.unique h_base).1
  exact h_last.eq_enter.trans (enter_of_isName h_name)

end FileTree

end PolicyTrial
