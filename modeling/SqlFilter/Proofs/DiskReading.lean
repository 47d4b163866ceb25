import SqlFilter.Disk
import SqlFilter.Proofs.Text.Parts

/-!
# Reading back the files that were found

Looking for files goes through the tree, while reading one goes by the text of its path, step by
step.  The path of a file that was found is that of the place that was looked at, with the names on
the way to the file put behind it.  On a well-formed disk, where a name in a directory is one step
and leads to one entry, this path leads back to the file.

## Main results

* `Path.IsName`, `Entry.WellFormed`: names that are steps, and trees that have no others.
* `Path.steps_foldl_join`, `Disk.follow_append`, `Disk.follow_names`: paths with names behind them.
* `Disk.read_of_mem_filesUnder`: a file that was found is there under its path.
-/

namespace SqlFilter

/-! ## Well-formed trees -/

/-- A name that a directory can have for an entry: one step of a path, which leads down. -/
structure Path.IsName (name : String) : Prop where
  ne_empty : name ≠ ""
  ne_here : name ≠ "."
  ne_up : name ≠ ".."
  noSlash : '/' ∉ name.toList

instance (name : String) : Decidable (Path.IsName name) :=
  decidable_of_iff (name ≠ "" ∧ name ≠ "." ∧ name ≠ ".." ∧ '/' ∉ name.toList)
    ⟨fun ⟨hempty, hhere, hup, hslash⟩ => ⟨hempty, hhere, hup, hslash⟩,
      fun h => ⟨h.ne_empty, h.ne_here, h.ne_up, h.noSlash⟩⟩

namespace Entry

mutual
/-- In every directory each name is a step and stands for one entry. -/
def WellFormed : Entry → Prop
  | .file _ => True
  | .directory entries => (entries.map Prod.fst).Nodup ∧ WellFormedAll entries

/-- Every entry of a list has a name that is a step, and is well formed. -/
def WellFormedAll : List (String × Entry) → Prop
  | [] => True
  | entry :: rest => WellFormedNamed entry ∧ WellFormedAll rest

/-- The name is a step, and the entry is well formed. -/
def WellFormedNamed : String × Entry → Prop
  | (name, entry) => Path.IsName name ∧ entry.WellFormed
end

theorem WellFormedAll.of_mem {entries : List (String × Entry)} (h : WellFormedAll entries)
    {name : String} {e : Entry} (hmem : (name, e) ∈ entries) :
    Path.IsName name ∧ e.WellFormed := by
  induction entries with
  | nil => cases hmem
  | cons entry rest ih =>
      rcases List.mem_cons.mp hmem with rfl | hmem
      · exact h.1
      · exact ih h.2 hmem

theorem mem_of_find?_eq_some {name : String} {e : Entry} {entries : List (String × Entry)}
    (h : find? name entries = some e) : (name, e) ∈ entries := by
  induction entries with
  | nil => cases h
  | cons entry rest ih =>
      obtain ⟨n, first⟩ := entry
      rw [find?] at h
      split at h
      · rename_i hn
        cases h
        exact hn ▸ List.mem_cons_self
      · exact List.mem_cons_of_mem _ (ih h)

theorem find?_eq_some_of_mem {entries : List (String × Entry)}
    (hnodup : (entries.map Prod.fst).Nodup) {name : String} {e : Entry}
    (hmem : (name, e) ∈ entries) : find? name entries = some e := by
  induction entries with
  | nil => cases hmem
  | cons entry rest ih =>
      obtain ⟨n, first⟩ := entry
      rw [List.map_cons, List.nodup_cons] at hnodup
      rcases List.mem_cons.mp hmem with heq | hmem
      · cases heq
        exact if_pos rfl
      · have hne : ¬ n = name := fun hn => hnodup.1 (List.mem_map.mpr ⟨(name, e), hmem, hn.symm⟩)
        rw [find?, if_neg hne]
        exact ih hnodup.2 hmem

/-! ## Places in a tree -/

theorem at?_append (names more : List String) : ∀ e : Entry,
    at? (names ++ more) e = (at? names e).bind (at? more) := by
  induction names with
  | nil =>
      intro e
      rw [List.nil_append, at?]
      rfl
  | cons name rest ih =>
      intro e
      cases e with
      | file text => rfl
      | directory entries =>
          rw [List.cons_append, at?, at?, Option.bind_assoc]
          exact congrArg _ (funext ih)

/-- What lies in a well-formed tree is well formed. -/
theorem WellFormed.at? {names : List String} : ∀ {e target : Entry}, e.WellFormed →
    e.at? names = some target → target.WellFormed := by
  induction names with
  | nil =>
      intro e target h hat
      rw [Entry.at?] at hat
      cases hat
      exact h
  | cons name rest ih =>
      intro e target h hat
      cases e with
      | file text => cases hat
      | directory entries =>
          rw [Entry.at?] at hat
          obtain ⟨below, hfind, hrest⟩ := Option.bind_eq_some_iff.mp hat
          exact ih (h.2.of_mem (mem_of_find?_eq_some hfind)).2 hrest

section Listed

variable {names : List String} {text : String}

mutual
/-- **A file that is listed is where its names lead**, and its names are steps. -/
theorem at?_of_mem_files : ∀ {e : Entry}, e.WellFormed → ∀ {names : List String},
    (names, text) ∈ e.files →
      e.at? names = some (.file text) ∧ ∀ name ∈ names, Path.IsName name
  | .file _, _, names, hmem => by
      rw [files, List.mem_singleton] at hmem
      cases hmem
      exact ⟨rfl, fun name hname => by cases hname⟩
  | .directory entries, h, names, hmem => by
      rw [files] at hmem
      obtain ⟨name, rest, e, hentry, rfl, hat, hnames⟩ := exists_of_mem_filesOfAll h.2 hmem
      rw [at?, find?_eq_some_of_mem h.1 hentry]
      exact ⟨hat, hnames⟩

theorem exists_of_mem_filesOfAll : ∀ {entries : List (String × Entry)}, WellFormedAll entries →
    ∀ {names : List String}, (names, text) ∈ filesOfAll entries →
      ∃ name rest e, (name, e) ∈ entries ∧ names = name :: rest ∧
        e.at? rest = some (.file text) ∧ ∀ name ∈ names, Path.IsName name
  | [], _, names, hmem => by
      rw [filesOfAll] at hmem
      cases hmem
  | (name, e) :: rest, h, names, hmem => by
      rw [filesOfAll, List.mem_append] at hmem
      rcases hmem with hmem | hmem
      · obtain ⟨below, hnames, hat, hsteps⟩ := exists_of_mem_filesOf h.1 hmem
        exact ⟨name, below, e, List.mem_cons_self, hnames, hat, hsteps⟩
      · obtain ⟨name', below, e', hentry, hrest⟩ := exists_of_mem_filesOfAll h.2 hmem
        exact ⟨name', below, e', List.mem_cons_of_mem _ hentry, hrest⟩

theorem exists_of_mem_filesOf : ∀ {entry : String × Entry}, WellFormedNamed entry →
    ∀ {names : List String}, (names, text) ∈ filesOf entry →
      ∃ rest, names = entry.1 :: rest ∧ entry.2.at? rest = some (.file text) ∧
        ∀ name ∈ names, Path.IsName name
  | (name, e), h, names, hmem => by
      rw [filesOf, List.mem_map] at hmem
      obtain ⟨⟨below, found⟩, hbelow, hpair⟩ := hmem
      cases hpair
      obtain ⟨hat, hsteps⟩ := at?_of_mem_files h.2 hbelow
      exact ⟨below, rfl, hat, List.forall_mem_cons.mpr ⟨h.1, hsteps⟩⟩
end

end Listed

end Entry

/-! ## Paths with names behind them -/

namespace Path

theorem steps_append_slash (path more : String) :
    steps (path ++ "/" ++ more) = steps path ++ steps more := by
  have hlist : (path ++ "/" ++ more).toList = path.toList ++ '/' :: more.toList := by simp
  simp only [steps, hlist, Text.splitChars_append_cons, List.map_append, List.filter_append]

theorem IsName.steps_eq {name : String} (h : IsName name) : steps name = [name] := by
  simp [steps, Text.splitChars_of_notMem h.noSlash, h.ne_empty]

theorem IsName.endsInSlash_append {name : String} (h : IsName name) (path : String) :
    endsInSlash (path ++ name) = false := by
  have hne : name.toList ≠ [] := by simpa using h.ne_empty
  rw [endsInSlash, String.toList_append, List.getLast?_append_of_ne_nil _ hne]
  refine decide_eq_false fun hlast => h.noSlash (List.mem_of_getLast? hlast)

/-- A path that ends in a slash, without the slash. -/
theorem exists_of_endsInSlash {path : String} (h : endsInSlash path = true) :
    ∃ before, path = before ++ "/" := by
  have hlast : path.toList.getLast? = some '/' := by simpa [endsInSlash] using h
  refine ⟨String.ofList path.toList.dropLast, ?_⟩
  rw [← String.toList_inj, String.toList_append, String.toList_ofList]
  exact (List.dropLast_append_getLast? '/' hlast).symm

/-- A name after a path is one step more, whether the path ends in a slash or not. -/
theorem steps_join {path name : String} (hpath : path ≠ "") (hname : IsName name) :
    steps (join path name) = steps path ++ [name] := by
  unfold join
  split
  · rename_i hslash
    obtain ⟨before, rfl⟩ := exists_of_endsInSlash (hslash.resolve_left hpath)
    have hbefore : steps (before ++ "/") = steps before := by
      have hempty := steps_append_slash before ""
      rwa [String.append_empty, show steps "" = [] from rfl, List.append_nil] at hempty
    rw [steps_append_slash, hbefore, hname.steps_eq]
  · rw [steps_append_slash, hname.steps_eq]

theorem isAbsolute_join {path : String} (hpath : path ≠ "") (name : String) :
    isAbsolute (join path name) = isAbsolute path := by
  have hne : path.toList ≠ [] := by simpa using hpath
  unfold join
  split
  · rw [isAbsolute, String.toList_append, List.head?_append_of_ne_nil _ hne, isAbsolute]
  · rw [isAbsolute, String.toList_append, String.toList_append, List.append_assoc,
      List.head?_append_of_ne_nil _ hne, isAbsolute]

theorem IsName.endsInSlash_join {name : String} (h : IsName name) (path : String) :
    endsInSlash (join path name) = false := by
  unfold join
  split
  · exact h.endsInSlash_append path
  · exact h.endsInSlash_append (path ++ "/")

theorem join_ne_empty {path : String} (hpath : path ≠ "") (name : String) :
    join path name ≠ "" := by
  unfold join
  split <;> simp [hpath]

/-- Names after a path are steps after its steps, from the same start. -/
theorem steps_foldl_join {names : List String} (hnames : ∀ name ∈ names, IsName name) :
    ∀ {path : String}, path ≠ "" →
      names.foldl join path ≠ "" ∧ steps (names.foldl join path) = steps path ++ names ∧
        isAbsolute (names.foldl join path) = isAbsolute path ∧
        (names ≠ [] → endsInSlash (names.foldl join path) = false) := by
  induction names with
  | nil =>
      intro path hpath
      exact ⟨hpath, (List.append_nil _).symm, rfl, fun h => absurd rfl h⟩
  | cons name rest ih =>
      intro path hpath
      rw [List.forall_mem_cons] at hnames
      obtain ⟨hne, hsteps, habsolute, hslash⟩ := ih hnames.2 (join_ne_empty hpath name)
      rw [steps_join hpath hnames.1, List.append_assoc] at hsteps
      rw [isAbsolute_join hpath name] at habsolute
      refine ⟨hne, hsteps, habsolute, fun _ => ?_⟩
      by_cases hrest : rest = []
      · rw [hrest]
        exact hnames.1.endsInSlash_join path
      · exact hslash hrest

end Path

/-! ## Following steps -/

namespace Disk

theorem follow_append (root : Entry) (steps more : List String) : ∀ place : List String,
    follow root place (steps ++ more) =
      match follow root place steps with
      | .error e => .error e
      | .ok reached => follow root reached more := by
  induction steps with
  | nil =>
      intro place
      rfl
  | cons step rest ih =>
      intro place
      rw [List.cons_append, follow, follow]
      split
      · split
        · exact ih place
        · split
          · exact ih place.dropLast
          · split
            · exact ih (place ++ [step])
            · rfl
      · rfl
      · rfl

/-- Names lead down from a place as they do in the tree. -/
theorem follow_names {root : Entry} {names : List String}
    (hnames : ∀ name ∈ names, Path.IsName name) : ∀ {place : List String} {e target : Entry},
    root.at? place = some e → e.at? names = some target →
      follow root place names = .ok (place ++ names) := by
  induction names with
  | nil =>
      intro place e target _ _
      rw [follow, List.append_nil]
  | cons name rest ih =>
      intro place e target hplace htarget
      rw [List.forall_mem_cons] at hnames
      cases e with
      | file text => cases htarget
      | directory entries =>
          rw [Entry.at?] at htarget
          obtain ⟨below, hfind, hrest⟩ := Option.bind_eq_some_iff.mp htarget
          have hbelow : root.at? (place ++ [name]) = some below := by
            rw [Entry.at?_append, hplace, Option.bind_some, Entry.at?, hfind]
            rfl
          rw [follow, hplace]
          simp only [hnames.1.ne_here, hnames.1.ne_up, ↓reduceIte, hfind, Option.isSome_some]
          rw [ih hnames.2 hbelow hrest, List.append_assoc]
          rfl

/-- A path leads where its steps lead; a slash behind them only asks for a directory. -/
theorem follow_of_locate {d : Disk} {path : String} {place : List String}
    (h : d.locate path = .ok place) :
    path ≠ "" ∧ follow d.root (d.origin path) (Path.steps path) = .ok place := by
  unfold locate at h
  split at h
  · cases h
  · rename_i hpath
    refine ⟨hpath, ?_⟩
    split at h
    · rw [follow_append] at h
      split at h
      · cases h
      · rename_i reached hreached
        rw [follow] at h
        split at h
        · rw [if_pos rfl, follow] at h
          cases h
          exact hreached
        · cases h
        · cases h
    · rwa [List.append_nil] at h

theorem exists_place_of_entry {d : Disk} {path : String} {e : Entry} (h : d.entry path = .ok e) :
    ∃ place, d.locate path = .ok place ∧ d.root.at? place = some e := by
  unfold entry at h
  split at h
  · cases h
  · rename_i place hplace
    split at h
    · rename_i found hfound
      cases h
      exact ⟨place, hplace, hfound⟩
    · cases h

theorem read_of_locate {d : Disk} {path text : String} {place : List String}
    (hplace : d.locate path = .ok place) (hfile : d.root.at? place = some (.file text)) :
    d.read path = .ok text := by
  rw [read, entry, hplace]
  simp only [hfile]

/-- **A file that was found is there under its path.** -/
theorem read_of_mem_filesUnder {d : Disk} (hroot : d.root.WellFormed) {path : String}
    {names : List String} {text : String} (h : (names, text) ∈ d.filesUnder path) :
    d.read (names.foldl Path.join path) = .ok text := by
  unfold filesUnder at h
  split at h
  · rename_i e he
    obtain ⟨place, hplace, hat⟩ := exists_place_of_entry he
    obtain ⟨hfile, hnames⟩ := Entry.at?_of_mem_files (hroot.at? hat) h
    have hreached : d.root.at? (place ++ names) = some (.file text) := by
      rw [Entry.at?_append, hat, Option.bind_some, hfile]
    refine read_of_locate ?_ hreached
    by_cases hnone : names = []
    · rw [hnone, List.append_nil]
      exact hplace
    · obtain ⟨hpath, hfollow⟩ := follow_of_locate hplace
      obtain ⟨hne, hsteps, habsolute, hslash⟩ := Path.steps_foldl_join hnames hpath
      rw [locate, if_neg hne, hslash hnone, hsteps, origin, habsolute, ← origin, follow_append,
        follow_append, hfollow]
      simp only [follow_names hnames hat hfile]
      rfl
  · cases h

end Disk

end SqlFilter
