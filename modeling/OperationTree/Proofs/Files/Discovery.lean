import Mathlib.Data.List.Basic
import OperationTree.Proofs.Files.Loading

/-!
Where the settings file comes from. The search climbs from directory to directory and stops at the
first that has the file or a repository; so it finds the nearest file that no repository below it
hides.
-/

namespace OperationTree

namespace Path

def parent? (p : Path) : Option Path :=
  match p.segments.dropWhile isIdle with
  | [] => none
  | _ :: rest => some { p with segments := rest.dropWhile isIdle }

/-- The way up from one directory to another: the directories that are left on it, in order. -/
inductive Climbs : Path → List Path → Path → Prop
  | stay (d : Path) : Climbs d [] d
  | up {d above top : Path} {passed : List Path} (parent : d.parent? = some above)
      (onward : Climbs above passed top) : Climbs d (d :: passed) top

theorem above_dropWhile (segments : List String) :
    above (segments.dropWhile isIdle) = above segments := by
  induction segments with
  | nil => rfl
  | cons segment rest ih =>
    rw [List.dropWhile_cons]
    split
    · next idle => rw [ih, above, if_pos idle]
    · rfl

theorem proper_of_dropWhile {segments outer : List String} {segment : String}
    (rest : segments.dropWhile isIdle = segment :: outer) : isIdle segment = false := by
  have stops := List.head?_dropWhile_not isIdle segments
  rw [rest] at stops
  simpa using stops

theorem ancestors_eq (p : Path) : p.ancestors = p :: p.parent?.elim [] ancestors := by
  unfold ancestors parent?
  rw [← above_dropWhile p.segments]
  cases rest : p.segments.dropWhile isIdle with
  | nil => rfl
  | cons segment outer => simp [above, proper_of_dropWhile rest, above_dropWhile]

def rank (p : Path) : Nat := p.segments.countP fun segment => !isIdle segment

theorem rank_le (p : Path) : p.rank ≤ p.segments.length := List.countP_le_length

theorem countP_dropWhile (segments : List String) :
    (segments.dropWhile isIdle).countP (fun segment => !isIdle segment) =
      segments.countP fun segment => !isIdle segment := by
  induction segments with
  | nil => rfl
  | cons segment rest ih =>
    rw [List.dropWhile_cons]
    split
    · next idle => simp [ih, idle]
    · rfl

theorem parent_eq_some {p above : Path} (parent : p.parent? = some above) :
    above.absolute = p.absolute ∧ p.rank = above.rank + 1 := by
  unfold parent? at parent
  split at parent
  · cases parent
  · next segment outer rest =>
    cases parent
    have proper := proper_of_dropWhile rest
    have count := countP_dropWhile p.segments
    rw [rest, List.countP_cons, if_pos (by simp [proper])] at count
    refine ⟨rfl, ?_⟩
    rw [rank, ← count, rank, countP_dropWhile]

theorem Climbs.rank_eq {d top : Path} {passed : List Path} (climbs : d.Climbs passed top) :
    d.rank = top.rank + passed.length := by
  induction climbs with
  | stay d => rfl
  | up parent _ ih =>
    rw [(parent_eq_some parent).2, ih, List.length_cons]
    omega

theorem Climbs.unique {d top other : Path} {passed others : List Path}
    (climbs : d.Climbs passed top) (also : d.Climbs others other)
    (same : top.rank = other.rank) : top = other := by
  induction climbs generalizing others with
  | stay d =>
    have size := also.rank_eq
    cases also with
    | stay _ => rfl
    | up _ _ =>
      rw [List.length_cons] at size
      omega
  | up parent onward ih =>
    have size := onward.rank_eq
    cases also with
    | stay _ =>
      have higher := (parent_eq_some parent).2
      omega
    | up again further =>
      cases parent.symm.trans again
      exact ih further same

theorem join_absolute (base : Path) {p : Path} (absolute : p.absolute = true) : base.join p = p :=
  if_pos absolute

def entry (d : Path) (name : String) : Path := d.join ⟨false, [name]⟩

theorem rank_entry (d : Path) {name : String} (proper : isIdle name = false) :
    (d.entry name).rank = d.rank + 1 := by
  unfold entry join rank
  rcases d with ⟨absolute, segments⟩
  cases segments with
  | nil => simp [proper]
  | cons segment rest =>
    by_cases blank : segment = ""
    · have idle : isIdle "" = true := rfl
      subst blank
      simp [proper, idle]
    · simp [List.countP_cons, proper, blank]

end Path

namespace Config

open OperationTree.Path

def settingsIn (d : Path) : Path := d.entry fileName

def repositoryIn (d : Path) : Path := d.entry ".git"

def Passable (fs : FileSystem) (d : Path) : Prop :=
  fs.isRegular (settingsIn d) = false ∧ fs.isPresent (repositoryIn d) = false

instance (fs : FileSystem) (d : Path) : Decidable (Passable fs d) :=
  inferInstanceAs (Decidable (_ ∧ _))

/-- The search from a directory on, with the number of its rounds and its result. A round looks for
the settings file, then for a repository, and then goes one directory up. -/
inductive Seeks (fs : FileSystem) : Path → Nat → Option Path → Prop
  | found {d : Path} (here : fs.isRegular (settingsIn d) = true) :
      Seeks fs d 1 (some (settingsIn d))
  | bounded {d : Path} (missing : fs.isRegular (settingsIn d) = false)
      (repository : fs.isPresent (repositoryIn d) = true) : Seeks fs d 1 none
  | top {d : Path} (clear : Passable fs d) (root : d.parent? = none) : Seeks fs d 1 none
  | up {d above : Path} {rounds : Nat} {result : Option Path} (clear : Passable fs d)
      (parent : d.parent? = some above) (later : Seeks fs above rounds result) :
      Seeks fs d (rounds + 1) result

variable {fs : FileSystem}

theorem locate_eq (fs : FileSystem) {d : Path} (absolute : d.absolute = true) : locate fs d =
    if fs.isRegular (settingsIn d) then some (settingsIn d)
    else if fs.isPresent (repositoryIn d) then none
    else d.parent?.elim none (locate fs) := by
  have file : fs.isFile (settingsIn d) = fs.isRegular (settingsIn d) :=
    congrArg fs.isRegular (join_absolute _ absolute)
  have repository : fs.holds (repositoryIn d) = fs.isPresent (repositoryIn d) :=
    congrArg fs.isPresent (join_absolute _ absolute)
  rw [← file, ← repository, locate, ancestors_eq]
  cases d.parent? <;> rfl

theorem Seeks.locate_eq {d : Path} {rounds : Nat} {result : Option Path}
    (seeks : Seeks fs d rounds result) (absolute : d.absolute = true) : locate fs d = result := by
  induction seeks with
  | found here => rw [Config.locate_eq fs absolute, if_pos here]
  | bounded missing repository => simp [Config.locate_eq fs absolute, missing, repository]
  | top clear root => simp [Config.locate_eq fs absolute, clear.1, clear.2, root]
  | up clear parent _ ih =>
    have higher := ih ((parent_eq_some parent).1.trans absolute)
    simp [Config.locate_eq fs absolute, clear.1, clear.2, parent, higher]

theorem exists_seeks (fs : FileSystem) (d : Path) :
    ∃ rounds result, rounds ≤ d.rank + 1 ∧ Seeks fs d rounds result := by
  cases missing : fs.isRegular (settingsIn d) with
  | true => exact ⟨1, _, by omega, .found missing⟩
  | false =>
    cases free : fs.isPresent (repositoryIn d) with
    | true => exact ⟨1, none, by omega, .bounded missing free⟩
    | false =>
      cases parent : d.parent? with
      | none => exact ⟨1, none, by omega, .top ⟨missing, free⟩ parent⟩
      | some above =>
        have higher := (parent_eq_some parent).2
        obtain ⟨rounds, result, few, later⟩ := exists_seeks fs above
        exact ⟨rounds + 1, result, by omega, .up ⟨missing, free⟩ parent later⟩
termination_by d.rank
decreasing_by omega

/-- The directory is the one that the search starts in or lies above it, it has a settings file,
and nothing on the way to it ends the search. Whether it holds a repository as well does not
matter. -/
def Nearest (fs : FileSystem) (start d : Path) : Prop :=
  ∃ passed, start.Climbs passed d ∧ fs.isRegular (settingsIn d) = true ∧ ∀ e ∈ passed, Passable fs e

theorem Nearest.seeks {start d : Path} (nearest : Nearest fs start d) :
    ∃ rounds, Seeks fs start rounds (some (settingsIn d)) := by
  obtain ⟨passed, climbs, here, clear⟩ := nearest
  induction climbs with
  | stay d => exact ⟨1, .found here⟩
  | up parent _ ih =>
    rw [List.forall_mem_cons] at clear
    obtain ⟨rounds, later⟩ := ih here clear.2
    exact ⟨rounds + 1, .up clear.1 parent later⟩

theorem Seeks.nearest {start : Path} {rounds : Nat} {result : Option Path}
    (seeks : Seeks fs start rounds result) {file : Path} (found : result = some file) :
    ∃ d, Nearest fs start d ∧ file = settingsIn d := by
  induction seeks with
  | @found d here => exact ⟨d, ⟨[], .stay d, here, nofun⟩, (Option.some.inj found).symm⟩
  | bounded _ _ => cases found
  | top _ _ => cases found
  | up clear parent _ ih =>
    obtain ⟨d, ⟨passed, climbs, here, onward⟩, same⟩ := ih found
    exact ⟨d, ⟨_, .up parent climbs, here, List.forall_mem_cons.mpr ⟨clear, onward⟩⟩, same⟩

theorem locate_of_nearest {start d : Path} (absolute : start.absolute = true)
    (nearest : Nearest fs start d) : locate fs start = some (settingsIn d) := by
  obtain ⟨rounds, seeks⟩ := nearest.seeks
  exact seeks.locate_eq absolute

theorem nearest_of_locate {start file : Path} (absolute : start.absolute = true)
    (found : locate fs start = some file) : ∃ d, Nearest fs start d ∧ file = settingsIn d := by
  obtain ⟨rounds, result, _, seeks⟩ := exists_seeks fs start
  exact seeks.nearest ((seeks.locate_eq absolute).symm.trans found)

theorem eq_of_settingsIn {start d e : Path} {passed others : List Path}
    (climbs : start.Climbs passed d) (also : start.Climbs others e)
    (same : settingsIn d = settingsIn e) : d = e := by
  have ranks := congrArg rank same
  rw [settingsIn, settingsIn, rank_entry d (by decide), rank_entry e (by decide)] at ranks
  exact climbs.unique also (Nat.succ.inj ranks)

theorem locate_iff_nearest {start d : Path} {passed : List Path} (absolute : start.absolute = true)
    (climbs : start.Climbs passed d) :
    locate fs start = some (settingsIn d) ↔ Nearest fs start d := by
  constructor
  · intro found
    obtain ⟨e, nearest, same⟩ := nearest_of_locate absolute found
    have ⟨_, also, _⟩ := nearest
    rw [eq_of_settingsIn climbs also same]
    exact nearest
  · exact locate_of_nearest absolute

theorem locate_eq_none_iff {start : Path} (absolute : start.absolute = true) :
    locate fs start = none ↔ ¬ ∃ d, Nearest fs start d := by
  constructor
  · rintro nothing ⟨d, nearest⟩
    rw [locate_of_nearest absolute nearest] at nothing
    cases nothing
  · intro nowhere
    cases found : locate fs start with
    | none => rfl
    | some file =>
      obtain ⟨d, nearest, _⟩ := nearest_of_locate absolute found
      exact absurd ⟨d, nearest⟩ nowhere

/-- The search from an absolute directory ends, and finds the settings file of a directory on the
way up exactly if that is the nearest one and no repository lies before it. The settings are what
this file holds, and a file that cannot be read or holds none is a fault; where there is no such
file, the settings are the default ones. -/
theorem nearest_settings (fs : FileSystem) {start : Path} (absolute : start.absolute = true) :
    (∃ rounds, rounds ≤ start.segments.length + 1 ∧ Seeks fs start rounds (locate fs start)) ∧
    (∀ passed d, start.Climbs passed d →
      (locate fs start = some (settingsIn d) ↔ Nearest fs start d)) ∧
    (∀ file, locate fs start = some file → ∃ d, Nearest fs start d ∧ file = settingsIn d) ∧
    (locate fs start = none ↔ ¬ ∃ d, Nearest fs start d) ∧
    (∀ d, Nearest fs start d → discover fs start = load fs (settingsIn d) ∧
      (∀ config, discover fs start = .ok config ↔ fs.Reads ofText (settingsIn d) config) ∧
      ((∃ reason, discover fs start = .error (.config reason (settingsIn d).text)) ↔
        fs.Fails ofText (settingsIn d))) ∧
    ((¬ ∃ d, Nearest fs start d) → discover fs start = .ok ⟨256⟩) := by
  refine ⟨?_, fun passed d climbs => locate_iff_nearest absolute climbs,
    fun file found => nearest_of_locate absolute found, locate_eq_none_iff absolute,
    fun d nearest => ?_, fun nowhere => ?_⟩
  · obtain ⟨rounds, result, few, seeks⟩ := exists_seeks fs start
    rw [seeks.locate_eq absolute]
    have segments := rank_le start
    exact ⟨rounds, by omega, seeks⟩
  · have loaded : discover fs start = load fs (settingsIn d) := by
      rw [discover, locate_of_nearest absolute nearest]
    rw [loaded]
    exact ⟨rfl, fun _ => (loads fs _).ok_iff, (loads fs _).error_iff⟩
  · rw [discover, (locate_eq_none_iff absolute).mpr nowhere]
    rfl

/-- A directory that has the file's name is passed over, a repository in the directory of the file
does not matter, and the file above it, which holds no settings, is not looked at. -/
theorem nearest_settings_beside :
    let file (text : String) : FileTree := .file text.toUTF8
    let sub : FileTree := .directory [("opwalk.toml", .directory []), ("deep", .directory [])]
    let repo : FileTree := .directory
      [(".git", .directory []), ("opwalk.toml", file "[walker]\nmax-depth = 12\n"), ("sub", sub)]
    let root : FileTree := .directory [("opwalk.toml", file "depth = 3"), ("repo", repo)]
    let fs := root.fileSystem (Path.ofText "/")
    let start := Path.ofText "/repo/sub/deep"
    start.absolute = true ∧
      (fs.isPresent (Path.ofText "/repo/sub/opwalk.toml") = true ∧
        fs.isPresent (Path.ofText "/repo/.git") = true ∧
        fs.isRegular (Path.ofText "/opwalk.toml") = true) ∧
      locate fs start = some (Path.ofText "/repo/opwalk.toml") ∧
      discover fs start = .ok ⟨12⟩ := by
  intro file sub repo root fs start
  have absolute : start.absolute = true := by decide
  have climbs : start.Climbs [start, Path.ofText "/repo/sub"] (Path.ofText "/repo") :=
    .up (by decide) (.up (by decide) (.stay _))
  have nearest : Nearest fs start (Path.ofText "/repo") := ⟨_, climbs, by decide, by decide⟩
  have place : settingsIn (Path.ofText "/repo") = Path.ofText "/repo/opwalk.toml" := by decide
  have config : ofText "[walker]\nmax-depth = 12\n" = .ok ⟨12⟩ := by decide +kernel
  have stored : fs.Reads ofText (Path.ofText "/repo/opwalk.toml") ⟨12⟩ := ⟨_, rfl, config⟩
  obtain ⟨_, finds, _, _, gives, _⟩ := nearest_settings fs absolute
  have found := (finds _ _ climbs).mpr nearest
  have given := ((gives _ nearest).2.1 ⟨12⟩).mpr (place ▸ stored)
  rw [place] at found
  exact ⟨absolute, by decide, found, given⟩

end Config

end OperationTree
