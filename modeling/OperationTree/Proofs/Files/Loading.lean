import OperationTree.Files.Load

namespace OperationTree

namespace FileSystem

variable {φ α : Type} {fs : FileSystem} {parse : String → Except φ α} {path : Path}

/-- The file can be read and taken for `a`. -/
def Reads (fs : FileSystem) (parse : String → Except φ α) (path : Path) (a : α) : Prop :=
  ∃ text, fs.read path = .ok text ∧ parse text = .ok a

/-- The file cannot be read, or its text is refused. -/
def Fails (fs : FileSystem) (parse : String → Except φ α) (path : Path) : Prop :=
  (∃ e, fs.read path = .error e) ∨ ∃ text fault, fs.read path = .ok text ∧ parse text = .error fault

theorem reads_of_not_fails (sound : ¬ fs.Fails parse path) : ∃ a, fs.Reads parse path a := by
  cases read : fs.read path with
  | error e => exact absurd (.inl ⟨e, read⟩) sound
  | ok text =>
    cases parsed : parse text with
    | error fault => exact absurd (.inr ⟨text, fault, read, parsed⟩) sound
    | ok a => exact ⟨a, text, read, parsed⟩

theorem Reads.unique {a b : α} (reads : fs.Reads parse path a) (also : fs.Reads parse path b) :
    a = b := by
  obtain ⟨text, read, parsed⟩ := reads
  obtain ⟨again, reread, reparsed⟩ := also
  cases Except.ok.inj (read.symm.trans reread)
  exact Except.ok.inj (parsed.symm.trans reparsed)

theorem Reads.not_fails {a : α} (reads : fs.Reads parse path a) : ¬ fs.Fails parse path := by
  obtain ⟨text, read, parsed⟩ := reads
  rintro (⟨e, unread⟩ | ⟨again, fault, reread, refused⟩)
  · cases read.symm.trans unread
  · cases Except.ok.inj (read.symm.trans reread)
    cases parsed.symm.trans refused

/-- What comes of loading a file: the value that it holds, or a reason why it holds none. -/
def Loads (fs : FileSystem) (parse : String → Except φ α) (path : Path)
    (blame : String → WalkError) (loaded : Except WalkError α) : Prop :=
  (∃ a, fs.Reads parse path a ∧ loaded = .ok a) ∨
    (fs.Fails parse path ∧ ∃ reason, loaded = .error (blame reason))

variable {blame : String → WalkError} {loaded : Except WalkError α}

theorem Loads.ok_iff (loads : fs.Loads parse path blame loaded) {a : α} :
    loaded = .ok a ↔ fs.Reads parse path a := by
  rcases loads with ⟨b, reads, rfl⟩ | ⟨fails, reason, rfl⟩
  · rw [Except.ok.injEq]
    exact ⟨fun same => same ▸ reads, reads.unique⟩
  · exact ⟨nofun, fun reads => absurd fails reads.not_fails⟩

theorem Loads.error_iff (loads : fs.Loads parse path blame loaded) :
    (∃ reason, loaded = .error (blame reason)) ↔ fs.Fails parse path := by
  rcases loads with ⟨b, reads, rfl⟩ | ⟨fails, reason, rfl⟩
  · exact ⟨nofun, fun fails => absurd fails reads.not_fails⟩
  · exact ⟨fun _ => fails, fun _ => ⟨reason, rfl⟩⟩

variable (fs parse path blame) in
theorem loads_of_read (unread : ReadError → String) (refused : String → φ → String) :
    fs.Loads parse path blame
      (match fs.read path with
      | .error e => .error (blame (unread e))
      | .ok text => (parse text).mapError fun fault => blame (refused text fault)) := by
  cases read : fs.read path with
  | error e => exact .inr ⟨.inl ⟨e, read⟩, _, rfl⟩
  | ok text =>
    cases parsed : parse text with
    | error fault =>
      exact .inr ⟨.inr ⟨text, fault, read, parsed⟩, _, congrArg (Except.mapError _) parsed⟩
    | ok a => exact .inl ⟨a, ⟨text, read, parsed⟩, congrArg (Except.mapError _) parsed⟩

end FileSystem

theorem Operation.loads (fs : FileSystem) (path : Path) :
    fs.Loads ofText path (.load · path.text) (load fs path) :=
  fs.loads_of_read ofText path (.load · path.text) _ _

theorem Config.loads (fs : FileSystem) (path : Path) :
    fs.Loads ofText path (.config · path.text) (load fs path) :=
  fs.loads_of_read ofText path (.config · path.text) _ _

end OperationTree
