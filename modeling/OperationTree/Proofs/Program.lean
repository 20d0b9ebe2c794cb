import OperationTree.Program
import OperationTree.Proofs.Files.Loading
import OperationTree.Proofs.Settings
import OperationTree.Proofs.Summary
import OperationTree.Proofs.Walk.OutlineLines

/-!
What a run of the program comes to. Of several faults the settings' goes first and the tree's next,
and a sound tree is printed unless it is too high, whatever is to be printed about it.
-/

namespace OperationTree

namespace Program

/-- The file with the settings: the one that is given, or else the nearest one. -/
def settingsFile (fs : FileSystem) (request : Request) : Option Path :=
  match request.config with
  | some file => some (Path.ofText file)
  | none => Config.locate fs fs.directory

/-- There is a settings file, and nothing can be made of it. -/
def SettingsFail (fs : FileSystem) (request : Request) (path : Path) : Prop :=
  settingsFile fs request = some path ∧ fs.Fails Config.ofText path

/-- This is the depth in the settings file, if there is one and it gives any. -/
def SettingsState (fs : FileSystem) (request : Request) (depth : Option UInt32) : Prop :=
  match settingsFile fs request with
  | none => depth = none
  | some path => ∃ text, fs.read path = .ok text ∧ Config.States text depth

def settings (fs : FileSystem) (request : Request) : Except WalkError Config :=
  match settingsFile fs request with
  | none => .ok {}
  | some path => Config.load fs path

theorem settings_of_fail {fs : FileSystem} {request : Request} {path : Path}
    (fail : SettingsFail fs request path) :
    ∃ reason, settings fs request = .error (.config reason path.text) := by
  obtain ⟨reason, failed⟩ := (Config.loads fs path).error_iff.mpr fail.2
  unfold settings
  rw [fail.1]
  exact ⟨reason, failed⟩

theorem settings_of_state {fs : FileSystem} {request : Request} {depth : Option UInt32}
    (states : SettingsState fs request depth) : settings fs request = .ok ⟨depth.getD 256⟩ := by
  unfold SettingsState at states
  unfold settings
  cases file : settingsFile fs request with
  | none =>
    simp only [file] at states
    rw [states]
    rfl
  | some path =>
    simp only [file] at states
    obtain ⟨text, read, states⟩ := states
    exact (Config.loads fs path).ok_iff.mpr ⟨text, read, Config.ofText_of_states states⟩

theorem state_of_not_fail {fs : FileSystem} {request : Request}
    (sound : ¬ ∃ path, SettingsFail fs request path) :
    ∃ depth, SettingsState fs request depth := by
  unfold SettingsState
  cases file : settingsFile fs request with
  | none => exact ⟨none, rfl⟩
  | some path =>
    have readable : ¬ fs.Fails Config.ofText path := fun fails => sound ⟨path, file, fails⟩
    obtain ⟨config, text, read, parsed⟩ := FileSystem.reads_of_not_fails readable
    obtain ⟨depth, states⟩ := Config.states_of_ofText_ok parsed
    exact ⟨depth, text, read, states⟩

def answer (fs : FileSystem) (request : Request) : Except WalkError String := do
  let limit ← (settings fs request).map fun config => request.maxDepth.getD config.maxDepth
  let t ← Operation.load fs (Path.ofText request.file)
  (render request.command limit t).1

/-- The step ends like this, whatever was logged before. -/
def Yields {α : Type} (act : Act α) (answer : Except WalkError α) : Prop :=
  ∀ log, (act.run.run log).1 = answer

theorem yields_bind {α β : Type} {act : Act α} {answer : Except WalkError α} {next : α → Act β}
    {later : α → Except WalkError β} (first : Yields act answer)
    (onward : ∀ a, Yields (next a) (later a)) : Yields (act >>= next) (answer >>= later) := by
  intro log
  rw [run_bind, ← first log]
  rcases act.run.run log with ⟨_ | a, after⟩
  · rfl
  · exact onward a after

theorem yields_continueWith {α : Type} (work : Except WalkError α × List Log.Entry) :
    Yields (continueWith work) work.1 := by
  intro log
  rcases work with ⟨_ | _, entries⟩ <;> rfl

theorem yields_readConfig (fs : FileSystem) (request : Request) :
    Yields (readConfig fs request.config) (settings fs request) := by
  unfold readConfig settings settingsFile
  cases request.config with
  | some file => exact yields_continueWith (Config.load fs (Path.ofText file), [])
  | none =>
    cases Config.locate fs fs.directory with
    | some path => exact yields_continueWith (Config.load fs path, [Log.loadingConfig path.text])
    | none => exact fun _ => rfl

theorem yields_limit (fs : FileSystem) (request : Request) : Yields (limit fs request)
    ((settings fs request).map fun config => request.maxDepth.getD config.maxDepth) :=
  yields_bind (yields_readConfig fs request) fun _ _ => rfl

theorem yields_perform (fs : FileSystem) (request : Request) :
    Yields (perform fs request) (answer fs request) :=
  yields_bind (yields_limit fs request) fun limit =>
    yields_bind (yields_continueWith (Operation.load fs (Path.ofText request.file), []))
      fun t => yields_continueWith (render request.command limit t)

theorem run_perform (fs : FileSystem) (request : Request) :
    ∃ log, (perform fs request).run.run [] = (answer fs request, log) :=
  ⟨_, Prod.ext (yields_perform fs request []) rfl⟩

theorem execute_of_ok {fs : FileSystem} {request : Request} {output : String}
    (answered : answer fs request = .ok output) (logSetting : Option String) :
    ∃ log, execute fs logSetting request = .finished log output := by
  obtain ⟨log, ended⟩ := run_perform fs request
  unfold execute
  rw [ended, answered]
  exact ⟨_, rfl⟩

theorem execute_of_error {fs : FileSystem} {request : Request} {e : WalkError}
    (answered : answer fs request = .error e) (logSetting : Option String) :
    ∃ log, execute fs logSetting request =
      .failed log e.isExhaustion (report fs request.source e) := by
  obtain ⟨log, ended⟩ := run_perform fs request
  unfold execute
  rw [ended, answered]
  exact ⟨_, rfl⟩

/-- The lines that a command prints about a tree. Those of a document write an object of the
numbers, as far as there are 64-bit numbers for them. -/
def Renders (command : Command) (t : Operation) (text : String) : Prop :=
  match command with
  | .walk => text = String.join (((t.preorder 1).map Outline.shortEntry).map (· ++ "\n"))
  | .outline => text = String.join (((t.preorder 1).map Outline.entry).map (· ++ "\n"))
  | .stats false => ∃ s : Stats, s.Exact t ∧ text = String.join (s.lines.map (· ++ "\n"))
  | .stats true => ∃ s : Stats, s.Exact t ∧
    text = String.join (s.documentLines.map (· ++ "\n")) ∧
    (t.size < 2 ^ 64 → Json.IsDocument s.toValue text.toList)

theorem renders_stats {t : Operation} {s : Stats} (exact : s.Exact t) (document : Bool) :
    Renders (.stats document) t (if document then s.toDocument else s.toText) := by
  cases document with
  | false => exact ⟨s, exact, s.toText_eq⟩
  | true =>
    refine ⟨s, exact, Stats.toDocument_eq exact.kinds_ne_nil, fun small => ?_⟩
    rw [← t.length_kinds] at small
    exact exact.isDocument exact.kinds_ne_nil small

theorem render_stats (document : Bool) (limit : UInt32) (t : Operation) :
    (render (.stats document) limit t).1 = ((Stats.gather limit t).mapError WalkError.ofGuard).map
      fun s => if document then s.toDocument else s.toText := rfl

theorem render_of_height_le {limit : UInt32} (limited : limit.toNat < Depth.top)
    (command : Command) {t : Operation} (shallow : t.height ≤ limit.toNat) :
    ∃ text, (render command limit t).1 = .ok text ∧ Renders command t text := by
  cases command with
  | walk =>
    exact ⟨_, Outline.print_of_height_le limited .trace shallow,
      Outline.rendering_eq_of_line Outline.line_trace t⟩
  | outline =>
    exact ⟨_, Outline.print_of_height_le limited .outline shallow,
      Outline.rendering_eq_of_line Outline.line_outline t⟩
  | stats document =>
    rw [render_stats, Stats.gather_of_height_le limited shallow]
    exact ⟨_, rfl, renders_stats (Stats.exact_addAll shallow) document⟩

theorem render_of_reaches {limit : UInt32} (command : Command) {t : Operation}
    (reached : ∀ p ∈ t.preorder 1, Depth.Reaches limit p.2) :
    ∃ text, (render command limit t).1 = .ok text := by
  cases command with
  | walk => exact ⟨_, Outline.print_of_reaches .trace reached⟩
  | outline => exact ⟨_, Outline.print_of_reaches .outline reached⟩
  | stats document =>
    rw [render_stats, Stats.gather_of_reaches reached]
    exact ⟨_, rfl⟩

theorem render_of_lt_height {limit : UInt32} (limited : limit.toNat < Depth.top)
    (command : Command) {t : Operation} (high : limit.toNat < t.height) :
    ∃ e, (render command limit t).1 = .error e ∧ e.isExhaustion = true := by
  cases command with
  | walk =>
    obtain ⟨held, _, failed⟩ := Outline.print_of_lt_height limited .trace high
    exact ⟨_, failed, rfl⟩
  | outline =>
    obtain ⟨held, _, failed⟩ := Outline.print_of_lt_height limited .outline high
    exact ⟨_, failed, rfl⟩
  | stats document =>
    rw [render_stats, Stats.gather_of_lt_height limited high]
    exact ⟨_, rfl, rfl⟩

def code : Except WalkError String → UInt8
  | .ok _ => 0
  | .error e => if e.isExhaustion then 2 else 1

theorem exitCode_execute (fs : FileSystem) (logSetting : Option String) (request : Request) :
    (execute fs logSetting request).exitCode = code (answer fs request) := by
  cases answered : answer fs request with
  | ok output =>
    obtain ⟨log, ended⟩ := execute_of_ok answered logSetting
    rw [ended]
    rfl
  | error e =>
    obtain ⟨log, ended⟩ := execute_of_error answered logSetting
    rw [ended]
    rfl

theorem code_render (command other : Command) (limit : UInt32) (t : Operation) :
    code (render command limit t).1 = code (render other limit t).1 := by
  by_cases limited : limit.toNat < Depth.top
  · by_cases shallow : t.height ≤ limit.toNat
    · obtain ⟨_, first, _⟩ := render_of_height_le limited command shallow
      obtain ⟨_, second, _⟩ := render_of_height_le limited other shallow
      rw [first, second]
      rfl
    · have high := Nat.lt_of_not_le shallow
      obtain ⟨e, first, exhausted⟩ := render_of_lt_height limited command high
      obtain ⟨f, second, again⟩ := render_of_lt_height limited other high
      rw [first, second, code, code, exhausted, again]
  · have unlimited := Nat.le_antisymm (Depth.limit_le_top limit) (Nat.le_of_not_lt limited)
    have reached : ∀ p ∈ t.preorder 1, Depth.Reaches limit p.2 :=
      fun p _ => Depth.reaches_of_top unlimited p.2
    obtain ⟨_, first⟩ := render_of_reaches command reached
    obtain ⟨_, second⟩ := render_of_reaches other reached
    rw [first, second]
    rfl

/-- The run ends with a report of a fault of this sort. -/
def Outcome.Blames (outcome : Outcome) (sort : String) (path : Path) : Prop :=
  outcome.exitCode = 1 ∧ outcome.output = "" ∧ ∃ reason,
    outcome.report = "error[" ++ sort ++ "]: " ++ reason ++ "\n  --> " ++ path.text ++ "\n"

variable {fs : FileSystem} {request : Request}

theorem code_answer {other : Request} (config : other.config = request.config)
    (maxDepth : other.maxDepth = request.maxDepth) (file : other.file = request.file) :
    code (answer fs other) = code (answer fs request) := by
  have same : settings fs other = settings fs request := by
    unfold settings settingsFile
    rw [config]
  unfold answer
  rw [same, maxDepth, file]
  rcases settings fs request with _ | config
  · rfl
  · rcases Operation.load fs (Path.ofText request.file) with _ | t
    · rfl
    · exact code_render _ _ _ t

theorem execute_of_plain (logSetting : Option String) {e : WalkError}
    (answered : answer fs request = .error e) (plain : e.isExhaustion = false)
    (unplaced : ∀ text, Report.usableSpan? text e = none) :
    ∃ log, execute fs logSetting request = .failed log false (Report.plain e) := by
  obtain ⟨log, ended⟩ := execute_of_error answered logSetting
  have shown (text : Option String) (name : String) :
      Report.render text name e = Report.plain e := by
    cases text with
    | none => rfl
    | some text => simp only [Report.render, unplaced]
  refine ⟨log, ?_⟩
  rw [ended, plain]
  simp only [report, shown]

theorem blames_of_settings_fail (logSetting : Option String) {path : Path}
    (fail : SettingsFail fs request path) :
    (execute fs logSetting request).Blames "config" path := by
  obtain ⟨reason, failed⟩ := settings_of_fail fail
  have answered : answer fs request = .error (.config reason path.text) := by
    unfold answer
    rw [failed]
    rfl
  obtain ⟨log, ended⟩ := execute_of_plain logSetting answered rfl fun _ => rfl
  rw [ended]
  exact ⟨rfl, rfl, reason, rfl⟩

theorem blames_of_tree_fails (logSetting : Option String) {config : Config}
    (settled : settings fs request = .ok config)
    (fails : fs.Fails Operation.ofText (Path.ofText request.file)) :
    (execute fs logSetting request).Blames "load" (Path.ofText request.file) := by
  obtain ⟨reason, failed⟩ := (Operation.loads fs _).error_iff.mpr fails
  have answered : answer fs request = .error (.load reason (Path.ofText request.file).text) := by
    unfold answer
    rw [settled, failed]
    rfl
  obtain ⟨log, ended⟩ := execute_of_plain logSetting answered rfl fun _ => rfl
  rw [ended]
  exact ⟨rfl, rfl, reason, rfl⟩

theorem answer_of_reads {config : Config} {t : Operation}
    (settled : settings fs request = .ok config)
    (reads : fs.Reads Operation.ofText (Path.ofText request.file) t) : answer fs request =
      (render request.command (request.maxDepth.getD config.maxDepth) t).1 := by
  unfold answer
  rw [settled, (Operation.loads fs _).ok_iff.mpr reads]
  rfl

section Limit

variable {limit : UInt32} {t : Operation}

theorem execute_of_height_le (limited : limit.toNat < Depth.top) (shallow : t.height ≤ limit.toNat)
    (answered : answer fs request = (render request.command limit t).1)
    (logSetting : Option String) :
    (execute fs logSetting request).exitCode = 0 ∧
      Renders request.command t (execute fs logSetting request).output := by
  obtain ⟨text, printed, renders⟩ := render_of_height_le limited request.command shallow
  obtain ⟨log, ended⟩ := execute_of_ok (answered.trans printed) logSetting
  rw [ended]
  exact ⟨rfl, renders⟩

theorem execute_of_lt_height (limited : limit.toNat < Depth.top) (high : limit.toNat < t.height)
    (answered : answer fs request = (render request.command limit t).1)
    (logSetting : Option String) :
    (execute fs logSetting request).exitCode = 2 ∧
      (execute fs logSetting request).output = "" := by
  obtain ⟨e, failed, exhausted⟩ := render_of_lt_height limited request.command high
  obtain ⟨log, ended⟩ := execute_of_error (answered.trans failed) logSetting
  rw [ended, exhausted]
  exact ⟨rfl, rfl⟩

theorem execute_iff (limited : limit.toNat < Depth.top) (t : Operation)
    (answered : answer fs request = (render request.command limit t).1)
    (logSetting : Option String) :
    let outcome := execute fs logSetting request
    (t.height ≤ limit.toNat ↔ outcome.exitCode = 0 ∧ Renders request.command t outcome.output) ∧
      (limit.toNat < t.height ↔ outcome.exitCode = 2 ∧ outcome.output = "") := by
  intro outcome
  have apart : (0 : UInt8) ≠ 2 := by decide
  by_cases shallow : t.height ≤ limit.toNat
  · have printed := execute_of_height_le limited shallow answered logSetting
    constructor
    · exact ⟨fun _ => printed, fun _ => shallow⟩
    · exact ⟨fun high => absurd shallow (Nat.not_le.mpr high),
        fun failed => absurd (printed.1.symm.trans failed.1) apart⟩
  · have high := Nat.lt_of_not_le shallow
    have failed := execute_of_lt_height limited high answered logSetting
    constructor
    · exact ⟨fun low => absurd low shallow,
        fun printed => absurd (printed.1.symm.trans failed.1) apart⟩
    · exact ⟨fun _ => failed, fun _ => high⟩

end Limit

theorem run_of_accepted {args : List String} (accepted : CommandLine.read args = .accepted request)
    (logSetting : Option String) : run fs logSetting args = execute fs logSetting request := by
  unfold run
  rw [accepted]

/-- Settings that fail are reported whatever else is asked for. If they do not, a tree that fails
is reported, and otherwise the limit decides: the tree is printed unless it is too high. The exit
code is one and the same for all commands. -/
theorem run_outcome (fs : FileSystem) (logSetting : Option String) {args : List String}
    {request : Request} (accepted : CommandLine.read args = .accepted request) :
    let outcome := run fs logSetting args
    let file := Path.ofText request.file
    (∀ path, SettingsFail fs request path → outcome.Blames "config" path) ∧
    ((¬ ∃ path, SettingsFail fs request path) → ∃ depth, SettingsState fs request depth ∧
      (fs.Fails Operation.ofText file → outcome.Blames "load" file) ∧
      (¬ fs.Fails Operation.ofText file → ∃ t, fs.Reads Operation.ofText file t ∧
        let limit := (request.maxDepth.or depth).getD 256
        (limit.toNat < 2 ^ 32 - 1 →
          (t.height ≤ limit.toNat ↔
            outcome.exitCode = 0 ∧ Renders request.command t outcome.output) ∧
          (limit.toNat < t.height ↔ outcome.exitCode = 2 ∧ outcome.output = "")))) ∧
    ∀ logSetting' args' other, CommandLine.read args' = .accepted other →
      other.config = request.config → other.maxDepth = request.maxDepth →
      other.file = request.file → (run fs logSetting' args').exitCode = outcome.exitCode := by
  intro outcome file
  have executed : outcome = execute fs logSetting request := run_of_accepted accepted logSetting
  rw [executed]
  refine ⟨fun path fail => blames_of_settings_fail logSetting fail, ?_, ?_⟩
  · intro sound
    obtain ⟨depth, states⟩ := state_of_not_fail sound
    have settled := settings_of_state states
    refine ⟨depth, states, blames_of_tree_fails logSetting settled, ?_⟩
    intro readable
    obtain ⟨t, reads⟩ := FileSystem.reads_of_not_fails readable
    refine ⟨t, reads, fun limited => ?_⟩
    have answered := answer_of_reads settled reads
    have given : request.maxDepth.getD (depth.getD 256) = (request.maxDepth.or depth).getD 256 := by
      cases request.maxDepth <;> rfl
    rw [given] at answered
    exact execute_iff limited t answered logSetting
  · intro logSetting' args' other also config maxDepth file
    rw [run_of_accepted also, exitCode_execute, exitCode_execute]
    exact code_answer config maxDepth file

/-- The settings of the directory stop a summary of a tree of two levels; a depth on the command
line goes before them and lets a walk of the tree and a document about it through. -/
theorem run_outcome_precedence :
    let fs : FileSystem := {
      directory := Path.ofText "/work"
      readText := fun path =>
        if path.text = "/work/opwalk.toml" then .ok "[walker]\nmax-depth = 1\n"
        else if path.text = "/work/tree.json" then
          .ok "\x7b\"kind\":\"block\",\"children\":[\x7b\"kind\":\"loop\"\x7d]\x7d"
        else .error .notFound
      isRegular := fun path => path.text = "/work/opwalk.toml"
      isPresent := fun _ => true }
    let summary := run fs none ["stats", "tree.json"]
    let walk := run fs none ["walk", "tree.json", "--max-depth", "2"]
    let document := run fs none ["stats", "tree.json", "--json", "--max-depth", "2"]
    summary.exitCode = 2 ∧ summary.output = "" ∧
      walk.exitCode = 0 ∧ walk.output = "Block\n  Loop\n" ∧
      document.exitCode = 0 ∧ document.output =
        "\x7b\n  \"nodes\": 2,\n  \"max_depth\": 2,\n  \"placeholders\": 0,\n" ++
        "  \"kinds\": \x7b\n    \"Block\": 1,\n    \"Loop\": 1\n  \x7d\n\x7d\n" := by
  intro fs summary walk document
  let tree : Operation := ⟨.block, .absent, [⟨.loop, .absent, []⟩]⟩
  have config : Config.ofText "[walker]\nmax-depth = 1\n" = .ok ⟨1⟩ := by decide +kernel
  have place : Config.locate fs fs.directory = some (Path.ofText "/work/opwalk.toml") := by decide
  have settled : fs.Reads Config.ofText (Path.ofText "/work/opwalk.toml") ⟨1⟩ := ⟨_, rfl, config⟩
  have stored : fs.Reads Operation.ofText (Path.ofText "tree.json") tree := ⟨_, rfl, rfl⟩
  have plain : CommandLine.read ["stats", "tree.json"] =
      .accepted { command := .stats false, file := "tree.json" } := by decide
  have deeper : CommandLine.read ["walk", "tree.json", "--max-depth", "2"] =
      .accepted { command := .walk, file := "tree.json", maxDepth := some 2 } := by decide
  have written : CommandLine.read ["stats", "tree.json", "--json", "--max-depth", "2"] =
      .accepted { command := .stats true, file := "tree.json", maxDepth := some 2 } := by decide
  have file (request : Request) (own : request.config = none) :
      settingsFile fs request = some (Path.ofText "/work/opwalk.toml") := by
    unfold settingsFile
    rw [own]
    exact place
  have sound (request : Request) (own : request.config = none) :
      ¬ ∃ path, SettingsFail fs request path := by
    rintro ⟨path, other, fails⟩
    cases other.symm.trans (file request own)
    exact settled.not_fails fails
  have decided {args : List String} {request : Request}
      (accepted : CommandLine.read args = .accepted request) (own : request.config = none)
      (named : request.file = "tree.json") :
      let limit := request.maxDepth.getD 1
      let outcome := run fs none args
      limit.toNat < 2 ^ 32 - 1 →
        (tree.height ≤ limit.toNat ↔
          outcome.exitCode = 0 ∧ Renders request.command tree outcome.output) ∧
        (limit.toNat < tree.height ↔ outcome.exitCode = 2 ∧ outcome.output = "") := by
    obtain ⟨depth, states, _, decided⟩ := (run_outcome fs none accepted).2.1 (sound request own)
    rw [named] at decided
    obtain ⟨t, reads, decided⟩ := decided stored.not_fails
    cases stored.unique reads
    have one : depth.getD 256 = 1 := by
      have known := settings_of_state states
      unfold settings at known
      rw [file request own] at known
      have given := (Config.loads fs _).ok_iff.mpr settled
      exact congrArg Config.maxDepth (Except.ok.inj (known.symm.trans given))
    have limit : (request.maxDepth.or depth).getD 256 = request.maxDepth.getD 1 := by
      rw [← one]
      cases request.maxDepth <;> rfl
    rwa [limit] at decided
  have stopped := (decided plain rfl rfl (by decide)).2.mp (by decide)
  have walked := (decided deeper rfl rfl (by decide)).1.mp (by decide)
  obtain ⟨ended, s, exact, lines, _⟩ := (decided written rfl rfl (by decide)).1.mp (by decide)
  have counted : (⟨2, 2, 0, [("Block", 1), ("Loop", 1)]⟩ : Stats).Exact tree := by
    have shallow : tree.height ≤ (2 : UInt32).toNat := by decide
    exact Stats.exact_addAll shallow
  rw [exact.eq counted] at lines
  exact ⟨stopped.1, stopped.2, walked.1, walked.2, ended, lines⟩

end Program

end OperationTree
