import Mathlib
import ReactionLedger.Logging.Root
import ReactionLedger.Settings

set_option autoImplicit false

namespace ReactionLedger

theorem LogLevel.name_of_read {source : String} {l : LogLevel} (known : read source = some l) :
    (Text.trim source).toList.map capital = l.name.toList := by
  have same := List.find?_some known
  exact (beq_iff_eq.mp same).symm

namespace Settings

theorem name_of_readLevel {source : String} {l : LogLevel} (known : readLevel source = .ok l) :
    (Text.trim source).toList.map LogLevel.capital = l.name.toList := by
  unfold readLevel at known
  split at known
  next found =>
    obtain rfl := Except.ok.inj known
    exact LogLevel.name_of_read found
  next => cases known

def bindings (env : Environment) : Option String → List EnvFile.Binding
  | some source => EnvFile.read env source
  | none => []

structure Levelled (env : Environment) (file : Option String) (l : LogLevel) : Prop where
  bound : ∀ source ∈ bound? env (bindings env file) Variable.logLevel,
    readLevel source = .ok l ∧ (Text.trim source).toList.map LogLevel.capital = l.name.toList
  unbound : bound? env (bindings env file) Variable.logLevel = none → l = .info

theorem setting_of_load {env : Environment} {file : Option String} {s : Settings}
    (loaded : load env file = .ok s) :
    setting Variable.logLevel readLevel (.ok .info)
      (bound? env (bindings env file) Variable.logLevel) = .ok s.logLevel := by
  unfold load at loaded
  dsimp only at loaded
  split at loaded
  next level =>
    obtain rfl := Except.ok.inj loaded
    cases file <;> exact level
  next => cases loaded

theorem levelled_of_load {env : Environment} {file : Option String} {s : Settings}
    (loaded : load env file = .ok s) : Levelled env file s.logLevel := by
  have made := setting_of_load loaded
  constructor
  · intro source bound
    rw [Option.mem_def.mp bound] at made
    cases known : readLevel source with
    | error o =>
      rw [setting, known] at made
      cases made
    | ok l =>
      rw [setting, known] at made
      obtain rfl := Except.ok.inj made
      exact ⟨rfl, name_of_readLevel known⟩
  · intro unbound
    rw [unbound] at made
    exact (Except.ok.inj made).symm

end Settings

namespace LogRoot

def asked (settings level : Value) : Except Failure Int :=
  levelOf (if isVoid level then settings else level)

inductive Known : Value → Int → Prop
  | switch (b : Bool) : Known (.bool b) (if b then 1 else 0)
  | number (n : Int) : Known (.int n) n
  | name {s : String} {n : Int} (listed : levels.lookup s = some n) : Known (.text s) n

theorem levelOf_eq_ok_iff (v : Value) (n : Int) : levelOf v = .ok n ↔ Known v n := by
  constructor
  · intro taken
    unfold levelOf at taken
    split at taken
    next b =>
      obtain rfl := Except.ok.inj taken
      exact .switch b
    next =>
      obtain rfl := Except.ok.inj taken
      exact .number _
    next =>
      split at taken
      next listed =>
        obtain rfl := Except.ok.inj taken
        exact .name listed
      next => cases taken
    next => cases taken
  · rintro (b | n | listed)
    · rfl
    · rfl
    · simp only [levelOf, listed]

theorem levelOf_name (l : LogLevel) : levelOf (.text l.name) = .ok l.number := by
  cases l <;> rfl

def handled (root : LogRoot) : List (Option String) :=
  if root.handlers.isEmpty then [some format] else root.handlers

theorem handlers_prefix_handled (root : LogRoot) : root.handlers <+: root.handled := by
  unfold handled
  split
  next empty =>
    rw [List.isEmpty_iff.mp empty]
    exact List.nil_prefix
  next => exact List.prefix_rfl

theorem length_handled (root : LogRoot) : root.handled.length = max root.handlers.length 1 := by
  unfold handled
  split
  next empty =>
    rw [List.isEmpty_iff.mp empty]
    rfl
  next full =>
    have := List.length_pos_iff.mpr fun empty => full (List.isEmpty_iff.mpr empty)
    omega

theorem handled_handled (root : LogRoot) (level : Int) :
    (⟨level, root.handled⟩ : LogRoot).handled = root.handled := by
  have full : root.handled ≠ [] := by
    rw [← List.length_pos_iff, length_handled]
    omega
  rw [handled, if_neg (by simpa using full)]

theorem configure_eq (root : LogRoot) (settings level : Value) :
    root.configure settings level = ((asked settings level).map fun _ => (),
      ⟨(asked settings level).toOption.getD root.level, root.handled⟩) := by
  have handlers : (if root.handlers.isEmpty then { root with handlers := [some format] } else root)
      = ⟨root.level, root.handled⟩ := by
    unfold handled
    split <;> rfl
  rw [configure, handlers]
  dsimp only
  rw [← asked]
  cases asked settings level <;> rfl

theorem configure_void (root : LogRoot) (l : LogLevel) {level : Value}
    (void : isVoid level = true) :
    root.configure (.text l.name) level = (.ok (), ⟨l.number, root.handled⟩) := by
  have taken : asked (.text l.name) level = .ok l.number := by
    rw [asked, if_pos void, levelOf_name]
  rw [configure_eq, taken]
  rfl

def lastLevel (settings : Value) (before : Int) (levels : List Value) : Int :=
  (levels.filterMap fun level => (asked settings level).toOption).getLast?.getD before

theorem lastLevel_cons (settings : Value) (before : Int) (level : Value) (levels : List Value) :
    lastLevel settings before (level :: levels) =
      lastLevel settings ((asked settings level).toOption.getD before) levels := by
  rw [lastLevel, lastLevel, List.filterMap_cons]
  cases (asked settings level).toOption with
  | none => rfl
  | some n => rw [List.getLast?_cons, Option.getD_some, Option.getD_some]

theorem lastLevel_concat_of_refused {settings level : Value} {e : Failure} (before : Int)
    (levels : List Value) (refused : asked settings level = .error e) :
    lastLevel settings before (levels ++ [level]) = lastLevel settings before levels := by
  have none : [level].filterMap (fun level => (asked settings level).toOption) = [] := by
    rw [List.filterMap_cons, refused]
    rfl
  rw [lastLevel, List.filterMap_append, none, List.append_nil, lastLevel]

theorem getElem?_configureAll (settings : Value) (root : LogRoot) (levels : List Value) (i : Nat) :
    (configureAll settings root levels)[i]? = levels[i]?.map fun level =>
      ((asked settings level).map fun _ => (),
        ⟨lastLevel settings root.level (levels.take (i + 1)), root.handled⟩) := by
  -- the next call finds a root that is handled already, so that its handlers stay as they are
  induction levels generalizing root i with
  | nil => rfl
  | cons level levels ih =>
    rw [configureAll, configure_eq]
    cases i with
    | zero =>
      rw [List.getElem?_cons_zero, List.getElem?_cons_zero, Option.map_some, List.take_succ_cons,
        List.take_zero, lastLevel_cons]
      rfl
    | succ i =>
      rw [List.getElem?_cons_succ, List.getElem?_cons_succ, ih, List.take_succ_cons, lastLevel_cons,
        handled_handled]

theorem length_configureAll (settings : Value) (root : LogRoot) (levels : List Value) :
    (configureAll settings root levels).length = levels.length := by
  induction levels generalizing root with
  | nil => rfl
  | cons level levels ih => exact congrArg (· + 1) (ih _)

structure Course (settings : Value) (root : LogRoot) (levels : List Value)
    (calls : List (Except Failure Unit × LogRoot)) : Prop where
  length : calls.length = levels.length
  handlers : ∀ call ∈ calls, call.2.handlers = root.handled ∧
    root.handlers <+: call.2.handlers ∧ call.2.handlers.length = max root.handlers.length 1
  level : ∀ (i : Nat) (call : Except Failure Unit × LogRoot), calls[i]? = some call →
    call.2.level = lastLevel settings root.level (levels.take (i + 1))
  accepted : ∀ (i : Nat) (level : Value) (call : Except Failure Unit × LogRoot),
    levels[i]? = some level → calls[i]? = some call →
      (call.1 = .ok () ↔ ∃ n, Known (if isVoid level then settings else level) n)
  refused : ∀ (i : Nat) (e : Failure) (call : Except Failure Unit × LogRoot),
    calls[i]? = some call → call.1 = .error e →
      call.2.level = lastLevel settings root.level (levels.take i)

theorem course_configureAll (settings : Value) (root : LogRoot) (levels : List Value) :
    Course settings root levels (configureAll settings root levels) := by
  have each {i : Nat} {call : Except Failure Unit × LogRoot}
      (there : (configureAll settings root levels)[i]? = some call) : ∃ level,
      levels[i]? = some level ∧ ((asked settings level).map fun _ => (),
        ⟨lastLevel settings root.level (levels.take (i + 1)), root.handled⟩) = call := by
    rw [getElem?_configureAll] at there
    exact Option.map_eq_some_iff.mp there
  constructor
  case length => exact length_configureAll settings root levels
  case handlers =>
    intro call mem
    obtain ⟨i, there⟩ := List.mem_iff_getElem?.mp mem
    obtain ⟨_, -, rfl⟩ := each there
    exact ⟨rfl, root.handlers_prefix_handled, root.length_handled⟩
  case level =>
    intro i call there
    obtain ⟨_, -, rfl⟩ := each there
    rfl
  case accepted =>
    intro i level call at' there
    obtain ⟨level', at'', rfl⟩ := each there
    obtain rfl := Option.some.inj (at'.symm.trans at'')
    simp only [← levelOf_eq_ok_iff]
    rw [← asked]
    cases asked settings level <;> simp [Except.map]
  case refused =>
    intro i e call there failed
    obtain ⟨level, at', rfl⟩ := each there
    have refused : asked settings level = .error e := by
      cases taken : asked settings level with
      | ok n =>
        rw [taken] at failed
        cases failed
      | error e' =>
        rw [taken] at failed
        obtain rfl := Except.error.inj failed
        rfl
    dsimp only
    rw [List.take_add_one, at', Option.toList_some, lastLevel_concat_of_refused _ _ refused]

/-- Settings that load ask for a level that every root takes, and a run of configurations adds at
most one handler. -/
theorem configuring_with_loaded_settings {env : Settings.Environment} {file : Option String}
    {s : Settings} (loaded : Settings.load env file = .ok s) :
    Settings.Levelled env file s.logLevel ∧
      Settings.readLevel s.logLevel.name = .ok s.logLevel ∧
      (∀ root level, isVoid level = true → configure root (.text s.logLevel.name) level =
        (.ok (), ⟨s.logLevel.number, root.handled⟩)) ∧
      ∀ settings root levels, Course settings root levels (configureAll settings root levels) :=
  ⟨Settings.levelled_of_load loaded, Settings.readLevel_name s.logLevel,
    fun root _ void => configure_void root s.logLevel void, course_configureAll⟩

namespace Chatty

def env : Settings.Environment := [("LOG_LEVEL", " debug "), ("DATABASE_URL", "sqlite://")]

def file : String := "LOG_LEVEL=error\n"

def settings : Settings := ⟨"comment_reactions", "sqlite://", false, 60, .debug⟩

def levels : List Value := [.text "chatty", .null, .int 35, .text "loud"]

def calls : List (Except Failure Unit × LogRoot) :=
  configureAll (.text settings.logLevel.name) (start 0) levels

theorem refused_at_both_ends : Settings.load env (some file) = .ok settings ∧
    calls.map (fun call => (call.1.isOk, call.2.level)) =
      [(false, 30), (true, 10), (true, 35), (false, 35)] ∧
    ∀ call ∈ calls, call.2.handlers = [some format] := by
  have loaded : Settings.load env (some file) = .ok settings := by cbv
  obtain ⟨-, -, -, course⟩ := configuring_with_loaded_settings loaded
  refine ⟨loaded, by decide +kernel, fun call mem => ?_⟩
  exact ((course (.text settings.logLevel.name) (start 0) levels).handlers call mem).1

end Chatty

end LogRoot

end ReactionLedger
