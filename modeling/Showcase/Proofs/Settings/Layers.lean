import Mathlib.Data.List.Forall2
import Showcase.Settings.Basic

/-!
# Layers of the settings

Settings are refused for the first of their faults, and settings without faults have one outcome:
each is what was given at the start, else what the file sets, else its default.
-/

namespace Showcase

/-! ## Names of levels -/

namespace LogLevel

/-- The text is the name of the level, with each letter in any case. -/
def Spelled (level : LogLevel) (text : String) : Prop :=
  List.Forall₂ (fun capital letter => letter = capital ∨ letter = capital.toLower)
    level.name.toList text.toList

variable {level other : LogLevel} {text : String} {capital letter : Char}

theorem mem_all (level : LogLevel) : level ∈ all := by
  cases level <;> decide

theorem name_injective (same : level.name = other.name) : level = other := by
  cases level <;> cases other <;> first | rfl | exact absurd same (by decide)

theorem isUpper_of_mem_name (member : capital ∈ level.name.toList) : capital.isUpper = true := by
  have upper : level.name.toList.all Char.isUpper = true := by cases level <;> decide
  exact List.all_eq_true.mp upper capital member

theorem toUpper_eq_iff (upper : capital.isUpper = true) :
    letter.toUpper = capital ↔ letter = capital ∨ letter = capital.toLower := by
  have upper : capital.val ≥ 'A'.val ∧ capital.val ≤ 'Z'.val := of_decide_eq_true upper
  unfold Char.toUpper Char.toLower
  rw [dif_pos upper]
  simp only [Char.ext_iff]
  split <;> grind

theorem map_toUpper_eq_iff {capitals letters : List Char}
    (upper : ∀ capital ∈ capitals, capital.isUpper = true) :
    capitals = letters.map Char.toUpper ↔
      List.Forall₂ (fun capital letter => letter = capital ∨ letter = capital.toLower)
        capitals letters := by
  induction capitals generalizing letters with
  | nil => cases letters <;> simp
  | cons capital rest ih =>
      cases letters with
      | nil => simp
      | cons letter letters =>
          have first : letter.toUpper = capital ↔ letter = capital ∨ letter = capital.toLower :=
            toUpper_eq_iff (upper capital List.mem_cons_self)
          rw [List.map_cons, List.cons.injEq, List.forall₂_cons, ← first, eq_comm,
            ih fun other member => upper other (List.mem_cons_of_mem _ member)]

theorem name_eq_iff : level.name = String.ofList (text.toList.map Char.toUpper) ↔
    level.Spelled text := by
  rw [Spelled, ← map_toUpper_eq_iff fun _ => isUpper_of_mem_name, ← String.toList_inj,
    String.toList_ofList]

/-- A text is read as the level whose name it is. -/
theorem ofName?_eq_some_iff : ofName? text = some level ↔ level.Spelled text := by
  rw [← name_eq_iff]
  constructor
  · intro found
    have named := List.find?_some found
    exact beq_iff_eq.mp named
  · intro named
    cases found : ofName? text with
    | none => exact absurd (beq_iff_eq.mpr named) (List.find?_eq_none.mp found level level.mem_all)
    | some other =>
        have also := List.find?_some found
        rw [name_injective ((beq_iff_eq.mp also).trans named.symm)]

theorem ofName?_eq_none_iff : ofName? text = none ↔ ∀ level : LogLevel, ¬ level.Spelled text := by
  constructor
  · intro unknown level spelled
    rw [ofName?_eq_some_iff.mpr spelled] at unknown
    cases unknown
  · intro unknown
    cases found : ofName? text with
    | none => rfl
    | some level => exact absurd (ofName?_eq_some_iff.mp found) (unknown level)

end LogLevel

namespace Settings

open Portfolio (Palette)

/-! ## Layers -/

/-- What was given at the start, else what the file sets, else the default. -/
def effective {Value : Type} : (given inFile : Option Value) → (default : Value) → Value
  | some value, _, _ => value
  | none, some value, _ => value
  | none, none, default => default

section

variable {Value : Type} {given inFile : Option Value} {default : Value}

theorem getD_or : (given.or inFile).getD default = effective given inFile default := by
  cases given <;> cases inFile <;> rfl

theorem getD_eq : inFile.getD default = effective none inFile default := by
  cases inFile <;> rfl

theorem or_eq : given.or inFile = effective (given.map some) (inFile.map some) none := by
  cases given <;> cases inFile <;> rfl

end

/-- A setting with a default above zero is zero if the file says so. -/
theorem effective_eq_zero_iff {inFile : Option Nat} {default : Nat} (positive : 0 < default) :
    effective none inFile default = 0 ↔ inFile = some 0 := by
  cases inFile with
  | none => simp [effective, Nat.ne_of_gt positive]
  | some value => simp [effective]

variable {file : FileSettings} {overrides : Overrides} {fault other : Fault}
  {settings : Settings}

def webPath (file : FileSettings) : String := effective none file.server.wsPath "/ws"

def levelName (file : FileSettings) (overrides : Overrides) : String :=
  effective overrides.logLevel file.log.level "info"

/-! ## Faults -/

/-- What is wrong with settings. -/
inductive Faulty (file : FileSettings) (overrides : Overrides) : Fault → Prop where
  | queueCapacity (zero : file.session.queueCapacity = some 0) :
      Faulty file overrides .queueCapacity
  | wsPath (relative : ∀ rest, webPath file ≠ "/" ++ rest) :
      Faulty file overrides (.wsPath (webPath file))
  | logLevel (unknown : ∀ level : LogLevel, ¬ level.Spelled (levelName file overrides)) :
      Faulty file overrides (.logLevel (levelName file overrides))
  | renderInterval (zero : file.session.renderInterval = some 0) :
      Faulty file overrides .sessionTimes
  | readDeadline (zero : file.session.readDeadline = some 0) :
      Faulty file overrides .sessionTimes

/-- The settings that are looked at for faults, by the names that errors give them. -/
def checked : List String := ["session.queue_capacity", "server.ws_path", "log.level", "session"]

/-- The fault is of the setting that is looked at first. -/
structure Foremost (file : FileSettings) (overrides : Overrides) (fault : Fault) : Prop where
  faulty : Faulty file overrides fault
  first : ∀ other, Faulty file overrides other →
    checked.idxOf fault.key ≤ checked.idxOf other.key

theorem isAbsolute_iff : (webPath file).toList.head? = some '/' ↔
    ∃ rest, webPath file = "/" ++ rest := by
  constructor
  · intro slash
    obtain ⟨rest, letters⟩ := List.head?_eq_some_iff.mp slash
    refine ⟨String.ofList rest, String.toList_inj.mp ?_⟩
    rw [letters, String.toList_append]
    simp
  · rintro ⟨rest, path⟩
    rw [path, String.toList_append]
    rfl

/-! ## The outcome -/

attribute [ext] Geometry SessionOptions Settings

/-- Every setting is as its own layers have it. -/
structure Layered (file : FileSettings) (overrides : Overrides) (settings : Settings) : Prop where
  host : settings.host = effective overrides.host file.server.host "0.0.0.0"
  wsPort : settings.wsPort = effective overrides.wsPort file.server.wsPort 8080
  /-- The port zero stands for no raw terminal connections. -/
  tcpPort : ∀ port, settings.tcpPort = some port ↔
    port = effective overrides.tcpPort file.server.tcpPort 23234 ∧ port ≠ 0
  wsPath : settings.wsPath = effective none file.server.wsPath "/ws"
  allowedOrigins : settings.allowedOrigins = effective none file.server.allowedOrigins []
  palette : settings.palette = effective overrides.theme file.theme .cyberpunk
  logLevel : settings.logLevel.Spelled (effective overrides.logLevel file.log.level "info")
  logFile : settings.logFile =
    effective (overrides.logFile.map some) (file.log.file.map some) none
  renderInterval : settings.session.renderInterval =
    effective none file.session.renderInterval 500
  readDeadline : settings.session.readDeadline = effective none file.session.readDeadline 5000
  enqueueWait : settings.session.enqueueWait = effective none file.session.enqueueWait 100
  queueCapacity : settings.session.queueCapacity = effective none file.session.queueCapacity 256
  settleDelay : settings.session.settleDelay = 50
  followUpDelay : settings.session.followUpDelay = 50
  columns : settings.session.geometry.columns = 80
  rows : settings.session.geometry.rows = 24
  tcpColumns : settings.tcpSession.geometry.columns =
    max 1 (min (effective none file.session.columns 80) 1000)
  tcpRows : settings.tcpSession.geometry.rows =
    max 1 (min (effective none file.session.rows 24) 1000)

/-- The settings that layers without faults come to. -/
def settled (file : FileSettings) (overrides : Overrides) (level : LogLevel) : Settings where
  host := (overrides.host.or file.server.host).getD "0.0.0.0"
  wsPort := (overrides.wsPort.or file.server.wsPort).getD 8080
  tcpPort :=
    let port := (overrides.tcpPort.or file.server.tcpPort).getD 23234
    if port = 0 then none else some port
  wsPath := file.server.wsPath.getD "/ws"
  allowedOrigins := file.server.allowedOrigins.getD []
  session := {
    renderInterval := file.session.renderInterval.getD 500
    readDeadline := file.session.readDeadline.getD 5000
    enqueueWait := file.session.enqueueWait.getD 100
    queueCapacity := file.session.queueCapacity.getD 256 }
  tcpGeometry := .clamp (file.session.columns.getD 80) (file.session.rows.getD 24)
  palette := (overrides.theme.or file.theme).getD .cyberpunk
  logLevel := level
  logFile := overrides.logFile.or file.log.file

/-! ## One check after the other -/

theorem queueCapacity_iff : file.session.queueCapacity.getD 256 = 0 ↔
    Faulty file overrides .queueCapacity := by
  rw [getD_eq, effective_eq_zero_iff (by decide)]
  constructor
  · exact .queueCapacity
  · rintro (zero | _)
    exact zero

theorem wsPath_iff : ((file.server.wsPath.getD "/ws").toList.head? != some '/') = true ↔
    Faulty file overrides (.wsPath (webPath file)) := by
  rw [getD_eq, bne_iff_ne, ne_eq, ← webPath, isAbsolute_iff, not_exists]
  constructor
  · exact .wsPath
  · rintro (_ | relative)
    exact relative

theorem logLevel_iff :
    LogLevel.ofName? ((overrides.logLevel.or file.log.level).getD "info") = none ↔
      Faulty file overrides (.logLevel (levelName file overrides)) := by
  rw [getD_or, ← levelName, LogLevel.ofName?_eq_none_iff]
  constructor
  · exact .logLevel
  · rintro (_ | _ | unknown)
    exact unknown

theorem sessionTimes_iff : (decide (file.session.renderInterval.getD 500 = 0) ||
    decide (file.session.readDeadline.getD 5000 = 0)) = true ↔
      Faulty file overrides .sessionTimes := by
  rw [Bool.or_eq_true, decide_eq_true_eq, decide_eq_true_eq, getD_eq, getD_eq,
    effective_eq_zero_iff (by decide), effective_eq_zero_iff (by decide)]
  constructor
  · rintro (zero | zero)
    · exact .renderInterval zero
    · exact .readDeadline zero
  · rintro (_ | _ | _ | zero | zero)
    · exact .inl zero
    · exact .inr zero

/-- All checks in their order. -/
theorem resolve_eq (file : FileSettings) (overrides : Overrides) : resolve file overrides =
    if file.session.queueCapacity.getD 256 = 0 then .error .queueCapacity
    else if (file.server.wsPath.getD "/ws").toList.head? != some '/' then
      .error (.wsPath (file.server.wsPath.getD "/ws"))
    else match LogLevel.ofName? ((overrides.logLevel.or file.log.level).getD "info") with
      | none => .error (.logLevel ((overrides.logLevel.or file.log.level).getD "info"))
      | some level =>
          if decide (file.session.renderInterval.getD 500 = 0) ||
              decide (file.session.readDeadline.getD 5000 = 0) then .error .sessionTimes
          else .ok (settled file overrides level) := by
  unfold resolve
  cases found : LogLevel.ofName? ((overrides.logLevel.or file.log.level).getD "info") with
  | none =>
      simp only [found]
      rfl
  | some level =>
      simp only [found]
      rfl

/-- Without faults the settings are those that the layers come to. -/
theorem resolve_of_faultless (faultless : ∀ fault, ¬ Faulty file overrides fault) :
    ∃ level : LogLevel, level.Spelled (levelName file overrides) ∧
      resolve file overrides = .ok (settled file overrides level) := by
  cases found : LogLevel.ofName? ((overrides.logLevel.or file.log.level).getD "info") with
  | none => exact absurd (logLevel_iff.mp found) (faultless _)
  | some level =>
      refine ⟨level, LogLevel.ofName?_eq_some_iff.mp (by rw [levelName, ← getD_or, found]), ?_⟩
      rw [resolve_eq, if_neg (mt queueCapacity_iff.mp (faultless _)),
        if_neg (mt wsPath_iff.mp (faultless _)), found]
      exact if_neg (mt sessionTimes_iff.mp (faultless _))

/-- The foremost fault is told. -/
theorem resolve_of_foremost (foremost : Foremost file overrides fault) :
    resolve file overrides = .error fault := by
  obtain ⟨faulty, first⟩ := foremost
  have fine (other : Fault) (before : checked.idxOf other.key < checked.idxOf fault.key) :
      ¬ Faulty file overrides other := fun also => Nat.not_le_of_lt before (first other also)
  have capacity before := mt queueCapacity_iff.mp (fine .queueCapacity before)
  have path before := mt wsPath_iff.mp (fine (.wsPath _) before)
  have known before := mt logLevel_iff.mp (fine (.logLevel _) before)
  rw [resolve_eq]
  cases fault with
  | queueCapacity => exact if_pos (queueCapacity_iff.mpr faulty)
  | wsPath name =>
      obtain rfl : name = webPath file := by cases faulty; rfl
      rw [if_neg (capacity (by simp [checked, Fault.key])), if_pos (wsPath_iff.mpr faulty),
        webPath, ← getD_eq]
  | logLevel name =>
      obtain rfl : name = levelName file overrides := by cases faulty; rfl
      rw [if_neg (capacity (by simp [checked, Fault.key])),
        if_neg (path (by simp [checked, Fault.key])), logLevel_iff.mpr faulty, levelName, ← getD_or]
  | sessionTimes =>
      rw [if_neg (capacity (by simp [checked, Fault.key])),
        if_neg (path (by simp [checked, Fault.key]))]
      obtain ⟨level, found⟩ := Option.ne_none_iff_exists'.mp
        (known (by simp [checked, Fault.key]))
      rw [found]
      exact if_pos (sessionTimes_iff.mpr faulty)

/-- Where there are faults, one of them is looked at first. -/
theorem exists_foremost (faulty : Faulty file overrides fault) :
    ∃ fault, Foremost file overrides fault := by
  induction rank : checked.idxOf fault.key using Nat.strongRecOn generalizing fault with
  | ind rank ih =>
      by_cases first : ∀ other, Faulty file overrides other →
          checked.idxOf fault.key ≤ checked.idxOf other.key
      · exact ⟨fault, faulty, first⟩
      · simp only [not_forall, Nat.not_le] at first
        obtain ⟨other, also, before⟩ := first
        exact ih _ (rank ▸ before) also rfl

/-! ## The settings without faults -/

theorem layered_settled {level : LogLevel} (spelled : level.Spelled (levelName file overrides)) :
    Layered file overrides (settled file overrides level) where
  host := getD_or
  wsPort := getD_or
  tcpPort port := by
    rw [← getD_or]
    show (if _ = 0 then none else some _) = some port ↔ _
    split
    · rename_i zero
      simp [zero]
    · rename_i positive
      rw [Option.some.injEq, eq_comm]
      exact ⟨fun same => ⟨same, same ▸ positive⟩, And.left⟩
  wsPath := getD_eq
  allowedOrigins := getD_eq
  palette := getD_or
  logLevel := spelled
  logFile := or_eq
  renderInterval := getD_eq
  readDeadline := getD_eq
  enqueueWait := getD_eq
  queueCapacity := getD_eq
  settleDelay := rfl
  followUpDelay := rfl
  columns := rfl
  rows := rfl
  tcpColumns := by rw [← getD_eq]; rfl
  tcpRows := by rw [← getD_eq]; rfl

/-- The layers leave one outcome only. -/
theorem Layered.unique {first second : Settings} (one : Layered file overrides first)
    (two : Layered file overrides second) : first = second := by
  have port : first.tcpPort = second.tcpPort := by
    apply Option.ext
    intro port
    rw [one.tcpPort, two.tcpPort]
  have level : first.logLevel = second.logLevel := by
    apply Option.some.inj
    rw [← LogLevel.ofName?_eq_some_iff.mpr one.logLevel,
      ← LogLevel.ofName?_eq_some_iff.mpr two.logLevel]
  have geometry : first.session.geometry = second.session.geometry :=
    Geometry.ext (one.columns.trans two.columns.symm) (one.rows.trans two.rows.symm)
  have tcpGeometry : first.tcpGeometry = second.tcpGeometry :=
    Geometry.ext (one.tcpColumns.trans two.tcpColumns.symm) (one.tcpRows.trans two.tcpRows.symm)
  have session : first.session = second.session :=
    SessionOptions.ext (one.renderInterval.trans two.renderInterval.symm)
      (one.settleDelay.trans two.settleDelay.symm) (one.followUpDelay.trans two.followUpDelay.symm)
      (one.readDeadline.trans two.readDeadline.symm)
      (one.queueCapacity.trans two.queueCapacity.symm)
      (one.enqueueWait.trans two.enqueueWait.symm) geometry
  exact Settings.ext (one.host.trans two.host.symm) (one.wsPort.trans two.wsPort.symm) port
    (one.wsPath.trans two.wsPath.symm) (one.allowedOrigins.trans two.allowedOrigins.symm) session
    tcpGeometry (one.palette.trans two.palette.symm) level (one.logFile.trans two.logFile.symm)

/-! ## All outcomes -/

theorem resolve_eq_error_iff :
    resolve file overrides = .error fault ↔ Foremost file overrides fault := by
  constructor
  · intro refused
    by_cases faultless : ∀ fault, ¬ Faulty file overrides fault
    · obtain ⟨level, -, accepted⟩ := resolve_of_faultless faultless
      rw [accepted] at refused
      cases refused
    · simp only [not_forall, not_not] at faultless
      obtain ⟨other, faulty⟩ := faultless
      obtain ⟨first, foremost⟩ := exists_foremost faulty
      rw [resolve_of_foremost foremost] at refused
      cases refused
      exact foremost
  · exact resolve_of_foremost

theorem resolve_eq_ok_iff : resolve file overrides = .ok settings ↔
    (∀ fault, ¬ Faulty file overrides fault) ∧ Layered file overrides settings := by
  constructor
  · intro accepted
    have faultless : ∀ fault, ¬ Faulty file overrides fault := by
      intro fault faulty
      obtain ⟨first, foremost⟩ := exists_foremost faulty
      rw [resolve_of_foremost foremost] at accepted
      cases accepted
    obtain ⟨level, spelled, settled_eq⟩ := resolve_of_faultless faultless
    rw [settled_eq] at accepted
    cases accepted
    exact ⟨faultless, layered_settled spelled⟩
  · rintro ⟨faultless, layered⟩
    obtain ⟨level, spelled, settled_eq⟩ := resolve_of_faultless faultless
    rw [settled_eq, layered.unique (layered_settled spelled)]

theorem Layered.tcpPort_eq_none_iff (layered : Layered file overrides settings) :
    settings.tcpPort = none ↔ effective overrides.tcpPort file.server.tcpPort 23234 = 0 := by
  rw [Option.eq_none_iff_forall_ne_some]
  constructor
  · intro none
    by_contra positive
    exact none _ ((layered.tcpPort _).mpr ⟨rfl, positive⟩)
  · intro zero port given
    obtain ⟨port_eq, positive⟩ := (layered.tcpPort port).mp given
    exact positive (port_eq.trans zero)

theorem Layered.tcpPort_ne_zero (layered : Layered file overrides settings) :
    settings.tcpPort ≠ some 0 := by
  intro given
  exact ((layered.tcpPort 0).mp given).2 rfl

/-- A level that is given at the start hides what the file says. -/
theorem not_faulty_of_spelled {level : LogLevel} {name text : String}
    (given : overrides.logLevel = some text) (spelled : level.Spelled text) :
    ¬ Faulty file overrides (.logLevel name) := by
  have name_eq : levelName file overrides = text := by rw [levelName, given, effective]
  rintro (_ | _ | unknown)
  exact unknown level (name_eq ▸ spelled)

/-- A setting that must not be zero is positive where this is no fault. -/
theorem effective_pos {inFile : Option Nat} {default : Nat} (positive : 0 < default)
    (fine : inFile = some 0 → Faulty file overrides fault)
    (faultless : ¬ Faulty file overrides fault) : 0 < effective none inFile default := by
  apply Nat.pos_of_ne_zero
  intro zero
  exact faultless (fine ((effective_eq_zero_iff positive).mp zero))

/-- Settings are refused exactly if they have a fault, and the fault that is told is that of the
setting that is looked at first; a level given at the start hides that of the file. Settings without
faults come to what their layers say, each from its own, with positive times and a positive
capacity, and with no port zero. Sessions on raw terminals differ from those on web-sockets in their
geometry only. -/
theorem resolve_layered (file : FileSettings) (overrides : Overrides) :
    ((∃ fault, resolve file overrides = .error fault) ↔ ∃ fault, Faulty file overrides fault) ∧
    (∀ fault, resolve file overrides = .error fault ↔ Foremost file overrides fault) ∧
    (∀ text (level : LogLevel), overrides.logLevel = some text → level.Spelled text →
      ∀ name, ¬ Faulty file overrides (.logLevel name)) ∧
    (∀ settings, resolve file overrides = .ok settings ↔
      (∀ fault, ¬ Faulty file overrides fault) ∧ Layered file overrides settings) ∧
    ∀ settings, resolve file overrides = .ok settings →
      (settings.tcpPort = none ↔ effective overrides.tcpPort file.server.tcpPort 23234 = 0) ∧
      settings.tcpPort ≠ some 0 ∧ 0 < settings.session.queueCapacity ∧
      0 < settings.session.renderInterval ∧ 0 < settings.session.readDeadline ∧
      settings.tcpSession =
        { settings.session with geometry := settings.tcpSession.geometry } := by
  refine ⟨?_, fun fault => resolve_eq_error_iff, fun text level given spelled name =>
    not_faulty_of_spelled given spelled, fun settings => resolve_eq_ok_iff, ?_⟩
  · constructor
    · rintro ⟨fault, refused⟩
      exact ⟨fault, (resolve_eq_error_iff.mp refused).faulty⟩
    · rintro ⟨fault, faulty⟩
      obtain ⟨first, foremost⟩ := exists_foremost faulty
      exact ⟨first, resolve_of_foremost foremost⟩
  · intro settings accepted
    obtain ⟨faultless, layered⟩ := resolve_eq_ok_iff.mp accepted
    refine ⟨layered.tcpPort_eq_none_iff, layered.tcpPort_ne_zero, ?_, ?_, ?_, rfl⟩
    · rw [layered.queueCapacity]
      exact effective_pos (by decide) .queueCapacity (faultless _)
    · rw [layered.renderInterval]
      exact effective_pos (by decide) .renderInterval (faultless _)
    · rw [layered.readDeadline]
      exact effective_pos (by decide) .readDeadline (faultless _)

end Settings

end Showcase
