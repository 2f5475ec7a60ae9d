import Mathlib.Data.List.Induction
import HomeBridge.Hpd.Services

/-!
# Starting and stopping the daemon

Three globals hold what a start allocates: `hpd_daemon`, `cfg` and `hpd_log`. A start that cannot use its configuration
file frees the first two and returns, a stop frees all three, and of the six places only the stop's `hpd_daemon` is set
to `NULL` again. The others keep the address of what was freed: the next stop takes it for a block to free, and the next
start takes a freed log for one that is there.
-/

namespace HomeBridge.Hpd

@[simp] def HPD_E_CFG_NOT_INIT : Int := -2
@[simp] def HPD_E_CFG_FILE_ERROR : Int := -4
@[simp] def HPD_E_MALLOC_ERROR : Int := -5
@[simp] def HPD_E_MHD_ERROR : Int := -7
@[simp] def HPD_E_LOG_ALREADY_EXIST : Int := -25
@[simp] def HPD_E_EVENT_QUEUE_IS_NULL : Int := -41

/-- What a global pointer holds: no address, the address of an allocated block, or the address of a block that was
freed. -/
inductive Held where
  | null
  | live
  | freed
  deriving DecidableEq

/-- The globals, and what each of them held when something was read, written or freed through it, in order. -/
structure Globals where
  hpd_daemon : Held
  cfg : Held
  hpd_log : Held
  uses : List Held

/-- The settings looked up in a configuration file, `none` where one is missing. -/
structure CfgFile where
  http_port : Option Int
  max_log_size : Option Int
  log_level : Option Int

/-- The options of a start with their arguments. `unrecognized` is any other value. -/
inductive HPD_OPTION where
  | HTTP (port : Int)
  | HTTPS
  | LOG (log_level max_log_size : Int)
  | CFG_PATH (path : Option String)
  | unrecognized

/-- The arguments of a start up to `HPD_OPTION_END`, and what it meets: whether there is memory for the daemon and for
the configuration, what libconfig reads at a path, and how the parts of `start_server` come out. -/
structure StartArgs where
  option : Nat
  hostname : Option String
  ap : List HPD_OPTION
  daemonMemory : Bool
  cfgMemory : Bool
  config_read_file : String → Option CfgFile
  create_event_queue : Bool
  MHD_start_daemon : Bool
  avahi_start : Int

def HPD_USE_CFG_FILE : Nat := 2

inductive HPDCall where
  | HPD_start (a : StartArgs)
  | HPD_stop

namespace Globals

/-- The program starts with all of them `NULL`. -/
def start : Globals := ⟨.null, .null, .null, []⟩

/-- Something is read, written or freed through a global that holds `p`. -/
def use (g : Globals) (p : Held) : Globals := { g with uses := g.uses ++ [p] }

def HPD_init_daemon (memory : Bool) (g : Globals) : Int × Globals :=
  if memory then
    let g : Globals := { g with hpd_daemon := .live }
    (HPD_E_SUCCESS, g.use g.hpd_daemon)
  else (HPD_E_MALLOC_ERROR, { g with hpd_daemon := .null })

/-- `create_hpd_log` does not look at what its `malloc` returns: without memory the process ends there. -/
def init_hpd_log (g : Globals) : Int × Globals :=
  if g.hpd_log ≠ .null then (HPD_E_LOG_ALREADY_EXIST, g) else (HPD_E_SUCCESS, { g with hpd_log := .live })

/-- The error exits of `HPD_config_file_init` once there is a `cfg`: destroyed, then the daemon and it are freed. -/
def dropCfg (g : Globals) : Int × Globals :=
  let g : Globals := { (g.use g.cfg).use g.hpd_daemon with hpd_daemon := .freed }
  (HPD_E_CFG_FILE_ERROR, { g.use g.cfg with cfg := .freed })

def HPD_config_file_init (cfgMemory : Bool) (config_read_file : String → Option CfgFile) (g : Globals) :
    Option String → Int × Globals
  | none => (HPD_E_NULL_POINTER, g)
  | some cfg_file_path =>
    if g.hpd_daemon = .null then (HPD_E_CFG_NOT_INIT, g)
    else if cfgMemory then
      let g : Globals := { g with cfg := .live }
      let g := g.use g.cfg
      match config_read_file cfg_file_path with
      | none => dropCfg g
      | some file =>
        let g := g.use g.cfg
        if file.http_port = none then dropCfg g
        else
          -- the port is written into the daemon
          let g := g.use g.hpd_daemon
          if file.max_log_size = none then dropCfg g
          else if file.log_level = none then dropCfg g
          else (HPD_E_SUCCESS, (init_hpd_log g).2)
    else (HPD_E_MALLOC_ERROR, { g.use g.hpd_daemon with hpd_daemon := .freed, cfg := .null })

/-- The log's level and size are checked and dropped: no log is set up here. -/
def parse_option_va (g : Globals) : List HPD_OPTION → Int × Globals
  | [] => (HPD_E_SUCCESS, g)
  | .HTTP _ :: ap => (g.use g.hpd_daemon).parse_option_va ap
  | .LOG log_level max_log_size :: ap =>
    if log_level < 0 ∨ 2 < log_level ∨ max_log_size < 0 then (HPD_E_BAD_PARAMETER, g) else g.parse_option_va ap
  | .HTTPS :: _ => (HPD_E_NO_HTTPS, g)
  | .CFG_PATH _ :: _ | .unrecognized :: _ => (HPD_E_BAD_PARAMETER, g)

/-- The XML file is always set up, and the web server reads the daemon's port. -/
def start_server (a : StartArgs) (g : Globals) : Int × Globals :=
  if a.create_event_queue then
    (if a.MHD_start_daemon then a.avahi_start else HPD_E_MHD_ERROR, g.use g.hpd_daemon)
  else (HPD_E_EVENT_QUEUE_IS_NULL, g)

/-- `if( rc = … ) return rc;` before the rest. -/
def orReturn (r : Int × Globals) (rest : Globals → Int × Globals) : Int × Globals :=
  if r.1 ≠ HPD_E_SUCCESS then r else rest r.2

/-- Without a port in the options it only prints that one is missing. -/
def HPD_start (a : StartArgs) (g : Globals) : Int × Globals :=
  orReturn (HPD_init_daemon a.daemonMemory g) fun g =>
    if a.hostname = none then (HPD_E_NULL_POINTER, g)
    else
      let g := g.use g.hpd_daemon
      if a.option &&& HPD_USE_CFG_FILE ≠ 0 then
        match a.ap with
        | .CFG_PATH path :: _ => orReturn (HPD_config_file_init a.cfgMemory a.config_read_file g path) (start_server a)
        | _ => (HPD_E_BAD_PARAMETER, g)
      else orReturn (g.parse_option_va a.ap) fun g => start_server a (g.use g.hpd_daemon)

/-- The mutex is read through the global, then the log is freed. -/
def destroy_hpd_log (g : Globals) : Globals :=
  if g.hpd_log ≠ .null then { (g.use g.hpd_log).use g.hpd_log with hpd_log := .freed } else g

def HPD_config_deinit (g : Globals) : Int × Globals :=
  let g := g.destroy_hpd_log
  if g.hpd_daemon = .null then (HPD_E_CFG_NOT_INIT, g)
  else
    let g : Globals := { g.use g.hpd_daemon with hpd_daemon := .null }
    (HPD_E_SUCCESS, if g.cfg ≠ .null then { (g.use g.cfg).use g.cfg with cfg := .freed } else g)

/-- `stop_server` uses none of the globals. -/
def HPD_stop (g : Globals) : Globals := g.HPD_config_deinit.2

def call (g : Globals) : HPDCall → Globals
  | .HPD_start a => (g.HPD_start a).2
  | .HPD_stop => g.HPD_stop

/-- The globals after a sequence of calls. -/
def after (calls : List HPDCall) : Globals := calls.foldl call start

@[simp] theorem after_nil : after [] = start := rfl

/-- A call acts on what the ones before have left. -/
@[simp] theorem after_concat (calls : List HPDCall) (c : HPDCall) : after (calls ++ [c]) = (after calls).call c := by
  simp [after]

end Globals

/-! ## What a start comes to -/

/-- What becomes of the globals in a start, as its arguments and what it meets decide: no memory for the daemon, no
configuration file opened, no memory for the configuration, a file that is missing, unreadable or incomplete, or a good
one. -/
inductive Fate where
  | noDaemon
  | noFile
  | noCfg
  | badFile
  | goodFile
  deriving DecidableEq

def CfgFile.complete (file : CfgFile) : Bool := file.http_port.isSome && file.max_log_size.isSome && file.log_level.isSome

/-- The path a start hands to `HPD_config_file_init`. -/
def StartArgs.path (a : StartArgs) : Option String :=
  match a.hostname, a.ap with
  | some _, .CFG_PATH path :: _ => if a.option &&& HPD_USE_CFG_FILE ≠ 0 then path else none
  | _, _ => none

def StartArgs.fate (a : StartArgs) : Fate :=
  if a.daemonMemory then
    match a.path with
    | none => .noFile
    | some path =>
      if a.cfgMemory then (if (a.config_read_file path).any CfgFile.complete then .goodFile else .badFile) else .noCfg
  else .noDaemon

namespace Fate

def hpd_daemon : Fate → Held
  | noDaemon => .null
  | noFile | goodFile => .live
  | noCfg | badFile => .freed

def cfg (p : Held) : Fate → Held
  | noDaemon | noFile => p
  | noCfg => .null
  | badFile => .freed
  | goodFile => .live

def hpd_log (p : Held) : Fate → Held
  | goodFile => if p = .null then .live else p
  | _ => p

/-- The log is `NULL` after a start if it was before, and the file was not a good one. -/
theorem hpd_log_eq_null {p : Held} {f : Fate} : f.hpd_log p = .null ↔ p = .null ∧ f ≠ goodFile := by
  cases p <;> cases f <;> decide

/-- A start leaves the address of a freed log where it is. -/
theorem hpd_log_eq_freed {p : Held} {f : Fate} : f.hpd_log p = .freed ↔ p = .freed := by
  cases p <;> cases f <;> decide

end Fate

namespace Globals

variable {g : Globals} {a : StartArgs}

/-- The globals after a start of some fate, with no use of a freed block that was not there before. -/
structure Fared (g : Globals) (f : Fate) (g' : Globals) : Prop where
  hpd_daemon : g'.hpd_daemon = f.hpd_daemon
  cfg : g'.cfg = f.cfg g.cfg
  hpd_log : g'.hpd_log = f.hpd_log g.hpd_log
  uses : .freed ∈ g'.uses ↔ .freed ∈ g.uses

/-- A use counts where the address is that of a freed block. -/
@[simp] theorem freed_mem_use (g : Globals) (p : Held) : .freed ∈ (g.use p).uses ↔ .freed ∈ g.uses ∨ p = .freed := by
  simp [use, eq_comm]

@[simp] theorem use_hpd_daemon (g : Globals) (p : Held) : (g.use p).hpd_daemon = g.hpd_daemon := rfl

@[simp] theorem use_cfg (g : Globals) (p : Held) : (g.use p).cfg = g.cfg := rfl

@[simp] theorem use_hpd_log (g : Globals) (p : Held) : (g.use p).hpd_log = g.hpd_log := rfl

/-- A use of the daemon that is there does not count. -/
theorem Fared.of_use {f : Fate} {g' : Globals} (h : (g.use g.hpd_daemon).Fared f g') (hd : g.hpd_daemon = .live) :
    g.Fared f g' :=
  ⟨h.hpd_daemon, h.cfg, h.hpd_log, by rw [h.uses, freed_mem_use, hd]; simp⟩

/-- Options are parsed and the servers started on a daemon that is there, and nothing but it is used. -/
theorem parse_option_va_fared (hd : g.hpd_daemon = .live) : ∀ ap, g.Fared .noFile (g.parse_option_va ap).2 := by
  intro ap
  induction ap generalizing g with
  | nil => exact ⟨hd, rfl, rfl, .rfl⟩
  | cons o ap ih =>
    cases o with
    | HTTP port => exact Fared.of_use (ih hd) hd
    | LOG log_level max_log_size =>
      rw [parse_option_va]
      split
      · exact ⟨hd, rfl, rfl, .rfl⟩
      · exact ih hd
    | _ => exact ⟨hd, rfl, rfl, .rfl⟩

/-- The servers are started on a daemon that is there, and read its port. -/
theorem start_server_fared (hd : g.hpd_daemon = .live) : g.Fared .noFile (g.start_server a).2 := by
  unfold start_server
  split
  · exact ⟨hd, rfl, rfl, by simp [hd]⟩
  · exact ⟨hd, rfl, rfl, .rfl⟩

/-- What `HPD_config_file_init` does with a path that is there, on a daemon that is there, and when it returns
`HPD_E_SUCCESS`. -/
theorem HPD_config_file_init_fared (hd : g.hpd_daemon = .live) (cfgMemory : Bool)
    (config_read_file : String → Option CfgFile) (path : String) :
    g.Fared (if cfgMemory then (if (config_read_file path).any CfgFile.complete then .goodFile else .badFile) else .noCfg)
      (g.HPD_config_file_init cfgMemory config_read_file (some path)).2 ∧
    ((g.HPD_config_file_init cfgMemory config_read_file (some path)).1 = HPD_E_SUCCESS ↔
      cfgMemory ∧ (config_read_file path).any CfgFile.complete) := by
  cases cfgMemory with
  | false => simp only [HPD_config_file_init, hd]; exact ⟨⟨rfl, rfl, rfl, by simp⟩, by simp⟩
  | true =>
    simp only [HPD_config_file_init, hd]
    cases hfile : config_read_file path with
    | none => exact ⟨⟨rfl, rfl, rfl, by simp [dropCfg]⟩, by simp [dropCfg]⟩
    | some file =>
      obtain ⟨http_port, max_log_size, log_level⟩ := file
      cases http_port with
      | none => exact ⟨⟨rfl, rfl, rfl, by simp [dropCfg]⟩, by simp [dropCfg, CfgFile.complete]⟩
      | some port =>
        cases max_log_size with
        | none => exact ⟨⟨rfl, rfl, rfl, by simp [dropCfg]⟩, by simp [dropCfg, CfgFile.complete]⟩
        | some size =>
          cases log_level with
          | none => exact ⟨⟨rfl, rfl, rfl, by simp [dropCfg]⟩, by simp [dropCfg, CfgFile.complete]⟩
          | some level =>
            refine ⟨?_, by simp [CfgFile.complete]⟩
            by_cases hl : g.hpd_log = .null <;>
              exact ⟨by simp [init_hpd_log, hl, Fate.hpd_daemon, CfgFile.complete],
                by simp [init_hpd_log, hl, Fate.cfg, CfgFile.complete],
                by simp [init_hpd_log, hl, Fate.hpd_log, CfgFile.complete], by simp [init_hpd_log, hl]⟩

end Globals

/-- An option that `parse_option_va` goes on from. -/
def HPD_OPTION.Accepted : HPD_OPTION → Prop
  | HTTP _ => True
  | LOG log_level max_log_size => ¬(log_level < 0 ∨ 2 < log_level ∨ max_log_size < 0)
  | _ => False

/-- A path is handed over with a host name, the flag for it, and as the first option. -/
theorem StartArgs.path_eq_some {a : StartArgs} {path : String} :
    a.path = some path ↔ a.hostname ≠ none ∧ a.option &&& HPD_USE_CFG_FILE ≠ 0 ∧
      ∃ ap, a.ap = .CFG_PATH (some path) :: ap := by
  obtain ⟨option, hostname, ap, _⟩ := a
  cases hostname with
  | none => simp [StartArgs.path]
  | some name =>
    cases ap with
    | nil => simp [StartArgs.path]
    | cons o ap => cases o <;> simp [StartArgs.path, and_comm]

/-- A start that returns `HPD_E_SUCCESS`: from a good file, or without a file and with options that are accepted, and
with servers that start. -/
def StartArgs.Succeeds (a : StartArgs) : Prop :=
  (a.fate = .goodFile ∨ a.daemonMemory ∧ a.hostname ≠ none ∧ a.option &&& HPD_USE_CFG_FILE = 0 ∧ ∀ o ∈ a.ap, o.Accepted) ∧
    a.create_event_queue ∧ a.MHD_start_daemon ∧ a.avahi_start = HPD_E_SUCCESS

namespace Globals

/-- The options are parsed to their end exactly if each one is accepted. -/
theorem parse_option_va_success {g : Globals} :
    ∀ {ap}, (g.parse_option_va ap).1 = HPD_E_SUCCESS ↔ ∀ o ∈ ap, o.Accepted := by
  intro ap
  induction ap generalizing g with
  | nil => exact ⟨fun _ _ ho => (nomatch ho), fun _ => rfl⟩
  | cons o ap ih =>
    rw [List.forall_mem_cons]
    cases o with
    | HTTP port => rw [parse_option_va, ih]; exact ⟨fun h => ⟨trivial, h⟩, And.right⟩
    | LOG log_level max_log_size =>
      rw [parse_option_va]
      split
      · rename_i hbad
        exact ⟨fun h => (nomatch h), fun h => absurd hbad h.1⟩
      · rename_i hok
        rw [ih]
        exact ⟨fun h => ⟨hok, h⟩, And.right⟩
    | _ => exact iff_of_false (by simp [parse_option_va]) fun h => h.1.elim

variable {g : Globals} {a : StartArgs}

/-- The servers start if all three parts of them do. -/
theorem start_server_success :
    (g.start_server a).1 = HPD_E_SUCCESS ↔ a.create_event_queue ∧ a.MHD_start_daemon ∧ a.avahi_start = HPD_E_SUCCESS := by
  unfold start_server
  cases a.create_event_queue <;> cases a.MHD_start_daemon <;> simp

/-- Both parts return `HPD_E_SUCCESS`. -/
theorem orReturn_success {r : Int × Globals} {rest : Globals → Int × Globals} :
    (orReturn r rest).1 = HPD_E_SUCCESS ↔ r.1 = HPD_E_SUCCESS ∧ (rest r.2).1 = HPD_E_SUCCESS := by
  unfold orReturn
  split
  · rename_i hr
    exact ⟨fun h => absurd h hr, fun h => h.1⟩
  · rename_i hr
    exact ⟨fun h => ⟨not_not.mp hr, h⟩, And.right⟩

/-- What follows a part of a start without touching the globals leaves its fate as it is. -/
theorem Fared.orReturn {f : Fate} {r : Int × Globals} {rest : Globals → Int × Globals} (h : g.Fared f r.2)
    (hrest : r.1 = HPD_E_SUCCESS → f.hpd_daemon = .live ∧ r.2.Fared .noFile (rest r.2).2) :
    g.Fared f (orReturn r rest).2 := by
  unfold Globals.orReturn
  split
  · exact h
  · rename_i hr
    obtain ⟨hd, h'⟩ := hrest (not_not.mp hr)
    exact ⟨h'.hpd_daemon.trans hd.symm, h'.cfg.trans h.cfg, h'.hpd_log.trans h.hpd_log, h'.uses.trans h.uses⟩

/-- The globals once there is a daemon and its fields are written. -/
def booted (g : Globals) : Globals := ({ g with hpd_daemon := .live : Globals }.use .live).use .live

/-- A daemon is there, and the two other globals are as they were. -/
theorem booted_fared (g : Globals) : g.Fared .noFile g.booted := ⟨rfl, rfl, rfl, by simp [booted]⟩

/-- What is told from there is told from the start. -/
theorem Fared.of_booted {f : Fate} {g' : Globals} (h : g.booted.Fared f g') : g.Fared f g' :=
  ⟨h.hpd_daemon, h.cfg, h.hpd_log, h.uses.trans g.booted_fared.uses⟩

/-- A start with memory and a host name goes on from there. -/
theorem HPD_start_booted (hm : a.daemonMemory = true) (hn : a.hostname ≠ none) :
    g.HPD_start a =
      if a.option &&& HPD_USE_CFG_FILE ≠ 0 then
        match a.ap with
        | .CFG_PATH path :: _ =>
          Globals.orReturn (HPD_config_file_init a.cfgMemory a.config_read_file g.booted path) (start_server a)
        | _ => (HPD_E_BAD_PARAMETER, g.booted)
      else Globals.orReturn (g.booted.parse_option_va a.ap) fun g => start_server a (g.use g.hpd_daemon) := by
  rw [HPD_start, HPD_init_daemon, if_pos hm, Globals.orReturn]
  simp only [ne_eq, not_true_eq_false, if_false, if_neg hn]
  rfl

/-- A start that hands a path to `HPD_config_file_init`. -/
theorem HPD_start_path (hm : a.daemonMemory = true) {path : String} (hp : a.path = some path) :
    g.Fared a.fate (g.HPD_start a).2 ∧ ((g.HPD_start a).1 = HPD_E_SUCCESS ↔ a.Succeeds) := by
  obtain ⟨hn, hflag, rest, hap⟩ := a.path_eq_some.mp hp
  have hfate : a.fate =
      if a.cfgMemory then (if (a.config_read_file path).any CfgFile.complete then .goodFile else .badFile) else .noCfg := by
    rw [StartArgs.fate, if_pos hm, hp]
  have hsucc : a.Succeeds ↔ (a.cfgMemory ∧ (a.config_read_file path).any CfgFile.complete) ∧
      a.create_event_queue ∧ a.MHD_start_daemon ∧ a.avahi_start = HPD_E_SUCCESS := by
    rw [StartArgs.Succeeds, hfate]
    cases a.cfgMemory <;> cases (a.config_read_file path).any CfgFile.complete <;> simp [hflag]
  obtain ⟨hf, hrc⟩ := g.booted.HPD_config_file_init_fared g.booted_fared.hpd_daemon a.cfgMemory a.config_read_file path
  rw [HPD_start_booted hm hn, if_pos hflag, hap, hsucc, orReturn_success, hrc, start_server_success]
  refine ⟨Fared.of_booted (Fared.orReturn (hfate ▸ hf) fun hok => ?_), .rfl⟩
  have hlive : a.fate.hpd_daemon = .live := by
    obtain ⟨hc, hcomplete⟩ := hrc.mp hok
    rw [hfate, if_pos hc, if_pos hcomplete]
    rfl
  exact ⟨hlive, start_server_fared (hf.hpd_daemon.trans (hfate ▸ hlive))⟩

/-- A start that opens no file. -/
theorem HPD_start_noFile (hm : a.daemonMemory = true) (hn : a.hostname ≠ none) (hp : a.path = none) :
    g.Fared a.fate (g.HPD_start a).2 ∧ ((g.HPD_start a).1 = HPD_E_SUCCESS ↔ a.Succeeds) := by
  have hfate : a.fate = .noFile := by rw [StartArgs.fate, if_pos hm, hp]
  have hsucc : a.Succeeds ↔ (a.option &&& HPD_USE_CFG_FILE = 0 ∧ ∀ o ∈ a.ap, o.Accepted) ∧
      a.create_event_queue ∧ a.MHD_start_daemon ∧ a.avahi_start = HPD_E_SUCCESS := by
    rw [StartArgs.Succeeds, hfate]
    simp [hm, hn]
  rw [hsucc, hfate]
  by_cases hflag : a.option &&& HPD_USE_CFG_FILE = 0
  · rw [HPD_start_booted hm hn, if_neg (not_not.mpr hflag), orReturn_success, start_server_success, parse_option_va_success]
    have hparse := g.booted.parse_option_va_fared g.booted_fared.hpd_daemon a.ap
    refine ⟨Fared.of_booted (hparse.orReturn fun _ => ⟨rfl, ?_⟩), by simp [hflag]⟩
    exact Fared.of_use (start_server_fared hparse.hpd_daemon) hparse.hpd_daemon
  · obtain ⟨rc, hrc, hret⟩ : ∃ rc, rc ≠ HPD_E_SUCCESS ∧ g.HPD_start a = (rc, g.booted) := by
      rw [HPD_start_booted hm hn, if_pos hflag]
      split
      · rename_i path rest hap
        cases path with
        | none => exact ⟨HPD_E_NULL_POINTER, by decide, rfl⟩
        | some path => exact absurd (a.path_eq_some.mpr ⟨hn, hflag, rest, hap⟩) (by rw [hp]; nofun)
      · exact ⟨HPD_E_BAD_PARAMETER, by decide, rfl⟩
    rw [hret]
    exact ⟨g.booted_fared, iff_of_false hrc fun h => hflag h.1.1⟩

/-- A start leaves the globals as its fate says, and returns `HPD_E_SUCCESS` exactly if it is one that does. -/
theorem HPD_start_fared : g.Fared a.fate (g.HPD_start a).2 ∧ ((g.HPD_start a).1 = HPD_E_SUCCESS ↔ a.Succeeds) := by
  cases hm : a.daemonMemory with
  | false =>
    have hfate : a.fate = .noDaemon := by rw [StartArgs.fate, hm]; rfl
    rw [HPD_start, HPD_init_daemon, hm, hfate]
    exact ⟨⟨rfl, rfl, rfl, .rfl⟩, by simp [Globals.orReturn, StartArgs.Succeeds, hfate, hm]⟩
  | true =>
    by_cases hn : a.hostname = none
    · have hfate : a.fate = .noFile := by
        rw [StartArgs.fate, if_pos hm, StartArgs.path, hn]
      rw [HPD_start, HPD_init_daemon, if_pos hm, hfate]
      exact ⟨⟨by simp [Globals.orReturn, hn, Fate.hpd_daemon], by simp [Globals.orReturn, hn, Fate.cfg],
        by simp [Globals.orReturn, hn, Fate.hpd_log],
        by simp [Globals.orReturn, hn]⟩, by simp [Globals.orReturn, StartArgs.Succeeds, hfate, hn]⟩
    · cases hp : a.path with
      | none => exact HPD_start_noFile hm hn hp
      | some path => exact HPD_start_path hm hp

/-- A stop: the daemon ends `NULL`, the others with the addresses of what was freed. Something freed is used exactly if
the log was, or if there is an address in `hpd_daemon` and it or `cfg` was. -/
theorem HPD_stop_eq (g : Globals) :
    g.HPD_stop.hpd_daemon = .null ∧ g.HPD_stop.cfg = (if g.hpd_daemon = .null ∨ g.cfg = .null then g.cfg else .freed) ∧
    g.HPD_stop.hpd_log = (if g.hpd_log = .null then .null else .freed) ∧
    (.freed ∈ g.HPD_stop.uses ↔
      .freed ∈ g.uses ∨ g.hpd_log = .freed ∨ g.hpd_daemon ≠ .null ∧ (g.hpd_daemon = .freed ∨ g.cfg = .freed)) := by
  obtain ⟨d, c, l, uses⟩ := g
  cases d <;> cases c <;> cases l <;> simp [HPD_stop, HPD_config_deinit, destroy_hpd_log, use]

end Globals

/-! ## The calls before -/

/-- Some start was made from a good file. -/
def GoodStart (calls : List HPDCall) : Prop := ∃ a, .HPD_start a ∈ calls ∧ a.fate = .goodFile

/-- Some stop came after a start from a good file. -/
def LogReleased (calls : List HPDCall) : Prop := ∃ h, h ++ [.HPD_stop] <+: calls ∧ GoodStart h

/-- The fate of a call that gets as far as allocating `cfg`. -/
def HPDCall.cfgFate : HPDCall → Option Fate
  | .HPD_start a => if a.fate = .noDaemon ∨ a.fate = .noFile then none else some a.fate
  | .HPD_stop => none

/-- The fate of the last call that got as far as allocating `cfg`. -/
def lastCfg (calls : List HPDCall) : Option Fate := (calls.filterMap HPDCall.cfgFate).getLast?

/-- What a call leaves in `hpd_daemon`. -/
def HPDCall.hpd_daemon : HPDCall → Held
  | .HPD_start a => a.fate.hpd_daemon
  | .HPD_stop => .null

/-- The globals as the calls made so far have left them. `cfg` is told as long as no log was released. -/
structure Told (calls : List HPDCall) (g : Globals) : Prop where
  log_null : g.hpd_log = .null ↔ ¬GoodStart calls
  log_freed : g.hpd_log = .freed ↔ LogReleased calls
  daemon : g.hpd_daemon = calls.getLast?.elim .null HPDCall.hpd_daemon
  cfg_live : g.cfg = .live → GoodStart calls
  cfg_freed : ¬LogReleased calls → (g.cfg = .freed ↔ lastCfg calls = some .badFile)

/-- A call adds a good start if it is one. -/
theorem goodStart_concat {calls : List HPDCall} {c : HPDCall} :
    GoodStart (calls ++ [c]) ↔ GoodStart calls ∨ ∃ a, c = .HPD_start a ∧ a.fate = .goodFile := by
  simp only [GoodStart, List.mem_append, List.mem_singleton, or_and_right, exists_or, eq_comm]

/-- A call and those before it begin a longer sequence exactly if it is the last call of that, or begins the rest. -/
theorem concat_prefix_concat {h calls : List HPDCall} {x c : HPDCall} :
    h ++ [x] <+: calls ++ [c] ↔ h = calls ∧ x = c ∨ h ++ [x] <+: calls := by
  rw [List.prefix_concat_iff, List.append_singleton_inj]

/-- It releases the log if it is a stop, and one was made before. -/
theorem logReleased_concat {calls : List HPDCall} {c : HPDCall} :
    LogReleased (calls ++ [c]) ↔ LogReleased calls ∨ c = .HPD_stop ∧ GoodStart calls := by
  simp only [LogReleased, concat_prefix_concat]
  constructor
  · rintro ⟨h, ⟨rfl, rfl⟩ | hpre, hgood⟩
    · exact .inr ⟨rfl, hgood⟩
    · exact .inl ⟨h, hpre, hgood⟩
  · rintro (⟨h, hpre, hgood⟩ | ⟨rfl, hgood⟩)
    · exact ⟨h, .inr hpre, hgood⟩
    · exact ⟨calls, .inl ⟨rfl, rfl⟩, hgood⟩

/-- It is the last one that allocates a `cfg`, or those before have it. -/
theorem lastCfg_concat {calls : List HPDCall} {c : HPDCall} : lastCfg (calls ++ [c]) = c.cfgFate.or (lastCfg calls) := by
  rw [lastCfg, List.filterMap_append]
  cases h : c.cfgFate <;> simp [h, lastCfg]

/-- What was released was made. -/
theorem LogReleased.goodStart {calls : List HPDCall} (h : LogReleased calls) : GoodStart calls := by
  obtain ⟨h', hpre, a, ha, hf⟩ := h
  exact ⟨a, hpre.subset (List.mem_append_left _ ha), hf⟩

namespace Told

variable {calls : List HPDCall} {g : Globals}

/-- Nothing was called, and all globals are `NULL`. -/
theorem start : Told [] Globals.start where
  log_null := ⟨fun _ ⟨_, ha, _⟩ => (nomatch ha), fun _ => rfl⟩
  log_freed := ⟨nofun, fun ⟨_, hpre, _⟩ => by simp at hpre⟩
  daemon := rfl
  cfg_live := nofun
  cfg_freed _ := ⟨nofun, nofun⟩

/-- A start leaves the log alone unless it is from a good file, and sets the daemon anew. -/
theorem HPD_start (h : Told calls g) (a : StartArgs) : Told (calls ++ [.HPD_start a]) (g.HPD_start a).2 := by
  have hf := (Globals.HPD_start_fared (g := g) (a := a)).1
  have hlog : LogReleased (calls ++ [.HPD_start a]) ↔ LogReleased calls := by simp [logReleased_concat]
  have hgood : GoodStart (calls ++ [.HPD_start a]) ↔ GoodStart calls ∨ a.fate = .goodFile := by simp [goodStart_concat]
  constructor
  · rw [hf.hpd_log, hgood, not_or, ← h.log_null]
    exact Fate.hpd_log_eq_null
  · rw [hf.hpd_log, hlog, ← h.log_freed]
    exact Fate.hpd_log_eq_freed
  · rw [hf.hpd_daemon, List.getLast?_concat]
    rfl
  · rw [hf.cfg, hgood]
    have := h.cfg_live
    cases a.fate <;> simp_all [Fate.cfg]
  · rw [hf.cfg, hlog, lastCfg_concat]
    intro hn
    have := h.cfg_freed hn
    cases hfate : a.fate <;> simp_all [Fate.cfg, HPDCall.cfgFate]

/-- A stop frees what is there, and sets the daemon to `NULL` only. -/
theorem HPD_stop (h : Told calls g) : Told (calls ++ [.HPD_stop]) g.HPD_stop := by
  obtain ⟨hd, hc, hl, -⟩ := g.HPD_stop_eq
  have hgood : GoodStart (calls ++ [.HPD_stop]) ↔ GoodStart calls := by simp [goodStart_concat]
  have hlog : LogReleased (calls ++ [.HPD_stop]) ↔ GoodStart calls := by
    simpa [logReleased_concat] using LogReleased.goodStart
  constructor
  · rw [hl, hgood, ← h.log_null]
    split <;> simp_all
  · rw [hl, hlog]
    have := h.log_null
    split <;> simp_all
  · rw [hd, List.getLast?_concat]
    rfl
  · rw [hc, hgood]
    have := h.cfg_live
    split <;> simp_all
  · rw [hc, hlog, lastCfg_concat]
    intro hn
    -- no good file, so `cfg` is not live and is left as it is
    have hcfg : g.cfg ≠ .live := fun hlive => hn (h.cfg_live hlive)
    have := h.cfg_freed fun hr => hn hr.goodStart
    split
    · simpa [HPDCall.cfgFate] using this
    · rename_i hne
      have hfreed : g.cfg = .freed := by
        cases hp : g.cfg <;> simp_all
      simpa [HPDCall.cfgFate, hfreed] using this.mp hfreed

/-- After any calls. -/
theorem after : ∀ calls, Told calls (Globals.after calls) := by
  intro calls
  induction calls using List.reverseRecOn with
  | nil => exact start
  | append_singleton calls c ih =>
    rw [Globals.after_concat]
    cases c with
    | HPD_start a => exact ih.HPD_start a
    | HPD_stop => exact ih.HPD_stop

end Told

/-- A stop that uses nothing freed: no log was released before, and if the last call was a start that got memory for the
daemon, it did not run out of memory for the configuration and the last file opened was not a bad one. -/
structure StopIsSafe (calls : List HPDCall) : Prop where
  log : ¬LogReleased calls
  daemon : ∀ a, calls.getLast? = some (.HPD_start a) → a.fate = .noDaemon ∨ a.fate ≠ .noCfg ∧ lastCfg calls ≠ some .badFile

/-- A start from a bad file, as the last call, is the last to allocate a `cfg`. -/
theorem lastCfg_of_badFile {calls : List HPDCall} {a : StartArgs} (h : calls.getLast? = some (.HPD_start a))
    (hf : a.fate = .badFile) :
    lastCfg calls = some .badFile := by
  obtain ⟨before, rfl⟩ := List.getLast?_eq_some_iff.mp h
  simp [lastCfg_concat, HPDCall.cfgFate, hf]

/-- What a stop uses is not freed exactly if it is a safe one. -/
theorem Told.stop_freed_iff {calls : List HPDCall} {g : Globals} (h : Told calls g) :
    .freed ∈ g.HPD_stop.uses ↔ .freed ∈ g.uses ∨ ¬StopIsSafe calls := by
  rw [g.HPD_stop_eq.2.2.2]
  refine or_congr_right ?_
  by_cases hr : LogReleased calls
  · exact iff_of_true (.inl (h.log_freed.mpr hr)) fun hs => hs.log hr
  · have hcfg := h.cfg_freed hr
    have hlog : g.hpd_log ≠ .freed := fun hl => hr (h.log_freed.mp hl)
    have hdaemon := h.daemon
    cases hlast : calls.getLast? with
    | none =>
      rw [hlast] at hdaemon
      exact iff_of_false (fun hu => hu.elim hlog fun hd => hd.1 hdaemon) fun hs =>
        hs ⟨hr, fun a ha => nomatch hlast.symm.trans ha⟩
    | some c =>
      rw [hlast] at hdaemon
      cases c with
      | HPD_stop =>
        exact iff_of_false (fun hu => hu.elim hlog fun hd => hd.1 hdaemon) fun hs =>
          hs ⟨hr, fun a ha => nomatch hlast.symm.trans ha⟩
      | HPD_start a =>
        have hsafe : StopIsSafe calls ↔ a.fate = .noDaemon ∨ a.fate ≠ .noCfg ∧ lastCfg calls ≠ some .badFile :=
          ⟨fun hs => hs.daemon a hlast, fun hd => ⟨hr, fun a' ha => by cases hlast.symm.trans ha; exact hd⟩⟩
        have hbad := lastCfg_of_badFile hlast
        rw [hsafe, hdaemon]
        cases hf : a.fate <;> simp_all [HPDCall.hpd_daemon, Fate.hpd_daemon]

/-- The law: nothing freed is read, written or freed, and a start that succeeds after a stop leaves a log that works. -/
structure LifecycleSafe (calls : List HPDCall) : Prop where
  noFreed : .freed ∉ (Globals.after calls).uses
  logAgain : ∀ h a, h ++ [.HPD_start a] <+: calls → .HPD_stop ∈ h → ((Globals.after h).HPD_start a).1 = HPD_E_SUCCESS →
    (Globals.after (h ++ [.HPD_start a])).hpd_log = .live

/-- Every stop is a safe one, and a start that succeeds after a stop is from a good file or comes after one that was,
with no log released. -/
structure Orderly (calls : List HPDCall) : Prop where
  stops : ∀ h, h ++ [.HPD_stop] <+: calls → StopIsSafe h
  starts : ∀ h a, h ++ [.HPD_start a] <+: calls → .HPD_stop ∈ h → a.Succeeds →
    GoodStart (h ++ [.HPD_start a]) ∧ ¬LogReleased h

/-- Nothing that was freed is used exactly if each stop is a safe one, since no start uses any. -/
theorem noFreed_iff (calls : List HPDCall) :
    .freed ∉ (Globals.after calls).uses ↔ ∀ h, h ++ [.HPD_stop] <+: calls → StopIsSafe h := by
  induction calls using List.reverseRecOn with
  | nil => exact iff_of_true (by decide) fun h hpre => by simp at hpre
  | append_singleton calls c ih =>
    have hsplit : (∀ h, h ++ [.HPD_stop] <+: calls ++ [c] → StopIsSafe h) ↔
        (c = .HPD_stop → StopIsSafe calls) ∧ ∀ h, h ++ [.HPD_stop] <+: calls → StopIsSafe h := by
      simp only [concat_prefix_concat]
      constructor
      · exact fun hs => ⟨fun hc => hs calls (.inl ⟨rfl, hc.symm⟩), fun h hpre => hs h (.inr hpre)⟩
      · rintro ⟨hlast, hs⟩ h (⟨rfl, hc⟩ | hpre)
        · exact hlast hc.symm
        · exact hs h hpre
    rw [hsplit, ← ih, Globals.after_concat]
    cases c with
    | HPD_start a =>
      rw [Globals.call, Globals.HPD_start_fared.1.uses]
      simp
    | HPD_stop =>
      rw [Globals.call, (Told.after calls).stop_freed_iff, not_or, not_not, and_comm]
      simp

/-- The log works after a start exactly if some start up to then was from a good file and none was released. -/
theorem log_live_iff (h : List HPDCall) (a : StartArgs) :
    (Globals.after (h ++ [.HPD_start a])).hpd_log = .live ↔ GoodStart (h ++ [.HPD_start a]) ∧ ¬LogReleased h := by
  have ht := Told.after (h ++ [.HPD_start a])
  have hr : LogReleased (h ++ [.HPD_start a]) ↔ LogReleased h := by simp [logReleased_concat]
  rw [← hr, ← ht.log_freed, ← not_iff_not.mpr ht.log_null |>.trans not_not]
  cases (Globals.after (h ++ [.HPD_start a])).hpd_log <;> decide

/-- For every sequence of starts and stops, no freed block is used and the log works again after a stop, exactly if the
calls are orderly. -/
theorem lifecycleSafe_iff (calls : List HPDCall) : LifecycleSafe calls ↔ Orderly calls := by
  have hstart : ∀ h a, ((Globals.after h).HPD_start a).1 = HPD_E_SUCCESS ↔ a.Succeeds :=
    fun _ _ => Globals.HPD_start_fared.2
  constructor
  · intro hs
    refine ⟨(noFreed_iff calls).mp hs.noFreed, fun h a hpre hstop ha => ?_⟩
    exact (log_live_iff h a).mp (hs.logAgain h a hpre hstop ((hstart h a).mpr ha))
  · intro ho
    refine ⟨(noFreed_iff calls).mpr ho.stops, fun h a hpre hstop ha => ?_⟩
    exact (log_live_iff h a).mpr (ho.starts h a hpre hstop ((hstart h a).mp ha))

/-- A start from a good file. -/
def fromFile : StartArgs :=
  ⟨HPD_USE_CFG_FILE, some "Homeport", [.CFG_PATH (some "./hpd.cfg")], true, true,
    fun _ => some ⟨some 8889, some 2048, some 2⟩, true, true, 0⟩

/-- The daemon is started, stopped, started and stopped: the second stop frees the log of the first again. -/
theorem not_lifecycleSafe : ¬∀ calls, LifecycleSafe calls := fun h =>
  (h [.HPD_start fromFile, .HPD_stop, .HPD_start fromFile, .HPD_stop]).noFreed (by decide)

end HomeBridge.Hpd
