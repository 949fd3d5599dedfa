import GameTransport.Options
import Mathlib.Data.List.TakeDrop
import Mathlib.Data.List.TakeWhile

/-! # Each option is what the last good line for it says

An option has a name, a type of values and a field (`Setting`).  The fields do not overlap
(`get_set_of_ne`) and there are no others (`ext_get`), so a line can be looked at for one option at a
time: it gives the option a value (`Assigns`), or it leaves it alone (`get_applyLine`).  By induction
on the lines, the value that was given last stands, or else the default (`get_applyLines`).

So two texts that give each option the same last value set the same options, whatever else they say.
`Idle` lists what else a line can say.
-/

namespace GameTransport.Options

/-- One of the options. -/
inductive Setting where
  | serverIp
  | serverPort
  | maxConnections
  | backlog
  | readTimeout
  | workerThreads
  | onlineMode
  | compressionThreshold
  | compressionLevel
  | motd
  | maxPlayers
  | versionName
  | protocolVersion
  deriving DecidableEq

namespace Setting

/-- The name under which a line sets the option. -/
def name : Setting → String
  | serverIp => "serverip"
  | serverPort => "serverport"
  | maxConnections => "maxconnections"
  | backlog => "backlog"
  | readTimeout => "readtimeout"
  | workerThreads => "workerthreads"
  | onlineMode => "onlinemode"
  | compressionThreshold => "compressionthreshold"
  | compressionLevel => "compressionlevel"
  | motd => "motd"
  | maxPlayers => "maxplayers"
  | versionName => "versionname"
  | protocolVersion => "protocolversion"

/-- The values that the option can have. -/
def Value : Setting → Type
  | serverIp => IpAddress
  | serverPort => UInt16
  | backlog | compressionLevel => UInt32
  | maxConnections | readTimeout | workerThreads | maxPlayers => UInt64
  | onlineMode => Bool
  | compressionThreshold => Option UInt64
  | motd | versionName => String
  | protocolVersion => Int32

/-- The value that a text stands for, if it is well-formed. -/
def read? : (setting : Setting) → List Char → Option setting.Value
  | serverIp => IpAddress.ofText?
  | serverPort => Numeral.u16?
  | backlog | compressionLevel => Numeral.u32?
  | maxConnections | readTimeout | workerThreads | maxPlayers => Numeral.u64?
  | onlineMode => flag?
  | compressionThreshold => threshold?
  | motd | versionName => fun text => some (String.ofList text)
  | protocolVersion => Numeral.i32?

/-- The value that the option has. -/
def get : (setting : Setting) → Options → setting.Value
  | serverIp => Options.serverIp
  | serverPort => Options.serverPort
  | maxConnections => Options.maxConnections
  | backlog => Options.backlog
  | readTimeout => Options.readTimeoutSeconds
  | workerThreads => Options.workerThreads
  | onlineMode => Options.onlineMode
  | compressionThreshold => Options.compressionThreshold
  | compressionLevel => Options.compressionLevel
  | motd => Options.motd
  | maxPlayers => Options.maxPlayers
  | versionName => Options.versionName
  | protocolVersion => Options.protocolVersion

/-- The options with this one set. -/
def set (options : Options) : (setting : Setting) → setting.Value → Options
  | serverIp, value => { options with serverIp := value }
  | serverPort, value => { options with serverPort := value }
  | maxConnections, value => { options with maxConnections := value }
  | backlog, value => { options with backlog := value }
  | readTimeout, value => { options with readTimeoutSeconds := value }
  | workerThreads, value => { options with workerThreads := value }
  | onlineMode, value => { options with onlineMode := value }
  | compressionThreshold, value => { options with compressionThreshold := value }
  | compressionLevel, value => { options with compressionLevel := value }
  | motd, value => { options with motd := value }
  | maxPlayers, value => { options with maxPlayers := value }
  | versionName, value => { options with versionName := value }
  | protocolVersion, value => { options with protocolVersion := value }

variable {setting other : Setting} {options : Options} {key text : List Char}

theorem eq_of_name_eq (same : setting.name = other.name) : setting = other := by
  cases setting <;> cases other <;> first | rfl | exact absurd same (by decide)

@[simp] theorem get_set (options : Options) (setting : Setting) (value : setting.Value) :
    setting.get (setting.set options value) = value := by
  cases setting <;> rfl

/-- Setting one option leaves the others alone. -/
theorem get_set_of_ne (options : Options) (differ : setting ≠ other) (value : other.Value) :
    setting.get (other.set options value) = setting.get options := by
  cases setting <;> cases other <;> first | rfl | exact absurd rfl differ

/-- There are no more options than these. -/
theorem ext_get {options others : Options}
    (same : ∀ setting : Setting, setting.get options = setting.get others) : options = others := by
  cases options
  cases others
  simp only [Options.mk.injEq]
  exact ⟨same serverIp, same serverPort, same maxConnections, same backlog, same readTimeout,
    same workerThreads, same onlineMode, same compressionThreshold, same compressionLevel,
    same motd, same maxPlayers, same versionName, same protocolVersion⟩

theorem assign_of_name (options : Options) (known : lower key = setting.name) (text : List Char) :
    options.assign key text = .ofValue (setting.read? text) (setting.set options) := by
  unfold assign
  rw [known]
  cases setting <;> rfl

theorem assign_of_unknown (options : Options)
    (unknown : ∀ setting : Setting, lower key ≠ setting.name) (text : List Char) :
    options.assign key text = .unknown := by
  unfold assign
  split
  · exact absurd ‹_› (unknown serverIp)
  · exact absurd ‹_› (unknown serverPort)
  · exact absurd ‹_› (unknown maxConnections)
  · exact absurd ‹_› (unknown backlog)
  · exact absurd ‹_› (unknown readTimeout)
  · exact absurd ‹_› (unknown workerThreads)
  · exact absurd ‹_› (unknown onlineMode)
  · exact absurd ‹_› (unknown compressionThreshold)
  · exact absurd ‹_› (unknown compressionLevel)
  · exact absurd ‹_› (unknown motd)
  · exact absurd ‹_› (unknown maxPlayers)
  · exact absurd ‹_› (unknown versionName)
  · exact absurd ‹_› (unknown protocolVersion)
  · rfl

end Setting

/-! ### One line -/

section Line

variable {line key text name value : List Char}

theorem span_split (first : '=' ∉ key) :
    (key ++ '=' :: text).span (· != '=') = (key, '=' :: text) := by
  have others : ∀ c ∈ key, (c != '=') = true :=
    fun c mem => bne_iff_ne.mpr fun same => first (same ▸ mem)
  rw [List.span_eq_takeWhile_dropWhile, List.takeWhile_append_of_pos others,
    List.dropWhile_append_of_pos others]
  simp

theorem Line.ofChars_of_split (split : Blank.trim (stripComment line) = key ++ '=' :: text)
    (first : '=' ∉ key) :
    Line.ofChars line = .assignment (Blank.trim key) (Blank.trim text) := by
  unfold Line.ofChars
  dsimp only
  rw [split, span_split first]
  simp

/-- A line without `=` is no assignment. -/
theorem Line.ofChars_ne_assignment (without : '=' ∉ Blank.trim (stripComment line)) :
    Line.ofChars line ≠ .assignment name value := by
  have others : ∀ c ∈ Blank.trim (stripComment line), (c != '=') = true :=
    fun c mem => bne_iff_ne.mpr fun same => without (same ▸ mem)
  unfold Line.ofChars
  dsimp only
  have none_left : (Blank.trim (stripComment line)).dropWhile (· != '=') = [] :=
    List.dropWhile_eq_nil_iff.mpr others
  rw [List.span_eq_takeWhile_dropWhile, none_left]
  dsimp only
  split <;> exact nofun

end Line

namespace Setting

/-- The line gives the option a value: without comment and blanks it is split at its first `=`, what
stands before is the option's name in any case, and what stands after is the value. -/
def Assigns (setting : Setting) (line : List Char) (value : setting.Value) : Prop :=
  ∃ key text, Blank.trim (stripComment line) = key ++ '=' :: text ∧ '=' ∉ key ∧
    lower (Blank.trim key) = setting.name ∧ setting.read? (Blank.trim text) = some value

/-- The value that a line gives the option, if it gives it one. -/
def assigned? (setting : Setting) (line : List Char) : Option setting.Value :=
  match Line.ofChars line with
  | .assignment key text => if lower key = setting.name then setting.read? text else none
  | .empty | .other _ => none

variable {setting other : Setting} {line key text : List Char} {value : setting.Value}

theorem assigned?_of_split (split : Blank.trim (stripComment line) = key ++ '=' :: text)
    (first : '=' ∉ key) :
    setting.assigned? line =
      if lower (Blank.trim key) = setting.name then setting.read? (Blank.trim text) else none := by
  unfold assigned?
  rw [Line.ofChars_of_split split first]

theorem assigned?_of_without (without : '=' ∉ Blank.trim (stripComment line)) :
    setting.assigned? line = none := by
  unfold assigned?
  rcases said : Line.ofChars line with _ | _ | ⟨key, text⟩
  · rfl
  · rfl
  · exact absurd said (Line.ofChars_ne_assignment without)

theorem assigned?_eq_some_iff : setting.assigned? line = some value ↔ setting.Assigns line value := by
  constructor
  · intro assigned
    by_cases split : '=' ∈ Blank.trim (stripComment line)
    · obtain ⟨key, text, split, first⟩ := List.eq_append_cons_of_mem split
      rw [assigned?_of_split split first] at assigned
      split at assigned
      · exact ⟨key, text, split, first, ‹_›, assigned⟩
      · cases assigned
    · rw [assigned?_of_without split] at assigned
      cases assigned
  · rintro ⟨key, text, split, first, known, read⟩
    rw [assigned?_of_split split first, if_pos known, read]

theorem assigned?_eq_none_iff :
    setting.assigned? line = none ↔ ∀ value, ¬ setting.Assigns line value := by
  rw [Option.eq_none_iff_forall_ne_some]
  exact forall_congr' fun value => not_congr assigned?_eq_some_iff

/-- **A line gives the option a value or leaves it alone.** -/
theorem get_applyLine (setting : Setting) (options : Options) (line : List Char) :
    setting.get (options.applyLine line).1 =
      (setting.assigned? line).getD (setting.get options) := by
  unfold applyLine assigned?
  rcases Line.ofChars line with _ | text | ⟨key, text⟩
  · rfl
  · rfl
  · dsimp only
    by_cases known : ∃ other : Setting, lower key = other.name
    · obtain ⟨other, known⟩ := known
      rw [assign_of_name options known]
      by_cases same : setting = other
      · subst same
        rw [if_pos known]
        rcases setting.read? text with _ | value
        · rfl
        · exact get_set options setting value
      · rw [if_neg fun also => same (eq_of_name_eq (also.symm.trans known))]
        rcases other.read? text with _ | value
        · rfl
        · exact get_set_of_ne options same value
    · have unknown (other : Setting) : lower key ≠ other.name := fun name => known ⟨other, name⟩
      rw [assign_of_unknown options unknown, if_neg (unknown setting)]
      rfl

/-- **The value that was given last stands.** -/
theorem get_applyLines (setting : Setting) (noted : List Note) (options : Options)
    (lines : List (List Char)) :
    setting.get (applyLines noted options lines).1 =
      (lines.filterMap setting.assigned?).getLast?.getD (setting.get options) := by
  induction lines generalizing noted options with
  | nil => rfl
  | cons line rest ih =>
    rw [applyLines, ih, get_applyLine, List.filterMap_cons]
    rcases setting.assigned? line with _ | value
    · rfl
    · dsimp only
      rw [List.getLast?_cons]
      rcases (rest.filterMap setting.assigned?).getLast? with _ | last <;> rfl

theorem get_parse (setting : Setting) (text : String) :
    setting.get (parse text).1 =
      ((lines text.toList).filterMap setting.assigned?).getLast?.getD (setting.get {}) :=
  get_applyLines setting [] {} _

/-- The option has the value that the last good line for it gives, or else its default. -/
theorem get_parse_cases (setting : Setting) (text : String) :
    (∃ before line after, lines text.toList = before ++ line :: after ∧
      setting.Assigns line (setting.get (parse text).1) ∧
      ∀ later ∈ after, ∀ value, ¬ setting.Assigns later value) ∨
    (∀ line ∈ lines text.toList, ∀ value, ¬ setting.Assigns line value) ∧
      setting.get (parse text).1 = setting.get {} := by
  rw [get_parse, List.getLast?_filterMap]
  rcases found : (lines text.toList).reverse.findSome? setting.assigned? with _ | value
  · refine .inr ⟨fun line mem => ?_, rfl⟩
    rw [List.findSome?_eq_none_iff] at found
    exact assigned?_eq_none_iff.mp (found line (List.mem_reverse.mpr mem))
  · obtain ⟨after, line, before, split, assigned, last⟩ := List.findSome?_eq_some_iff.mp found
    refine .inl ⟨before.reverse, line, after.reverse, ?_, assigned?_eq_some_iff.mp assigned,
      fun later mem => assigned?_eq_none_iff.mp (last later (List.mem_reverse.mp mem))⟩
    rw [List.reverse_eq_iff.mp split]
    simp

end Setting

/-! ### Lines that say nothing -/

/-- What a line says that gives no option a value. -/
inductive Idle (line : List Char) : Prop where
  /-- Nothing. -/
  | blank (blanks : ∀ c ∈ line, Blank.isBlank c = true)
  /-- The line is a comment from its beginning. -/
  | comment (mark : (Blank.trimStart line).head? = some '#')
  /-- The line has no `=`, at least not in front of a comment. -/
  | other (without : '=' ∉ Blank.trim (stripComment line))
  /-- The name is none of an option. -/
  | unknown {key text : List Char} (split : Blank.trim (stripComment line) = key ++ '=' :: text)
    (first : '=' ∉ key) (unknown : ∀ setting : Setting, lower (Blank.trim key) ≠ setting.name)
  /-- The value is none of the option's. -/
  | malformed {setting : Setting} {key text : List Char}
    (split : Blank.trim (stripComment line) = key ++ '=' :: text) (first : '=' ∉ key)
    (known : lower (Blank.trim key) = setting.name)
    (malformed : setting.read? (Blank.trim text) = none)

section Idle

variable {line : List Char} {c : Char}

theorem mem_of_mem_trim {cs : List Char} (mem : c ∈ Blank.trim cs) : c ∈ cs := by
  unfold Blank.trim Blank.trimStart at mem
  rw [List.mem_reverse] at mem
  have inner := List.mem_reverse.mp ((List.dropWhile_sublist _).mem mem)
  exact (List.dropWhile_sublist _).mem inner

theorem mem_of_mem_stripComment (mem : c ∈ stripComment line) : c ∈ line := by
  unfold stripComment at mem
  split at mem
  · cases mem
  · split at mem
    · exact List.mem_of_mem_take mem
    · exact mem

theorem stripComment_of_mark (mark : (Blank.trimStart line).head? = some '#') :
    stripComment line = [] := if_pos mark

theorem Idle.assigned?_eq_none (idle : Idle line) (setting : Setting) :
    setting.assigned? line = none := by
  cases idle with
  | blank blanks =>
    apply Setting.assigned?_of_without
    intro mem
    have blank := blanks '=' (mem_of_mem_stripComment (mem_of_mem_trim mem))
    exact absurd blank (by decide)
  | comment mark =>
    apply Setting.assigned?_of_without
    rw [stripComment_of_mark mark]
    exact List.not_mem_nil
  | other without => exact Setting.assigned?_of_without without
  | unknown split first unknown =>
    rw [Setting.assigned?_of_split split first, if_neg (unknown setting)]
  | @malformed other key text split first known malformed =>
    rw [Setting.assigned?_of_split split first]
    split
    · obtain rfl := Setting.eq_of_name_eq (known.symm.trans ‹_›)
      exact malformed
    · rfl

/-- A line gives an option a value, or it is idle. -/
theorem idle_or_assigns (line : List Char) :
    Idle line ∨ ∃ (setting : Setting) (value : setting.Value), setting.Assigns line value := by
  by_cases split : '=' ∈ Blank.trim (stripComment line)
  · obtain ⟨key, text, split, first⟩ := List.eq_append_cons_of_mem split
    by_cases known : ∃ setting : Setting, lower (Blank.trim key) = setting.name
    · obtain ⟨setting, known⟩ := known
      rcases read : setting.read? (Blank.trim text) with _ | value
      · exact .inl (.malformed split first known read)
      · exact .inr ⟨setting, value, key, text, split, first, known, read⟩
    · exact .inl (.unknown split first fun setting same => known ⟨setting, same⟩)
  · exact .inl (.other split)

end Idle

/-! ### The whole text -/

section Parse

variable {text other : String} {before after : List (List Char)} {line next : List Char}

theorem parse_congr (same : ∀ setting : Setting, (lines text.toList).filterMap setting.assigned? =
    (lines other.toList).filterMap setting.assigned?) : (parse text).1 = (parse other).1 := by
  apply Setting.ext_get
  intro setting
  rw [Setting.get_parse, Setting.get_parse, same setting]

/-- Two lines that give no option a value both may change places. -/
theorem parse_swap (lines_text : lines text.toList = before ++ line :: next :: after)
    (lines_other : lines other.toList = before ++ next :: line :: after)
    (apart : ∀ (setting : Setting) (value another : setting.Value), setting.Assigns line value →
      ¬ setting.Assigns next another) :
    (parse text).1 = (parse other).1 := by
  apply parse_congr
  intro setting
  have silent : setting.assigned? line = none ∨ setting.assigned? next = none := by
    rcases given : setting.assigned? line with _ | value
    · exact .inl rfl
    · exact .inr (Setting.assigned?_eq_none_iff.mpr fun another =>
        apart setting value another (Setting.assigned?_eq_some_iff.mp given))
  rw [lines_text, lines_other]
  rcases silent with silent | silent <;> simp [List.filterMap_cons, silent]

/-- An idle line may stand anywhere. -/
theorem parse_insert (lines_text : lines text.toList = before ++ after)
    (lines_other : lines other.toList = before ++ line :: after) (idle : Idle line) :
    (parse text).1 = (parse other).1 := by
  apply parse_congr
  intro setting
  rw [lines_text, lines_other]
  simp [idle.assigned?_eq_none setting]

end Parse

/-- **Each option is what the last good line for it says.**  It depends on no other line.  So lines
that set different options may change places, and idle lines may stand anywhere. -/
theorem parse_by_last_good_lines :
    (∀ (text : String) (setting : Setting),
      (∃ before line after, lines text.toList = before ++ line :: after ∧
        setting.Assigns line (setting.get (parse text).1) ∧
        ∀ later ∈ after, ∀ value, ¬ setting.Assigns later value) ∨
      (∀ line ∈ lines text.toList, ∀ value, ¬ setting.Assigns line value) ∧
        setting.get (parse text).1 = setting.get {}) ∧
    (∀ (text other : String) (setting : Setting),
      (lines text.toList).filterMap setting.assigned? =
        (lines other.toList).filterMap setting.assigned? →
      setting.get (parse text).1 = setting.get (parse other).1) ∧
    (∀ (text other : String) (before : List (List Char)) (line next : List Char)
      (after : List (List Char)), lines text.toList = before ++ line :: next :: after →
      lines other.toList = before ++ next :: line :: after →
      (∀ (setting : Setting) (value another : setting.Value), setting.Assigns line value →
        ¬ setting.Assigns next another) → (parse text).1 = (parse other).1) ∧
    ∀ (text other : String) (before : List (List Char)) (line : List Char)
      (after : List (List Char)), lines text.toList = before ++ after →
      lines other.toList = before ++ line :: after → Idle line →
      (parse text).1 = (parse other).1 := by
  refine ⟨fun text setting => setting.get_parse_cases text, fun text other setting same => ?_,
    fun text other before line next after => parse_swap,
    fun text other before line after => parse_insert⟩
  rw [Setting.get_parse, Setting.get_parse, same]

/-- A name in capitals, a value with an `=`, a comment, and a number that is none. -/
theorem parse_by_last_good_lines_motd :
    (parse "motd=a\nMaxPlayers = 5 # five\nMOTD = b=c").1 =
        (parse "MaxPlayers = 5 # five\nmotd=a\nMOTD = b=c").1 ∧
      (parse "motd=a\nMaxPlayers = 5 # five\nMOTD = b=c").1 =
        (parse "motd=a\nMaxPlayers = 5 # five\nmaxplayers=six\nMOTD = b=c").1 ∧
      Setting.motd.get (parse "motd=a\nMaxPlayers = 5 # five\nMOTD = b=c").1 =
        Setting.motd.get (parse "motd=a\nmotd=b=c").1 := by
  obtain ⟨-, depends, swap, insert⟩ := parse_by_last_good_lines
  refine ⟨swap _ _ [] "motd=a".toList "MaxPlayers = 5 # five".toList ["MOTD = b=c".toList]
    (by decide) (by decide) ?_, insert _ _ ["motd=a".toList, "MaxPlayers = 5 # five".toList]
    "maxplayers=six".toList ["MOTD = b=c".toList] (by decide) (by decide) ?_,
    depends _ _ .motd (by rfl)⟩
  · intro setting value another given other
    rw [← Setting.assigned?_eq_some_iff] at given other
    cases setting with
    | motd => cases other
    | _ => cases given
  · exact @Idle.malformed _ .maxPlayers "maxplayers".toList "six".toList (by decide) (by decide)
      (by decide) (by decide)

end GameTransport.Options
