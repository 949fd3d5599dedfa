import GameTransport.ServerConfig
import GameTransport.Text.Blank
import GameTransport.Text.Quoted
import GameTransport.Text.Utf8

/-!
# Options

A file of lines `name = value` sets the options of a server.

A `#` that is the first thing on a line, or stands alone between blanks, starts a comment; any
other belongs to the value.  Names are read without regard to case.  A line without `=`, a name
that is no option and a value that is malformed change nothing; each is noted.
-/

namespace GameTransport

structure Options where
  serverIp : IpAddress := ServerConfig.standard.bindAddress.ip
  serverPort : UInt16 := ServerConfig.standard.bindAddress.port
  maxConnections : UInt64 := ServerConfig.standard.maxConnections
  backlog : UInt32 := ServerConfig.standard.backlog
  readTimeoutSeconds : UInt64 := UInt64.ofNat ServerConfig.standard.readTimeout.seconds
  workerThreads : UInt64 := ServerConfig.standard.workerThreads
  onlineMode : Bool := ServerConfig.standard.onlineMode
  compressionThreshold : Option UInt64 := ServerConfig.standard.compressionThreshold
  compressionLevel : UInt32 := ServerConfig.standard.compressionLevel
  motd : String := ServerConfig.standard.motd
  maxPlayers : UInt64 := ServerConfig.standard.maxPlayers
  versionName : String := ServerConfig.standard.versionName
  protocolVersion : Int32 := ServerConfig.standard.protocolVersion
  deriving DecidableEq, Repr

namespace Options

/-! ### Lines -/

/-- The lines of a text.  The last may be empty, and an empty line says nothing; a carriage return
before a line feed is a blank at the end of its line, where blanks do not matter. -/
def lines (text : List Char) : List (List Char) := text.splitOn '\n'

/-- Whether a comment starts at a `#`, given the character before it and those after it. -/
def startsComment (before : Option Char) (after : List Char) : Bool :=
  before.any Blank.isBlank && after.head?.all Blank.isBlank

/-- The place of the first `#` that stands alone.  `before` is the character before those given,
and `index` the number of those before. -/
def commentFrom (before : Option Char) (index : Nat) : List Char → Option Nat
  | [] => none
  | c :: rest =>
    if c == '#' && startsComment before rest then some index
    else commentFrom (some c) (index + 1) rest

/-- A line without its comment. -/
def stripComment (line : List Char) : List Char :=
  if (Blank.trimStart line).head? = some '#' then []
  else match commentFrom none 0 line with
    | some index => line.take index
    | none => line

/-- What a line says. -/
inductive Line where
  | empty
  /-- Text without `=`. -/
  | other (text : List Char)
  | assignment (name value : List Char)
  deriving DecidableEq, Repr

def Line.ofChars (line : List Char) : Line :=
  let text := Blank.trim (stripComment line)
  if text.isEmpty then .empty
  else
    match text.span (· != '=') with
    | (_, []) => .other text
    | (name, _ :: value) => .assignment (Blank.trim name) (Blank.trim value)

/-! ### Values -/

def lower (cs : List Char) : String := String.ofList (cs.map Char.toLower)

def flag? (value : List Char) : Option Bool :=
  match lower value with
  | "true" | "yes" | "on" | "1" => some true
  | "false" | "no" | "off" | "0" => some false
  | _ => none

/-- A threshold, or a word that switches compression off. -/
def threshold? (value : List Char) : Option (Option UInt64) :=
  match lower value with
  | "off" | "none" | "-1" => some none
  | _ => (Numeral.u64? value).map some

/-- What an assignment comes to. -/
inductive Outcome where
  /-- No option has the name. -/
  | unknown
  /-- The value is none of the option's type. -/
  | malformed
  | set (options : Options)

/-- Sets an option, if the value was read. -/
def Outcome.ofValue {α : Type} (value : Option α) (set : α → Options) : Outcome :=
  match value with
  | some v => .set (set v)
  | none => .malformed

/-- The options with one of them set. -/
def assign (options : Options) (name value : List Char) : Outcome :=
  match lower name with
  | "serverip" => .ofValue (IpAddress.ofText? value) fun v => { options with serverIp := v }
  | "serverport" => .ofValue (Numeral.u16? value) fun v => { options with serverPort := v }
  | "maxconnections" => .ofValue (Numeral.u64? value) fun v => { options with maxConnections := v }
  | "backlog" => .ofValue (Numeral.u32? value) fun v => { options with backlog := v }
  | "readtimeout" => .ofValue (Numeral.u64? value) fun v => { options with readTimeoutSeconds := v }
  | "workerthreads" => .ofValue (Numeral.u64? value) fun v => { options with workerThreads := v }
  | "onlinemode" => .ofValue (flag? value) fun v => { options with onlineMode := v }
  | "compressionthreshold" =>
    .ofValue (threshold? value) fun v => { options with compressionThreshold := v }
  | "compressionlevel" =>
    .ofValue (Numeral.u32? value) fun v => { options with compressionLevel := v }
  | "motd" => .set { options with motd := String.ofList value }
  | "maxplayers" => .ofValue (Numeral.u64? value) fun v => { options with maxPlayers := v }
  | "versionname" => .set { options with versionName := String.ofList value }
  | "protocolversion" =>
    .ofValue (Numeral.i32? value) fun v => { options with protocolVersion := v }
  | _ => .unknown

/-! ### The file -/

/-- The options after a line, and what is noted about it. -/
def applyLine (options : Options) (line : List Char) : Options × List Note :=
  match Line.ofChars line with
  | .empty => (options, [])
  | .other text =>
    (options, [.debug ("Skipping config line without '=': " ++ String.ofList text)])
  | .assignment name value =>
    match options.assign name value with
    | .unknown =>
      (options, [.debug ("Unknown config option: " ++ String.ofList name ++ " = "
        ++ String.ofList value)])
    | .malformed =>
      (options, [.warn ("Ignoring malformed value for " ++ String.ofList name ++ ": "
        ++ Quoted.quote (String.ofList value))])
    | .set options => (options, [])

/-- The options after some lines, `noted` holding the notes so far, last first. -/
def applyLines (noted : List Note) (options : Options) : List (List Char) → Options × List Note
  | [] => (options, noted.reverse)
  | line :: rest =>
    let (options, notes) := options.applyLine line
    applyLines (notes.reverse ++ noted) options rest

/-- The options that a text sets, and the notes. -/
def parse (text : String) : Options × List Note := applyLines [] {} (lines text.toList)

/-- Why no options could be read from a file. -/
inductive LoadFault where
  | missing
  | notText
  deriving DecidableEq, Repr

/-- `path` is shown as it was given. -/
def LoadFault.message (path : String) : LoadFault → String
  | missing => "Failed to read " ++ path ++ ": No such file or directory (os error 2)"
  | notText => "Failed to read " ++ path ++ ": stream did not contain valid UTF-8"

/-- The options that a file sets; `content` is none if there is no file. -/
def load (content : Option Bytes) : Except LoadFault (Options × List Note) :=
  match content with
  | none => .error .missing
  | some content =>
    match Utf8.decode content with
    | .ok text => .ok (parse text)
    | .error _ => .error .notText

/-- The same, but a file that is not there sets no option. -/
def loadOrDefault (path : String) (content : Option Bytes) :
    Except LoadFault (Options × List Note) :=
  match content with
  | none => .ok ({}, [.info (path ++ " not found, using default options")])
  | some content => load (some content)

/-! ### Use -/

def bindAddress (options : Options) : SocketAddress where
  ip := options.serverIp
  port := options.serverPort

def toConfig (options : Options) : ServerConfig where
  bindAddress := options.bindAddress
  maxConnections := options.maxConnections
  backlog := options.backlog
  readTimeout := .ofSeconds options.readTimeoutSeconds.toNat
  workerThreads := options.workerThreads
  compressionThreshold := options.compressionThreshold
  compressionLevel := options.compressionLevel
  onlineMode := options.onlineMode
  motd := options.motd
  maxPlayers := options.maxPlayers
  versionName := options.versionName
  protocolVersion := options.protocolVersion

/-- The configuration that options describe, if it has no problem. -/
def config (options : Options) : Except ServerConfig.Problem ServerConfig :=
  let config := options.toConfig
  match config.problem? with
  | some problem => .error problem
  | none => .ok config

/-- A summary for the operator. -/
def summary (options : Options) : List Note :=
  let number (n : UInt64) : String := toString n.toNat
  let workers := if options.workerThreads = 0 then "auto" else number options.workerThreads
  let compression := match options.compressionThreshold with
    | some threshold =>
      "threshold " ++ number threshold ++ " bytes, level "
        ++ toString options.compressionLevel.toNat
    | none => "off"
  [.info "Server options:",
    .info ("  Bind: " ++ options.bindAddress.text),
    .info ("  Connections: max " ++ number options.maxConnections ++ ", backlog "
      ++ toString options.backlog.toNat ++ ", idle timeout " ++ number options.readTimeoutSeconds
      ++ "s"),
    .info ("  Workers: " ++ workers),
    .info ("  Online mode: " ++ (if options.onlineMode then "true" else "false")),
    .info ("  Compression: " ++ compression),
    .info ("  Server list: \"" ++ options.motd ++ "\" (" ++ options.versionName ++ " "
      ++ toString options.protocolVersion.toInt ++ "), " ++ number options.maxPlayers
      ++ " players")]

end Options

end GameTransport
