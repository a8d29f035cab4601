import Annex.Server.Config

namespace Annex.Desktop

open Annex.Server

/-! What the desktop application does to the configuration when it starts. -/

/-- The configuration of a first start, up to the path of the database. -/
def linesBefore : List String :=
  ["# Annex desktop configuration (auto-generated).",
   "",
   "[server]",
   "host = \"127.0.0.1\"",
   "port = 0",
   "",
   "[database]"]

def linesAfter : List String :=
  ["busy_timeout_ms = 5000",
   "pool_max_size = 8",
   "",
   "[logging]",
   "level = \"info\"",
   "json = false",
   "",
   "[cors]",
   "# Desktop defaults: allow Tauri webview origins (macOS/Linux + Windows).",
   "# Override with ANNEX_CORS_ORIGINS env var if needed.",
   "allowed_origins = [\"tauri://localhost\", \"https://tauri.localhost\", " ++
    "\"http://tauri.localhost\"]",
   "",
   "# [livekit]",
   "# Uncomment and configure to enable voice channels (LiveKit WebRTC).",
   "# url = \"ws://localhost:7880\"",
   "# api_key = \"\"",
   "# api_secret = \"\"",
   "# token_ttl_seconds = 3600",
   "#",
   "# STUN/TURN servers for WebRTC NAT traversal. Defaults to Google STUN.",
   "# Add TURN servers for restrictive corporate networks that block UDP.",
   "# [[livekit.ice_servers]]",
   "# urls = [\"stun:stun.l.google.com:19302\", \"stun:stun1.l.google.com:19302\"]",
   "#",
   "# [[livekit.ice_servers]]",
   "# urls = [\"turn:turn.example.com:3478?transport=udp\", " ++
    "\"turns:turn.example.com:5349?transport=tcp\"]",
   "# username = \"your-turn-username\"",
   "# credential = \"your-turn-credential\""]

def defaultLines (dbPath : String) : List String :=
  linesBefore ++ ["path = \"" ++ dbPath ++ "\""] ++ linesAfter

/-- The configuration of a first start. -/
def defaultContents (dbPath : String) : String :=
  String.join ((defaultLines dbPath).map (· ++ "\n"))

def repairError (configPath error : String) : String :=
  "failed to fix backslash paths in config " ++ configPath ++ ": " ++ error

def fixBackslashPaths (configPath : String) (system : FileSystem) :
    Except String Unit × FileSystem :=
  match system.readToString configPath with
  | .ok contents =>
      if hasDrivePattern contents then
        match system.write configPath (withForwardSlashes contents) with
        | (.ok (), system) => (.ok (), system)
        | (.error error, system) =>
            (.error (repairError configPath error), system)
      else
        (.ok (), system)
  | .error .notFound => (.ok (), system)
  | .error (.other error) =>
      (.error ("failed to read config at " ++ configPath ++ ": " ++ error), system)

/-- The end of `ensure_config`, which both of its branches reach. -/
def fixedConfig (configPath : String) (system : FileSystem) : Except String String × FileSystem :=
  match fixBackslashPaths configPath system with
  | (.ok (), system) => (.ok configPath, system)
  | (.error error, system) => (.error error, system)

/-- `join` is `Path::join` of the operating system. -/
def ensureConfig (join : String → String → String) (dataDir : String) (system : FileSystem) :
    Except String String × FileSystem :=
  let configPath := join dataDir "config.toml"
  if system.isPresent configPath then
    fixedConfig configPath system
  else
    let contents := defaultContents (withForwardSlashes (join dataDir "annex.db"))
    match system.write configPath contents with
    -- The directory of uploads, which is then created, holds no file that is read here.
    | (.ok (), system) => fixedConfig configPath system
    | (.error error, system) =>
        (.error ("failed to write default config to " ++ configPath ++ ": " ++ error), system)

section Repair

variable {configPath contents : String} {system : FileSystem}

theorem fixedConfig_of_plain (read : system.readToString configPath = .ok contents)
    (plain : hasDrivePattern contents = false) :
    fixedConfig configPath system = (.ok configPath, system) := by
  simp [fixedConfig, fixBackslashPaths, read, plain]

end Repair

section Start

variable {join : String → String → String} {dataDir contents : String} {system : FileSystem}

theorem backslash_notMem_defaultLines {dbPath line : String} (absent : '\\' ∉ dbPath.toList)
    (member : line ∈ defaultLines dbPath) : '\\' ∉ line.toList := by
  have fixedLines : ∀ line ∈ linesBefore ++ linesAfter, '\\' ∉ line.toList := by
    decide +kernel
  simp only [defaultLines, List.mem_append, List.mem_singleton] at member
  rcases member with (before | isPath) | after
  · exact fixedLines line (List.mem_append_left linesAfter before)
  · rw [isPath]
    simp [absent]
  · exact fixedLines line (List.mem_append_right linesBefore after)

theorem backslash_notMem_defaultContents {dbPath : String} (absent : '\\' ∉ dbPath.toList) :
    '\\' ∉ (defaultContents dbPath).toList := by
  simp only [defaultContents, String.toList_join, List.mem_flatMap, List.mem_map]
  rintro ⟨_, ⟨line, member, rfl⟩, inLine⟩
  have absentInLine := backslash_notMem_defaultLines absent member
  simp [absentInLine] at inLine

/-- A first start writes the defaults, which need no repair. -/
theorem ensureConfig_of_absent (absent : system.isPresent (join dataDir "config.toml") = false)
    {after : FileSystem}
    (written : system.write (join dataDir "config.toml")
      (defaultContents (withForwardSlashes (join dataDir "annex.db"))) = (.ok (), after)) :
    ensureConfig join dataDir system = (.ok (join dataDir "config.toml"), after) := by
  have read := FileSystem.readToString_write (by rw [written])
  have plain := hasDrivePattern_of_notMem
    (backslash_notMem_defaultContents
      (backslash_notMem_withForwardSlashes (join dataDir "annex.db")))
  rw [written] at read
  simp [ensureConfig, absent, written, fixedConfig_of_plain read plain]

end Start

namespace Sample

/-- The path between the quotes of a literal string, as in the texts below. -/
def parse (text : String) : Except String Config :=
  match text.toList.splitOn '\'' with
  | [_, path, _] => .ok { database := { path := String.ofList path } }
  | _ => .error "expected a literal string"

def contents : String := "[database]\npath = 'C:\\data\\annex.db'\n"

def fixed : String := "[database]\npath = 'C:/data/annex.db'\n"

def system : FileSystem := FileSystem.holding "Annex/config.toml" contents

def join (directory name : String) : String := directory ++ "/" ++ name

end Sample

end Annex.Desktop
