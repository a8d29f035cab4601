import Annex.Foundation.FileSystem
import Annex.Server.IpAddr
import Mathlib.Data.List.Infix

namespace Annex.Server

/-! Loading of the configuration from its file, up to what the environment overrides. -/

structure ServerConfig where
  host : IpAddr := .v4 0x7F000001
  port : BitVec 16 := 3000
  retentionCheckIntervalSeconds : BitVec 64 := 3600
  inactivityThresholdSeconds : BitVec 64 := 300
  publicUrl : String := ""
  merkleTreeDepth : BitVec 64 := 20
  presenceBroadcastCapacity : BitVec 64 := 256
deriving DecidableEq, Repr

structure DatabaseConfig where
  path : String := "annex.db"
  busyTimeoutMs : BitVec 64 := 5000
  poolMaxSize : BitVec 32 := 8
deriving DecidableEq, Repr

structure LoggingConfig where
  level : String := "info"
  json : Bool := false
deriving DecidableEq, Repr

structure IceServer where
  urls : List String
  username : String
  credential : String
deriving DecidableEq, Repr

structure LiveKitConfig where
  url : String := "ws://localhost:7880"
  publicUrl : String := ""
  apiKey : String := "devkey"
  apiSecret : String := "secret"
  tokenTtlSeconds : BitVec 64 := 3600
  iceServers : List IceServer :=
    [{ urls := ["stun:stun.l.google.com:19302", "stun:stun1.l.google.com:19302"]
       username := ""
       credential := "" }]
deriving DecidableEq, Repr

structure VoicePathsConfig where
  ttsVoicesDir : String := "assets/voices"
  ttsBinaryPath : String := "assets/piper/piper"
  sttModelPath : String := "assets/models/ggml-base.en.bin"
  sttBinaryPath : String := "assets/whisper/whisper"
  barkBinaryPath : String := "assets/bark/bark_tts.py"
deriving DecidableEq, Repr

structure CorsConfig where
  allowedOrigins : List String := []
deriving DecidableEq, Repr

structure SecurityConfig where
  enforceZkProofs : Bool := false
deriving DecidableEq, Repr

/-- The configuration, with the defaults of every field. -/
structure Config where
  server : ServerConfig := {}
  database : DatabaseConfig := {}
  logging : LoggingConfig := {}
  livekit : LiveKitConfig := {}
  voice : VoicePathsConfig := {}
  cors : CorsConfig := {}
  security : SecurityConfig := {}
deriving DecidableEq, Repr

section Repair

/-- `contents.contains(":\\")`. -/
def hasDrivePattern (contents : String) : Bool :=
  decide ([':', '\\'] <:+: contents.toList)

def forwardSlash (character : Char) : Char := if character = '\\' then '/' else character

/-- `replace('\\', "/")`. -/
def withForwardSlashes (contents : String) : String := contents.map forwardSlash

variable {contents : String}

theorem forwardSlash_ne (character : Char) : forwardSlash character ≠ '\\' := by
  unfold forwardSlash
  split
  · decide
  · assumption

theorem backslash_notMem_withForwardSlashes (contents : String) :
    '\\' ∉ (withForwardSlashes contents).toList := by
  simp [withForwardSlashes, forwardSlash_ne]

theorem backslash_mem_of_hasDrivePattern (pattern : hasDrivePattern contents = true) :
    '\\' ∈ contents.toList := by
  have infixOf : [':', '\\'] <:+: contents.toList := of_decide_eq_true pattern
  exact infixOf.subset (by simp)

theorem hasDrivePattern_of_notMem (absent : '\\' ∉ contents.toList) :
    hasDrivePattern contents = false := by
  cases pattern : hasDrivePattern contents with
  | false => rfl
  | true => exact absurd (backslash_mem_of_hasDrivePattern pattern) absent

end Repair

section Load

-- `toml::from_str`, with the error as it is shown.
variable (parse : String → Except String Config)

variable {parse} {path contents : String} {system : FileSystem}

end Load

end Annex.Server
