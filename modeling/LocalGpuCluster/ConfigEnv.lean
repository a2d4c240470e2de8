/-
This file models `write_config_env` of `swap-chat-model.sh`, which rewrites `config.env` for a
profile. The file is taken as the text it decodes to: reading bytes that are none is a failure to
read. A file is opened in text mode, which turns every line break into a line feed.
-/

import LocalGpuCluster.ChatSwap
import LocalGpuCluster.FirstWins
import LocalGpuCluster.LineLayout

namespace LocalGpuCluster

namespace ConfigEnv

open ChatSwap (Settings Profile getProfile)
open LineLayout

/-! ### The keys -/

/-- The keys of `targets`. -/
inductive ConfigKey where
  | hfRepo
  | hfQuant
  | modelAlias
  | tensorSplit
  | ctx
  | parallel
  | cacheReuse
  | kvType
  | splitMode
  | specType
  | specNmax
  | mmproj
  | mmprojDevice
  | visionEnabled
  | chatTemplate
  deriving DecidableEq, Repr

/-- The keys in the order of `targets`. -/
def configKeys : List ConfigKey :=
  [.hfRepo, .hfQuant, .modelAlias, .tensorSplit, .ctx, .parallel, .cacheReuse, .kvType, .splitMode,
    .specType, .specNmax, .mmproj, .mmprojDevice, .visionEnabled, .chatTemplate]

namespace ConfigKey

def name : ConfigKey → Text
  | .hfRepo => text "LLAMA_HF_REPO"
  | .hfQuant => text "LLAMA_HF_QUANT"
  | .modelAlias => text "LLAMA_ALIAS"
  | .tensorSplit => text "LLAMA_TENSOR_SPLIT"
  | .ctx => text "LLAMA_CTX"
  | .parallel => text "LLAMA_PARALLEL"
  | .cacheReuse => text "LLAMA_CACHE_REUSE"
  | .kvType => text "LLAMA_KV_TYPE"
  | .splitMode => text "LLAMA_SPLIT_MODE"
  | .specType => text "LLAMA_SPEC_TYPE"
  | .specNmax => text "LLAMA_SPEC_NMAX"
  | .mmproj => text "LLAMA_MMPROJ"
  | .mmprojDevice => text "LLAMA_MMPROJ_DEVICE"
  | .visionEnabled => text "ROUTER_VISION_ENABLED"
  | .chatTemplate => text "LLAMA_CHAT_TEMPLATE"

/-- `targets[key]`. -/
def value (settings : Settings) : ConfigKey → Text
  | .hfRepo => text settings.hfRepo
  | .hfQuant => text settings.hfQuant
  | .modelAlias => text settings.modelAlias
  | .tensorSplit => text settings.tensorSplit
  | .ctx => decimal settings.ctx
  | .parallel => decimal settings.parallel
  | .cacheReuse => text settings.cacheReuse
  | .kvType => text settings.kvType
  | .splitMode => text settings.splitMode
  | .specType => text settings.specType
  | .specNmax => text settings.specNmax
  | .mmproj => text settings.mmproj
  | .mmprojDevice => text settings.mmprojDevice
  | .visionEnabled => text (if settings.visionEnabled then "1" else "0")
  | .chatTemplate => text settings.chatTemplate

/-- `f"{key}={targets[key]}"`. -/
def line (settings : Settings) (key : ConfigKey) : Text :=
  key.name ++ text "=" ++ key.value settings

/-- The line assigns to the key. -/
def isLive (key : ConfigKey) (line : Text) : Bool :=
  (Text.stripLeft CodePoint.isSpace line).startsWith (key.name ++ text "=")

/-- The line is a commented-out assignment to the key. -/
def isCommented (key : ConfigKey) (line : Text) : Bool :=
  let stripped := Text.stripLeft CodePoint.isSpace line
  stripped.startsWith (text "# " ++ key.name ++ text "=") ||
    stripped.startsWith (text "#" ++ key.name ++ text "=")

end ConfigKey

/-- `matched`. -/
def keyOf (line : Text) : Option ConfigKey :=
  configKeys.find? fun key => key.isLive line || key.isCommented line

/-! ### The file -/

/-- `f.readlines()`. -/
def readLines (content : Text) : List Text :=
  (endedLines content).map (· ++ newline) ++ unlessEmpty (lastLine content)

def header : Text := text "# Written by scripts/swap-chat-model.sh"

/-- The appended block, after a line feed for a last line without one. -/
def appendMissing (settings : Settings) (out : List Text) (missing : List ConfigKey) : List Text :=
  if missing = [] then out
  else
    out ++ (if out.getLast?.any fun last => !newline.isSuffixOf last then [newline] else []) ++
      [newline ++ header ++ newline] ++ missing.map fun key => key.line settings ++ newline

/-- What is written for a file of these lines. -/
def render (settings : Settings) (lines : List Text) : Text :=
  let rewritten := FirstWins.rewrite keyOf (fun key => key.line settings ++ newline) [] lines
  (appendMissing settings rewritten.1 (configKeys.filter (· ∉ rewritten.2))).flatten

/-! ### Writing it -/

/-- The directory of `config.env`: the file itself, and a temporary file of this run. -/
structure Directory where
  config : Option Text
  temporary : Option Text
  deriving DecidableEq, Repr

/-- Which operations fail. What a failed write left in the temporary file is not fixed. -/
structure Faults where
  read : Bool
  mkstemp : Bool
  fdopen : Bool
  write : Option Text
  chmod : Bool
  replace : Bool
  unlink : Bool
  deriving DecidableEq, Repr

def Faults.none : Faults := ⟨false, false, false, .none, false, false, false⟩

/-- The body of the `try`, with the temporary file made, and whether it got to its end. -/
def fill (faults : Faults) (config : Option Text) (content : Text) : Directory × Bool :=
  if faults.fdopen then (⟨config, some []⟩, false)
  else
    match faults.write with
    | some part => (⟨config, some part⟩, false)
    | .none =>
        if faults.chmod || faults.replace then (⟨config, some content⟩, false)
        else (⟨some content, .none⟩, true)

/-- The `except` clause, whose own failure is passed over. -/
def cleanUp (faults : Faults) (after : Directory × Bool) : Directory × Bool :=
  if after.2 then after
  else (if faults.unlink then after.1 else { after.1 with temporary := .none }, false)

/-- `write_config_env`, and whether it returned. -/
def writeConfigEnv (settings : Settings) (faults : Faults) (config : Option Text) :
    Directory × Bool :=
  if faults.read || faults.mkstemp then (⟨config, .none⟩, false)
  else
    let lines := readLines (universal (config.getD []))
    cleanUp faults (fill faults config (render settings lines))

end ConfigEnv

end LocalGpuCluster
