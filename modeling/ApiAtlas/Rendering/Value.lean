import ApiAtlas.Json.Printer
import ApiAtlas.Rendering.Calendar

/-!
# Readable values

A renderer is a hint how a returned value is shown. It applies to numbers; every other value, and a
number that a renderer cannot show, is written as it came.
-/

namespace ApiAtlas.Rendering

inductive Renderer where
  | none
  | bytes
  | duration
  | percentage
  | timestamp
  | other (name : String)
  deriving DecidableEq, Repr

def Renderer.ofHint : Option String → Renderer
  | .none | some "" => .none
  | some "bytes" => .bytes
  | some "duration" => .duration
  | some "percentage" | some "fraction_as_percentage" => .percentage
  | some "timestamp" | some "timestamp_gmt" => .timestamp
  | some name => .other name

def Renderer.toJson : Renderer → Json
  | .none => .str "none"
  | .bytes => .str "bytes"
  | .duration => .str "duration"
  | .percentage => .str "percentage"
  | .timestamp => .str "timestamp"
  | .other name => .obj [("other", .str name)]

/-- A size in a unit, or in the next one while it is 1024 or more. -/
def sizeText (size : Binary64) (unit : String) : List String → String
  | [] => size.fixedText 2 ++ " " ++ unit
  | next :: larger =>
    if size.atLeast 1024 then sizeText (size.divNat 1024) next larger
    else size.fixedText 2 ++ " " ++ unit

/-- A number of bytes: whole below 1024, otherwise with two places in a larger unit. -/
def bytesText (bytes : Binary64) : String :=
  if bytes.atLeast 1024 then sizeText (bytes.divNat 1024) "KiB" ["MiB", "GiB", "TiB", "PiB"]
  else toString bytes.toSignedWord ++ " B"

/-- Hours, minutes and seconds with two digits each, and days in front if there are any. -/
def clockText (total : Nat) : String :=
  let clock := padded 2 (total % 86400 / 3600) ++ ":" ++ padded 2 (total % 3600 / 60) ++ ":" ++
    padded 2 (total % 60)
  let days := total / 86400
  if 0 < days then toString days ++ "d " ++ clock else clock

def numberText? (renderer : Renderer) (x : Binary64) : Option String :=
  match renderer with
  | .bytes => some (bytesText x)
  | .duration => some (clockText x.toUnsignedWord)
  | .percentage => some ((x.mulNat 100).fixedText 2 ++ "%")
  | .timestamp => timestampText? x.toSignedWord
  | .none | .other _ => .none

/-- A value as it came: a string without quotes, nothing for null. -/
def rawText : Json → String
  | .str s => s
  | .null => ""
  | v => v.compact

def valueText (renderer : Renderer) (v : Json) : String :=
  (v.number?.bind (numberText? renderer)).getD (rawText v)

end ApiAtlas.Rendering
