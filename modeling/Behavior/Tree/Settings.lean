import Behavior.Decimal.Style
import Behavior.Text.Layout

namespace Behavior

/-- Settings name a tree, tell whether it resets when its root has finished, bound the time of
one tick and ask for records of all ticks. -/
structure Settings where
  name : String
  resetOnComplete : Bool
  maxDeltaTime : Option Float32
  traceTicks : Bool
  deriving DecidableEq

/-- A bound on the delta time is positive and finite. -/
inductive SettingsError where
  | unreadable
  | invalidMaxDeltaTime (seconds : Float32)

namespace Settings

def standard : Settings := ⟨"main", true, none, false⟩

def validate (settings : Settings) : Except SettingsError Unit :=
  match settings.maxDeltaTime with
  | some seconds =>
      if seconds.isFinite ∧ 0 < seconds then .ok () else .error (.invalidMaxDeltaTime seconds)
  | none => .ok ()

/-- A negative delta time and one that is no number count as no time, and the bound applies
to the rest. -/
def clamp (settings : Settings) (deltaTime : Float32) : Float32 :=
  let elapsed := if 0 < deltaTime then deltaTime else 0
  match settings.maxDeltaTime with
  | some seconds => if seconds < elapsed then seconds else elapsed
  | none => elapsed

/-- Equal settings have the same texts and flags, and bounds that compare as equal. -/
def same (first second : Settings) : Bool :=
  first.name == second.name && first.resetOnComplete == second.resetOnComplete &&
    first.maxDeltaTime == second.maxDeltaTime && first.traceTicks == second.traceTicks

def layout (settings : Settings) : Text.Layout :=
  .record "TreeConfig" [
    ("name", .quoted settings.name),
    ("reset_on_complete", .atom (toString settings.resetOnComplete)),
    ("max_delta_time",
      .option (settings.maxDeltaTime.map fun seconds => .atom (Decimal.Style.exact.write seconds))),
    ("trace_ticks", .atom (toString settings.traceTicks))]

end Settings

def SettingsError.message : SettingsError → String
  | unreadable => "the document does not describe settings"
  | invalidMaxDeltaTime seconds =>
      "max_delta_time must be positive and finite, got " ++ Decimal.Style.plain.write seconds

end Behavior
